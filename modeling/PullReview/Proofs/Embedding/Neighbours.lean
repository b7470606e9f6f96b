import PullReview.Proofs.Embedding.Ranking
import PullReview.Proofs.Embedding.Search

/-!
# Neighbours of a symbol

Where no two scores are the same, all rows of a store have one order. A search for the neighbours
of a symbol gives the first of them other than the symbol's own row, as far as their scores are high
enough. It does not matter whether the symbol has a row and where that row stands, because one row
more is looked at than is asked for.
-/

namespace PullReview

namespace Ranking

variable {ρ σ : Type} {less : σ → σ → Bool}

private theorem exists_isRanking (ho : IsOrder less) {items : List (ρ × σ)}
    (h : items.Pairwise fun a b => less a.2 b.2 = true ∨ less b.2 a.2 = true) :
    ∃ ranking, IsRanking less items ranking := by
  induction items with
  | nil => exact ⟨[], .nil, .nil⟩
  | cons a items ih =>
      rw [List.pairwise_cons] at h
      obtain ⟨ranking, hperm, hfalls⟩ := ih h.2
      -- The new item comes between the items above it and the others.
      let above (b : ρ × σ) : Bool := less a.2 b.2
      have hbelow : ∀ b ∈ ranking.filter (fun b => !above b), less b.2 a.2 = true := by
        intro b hb
        rw [List.mem_filter, Bool.not_eq_true'] at hb
        rcases h.1 b (hperm.mem_iff.mp hb.1) with hless | hless
        · rw [show above b = true from hless] at hb
          cases hb.2
        · exact hless
      refine ⟨ranking.filter above ++ a :: ranking.filter fun b => !above b, ?_, ?_⟩
      · exact List.perm_middle.trans
          (((List.filter_append_perm above ranking).trans hperm).cons a)
      · rw [List.pairwise_append, List.pairwise_cons]
        refine ⟨hfalls.filter _, ⟨hbelow, hfalls.filter _⟩, ?_⟩
        intro b hb c hc
        have habove : less a.2 b.2 = true := (List.mem_filter.mp hb).2
        rcases List.mem_cons.mp hc with rfl | hc
        · exact habove
        · exact ho.trans _ _ _ (hbelow c hc) habove

end Ranking

namespace Embedding.Store

/-! ### Stores without ties -/

/-- All rows with their scores, best first. -/
def ranked (s : Store) (query : List Float) : List (Row × Float) :=
  (s.rows.map fun r => (r, r.score query)).mergeSort fun a b => !below a.2 b.2

private theorem isRanking_ranked {s : Store} {query : List Float}
    (h : (s.rows.map (·.score query)).Pairwise fun a b => a < b ∨ b < a) :
    Ranking.IsRanking below (s.rows.map fun r => (r, r.score query)) (s.ranked query) := by
  have hcompared : (s.rows.map fun r => (r, r.score query)).Pairwise fun a b =>
      below a.2 b.2 = true ∨ below b.2 a.2 = true := by
    rw [List.pairwise_map] at h ⊢
    refine h.imp ?_
    intro a b hless
    simpa [below] using hless
  obtain ⟨ranking, hranking⟩ := Ranking.exists_isRanking isOrder_below hcompared
  have heq : s.ranked query = ranking := hranking.mergeSort_eq isOrder_below
  rwa [heq]

/-! ### Searches for neighbours -/

/-- Whether a vector has the length of those in a store; any has if there are none yet. -/
def fits (s : Store) (query : List Float) : Bool := s.table.all fun t => query.length == t.1

private theorem scored_of_pos (s : Store) {query : List Float} (hquery : query ≠ []) {limit : Int}
    (hlimit : 0 < limit) :
    s.scored query limit =
      if s.fits query then .ok (s.rows.map fun r => (r, r.score query))
      else .error .wrongLength := by
  obtain ⟨_ | ⟨length, old⟩⟩ := s
  · rfl
  · have hempty : query.isEmpty = false := List.isEmpty_eq_false_iff.mpr hquery
    have hnot : ¬ limit ≤ 0 := Int.not_le.mpr hlimit
    simp only [scored, fits, hempty, rows]
    by_cases hlength : query.length = length
    · simp [hnot, hlength]
    · simp [hnot, hlength]

private theorem similarTo_nil (s : Store) (x : Symbol) (limit : Int) (least : Float) :
    s.similarTo x limit least (some []) = .ok [] := by
  have hrows : s.scored [] (limit + 1) = .ok [] := by
    obtain ⟨_ | ⟨length, old⟩⟩ := s
    · rfl
    · rfl
  change (s.scored [] (limit + 1) >>= fun rows => pure (symbols (Ranking.others below
    (fun r => r.id == x.id) limit.toNat least rows))) = _
  rw [hrows, ok_bind, Ranking.others, Ranking.best, List.mergeSort_nil, List.take_nil,
    Ranking.atLeast, List.filter_nil, List.filter_nil, List.take_nil]
  rfl

private theorem symbols_of_read {found : List (Row × Float)}
    (h : ∀ r ∈ found, r.1.symbol?.isSome = true) :
    symbols found = found.map fun r => (r.1.symbol?.getD default, r.2) := by
  induction found with
  | nil => rfl
  | cons r found ih =>
      rw [List.forall_mem_cons] at h
      obtain ⟨y, hy⟩ := Option.isSome_iff_exists.mp h.1
      rw [symbols] at ih ⊢
      simp [hy, ih h.2]

/-- The rows of a store give back symbols of their ids. -/
def Reads (s : Store) : Prop := ∀ r ∈ s.rows, ∃ y, r.symbol? = some y ∧ y.id = r.id

/-- A row is left out by the id of its symbol just as by its own id, before or after it is read. -/
theorem similarTo_eq_similar {s : Store} (h : s.Reads) (x : Symbol) {k : Int} (hk : 0 ≤ k)
    (least : Float) (query : List Float) :
    s.similarTo x k least (some query) =
      (s.similar query (k + 1) least).map fun found =>
        (found.filter fun y => y.1.id != x.id).take k.toNat := by
  have hlimit : (k + 1).toNat = k.toNat + 1 := by omega
  change (s.scored query (k + 1) >>= fun rows => pure (symbols (Ranking.others below
    (fun r => r.id == x.id) k.toNat least rows))) = _
  rw [similar, hlimit]
  cases hrows : s.scored query (k + 1) with
  | error e => rfl
  | ok rows =>
      let found := Ranking.atLeast below least (Ranking.best below (k.toNat + 1) rows)
      have hread : ∀ r ∈ found, ∃ y, r.1.symbol? = some y ∧ y.id = r.1.id := fun r hr =>
        h r.1 (mem_rows_of_scored hrows r (mem_ranked hr))
      have hsome : ∀ r ∈ found, r.1.symbol?.isSome = true := by
        intro r hr
        obtain ⟨y, hy, _⟩ := hread r hr
        rw [hy]
        rfl
      have hothers : ∀ r ∈ (found.filter fun r => !(r.1.id == x.id)).take k.toNat,
          r.1.symbol?.isSome = true := fun r hr =>
        hsome r (List.mem_of_mem_filter (List.mem_of_mem_take hr))
      have hfilter : (found.filter fun r => !(r.1.id == x.id)) =
          found.filter ((fun y : Symbol × Float => y.1.id != x.id) ∘
            fun r => (r.1.symbol?.getD default, r.2)) := by
        apply List.filter_congr
        intro r hr
        obtain ⟨y, hy, hid⟩ := hread r hr
        simp [hy, hid, bne]
      rw [ok_bind, ok_bind]
      refine congrArg Except.ok ?_
      change symbols ((found.filter fun r => !(r.1.id == x.id)).take k.toNat) =
        ((symbols found).filter _).take k.toNat
      rw [symbols_of_read hothers, symbols_of_read hsome, List.filter_map, ← List.map_take, hfilter]

private theorem filter_not_below {found : List (Row × Float)} {least : Float}
    (hleast : least.isNaN = false) (h : ∀ r ∈ found, r.2.isNaN = false) :
    Ranking.atLeast below least found = found.filter fun r => least ≤ r.2 := by
  apply List.filter_congr
  intro r hr
  have hreaches := Number.float_not_lt_iff (h r hr) hleast
  rw [Bool.eq_iff_iff, decide_eq_true_eq, ← hreaches]
  simp [below]

/-- Let a store have distinct ids and no two equal scores for a vector. Its rows are then ranked in
one way. A search for so many neighbours of a symbol gives those of the ranking that are left
without the symbol's own row and without those that score too low, so many of them from the first
on; a vector of a wrong length is refused. All this is as if the symbols of one more row were
searched for and the symbol's own id was left out of them, if the rows give back symbols of their
ids. -/
theorem similarTo_first_others (s : Store) (hids : (s.rows.map (·.id)).Nodup)
    (query : List Float)
    (hties : (s.rows.map (·.score query)).Pairwise fun a b => a < b ∨ b < a)
    (x : Symbol) (k : Int) (hk : 1 ≤ k) (least : Float) :
    let others := (s.ranked query).filter fun r => !(r.1.id == x.id)
    Ranking.IsRanking below (s.rows.map fun r => (r, r.score query)) (s.ranked query) ∧
    s.similarTo x k least (some query) =
      (if query = [] then .ok []
      else if s.fits query then
        .ok (symbols ((others.filter fun r => !decide (r.2 < least)).take k.toNat))
      else .error .wrongLength) ∧
    (least.isNaN = false → (∀ r ∈ s.rows, (r.score query).isNaN = false) →
      (others.filter fun r => !decide (r.2 < least)) = others.filter fun r => least ≤ r.2) ∧
    (s.Reads → s.similarTo x k least (some query) =
      (s.similar query (k + 1) least).map fun found =>
        (found.filter fun y => y.1.id != x.id).take k.toNat) := by
  intro others
  have hranking := isRanking_ranked hties
  refine ⟨hranking, ?_, ?_, fun hreads =>
    similarTo_eq_similar hreads x (Int.le_of_lt hk) least query⟩
  · by_cases hquery : query = []
    · rw [if_pos hquery, hquery]
      exact similarTo_nil s x k least
    · rw [if_neg hquery, similarTo_eq_of_ranking hids hquery hranking,
        s.scored_of_pos hquery (Int.lt_add_one_of_le (Int.le_of_lt hk))]
      cases s.fits query with
      | false => rfl
      | true => rfl
  · intro hleast hscores
    apply filter_not_below hleast
    intro r hr
    obtain ⟨row, hrow, rfl⟩ :=
      List.mem_map.mp (hranking.perm.mem_iff.mp (List.mem_of_mem_filter hr))
    exact hscores row hrow

open PullReview.Indexing (firstConstant)

/-- Three constants whose vectors lie further and further off from the first. -/
def fanEntries : List Entry :=
  [(firstConstant "A", [1.0, 0.0]), (firstConstant "B", [4.0, 3.0]),
    (firstConstant "C", [0.0, 1.0])]

def fanStore : Store := (({} : Store).write fanEntries).2

private theorem rows_fanStore : fanStore.rows = fanEntries.map Entry.row := by
  have hwrite : (({} : Store).write fanEntries).1.isOk = true := by decide
  rw [fanStore, rows_write hwrite]
  rfl

private theorem scores_fanEntries :
    (fanEntries.Pairwise fun a b => b.row.score [1.0, 0.0] < a.row.score [1.0, 0.0]) ∧
      (fanEntries.map fun b => decide (b.row.score [1.0, 0.0] < 0.5)) = [false, false, true] := by
  decide +kernel

private theorem ranked_fanStore :
    fanStore.ranked [1.0, 0.0] = fanEntries.map fun b => (b.row, b.row.score [1.0, 0.0]) := by
  have hranking : Ranking.IsRanking below (fanStore.rows.map fun r => (r, r.score [1.0, 0.0]))
      (fanEntries.map fun b => (b.row, b.row.score [1.0, 0.0])) := by
    refine ⟨?_, ?_⟩
    · rw [rows_fanStore, List.map_map]
      exact List.Perm.refl _
    · rw [List.pairwise_map]
      exact scores_fanEntries.1.imp fun hfall => decide_eq_true hfall
  exact hranking.mergeSort_eq isOrder_below

theorem neighbour_behind_own_row :
    (fanStore.rows.map (·.id)).Nodup ∧
      ((fanStore.rows.map (·.score [1.0, 0.0])).Pairwise fun a b => a < b ∨ b < a) ∧
      (1 : Int) ≤ 2 ∧
      ∃ score, fanStore.similarTo (firstConstant "A") 2 0.5 (some [1.0, 0.0]) =
        .ok [(firstConstant "B", score)] := by
  have hids : (fanStore.rows.map (·.id)).Nodup := by decide
  have hties : (fanStore.rows.map (·.score [1.0, 0.0])).Pairwise fun a b => a < b ∨ b < a := by
    rw [rows_fanStore, List.map_map, List.pairwise_map]
    exact scores_fanEntries.1.imp .inr
  have hsearch := (similarTo_first_others fanStore hids [1.0, 0.0] hties (firstConstant "A") 2
    (by decide) 0.5).2.1
  have hread : (Entry.row (firstConstant "B", [4.0, 3.0])).symbol? = some (firstConstant "B") :=
    symbol?_ofSymbol (firstConstant "B") [4.0, 3.0]
  have hlow := scores_fanEntries.2
  simp only [fanEntries, List.map_cons, List.map_nil, List.cons.injEq, and_true] at hlow
  refine ⟨hids, hties, by decide, (Entry.row (firstConstant "B", [4.0, 3.0])).score [1.0, 0.0], ?_⟩
  rw [hsearch, if_neg (by decide), if_pos (by decide), ranked_fanStore, List.filter_map]
  have hothers : fanEntries.filter ((fun r => !(r.1.id == (firstConstant "A").id)) ∘
      fun b => (b.row, b.row.score [1.0, 0.0])) =
        [(firstConstant "B", [4.0, 3.0]), (firstConstant "C", [0.0, 1.0])] := by
    rw [fanEntries, List.filter_cons_of_neg (by decide), List.filter_cons_of_pos (by decide),
      List.filter_cons_of_pos (by decide), List.filter_nil]
  rw [hothers]
  simp [hlow.2.1, hlow.2.2, symbols, hread]

end Embedding.Store

end PullReview
