import PullReview.Proofs.Duplicate.Across
import PullReview.Proofs.Embedding.Ranking
import PullReview.Proofs.Embedding.Search

/-!
# Duplicates by search

The store is asked for the nearest rows of a symbol, and rows in the same file, of another kind or
in another language are sorted out afterwards. So a symbol gets the matches among its nearest
neighbours, which need not be as many of its nearest matches: each neighbour that is sorted out
takes the place of a match further off.
-/

namespace PullReview

namespace Embedding

/-! ### Embedded symbols -/

/-- The rows of a store are the embeddings of some symbols, which have distinct ids. -/
structure Store.Embeds (store : Store) (e : Embedder) (symbols : List Symbol) : Prop where
  rows : store.rows.Perm ((e.embedAll symbols).map Entry.row)
  distinct : (symbols.map (·.id)).Nodup

/-- The embeddings of some symbols by strictly falling scores; where two have one score, there is no
such list. -/
structure RanksEntries (e : Embedder) (symbols : List Symbol) (query : List Float)
    (ranking : List Entry) : Prop where
  perm : ranking.Perm (e.embedAll symbols)
  falls : ranking.Pairwise fun a b => b.row.score query < a.row.score query

private theorem map_fst_embedAll (e : Embedder) (symbols : List Symbol) :
    (e.embedAll symbols).map (·.1) = symbols.filter fun x => (e.embedSymbol x).isSome := by
  induction symbols with
  | nil => rfl
  | cons x symbols ih =>
      rw [Embedder.embedAll] at ih ⊢
      cases hx : e.embedSymbol x with
      | none => simp [hx, ih]
      | some v => simp [hx, ih]

section

variable {e : Embedder} {symbols : List Symbol} {query : List Float} {ranking : List Entry}

private theorem RanksEntries.fst_mem (h : RanksEntries e symbols query ranking) {b : Entry}
    (hb : b ∈ ranking) : b.1 ∈ symbols := by
  have hmem : b.1 ∈ (e.embedAll symbols).map (·.1) :=
    List.mem_map_of_mem (h.perm.mem_iff.mp hb)
  rw [map_fst_embedAll] at hmem
  exact List.mem_of_mem_filter hmem

private theorem RanksEntries.map_fst_nodup (h : RanksEntries e symbols query ranking)
    (hids : (symbols.map (·.id)).Nodup) : (ranking.map (·.1)).Nodup := by
  rw [(h.perm.map (·.1)).nodup_iff, map_fst_embedAll]
  exact (List.Nodup.of_map _ hids).filter _

theorem RanksEntries.nodup (h : RanksEntries e symbols query ranking) : ranking.Nodup := by
  refine h.falls.imp ?_
  intro a b hfall heq
  rw [heq] at hfall
  exact Number.float_lt_asymm hfall hfall

private theorem RanksEntries.falls_below (h : RanksEntries e symbols query ranking) :
    (ranking.map fun b => (b.row, b.row.score query)).Pairwise
      fun a b => Store.below b.2 a.2 = true := by
  rw [List.pairwise_map]
  refine h.falls.imp ?_
  intro a b hfall
  exact decide_eq_true hfall

variable {store : Store}

private theorem Store.Embeds.ids_nodup (h : store.Embeds e symbols) :
    (store.rows.map (·.id)).Nodup := by
  have hids : ((e.embedAll symbols).map Entry.row).map (·.id) =
      ((e.embedAll symbols).map (·.1)).map (·.id) := by
    rw [List.map_map, List.map_map]
    rfl
  rw [(h.rows.map (·.id)).nodup_iff, hids, map_fst_embedAll]
  exact h.distinct.sublist (List.filter_sublist.map _)

private theorem Store.Embeds.isRanking (h : store.Embeds e symbols)
    (hranking : RanksEntries e symbols query ranking) :
    Ranking.IsRanking Store.below (store.rows.map fun r => (r, r.score query))
      (ranking.map fun b => (b.row, b.row.score query)) where
  perm := by
    have hrows := h.rows.map fun r => (r, r.score query)
    rw [List.map_map] at hrows
    exact (hranking.perm.map _).trans hrows.symm
  falls := hranking.falls_below

private theorem symbols_map_row (f : Entry → Float) (entries : List Entry) :
    Store.symbols (entries.map fun b => (b.row, f b)) = entries.map fun b => (b.1, f b) := by
  induction entries with
  | nil => rfl
  | cons b entries ih =>
      have hread := symbol?_ofSymbol b.1 b.2
      rw [Store.symbols] at ih ⊢
      simp only [List.map_cons, List.filterMap_cons, Entry.row, hread, Option.map_some]
      rw [← ih]
      rfl

end

end Embedding

namespace Duplicate.Detector

open PullReview.Embedding (Entry RanksEntries Store)

/-! ### Matches among the nearest rows -/

/-- Whether an entry makes a match: its symbol is in a different file, of the same kind and not in a
different language if that counts, and it scores above the limit. -/
def isEligible (d : Detector) (s : Symbol) (v : List Float) (b : Entry) : Bool :=
  d.comparesAcross s b.1 && decide (b.row.score v > d.limits.vector)

/-- The match that an entry makes. -/
def entryMatch (d : Detector) (s : Symbol) (v : List Float) (b : Entry) : DuplicateMatch :=
  d.found s b.1 (b.row.score v) (acrossReason b.1)

/-- The first entries of a ranking that are not the symbol itself, as many as are searched for. -/
def nearest (d : Detector) (s : Symbol) (ranking : List Entry) : List Entry :=
  (ranking.filter fun b => !(b.1.id == s.id)).take d.limits.neighbours.toNat

/-- As many entries of a ranking as are searched for, of those that make matches. -/
def wanted (d : Detector) (s : Symbol) (v : List Float) (ranking : List Entry) : List Entry :=
  (ranking.filter (d.isEligible s v)).take d.limits.neighbours.toNat

private theorem entryMatch_inj {d : Detector} {e : Embedder} {s : Symbol} {v : List Float}
    {ranking : List Entry} (hranking : RanksEntries e d.index.symbols v ranking)
    (hids : (d.index.symbols.map (·.id)).Nodup) {b b' : Entry} (hb : b ∈ ranking)
    (hb' : b' ∈ ranking) (h : d.entryMatch s v b = d.entryMatch s v b') : b = b' := by
  have hfirst : b.1 = b'.1 := congrArg DuplicateMatch.second h
  exact List.inj_on_of_nodup_map (hranking.map_fst_nodup hids) hb hb' hfirst

private theorem neighbourMatches_map (d : Detector) (s : Symbol) (v : List Float)
    (entries : List Entry) :
    d.neighbourMatches s (entries.map fun b => (b.1, b.row.score v)) =
      (entries.filter fun b => d.isIndexed b.1 && d.isEligible s v b).map (d.entryMatch s v) := by
  induction entries with
  | nil => rfl
  | cons b entries ih =>
      have hcondition : (d.comparesAcross s b.1 && d.isIndexed b.1 &&
          decide (b.row.score v > d.limits.vector)) =
          (d.isIndexed b.1 && d.isEligible s v b) := by
        rw [isEligible, Bool.and_left_comm, Bool.and_assoc]
      rw [neighbourMatches] at ih ⊢
      rw [List.map_cons, List.filterMap_cons, ih, hcondition, List.filter_cons]
      cases d.isIndexed b.1 && d.isEligible s v b with
      | false => rfl
      | true => rfl

section

variable {d : Detector} {e : Embedder} {store : Store} {s : Symbol} {m : Memory} {v : List Float}
  {ranking : List Entry}

private theorem filter_take_atLeast (hranking : RanksEntries e d.index.symbols v ranking) :
    (((ranking.filter fun b => !(b.1.id == s.id)).filter fun b =>
        !Store.below (b.row.score v) d.limits.vector).take d.limits.neighbours.toNat).filter
      (d.isEligible s v) = (d.nearest s ranking).filter (d.isEligible s v) := by
  have hclosed := List.pairwise_map.mp
    (Ranking.closed_atLeast Store.isOrder_below hranking.falls_below d.limits.vector)
  rw [Ranking.take_filter_of_closed (hclosed.sublist List.filter_sublist), List.filter_filter]
  apply List.filter_congr
  intro b _
  cases heligible : d.isEligible s v b with
  | false => rfl
  | true =>
      rw [isEligible, Bool.and_eq_true, decide_eq_true_eq] at heligible
      have habove : ¬ b.row.score v < d.limits.vector := Number.float_lt_asymm heligible.2
      simp [Store.below, habove]

/-- A search gives the matches among the nearest rows. -/
theorem bySearch?_eq (hbuilt : d.index.Built) (hstore : store.Embeds e d.index.symbols)
    (hv : m.vectorOf e s = some v) (hne : v ≠ [])
    (hranking : RanksEntries e d.index.symbols v ranking) :
    ((d.bySearch? e (.ofStore store) s).run m).1 =
      if store.searches v (d.limits.neighbours + 1) then
        some (((d.nearest s ranking).filter (d.isEligible s v)).map (d.entryMatch s v))
      else none := by
  have hsearch := Store.similarTo_ranked hstore.ids_nodup hne (hstore.isRanking hranking) s
    d.limits.neighbours d.limits.vector
  rw [(d.bySearch?_run e (.ofStore store) s m).1, hv, Option.bind_some]
  change ((store.similarTo s d.limits.neighbours d.limits.vector (some v)).toOption).map _ = _
  rw [hsearch]
  cases store.searches v (d.limits.neighbours + 1) with
  | false => rfl
  | true =>
      rw [if_pos rfl, if_pos rfl, Option.map_some, Ranking.atLeast, List.filter_map,
        List.filter_map, ← List.map_take]
      have hmem : ∀ b ∈ ((ranking.filter fun b => !(b.1.id == s.id)).filter fun b =>
          !Store.below (b.row.score v) d.limits.vector).take d.limits.neighbours.toNat,
          b.1 ∈ d.index.symbols := by
        intro b hb
        apply hranking.fst_mem
        exact List.mem_of_mem_filter (List.mem_of_mem_filter (List.mem_of_mem_take hb))
      have hindexed : ∀ x ∈ d.index.symbols, d.isIndexed x = true := by
        intro x hx
        rw [isIndexed_iff hbuilt]
        exact ⟨x, hx, rfl, rfl⟩
      refine congrArg some ?_
      refine (congrArg (d.neighbourMatches s) (Embedding.symbols_map_row _ _)).trans ?_
      rw [neighbourMatches_map, ← filter_take_atLeast hranking]
      refine congrArg (List.map (d.entryMatch s v)) (List.filter_congr ?_)
      intro b hb
      rw [hindexed b.1 (hmem b hb), Bool.true_and]

private theorem prefix_wanted (hranking : RanksEntries e d.index.symbols v ranking)
    (hown : ∀ x ∈ d.index.symbols, x.id = s.id → x.file = s.file) :
    (d.nearest s ranking).filter (d.isEligible s v) <+: d.wanted s v ranking := by
  have hother : (ranking.filter fun b => !(b.1.id == s.id)).filter (d.isEligible s v) =
      ranking.filter (d.isEligible s v) := by
    rw [List.filter_filter]
    apply List.filter_congr
    intro b hb
    cases heligible : d.isEligible s v b with
    | false => rfl
    | true =>
        rw [isEligible, Bool.and_eq_true, comparesAcross_iff] at heligible
        have hid : b.1.id ≠ s.id := by
          intro hid
          exact heligible.1.1 (hown b.1 (hranking.fst_mem hb) hid)
        simp [hid]
  rw [wanted, ← hother]
  exact Ranking.prefix_take_filter _

end

/-- A search fails if the number of rows asked for is negative or if the vector has another length
than those of the store. Else the matches are those of the nearest rows, in the order of the scores.
They are the first matches of all rows, as many as are searched for, if and only if all of these are
among the nearest rows; and they are at least the first of them if no other file has a symbol of the
same id. -/
theorem bySearch?_matches (d : Detector) (e : Embedder) (store : Store) (s : Symbol) (m : Memory)
    (v : List Float) (ranking : List Entry) (hbuilt : d.index.Built)
    (hstore : store.Embeds e d.index.symbols) (hv : m.vectorOf e s = some v) (hne : v ≠ [])
    (hranking : RanksEntries e d.index.symbols v ranking) :
    let matches? := ((d.bySearch? e (.ofStore store) s).run m).1
    let searches := store.searches v (d.limits.neighbours + 1)
    let found := (d.nearest s ranking).filter (d.isEligible s v)
    let wanted := d.wanted s v ranking
    matches? = (if searches then some (found.map (d.entryMatch s v)) else none) ∧
    (matches? = some (wanted.map (d.entryMatch s v)) ↔
      searches = true ∧ ∀ b ∈ wanted, b ∈ d.nearest s ranking) ∧
    ((∀ x ∈ d.index.symbols, x.id = s.id → x.file = s.file) → found <+: wanted) := by
  intro matches? searches found wanted
  have hmatches : matches? = if searches then some (found.map (d.entryMatch s v)) else none :=
    bySearch?_eq hbuilt hstore hv hne hranking
  refine ⟨hmatches, ?_, prefix_wanted hranking⟩
  rw [hmatches]
  constructor
  · intro heq
    cases hsearches : searches with
    | false =>
        rw [hsearches, if_neg Bool.false_ne_true] at heq
        cases heq
    | true =>
        rw [hsearches, if_pos rfl, Option.some.injEq] at heq
        refine ⟨rfl, ?_⟩
        intro b hb
        have hmem : d.entryMatch s v b ∈ found.map (d.entryMatch s v) := by
          rw [heq]
          exact List.mem_map_of_mem hb
        obtain ⟨b', hb', hsame⟩ := List.mem_map.mp hmem
        have hnearest : b' ∈ d.nearest s ranking := List.mem_of_mem_filter hb'
        have hranked : b' ∈ ranking := List.mem_of_mem_filter (List.mem_of_mem_take hnearest)
        have hranked' : b ∈ ranking := List.mem_of_mem_filter (List.mem_of_mem_take hb)
        rwa [← entryMatch_inj hranking hstore.distinct hranked hranked' hsame]
  · rintro ⟨hsearches, hall⟩
    have heq : found = wanted := (Ranking.filter_take_filter_eq_iff hranking.nodup _).mpr hall
    rw [if_pos hsearches, heq]

/-! ### A constant and a function -/

def sumFunction : Symbol where
  name := "sum"
  kind := "function"
  file := "a.py"
  startLine := 1
  endLine := 2

def totalFunction : Symbol where
  name := "total"
  kind := "function"
  file := "c.py"
  startLine := 1
  endLine := 2

def limitConstant : Symbol where
  name := "LIMIT"
  kind := "field"
  file := "b.py"
  startLine := 1
  endLine := 1

/-- Embeds all symbols alike but one. -/
def planeEmbedder : Embedder where
  key := "plane"
  embed text :=
    if text == Embedding.symbolText totalFunction then some [4.0, 3.0] else some [1.0, 0.0]

/-- An index with a constant and a function, which is searched for so many neighbours. -/
def planeDetector (neighbours : Int) : Detector where
  index := (({} : Index).add "b.py" [limitConstant] []).add "c.py" [totalFunction] []
  limits := { neighbours := neighbours }

def planeEntries : List Entry := planeEmbedder.embedAll [limitConstant, totalFunction]

def planeStore : Store := (({} : Store).write planeEntries).2

def sumVector : List Float := Embedding.unit [1.0, 0.0]

private theorem planeStore_embeds :
    planeStore.Embeds planeEmbedder [limitConstant, totalFunction] where
  rows := by
    have hwrite : (({} : Store).write planeEntries).1.isOk = true := by decide +kernel
    rw [planeStore, Store.rows_write hwrite]
    exact List.Perm.refl _
  distinct := by decide +kernel

private theorem planeEntries_ranked :
    RanksEntries planeEmbedder [limitConstant, totalFunction] sumVector planeEntries where
  perm := List.Perm.refl _
  falls := by decide +kernel

private theorem vectorOf_sumFunction :
    Memory.vectorOf {} planeEmbedder sumFunction = some sumVector := by
  have hother : Embedding.symbolText sumFunction ≠ Embedding.symbolText totalFunction := by
    decide
  simp [Memory.vectorOf, Embedder.embedSymbol, planeEmbedder, hother, sumVector]

private theorem sumVector_ne_nil : sumVector ≠ [] := by
  rw [sumVector, Embedding.unit]
  split
  · exact List.cons_ne_nil _ _
  · exact List.cons_ne_nil _ _

private theorem built_planeDetector (neighbours : Int) :
    (planeDetector neighbours).index.Built := by
  apply Index.Built.add
  · apply Index.Built.add
    · exact .empty
    · decide
  · decide

theorem function_found_behind_constant :
    (planeDetector 2).index.Built ∧
      planeStore.Embeds planeEmbedder (planeDetector 2).index.symbols ∧
      Memory.vectorOf {} planeEmbedder sumFunction = some sumVector ∧ sumVector ≠ [] ∧
      RanksEntries planeEmbedder (planeDetector 2).index.symbols sumVector planeEntries ∧
      ((planeDetector 2).wanted sumFunction sumVector planeEntries).map (·.1) = [totalFunction] ∧
      (((planeDetector 2).bySearch? planeEmbedder (.ofStore planeStore) sumFunction).run {}).1 =
        some (((planeDetector 2).wanted sumFunction sumVector planeEntries).map
          ((planeDetector 2).entryMatch sumFunction sumVector)) := by
  have hnearest : (planeDetector 2).nearest sumFunction planeEntries = planeEntries := by
    have hothers : planeEntries.filter (fun b => !(b.1.id == sumFunction.id)) = planeEntries := by
      rw [List.filter_eq_self]
      decide +kernel
    rw [nearest, hothers]
    exact List.take_of_length_le (by decide +kernel)
  have hmatches := bySearch?_matches (planeDetector 2) planeEmbedder planeStore sumFunction {}
    sumVector planeEntries (built_planeDetector 2) planeStore_embeds vectorOf_sumFunction
    sumVector_ne_nil planeEntries_ranked
  refine ⟨built_planeDetector 2, planeStore_embeds, vectorOf_sumFunction, sumVector_ne_nil,
    planeEntries_ranked, by decide +kernel, hmatches.2.1.mpr ⟨by decide +kernel, ?_⟩⟩
  intro b hb
  rw [hnearest]
  exact List.mem_of_mem_filter (List.mem_of_mem_take hb)

theorem constant_hides_function :
    (planeDetector 1).index.Built ∧
      planeStore.Embeds planeEmbedder (planeDetector 1).index.symbols ∧
      Memory.vectorOf {} planeEmbedder sumFunction = some sumVector ∧ sumVector ≠ [] ∧
      RanksEntries planeEmbedder (planeDetector 1).index.symbols sumVector planeEntries ∧
      ((planeDetector 1).wanted sumFunction sumVector planeEntries).map (·.1) = [totalFunction] ∧
      (((planeDetector 1).bySearch? planeEmbedder (.ofStore planeStore) sumFunction).run {}).1 =
        some [] := by
  have hnone : ((planeDetector 1).nearest sumFunction planeEntries).filter
      ((planeDetector 1).isEligible sumFunction sumVector) = [] := by
    rw [List.filter_eq_nil_iff]
    decide +kernel
  have hsearches : planeStore.searches sumVector (1 + 1) = true := by decide +kernel
  have hmatches := bySearch?_eq (built_planeDetector 1) planeStore_embeds vectorOf_sumFunction
    sumVector_ne_nil planeEntries_ranked
  refine ⟨built_planeDetector 1, planeStore_embeds, vectorOf_sumFunction, sumVector_ne_nil,
    planeEntries_ranked, by decide +kernel, ?_⟩
  rw [hmatches, hnone, List.map_nil]
  exact if_pos hsearches

end Duplicate.Detector

end PullReview
