import Mathlib.Data.List.Nodup
import PullReview.Embedding.Store
import PullReview.Proofs.Failure
import PullReview.Proofs.Number.Order

/-!
# Rankings

Items whose scores all differ are ranked in one way. The best of them are the first of the ranking,
whatever order they come in, and a bound on the scores cuts the ranking at one place. So looking at
one item more than is asked for makes up for leaving one out.
-/

namespace PullReview

namespace Ranking

/-! ### Parts of a list -/

section

variable {α : Type} {p q : α → Bool} {xs : List α}

/-- If a property of an item passes on to all items before it, it does not matter whether the first
items are taken before or after those with the property. -/
theorem take_filter_of_closed (h : xs.Pairwise fun a b => p b = true → p a = true) (n : Nat) :
    (xs.filter p).take n = (xs.take n).filter p := by
  induction xs generalizing n with
  | nil => simp
  | cons a xs ih =>
      rw [List.pairwise_cons] at h
      cases n with
      | zero => rfl
      | succ n =>
          cases hp : p a with
          | true => simp [hp, ih h.2]
          | false =>
              have hrest : xs.filter p = [] := by
                rw [List.filter_eq_nil_iff]
                intro b hb hpb
                rw [h.1 b hb hpb] at hp
                cases hp
              have hfirst : (xs.take n).filter p = [] := by rw [← ih h.2 n, hrest, List.take_nil]
              simp [hp, hrest, hfirst]

/-- One item more is enough if at most one is left out. -/
theorem take_filter_take_succ (h : xs.countP (fun a => !p a) ≤ 1) (n : Nat) :
    ((xs.take (n + 1)).filter p).take n = (xs.filter p).take n := by
  induction xs generalizing n with
  | nil => rfl
  | cons a xs ih =>
      cases hp : p a with
      | true =>
          have hcount : xs.countP (fun a => !p a) ≤ 1 := by simpa [hp] using h
          cases n with
          | zero => rfl
          | succ n => simp [hp, ih hcount n]
      | false =>
          have hall : xs.filter p = xs := by
            rw [List.filter_eq_self]
            have hzero : xs.countP (fun a => !p a) = 0 := by simpa [hp] using h
            simpa using List.countP_eq_zero.mp hzero
          have hfirst : (xs.take n).filter p = xs.take n := by
            rw [List.filter_eq_self] at hall ⊢
            intro b hb
            exact hall b (List.mem_of_mem_take hb)
          simp [hp, hall, hfirst, List.take_take]

theorem prefix_take_filter (n : Nat) : (xs.take n).filter p <+: (xs.filter p).take n := by
  rw [List.prefix_take_iff]
  constructor
  · exact (List.take_prefix n xs).filter p
  · exact Nat.le_trans (List.length_filter_le _ _) (List.length_take_le n xs)

private theorem eq_take_of_subset {ys : List α} (hsub : ys.Sublist xs) (hxs : xs.Nodup) {n : Nat}
    (hlength : ys.length ≤ n) (hall : ∀ a ∈ xs.take n, a ∈ ys) : ys = xs.take n := by
  induction xs generalizing n ys with
  | nil => simpa using hsub
  | cons x xs ih =>
      rw [List.nodup_cons] at hxs
      cases n with
      | zero => simpa using hlength
      | succ n =>
          rw [List.take_succ_cons, List.forall_mem_cons] at hall
          cases hsub with
          | cons _ hsub => exact absurd (hsub.subset hall.1) hxs.1
          | cons_cons _ hsub =>
              rw [List.length_cons, Nat.add_le_add_iff_right] at hlength
              rw [List.take_succ_cons]
              refine congrArg (x :: ·) (ih hsub hxs.2 hlength ?_)
              intro a ha
              rcases List.mem_cons.mp (hall.2 a ha) with rfl | hmem
              · exact absurd (List.mem_of_mem_take ha) hxs.1
              · exact hmem

/-- Choosing after the first `n` are taken gives the first `n` that are chosen if and only if these
are among the former. -/
theorem filter_take_filter_eq_iff (hxs : xs.Nodup) (n : Nat) :
    ((xs.filter q).take n).filter p = (xs.filter p).take n ↔
      ∀ a ∈ (xs.filter p).take n, a ∈ (xs.filter q).take n := by
  constructor
  · intro heq a ha
    rw [← heq] at ha
    exact List.mem_of_mem_filter ha
  · intro hall
    have hsub : (((xs.filter q).take n).filter p).Sublist (xs.filter p) :=
      ((List.take_sublist n _).trans List.filter_sublist).filter p
    have hlength : (((xs.filter q).take n).filter p).length ≤ n :=
      Nat.le_trans (List.length_filter_le _ _) (List.length_take_le n _)
    apply eq_take_of_subset hsub (hxs.filter p) hlength
    intro a ha
    rw [List.mem_filter]
    exact ⟨hall a ha, (List.mem_filter.mp (List.mem_of_mem_take ha)).2⟩

end

/-! ### Ranked items -/

variable {ρ σ : Type} {less : σ → σ → Bool} {items ranking : List (ρ × σ)}

/-- All items by strictly falling scores. -/
structure IsRanking (less : σ → σ → Bool) (items ranking : List (ρ × σ)) : Prop where
  perm : ranking.Perm items
  falls : ranking.Pairwise fun a b => less b.2 a.2 = true

/-- What is asked of an order of scores: some may be left uncompared. -/
structure IsOrder (less : σ → σ → Bool) : Prop where
  asymm : ∀ a b, less a b = true → less b a = false
  trans : ∀ a b c, less a b = true → less b c = true → less a c = true

private theorem IsOrder.irrefl (ho : IsOrder less) (a : σ) : less a a = false := by
  cases h : less a a with
  | false => rfl
  | true => rw [← h, ho.asymm a a h]

/-- Where scores fall, an item that scores high enough has only such items before it. -/
theorem closed_atLeast (ho : IsOrder less)
    (hfalls : ranking.Pairwise fun a b => less b.2 a.2 = true) (least : σ) :
    ranking.Pairwise fun a b => (!less b.2 least) = true → (!less a.2 least) = true := by
  refine hfalls.imp ?_
  intro a b hfall hb
  rw [Bool.not_eq_true', Bool.eq_false_iff] at hb ⊢
  intro ha
  exact hb (ho.trans _ _ _ hfall ha)

namespace IsRanking

theorem nodup (h : IsRanking less items ranking) (ho : IsOrder less) : ranking.Nodup := by
  refine h.falls.imp ?_
  intro a b hless heq
  rw [heq, ho.irrefl] at hless
  cases hless

private theorem not_less_eq [BEq (ρ × σ)] [LawfulBEq (ρ × σ)] (h : IsRanking less items ranking)
    (ho : IsOrder less) {a b : ρ × σ} (ha : a ∈ ranking) (hb : b ∈ ranking) :
    (!less a.2 b.2) = decide (ranking.idxOf a ≤ ranking.idxOf b) := by
  have hplace := List.idxOf_lt_length_iff.mpr ha
  have hplace' := List.idxOf_lt_length_iff.mpr hb
  have hfalls := List.pairwise_iff_getElem.mp h.falls
  rcases Nat.lt_trichotomy (ranking.idxOf a) (ranking.idxOf b) with hlt | heq | hgt
  · have hless := hfalls _ _ hplace hplace' hlt
    rw [List.getElem_idxOf, List.getElem_idxOf] at hless
    simp [Nat.le_of_lt hlt, ho.asymm _ _ hless]
  · have hsame : a = b := by
      rw [← List.getElem_idxOf hplace, ← List.getElem_idxOf hplace']
      congr 1
    simp [hsame, ho.irrefl]
  · have hless := hfalls _ _ hplace' hplace hgt
    rw [List.getElem_idxOf, List.getElem_idxOf] at hless
    simp [hgt, hless]

/-- Scores need not be comparable in general, but those of the items are: sorting by them is sorting
by the places in the ranking. -/
theorem mergeSort_eq (h : IsRanking less items ranking) (ho : IsOrder less) :
    items.mergeSort (fun a b => !less a.2 b.2) = ranking := by
  classical
  have hnodup := h.nodup ho
  let earlier (a b : ρ × σ) : Bool := ranking.idxOf a ≤ ranking.idxOf b
  have hsort : items.mergeSort (fun a b => !less a.2 b.2) = items.mergeSort earlier := by
    have hmap : (items.mergeSort fun a b => !less a.2 b.2).map id =
        (items.map id).mergeSort earlier := by
      apply List.map_mergeSort
      intro a ha b hb
      exact h.not_less_eq ho (h.perm.mem_iff.mpr ha) (h.perm.mem_iff.mpr hb)
    rwa [List.map_id, List.map_id] at hmap
  have hsorted : (items.mergeSort earlier).Pairwise fun a b => earlier a b = true := by
    apply List.pairwise_mergeSort
    · intro a b c hab hbc
      simp only [earlier, decide_eq_true_eq] at hab hbc ⊢
      omega
    · intro a b
      simp only [earlier, Bool.or_eq_true, decide_eq_true_eq]
      omega
  have hranked : ranking.Pairwise fun a b => earlier a b = true := by
    rw [List.pairwise_iff_getElem]
    intro i j hi hj hij
    simp only [earlier, decide_eq_true_eq]
    rw [hnodup.idxOf_getElem i hi, hnodup.idxOf_getElem j hj]
    exact Nat.le_of_lt hij
  rw [hsort]
  refine List.Perm.eq_of_pairwise ?_ hsorted hranked ((List.mergeSort_perm _ _).trans h.perm.symm)
  intro a b ha hb hab hba
  simp only [earlier, decide_eq_true_eq] at hab hba
  have hmem : a ∈ ranking := h.perm.mem_iff.mpr (List.mem_mergeSort.mp ha)
  rw [← List.getElem_idxOf (List.idxOf_lt_length_iff.mpr hmem),
    ← List.getElem_idxOf (List.idxOf_lt_length_iff.mpr hb)]
  congr 1
  exact Nat.le_antisymm hab hba

private theorem best_eq_take (h : IsRanking less items ranking) (ho : IsOrder less) (limit : Nat) :
    best less limit items = ranking.take limit := by
  rw [best, h.mergeSort_eq ho]

/-- The best items other than the own one are the first others of the ranking, as far as their
scores are high enough. -/
theorem others_eq (h : IsRanking less items ranking) (ho : IsOrder less) (own : ρ → Bool)
    (hown : items.countP (fun r => own r.1) ≤ 1) (limit : Nat) (least : σ) :
    others less own limit least items =
      (atLeast less least (ranking.filter fun r => !own r.1)).take limit := by
  have hcount : (ranking.filter fun r => !less r.2 least).countP (fun r => !!own r.1) ≤ 1 := by
    simp only [Bool.not_not]
    refine Nat.le_trans List.filter_sublist.countP_le ?_
    rwa [h.perm.countP_eq]
  rw [others, h.best_eq_take ho, atLeast, ← take_filter_of_closed (closed_atLeast ho h.falls least),
    take_filter_take_succ hcount, atLeast, List.filter_filter, List.filter_filter]
  congr 2
  funext r
  exact Bool.and_comm _ _

end IsRanking

end Ranking

/-! ### Searches of a store -/

namespace Embedding.Store

theorem isOrder_below : Ranking.IsOrder below where
  asymm a b h := by
    rw [below, decide_eq_true_eq] at h
    rw [below, decide_eq_false_iff_not]
    exact Number.float_lt_asymm h
  trans a b c h h' := by
    rw [below, decide_eq_true_eq] at h h' ⊢
    exact Number.float_lt_trans h h'

/-- Whether a store searches for so many rows near a vector: any store does that has no table yet,
and else the vector must have the length of the others. -/
def searches (s : Store) (query : List Float) (limit : Int) : Bool :=
  match s.table with
  | none => true
  | some (length, _) => 0 < limit && query.length == length

private theorem scored_toOption (s : Store) {query : List Float} (hquery : query ≠ [])
    (limit : Int) :
    (s.scored query limit).toOption =
      if s.searches query limit then some (s.rows.map fun r => (r, r.score query)) else none := by
  obtain ⟨_ | ⟨length, old⟩⟩ := s
  · rfl
  · have hempty : query.isEmpty = false := List.isEmpty_eq_false_iff.mpr hquery
    simp only [scored, searches, hempty, rows]
    by_cases hlimit : limit ≤ 0
    · have hnot : ¬ 0 < limit := Int.not_lt.mpr hlimit
      simp [hlimit, hnot, Except.toOption]
    · have hpos : 0 < limit := Int.not_le.mp hlimit
      by_cases hlength : query.length = length
      · simp [hlimit, hpos, hlength, Except.toOption]
      · simp [hlimit, hpos, hlength, Except.toOption]

private theorem rows_of_scored {s : Store} {query : List Float} (hquery : query ≠ []) {limit : Int}
    {rows : List (Row × Float)} (h : s.scored query limit = .ok rows) :
    rows = s.rows.map fun r => (r, r.score query) := by
  have hrows := s.scored_toOption hquery limit
  rw [h] at hrows
  cases hsearches : s.searches query limit with
  | false =>
      rw [hsearches] at hrows
      cases hrows
  | true =>
      rw [hsearches] at hrows
      exact Option.some.inj hrows

private theorem countP_own_le_one {s : Store} (hids : (s.rows.map (·.id)).Nodup)
    (query : List Float) (x : Symbol) :
    (s.rows.map fun r => (r, r.score query)).countP (fun r => r.1.id == x.id) ≤ 1 := by
  have hcount := List.nodup_iff_count.mp hids x.id
  rw [List.count_eq_countP, List.countP_map] at hcount
  rw [List.countP_map]
  exact hcount

/-- A search for the neighbours of a symbol answers, if it does, with the symbols of the first other
rows, as far as their scores are high enough. -/
theorem similarTo_eq_of_ranking {s : Store} (hids : (s.rows.map (·.id)).Nodup)
    {query : List Float} (hquery : query ≠ []) {ranking : List (Row × Float)}
    (hranking : Ranking.IsRanking below (s.rows.map fun r => (r, r.score query)) ranking)
    (x : Symbol) (limit : Int) (least : Float) :
    s.similarTo x limit least (some query) =
      s.scored query (limit + 1) >>= fun _ =>
        pure (symbols ((Ranking.atLeast below least
          (ranking.filter fun r => !(r.1.id == x.id))).take limit.toNat)) := by
  have hothers := hranking.others_eq isOrder_below (fun r => r.id == x.id)
    (countP_own_le_one hids query x) limit.toNat least
  change (s.scored query (limit + 1) >>= fun rows => pure (symbols (Ranking.others below
    (fun r => r.id == x.id) limit.toNat least rows))) = _
  cases hrows : s.scored query (limit + 1) with
  | error e => rfl
  | ok rows => rw [ok_bind, ok_bind, rows_of_scored hquery hrows, hothers]

theorem similarTo_ranked {s : Store} (hids : (s.rows.map (·.id)).Nodup) {query : List Float}
    (hquery : query ≠ []) {ranking : List (Row × Float)}
    (hranking : Ranking.IsRanking below (s.rows.map fun r => (r, r.score query)) ranking)
    (x : Symbol) (limit : Int) (least : Float) :
    (s.similarTo x limit least (some query)).toOption =
      if s.searches query (limit + 1) then
        some (symbols ((Ranking.atLeast below least
          (ranking.filter fun r => !(r.1.id == x.id))).take limit.toNat))
      else none := by
  rw [similarTo_eq_of_ranking hids hquery hranking, toOption_bind_pure, s.scored_toOption hquery]
  cases s.searches query (limit + 1) with
  | false => rfl
  | true => rfl

end Embedding.Store

end PullReview
