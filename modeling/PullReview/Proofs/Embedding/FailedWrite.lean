import PullReview.Proofs.Embedding.Store
import PullReview.Proofs.Failure

/-!
# Writes that fail

A batch takes the place of the rows with its ids. If one of its vectors has another length than the
table, nothing of the batch is written, but the rows that it was to replace are gone by then. So a
failed write leaves a store as it was exactly if no row has an id of the batch.
-/

namespace PullReview.Embedding.Store

/-! ### Stores without some rows -/

/-- A store without the rows of some ids. -/
def without (s : Store) (ids : List String) : Store :=
  ⟨s.table.map fun t => (t.1, t.2.filter fun r => !ids.contains r.id)⟩

section

variable (s : Store) (ids : List String)

private theorem rows_without :
    (s.without ids).rows = s.rows.filter fun r => !ids.contains r.id := by
  obtain ⟨_ | ⟨length, old⟩⟩ := s
  · rfl
  · rfl

private theorem count_without :
    (s.without ids).count + s.rows.countP (fun r => ids.contains r.id) = s.count := by
  have hkept : (s.without ids).count = s.rows.countP fun r => !ids.contains r.id := by
    rw [count, rows_without, List.countP_eq_length_filter]
  have hlength : s.rows.length = s.rows.countP (fun r => ids.contains r.id) +
      s.rows.countP (fun r => !ids.contains r.id) := by
    simpa using List.length_eq_countP_add_countP (fun r : Row => ids.contains r.id)
  rw [hkept, count, hlength, Nat.add_comm]

private theorem without_eq_self_iff : s.without ids = s ↔ ∀ r ∈ s.rows, r.id ∉ ids := by
  constructor
  · intro heq r hr hid
    have hrows := rows_without s ids
    rw [heq] at hrows
    rw [hrows, List.mem_filter] at hr
    simp [hid] at hr
  · intro hids
    obtain ⟨_ | ⟨length, old⟩⟩ := s
    · rfl
    · have hkept : old.filter (fun r => !ids.contains r.id) = old := by
        rw [List.filter_eq_self]
        intro r hr
        simpa using hids r hr
      simp only [without, Option.map_some, hkept]

private theorem vector?_without (x : Symbol) :
    (s.without ids).vector? x = if x.id ∈ ids then none else s.vector? x := by
  rw [vector?, rows_without]
  by_cases hid : x.id ∈ ids
  · have hnone : (s.rows.filter fun r => !ids.contains r.id).find? (·.id == x.id) = none := by
      rw [List.find?_eq_none]
      intro r hr hsame
      rw [List.mem_filter, beq_iff_eq.mp hsame] at hr
      simp [hid] at hr
    rw [hnone, if_pos hid]
    rfl
  · have hsame : ∀ r : Row,
        decide ((!ids.contains r.id) = true ∧ (r.id == x.id) = true) = (r.id == x.id) := by
      intro r
      by_cases hr : r.id = x.id
      · simp [hr, hid]
      · simp [hr]
    rw [List.find?_filter, if_neg hid, vector?]
    simp only [hsame]

private theorem scored_without (query : List Float) (limit : Int) :
    (s.without ids).scored query limit =
      (s.scored query limit).map (List.filter fun r => !ids.contains r.1.id) := by
  obtain ⟨_ | ⟨length, old⟩⟩ := s
  · rfl
  · simp only [without, scored, Option.map_some]
    split
    · rfl
    · split
      · rfl
      · split
        · rfl
        · rw [ok_map, List.filter_map]
          rfl

end

/-! ### Failed writes -/

/-- The length that the vectors of a batch must have: that of the table, or else that of the first
of them. -/
def requiredLength (s : Store) (batch : List Entry) : Option Nat :=
  (s.table.map (·.1)).or (batch.head?.map (·.2.length))

private theorem all_length_iff (n : Nat) (batch : List Entry) :
    (batch.all fun b => b.2.length == n) = true ↔ ∀ b ∈ batch, some n = some b.2.length := by
  rw [List.all_eq_true]
  constructor
  · intro h b hb
    rw [beq_iff_eq.mp (h b hb)]
  · intro h b hb
    rw [beq_iff_eq, Option.some.inj (h b hb)]

private theorem filter_not_any (batch : List Entry) (rows : List Row) :
    rows.filter (fun r => !(batch.map fun b => Row.ofSymbol b.1 b.2).any (·.id == r.id)) =
      rows.filter fun r => !(batch.map (·.1.id)).contains r.id := by
  apply List.filter_congr
  intro r _
  rw [List.any_map, List.contains_eq_any_beq, List.any_map]
  congr 2
  funext b
  exact Bool.beq_comm

private theorem write_cases (s : Store) (batch : List Entry) :
    ((s.write batch).1 = .ok () ∧ ∀ b ∈ batch, s.requiredLength batch = some b.2.length) ∨
      (s.write batch = (.error .wrongLength, s.without (batch.map (·.1.id))) ∧
        ¬ ∀ b ∈ batch, s.requiredLength batch = some b.2.length) := by
  cases batch with
  | nil =>
      left
      simp [write]
  | cons e batch =>
      obtain ⟨_ | ⟨length, old⟩⟩ := s
      · have hlength := all_length_iff e.2.length (e :: batch)
        simp only [write]
        split
        · rename_i hall
          exact Or.inl ⟨rfl, hlength.mp hall⟩
        · rename_i hall
          exact Or.inr ⟨rfl, fun h => hall (hlength.mpr h)⟩
      · have hlength := all_length_iff length (e :: batch)
        simp only [write, filter_not_any]
        split
        · rename_i hall
          exact Or.inl ⟨rfl, hlength.mp hall⟩
        · rename_i hall
          exact Or.inr ⟨rfl, fun h => hall (hlength.mpr h)⟩

/-- A write fails if and only if a vector of the batch has not the length that is required. It then
leaves the store without the rows of the ids of the batch: these symbols have no vector any more,
all others keep theirs, and searches look at the rows that are left. So the store is as it was if
and only if no row had such an id. -/
theorem failed_write_without (s : Store) (batch : List Entry) :
    let ids := batch.map (·.1.id)
    let after := (s.write batch).2
    ((s.write batch).1.isOk = false ↔
      ∃ b ∈ batch, s.requiredLength batch ≠ some b.2.length) ∧
    ((s.write batch).1.isOk = false →
      after.rows = s.rows.filter (fun r => !ids.contains r.id) ∧
      after.count + s.rows.countP (fun r => ids.contains r.id) = s.count ∧
      (∀ x, after.vector? x = if x.id ∈ ids then none else s.vector? x) ∧
      (∀ query limit, after.scored query limit =
        (s.scored query limit).map (List.filter fun r => !ids.contains r.1.id)) ∧
      (after = s ↔ ∀ r ∈ s.rows, r.id ∉ ids)) := by
  intro ids after
  rcases write_cases s batch with ⟨hok, hlength⟩ | ⟨hwrite, hlength⟩
  · constructor
    · simpa [hok, Except.isOk, Except.toBool] using hlength
    · intro hfailed
      rw [hok] at hfailed
      cases hfailed
  · constructor
    · simpa [hwrite, Except.isOk, Except.toBool] using hlength
    · intro _
      have hafter : after = s.without ids := congrArg Prod.snd hwrite
      rw [hafter]
      refine ⟨s.rows_without ids, s.count_without ids, ?_, ?_, s.without_eq_self_iff ids⟩
      · intro x
        exact s.vector?_without ids x
      · intro query limit
        exact s.scored_without ids query limit

open PullReview.Indexing (firstConstant)

/-- Two constants are stored. -/
def constantStore : Store :=
  (({} : Store).write [(firstConstant "A", [1.0, 0.0]), (firstConstant "B", [0.0, 1.0])]).2

/-- A batch with a constant that is stored and with one whose vector is too short. -/
def shortBatch : List Entry := [(firstConstant "B", [1.0, 0.0]), (firstConstant "C", [1.0])]

theorem short_batch_drops_constant :
    (constantStore.write shortBatch).1.isOk = false ∧
      (constantStore.write shortBatch).2.count + 1 = constantStore.count ∧
      (constantStore.write shortBatch).2.vector? (firstConstant "A") =
        constantStore.vector? (firstConstant "A") ∧
      (constantStore.write shortBatch).2.vector? (firstConstant "B") = none := by
  have hfailed : (constantStore.write shortBatch).1.isOk = false := by decide +kernel
  obtain ⟨_, hcount, hvector, _⟩ := (failed_write_without constantStore shortBatch).2 hfailed
  have hstored : constantStore.rows.countP
      (fun r => (shortBatch.map (·.1.id)).contains r.id) = 1 := by decide +kernel
  rw [hstored] at hcount
  refine ⟨hfailed, hcount, ?_, ?_⟩
  · rw [hvector, if_neg (by decide +kernel)]
  · rw [hvector, if_pos (by decide +kernel)]

theorem long_vector_empties_store :
    let stored := (({} : Store).write [(firstConstant "A", [1.0, 0.0])]).2
    let replaced := stored.write [(firstConstant "A", [1.0, 0.0, 0.0])]
    stored.count = 1 ∧ replaced.1.isOk = false ∧ replaced.2.count = 0 ∧ replaced.2 ≠ stored := by
  intro stored replaced
  have hbefore : stored.count = 1 := by decide +kernel
  have hafter : replaced.2.count = 0 := by decide +kernel
  refine ⟨hbefore, by decide +kernel, hafter, ?_⟩
  intro heq
  rw [heq, hbefore] at hafter
  cases hafter

end PullReview.Embedding.Store
