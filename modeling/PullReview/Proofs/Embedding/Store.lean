import Mathlib.Data.List.Dedup
import Mathlib.Data.List.Induction
import PullReview.Repository.Indexing

/-!
# Stores as maps

A batch replaces all rows under its ids, and is written as it is. So a store holds under every id
what the last batch with that id has under it, and it is a map from ids to the entries written last
exactly if no such batch has an id twice.
-/

namespace PullReview

namespace Embedding

/-- A symbol and its vector, as they are handed to a store. -/
abbrev Entry := Symbol × List Float

def Entry.row (e : Entry) : Row := Row.ofSymbol e.1 e.2

/-! ### Entries by id -/

/-- The entries of a batch under an id. -/
def under (id : String) (batch : List Entry) : List Entry := batch.filter (·.1.id == id)

/-- The entries under an id in the last batch that has any. -/
def latest (id : String) (batches : List (List Entry)) : List Entry :=
  ((batches.map (under id)).reverse.find? fun entries => !entries.isEmpty).getD []

section

variable (id : String) (batches : List (List Entry)) (batch : List Entry)

private theorem under_eq_nil_iff : under id batch = [] ↔ batch.any (·.1.id == id) = false := by
  rw [under, List.filter_eq_nil_iff, List.any_eq_false]

private theorem latest_concat :
    latest id (batches ++ [batch]) =
      if under id batch = [] then latest id batches else under id batch := by
  rw [latest, List.map_append, List.map_singleton, List.reverse_append, List.reverse_singleton,
    List.singleton_append, List.find?_cons]
  by_cases hempty : under id batch = []
  · simp [hempty, latest]
  · simp [hempty, List.isEmpty_eq_false_iff.mpr hempty]

private theorem latest_getLast? :
    (latest id batches).getLast? = batches.flatten.reverse.find? (·.1.id == id) := by
  induction batches using List.reverseRecOn with
  | nil => rfl
  | append_singleton batches batch ih =>
      rw [latest_concat, List.flatten_concat, List.reverse_append, List.find?_append, ← ih,
        ← List.getLast?_filter]
      change _ = (under id batch).getLast?.or _
      by_cases hempty : under id batch = []
      · simp [hempty]
      · rw [if_neg hempty, List.getLast?_eq_some_getLast hempty]
        rfl

private theorem latest_ne_nil_iff : latest id batches ≠ [] ↔ id ∈ batches.flatten.map (·.1.id) := by
  rw [← List.getLast?_isSome, latest_getLast?, List.find?_isSome, List.mem_map]
  simp

private theorem length_latest_le_one {batches : List (List Entry)}
    (h : ∀ batch ∈ batches, (batch.map (·.1.id)).Nodup) : (latest id batches).length ≤ 1 := by
  induction batches using List.reverseRecOn with
  | nil => exact Nat.zero_le 1
  | append_singleton batches batch ih =>
      rw [latest_concat]
      split
      · exact ih fun b hb => h b (by simp [hb])
      · have hcount := List.nodup_iff_count.mp (h batch (by simp)) id
        rwa [List.count_eq_countP, List.countP_map, List.countP_eq_length_filter] at hcount

end

/-! ### Writing -/

namespace Store

/-- The rows of a store are, under every id, the last ones written. -/
def Holds (s : Store) (batches : List (List Entry)) : Prop :=
  ∀ id, s.rows.filter (·.id == id) = (latest id batches).map Entry.row

theorem holds_empty : Holds {} [] := fun _ => rfl

theorem rows_write {s : Store} {batch : List Entry} (h : (s.write batch).1.isOk = true) :
    (s.write batch).2.rows =
      s.rows.filter (fun r => !batch.any (·.1.id == r.id)) ++ batch.map Entry.row := by
  cases batch with
  | nil => simp [write]
  | cons e batch =>
      obtain ⟨_ | ⟨length, old⟩⟩ := s
      all_goals
        simp only [write, List.any_map] at h ⊢
        split at h
        · rename_i hlength
          rw [if_pos hlength]
          rfl
        · cases h

/-- One step: a batch replaces what is under its ids, and all else stays. -/
theorem Holds.write {s : Store} {batches : List (List Entry)} {batch : List Entry}
    (hs : s.Holds batches) (h : (s.write batch).1.isOk = true) :
    (s.write batch).2.Holds (batches ++ [batch]) := by
  intro id
  have hadded : (batch.map Entry.row).filter (·.id == id) = (under id batch).map Entry.row :=
    List.filter_map
  have hkept : ∀ r : Row, (r.id == id && !batch.any (·.1.id == r.id)) =
      (r.id == id && decide (under id batch = [])) := by
    intro r
    by_cases hr : r.id = id
    · cases hany : batch.any (·.1.id == id) <;> simp [hr, under_eq_nil_iff, hany]
    · rw [beq_eq_false_iff_ne.mpr hr, Bool.false_and, Bool.false_and]
  rw [rows_write h, List.filter_append, hadded, List.filter_filter, latest_concat]
  simp only [hkept]
  by_cases hempty : under id batch = []
  · simp [hempty, hs id]
  · simp [hempty]

section

variable {s : Store} {batches : List (List Entry)}

theorem Holds.mem_ids_iff (hs : s.Holds batches) (id : String) :
    id ∈ s.rows.map (·.id) ↔ id ∈ batches.flatten.map (·.1.id) := by
  have hmap : latest id batches = [] ↔ s.rows.filter (·.id == id) = [] := by
    rw [hs id, List.map_eq_nil_iff]
  rw [← latest_ne_nil_iff, Ne, hmap, List.filter_eq_nil_iff, List.mem_map]
  simp

theorem Holds.nodup_iff (hs : s.Holds batches) :
    (s.rows.map (·.id)).Nodup ↔ ∀ id, (latest id batches).length ≤ 1 := by
  rw [List.nodup_iff_count]
  apply forall_congr'
  intro id
  rw [List.count_eq_countP, List.countP_map, List.countP_eq_length_filter,
    ← List.length_map Entry.row, ← hs id]
  rfl

private theorem head?_eq_getLast? {entries : List Entry} (h : entries.length ≤ 1) :
    entries.head? = entries.getLast? := by
  cases entries with
  | nil => rfl
  | cons e rest =>
      obtain rfl : rest = [] := List.eq_nil_of_length_eq_zero (by simpa using h)
      rfl

/-- Every id leads to the entry that was written last under it, and there are no other rows. -/
structure IsMap (s : Store) (batches : List (List Entry)) : Prop where
  distinct : (s.rows.map (·.id)).Nodup
  last : ∀ id, s.rows.find? (·.id == id) =
    (batches.flatten.reverse.find? (·.1.id == id)).map Entry.row
  count : s.count = (batches.flatten.map (·.1.id)).dedup.length

private theorem Holds.isMap_iff (hs : s.Holds batches) :
    s.IsMap batches ↔ ∀ id, (latest id batches).length ≤ 1 := by
  constructor
  · exact fun h => hs.nodup_iff.mp h.distinct
  · intro hone
    have hdistinct := hs.nodup_iff.mpr hone
    refine ⟨hdistinct, fun id => ?_, ?_⟩
    · rw [← List.head?_filter, hs id, List.head?_map, head?_eq_getLast? (hone id),
        latest_getLast?]
    · have hperm : (s.rows.map (·.id)).Perm (batches.flatten.map (·.1.id)).dedup := by
        rw [List.perm_ext_iff_of_nodup hdistinct (List.nodup_dedup _)]
        intro id
        rw [List.mem_dedup, hs.mem_ids_iff]
      rw [Store.count, ← hperm.length_eq, List.length_map]

end

end Store

end Embedding

/-! ### Runs of commands -/

namespace Indexing

open PullReview.Embedding (Entry Store)

/-- Whether a store carries out a command. -/
def StoreCommand.succeeds (store : Store) : StoreCommand → Bool
  | clear => true
  | write batch => (store.write batch).1.isOk

/-- Whether a store carries out all of a list of commands. -/
def allSucceed (store : Store) : List StoreCommand → Bool
  | [] => true
  | c :: rest => c.succeeds store && allSucceed (c.run store) rest

/-- The batches written since the last clear, after those already there. -/
def batchesAfter (batches : List (List Entry)) (commands : List StoreCommand) :
    List (List Entry) :=
  commands.foldl
    (fun batches c =>
      match c with
      | .clear => []
      | .write batch => batches ++ [batch])
    batches

theorem holds_run {store : Store} {batches : List (List Entry)} {commands : List StoreCommand}
    (hstore : store.Holds batches) (h : allSucceed store commands = true) :
    (commands.foldl StoreCommand.run store).Holds (batchesAfter batches commands) := by
  induction commands generalizing store batches with
  | nil => exact hstore
  | cons c commands ih =>
      rw [allSucceed, Bool.and_eq_true] at h
      cases c with
      | clear => exact ih Store.holds_empty h.2
      | write batch => exact ih (hstore.write h.1) h.2

/-- After any commands that a store carried out, it has under every id the entries of the last batch
with that id, all of them. So it is a map to the entries written last since it was cleared if and
only if each of these batches has its id once. -/
theorem commands_isMap_iff (commands : List StoreCommand) (h : allSucceed {} commands = true) :
    let store := commands.foldl StoreCommand.run {}
    let batches := batchesAfter [] commands
    (∀ id, store.rows.filter (·.id == id) = (Embedding.latest id batches).map Entry.row) ∧
      (store.IsMap batches ↔ ∀ id, (Embedding.latest id batches).length ≤ 1) := by
  have hholds := holds_run Store.holds_empty h
  exact ⟨hholds, hholds.isMap_iff⟩

/-- A constant in the first line of a module. -/
def firstConstant (name : String) : Symbol where
  name := name
  kind := "field"
  file := "m.py"
  startLine := 1
  endLine := 1

/-- Two constants are stored, the first is stored again, all is cleared, and both are stored once
more. -/
def storedAgain : List StoreCommand :=
  [.write [(firstConstant "A", [1.0, 0.0]), (firstConstant "B", [0.0, 1.0])],
    .write [(firstConstant "A", [0.0, 1.0])], .clear, .write [(firstConstant "B", [1.0])],
    .write [(firstConstant "A", [1.0]), (firstConstant "B", [0.5])]]

theorem storedAgain_isMap :
    allSucceed {} storedAgain = true ∧
      (storedAgain.foldl StoreCommand.run {}).IsMap (batchesAfter [] storedAgain) := by
  have hdistinct : ∀ batch ∈ batchesAfter [] storedAgain, (batch.map (·.1.id)).Nodup := by
    simp [batchesAfter, storedAgain, firstConstant, Symbol.id]
  exact ⟨rfl, (commands_isMap_iff storedAgain rfl).2.mpr fun id =>
    Embedding.length_latest_le_one id hdistinct⟩

/-- Two constants of one name in one line are stored together. -/
def storedTogether : List StoreCommand :=
  [.write [(firstConstant "A", [1.0, 0.0]), (firstConstant "A", [0.0, 1.0])]]

theorem repeated_id_stored_twice :
    allSucceed {} storedTogether = true ∧
      (storedTogether.foldl StoreCommand.run {}).count = 2 ∧
      ¬ (storedTogether.foldl StoreCommand.run {}).IsMap (batchesAfter [] storedTogether) := by
  have hids : (storedTogether.foldl StoreCommand.run {}).rows.map (·.id) =
      [(firstConstant "A").id, (firstConstant "A").id] := rfl
  refine ⟨rfl, rfl, fun h => ?_⟩
  have hdistinct := h.distinct
  simp [hids] at hdistinct

end Indexing

end PullReview
