import PullReview.Proofs.Embedding.Store
import PullReview.Proofs.Index
import PullReview.Proofs.Repository.Indexing

/-!
# Indexing again

A run clears the store and adds to the index. So after several runs the store holds the symbols of
the last one, and the index those of all of them.
-/

namespace PullReview

/-! ### Embedders with vectors of one length -/

namespace Embedding

private theorem length_unit (v : List Float) : (unit v).length = v.length := by
  rw [unit]
  split
  · rfl
  · exact List.length_map _

private theorem length_counts (size : Nat) (words : List String) :
    (counts size words).length = size := by
  have hfold : ∀ v : List Int, (words.foldl
      (fun v w => v.modify (bucket size w).1 (· + (bucket size w).2)) v).length = v.length := by
    induction words with
    | nil => exact fun _ => rfl
    | cons w words ih =>
        intro v
        rw [List.foldl_cons, ih, List.length_modify]
  rw [counts, hfold, List.length_replicate]

end Embedding

namespace Embedder

/-- All vectors of symbols have the same length. -/
def IsUniform (e : Embedder) : Prop :=
  ∃ n, ∀ s v, e.embedSymbol s = some v → v.length = n

private theorem length_of_hashing {size : Int} {text : String} {v : List Float}
    (h : (hashing size).embed text = some v) : v.length = size.toNat := by
  simp only [hashing, Embedding.hashed] at h
  split at h
  · rw [← Option.some.inj h, Embedding.length_unit, List.length_map, Embedding.length_counts]
  · cases h

private theorem hashing_isUniform (size : Int) : (hashing size).IsUniform := by
  refine ⟨size.toNat, fun s v hv => ?_⟩
  rw [embedSymbol] at hv
  split at hv
  · rename_i x w hw
    obtain rfl := Option.some.inj hv
    rw [Embedding.length_unit, length_of_hashing hw]
  · cases hv

private theorem hashing_isSome {size : Int} (h : 0 < size) (s : Symbol) :
    ((hashing size).embedSymbol s).isSome = true := by
  have hembed : ∃ v, (hashing size).embed (Embedding.symbolText s) = some v := by
    simp [hashing, Embedding.hashed, h, Except.toOption]
  obtain ⟨v, hv⟩ := hembed
  rw [embedSymbol, hv]
  cases v with
  | nil =>
      have hlength := length_of_hashing hv
      simp at hlength
      omega
  | cons x v => rfl

private theorem mem_embedAll_iff {e : Embedder} {symbols : List Symbol} {b : Symbol × List Float} :
    b ∈ e.embedAll symbols ↔ b.1 ∈ symbols ∧ e.embedSymbol b.1 = some b.2 := by
  rw [embedAll, List.mem_filterMap]
  constructor
  · rintro ⟨x, hx, hxb⟩
    obtain ⟨v, hv, rfl⟩ := Option.map_eq_some_iff.mp hxb
    exact ⟨hx, hv⟩
  · rintro ⟨hx, hv⟩
    exact ⟨b.1, hx, by rw [hv]; rfl⟩

end Embedder

namespace Indexing

open PullReview.Embedding (Entry Store)

/-! ### The index -/

private theorem isJoin_sequential (ix : Index) (files : List Outcome) :
    ix.IsJoin (sequential {} files) (sequential ix files) := by
  rw [sequential, sequential]
  -- The files are added to both indexes, which start as nothing and as `ix`.
  suffices h : ∀ second joined, ix.IsJoin second joined → ix.IsJoin
      ((successes files).foldl (fun ix f => ix.add f.1 f.2.symbols f.2.calls) second)
      ((successes files).foldl (fun ix f => ix.add f.1 f.2.symbols f.2.calls) joined) from
    h {} ix (Index.isJoin_empty ix)
  induction successes files with
  | nil => exact fun _ _ h => h
  | cons f rest ih => exact fun _ _ h => ih _ _ (h.add f.1 f.2.symbols f.2.calls)

private theorem coherent_sequential {ix : Index} (h : ix.Coherent) (files : List Outcome) :
    (sequential ix files).Coherent := by
  rw [sequential]
  induction successes files generalizing ix with
  | nil => exact h
  | cons f rest ih => exact ih (h.add f.1 f.2.symbols f.2.calls)

/-! ### The store -/

/-- A store without rows yet, or with vectors of a given length. -/
def HasLength (n : Nat) (store : Store) : Prop := ∀ m rows, store.table = some (m, rows) → m = n

private theorem write_of_hasLength {n : Nat} {store : Store} {batch : List Entry}
    (hstore : HasLength n store) (hbatch : ∀ b ∈ batch, b.2.length = n) :
    (store.write batch).1.isOk = true ∧ HasLength n (store.write batch).2 := by
  have hall : batch.all (fun b => b.2.length == n) = true := by simpa using hbatch
  cases batch with
  | nil => exact ⟨rfl, hstore⟩
  | cons e batch =>
      obtain ⟨_ | ⟨m, old⟩⟩ := store
      · have he : e.2.length = n := hbatch e (by simp)
        simp only [Store.write, he, hall, if_true]
        refine ⟨rfl, fun m rows h => ?_⟩
        exact (congrArg Prod.fst (Option.some.inj h)).symm
      · obtain rfl : m = n := hstore m old rfl
        simp only [Store.write, hall, if_true]
        refine ⟨rfl, fun k rows h => ?_⟩
        exact (congrArg Prod.fst (Option.some.inj h)).symm

private theorem allSucceed_of_hasLength {n : Nat} {store : Store} {batches : List (List Entry)}
    (hstore : HasLength n store) (h : ∀ batch ∈ batches, ∀ b ∈ batch, b.2.length = n) :
    allSucceed store (batches.map .write) = true := by
  induction batches generalizing store with
  | nil => rfl
  | cons batch batches ih =>
      obtain ⟨hok, hnext⟩ := write_of_hasLength hstore (h batch (by simp))
      rw [List.map_cons, allSucceed, Bool.and_eq_true]
      exact ⟨hok, ih hnext fun b hb => h b (by simp [hb])⟩

private theorem batchesAfter_write (before batches : List (List Entry)) :
    batchesAfter before (batches.map .write) = before ++ batches := by
  induction batches generalizing before with
  | nil => exact (List.append_nil before).symm
  | cons batch batches ih =>
      rw [List.append_cons]
      exact ih (before ++ [batch])

private theorem commands_embedBatch (s : Settings) (run : Run) (symbols : List Symbol) :
    ∃ batches : List (List Entry),
      (embedBatch s run symbols).commands = run.commands ++ batches.map .write := by
  unfold embedBatch
  split
  · split
    · exact ⟨[_], rfl⟩
    · exact ⟨[], (List.append_nil _).symm⟩
  · exact ⟨[], (List.append_nil _).symm⟩

private theorem commands_foldl_addBatch (s : Settings) (parts : List (List Outcome)) (run : Run) :
    ∃ batches : List (List Entry), (parts.foldl (addBatch s) run).commands =
      run.commands ++ batches.map .write := by
  induction parts generalizing run with
  | nil => exact ⟨[], (List.append_nil _).symm⟩
  | cons files parts ih =>
      obtain ⟨here, hhere⟩ := commands_embedBatch s (files.foldl addFile (run, [])).1
        (files.foldl addFile (run, [])).2
      have hkept : (files.foldl addFile (run, [])).1.commands = run.commands := by
        rw [foldl_addFile]
      obtain ⟨later, hlater⟩ := ih (addBatch s run files)
      refine ⟨here ++ later, ?_⟩
      rw [List.foldl_cons, hlater, List.map_append, ← List.append_assoc, ← hkept, ← hhere]
      rfl

private theorem written_clear_write (batches : List (List Entry)) :
    written (.clear :: batches.map .write) = batches.flatten := by
  rw [written, List.flatMap_cons, List.nil_append]
  induction batches with
  | nil => rfl
  | cons batch batches ih => rw [List.map_cons, List.flatMap_cons, ih, List.flatten_cons]

/-- A run with a store clears it, and then writes what it could embed. -/
theorem commands_indexFiles {s : Settings} {e : Embedder} (he : s.embedder = some e)
    (hs : s.hasStore = true) (allowed : Option Nat) (ix : Index) (files : List Outcome) :
    ∃ batches : List (List Entry),
      (indexFiles s allowed ix files).commands = .clear :: batches.map .write ∧
        batches.flatten = e.embedAll (foundSymbols (reached s allowed files)) := by
  obtain ⟨batches, hcommands⟩ :=
    commands_foldl_addBatch s (batches s allowed files) (start s ix files.length)
  have hstart : (start s ix files.length).commands = [.clear] := by simp [start, he, hs]
  rw [hstart, List.singleton_append] at hcommands
  refine ⟨batches, hcommands, ?_⟩
  have htally := (indexFiles_tally s allowed ix files).written
  rw [indexFiles, hcommands, written_clear_write] at htally
  rw [htally, embedded, he, hs]
  rfl

/-- The ids in the store after a run are those of the symbols that the run could embed, whatever the
store held before. -/
theorem mem_ids_after_run {s : Settings} {e : Embedder} (he : s.embedder = some e)
    (hs : s.hasStore = true) (hu : e.IsUniform) (allowed : Option Nat) (ix : Index)
    (files : List Outcome) (store : Store) (id : String) :
    id ∈ (((indexFiles s allowed ix files).commands.foldl StoreCommand.run store).rows.map
        (·.id)) ↔
      ∃ x ∈ foundSymbols (reached s allowed files),
        (e.embedSymbol x).isSome = true ∧ x.id = id := by
  obtain ⟨n, hn⟩ := hu
  obtain ⟨batches, hcommands, hwritten⟩ := commands_indexFiles he hs allowed ix files
  have hlength : ∀ batch ∈ batches, ∀ b ∈ batch, b.2.length = n := by
    intro batch hbatch b hb
    have hmem : b ∈ batches.flatten := List.mem_flatten.mpr ⟨batch, hbatch, hb⟩
    rw [hwritten, Embedder.mem_embedAll_iff] at hmem
    exact hn b.1 b.2 hmem.2
  have hempty : HasLength n {} := fun _ _ h => nomatch h
  have hholds := holds_run Store.holds_empty (allSucceed_of_hasLength hempty hlength)
  rw [batchesAfter_write, List.nil_append] at hholds
  rw [hcommands, List.foldl_cons]
  refine (hholds.mem_ids_iff id).trans ?_
  rw [hwritten, List.mem_map]
  constructor
  · rintro ⟨b, hb, rfl⟩
    obtain ⟨hx, hv⟩ := Embedder.mem_embedAll_iff.mp hb
    exact ⟨b.1, hx, by rw [hv]; rfl, rfl⟩
  · rintro ⟨x, hx, hsome, rfl⟩
    obtain ⟨v, hv⟩ := Option.isSome_iff_exists.mp hsome
    exact ⟨(x, v), Embedder.mem_embedAll_iff.mpr ⟨hx, hv⟩, rfl⟩

/-! ### Run after run -/

/-- What an indexer works on from run to run. -/
structure Workspace where
  index : Index := {}
  store : Store := {}

/-- A run on a repository, of which only `allowed` batches may be read. -/
def Workspace.run (s : Settings) (w : Workspace) (job : Repository × Option Nat) : Workspace :=
  let r := Indexing.run s job.1 job.2 w.index
  ⟨r.index, r.commands.foldl StoreCommand.run w.store⟩

private theorem Workspace.run_index (s : Settings) (w : Workspace) (r : Repository)
    (allowed : Option Nat) :
    (w.run s (r, allowed)).index = (Indexing.run s r allowed w.index).index := rfl

private theorem index_run (s : Settings) (r : Repository) (allowed : Option Nat) (ix : Index) :
    (run s r allowed ix).index =
      sequential ix (reached s allowed ((codeFiles r).map (Outcome.of s.dialect r))) :=
  (indexFiles_tally s allowed ix _).index

private theorem coherent_runs (s : Settings) (jobs : List (Repository × Option Nat)) {w : Workspace}
    (hw : w.index.Coherent) : (jobs.foldl (Workspace.run s) w).index.Coherent := by
  induction jobs generalizing w with
  | nil => exact hw
  | cons job jobs ih =>
      apply ih
      rw [Workspace.run, index_run]
      exact coherent_sequential hw _

/-- After any runs on repositories that may change in between, the store has the ids of the symbols
that a fresh index of the last repository has and that can be embedded, but the index holds what the
earlier runs found as well. So it answers like the fresh index if and only if they found no symbol
and no call, and no file that is gone. -/
theorem runs_join_earlier (s : Settings) (e : Embedder) (he : s.embedder = some e)
    (hs : s.hasStore = true) (hu : e.IsUniform) (jobs : List (Repository × Option Nat))
    (r : Repository) (allowed : Option Nat) :
    let earlier := jobs.foldl (Workspace.run s) {}
    let last := earlier.run s (r, allowed)
    let fresh := (run s r allowed {}).index
    earlier.index.IsJoin fresh last.index ∧
      (last.index.SameAnswers fresh ↔ earlier.index.symbols = [] ∧ earlier.index.calls = [] ∧
        ∀ path ∈ earlier.index.files.keys, path ∈ fresh.files.keys) ∧
      ∀ id, id ∈ last.store.rows.map (·.id) ↔
        ∃ x ∈ fresh.symbols, (e.embedSymbol x).isSome = true ∧ x.id = id := by
  intro earlier last fresh
  have hjoin : earlier.index.IsJoin fresh last.index := by
    change earlier.index.IsJoin (run s r allowed {}).index (run s r allowed earlier.index).index
    rw [index_run, index_run]
    exact isJoin_sequential _ _
  refine ⟨hjoin, hjoin.sameAnswers_iff (coherent_runs s jobs Index.coherent_empty), fun id => ?_⟩
  refine (mem_ids_after_run he hs hu allowed earlier.index _ earlier.store id).trans ?_
  change _ ↔ ∃ x ∈ (run s r allowed {}).index.symbols, _
  rw [index_run, sequential_symbols]
  rfl

/-- A repository of one file with one function. -/
def oneFunction (path : String) : Repository where
  files := [path]
  read _ := some "def f(): pass\n"

def storing : Settings where
  embedder := some (.hashing 256)
  hasStore := true

/-- Two runs, between which the file may be moved. -/
def runTwice (first second : String) : Workspace :=
  (Workspace.run storing {} (oneFunction first, none)).run storing (oneFunction second, none)

theorem moved_file_stays_indexed :
    storing.hasStore = true ∧ (Embedder.hashing 256).IsUniform ∧
      (runTwice "a.py" "b.py").index.symbols.map (·.id) =
        ["a.py:f:function:1", "b.py:f:function:1"] ∧
      ∀ id, id ∈ (runTwice "a.py" "b.py").store.rows.map (·.id) ↔ id = "b.py:f:function:1" := by
  have hu := Embedder.hashing_isUniform 256
  have hfirst : (run storing (oneFunction "a.py") none {}).index.symbols.map (·.id) =
      ["a.py:f:function:1"] := by decide +kernel
  have hfresh : (run storing (oneFunction "b.py") none {}).index.symbols.map (·.id) =
      ["b.py:f:function:1"] := by decide +kernel
  obtain ⟨hjoin, _, hids⟩ := runs_join_earlier storing (.hashing 256) rfl rfl hu
    [(oneFunction "a.py", none)] (oneFunction "b.py") none
  rw [List.foldl_cons, List.foldl_nil] at hjoin hids
  refine ⟨rfl, hu, ?_, fun id => (hids id).trans ?_⟩
  · rw [runTwice, hjoin.symbols, List.map_append, hfresh, Workspace.run_index, hfirst]
    rfl
  · rw [← List.mem_singleton, ← hfresh, List.mem_map]
    simp only [Embedder.hashing_isSome (show (0 : Int) < 256 by decide), true_and]

theorem second_run_indexes_twice :
    (runTwice "a.py" "a.py").index.symbols.map (·.id) =
        ["a.py:f:function:1", "a.py:f:function:1"] ∧
      ¬ (runTwice "a.py" "a.py").index.SameAnswers
        (run storing (oneFunction "a.py") none {}).index := by
  have htwice : (runTwice "a.py" "a.py").index.symbols.map (·.id) =
      ["a.py:f:function:1", "a.py:f:function:1"] := by decide +kernel
  have hfresh : (run storing (oneFunction "a.py") none {}).index.symbols.map (·.id) =
      ["a.py:f:function:1"] := by decide +kernel
  refine ⟨htwice, fun hsame => ?_⟩
  rw [hsame.symbols, hfresh] at htwice
  cases htwice

end Indexing

end PullReview
