import PullReview.Repository.Indexing

/-!
# Indexing in batches

Cutting the files into batches changes nothing: a run, cancelled or not, leaves the index, the
counts and the written embeddings that its files give one by one, and the order in which the files
of a batch are done does not show. Only the reports tell the batches apart.
-/

namespace PullReview

/-! ### Parts of a list -/

namespace Batch

variable {α : Type}

private theorem flatten_take_partsOf (size k : Nat) {fuel : Nat} {xs : List α}
    (h : xs.length ≤ fuel) :
    ((partsOf size fuel xs).take k).flatten = xs.take (k * (size + 1)) := by
  induction fuel generalizing k xs with
  | zero =>
      obtain rfl := List.eq_nil_of_length_eq_zero (Nat.le_zero.mp h)
      simp [partsOf]
  | succ fuel ih =>
      cases xs with
      | nil => simp [partsOf]
      | cons x xs =>
          cases k with
          | zero => simp
          | succ k =>
              have hrest : ((x :: xs).drop (size + 1)).length ≤ fuel := by
                simp only [List.length_drop, List.length_cons] at h ⊢
                omega
              rw [partsOf, List.take_succ_cons, List.flatten_cons, ih k hrest, ← List.take_add,
                Nat.succ_mul, Nat.add_comm]
              simp

private theorem length_partsOf_le (size fuel : Nat) (xs : List α) :
    (partsOf size fuel xs).length ≤ fuel := by
  induction fuel generalizing xs with
  | zero => simp [partsOf]
  | succ fuel ih =>
      cases xs with
      | nil => simp [partsOf]
      | cons x xs =>
          rw [partsOf, List.length_cons]
          · have := ih ((x :: xs).drop (size + 1))
            omega
          · simp

private theorem flatten_partsOf (size : Nat) (xs : List α) :
    (partsOf size xs.length xs).flatten = xs := by
  have hcut := flatten_take_partsOf size xs.length (Nat.le_refl xs.length)
  rw [List.take_of_length_le (length_partsOf_le size xs.length xs)] at hcut
  rw [hcut, List.take_of_length_le (Nat.le_mul_of_pos_right _ (Nat.succ_pos size))]

end Batch

namespace Indexing

/-! ### Files one by one -/

/-- The files that could be read and extracted, with what they hold. -/
def successes (files : List Outcome) : List (String × Extract.Extracted) :=
  files.filterMap fun f => f.found.map fun found => (f.path, found)

/-- The files that could not. -/
def failures (files : List Outcome) : List String :=
  (files.filter (·.found.isNone)).map (·.path)

def foundSymbols (files : List Outcome) : List Symbol :=
  (successes files).flatMap (·.2.symbols)

/-- The index after the successful files were added in their order. -/
def sequential (ix : Index) (files : List Outcome) : Index :=
  (successes files).foldl (fun ix f => ix.add f.1 f.2.symbols f.2.calls) ix

/-- The embeddings that are made of symbols for the store. -/
def embedded (s : Settings) (symbols : List Symbol) : List (Symbol × List Float) :=
  match s.embedder with
  | some e => if s.hasStore then e.embedAll symbols else []
  | none => []

/-- What a store is told to write, all batches together. -/
def written (commands : List StoreCommand) : List (Symbol × List Float) :=
  commands.flatMap fun
    | .clear => []
    | .write batch => batch

section

variable (xs ys : List Outcome)

@[simp] theorem successes_append : successes (xs ++ ys) = successes xs ++ successes ys :=
  List.filterMap_append

@[simp] theorem failures_append : failures (xs ++ ys) = failures xs ++ failures ys := by
  simp [failures]

@[simp] theorem foundSymbols_append :
    foundSymbols (xs ++ ys) = foundSymbols xs ++ foundSymbols ys := by
  simp [foundSymbols]

private theorem sequential_append (ix : Index) :
    sequential ix (xs ++ ys) = sequential (sequential ix xs) ys := by
  simp [sequential]

private theorem length_successes_add_failures :
    (successes xs).length + (failures xs).length = xs.length := by
  induction xs with
  | nil => rfl
  | cons f xs ih =>
      cases hf : f.found <;>
        simp only [successes, failures, List.filterMap_cons, List.filter_cons, hf, Option.map_none,
          Option.map_some, Option.isNone_none, Option.isNone_some, if_true, if_false,
          Bool.false_eq_true, List.map_cons, List.length_cons] at ih ⊢ <;>
        omega

theorem sequential_symbols (ix : Index) :
    (sequential ix xs).symbols = ix.symbols ++ foundSymbols xs := by
  rw [sequential, foundSymbols]
  induction successes xs generalizing ix with
  | nil => simp
  | cons f rest ih =>
      rw [List.foldl_cons, ih, List.flatMap_cons, ← List.append_assoc]
      rfl

end

private theorem embedded_append (s : Settings) (xs ys : List Symbol) :
    embedded s (xs ++ ys) = embedded s xs ++ embedded s ys := by
  rw [embedded, embedded, embedded]
  split
  · split
    · exact List.filterMap_append
    · rfl
  · rfl

/-! ### One batch -/

theorem foldl_addFile (files : List Outcome) (run : Run) (batch : List Symbol) :
    files.foldl addFile (run, batch) =
      ({ run with
          index := sequential run.index files
          progress := { run.progress with
            processedFiles := run.progress.processedFiles + (successes files).length
            indexedSymbols := run.progress.indexedSymbols + (foundSymbols files).length
            errors := run.progress.errors + (failures files).length
            failedFiles := run.progress.failedFiles ++ failures files } },
        batch ++ foundSymbols files) := by
  induction files generalizing run batch with
  | nil => simp [successes, failures, foundSymbols, sequential]
  | cons f files ih =>
      rw [List.foldl_cons, addFile]
      cases hf : f.found with
      | none =>
          rw [ih]
          simp [successes, failures, foundSymbols, sequential, hf, Nat.add_assoc, Nat.add_comm 1]
      | some found =>
          rw [ih]
          simp [successes, failures, foundSymbols, sequential, hf, Nat.add_assoc, Nat.add_comm 1]

/-- A run has the effect of the files `done`, one by one, on the index `ix`. -/
structure Tally (s : Settings) (ix : Index) (total : Nat) (done : List Outcome) (run : Run) :
    Prop where
  index : run.index = sequential ix done
  progress : run.progress =
    { totalFiles := total
      processedFiles := (successes done).length
      indexedSymbols := (foundSymbols done).length
      generatedEmbeddings := (embedded s (foundSymbols done)).length
      errors := (failures done).length
      failedFiles := failures done }
  written : written run.commands = embedded s (foundSymbols done)

namespace Tally

variable {s : Settings} {ix : Index} {total : Nat} {done : List Outcome} {run : Run}

theorem start (s : Settings) (ix : Index) (total : Nat) :
    Tally s ix total [] (start s ix total) := by
  have hnone : embedded s [] = [] := by
    rw [embedded]
    split
    · split <;> rfl
    · rfl
  refine ⟨rfl, ?_, ?_⟩
  · simp [Indexing.start, successes, failures, foundSymbols, hnone]
  · rw [Indexing.start, foundSymbols, successes, List.filterMap_nil, List.flatMap_nil, hnone]
    split <;> rfl

private theorem embedBatch_eq (s : Settings) (run : Run) (symbols : List Symbol) :
    (embedBatch s run symbols).index = run.index ∧
      (embedBatch s run symbols).progress = { run.progress with
        generatedEmbeddings := run.progress.generatedEmbeddings + (embedded s symbols).length } ∧
      Indexing.written (embedBatch s run symbols).commands =
        Indexing.written run.commands ++ embedded s symbols := by
  rw [embedBatch, embedded]
  cases s.embedder with
  | none => simp
  | some e =>
      cases s.hasStore with
      | false => simp
      | true =>
          cases symbols with
          | nil => simp [Embedder.embedAll]
          | cons x xs => simp [Indexing.written]

theorem addBatch (h : Tally s ix total done run) (files : List Outcome) :
    Tally s ix total (done ++ files) (addBatch s run files) := by
  rw [Indexing.addBatch, foldl_addFile, List.nil_append]
  obtain ⟨hindex, hprogress, hwritten⟩ := embedBatch_eq s
    { run with
      index := sequential run.index files
      progress := { run.progress with
        processedFiles := run.progress.processedFiles + (successes files).length
        indexedSymbols := run.progress.indexedSymbols + (foundSymbols files).length
        errors := run.progress.errors + (failures files).length
        failedFiles := run.progress.failedFiles ++ failures files } } (foundSymbols files)
  refine ⟨?_, ?_, ?_⟩
  · rw [hindex, sequential_append, ← h.index]
  · rw [hprogress, h.progress]
    simp [embedded_append]
  · rw [hwritten, h.written, foundSymbols_append, embedded_append]

private theorem foldl_addBatch (h : Tally s ix total done run) (parts : List (List Outcome)) :
    Tally s ix total (done ++ parts.flatten) (parts.foldl (Indexing.addBatch s) run) := by
  induction parts generalizing done run with
  | nil => simpa using h
  | cons files parts ih =>
      rw [List.foldl_cons, List.flatten_cons, ← List.append_assoc]
      exact ih (h.addBatch files)

end Tally

/-! ### Whole runs -/

/-- The number of files in a batch. -/
def batchLength (s : Settings) : Nat := (max 1 s.batchSize).toNat

/-- The files that a run gets to: all of them, or those of the first `allowed` batches. -/
def reached (s : Settings) (allowed : Option Nat) (files : List Outcome) : List Outcome :=
  match allowed with
  | none => files
  | some k => files.take (min (k * batchLength s) files.length)

private theorem flatten_batches (s : Settings) (allowed : Option Nat) (files : List Outcome) :
    (batches s allowed files).flatten = reached s allowed files := by
  have hlen : (max 1 s.batchSize).toNat - 1 + 1 = batchLength s := by
    rw [batchLength]
    omega
  cases allowed with
  | none => exact Batch.flatten_partsOf _ files
  | some k =>
      have hcut := Batch.flatten_take_partsOf ((max 1 s.batchSize).toNat - 1) k
        (Nat.le_refl files.length)
      rw [hlen] at hcut
      exact hcut.trans List.take_eq_take_min

theorem indexFiles_tally (s : Settings) (allowed : Option Nat) (ix : Index)
    (files : List Outcome) :
    Tally s ix files.length (reached s allowed files) (indexFiles s allowed ix files) := by
  have hrun := (Tally.start s ix files.length).foldl_addBatch (batches s allowed files)
  rwa [List.nil_append, flatten_batches] at hrun

/-! ### The order of completion -/

/-- The tasks of a batch finish one after another in some order, and each leaves its result in its
own place. -/
inductive Settling (batch : List Outcome) : List (Option Outcome) → Prop where
  | submitted : Settling batch (List.replicate batch.length none)
  | finish {places : List (Option Outcome)} {i : Nat} (before : Settling batch places)
      (pending : places[i]? = some none) : Settling batch (places.set i batch[i]?)

/-- Runs over batches in which the tasks of a batch finish in any order; the batch is added when all
of its places are filled. -/
inductive Runs (s : Settings) : Run → List (List Outcome) → Run → Prop where
  | finished (run : Run) : Runs s run [] run
  | batch {run final : Run} {files results : List Outcome} {rest : List (List Outcome)}
      (settled : Settling files (results.map some))
      (next : Runs s (addBatch s run results) rest final) : Runs s run (files :: rest) final

namespace Settling

variable {batch : List Outcome} {places : List (Option Outcome)}

theorem length_eq (h : Settling batch places) : places.length = batch.length := by
  induction h with
  | submitted => exact List.length_replicate
  | finish _ _ ih => rw [List.length_set, ih]

private theorem getElem?_eq (h : Settling batch places) {i : Nat} {f : Outcome}
    (hf : places[i]? = some (some f)) : batch[i]? = some f := by
  induction h with
  | submitted => simp [List.getElem?_replicate] at hf
  | @finish places j _ pending ih =>
      by_cases hij : j = i
      · subst hij
        have hj := (List.getElem?_eq_some_iff.mp pending).1
        rw [List.getElem?_set_self hj] at hf
        exact Option.some.inj hf
      · rw [List.getElem?_set_ne hij] at hf
        exact ih hf

private theorem results_eq {results : List Outcome} (h : Settling batch (results.map some)) :
    results = batch := by
  apply List.ext_getElem?
  intro i
  cases hi : results[i]? with
  | some f => exact (h.getElem?_eq (by rw [List.getElem?_map, hi]; rfl)).symm
  | none =>
      have hlen := h.length_eq
      rw [List.length_map] at hlen
      rw [List.getElem?_eq_none_iff] at hi
      exact (List.getElem?_eq_none_iff.mpr (by omega)).symm

private theorem inOrder (batch : List Outcome) : Settling batch (batch.map some) := by
  have hfilled : ∀ n ≤ batch.length, Settling batch
      ((batch.take n).map some ++ List.replicate (batch.length - n) none) := by
    intro n hn
    induction n with
    | zero => exact .submitted
    | succ n ih =>
        have hlen : ((batch.take n).map some).length = n := by
          rw [List.length_map, List.length_take]
          omega
        have hrest : batch.length - n = batch.length - (n + 1) + 1 := by omega
        have hnext := (ih (by omega)).finish (i := n) (by
          rw [List.getElem?_append_right (by omega), hlen, hrest]
          simp)
        rw [List.set_append_right _ _ (by omega), hlen, Nat.sub_self, hrest, List.replicate_succ,
          List.set_cons_zero, List.getElem?_eq_getElem (by omega)] at hnext
        rw [List.take_succ_eq_append_getElem (by omega), List.map_append, List.append_assoc]
        exact hnext
  simpa using hfilled batch.length (Nat.le_refl _)

end Settling

private theorem runs_iff {s : Settings} {run final : Run} {parts : List (List Outcome)} :
    Runs s run parts final ↔ final = parts.foldl (addBatch s) run := by
  constructor
  · intro h
    induction h with
    | finished => rfl
    | batch settled _ ih => rw [List.foldl_cons, ← settled.results_eq, ih]
  · rintro rfl
    induction parts generalizing run with
    | nil => exact .finished run
    | cons files parts ih => exact .batch (.inOrder files) ih

/-- A run in batches refines the sequential one. Whatever the order in which tasks finish, it leaves
the index of the files it reached, added one by one, and accounts for each of them; a run that is
cancelled after `k` batches reached that many batches of files. A run that is not cancelled leaves
the same for every size of the batches. -/
theorem indexFiles_refines_sequential (s : Settings) (files : List Outcome) :
    (∀ (allowed : Option Nat) (r : Run),
      Runs s (start s {} files.length) (batches s allowed files) r ↔
        r = indexFiles s allowed {} files) ∧
    (∀ allowed : Option Nat,
      let done := reached s allowed files
      let r := indexFiles s allowed {} files
      r.index = sequential {} done ∧
      r.progress.processedFiles + r.progress.errors = done.length ∧
      r.progress.failedFiles = failures done ∧
      r.progress.failedFiles.length = r.progress.errors ∧
      r.progress.indexedSymbols = r.index.symbols.length) ∧
    (∀ k : Nat, (reached s (some k) files).length = min (k * batchLength s) files.length) ∧
    ∀ size : Int,
      let r := indexFiles s none {} files
      let r' := indexFiles { s with batchSize := size } none {} files
      r'.index = r.index ∧ r'.progress = r.progress ∧
        written r'.commands = written r.commands := by
  refine ⟨fun allowed r => runs_iff, fun allowed => ?_, fun k => ?_, fun size => ?_⟩
  · obtain ⟨hindex, hprogress, _⟩ := indexFiles_tally s allowed {} files
    refine ⟨hindex, ?_, ?_, ?_, ?_⟩
    · rw [hprogress]
      exact length_successes_add_failures _
    · rw [hprogress]
    · rw [hprogress]
    · rw [hprogress, hindex, sequential_symbols]
      rfl
  · rw [reached, List.length_take]
    omega
  · obtain ⟨hindex, hprogress, hwritten⟩ := indexFiles_tally s none {} files
    obtain ⟨hindex', hprogress', hwritten'⟩ :=
      indexFiles_tally { s with batchSize := size } none {} files
    exact ⟨hindex'.trans hindex.symm, hprogress'.trans hprogress.symm,
      hwritten'.trans hwritten.symm⟩

end Indexing

end PullReview
