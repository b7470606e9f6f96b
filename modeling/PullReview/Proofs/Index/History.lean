import Mathlib.Algebra.GroupWithZero.Nat
import Mathlib.Data.List.Induction
import PullReview.Proofs.Index
import PullReview.Proofs.Table.Order

/-!
# The history of an index

An index keeps the symbols it was given in three places, each with a rule of its own: all of them in
order, those of a file together, and of a name the last one. After any operations these agree, and
they are what the additions since the last fresh start make them. A file that cannot be extracted
is no addition.
-/

namespace PullReview.Index

/-- The records of one file. -/
structure Addition where
  path : String
  symbols : List Symbol
  calls : List CallEdge

/-- What can be done with an index: records are added, a file is extracted and added, or the index
is cleared. -/
inductive Operation where
  | add (records : Addition)
  | source (path content : String)
  | clear

namespace Operation

variable {ε : Type} (extract : String → String → Except ε Extract.Extracted)

/-- What an operation makes of an index; it stays as it is if a file cannot be extracted. -/
def run (ix : Index) : Operation → Index
  | add a => ix.add a.path a.symbols a.calls
  | source path content =>
      match ix.addFrom extract path content with
      | .ok (next, _) => next
      | .error _ => ix
  | clear => {}

def isClear : Operation → Bool
  | clear => true
  | _ => false

/-- The records that an operation adds, if it succeeds. -/
def addition? : Operation → Option Addition
  | add a => some a
  | source path content =>
      (extract path content).toOption.map fun found => ⟨path, found.symbols, found.calls⟩
  | clear => none

/-- The operations after the last clear. -/
def sinceClear (ops : List Operation) : List Operation :=
  (ops.reverse.takeWhile fun op => !op.isClear).reverse

/-- The additions that succeeded since the last clear. -/
def additions (ops : List Operation) : List Addition :=
  (sinceClear ops).filterMap (addition? extract)

private theorem additions_concat (ops : List Operation) (op : Operation) :
    additions extract (ops ++ [op]) =
      if op.isClear then [] else additions extract ops ++ (op.addition? extract).toList := by
  rw [additions, sinceClear, List.reverse_append, List.reverse_singleton, List.singleton_append,
    List.takeWhile_cons]
  cases hclear : op.isClear with
  | true => rfl
  | false =>
      cases hadded : op.addition? extract <;>
        simp [additions, sinceClear, hadded]

end Operation

/-! ### What additions make of an index -/

/-- The index that some additions make. -/
structure Holds (ix : Index) (adds : List Addition) : Prop where
  symbols : ix.symbols = adds.flatMap (·.symbols)
  calls : ix.calls = adds.flatMap (·.calls)
  paths : IsFirstOccurrences (adds.map (·.path)) ix.files.keys
  files : ∀ path, ix.files.get? path =
    if path ∈ adds.map (·.path) then some ((adds.filter (·.path = path)).flatMap (·.symbols))
    else none
  names : IsFirstOccurrences (ix.symbols.map (·.name)) ix.names.keys
  last : ∀ name, ix.names.get? name = (ix.symbols.filter (·.name = name)).getLast?
  total : (ix.files.entries.map (·.2.length)).sum = ix.symbols.length

theorem holds_empty : Holds {} [] where
  symbols := rfl
  calls := rfl
  paths := .empty
  files _ := rfl
  names := .empty
  last _ := rfl
  total := rfl

variable {ix other : Index} {adds : List Addition}

/-- One step: the records of a file are added. -/
theorem Holds.add (h : ix.Holds adds) (a : Addition) :
    (ix.add a.path a.symbols a.calls).Holds (adds ++ [a]) where
  symbols := by
    rw [Index.add, h.symbols, List.flatMap_append, List.flatMap_singleton]
  calls := by
    rw [Index.add, h.calls, List.flatMap_append, List.flatMap_singleton]
  paths := by
    rw [Index.add, Table.keys_alter, List.map_append, List.map_singleton]
    exact h.paths.addNew a.path
  files path := by
    have hcong : (ix.add a.path a.symbols a.calls).files.get? path =
        if path = a.path then some ((ix.files.get? a.path).getD [] ++ a.symbols)
        else ix.files.get? path := Table.get?_alter ..
    rw [hcong, h.files, h.files]
    simp only [List.map_append, List.map_singleton, List.mem_append, List.mem_singleton,
      List.filter_append, List.flatMap_append]
    by_cases hpath : path = a.path
    · subst hpath
      by_cases hknown : a.path ∈ adds.map (·.path)
      · simp [hknown]
      · have hnone : adds.filter (·.path = a.path) = [] := by
          rw [List.filter_eq_nil_iff]
          intro b hb heq
          exact hknown (List.mem_map.mpr ⟨b, hb, by simpa using heq⟩)
        simp [hknown, hnone]
    · simp [hpath, Ne.symm hpath]
  names := by
    have hkeys : (ix.add a.path a.symbols a.calls).names.keys =
        (a.symbols.map (·.name)).foldl addNew ix.names.keys :=
      Table.keys_foldl_alter Symbol.name (fun s _ => s) a.symbols ix.names
    rw [hkeys, Index.add, List.map_append]
    exact h.names.foldl_addNew _
  last name := by
    have hget : (ix.add a.path a.symbols a.calls).names.get? name =
        (a.symbols.reverse.find? (·.name == name)).or (ix.names.get? name) :=
      symbol?_add ix a.path a.symbols a.calls name
    rw [hget, h.last, Index.add, List.filter_append, List.getLast?_append, List.getLast?_filter,
      List.getLast?_filter]
    rfl
  total := by
    have hlength := (Table.flatMap_alter_append ix.files a.path a.symbols).length_eq
    rw [List.length_append, List.length_flatMap, List.length_flatMap, h.total] at hlength
    rw [Index.add, hlength, List.length_append]

/-- Additions make one index only. -/
theorem Holds.unique (h : ix.Holds adds) (hother : other.Holds adds) : ix = other := by
  have hsymbols : ix.symbols = other.symbols := h.symbols.trans hother.symbols.symm
  have hcalls : ix.calls = other.calls := h.calls.trans hother.calls.symm
  have hfiles : ix.files = other.files := by
    apply Table.eq_of_keys_of_get? (h.paths.unique hother.paths) h.paths.nodup
    intro path
    rw [h.files, hother.files]
  have hnames : ix.names = other.names := by
    have hkeys := hother.names
    rw [← hsymbols] at hkeys
    apply Table.eq_of_keys_of_get? (h.names.unique hkeys) h.names.nodup
    intro name
    rw [h.last, hother.last, hsymbols]
  obtain ⟨symbols, calls, files, names⟩ := ix
  subst hsymbols hcalls hfiles hnames
  rfl

/-! ### Runs -/

variable {ε : Type} (extract : String → String → Except ε Extract.Extracted)

private theorem run_source (ix : Index) (path content : String) :
    (∃ found, extract path content = .ok found ∧
        Operation.run extract ix (.source path content) = ix.add path found.symbols found.calls) ∨
      ∃ fault, extract path content = .error fault ∧
        ix.addFrom extract path content = .error fault ∧
        Operation.run extract ix (.source path content) = ix := by
  cases hfound : extract path content with
  | ok found => exact Or.inl ⟨found, rfl, by simp [Operation.run, addFrom, hfound]⟩
  | error fault => exact Or.inr ⟨fault, rfl, by simp [Operation.run, addFrom, hfound]⟩

/-- One step: an operation clears the index, adds its records to it, or leaves it alone. -/
theorem run_cases (ix : Index) (op : Operation) :
    (op.isClear = true ∧ op.run extract ix = {}) ∨
      (op.isClear = false ∧ ∃ a, op.addition? extract = some a ∧
        op.run extract ix = ix.add a.path a.symbols a.calls) ∨
      (op.isClear = false ∧ op.addition? extract = none ∧ op.run extract ix = ix) := by
  cases op with
  | add a => exact Or.inr (Or.inl ⟨rfl, a, rfl, rfl⟩)
  | source path content =>
      rcases run_source extract ix path content with
        ⟨found, hfound, hrun⟩ | ⟨fault, hfault, -, hrun⟩
      · refine Or.inr (Or.inl ⟨rfl, ⟨path, found.symbols, found.calls⟩, ?_, hrun⟩)
        simp [Operation.addition?, hfound, Except.toOption]
      · refine Or.inr (Or.inr ⟨rfl, ?_, hrun⟩)
        simp [Operation.addition?, hfault, Except.toOption]
  | clear => exact Or.inl ⟨rfl, rfl⟩

/-- A whole run on a fresh index. -/
theorem holds_run (ops : List Operation) :
    (ops.foldl (Operation.run extract) {}).Holds (Operation.additions extract ops) := by
  -- from the end, since the last clear decides what counts before it
  induction ops using List.reverseRecOn with
  | nil => exact holds_empty
  | append_singleton ops op ih =>
      rw [List.foldl_append, List.foldl_cons, List.foldl_nil, Operation.additions_concat]
      rcases run_cases extract (ops.foldl (Operation.run extract) {}) op with
        ⟨hclear, hrun⟩ | ⟨hclear, a, hadded, hrun⟩ | ⟨hclear, hadded, hrun⟩
      · rw [hclear, hrun]
        exact holds_empty
      · rw [hclear, hadded, hrun]
        exact ih.add a
      · rw [hclear, hadded, hrun]
        simpa using ih

/-- After any operations an index is the one that the additions since the last clear make, and no
other; a file that cannot be extracted leaves it as it is. -/
theorem run_determined_by_additions (ops : List Operation) :
    let current := ops.foldl (Operation.run extract) {}
    (∀ ix : Index, ix = current ↔ ix.Holds (Operation.additions extract ops)) ∧
      ∀ path content,
        (∃ found, extract path content = .ok found ∧
          Operation.run extract current (.source path content) =
            current.add path found.symbols found.calls) ∨
        (∃ fault, extract path content = .error fault ∧
          current.addFrom extract path content = .error fault ∧
          Operation.run extract current (.source path content) = current) := by
  have hholds := holds_run extract ops
  refine ⟨fun ix => ⟨?_, fun h => h.unique hholds⟩, run_source extract _⟩
  rintro rfl
  exact hholds

end PullReview.Index
