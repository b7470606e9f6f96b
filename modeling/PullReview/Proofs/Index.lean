import PullReview.Index
import PullReview.Proofs.Table

/-!
# What an index holds

What adding a file does to each query: the symbols of a file are appended to what is there, and of
a name the last symbol counts. Files added to two indexes alike keep what one has more than the
other.
-/

namespace PullReview

namespace Index

section

variable (ix : Index) (path : String) (symbols : List Symbol) (calls : List CallEdge)

private theorem fileSymbols_add (p : String) :
    (ix.add path symbols calls).fileSymbols p =
      ix.fileSymbols p ++ if p = path then symbols else [] := by
  rw [fileSymbols, add, Table.get?_alter, fileSymbols]
  by_cases hp : p = path
  · simp [hp]
  · simp [hp]

theorem symbol?_add (name : String) :
    (ix.add path symbols calls).symbol? name =
      (symbols.reverse.find? (·.name == name)).or (ix.symbol? name) := by
  have hget := Table.get?_foldl_insert Symbol.name id symbols ix.names name
  rwa [Option.map_id] at hget

private theorem mem_keys_add (p : String) :
    p ∈ (ix.add path symbols calls).files.keys ↔ p ∈ ix.files.keys ∨ p = path :=
  Table.keys_alterEntries path _ ix.files.entries p

end

/-! ### One index on top of another -/

/-- An index that holds what two others hold, the first before the second. -/
structure IsJoin (first second joined : Index) : Prop where
  symbols : joined.symbols = first.symbols ++ second.symbols
  calls : joined.calls = first.calls ++ second.calls
  fileSymbols : ∀ path, joined.fileSymbols path = first.fileSymbols path ++ second.fileSymbols path
  files : ∀ path, path ∈ joined.files.keys ↔ path ∈ first.files.keys ∨ path ∈ second.files.keys
  symbol? : ∀ name, joined.symbol? name = (second.symbol? name).or (first.symbol? name)

/-- Two indexes that answer every query alike. -/
structure SameAnswers (ix other : Index) : Prop where
  symbols : ix.symbols = other.symbols
  calls : ix.calls = other.calls
  fileSymbols : ∀ path, ix.fileSymbols path = other.fileSymbols path
  files : ∀ path, path ∈ ix.files.keys ↔ path ∈ other.files.keys
  symbol? : ∀ name, ix.symbol? name = other.symbol? name

/-- All symbols that the queries of an index give are among its symbols. -/
structure Coherent (ix : Index) : Prop where
  file : ∀ path, ∀ s ∈ ix.fileSymbols path, s ∈ ix.symbols
  name : ∀ name s, ix.symbol? name = some s → s ∈ ix.symbols

section

variable {first second joined ix : Index}

theorem isJoin_empty (ix : Index) : IsJoin ix {} ix where
  symbols := (List.append_nil _).symm
  calls := (List.append_nil _).symm
  fileSymbols _ := (List.append_nil _).symm
  files _ := by simp [Table.keys]
  symbol? _ := rfl

/-- One step: what is added to the second index is added to both. -/
theorem IsJoin.add (h : IsJoin first second joined) (path : String) (symbols : List Symbol)
    (calls : List CallEdge) :
    IsJoin first (second.add path symbols calls) (joined.add path symbols calls) where
  symbols := by
    change joined.symbols ++ symbols = first.symbols ++ (second.symbols ++ symbols)
    rw [h.symbols, List.append_assoc]
  calls := by
    change joined.calls ++ calls = first.calls ++ (second.calls ++ calls)
    rw [h.calls, List.append_assoc]
  fileSymbols p := by
    rw [fileSymbols_add, fileSymbols_add, h.fileSymbols, List.append_assoc]
  files p := by
    rw [mem_keys_add, mem_keys_add, h.files, or_assoc]
  symbol? name := by
    rw [symbol?_add, symbol?_add, h.symbol?, Option.or_assoc]

theorem coherent_empty : Coherent {} where
  file _ _ hs := absurd hs List.not_mem_nil
  name _ _ hs := nomatch hs

theorem Coherent.add (h : Coherent ix) (path : String) (symbols : List Symbol)
    (calls : List CallEdge) : Coherent (ix.add path symbols calls) where
  file p s hs := by
    rw [fileSymbols_add] at hs
    apply List.mem_append.mpr
    rcases List.mem_append.mp hs with hs | hs
    · exact Or.inl (h.file p s hs)
    · split at hs
      · exact Or.inr hs
      · exact absurd hs List.not_mem_nil
  name name s hs := by
    rw [symbol?_add, Option.or_eq_some_iff] at hs
    apply List.mem_append.mpr
    rcases hs with hs | ⟨_, hs⟩
    · exact Or.inr (List.mem_reverse.mp (List.mem_of_find?_eq_some hs))
    · exact Or.inl (h.name name s hs)

/-- The first of two joined indexes does not show if and only if it holds nothing but files that
the second has too. -/
theorem IsJoin.sameAnswers_iff (h : IsJoin first second joined) (hfirst : Coherent first) :
    joined.SameAnswers second ↔ first.symbols = [] ∧ first.calls = [] ∧
      ∀ path ∈ first.files.keys, path ∈ second.files.keys := by
  constructor
  · intro hsame
    have hsymbols := h.symbols.symm.trans hsame.symbols
    have hcalls := h.calls.symm.trans hsame.calls
    refine ⟨List.append_left_eq_self.mp hsymbols, List.append_left_eq_self.mp hcalls, ?_⟩
    exact fun path hpath => (hsame.files path).mp ((h.files path).mpr (Or.inl hpath))
  · rintro ⟨hsymbols, hcalls, hfiles⟩
    refine ⟨?_, ?_, fun path => ?_, fun path => ?_, fun name => ?_⟩
    · rw [h.symbols, hsymbols, List.nil_append]
    · rw [h.calls, hcalls, List.nil_append]
    · have hnone : first.fileSymbols path = [] := by
        apply List.eq_nil_iff_forall_not_mem.mpr
        intro s hs
        simpa [hsymbols] using hfirst.file path s hs
      rw [h.fileSymbols, hnone, List.nil_append]
    · rw [h.files]
      exact ⟨fun hpath => hpath.elim (hfiles path) id, Or.inr⟩
    · have hnone : first.symbol? name = none := by
        apply Option.eq_none_iff_forall_ne_some.mpr
        intro s hs
        simpa [hsymbols] using hfirst.name name s hs
      rw [h.symbol?, hnone, Option.or_none]

end

/-! ### Indexes of files -/

/-- An index that files were added to, each with symbols of its own. -/
inductive Built : Index → Prop where
  | empty : Built {}
  | add {ix : Index} (before : Built ix) (path : String) (symbols : List Symbol)
      (calls : List CallEdge) (own : ∀ s ∈ symbols, s.file = path) :
      Built (ix.add path symbols calls)

/-- The symbols of a file are the symbols of the index that are in it. -/
theorem Built.fileSymbols_eq {ix : Index} (h : Built ix) (path : String) :
    ix.fileSymbols path = ix.symbols.filter (·.file == path) := by
  induction h with
  | empty => rfl
  | @add ix before p symbols calls own ih =>
      have hown : symbols.filter (·.file == path) = if path = p then symbols else [] := by
        by_cases hp : path = p
        · rw [if_pos hp, List.filter_eq_self]
          intro s hs
          simp [own s hs, hp]
        · rw [if_neg hp, List.filter_eq_nil_iff]
          intro s hs
          simp [own s hs, Ne.symm hp]
      rw [fileSymbols_add, ih, ← hown, ← List.filter_append]
      rfl

end Index

end PullReview
