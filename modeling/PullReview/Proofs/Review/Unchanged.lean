import PullReview.Proofs.Table
import PullReview.Review

/-!
# Reviews of files whose definitions stay

A review compares a symbol with the last one of its name and kind in the file. If a change leaves
all definitions as they are, no symbol counts as changed exactly when no file has two different
definitions of one name and kind, and then the review has nothing to report.
-/

namespace PullReview

/-- What a review compares of a symbol. -/
def Symbol.definition (s : Symbol) : String × String × Option String × Option String :=
  (s.name, s.kind, s.signature, s.code)

/-- All symbols of one name and kind have the same signature and code. -/
def IsUnambiguous (symbols : List Symbol) : Prop :=
  ∀ a ∈ symbols, ∀ b ∈ symbols, a.name = b.name → a.kind = b.kind →
    a.signature = b.signature ∧ a.code = b.code

instance IsUnambiguous.decidable (symbols : List Symbol) : Decidable (IsUnambiguous symbols) :=
  inferInstanceAs (Decidable (∀ a ∈ symbols, ∀ b ∈ symbols, a.name = b.name → a.kind = b.kind →
    a.signature = b.signature ∧ a.code = b.code))

namespace Review

/-- Whether a review reads the symbols of a file. -/
def isRead (f : ChangedFile) : Bool := f.content.isSome && Extract.supports f.filename

/-- A file that is still there and whose definitions are those of the index, one by one. -/
def KeepsDefinitions (d : Python.Dialect) (ix : Index) (f : ChangedFile) : Prop :=
  f.isRemoved = false ∧ ∀ content, f.content = some content → Extract.supports f.filename →
    ∃ found, Extract.extract d f.filename content = .ok found ∧
      found.symbols.map Symbol.definition = (ix.fileSymbols f.filename).map Symbol.definition

private theorem keepsDefinitions_iff {d : Python.Dialect} {ix : Index} {f : ChangedFile} :
    (f.isRemoved = false ∧ (isRead f →
      (f.content.bind fun content => (Extract.extract d f.filename content).toOption).any
        fun found => decide (found.symbols.map Symbol.definition =
          (ix.fileSymbols f.filename).map Symbol.definition))) ↔ KeepsDefinitions d ix f := by
  refine and_congr_right fun _ => ?_
  cases hc : f.content with
  | none => simp [isRead, hc]
  | some content =>
      cases hr : Extract.extract d f.filename content <;>
        simp [isRead, hc, hr, Except.toOption]

instance KeepsDefinitions.decidable (d : Python.Dialect) (ix : Index) (f : ChangedFile) :
    Decidable (KeepsDefinitions d ix f) :=
  decidable_of_iff _ keepsDefinitions_iff

/-! ### One file -/

private theorem before?_eq_some {ix : Index} {path : String} {s old : Symbol}
    (h : before? ix path s = some old) :
    old ∈ ix.fileSymbols path ∧ old.name = s.name ∧ old.kind = s.kind := by
  have hmem := List.mem_of_find?_eq_some h
  have hkey := List.find?_some h
  simp only [Bool.and_eq_true, beq_iff_eq] at hkey
  exact ⟨List.mem_reverse.mp hmem, hkey⟩

private theorem exists_before? {ix : Index} {path : String} {s t : Symbol}
    (ht : t ∈ ix.fileSymbols path) (hname : t.name = s.name) (hkind : t.kind = s.kind) :
    ∃ old, before? ix path s = some old := by
  apply Option.isSome_iff_exists.mp
  rw [before?, List.find?_isSome]
  exact ⟨t, List.mem_reverse.mpr ht, by simp [hname, hkind]⟩

private theorem before?_congr (ix : Index) (path : String) {s t : Symbol} (hname : s.name = t.name)
    (hkind : s.kind = t.kind) : before? ix path s = before? ix path t := by
  rw [before?, before?, hname, hkind]

private theorem isChanged_eq_false_iff {ix : Index} {path : String} {s old : Symbol}
    (h : before? ix path s = some old) :
    isChanged ix path s = false ↔ old.signature = s.signature ∧ old.code = s.code := by
  rw [isChanged, h]
  simp only [Bool.or_eq_false_iff, bne_eq_false_iff_eq]

private theorem exists_definition_eq {xs ys : List Symbol}
    (h : xs.map Symbol.definition = ys.map Symbol.definition) {a : Symbol} (ha : a ∈ xs) :
    ∃ b ∈ ys, b.name = a.name ∧ b.kind = a.kind ∧ b.signature = a.signature ∧
      b.code = a.code := by
  have hmem : a.definition ∈ ys.map Symbol.definition := h ▸ List.mem_map_of_mem ha
  obtain ⟨b, hb, heq⟩ := List.mem_map.mp hmem
  simp only [Symbol.definition, Prod.mk.injEq] at heq
  exact ⟨b, hb, heq⟩

/-- Of the symbols of an unchanged file none counts as changed if and only if the file is
unambiguous. -/
theorem filter_isChanged_eq_nil_iff {ix : Index} {path : String} {symbols : List Symbol}
    (h : symbols.map Symbol.definition = (ix.fileSymbols path).map Symbol.definition) :
    symbols.filter (isChanged ix path) = [] ↔ IsUnambiguous (ix.fileSymbols path) := by
  rw [List.filter_eq_nil_iff]
  constructor
  · intro hnone a ha b hb hname hkind
    obtain ⟨a', ha', hna, hka, hsa, hca⟩ := exists_definition_eq h.symm ha
    obtain ⟨b', hb', hnb, hkb, hsb, hcb⟩ := exists_definition_eq h.symm hb
    obtain ⟨old, hold⟩ := exists_before? ha hna.symm hka.symm
    have hold' : before? ix path b' = some old := by
      rw [← hold]
      exact before?_congr ix path (by rw [hnb, hna, hname]) (by rw [hkb, hka, hkind])
    have ha'' := (isChanged_eq_false_iff hold).mp (by simpa using hnone a' ha')
    have hb'' := (isChanged_eq_false_iff hold').mp (by simpa using hnone b' hb')
    exact ⟨by rw [← hsa, ← hsb, ← ha''.1, ← hb''.1], by rw [← hca, ← hcb, ← ha''.2, ← hb''.2]⟩
  · intro hsame s hs
    obtain ⟨t, ht, hname, hkind, hsig, hcode⟩ := exists_definition_eq h hs
    obtain ⟨old, hold⟩ := exists_before? ht hname hkind
    obtain ⟨hmem, hname', hkind'⟩ := before?_eq_some hold
    have heq := hsame old hmem t ht (by rw [hname', hname]) (by rw [hkind', hkind])
    have : isChanged ix path s = false :=
      (isChanged_eq_false_iff hold).mpr ⟨heq.1.trans hsig, heq.2.trans hcode⟩
    simp [this]

/-! ### All files -/

/-- A table of symbols by file in which every file has the definitions of the index. -/
def KeepsIndex (ix : Index) (t : Table (List Symbol)) : Prop :=
  ∀ e ∈ t.entries, e.2.map Symbol.definition = (ix.fileSymbols e.1).map Symbol.definition

private theorem addFile_keepsIndex {d : Python.Dialect} {ix : Index} {t : Table (List Symbol)}
    {f : ChangedFile} (hf : KeepsDefinitions d ix f) (ht : KeepsIndex ix t) :
    ∃ t', addFile d t f = .ok t' ∧ KeepsIndex ix t' ∧
      ∀ k, k ∈ t'.keys ↔ k ∈ t.keys ∨ isRead f ∧ f.filename = k := by
  obtain ⟨hremoved, hfound⟩ := hf
  cases hc : f.content with
  | none => exact ⟨t, by simp [addFile, hremoved, hc], ht, by simp [isRead, hc]⟩
  | some content =>
      by_cases hs : Extract.supports f.filename
      · obtain ⟨found, hextract, hkeep⟩ := hfound content hc hs
        refine ⟨t.insert f.filename found.symbols, ?_, ?_, ?_⟩
        · simp only [addFile, hremoved, hc, hs, hextract, Bool.false_eq_true, if_false, if_true]
          rfl
        · intro e he
          rcases Table.mem_insert he with he | rfl
          · exact ht e he
          · exact hkeep
        · intro k
          rw [Table.mem_keys_insert]
          simp [isRead, hc, hs, eq_comm]
      · exact ⟨t, by simp [addFile, hremoved, hc, hs], ht, by simp [isRead, hs]⟩

private theorem foldlM_addFile_keepsIndex {d : Python.Dialect} {ix : Index}
    {files : List ChangedFile} (hf : ∀ f ∈ files, KeepsDefinitions d ix f)
    {t : Table (List Symbol)} (ht : KeepsIndex ix t) :
    ∃ t', files.foldlM (addFile d) t = .ok t' ∧ KeepsIndex ix t' ∧
      ∀ k, k ∈ t'.keys ↔ k ∈ t.keys ∨ ∃ f ∈ files, isRead f ∧ f.filename = k := by
  induction files generalizing t with
  | nil => exact ⟨t, rfl, ht, by simp⟩
  | cons f files ih =>
      obtain ⟨t₁, hadd, ht₁, hkeys₁⟩ := addFile_keepsIndex (hf f (by simp)) ht
      obtain ⟨t₂, hfold, ht₂, hkeys₂⟩ := ih (fun g hg => hf g (by simp [hg])) ht₁
      refine ⟨t₂, ?_, ht₂, fun k => ?_⟩
      · rw [List.foldlM_cons, hadd]
        exact hfold
      · rw [hkeys₂, hkeys₁]
        simp only [List.mem_cons, exists_eq_or_imp, or_assoc]

private theorem fileSymbols_keepsIndex {d : Python.Dialect} {ix : Index} {files : List ChangedFile}
    (hf : ∀ f ∈ files, KeepsDefinitions d ix f) :
    ∃ t, fileSymbols d files = .ok t ∧ KeepsIndex ix t ∧
      ∀ k, k ∈ t.keys ↔ ∃ f ∈ files, isRead f ∧ f.filename = k := by
  obtain ⟨t, hfold, ht, hkeys⟩ := foldlM_addFile_keepsIndex (t := {}) hf (by simp [KeepsIndex])
  exact ⟨t, hfold, ht, fun k => by simpa [Table.keys] using hkeys k⟩

private theorem changedSymbols_eq_nil_iff {ix : Index} {t : Table (List Symbol)}
    (h : KeepsIndex ix t) :
    changedSymbols ix t = [] ↔ ∀ k ∈ t.keys, IsUnambiguous (ix.fileSymbols k) := by
  rw [changedSymbols, List.flatMap_eq_nil_iff]
  constructor
  · intro hnone k hk
    obtain ⟨e, he, rfl⟩ := List.mem_map.mp hk
    exact (filter_isChanged_eq_nil_iff (h e he)).mp (hnone e he)
  · intro hsame e he
    exact (filter_isChanged_eq_nil_iff (h e he)).mpr (hsame e.1 (List.mem_map_of_mem he))

/-! ### The report -/

private theorem removedSymbols_eq_nil {ix : Index} {t : Table (List Symbol)} (h : KeepsIndex ix t) :
    Breaking.removedSymbols ix t.entries = [] := by
  have hgone : ((t.entries.flatMap fun f => ix.fileSymbols f.1).filter fun s =>
      s.isCallable && !(t.entries.flatMap fun f => f.2.map (·.name)).contains s.name) = [] := by
    rw [List.filter_eq_nil_iff]
    intro s hs
    obtain ⟨e, he, hs⟩ := List.mem_flatMap.mp hs
    obtain ⟨a, ha, hname, _⟩ := exists_definition_eq (h e he).symm hs
    have hsurvives : s.name ∈ t.entries.flatMap fun f => f.2.map (·.name) :=
      List.mem_flatMap.mpr ⟨e, he, List.mem_map.mpr ⟨a, ha, hname⟩⟩
    simp [hsurvives]
  rw [Breaking.removedSymbols, hgone]
  rfl

private theorem analyze_nil (ix : Index) (outside : Option Impact.Predictor) (depth : Int)
    (skipped : List String) :
    Impact.analyze ix (Impact.sources outside) depth [] skipped = {} := by
  have hpredict : Impact.predict (Impact.sources outside) [] [] [] = [] := by
    cases outside <;> rfl
  simp only [Impact.analyze, List.filter_nil, List.map_nil, List.flatMap_nil, List.filterMap_nil]
  change ImpactAnalysis.mk [] [] [] [] [] [] (Impact.predict (Impact.sources outside) [] [] []) = {}
  rw [hpredict]

private theorem run_eq_empty {ix : Index} {s : Settings} {files : List ChangedFile}
    {t : Table (List Symbol)} (hfiles : fileSymbols s.dialect files = .ok t)
    (hkeep : KeepsIndex ix t) (hchanged : changedSymbols ix t = []) :
    run ix s files = .ok {} := by
  have hbreaking : Breaking.detect ix [] t.entries = [] := by
    rw [Breaking.detect, removedSymbols_eq_nil hkeep]
    rfl
  have hread : (Except.ok t).mapError Fault.extraction = .ok t := rfl
  simp only [run, hfiles, hread, bind, Except.bind, hchanged, hbreaking, analyze_nil]
  rfl

/-- A change that leaves all definitions as they are makes no symbol count as changed if and only
if every file read is unambiguous, and then the report is empty. -/
theorem run_of_keepsDefinitions (ix : Index) (s : Settings) (files : List ChangedFile)
    (h : ∀ f ∈ files, KeepsDefinitions s.dialect ix f) :
    ∃ t, fileSymbols s.dialect files = .ok t ∧
      (changedSymbols ix t = [] ↔
        ∀ f ∈ files, isRead f → IsUnambiguous (ix.fileSymbols f.filename)) ∧
      ((∀ f ∈ files, isRead f → IsUnambiguous (ix.fileSymbols f.filename)) →
        run ix s files = .ok {}) := by
  obtain ⟨t, hfiles, hkeep, hkeys⟩ := fileSymbols_keepsIndex h
  have hiff : changedSymbols ix t = [] ↔
      ∀ f ∈ files, isRead f → IsUnambiguous (ix.fileSymbols f.filename) := by
    rw [changedSymbols_eq_nil_iff hkeep]
    constructor
    · exact fun hall f hf hread => hall _ ((hkeys _).mpr ⟨f, hf, hread, rfl⟩)
    · intro hall k hk
      obtain ⟨f, hf, hread, rfl⟩ := (hkeys k).mp hk
      exact hall f hf hread
  exact ⟨t, hfiles, hiff, fun hall => run_eq_empty hfiles hkeep (hiff.mpr hall)⟩

/-- The symbols of two classes with a method each, the second method under a given name. -/
def shapeSymbols (second : String) : List Symbol :=
  [ { name := "A", kind := "class", file := "m.py", startLine := 1, endLine := 2
      code := some "class A:\n def f(self, x): pass" },
    { name := "f", kind := "method", file := "m.py", startLine := 2, endLine := 2
      signature := some "f(x)", code := some " def f(self, x): pass" },
    { name := "B", kind := "class", file := "m.py", startLine := 3, endLine := 4
      code := some ("class B:\n def " ++ second ++ "(self): pass") },
    { name := second, kind := "method", file := "m.py", startLine := 4, endLine := 4
      signature := some (second ++ "()"), code := some (" def " ++ second ++ "(self): pass") }]

/-- The two classes after blank lines were put between them. -/
def spacedShapes (second : String) : ChangedFile where
  filename := "m.py"
  content := some
    ("class A:\n def f(self, x): pass\n\n\nclass B:\n def " ++ second ++ "(self): pass\n")

def shapeIndex (second : String) : Index := ({} : Index).add "m.py" (shapeSymbols second) []

theorem run_spacedShapes :
    KeepsDefinitions .tolerant (shapeIndex "g") (spacedShapes "g") ∧
      run (shapeIndex "g") {} [spacedShapes "g"] = .ok {} := by
  have hkeep : KeepsDefinitions .tolerant (shapeIndex "g") (spacedShapes "g") := by
    decide +kernel
  have hsame : IsUnambiguous ((shapeIndex "g").fileSymbols "m.py") := by decide +kernel
  obtain ⟨_, _, _, hrun⟩ := run_of_keepsDefinitions (shapeIndex "g") {} [spacedShapes "g"]
    fun f hf => List.mem_singleton.mp hf ▸ hkeep
  exact ⟨hkeep, hrun fun f hf _ => List.mem_singleton.mp hf ▸ hsame⟩

theorem spacedShapes_not_silent :
    ¬ ∀ (ix : Index) (s : Settings) (files : List ChangedFile),
      (∀ f ∈ files, KeepsDefinitions s.dialect ix f) →
      ∃ t r, fileSymbols s.dialect files = .ok t ∧ changedSymbols ix t = [] ∧
        run ix s files = .ok r ∧ r.breaking = [] ∧ r.duplicatesWithin = [] ∧
        r.duplicatesAcross = [] ∧ r.impact.files = [] ∧ r.comments = [] := by
  intro h
  have hkeep : KeepsDefinitions .tolerant (shapeIndex "f") (spacedShapes "f") := by
    decide +kernel
  have hchanged : ((fileSymbols .tolerant [spacedShapes "f"]).toOption.any
      fun t => (changedSymbols (shapeIndex "f") t).isEmpty) = false := by decide +kernel
  obtain ⟨t, _, ht, hnone, _⟩ := h (shapeIndex "f") {} [spacedShapes "f"]
    fun f hf => List.mem_singleton.mp hf ▸ hkeep
  have ht : fileSymbols .tolerant [spacedShapes "f"] = .ok t := ht
  simp [ht, hnone, Except.toOption] at hchanged

end Review

end PullReview
