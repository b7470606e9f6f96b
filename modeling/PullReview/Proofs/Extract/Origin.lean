import PullReview.Proofs.Extract.Definitions
import PullReview.Proofs.Python.Name

/-!
# Where symbols come from

Every symbol of a file is made from one statement of its tree: a function, a class, or an assignment
of the module itself. So what is known of such statements is known of all symbols. A symbol has the
name of a definition or of a constant, and its kind is one of seven.
-/

namespace PullReview.Extract

open Python

/-- A symbol is what the extractor of a dialect makes of a statement. -/
inductive MadeFrom (text : Text) : Dialect → Stmt → Symbol → Prop
  | strictFunction {inClass : Bool} {head : FunctionHead} {body : List Stmt} {s : Symbol}
      (h : strictFunction text inClass head = .ok s) :
      MadeFrom text .strict (.function head body) s
  | strictClass {head : ClassHead} {body : List Stmt} {s : Symbol}
      (h : strictClass text head = .ok s) : MadeFrom text .strict (.class head body) s
  | strictConstant {stmt : Stmt} {found : List Symbol} {s : Symbol}
      (h : strictConstant text stmt = .ok found) (hs : s ∈ found) : MadeFrom text .strict stmt s
  | tolerantFunction {inClass : Bool} {head : FunctionHead} {body : List Stmt} :
      MadeFrom text .tolerant (.function head body) (tolerantFunction text inClass head)
  | tolerantClass {head : ClassHead} {body : List Stmt} :
      MadeFrom text .tolerant (.class head body) (tolerantClass text head)
  | tolerantConstant {stmt : Stmt} {s : Symbol} (hs : s ∈ tolerantConstant text stmt) :
      MadeFrom text .tolerant stmt s

/-- A symbol is made from a statement of a body, at any depth. -/
def IsMadeIn (text : Text) (d : Dialect) (body : List Stmt) (s : Symbol) : Prop :=
  ∃ stmt, Within stmt body ∧ MadeFrom text d stmt s

section

variable {text : Text} {d : Dialect} {s : Symbol}

private theorem MadeFrom.isMadeIn {stmt : Stmt} (h : MadeFrom text d stmt s) :
    IsMadeIn text d [stmt] s :=
  ⟨stmt, .here (List.mem_singleton_self _), h⟩

theorem IsMadeIn.mono {body body' : List Stmt} (h : IsMadeIn text d body s)
    (hle : body ⊆ body') : IsMadeIn text d body' s := by
  obtain ⟨stmt, hstmt, hmade⟩ := h
  exact ⟨stmt, hstmt.mono hle, hmade⟩

theorem IsMadeIn.inFunction {head : FunctionHead} {body : List Stmt}
    (h : IsMadeIn text d body s) : IsMadeIn text d [.function head body] s := by
  obtain ⟨stmt, hstmt, hmade⟩ := h
  exact ⟨stmt, .inFunction (List.mem_singleton_self _) hstmt, hmade⟩

theorem IsMadeIn.inClass {head : ClassHead} {body : List Stmt}
    (h : IsMadeIn text d body s) : IsMadeIn text d [.class head body] s := by
  obtain ⟨stmt, hstmt, hmade⟩ := h
  exact ⟨stmt, .inClass (List.mem_singleton_self _) hstmt, hmade⟩

theorem IsMadeIn.inClause {clauses : List Clause} {head : List Expr} {body : List Stmt}
    (h : IsMadeIn text d body s) (hclause : .mk head body ∈ clauses) :
    IsMadeIn text d [.compound clauses] s := by
  obtain ⟨stmt, hstmt, hmade⟩ := h
  exact ⟨stmt, .inClause (List.mem_singleton_self _) hclause hstmt, hmade⟩

end

/-! ### Strict symbols -/

mutual

private theorem isMadeIn_strictStmt {text : Text} {s : Symbol} : ∀ (inClass : Bool) (stmt : Stmt)
    {found : List Symbol}, strictStmt text inClass stmt = .ok found → s ∈ found →
      IsMadeIn text .strict [stmt] s
  | _, .simple _, _, h, hs => by
      cases h
      cases hs
  | _, .assign _ _ _, _, h, hs => by
      cases h
      cases hs
  | _, .annotate _ _ _ _, _, h, hs => by
      cases h
      cases hs
  | inClass, .compound clauses, found, h, hs => by
      rw [strictStmt] at h
      obtain ⟨head, body, hclause, hfound⟩ := isMadeIn_strictClauses inClass clauses h hs
      exact hfound.inClause hclause
  | inClass, .function head body, found, h, hs => by
      rw [strictStmt] at h
      obtain ⟨symbol, hsymbol, h⟩ := bind_ok h
      obtain ⟨inner, hinner, h⟩ := bind_ok h
      cases h
      obtain rfl | hs := List.mem_cons.mp hs
      · exact (MadeFrom.strictFunction hsymbol).isMadeIn
      · exact (isMadeIn_strictBody false body hinner hs).inFunction
  | inClass, .class head body, found, h, hs => by
      rw [strictStmt] at h
      obtain ⟨symbol, hsymbol, h⟩ := bind_ok h
      obtain ⟨inner, hinner, h⟩ := bind_ok h
      cases h
      obtain rfl | hs := List.mem_cons.mp hs
      · exact (MadeFrom.strictClass hsymbol).isMadeIn
      · exact (isMadeIn_strictBody true body hinner hs).inClass

private theorem isMadeIn_strictBody {text : Text} {s : Symbol} :
    ∀ (inClass : Bool) (body : List Stmt) {found : List Symbol},
      strictBody text inClass body = .ok found → s ∈ found → IsMadeIn text .strict body s
  | _, [], _, h, hs => by
      cases h
      cases hs
  | inClass, stmt :: rest, found, h, hs => by
      rw [strictBody] at h
      obtain ⟨here, hhere, h⟩ := bind_ok h
      obtain ⟨more, hmore, h⟩ := bind_ok h
      cases h
      obtain hs | hs := List.mem_append.mp hs
      · exact (isMadeIn_strictStmt inClass stmt hhere hs).mono (by simp)
      · exact (isMadeIn_strictBody inClass rest hmore hs).mono (by simp)

private theorem isMadeIn_strictClauses {text : Text} {s : Symbol} : ∀ (inClass : Bool)
    (clauses : List Clause) {found : List Symbol}, strictClauses text inClass clauses = .ok found →
      s ∈ found → ∃ head body, .mk head body ∈ clauses ∧ IsMadeIn text .strict body s
  | _, [], _, h, hs => by
      cases h
      cases hs
  | inClass, .mk head body :: rest, found, h, hs => by
      rw [strictClauses] at h
      obtain ⟨here, hhere, h⟩ := bind_ok h
      obtain ⟨more, hmore, h⟩ := bind_ok h
      cases h
      obtain hs | hs := List.mem_append.mp hs
      · exact ⟨head, body, List.mem_cons_self, isMadeIn_strictBody inClass body hhere hs⟩
      · obtain ⟨head', body', hmem, hfound⟩ := isMadeIn_strictClauses inClass rest hmore hs
        exact ⟨head', body', List.mem_cons_of_mem _ hmem, hfound⟩

end

private theorem isMadeIn_strictModule {text : Text} {s : Symbol} {body : List Stmt}
    {found : List Symbol} (h : strictModule text body = .ok found) (hs : s ∈ found) :
    IsMadeIn text .strict body s := by
  induction body generalizing found with
  | nil =>
      cases h
      cases hs
  | cons stmt rest ih =>
      rw [strictModule] at h
      obtain ⟨constants, hconstants, h⟩ := bind_ok h
      obtain ⟨here, hhere, h⟩ := bind_ok h
      obtain ⟨more, hmore, h⟩ := bind_ok h
      cases h
      rw [List.append_assoc, List.mem_append, List.mem_append] at hs
      obtain hs | hs | hs := hs
      · exact (MadeFrom.strictConstant hconstants hs).isMadeIn.mono (by simp)
      · exact (isMadeIn_strictStmt false stmt hhere hs).mono (by simp)
      · exact (ih hmore hs).mono (by simp)

/-! ### Tolerant symbols -/

mutual

private theorem isMadeIn_tolerantStmt {text : Text} {s : Symbol} : ∀ (inClass : Bool) (stmt : Stmt),
    s ∈ (tolerantStmt text inClass stmt).symbols → IsMadeIn text .tolerant [stmt] s
  | inClass, .function head body, hs => by
      rw [tolerantStmt] at hs
      obtain rfl | hs := List.mem_cons.mp hs
      · exact MadeFrom.tolerantFunction.isMadeIn
      · exact (isMadeIn_tolerantBody false body hs).inFunction
  | inClass, .class head body, hs => by
      rw [tolerantStmt] at hs
      obtain rfl | hs := List.mem_cons.mp hs
      · exact MadeFrom.tolerantClass.isMadeIn
      · exact (isMadeIn_tolerantBody true body hs).inClass
  | _, .simple _, hs => by simp [tolerantStmt] at hs
  | _, .assign _ _ _, hs => by simp [tolerantStmt] at hs
  | _, .annotate _ _ _ _, hs => by simp [tolerantStmt] at hs
  | _, .compound _, hs => by simp [tolerantStmt] at hs

private theorem isMadeIn_tolerantBody {text : Text} {s : Symbol} :
    ∀ (inClass : Bool) (body : List Stmt),
    s ∈ (tolerantBody text inClass body).symbols → IsMadeIn text .tolerant body s
  | _, [], hs => by simp [tolerantBody] at hs
  | inClass, stmt :: rest, hs => by
      rw [tolerantBody] at hs
      obtain hs | hs := List.mem_append.mp hs
      · exact (isMadeIn_tolerantStmt inClass stmt hs).mono (by simp)
      · exact (isMadeIn_tolerantBody inClass rest hs).mono (by simp)

end

private theorem isMadeIn_tolerantModule {text : Text} {s : Symbol} {body : List Stmt}
    (hs : s ∈ (tolerantModule text body).symbols) : IsMadeIn text .tolerant body s := by
  induction body with
  | nil => simp [tolerantModule] at hs
  | cons stmt rest ih =>
      rw [tolerantModule, List.append_assoc, List.mem_append, List.mem_append] at hs
      obtain hs | hs | hs := hs
      · exact (MadeFrom.tolerantConstant hs).isMadeIn.mono (by simp)
      · exact (isMadeIn_tolerantStmt false stmt hs).mono (by simp)
      · exact (ih hs).mono (by simp)

/-! ### Files -/

/-- Every symbol of a file is made from a statement of its tree. -/
theorem isMadeIn_of_extract {d : Dialect} {path content : String} {e : Extracted} {s : Symbol}
    (h : extract d path content = .ok e) (hs : s ∈ e.symbols) :
    ∃ body, parseModule d content = some body ∧
      IsMadeIn ⟨path, PullReview.Text.lines content⟩ d body s := by
  unfold extract at h
  split at h
  · cases h
    cases hs
  dsimp only at h
  split at h
  case h_1 =>
    split at h
    · cases h
    split at h
    case h_1 =>
      cases h
      cases hs
    case h_2 body hbody =>
      obtain ⟨v, hv, h⟩ := bind_ok h
      cases h
      obtain ⟨found, hfound, rfl⟩ := visitModule_ok_iff.mp hv
      exact ⟨body, hbody, isMadeIn_strictModule hfound hs⟩
  case h_2 =>
    split at h
    case h_1 =>
      cases h
      cases hs
    case h_2 body hbody =>
      cases h
      exact ⟨body, hbody, isMadeIn_tolerantModule hs⟩

/-! ### Names and kinds -/

def kinds : List String :=
  ["function", "method", "constructor", "class", "enum", "interface", "field"]

private theorem functionKind_mem_kinds (name : String) (inClass : Bool) :
    functionKind name inClass ∈ kinds := by
  unfold functionKind
  split
  · simp [kinds]
  · split <;> simp [kinds]

private theorem classKind_mem_kinds (bases : List String) : classKind bases ∈ kinds := by
  unfold classKind
  dsimp only
  split
  · simp [kinds]
  · split <;> simp [kinds]

private theorem of_mem_constants {bound : Option (String × Extent)}
    {o : String × String × Int × Int} (h : o ∈ constants bound) :
    isConstantName o.1 = true ∧ o.2.1 ∈ kinds := by
  obtain ⟨b, hb, rfl⟩ := List.mem_map.mp h
  have hname := (Option.mem_filter_iff.mp (Option.mem_toList.mp hb)).2
  exact ⟨hname, by simp [kinds]⟩

/-- A symbol is called what a definition is called, or it is a constant. -/
theorem MadeFrom.named {text : Text} {d : Dialect} {stmt : Stmt} {s : Symbol}
    (h : MadeFrom text d stmt s) :
    (stmt.definedName? = some s.name ∨ isConstantName s.name = true) ∧ s.kind ∈ kinds := by
  cases h with
  | strictFunction h =>
      obtain ⟨marks, -, h⟩ := bind_ok h
      obtain ⟨params, -, h⟩ := bind_ok h
      obtain ⟨returnType, -, h⟩ := bind_ok h
      obtain rfl := Except.ok.inj h
      exact ⟨.inl rfl, functionKind_mem_kinds _ _⟩
  | strictClass h =>
      obtain ⟨bases, -, h⟩ := bind_ok h
      obtain rfl := Except.ok.inj h
      exact ⟨.inl rfl, classKind_mem_kinds _⟩
  | strictConstant h hs =>
      have hmem := List.mem_map_of_mem hs (f := outline)
      rw [strictConstant_outline h] at hmem
      exact (of_mem_constants hmem).imp_left .inr
  | tolerantFunction => exact ⟨.inl rfl, functionKind_mem_kinds _ _⟩
  | tolerantClass => exact ⟨.inl rfl, classKind_mem_kinds _⟩
  | tolerantConstant hs =>
      have hmem := List.mem_map_of_mem hs (f := outline)
      rw [tolerantConstant_outline] at hmem
      exact (of_mem_constants hmem).imp_left .inr

end PullReview.Extract
