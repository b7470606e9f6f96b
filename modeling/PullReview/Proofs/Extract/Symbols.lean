import PullReview.Proofs.Extract.Definitions
import PullReview.Proofs.Python.Place

/-!
# The symbols of a module

A visit finds one symbol for each definition of a module, however deep it stands, and one for each
constant that a statement of the module itself binds. It fails exactly if an expression that it has
to write cannot be written.
-/

namespace PullReview.Extract

open Python

/-! ### What a symbol says -/

/-- The innermost scope around a node is a class. -/
def standsInClass (above : List Node) : Bool :=
  match above.find? Node.isScope with
  | some (.stmt (.class _ _)) => true
  | _ => false

/-- A capital letter, and behind it capital letters, digits and underscores. -/
def IsCapitalName (name : String) : Prop :=
  ∃ c rest, name.toList = c :: rest ∧ ('A' ≤ c ∧ c ≤ 'Z') ∧
    ∀ d ∈ rest, ('A' ≤ d ∧ d ≤ 'Z') ∨ ('0' ≤ d ∧ d ≤ '9') ∨ d = '_'

/-- The symbol of a function with these nodes around it. -/
structure IsFunctionSymbol (text : Text) (head : FunctionHead) (above : List Node) (s : Symbol) :
    Prop where
  name : s.name = head.name
  file : s.file = text.path
  lines : s.startLine = strictStart head.extent head.decorators ∧ s.endLine = head.extent.last
  member : (s.kind = "method" ∨ s.kind = "constructor") ↔ standsInClass above = true
  constructor : s.kind = "constructor" ↔ standsInClass above = true ∧ head.name = "__init__"
  function : s.kind = "function" ↔ standsInClass above = false
  static : s.isStatic = true ↔ ∃ d ∈ head.decorators, d.expr.render = .ok "staticmethod"
  parameters : ∃ params, strictParams head.params = .ok params ∧
    s.parameters = if standsInClass above = true ∧ s.isStatic = false ∧
      ∃ p ∈ params.head?, p.name = "self" ∨ p.name = "cls" then params.tail else params

structure IsClassSymbol (text : Text) (head : ClassHead) (s : Symbol) : Prop where
  name : s.name = head.name
  file : s.file = text.path
  lines : s.startLine = strictStart head.extent head.decorators ∧ s.endLine = head.extent.last
  kind : s.kind = "class" ∨ s.kind = "enum" ∨ s.kind = "interface"

structure IsFieldSymbol (text : Text) (name : String) (extent : Extent) (s : Symbol) : Prop where
  name : s.name = name
  file : s.file = text.path
  lines : s.startLine = extent.first ∧ s.endLine = extent.last
  kind : s.kind = "field"

/-- A node has a symbol if it is a definition, or a statement of the module itself that binds a
constant. -/
inductive HasSymbol : List Node → Prop
  | function (head : FunctionHead) (body : List Stmt) (above : List Node) :
      HasSymbol (.stmt (.function head body) :: above)
  | «class» (head : ClassHead) (body : List Stmt) (above : List Node) :
      HasSymbol (.stmt (.class head body) :: above)
  | constant {stmt : Stmt} {body : List Stmt} {name : String} {extent : Extent}
      (hbinds : strictName? stmt = some (name, extent)) (hname : IsCapitalName name) :
      HasSymbol [.stmt stmt, .module body]

/-- A symbol is that of the definition that a node is, or of the name that it binds. -/
inductive Describes (text : Text) : List Node → Symbol → Prop
  | function {head : FunctionHead} {body : List Stmt} {above : List Node} {s : Symbol}
      (h : IsFunctionSymbol text head above s) :
      Describes text (.stmt (.function head body) :: above) s
  | «class» {head : ClassHead} {body : List Stmt} {above : List Node} {s : Symbol}
      (h : IsClassSymbol text head s) : Describes text (.stmt (.class head body) :: above) s
  | constant {stmt : Stmt} {body : List Stmt} {name : String} {extent : Extent} {s : Symbol}
      (hbinds : strictName? stmt = some (name, extent)) (h : IsFieldSymbol text name extent s) :
      Describes text [.stmt stmt, .module body] s

/-! ### Symbols over a tree -/

private theorem strictBody_eq_gather (text : Text) (inClass : Bool) (body : List Stmt) :
    strictBody text inClass body = gather (strictStmt text inClass) body := by
  induction body with
  | nil => rw [strictBody, gather_nil]
  | cons s rest ih => rw [strictBody, gather_cons, ih]

private theorem strictModule_eq_gather (text : Text) (body : List Stmt) :
    strictModule text body = gather
      (fun s => do return (← strictConstant text s) ++ (← strictStmt text false s)) body := by
  induction body with
  | nil => rw [strictModule, gather_nil]
  | cons s rest ih =>
      rw [strictModule, gather_cons, ih]
      cases strictConstant text s with
      | error fault => rfl
      | ok constants => cases strictStmt text false s <;> rfl

/-- The constant of a statement, if it stands in the module itself. -/
def constantAt (text : Text) (above : List Node) (s : Stmt) : Except Fault (List Symbol) :=
  match above with
  | [.module _] => strictConstant text s
  | _ => .ok []

/-- The symbol that a node gives, the nodes inside it apart. -/
def symbolAt (text : Text) : List Node → Except Fault (List Symbol)
  | .stmt (.function head _) :: above =>
      (strictFunction text (standsInClass above) head).map ([·])
  | .stmt (.class head _) :: _ => (strictClass text head).map ([·])
  | .stmt s :: above => constantAt text above s
  | .module _ :: _ | .expr _ :: _ | [] => .ok []

/-- The symbols that a node gives with the nodes inside it. -/
def symbolsFrom (text : Text) (above : List Node) : Node → Except Fault (List Symbol)
  | .module body =>
      match above with
      | [] => strictModule text body
      | _ => strictBody text false body
  | .stmt s => do
      return (← constantAt text above s) ++ (← strictStmt text (standsInClass above) s)
  | .expr _ => .ok []

private theorem constantAt_of_unbound {text : Text} {s : Stmt} (h : strictConstant text s = .ok [])
    (above : List Node) : constantAt text above s = .ok [] := by
  unfold constantAt
  split
  · exact h
  · rfl

private theorem ok_nil_append (x : Except Fault (List Symbol)) :
    (do return (← Except.ok []) ++ (← x)) = x := by
  cases x <;> rfl

private theorem append_ok_nil (x : Except Fault (List Symbol)) :
    (do return (← x) ++ (← Except.ok [])) = x := by
  cases x with
  | error fault => rfl
  | ok found => exact congrArg Except.ok (List.append_nil found)

private theorem gather_exprs (text : Text) (above : List Node) (es : List Expr) :
    gather (symbolsFrom text above) (es.map Node.expr) = .ok [] := by
  have hnone : ∀ e ∈ es, symbolsFrom text above (.expr e) = .ok [] := fun _ _ => rfl
  rw [gather_map, gather_ok hnone]
  simp

private theorem gather_stmts (text : Text) (s : Stmt) (above : List Node) (body : List Stmt) :
    gather (symbolsFrom text (.stmt s :: above)) (body.map Node.stmt) =
      strictBody text (standsInClass (.stmt s :: above)) body := by
  rw [gather_map, strictBody_eq_gather]
  exact gather_congr fun inner _ => ok_nil_append _

private theorem gather_clauses (text : Text) (all : List Clause) (above : List Node)
    (clauses : List Clause) :
    gather (symbolsFrom text (.stmt (.compound all) :: above)) (clauses.flatMap Clause.parts) =
      strictClauses text (standsInClass above) clauses := by
  induction clauses with
  | nil => rw [List.flatMap_nil, gather_nil, strictClauses]
  | cons clause rest ih =>
      obtain ⟨head, body⟩ := clause
      rw [List.flatMap_cons, Clause.parts, gather_append, gather_append, ih, strictClauses,
        gather_exprs, gather_stmts, ok_nil_append]
      rfl

private theorem symbolsFrom_eq (text : Text) (above : List Node) (n : Node) :
    symbolsFrom text above n = do
      return (← symbolAt text (n :: above)) ++
        (← gather (symbolsFrom text (n :: above)) (n.children .strict)) := by
  cases n with
  | module body =>
      rw [Node.children, gather_map, symbolAt, ok_nil_append]
      cases above with
      | nil =>
          rw [symbolsFrom, strictModule_eq_gather]
          rfl
      | cons n above =>
          change strictBody text false body = _
          rw [strictBody_eq_gather]
          exact gather_congr fun s _ => (ok_nil_append _).symm
  | expr e => rw [Node.children, gather_exprs, symbolAt, append_ok_nil, symbolsFrom]
  | stmt s =>
      cases s with
      | simple exprs =>
          rw [symbolsFrom, strictStmt, Node.children, Stmt.parts, gather_exprs]
          rfl
      | assign extent targets value =>
          rw [symbolsFrom, strictStmt, Node.children, Stmt.parts, gather_exprs]
          rfl
      | annotate extent target hint value =>
          rw [symbolsFrom, strictStmt, Node.children, Stmt.parts, gather_exprs]
          rfl
      | compound clauses =>
          rw [symbolsFrom, strictStmt, Node.children, Stmt.parts, gather_clauses]
          rfl
      | function head body =>
          rw [symbolsFrom, constantAt_of_unbound rfl, ok_nil_append, strictStmt, Node.children,
            Stmt.parts, gather_append, gather_append, gather_exprs, gather_exprs, gather_stmts,
            ok_nil_append, append_ok_nil, symbolAt]
          cases strictFunction text (standsInClass above) head <;> rfl
      | «class» head body =>
          rw [symbolsFrom, constantAt_of_unbound rfl, ok_nil_append, strictStmt, Node.children,
            Stmt.parts, gather_append, gather_append, gather_exprs, gather_exprs, gather_stmts,
            ok_nil_append, append_ok_nil, symbolAt]
          cases strictClass text head <;> rfl

private theorem strictModule_eq_gather_lineages (text : Text) (body : List Stmt) :
    strictModule text body = gather (symbolAt text) (lineages .strict [] (.module body)) :=
  eq_gather_lineages (symbolsFrom_eq text) [] (.module body)

/-! ### Faults -/

def fault? : Except Fault Visit → Option Fault
  | .error fault => some fault
  | .ok _ => none

theorem eq_error_of_fault {x : Except Fault Visit} {fault : Fault} (h : fault? x = some fault) :
    x = .error fault := by
  cases x with
  | error found => exact congrArg Except.error (Option.some.inj h)
  | ok v => cases h

/-- An expression that can be written in canonical form. -/
def Renders (e : Expr) : Prop := ∃ t, e.render = .ok t

/-- A computation that succeeds exactly if some expressions can be written. -/
inductive Needs {α : Type} (es : List Expr) : Except Fault α → Prop
  | ok (a : α) (h : ∀ e ∈ es, Renders e) : Needs es (.ok a)
  | error (why : Unwritable) {e : Expr} (he : e ∈ es) (h : ¬ Renders e) :
      Needs es (.error (.unwritable why))

namespace Needs

variable {α β : Type} {es es' : List Expr}

theorem pure (a : α) : Needs [] (Except.ok a : Except Fault α) := .ok a (by simp)

theorem bind {x : Except Fault α} {f : α → Except Fault β} (hx : Needs es x)
    (hf : ∀ a, x = .ok a → Needs es' (f a)) : Needs (es ++ es') (x >>= f) := by
  cases hx with
  | error why he h => exact .error why (List.mem_append_left _ he) h
  | ok a h =>
      rw [ok_bind]
      cases hfa : f a with
      | ok b =>
          have hb := hf a rfl
          rw [hfa] at hb
          cases hb with
          | ok b h' => exact .ok b fun e he => (List.mem_append.mp he).elim (h e) (h' e)
      | error fault =>
          have hb := hf a rfl
          rw [hfa] at hb
          cases hb with
          | error why he h' => exact .error why (List.mem_append_right _ he) h'

theorem map {x : Except Fault α} (g : α → β) (hx : Needs es x) : Needs es (x.map g) := by
  cases hx with
  | ok a h => exact .ok (g a) h
  | error why he h => exact .error why he h

theorem mapM {γ : Type} {f : γ → Except Fault α} {need : γ → List Expr} {xs : List γ}
    (h : ∀ x ∈ xs, Needs (need x) (f x)) : Needs (xs.flatMap need) (xs.mapM f) := by
  induction xs with
  | nil =>
      rw [List.mapM_nil]
      exact pure []
  | cons x xs ih =>
      rw [List.mapM_cons, List.flatMap_cons]
      refine bind (h x (by simp)) fun first _ => ?_
      rw [← List.append_nil (xs.flatMap need)]
      exact bind (ih fun y hy => h y (by simp [hy])) fun rest _ => pure _

theorem gather {γ : Type} {f : γ → Except Fault (List α)} {need : γ → List Expr} {xs : List γ}
    (h : ∀ x ∈ xs, Needs (need x) (f x)) : Needs (xs.flatMap need) (gather f xs) := by
  rw [PullReview.gather, ← List.append_nil (xs.flatMap need)]
  exact (mapM h).bind fun found _ => pure _

private theorem exists_ok {x : Except Fault α} (hx : Needs es x) (h : ∀ e ∈ es, Renders e) :
    ∃ a, x = .ok a := by
  cases hx with
  | ok a _ => exact ⟨a, rfl⟩
  | error why he hnot => exact absurd (h _ he) hnot

private theorem of_mem_iff {x : Except Fault α} (hx : Needs es x) (h : ∀ e, e ∈ es' ↔ e ∈ es) :
    Needs es' x := by
  cases hx with
  | ok a hall => exact .ok a fun e he => hall e ((h e).mp he)
  | error why he hnot => exact .error why ((h _).mpr he) hnot

theorem render (e : Expr) : Needs [e] (Extract.render e) := by
  unfold Extract.render
  split
  · rename_i t ht
    exact .ok t (by simpa [Renders] using ⟨t, ht⟩)
  · rename_i why hwhy
    refine .error why List.mem_cons_self ?_
    simp [Renders, hwhy]

end Needs

private theorem renderHint_needs (hint : Option Written) :
    Needs (returnParts hint) (renderHint hint) := by
  cases hint with
  | none => exact .pure none
  | some w => exact (Needs.render w.expr).map some

private theorem strictParam_needs (p : Param) : Needs (returnParts p.hint) (strictParam p) := by
  rw [strictParam, ← List.append_nil (returnParts p.hint)]
  refine (renderHint_needs p.hint).bind fun hint _ => ?_
  dsimp only
  split <;> exact .pure _

private theorem isStaticMark_needs (d : Decorator) : Needs [d.expr] (isStaticMark d) := by
  rw [isStaticMark, ← List.append_nil [d.expr]]
  exact (Needs.render d.expr).bind fun t _ => .pure _

/-- The expressions of a function's head that its symbol has to write: all but the defaults. -/
def writtenHead (head : FunctionHead) : List Expr :=
  decoratorParts head.decorators ++ head.params.flatMap (returnParts ·.hint) ++
    returnParts head.returns

/-- The bases of a class: its arguments without a name. -/
def writtenBase (b : Base) : List Expr :=
  match b.argument with
  | .positional e => [e]
  | .starred e => [.starred e]
  | _ => []

def hint? : Stmt → Option Written
  | .annotate _ _ hint _ => some hint
  | _ => none

/-- The annotation of a single name in the module itself. -/
def writtenHint (above : List Node) (s : Stmt) : List Expr :=
  match above, strictName? s with
  | [.module _], some _ => returnParts (hint? s)
  | _, _ => []

/-- The expressions that the symbol of a node has to write. -/
def writtenAt : List Node → List Expr
  | .stmt (.function head _) :: _ => writtenHead head
  | .stmt (.class head _) :: _ => head.bases.flatMap writtenBase
  | .stmt s :: above => writtenHint above s
  | .module _ :: _ | .expr _ :: _ | [] => []

/-- Everything that the symbols of a module have to write can be written. -/
def Writable (body : List Stmt) : Prop :=
  ∀ place l, nodeAt? .strict body place = some l → ∀ e ∈ writtenAt l, Renders e

private theorem strictFunction_needs (text : Text) (inClass : Bool) (head : FunctionHead) :
    Needs (writtenHead head) (strictFunction text inClass head) := by
  have hmarks : Needs (head.decorators.flatMap fun d => [d.expr])
      (head.decorators.mapM isStaticMark) := .mapM fun d _ => isStaticMark_needs d
  have hparams :
      Needs (head.params.flatMap (returnParts ·.hint) ++ []) (strictParams head.params) :=
    (Needs.mapM fun p _ => strictParam_needs p).bind fun params _ => .pure _
  have hall : Needs _ (strictFunction text inClass head) :=
    hmarks.bind fun marks _ => hparams.bind fun params _ =>
      (renderHint_needs head.returns).bind fun returnType _ => .pure _
  refine hall.of_mem_iff fun e => ?_
  simp [writtenHead, decoratorParts, eq_comm]

private theorem strictBase_needs (b : Base) : Needs (writtenBase b) (strictBase b) := by
  unfold strictBase writtenBase
  cases b.argument with
  | positional e => exact (Needs.render e).map _
  | starred e => exact (Needs.render (.starred e)).map _
  | keyword name e => exact .pure []
  | doubleStarred e => exact .pure []

private theorem strictClass_needs (text : Text) (head : ClassHead) :
    Needs (head.bases.flatMap writtenBase) (strictClass text head) := by
  have hbases : Needs (head.bases.flatMap writtenBase ++ []) (strictBases head.bases) :=
    (Needs.mapM fun b _ => strictBase_needs b).bind fun bases _ => .pure _
  have hall : Needs _ (strictClass text head) := hbases.bind fun bases _ => .pure _
  refine hall.of_mem_iff fun e => ?_
  simp

/-- A constant is a single name in capitals, with its annotation if it has one. -/
theorem strictConstant_eq (text : Text) (s : Stmt) :
    strictConstant text s = match strictName? s with
      | some (name, extent) => (renderHint (hint? s)).map fun type =>
          if isConstantName name then [fieldSymbol text name extent type] else []
      | none => .ok [] := by
  cases s with
  | assign extent targets value =>
      cases targets with
      | nil => rfl
      | cons target rest =>
          cases rest with
          | cons _ _ => rfl
          | nil =>
              dsimp only [strictConstant, strictName?]
              cases target.ungroup <;> rfl
  | annotate extent target hint value =>
      dsimp only [strictConstant, strictName?, hint?, renderHint]
      cases target.ungroup with
      | name id => cases render hint.expr <;> rfl
      | _ => rfl
  | _ => rfl

private theorem constantAt_needs (text : Text) (above : List Node) (s : Stmt) :
    Needs (writtenHint above s) (constantAt text above s) := by
  unfold writtenHint constantAt
  rw [strictConstant_eq]
  split
  · rename_i bound hbound
    rw [hbound]
    exact (renderHint_needs (hint? s)).map _
  · split
    · rename_i hnone
      cases hbound : strictName? s with
      | none => exact .pure []
      | some bound => exact (hnone _ bound rfl hbound).elim
    · exact .pure []

private theorem symbolAt_needs (text : Text) (l : List Node) :
    Needs (writtenAt l) (symbolAt text l) := by
  cases l with
  | nil => exact .pure []
  | cons n above =>
      cases n with
      | module body => exact .pure []
      | expr e => exact .pure []
      | stmt s =>
          cases s with
          | function head body => exact (strictFunction_needs text _ head).map _
          | «class» head body => exact (strictClass_needs text head).map _
          | _ => exact constantAt_needs text above _

/-! ### Descriptions -/

private theorem isConstantName_iff (name : String) :
    isConstantName name = true ↔ IsCapitalName name := by
  have hupper (c : Char) : c.isUpper = decide ('A' ≤ c ∧ c ≤ 'Z') := rfl
  have hdigit (c : Char) : c.isDigit = (decide ('0' ≤ c) && decide (c ≤ '9')) := rfl
  unfold isConstantName IsCapitalName
  cases name.toList with
  | nil => simp
  | cons c rest => simp [hupper, hdigit, or_assoc]

private theorem dropReceiver_eq (inClass isStatic : Bool) (params : List Parameter) :
    dropReceiver inClass isStatic params = if inClass = true ∧ isStatic = false ∧
      ∃ p ∈ params.head?, p.name = "self" ∨ p.name = "cls" then params.tail else params := by
  cases params with
  | nil => simp [dropReceiver]
  | cons p rest => simp [dropReceiver, and_assoc]

private theorem isStaticMark_ok_iff {d : Decorator} {isStatic : Bool} :
    isStaticMark d = .ok isStatic ↔
    ∃ t, d.expr.render = .ok t ∧ (t == "staticmethod") = isStatic := by
  unfold isStaticMark render
  cases d.expr.render with
  | error why => simp
  | ok t => simp [ok_bind, pure, Except.pure]

private theorem any_isStaticMark {decorators : List Decorator} {marks : List Bool}
    (h : decorators.mapM isStaticMark = .ok marks) :
    marks.any id = true ↔ ∃ d ∈ decorators, d.expr.render = .ok "staticmethod" := by
  rw [List.any_eq_true]
  constructor
  · rintro ⟨mark, hmark, hstatic⟩
    obtain ⟨d, hd, hdm⟩ := mem_mapM_ok h mark hmark
    obtain ⟨t, ht, rfl⟩ := isStaticMark_ok_iff.mp hdm
    exact ⟨d, hd, by rw [ht, eq_of_beq hstatic]⟩
  · rintro ⟨d, hd, ht⟩
    obtain ⟨mark, hmark, hdm⟩ := mapM_ok_of_mem h d hd
    obtain ⟨t, ht', rfl⟩ := isStaticMark_ok_iff.mp hdm
    rw [ht] at ht'
    obtain rfl := Except.ok.inj ht'
    exact ⟨_, hmark, rfl⟩

private theorem strictFunction_describes {text : Text} {head : FunctionHead} {above : List Node}
    {s : Symbol} (h : strictFunction text (standsInClass above) head = .ok s) :
    IsFunctionSymbol text head above s := by
  obtain ⟨marks, hmarks, h⟩ := bind_ok h
  obtain ⟨params, hparams, h⟩ := bind_ok h
  obtain ⟨returnType, _, h⟩ := bind_ok h
  obtain rfl := Except.ok.inj h
  constructor
  case name => rfl
  case file => rfl
  case lines => exact ⟨rfl, rfl⟩
  case member => grind [functionKind]
  case constructor => grind [functionKind]
  case function => grind [functionKind]
  case static => exact any_isStaticMark hmarks
  case parameters => exact ⟨params, hparams, dropReceiver_eq _ _ params⟩

private theorem strictClass_describes {text : Text} {head : ClassHead} {s : Symbol}
    (h : strictClass text head = .ok s) : IsClassSymbol text head s := by
  obtain ⟨bases, _, h⟩ := bind_ok h
  obtain rfl := Except.ok.inj h
  refine ⟨rfl, rfl, ⟨rfl, rfl⟩, ?_⟩
  grind [classSymbol, classKind]

private theorem hasSymbol_stmt_iff {above : List Node} {stmt : Stmt}
    (hstmt : isDefinition stmt = false) :
    HasSymbol (.stmt stmt :: above) ↔ ∃ body name extent, above = [.module body] ∧
      strictName? stmt = some (name, extent) ∧ IsCapitalName name := by
  constructor
  · intro h
    cases h with
    | function head body => cases hstmt
    | «class» head body => cases hstmt
    | constant hbinds hname => exact ⟨_, _, _, rfl, hbinds, hname⟩
  · rintro ⟨body, name, extent, rfl, hbinds, hname⟩
    exact .constant hbinds hname

/-- The symbol of a node, if it has one. -/
def Gives (text : Text) (l : List Node) (found : List Symbol) : Prop :=
  (∃ s, found = [s] ∧ HasSymbol l ∧ Describes text l s) ∨ (found = [] ∧ ¬ HasSymbol l)

private theorem constantAt_gives {text : Text} {above : List Node} {stmt : Stmt}
    {found : List Symbol} (hstmt : isDefinition stmt = false)
    (h : constantAt text above stmt = .ok found) : Gives text (.stmt stmt :: above) found := by
  unfold constantAt at h
  split at h
  · rename_i body
    rw [strictConstant_eq] at h
    cases hbinds : strictName? stmt with
    | none =>
        rw [hbinds] at h
        refine .inr ⟨(Except.ok.inj h).symm, ?_⟩
        simp [hasSymbol_stmt_iff hstmt, hbinds]
    | some bound =>
        obtain ⟨name, extent⟩ := bound
        rw [hbinds] at h
        cases hhint : renderHint (hint? stmt) with
        | error fault =>
            rw [hhint] at h
            cases h
        | ok type =>
            rw [hhint] at h
            obtain rfl := Except.ok.inj h
            rcases Bool.eq_false_or_eq_true (isConstantName name) with hname | hname
            · refine .inl ⟨fieldSymbol text name extent type, if_pos hname, ?_, ?_⟩
              · exact .constant hbinds ((isConstantName_iff name).mp hname)
              · exact .constant hbinds ⟨rfl, rfl, ⟨rfl, rfl⟩, rfl⟩
            · refine .inr ⟨by simp [hname], ?_⟩
              simp [hasSymbol_stmt_iff hstmt, hbinds, ← isConstantName_iff, hname]
  · rename_i habove
    refine .inr ⟨(Except.ok.inj h).symm, fun hsymbol => ?_⟩
    obtain ⟨body, name, extent, rfl, _⟩ := (hasSymbol_stmt_iff hstmt).mp hsymbol
    exact habove body rfl

private theorem exists_of_map_singleton {x : Except Fault Symbol} {found : List Symbol}
    (h : x.map ([·]) = .ok found) : ∃ s, x = .ok s ∧ found = [s] := by
  cases x with
  | error fault => cases h
  | ok s => exact ⟨s, rfl, (Except.ok.inj h).symm⟩

private theorem symbolAt_gives {text : Text} {l : List Node} {found : List Symbol}
    (h : symbolAt text l = .ok found) : Gives text l found := by
  cases l with
  | nil => exact .inr ⟨(Except.ok.inj h).symm, fun hl => by cases hl⟩
  | cons n above =>
      cases n with
      | module body => exact .inr ⟨(Except.ok.inj h).symm, fun hl => by cases hl⟩
      | expr e => exact .inr ⟨(Except.ok.inj h).symm, fun hl => by cases hl⟩
      | stmt stmt =>
          cases stmt with
          | function head body =>
              obtain ⟨s, hs, rfl⟩ := exists_of_map_singleton h
              exact .inl ⟨s, rfl, .function head body above,
                .function (strictFunction_describes hs)⟩
          | «class» head body =>
              obtain ⟨s, hs, rfl⟩ := exists_of_map_singleton h
              exact .inl ⟨s, rfl, .class head body above, .class (strictClass_describes hs)⟩
          | simple _ | assign _ _ _ | annotate _ _ _ _ | compound _ =>
              exact constantAt_gives rfl h

/-! ### Whole modules -/

/-- The symbol at a node, if it can be written. -/
def symbolAt? (text : Text) (l : List Node) : Option Symbol :=
  match symbolAt text l with
  | .ok found => found.head?
  | .error _ => none

private theorem symbolAt_eq {text : Text} {l : List Node} {found : List Symbol}
    (h : symbolAt text l = .ok found) : found = (symbolAt? text l).toList := by
  rw [symbolAt?, h]
  obtain ⟨s, rfl, _⟩ | ⟨rfl, _⟩ := symbolAt_gives h <;> rfl

private theorem writable_iff (body : List Stmt) :
    Writable body ↔ ∀ e ∈ (lineages .strict [] (.module body)).flatMap writtenAt, Renders e := by
  simp only [List.mem_flatMap, mem_lineages_iff]
  grind [Writable]

/-- The symbols of a module can be written exactly if all that they have to write can be. -/
theorem strictModule_needs (text : Text) (body : List Stmt) :
    Needs ((lineages .strict [] (.module body)).flatMap writtenAt) (strictModule text body) := by
  rw [strictModule_eq_gather_lineages]
  exact .gather fun l _ => symbolAt_needs text l

private theorem symbolAt_of_writable {body : List Stmt} (h : Writable body) (text : Text)
    {l : List Node} (hl : l ∈ lineages .strict [] (.module body)) :
    symbolAt text l = .ok (symbolAt? text l).toList := by
  obtain ⟨found, hfound⟩ := (symbolAt_needs text l).exists_ok fun e he =>
    (writable_iff body).mp h e (List.mem_flatMap.mpr ⟨l, hl, he⟩)
  rw [hfound, ← symbolAt_eq hfound]

private theorem strictModule_of_writable {body : List Stmt} (h : Writable body) (text : Text) :
    strictModule text body =
      .ok ((lineages .strict [] (.module body)).filterMap (symbolAt? text)) := by
  rw [strictModule_eq_gather_lineages, gather_ok fun l hl => symbolAt_of_writable h text hl,
    List.filterMap_eq_flatMap_toList]

private theorem lists_symbols {body : List Stmt} (h : Writable body) (text : Text) :
    Lists .strict body HasSymbol (Describes text)
      ((lineages .strict [] (.module body)).filterMap (symbolAt? text)) := by
  refine lists_filterMap (fun l hl s hs => ?_) (fun l hl hs => ?_)
  all_goals
    have hgives := symbolAt_gives (symbolAt_of_writable h text hl)
    rw [hs] at hgives
  · simpa [Gives] using hgives
  · simpa [Gives] using hgives

/-- A visit either finds everything in a module, and is back where it began, or something cannot be
written. -/
theorem visitModule_cases (text : Text) (body : List Stmt) :
    (Writable body ∧ visitModule text {} body = .ok
      { symbols := (lineages .strict [] (.module body)).filterMap (symbolAt? text)
        calls := strictBodyCalls text.path none body }) ∨
      (¬ Writable body ∧ ∃ why, visitModule text {} body = .error (.unwritable why)) := by
  have hvisit := visitModule_eq text {} body rfl
  by_cases h : Writable body
  · rw [strictModule_of_writable h] at hvisit
    exact .inl ⟨h, hvisit⟩
  · refine .inr ⟨h, ?_⟩
    rw [writable_iff] at h
    rw [hvisit]
    have hneeds := strictModule_needs text body
    generalize strictModule text body = found at hneeds ⊢
    cases hneeds with
    | ok found hall => exact absurd hall h
    | error why _ _ => exact ⟨why, rfl⟩

/-- A visit finds exactly the symbols of a module, in the order of its nodes, or there is one that
cannot be written. -/
theorem visitModule_symbols (text : Text) (body : List Stmt) :
    match visitModule text {} body with
    | .ok v => Writable body ∧ Lists .strict body HasSymbol (Describes text) v.symbols
    | .error fault => ¬ Writable body ∧ ∃ why, fault = .unwritable why := by
  obtain ⟨h, hvisit⟩ | ⟨h, why, hvisit⟩ := visitModule_cases text body
  · rw [hvisit]
    exact ⟨h, lists_symbols h text⟩
  · rw [hvisit]
    exact ⟨h, why, rfl⟩

/-- A function with an annotation that cannot be written without a backslash. -/
def oddHint (body : String) : String := "def f(x: f'\x7b\"\x7f\"\x7d'):" ++ body ++ "\n"

theorem annotated_function_lost : ∃ body l, parseModule .strict (oddHint "pass") = some body ∧
    nodeAt? .strict body [0] = some l ∧ l.head?.bind Node.functionName? = some "f" ∧
      visitModule ⟨"a.py", PullReview.Text.lines (oddHint "pass")⟩ {} body =
        .error (.unwritable .backslash) := by
  have hname : ((parseModule .strict (oddHint "pass")).bind (nodeAt? .strict · [0])).bind
      (·.head?.bind Node.functionName?) = some "f" := by decide +kernel
  have hfault : (parseModule .strict (oddHint "pass")).map (fun body => fault?
      (visitModule ⟨"a.py", PullReview.Text.lines (oddHint "pass")⟩ {} body)) =
        some (some (.unwritable .backslash)) := by decide +kernel
  obtain ⟨l, hl, hname⟩ := Option.bind_eq_some_iff.mp hname
  obtain ⟨body, hbody, hl⟩ := Option.bind_eq_some_iff.mp hl
  rw [hbody] at hfault
  exact ⟨body, l, hbody, hl, hname, eq_error_of_fault (Option.some.inj hfault)⟩

end PullReview.Extract
