import PullReview.Proofs.Extract.Symbols

/-!
# The calls of a module

A call inside the body of a function is an edge from the innermost function around it to the last
name of what is called. What stands in the head of a function is no part of its body. The strict
extractor finds exactly these edges. The tolerant one finds those whose function it comes to
through definitions alone, and which no class inside the function holds.
-/

namespace PullReview.Extract

open Python

/-! ### Calls in expressions -/

/-- The call that an expression itself is. -/
def callSite? (d : Dialect) : Expr → Option CallSite
  | .call line func _ => some ⟨line, calleeName (d == .strict) func⟩
  | _ => none

theorem listCalls_eq (d : Dialect) (es : List Expr) :
    listCalls d es = es.flatMap (exprCalls d) := by
  induction es with
  | nil => rw [listCalls, List.flatMap_nil]
  | cons e rest ih => rw [listCalls, List.flatMap_cons, ih]

theorem optionCalls_eq (d : Dialect) (e : Option Expr) :
    optionCalls d e = e.toList.flatMap (exprCalls d) := by
  cases e with
  | none => rw [optionCalls, Option.toList_none, List.flatMap_nil]
  | some e => rw [optionCalls, Option.toList_some, List.flatMap_singleton]

private theorem pieceCalls_eq (d : Dialect) (pieces : List Piece) :
    pieceCalls d pieces = (pieceParts pieces).flatMap (exprCalls d) := by
  fun_induction pieceParts pieces with
  | case1 => rw [pieceCalls, List.flatMap_nil]
  | case2 codes rest ih => rw [pieceCalls, ih]
  | case3 value conversion rest ih => rw [pieceCalls, List.flatMap_cons, ih]
  | case4 value conversion format rest ihformat ihrest =>
      rw [pieceCalls, List.flatMap_cons, List.flatMap_append, ihformat, ihrest, List.append_assoc]

private theorem argumentCalls_eq (d : Dialect) (args : List Argument) :
    argumentCalls d args =
      ((args.filter (!·.isNamed)).flatMap (exprCalls d ·.expr),
        (args.filter (·.isNamed)).flatMap (exprCalls d ·.expr),
        args.flatMap (exprCalls d ·.expr)) := by
  induction args with
  | nil => rw [argumentCalls]; rfl
  | cons a rest ih => cases a <;> rw [argumentCalls, ih] <;> rfl

private theorem itemCalls_eq (d : Dialect) (items : List DictItem) :
    itemCalls d items =
      ((items.filterMap DictItem.key?).flatMap (exprCalls d),
        (items.map DictItem.value).flatMap (exprCalls d),
        (items.flatMap fun i => i.key?.toList ++ [i.value]).flatMap (exprCalls d)) := by
  induction items with
  | nil => rw [itemCalls]; rfl
  | cons i rest ih =>
      cases i <;> rw [itemCalls, ih] <;>
        simp [DictItem.key?, DictItem.value, List.filterMap_cons]

private theorem loopCalls_eq (d : Dialect) (loops : List Loop) :
    loopCalls d loops = (loops.flatMap Loop.parts).flatMap (exprCalls d) := by
  induction loops with
  | nil => rw [loopCalls]; rfl
  | cons loop rest ih =>
      obtain ⟨isAsync, target, source, conditions⟩ := loop
      rw [loopCalls, ih, listCalls_eq]
      simp [Loop.parts]

private theorem flatMap_defaults_cons (d : Dialect) (role : ParamRole) (name : String)
    (default : Option Expr) (rest : List LambdaParam) :
    ((LambdaParam.mk role name default :: rest).filterMap LambdaParam.default?).flatMap
        (exprCalls d) =
      optionCalls d default ++ (rest.filterMap LambdaParam.default?).flatMap (exprCalls d) := by
  cases default <;> simp [optionCalls, LambdaParam.default?, List.filterMap_cons]

private theorem paramCalls_true (d : Dialect) (params : List LambdaParam) :
    paramCalls d true params = ([], (params.filterMap LambdaParam.default?).flatMap (exprCalls d),
      (params.filterMap LambdaParam.default?).flatMap (exprCalls d)) := by
  induction params with
  | nil => rw [paramCalls]; rfl
  | cons p rest ih =>
      obtain ⟨role, name, default⟩ := p
      rw [paramCalls, flatMap_defaults_cons]
      simp [ih]

private theorem paramCalls_false (d : Dialect) (params : List LambdaParam) :
    paramCalls d false params =
      (((params.takeWhile (!·.isMark)).filterMap LambdaParam.default?).flatMap (exprCalls d),
        ((params.dropWhile (!·.isMark)).filterMap LambdaParam.default?).flatMap (exprCalls d),
        (params.filterMap LambdaParam.default?).flatMap (exprCalls d)) := by
  induction params with
  | nil => rw [paramCalls]; rfl
  | cons p rest ih =>
      obtain ⟨role, name, default⟩ := p
      have hmark : (LambdaParam.mk role name default).isMark =
        (role == .star || role == .varPositional) := rfl
      rw [paramCalls]
      cases h : (role == .star || role == .varPositional) with
      | false =>
          rw [h] at hmark
          rw [List.takeWhile_cons_of_pos (by rw [hmark]; rfl),
            List.dropWhile_cons_of_pos (by rw [hmark]; rfl), flatMap_defaults_cons,
            flatMap_defaults_cons]
          simp [ih, h]
      | true =>
          rw [h] at hmark
          rw [List.takeWhile_cons_of_neg (by rw [hmark]; decide),
            List.dropWhile_cons_of_neg (by rw [hmark]; decide), flatMap_defaults_cons]
          simp [paramCalls_true, h]

/-- The calls in an expression are the one that it is, and those in its parts. -/
theorem exprCalls_eq (d : Dialect) (e : Expr) :
    exprCalls d e = (callSite? d e).toList ++ (e.parts d).flatMap (exprCalls d) := by
  cases e with
  | call line func args =>
      rw [exprCalls, argumentCalls_eq]
      cases d <;> simp [callSite?, Expr.parts, argumentParts, List.flatMap_map]
  | conditional body test orElse =>
      rw [exprCalls]
      cases d <;> simp [callSite?, Expr.parts]
  | lambda params body =>
      rw [exprCalls, paramCalls_false]
      cases d <;> simp [callSite?, Expr.parts, defaultParts]
  | dict items =>
      rw [exprCalls, itemCalls_eq]
      cases d <;> simp [callSite?, Expr.parts, itemParts]
  | _ =>
      rw [exprCalls]
      simp [callSite?, Expr.parts, listCalls_eq, optionCalls_eq, pieceCalls_eq, loopCalls_eq]

/-! ### Edges -/

/-- The names of an attribute chain, the first one first. -/
def chain (d : Dialect) : Expr → List String
  | .name id => [id]
  | .attribute value attr => chain d value ++ [attr]
  | .group e => if d == .strict then chain d e else []
  | _ => []

/-- The dotted name that a called expression resolves to: a name, an attribute chain, or that of the
call whose result is called. Without one it has no names. -/
def calledName (d : Dialect) : Expr → List String
  | .call _ func _ => calledName d func
  | .group e => if d == .strict then calledName d e else []
  | e => chain d e

/-- Whether a node is an expression in the head of a function. -/
def inHead : List Node → Bool
  | .expr _ :: .stmt (.function _ _) :: _ => true
  | .expr _ :: above => inHead above
  | _ => false

/-- The innermost function around a node. -/
def enclosing? (above : List Node) : Option String := above.findSome? Node.functionName?

/-- A call inside the body of a function that resolves to a name. -/
inductive IsBodyCall (d : Dialect) : List Node → Prop
  | mk {line : Nat} {func : Expr} {args : List Argument} {above : List Node}
      (hbody : inHead (.expr (.call line func args) :: above) = false)
      (hcaller : enclosing? above ≠ none)
      (hcallee : ∃ callee ∈ (calledName d func).getLast?, callee ≠ "") :
      IsBodyCall d (.expr (.call line func args) :: above)

/-- The edge of a call goes from the innermost function around it to the last segment of the called
name. -/
inductive IsCallEdge (d : Dialect) (path : String) : List Node → CallEdge → Prop
  | mk {line : Nat} {func : Expr} {args : List Argument} {above : List Node}
      {caller callee : String} (hcaller : enclosing? above = some caller)
      (hcallee : (calledName d func).getLast? = some callee) :
      IsCallEdge d path (.expr (.call line func args) :: above) ⟨caller, callee, path, line⟩

private theorem calleeName_eq (d : Dialect) (e : Expr) :
    calleeName (d == .strict) e = (calledName d e).getLast? := by
  fun_induction calledName d e with
  | case1 line func args ih => rw [calleeName, ih]
  | case2 e hd ih => rw [calleeName, if_pos hd, ih]
  | case3 e hd => rw [calleeName, if_neg hd, List.getLast?_nil]
  | case4 e hcall hgroup =>
      cases e with
      | call line func args => exact (hcall line func args rfl).elim
      | group e => exact (hgroup e rfl).elim
      | «attribute» value attr => rw [calleeName, chain, List.getLast?_concat]
      | _ => rfl

/-- The edge of a call site, if it has a caller and a name. -/
def edgeOf? (path : String) (caller : Option String) (site : CallSite) : Option CallEdge :=
  match caller, site.callee with
  | some name, some callee => if callee == "" then none else some ⟨name, callee, path, site.line⟩
  | _, _ => none

private theorem edgeOf?_eq_some_iff {path : String} {caller : Option String} {site : CallSite}
    {e : CallEdge} : edgeOf? path caller site = some e ↔ ∃ name callee, caller = some name ∧
      site.callee = some callee ∧ callee ≠ "" ∧ e = ⟨name, callee, path, site.line⟩ := by
  unfold edgeOf?
  split <;> grind

theorem edges_eq (path : String) (caller : Option String) (sites : List CallSite) :
    edges path caller sites = sites.filterMap (edgeOf? path caller) := by
  cases caller with
  | none => simp [edges, edgeOf?]
  | some name =>
      rw [edges]
      exact List.filterMap_congr fun site _ => by cases h : site.callee <;> simp [edgeOf?, h]

private theorem edges_toList (path : String) (caller : Option String) (site : Option CallSite) :
    edges path caller site.toList = (site.bind (edgeOf? path caller)).toList := by
  rw [edges_eq]
  cases site with
  | none => rfl
  | some site => cases h : edgeOf? path caller site <;> simp [h]

theorem edges_append (path : String) (caller : Option String) (sites sites' : List CallSite) :
    edges path caller (sites ++ sites') = edges path caller sites ++ edges path caller sites' := by
  rw [edges_eq, edges_eq, edges_eq, List.filterMap_append]

theorem edges_flatMap (path : String) (caller : Option String) {α : Type} (f : α → List CallSite)
    (xs : List α) :
    edges path caller (xs.flatMap f) = xs.flatMap fun x => edges path caller (f x) := by
  simp only [edges_eq, List.filterMap_flatMap]

/-! ### Expressions in a tree

The extractors differ in who makes a call, given the nodes around it. -/

section Expressions

variable {d : Dialect} {path : String} {caller : List Node → Option String}

/-- The edge that a node gives, the nodes inside it apart. -/
def edgeAt? (d : Dialect) (path : String) (caller : List Node → Option String) :
    List Node → Option CallEdge
  | .expr e :: above =>
      if inHead (.expr e :: above) then none
      else (callSite? d e).bind (edgeOf? path (caller above))
  | .module _ :: _ | .stmt _ :: _ | [] => none

/-- The edges in an expression. -/
def exprEdges (d : Dialect) (path : String) (caller : List Node → Option String)
    (above : List Node) (e : Expr) : List CallEdge :=
  if inHead (.expr e :: above) then [] else edges path (caller above) (exprCalls d e)

private theorem exprEdges_of_inHead {above : List Node} {e : Expr}
    (h : inHead (.expr e :: above) = true) : exprEdges d path caller above e = [] := by
  rw [exprEdges, h, if_pos rfl]

private theorem exprEdges_of_inBody {above : List Node} {e : Expr}
    (h : inHead (.expr e :: above) = false) :
    exprEdges d path caller above e = edges path (caller above) (exprCalls d e) := by
  rw [exprEdges, h, if_neg Bool.false_ne_true]

theorem exprEdges_eq {above : List Node} {e : Expr}
    (hcaller : caller (.expr e :: above) = caller above) :
    exprEdges d path caller above e = (edgeAt? d path caller (.expr e :: above)).toList ++
      (e.parts d).flatMap (exprEdges d path caller (.expr e :: above)) := by
  -- The parts of an expression stand in a head exactly if the expression does.
  have hpart (part : Expr) : inHead (.expr part :: .expr e :: above) = inHead (.expr e :: above) :=
    rfl
  cases h : inHead (.expr e :: above) with
  | true =>
      rw [exprEdges_of_inHead h, edgeAt?, h, if_pos rfl]
      simp [exprEdges_of_inHead ((hpart _).trans h)]
  | false =>
      rw [exprEdges_of_inBody h, exprCalls_eq, edges_append, edges_flatMap, edges_toList, edgeAt?,
        h, if_neg Bool.false_ne_true]
      congr 1
      refine List.flatMap_congr fun part _ => ?_
      rw [exprEdges_of_inBody ((hpart part).trans h), hcaller]

theorem exprEdges_function (head : FunctionHead) (body : List Stmt) (above : List Node)
    (es : List Expr) :
    es.flatMap (exprEdges d path caller (.stmt (.function head body) :: above)) = [] :=
  List.flatMap_eq_nil_iff.mpr fun _ _ => exprEdges_of_inHead rfl

theorem exprEdges_stmt {s : Stmt} {above : List Node} (es : List Expr)
    (hs : ∀ e, inHead (.expr e :: .stmt s :: above) = false) :
    es.flatMap (exprEdges d path caller (.stmt s :: above)) =
      edges path (caller (.stmt s :: above)) (es.flatMap (exprCalls d)) := by
  rw [edges_flatMap]
  exact List.flatMap_congr fun e _ => exprEdges_of_inBody (hs e)

end Expressions

/-! ### The strict extractor -/

private theorem strictBodyCalls_eq (path : String) (caller : Option String) (body : List Stmt) :
    strictBodyCalls path caller body = body.flatMap (strictCalls path caller) := by
  induction body with
  | nil => rw [strictBodyCalls, List.flatMap_nil]
  | cons s rest ih => rw [strictBodyCalls, List.flatMap_cons, ih]

private theorem headerCalls_eq (bases : List Base) :
    headerCalls .strict bases = (baseParts .strict bases).flatMap (exprCalls .strict) := by
  rw [headerCalls, argumentCalls_eq, baseParts, argumentParts,
    List.flatMap_map (f := Argument.expr), List.flatMap_append]

/-- The edges that a node gives with the nodes inside it. -/
def strictEdges (path : String) (above : List Node) : Node → List CallEdge
  | .module body => strictBodyCalls path (enclosing? above) body
  | .stmt s => strictCalls path (enclosing? above) s
  | .expr e => exprEdges .strict path enclosing? above e

private theorem flatMap_strictEdges_exprs (path : String) (above : List Node) (es : List Expr) :
    (es.map Node.expr).flatMap (strictEdges path above) =
      es.flatMap (exprEdges .strict path enclosing? above) := List.flatMap_map ..

private theorem flatMap_strictEdges_stmts (path : String) (above : List Node) (body : List Stmt) :
    (body.map Node.stmt).flatMap (strictEdges path above) =
      strictBodyCalls path (enclosing? above) body := by
  rw [List.flatMap_map, strictBodyCalls_eq]
  rfl

private theorem flatMap_strictEdges_clauses (path : String) (all : List Clause) (above : List Node)
    (clauses : List Clause) :
    (clauses.flatMap Clause.parts).flatMap (strictEdges path (.stmt (.compound all) :: above)) =
      strictClauseCalls path (enclosing? above) clauses := by
  induction clauses with
  | nil => rw [strictClauseCalls, List.flatMap_nil, List.flatMap_nil]
  | cons clause rest ih =>
      obtain ⟨head, body⟩ := clause
      rw [List.flatMap_cons, List.flatMap_append, ih, Clause.parts, List.flatMap_append,
        flatMap_strictEdges_exprs, flatMap_strictEdges_stmts, exprEdges_stmt head fun _ => rfl,
        strictClauseCalls, listCalls_eq]
      rfl

private theorem strictEdges_eq (path : String) (above : List Node) (n : Node) :
    strictEdges path above n = (edgeAt? .strict path enclosing? (n :: above)).toList ++
      (n.children .strict).flatMap (strictEdges path (n :: above)) := by
  cases n with
  | module body => exact (flatMap_strictEdges_stmts path (.module body :: above) body).symm
  | expr e =>
      rw [Node.children, flatMap_strictEdges_exprs, strictEdges, exprEdges_eq rfl]
  | stmt s =>
      rw [edgeAt?, Option.toList_none, List.nil_append, Node.children, strictEdges]
      cases s with
      | simple exprs =>
          rw [strictCalls, Stmt.parts, flatMap_strictEdges_exprs, exprEdges_stmt exprs fun _ => rfl,
            listCalls_eq]
          rfl
      | assign extent targets value =>
          rw [strictCalls, Stmt.parts, flatMap_strictEdges_exprs, exprEdges_stmt _ fun _ => rfl,
            listCalls_eq, List.flatMap_append, List.flatMap_singleton]
          rfl
      | annotate extent target hint value =>
          rw [strictCalls, Stmt.parts, flatMap_strictEdges_exprs, exprEdges_stmt _ fun _ => rfl,
            optionCalls_eq, List.flatMap_cons, List.flatMap_cons, List.append_assoc]
          rfl
      | compound clauses =>
          rw [strictCalls, Stmt.parts, flatMap_strictEdges_clauses]
      | function head body =>
          rw [strictCalls, Stmt.parts, List.flatMap_append, List.flatMap_append,
            flatMap_strictEdges_exprs, flatMap_strictEdges_exprs, flatMap_strictEdges_stmts,
            exprEdges_function, exprEdges_function, List.nil_append, List.append_nil]
          rfl
      | «class» head body =>
          rw [strictCalls, Stmt.parts, List.flatMap_append, List.flatMap_append,
            flatMap_strictEdges_exprs, flatMap_strictEdges_exprs, flatMap_strictEdges_stmts,
            exprEdges_stmt _ fun _ => rfl, exprEdges_stmt _ fun _ => rfl, listCalls_eq,
            headerCalls_eq]
          rfl

theorem edgeAt?_eq_some_iff {d : Dialect} {path : String} {caller : List Node → Option String}
    {l : List Node} {e : CallEdge} : edgeAt? d path caller l = some e ↔
      ∃ line func args above name callee, l = .expr (.call line func args) :: above ∧
        inHead l = false ∧ caller above = some name ∧ (calledName d func).getLast? = some callee ∧
        callee ≠ "" ∧ e = ⟨name, callee, path, line⟩ := by
  constructor
  · intro h
    rcases l with _ | ⟨n, above⟩
    · cases h
    cases n with
    | module body => cases h
    | stmt s => cases h
    | expr expr =>
        rw [edgeAt?, Option.ite_none_left_eq_some, Option.bind_eq_some_iff] at h
        obtain ⟨hbody, site, hsite, hedge⟩ := h
        cases expr with
        | call line func args =>
            obtain rfl := Option.some.inj hsite
            obtain ⟨name, callee, hcaller, hcallee, hname, rfl⟩ := edgeOf?_eq_some_iff.mp hedge
            rw [calleeName_eq] at hcallee
            exact ⟨line, func, args, above, name, callee, rfl, by simpa using hbody, hcaller,
              hcallee, hname, rfl⟩
        | _ => cases hsite
  · rintro ⟨line, func, args, above, name, callee, rfl, hbody, hcaller, hcallee, hname, rfl⟩
    rw [edgeAt?, hbody, if_neg Bool.false_ne_true, callSite?, Option.bind_some, edgeOf?_eq_some_iff]
    exact ⟨name, callee, hcaller, (calleeName_eq d func).trans hcallee, hname, rfl⟩

theorem edgeAt?_enclosing?_iff {d : Dialect} {path : String} {l : List Node} {e : CallEdge} :
    edgeAt? d path enclosing? l = some e ↔ IsBodyCall d l ∧ IsCallEdge d path l e := by
  rw [edgeAt?_eq_some_iff]
  constructor
  · rintro ⟨line, func, args, above, name, callee, rfl, hbody, hcaller, hcallee, hname, rfl⟩
    exact ⟨⟨hbody, by simp [hcaller], callee, hcallee, hname⟩, hcaller, hcallee⟩
  · rintro ⟨⟨hbody, _, callee', hcallee', hname⟩, hcaller, hcallee⟩
    obtain rfl := Option.some.inj (hcallee.symm.trans hcallee')
    exact ⟨_, _, _, _, _, _, rfl, hbody, hcaller, hcallee, hname, rfl⟩

theorem IsBodyCall.exists_edge {d : Dialect} {l : List Node} (h : IsBodyCall d l) (path : String) :
    ∃ e, IsCallEdge d path l e := by
  obtain ⟨_, hcaller, callee, hcallee, _⟩ := h
  obtain ⟨name, hname⟩ := Option.ne_none_iff_exists'.mp hcaller
  exact ⟨_, hname, hcallee⟩

theorem lists_calls (d : Dialect) (path : String) (body : List Stmt) :
    Lists d body (IsBodyCall d) (IsCallEdge d path)
      ((lineages d [] (.module body)).filterMap (edgeAt? d path enclosing?)) := by
  refine lists_filterMap (fun l _ e he => edgeAt?_enclosing?_iff.mp he) (fun l _ hnone hcall => ?_)
  obtain ⟨e, he⟩ := hcall.exists_edge path
  rw [edgeAt?_enclosing?_iff.mpr ⟨hcall, he⟩] at hnone
  cases hnone

/-- A visit finds exactly the calls of a module, in the order of its nodes, and leaves the scopes
and functions as they were, or there is a symbol that cannot be written. -/
theorem visitModule_calls (text : Text) (body : List Stmt) :
    match visitModule text {} body with
    | .ok v => Writable body ∧ v.scopes = [.module] ∧ v.functions = [] ∧
        Lists .strict body (IsBodyCall .strict) (IsCallEdge .strict text.path) v.calls
    | .error fault => ¬ Writable body ∧ ∃ why, fault = .unwritable why := by
  obtain ⟨h, hvisit⟩ | ⟨h, why, hvisit⟩ := visitModule_cases text body
  · have hcalls : strictBodyCalls text.path none body =
        (lineages .strict [] (.module body)).filterMap (edgeAt? .strict text.path enclosing?) :=
      eq_filterMap_lineages (strictEdges_eq text.path) [] (.module body)
    rw [hvisit, hcalls]
    exact ⟨h, rfl, rfl, lists_calls .strict text.path body⟩
  · rw [hvisit]
    exact ⟨h, why, rfl⟩

theorem annotated_call_lost : ∃ body l,
    parseModule .strict (oddHint "\n    g()") = some body ∧
      nodeAt? .strict body [0, 1, 0] = some l ∧
      IsBodyCall .strict l ∧ IsCallEdge .strict "a.py" l ⟨"f", "g", "a.py", 2⟩ ∧
      visitModule ⟨"a.py", PullReview.Text.lines (oddHint "\n    g()")⟩ {} body =
        .error (.unwritable .backslash) := by
  have hcall : ((parseModule .strict (oddHint "\n    g()")).bind
      (nodeAt? .strict · [0, 1, 0])).bind (edgeAt? .strict "a.py" enclosing?) =
        some ⟨"f", "g", "a.py", 2⟩ := by decide +kernel
  have hfault : (parseModule .strict (oddHint "\n    g()")).map (fun body => fault?
      (visitModule ⟨"a.py", PullReview.Text.lines (oddHint "\n    g()")⟩ {} body)) =
        some (some (.unwritable .backslash)) := by decide +kernel
  obtain ⟨l, hl, hedge⟩ := Option.bind_eq_some_iff.mp hcall
  obtain ⟨body, hbody, hl⟩ := Option.bind_eq_some_iff.mp hl
  rw [hbody] at hfault
  obtain ⟨hcall, hedge⟩ := edgeAt?_enclosing?_iff.mp hedge
  exact ⟨body, l, hbody, hl, hcall, hedge, eq_error_of_fault (Option.some.inj hfault)⟩

end PullReview.Extract
