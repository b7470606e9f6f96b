import PullReview.Extract
import PullReview.Proofs.Failure

/-!
# What a visit finds

The symbols and the calls of a statement, given only the scope and the function around it. A visit
adds them to what it found before, and leaves the scopes and the functions around it as they were.
-/

namespace PullReview.Extract

open Python

/-! ### Symbols and calls without a state -/

mutual

/-- The definitions in a statement, each before those inside it. -/
def strictStmt (text : Text) (inClass : Bool) : Stmt → Except Fault (List Symbol)
  | .simple _ | .assign _ _ _ | .annotate _ _ _ _ => .ok []
  | .compound clauses => strictClauses text inClass clauses
  | .function head body => do
      return (← strictFunction text inClass head) :: (← strictBody text false body)
  | .class head body => do
      return (← strictClass text head) :: (← strictBody text true body)

def strictBody (text : Text) (inClass : Bool) : List Stmt → Except Fault (List Symbol)
  | [] => .ok []
  | s :: rest => do
      return (← strictStmt text inClass s) ++ (← strictBody text inClass rest)

def strictClauses (text : Text) (inClass : Bool) : List Clause → Except Fault (List Symbol)
  | [] => .ok []
  | .mk _ body :: rest => do
      return (← strictBody text inClass body) ++ (← strictClauses text inClass rest)

end

def strictModule (text : Text) : List Stmt → Except Fault (List Symbol)
  | [] => .ok []
  | s :: rest => do
      return (← strictConstant text s) ++ (← strictStmt text false s) ++ (← strictModule text rest)

mutual

/-- The calls in a statement, made by the innermost function around them. What stands in the head
of a function is no part of it; the header of a class belongs to the function around. -/
def strictCalls (path : String) (caller : Option String) : Stmt → List CallEdge
  | .simple exprs => edges path caller (listCalls .strict exprs)
  | .assign _ targets value =>
      edges path caller (listCalls .strict targets ++ exprCalls .strict value)
  | .annotate _ target hint value =>
      edges path caller
        (exprCalls .strict target ++ exprCalls .strict hint.expr ++ optionCalls .strict value)
  | .compound clauses => strictClauseCalls path caller clauses
  | .function head body => strictBodyCalls path (some head.name) body
  | .class head body =>
      edges path caller (headerCalls .strict head.bases) ++ strictBodyCalls path caller body ++
        edges path caller (listCalls .strict (head.decorators.map (·.expr)))

def strictBodyCalls (path : String) (caller : Option String) : List Stmt → List CallEdge
  | [] => []
  | s :: rest => strictCalls path caller s ++ strictBodyCalls path caller rest

def strictClauseCalls (path : String) (caller : Option String) : List Clause → List CallEdge
  | [] => []
  | .mk head body :: rest =>
      edges path caller (listCalls .strict head) ++ strictBodyCalls path caller body ++
        strictClauseCalls path caller rest

end

/-! ### Visits -/

namespace Visit

/-- A visit with more found, at the same place. -/
def more (v : Visit) (found : List Symbol) (made : List CallEdge) : Visit :=
  { v with symbols := v.symbols ++ found, calls := v.calls ++ made }

private theorem more_nil (v : Visit) : v.more [] [] = v := by
  simp only [more, List.append_nil]

private theorem more_more (v : Visit) (found found' : List Symbol) (made made' : List CallEdge) :
    (v.more found made).more found' made' = v.more (found ++ found') (made ++ made') := by
  simp only [more, List.append_assoc]

private theorem addSymbols_eq (v : Visit) (found : List Symbol) :
    v.addSymbols found = v.more found [] := by
  simp only [addSymbols, more, List.append_nil]

private theorem addCalls_eq (v : Visit) (path : String) (sites : List CallSite) :
    v.addCalls path sites = v.more [] (edges path v.functions.head? sites) := by
  simp only [addCalls, more, List.append_nil]

private theorem inClass_more (v : Visit) (found : List Symbol) (made : List CallEdge) :
    (v.more found made).inClass = v.inClass := rfl

private theorem functions_more (v : Visit) (found : List Symbol) (made : List CallEdge) :
    (v.more found made).functions = v.functions := rfl

/-- What is found between entering and leaving a function is found at the place of the function. -/
theorem leaveFunction_more (v : Visit) (name : String) (found : List Symbol)
    (made : List CallEdge) :
    ((v.enterFunction name).more found made).leaveFunction = v.more found made := rfl

private theorem enterClass_more (v : Visit) (found : List Symbol) (made : List CallEdge) :
    v.enterClass.more found made = (v.more found made).enterClass := rfl

private theorem leaveClass_more (v : Visit) (found : List Symbol) (made : List CallEdge) :
    (v.enterClass.more found made).leaveClass = v.more found made := rfl

end Visit

private theorem map_more_bind (v : Visit) {x y : Except Fault (List Symbol)}
    {made made' : List CallEdge} {next : Visit → Except Fault Visit}
    (hnext : ∀ found, next (v.more found made) =
      y.map fun found' => (v.more found made).more found' made') :
    (x.map (fun found => v.more found made) >>= next) =
      (do return (← x) ++ (← y)).map fun found => v.more found (made ++ made') := by
  cases x with
  | error fault => rfl
  | ok found =>
      rw [ok_map, ok_bind, ok_bind, hnext]
      cases y with
      | error fault => rfl
      | ok found' => simp only [ok_map, Visit.more_more, ok_bind, pure, Except.pure]

mutual

/-- A statement adds its symbols and calls to a visit, and a fault in it ends the visit. -/
theorem visitStmt_eq (text : Text) : ∀ (v : Visit) (s : Stmt),
    visitStmt text v s = (strictStmt text v.inClass s).map fun found =>
      v.more found (strictCalls text.path v.functions.head? s)
  | v, .simple exprs => by
      rw [visitStmt, strictStmt, strictCalls, Visit.addCalls_eq, ok_map]
  | v, .assign _ targets value => by
      rw [visitStmt, strictStmt, strictCalls, Visit.addCalls_eq, ok_map]
  | v, .annotate _ target hint value => by
      rw [visitStmt, strictStmt, strictCalls, Visit.addCalls_eq, ok_map]
  | v, .compound clauses => by
      rw [visitStmt, strictStmt, strictCalls, visitClauses_eq text v clauses]
  | v, .function head body => by
      rw [visitStmt, strictStmt, strictCalls]
      cases strictFunction text v.inClass head with
      | error fault => rfl
      | ok symbol =>
          have hbody := visitBody_eq text ((v.more [symbol] []).enterFunction head.name) body
          change _ = (strictBody text false body).map _ at hbody
          rw [ok_bind, ok_bind, Visit.addSymbols_eq, hbody]
          cases strictBody text false body with
          | error fault => rfl
          | ok found =>
              rw [ok_map, ok_bind, ok_bind, Visit.leaveFunction_more, Visit.more_more]
              rfl
  | v, .class head body => by
      rw [visitStmt, strictStmt, strictCalls]
      cases strictClass text head with
      | error fault => rfl
      | ok symbol =>
          let header := edges text.path v.functions.head? (headerCalls .strict head.bases)
          have hopened : (v.addSymbols [symbol]).enterClass.addCalls text.path
              (headerCalls .strict head.bases) = (v.more [symbol] header).enterClass := by
            rw [Visit.addSymbols_eq, Visit.addCalls_eq, Visit.enterClass_more, Visit.more_more]
            rfl
          have hbody := visitBody_eq text (v.more [symbol] header).enterClass body
          change _ = (strictBody text true body).map _ at hbody
          dsimp only [ok_bind]
          rw [hopened, hbody]
          cases strictBody text true body with
          | error fault => rfl
          | ok found =>
              simp only [ok_map, ok_bind, pure, Except.pure, Visit.addCalls_eq, Visit.more_more,
                Visit.leaveClass_more, List.append_assoc, List.append_nil]
              rfl

private theorem visitBody_eq (text : Text) : ∀ (v : Visit) (body : List Stmt),
    visitBody text v body = (strictBody text v.inClass body).map fun found =>
      v.more found (strictBodyCalls text.path v.functions.head? body)
  | v, [] => by
      rw [visitBody, strictBody, strictBodyCalls, ok_map, Visit.more_nil]
  | v, s :: rest => by
      rw [visitBody, strictBody, strictBodyCalls, visitStmt_eq text v s]
      exact map_more_bind v fun found => visitBody_eq text (v.more found _) rest

private theorem visitClauses_eq (text : Text) : ∀ (v : Visit) (clauses : List Clause),
    visitClauses text v clauses = (strictClauses text v.inClass clauses).map fun found =>
      v.more found (strictClauseCalls text.path v.functions.head? clauses)
  | v, [] => by
      rw [visitClauses, strictClauses, strictClauseCalls, ok_map, Visit.more_nil]
  | v, .mk head body :: rest => by
      rw [visitClauses, strictClauses, strictClauseCalls, Visit.addCalls_eq, visitBody_eq]
      simp only [Visit.more_more, List.nil_append]
      exact map_more_bind v fun found => visitClauses_eq text (v.more found _) rest

end

theorem visitModule_eq (text : Text) (v : Visit) (body : List Stmt) (hv : v.inClass = false) :
    visitModule text v body = (strictModule text body).map fun found =>
      v.more found (strictBodyCalls text.path v.functions.head? body) := by
  induction body generalizing v with
  | nil => rw [visitModule, strictModule, strictBodyCalls, ok_map, Visit.more_nil]
  | cons s rest ih =>
      rw [visitModule, strictModule, strictBodyCalls]
      cases strictConstant text s with
      | error fault => rfl
      | ok constants =>
          have hrest (found : List Symbol) := ih ((v.more constants []).more found
            (strictCalls text.path v.functions.head? s)) hv
          simp only [Visit.functions_more] at hrest
          rw [ok_bind, Visit.addSymbols_eq, visitStmt_eq, Visit.inClass_more, hv,
            Visit.functions_more, map_more_bind (v.more constants []) hrest]
          cases strictStmt text false s with
          | error fault => rfl
          | ok found =>
              cases strictModule text rest with
              | error fault => rfl
              | ok found' =>
                  simp only [ok_bind, ok_map, pure, Except.pure, Visit.more_more, List.nil_append,
                    List.append_assoc]

/-- What a visit of a whole module finds, if nothing in it is at fault. -/
theorem visitModule_ok_iff {text : Text} {body : List Stmt} {v : Visit} :
    visitModule text {} body = .ok v ↔ ∃ found, strictModule text body = .ok found ∧
      v = { symbols := found, calls := strictBodyCalls text.path none body } := by
  rw [visitModule_eq text {} body rfl]
  cases strictModule text body with
  | error fault => simp [error_map]
  | ok found => simp [ok_map, Visit.more, eq_comm]

end PullReview.Extract
