import PullReview.Proofs.Extract.Calls

/-!
# Calls that the tolerant extractor finds

The tolerant extractor goes from definition to definition, and takes the calls in the statements of
each function up to the next definition. So it finds a call exactly if its innermost scope is a
function around which there are only other scopes: it misses those in a class inside a function, and
those in a function that a compound statement holds.
-/

namespace PullReview.Extract

open Python

/-- The innermost scope around a node is a function, and around that there are only scopes. -/
def Direct (l : List Node) : Prop :=
  ∃ head body outer, l.dropWhile (!·.isScope) = .stmt (.function head body) :: outer ∧
    ∀ n ∈ outer, n.isScope = true

/-- The function that a call is taken for. -/
def owner? (above : List Node) : Option String :=
  match above.dropWhile (!·.isScope) with
  | .stmt (.function head _) :: outer => if outer.all Node.isScope then some head.name else none
  | _ => none

/-! ### Statements -/

private theorem ownBodyCalls_eq (body : List Stmt) : ownBodyCalls body = body.flatMap ownCalls := by
  induction body with
  | nil => rw [ownBodyCalls, List.flatMap_nil]
  | cons s rest ih => rw [ownBodyCalls, List.flatMap_cons, ih]

private theorem tolerantStmt_calls (text : Text) (inClass : Bool) (s : Stmt) :
    (tolerantStmt text inClass s).calls = (tolerantStmt text false s).calls := by
  cases s <;> rfl

private theorem tolerantBody_calls (text : Text) (inClass : Bool) (body : List Stmt) :
    (tolerantBody text inClass body).calls =
      body.flatMap fun s => (tolerantStmt text false s).calls := by
  induction body with
  | nil => rw [tolerantBody, List.flatMap_nil]
  | cons s rest ih => rw [tolerantBody, List.flatMap_cons, ← ih, tolerantStmt_calls]

private theorem tolerantModule_calls (text : Text) (body : List Stmt) :
    (tolerantModule text body).calls = body.flatMap fun s => (tolerantStmt text false s).calls := by
  induction body with
  | nil => rw [tolerantModule, List.flatMap_nil]
  | cons s rest ih => rw [tolerantModule, List.flatMap_cons, ← ih]

/-- The edges that a definition gives that is come to through definitions alone. -/
def definitionEdges (text : Text) (above : List Node) (s : Stmt) : List CallEdge :=
  if above.all Node.isScope then (tolerantStmt text false s).calls else []

/-- The edges that a node gives with the nodes inside it. -/
def tolerantEdges (text : Text) (above : List Node) : Node → List CallEdge
  | .module body => body.flatMap (definitionEdges text above)
  | .stmt s => edges text.path (owner? above) (ownCalls s) ++ definitionEdges text above s
  | .expr e => exprEdges .tolerant text.path owner? above e

private theorem flatMap_tolerantEdges_exprs (text : Text) (above : List Node) (es : List Expr) :
    (es.map Node.expr).flatMap (tolerantEdges text above) =
      es.flatMap (exprEdges .tolerant text.path owner? above) := List.flatMap_map ..

private theorem flatMap_tolerantEdges_stmts (text : Text) (above : List Node) (body : List Stmt) :
    ((body.map Node.stmt).flatMap (tolerantEdges text above)).Perm
      (edges text.path (owner? above) (ownBodyCalls body) ++
        body.flatMap (definitionEdges text above)) := by
  rw [List.flatMap_map, ownBodyCalls_eq, edges_flatMap]
  exact (List.flatMap_append_perm body _ _).symm

private theorem definitionEdges_of_not_definition {s : Stmt} (hs : isDefinition s = false)
    (text : Text) (above : List Node) : definitionEdges text above s = [] := by
  cases s with
  | function head body => cases hs
  | «class» head body => cases hs
  | _ => exact ite_self []

private theorem flatMap_definitionEdges_compound (text : Text) (clauses : List Clause)
    (above : List Node) (body : List Stmt) :
    body.flatMap (definitionEdges text (.stmt (.compound clauses) :: above)) = [] :=
  List.flatMap_eq_nil_iff.mpr fun _ _ => rfl

private theorem flatMap_tolerantEdges_clauses (text : Text) (all : List Clause) (above : List Node)
    (clauses : List Clause) :
    ((clauses.flatMap Clause.parts).flatMap
      (tolerantEdges text (.stmt (.compound all) :: above))).Perm
        (edges text.path (owner? above) (ownClauseCalls clauses)) := by
  induction clauses with
  | nil =>
      rw [ownClauseCalls, List.flatMap_nil, List.flatMap_nil, edges_eq]
      exact .nil
  | cons clause rest ih =>
      obtain ⟨head, body⟩ := clause
      have hbody := flatMap_tolerantEdges_stmts text (.stmt (.compound all) :: above) body
      rw [flatMap_definitionEdges_compound, List.append_nil] at hbody
      rw [List.flatMap_cons, List.flatMap_append, Clause.parts, List.flatMap_append,
        flatMap_tolerantEdges_exprs, exprEdges_stmt head fun _ => rfl, ownClauseCalls, listCalls_eq,
        edges_append, edges_append]
      exact (hbody.append_left _).append ih

private theorem flatMap_definitionEdges (text : Text) (above : List Node) (body : List Stmt) :
    body.flatMap (definitionEdges text above) =
      if above.all Node.isScope then body.flatMap fun s => (tolerantStmt text false s).calls
      else [] := by
  cases h : above.all Node.isScope with
  | true => exact List.flatMap_congr fun s _ => if_pos h
  | false => exact List.flatMap_eq_nil_iff.mpr fun s _ => if_neg (by simp [h])

private theorem definitionEdges_function (text : Text) (above : List Node) (head : FunctionHead)
    (body : List Stmt) :
    definitionEdges text above (.function head body) =
      edges text.path (owner? (.stmt (.function head body) :: above)) (ownBodyCalls body) ++
        body.flatMap (definitionEdges text (.stmt (.function head body) :: above)) := by
  have howner : owner? (.stmt (.function head body) :: above) =
      if above.all Node.isScope then some head.name else none := rfl
  have hall : (Node.stmt (.function head body) :: above).all Node.isScope =
      above.all Node.isScope := rfl
  rw [flatMap_definitionEdges, definitionEdges, howner, hall, tolerantStmt, tolerantBody_calls]
  cases above.all Node.isScope <;> rfl

private theorem definitionEdges_class (text : Text) (above : List Node) (head : ClassHead)
    (body : List Stmt) :
    definitionEdges text above (.class head body) =
      body.flatMap (definitionEdges text (.stmt (.class head body) :: above)) := by
  rw [flatMap_definitionEdges, definitionEdges, tolerantStmt, tolerantBody_calls]
  rfl

private theorem tolerantEdges_perm (text : Text) (above : List Node) (n : Node) :
    (tolerantEdges text above n).Perm ((edgeAt? .tolerant text.path owner? (n :: above)).toList ++
      (n.children .tolerant).flatMap (tolerantEdges text (n :: above))) := by
  cases n with
  | module body =>
      exact (flatMap_tolerantEdges_stmts text (.module body :: above) body).symm
  | expr e =>
      rw [Node.children, flatMap_tolerantEdges_exprs, tolerantEdges, exprEdges_eq rfl]
  | stmt s =>
      rw [edgeAt?, Option.toList_none, List.nil_append, Node.children, tolerantEdges]
      cases s with
      | simple exprs =>
          rw [ownCalls, Stmt.parts, flatMap_tolerantEdges_exprs, exprEdges_stmt exprs fun _ => rfl,
            listCalls_eq, definitionEdges_of_not_definition rfl, List.append_nil]
          exact .refl _
      | assign extent targets value =>
          rw [ownCalls, Stmt.parts, flatMap_tolerantEdges_exprs, exprEdges_stmt _ fun _ => rfl,
            listCalls_eq, List.flatMap_append, List.flatMap_singleton,
            definitionEdges_of_not_definition rfl, List.append_nil]
          exact .refl _
      | annotate extent target hint value =>
          rw [ownCalls, Stmt.parts, flatMap_tolerantEdges_exprs, exprEdges_stmt _ fun _ => rfl,
            optionCalls_eq, List.flatMap_cons, List.flatMap_cons, List.append_assoc,
            definitionEdges_of_not_definition rfl, List.append_nil]
          exact .refl _
      | compound clauses =>
          rw [ownCalls, Stmt.parts, definitionEdges_of_not_definition rfl, List.append_nil]
          exact (flatMap_tolerantEdges_clauses text clauses above clauses).symm
      | function head body =>
          rw [ownCalls, Stmt.parts, List.flatMap_append, flatMap_tolerantEdges_exprs,
            exprEdges_function, definitionEdges_function, edges_eq, List.filterMap_nil]
          exact (flatMap_tolerantEdges_stmts text _ body).symm
      | «class» head body =>
          rw [ownCalls, Stmt.parts, List.flatMap_append, flatMap_tolerantEdges_exprs,
            exprEdges_stmt _ fun _ => rfl, definitionEdges_class, edges_eq, List.filterMap_nil]
          exact (flatMap_tolerantEdges_stmts text (.stmt (.class head body) :: above) body).symm

/-! ### Modules -/

private theorem perm_calls (text : Text) (body : List Stmt) :
    (tolerantModule text body).calls.Perm
      ((lineages .tolerant [] (.module body)).filterMap (edgeAt? .tolerant text.path owner?)) := by
  rw [tolerantModule_calls]
  exact perm_filterMap_lineages (tolerantEdges_perm text) [] (.module body)

private theorem functionName?_of_not_isScope {n : Node} (h : n.isScope = false) :
    n.functionName? = none := by
  unfold Node.functionName?
  split
  · cases h
  · rfl

private theorem enclosing?_eq_of_dropWhile {l outer : List Node} {head : FunctionHead}
    {body : List Stmt} (h : l.dropWhile (!·.isScope) = .stmt (.function head body) :: outer) :
    enclosing? l = some head.name := by
  induction l with
  | nil => cases h
  | cons n l ih =>
      cases hn : n.isScope with
      | true =>
          rw [List.dropWhile_cons_of_neg (by simp [hn])] at h
          obtain rfl := (List.cons.inj h).1
          rfl
      | false =>
          rw [List.dropWhile_cons_of_pos (by simp [hn])] at h
          rw [enclosing?, List.findSome?_cons, functionName?_of_not_isScope hn]
          exact ih h

/-- A call is taken for the innermost function around it, or for none. -/
theorem owner?_eq_some_iff {l : List Node} {name : String} :
    owner? l = some name ↔ Direct l ∧ enclosing? l = some name := by
  unfold owner?
  split
  · rename_i head body outer hdrop
    rw [enclosing?_eq_of_dropWhile hdrop, Option.ite_none_right_eq_some, List.all_eq_true]
    refine and_congr_left fun _ => ⟨fun houter => ⟨head, body, outer, hdrop, houter⟩, ?_⟩
    rintro ⟨head', body', outer', hdrop', houter⟩
    rw [hdrop] at hdrop'
    obtain rfl := (List.cons.inj hdrop').2
    exact houter
  · rename_i hdrop
    simp only [reduceCtorEq, false_iff, not_and]
    rintro ⟨head, body, outer, h, _⟩
    exact (hdrop head body outer h).elim

/-- The edges that are found are those of direct calls. -/
theorem edgeAt?_owner?_iff {d : Dialect} {path : String} {l : List Node} {e : CallEdge} :
    edgeAt? d path owner? l = some e ↔ Direct l ∧ edgeAt? d path enclosing? l = some e := by
  rw [edgeAt?_eq_some_iff, edgeAt?_eq_some_iff]
  constructor
  · rintro ⟨line, func, args, above, name, callee, rfl, hbody, hcaller, h⟩
    obtain ⟨hdirect, hcaller⟩ := owner?_eq_some_iff.mp hcaller
    exact ⟨hdirect, line, func, args, above, name, callee, rfl, hbody, hcaller, h⟩
  · rintro ⟨hdirect, line, func, args, above, name, callee, rfl, hbody, hcaller, h⟩
    exact ⟨line, func, args, above, name, callee, rfl, hbody,
      owner?_eq_some_iff.mpr ⟨hdirect, hcaller⟩, h⟩

private theorem edgeAt?_owner?_cases (d : Dialect) (path : String) (l : List Node) :
    edgeAt? d path owner? l = none ∨ edgeAt? d path owner? l = edgeAt? d path enclosing? l := by
  cases h : edgeAt? d path owner? l with
  | none => exact .inl rfl
  | some e => exact .inr (edgeAt?_owner?_iff.mp h).2.symm

private theorem edgeAt?_owner?_ne_none {d : Dialect} {l : List Node} (path : String)
    (hcall : IsBodyCall d l) (hdirect : Direct l) : edgeAt? d path owner? l ≠ none := by
  obtain ⟨e, he⟩ := hcall.exists_edge path
  rw [edgeAt?_owner?_iff.mpr ⟨hdirect, edgeAt?_enclosing?_iff.mpr ⟨hcall, he⟩⟩]
  exact Option.some_ne_none e

private theorem lists_direct (d : Dialect) (path : String) (body : List Stmt) :
    Lists d body (fun l => IsBodyCall d l ∧ Direct l) (IsCallEdge d path)
      ((lineages d [] (.module body)).filterMap (edgeAt? d path owner?)) := by
  refine lists_filterMap (fun l _ e he => ?_) (fun l _ hnone hcall => ?_)
  · obtain ⟨hdirect, he⟩ := edgeAt?_owner?_iff.mp he
    obtain ⟨hcall, hedge⟩ := edgeAt?_enclosing?_iff.mp he
    exact ⟨⟨hcall, hdirect⟩, hedge⟩
  · exact edgeAt?_owner?_ne_none path hcall.1 hcall.2 hnone

section FilterMap

variable {α β : Type} {f g : α → Option β}

private theorem filterMap_sublist (h : ∀ x, f x = none ∨ f x = g x) (xs : List α) :
    (xs.filterMap f).Sublist (xs.filterMap g) := by
  induction xs with
  | nil => exact .slnil
  | cons x xs ih =>
      cases hg : g x with
      | none =>
          have hf : f x = none := (h x).elim id (·.trans hg)
          rw [List.filterMap_cons_none hf, List.filterMap_cons_none hg]
          exact ih
      | some b =>
          rw [List.filterMap_cons_some hg]
          rcases h x with hf | hf
          · rw [List.filterMap_cons_none hf]
            exact ih.cons b
          · rw [List.filterMap_cons_some (hf.trans hg)]
            exact ih.cons_cons b

private theorem eq_of_filterMap_eq (h : ∀ x, f x = none ∨ f x = g x) {xs : List α}
    (heq : xs.filterMap f = xs.filterMap g) : ∀ x ∈ xs, f x = g x := by
  induction xs with
  | nil => simp
  | cons x xs ih =>
      rw [List.forall_mem_cons]
      cases hg : g x with
      | none =>
          have hf : f x = none := (h x).elim id (·.trans hg)
          rw [List.filterMap_cons_none hf, List.filterMap_cons_none hg] at heq
          exact ⟨hf, ih heq⟩
      | some b =>
          rw [List.filterMap_cons_some hg] at heq
          rcases h x with hf | hf
          · -- Without a value here, the list is too short.
            rw [List.filterMap_cons_none hf] at heq
            have hlength := (filterMap_sublist h xs).length_le
            rw [heq, List.length_cons] at hlength
            omega
          · rw [List.filterMap_cons_some (hf.trans hg)] at heq
            exact ⟨hf.trans hg, ih (List.cons.inj heq).2⟩

end FilterMap

/-- The calls that are found are the direct ones, once each, and no call is lost exactly if all are
direct. -/
theorem tolerantModule_direct_calls (text : Text) (body : List Stmt) :
    ∃ all direct,
      Lists .tolerant body (IsBodyCall .tolerant) (IsCallEdge .tolerant text.path) all ∧
      Lists .tolerant body (fun l => IsBodyCall .tolerant l ∧ Direct l)
        (IsCallEdge .tolerant text.path) direct ∧
      direct.Sublist all ∧ (tolerantModule text body).calls.Perm direct ∧
      ((tolerantModule text body).calls.Perm all ↔ ∀ place l,
        nodeAt? .tolerant body place = some l → IsBodyCall .tolerant l → Direct l) := by
  have hcases := edgeAt?_owner?_cases .tolerant text.path
  have hsub := filterMap_sublist hcases (lineages .tolerant [] (.module body))
  have hperm := perm_calls text body
  refine ⟨_, _, lists_calls .tolerant text.path body, lists_direct .tolerant text.path body, hsub,
    hperm, fun hall place l hl hcall => ?_, fun hall => ?_⟩
  · have heq := hsub.eq_of_length (hperm.symm.trans hall).length_eq
    have howner := eq_of_filterMap_eq hcases heq l (mem_lineages_iff.mpr ⟨place, hl⟩)
    obtain ⟨e, he⟩ := hcall.exists_edge text.path
    have hedge := edgeAt?_enclosing?_iff.mpr ⟨hcall, he⟩
    rw [← howner] at hedge
    exact (edgeAt?_owner?_iff.mp hedge).1
  · have heq : ∀ l ∈ lineages .tolerant [] (.module body), edgeAt? .tolerant text.path owner? l =
        edgeAt? .tolerant text.path enclosing? l := by
      intro l hl
      obtain ⟨place, hplace⟩ := mem_lineages_iff.mp hl
      refine (hcases l).elim (fun hnone => ?_) id
      rw [hnone, eq_comm, Option.eq_none_iff_forall_ne_some]
      intro e he
      have hcall := (edgeAt?_enclosing?_iff.mp he).1
      exact edgeAt?_owner?_ne_none text.path hcall (hall place l hplace hcall) hnone
    rw [← List.filterMap_congr heq]
    exact hperm

/-- A class inside a function. -/
def innerClass : String := "def f():\n    class A:\n        x = h()\n"

theorem inner_class_call_lost : ∃ body l, parseModule .tolerant innerClass = some body ∧
    nodeAt? .tolerant body [0, 0, 0, 1] = some l ∧
      IsBodyCall .tolerant l ∧ IsCallEdge .tolerant "a.py" l ⟨"f", "h", "a.py", 3⟩ ∧
      (tolerantModule ⟨"a.py", PullReview.Text.lines innerClass⟩ body).calls = [] := by
  have hcall : ((parseModule .tolerant innerClass).bind (nodeAt? .tolerant · [0, 0, 0, 1])).bind
      (edgeAt? .tolerant "a.py" enclosing?) = some ⟨"f", "h", "a.py", 3⟩ := by decide +kernel
  have hnone : (parseModule .tolerant innerClass).map (fun body =>
      (tolerantModule ⟨"a.py", PullReview.Text.lines innerClass⟩ body).calls) = some [] := by
    decide +kernel
  obtain ⟨l, hl, hedge⟩ := Option.bind_eq_some_iff.mp hcall
  obtain ⟨body, hbody, hl⟩ := Option.bind_eq_some_iff.mp hl
  rw [hbody] at hnone
  obtain ⟨hcall, hedge⟩ := edgeAt?_enclosing?_iff.mp hedge
  exact ⟨body, l, hbody, hl, hcall, hedge, Option.some.inj hnone⟩

end PullReview.Extract
