import PullReview.Python.Syntax
import PullReview.Python.Token

/-!
# Nodes of syntax trees

The tree of a module is made of its statements and their expressions. The nodes directly inside a
node have an order, which the two dialects do not always share.
-/

namespace PullReview.Python

/-! ### Parts of expressions -/

def Argument.expr : Argument → Expr
  | .positional e | .starred e | .keyword _ e | .doubleStarred e => e

def Argument.isNamed : Argument → Bool
  | .keyword _ _ | .doubleStarred _ => true
  | _ => false

/-- Arguments as the strict dialect lists them, those with a name last, or as written. -/
def argumentParts (d : Dialect) (args : List Argument) : List Expr :=
  match d with
  | .strict => (args.filter (!·.isNamed) ++ args.filter (·.isNamed)).map Argument.expr
  | .tolerant => args.map Argument.expr

def DictItem.key? : DictItem → Option Expr
  | .pair key _ => some key
  | .unpack _ => none

def DictItem.value : DictItem → Expr
  | .pair _ value | .unpack value => value

/-- The keys of a mapping before its values, or each key before its value. -/
def itemParts (d : Dialect) (items : List DictItem) : List Expr :=
  match d with
  | .strict => items.filterMap DictItem.key? ++ items.map DictItem.value
  | .tolerant => items.flatMap fun i => i.key?.toList ++ [i.value]

def LambdaParam.default? : LambdaParam → Option Expr
  | .mk _ _ default => default

/-- Whether the parameters from here on have to be named. -/
def LambdaParam.isMark : LambdaParam → Bool
  | .mk role _ _ => role == .star || role == .varPositional

/-- The defaults of a lambda: those of named parameters first, or as written. -/
def defaultParts (d : Dialect) (params : List LambdaParam) : List Expr :=
  match d with
  | .strict =>
      (params.dropWhile (!·.isMark) ++ params.takeWhile (!·.isMark)).filterMap LambdaParam.default?
  | .tolerant => params.filterMap LambdaParam.default?

def Loop.parts : Loop → List Expr
  | .mk _ target source conditions => target :: source :: conditions

def pieceParts : List Piece → List Expr
  | [] => []
  | .text _ :: rest => pieceParts rest
  | .field value _ none :: rest => value :: pieceParts rest
  | .field value _ (some format) :: rest => value :: (pieceParts format ++ pieceParts rest)

/-- The expressions directly inside an expression. The strict dialect has the fields of a node in a
fixed order, the tolerant one has them as written. -/
def Expr.parts (d : Dialect) : Expr → List Expr
  | .name _ | .constant _ | .int _ | .float _ | .imaginary _ | .text _ _ | .bytes _ => []
  | .formatted pieces => pieceParts pieces
  | .group e | .attribute e _ | .await e | .yieldFrom e | .unary _ e | .starred e => [e]
  | .yield e => e.toList
  | .subscript value index => [value, index]
  | .call _ func args => func :: argumentParts d args
  | .binary _ left right | .named left right => [left, right]
  | .bool _ values | .tuple values | .list values | .set values => values
  | .compare first _ others => first :: others
  | .conditional body test orElse =>
      match d with
      | .strict => [test, body, orElse]
      | .tolerant => [body, test, orElse]
  | .lambda params body => defaultParts d params ++ [body]
  | .dict items => itemParts d items
  | .comprehension _ element loops => element :: loops.flatMap Loop.parts
  | .dictComprehension key value loops => key :: value :: loops.flatMap Loop.parts
  | .slice lower upper step => lower.toList ++ upper.toList ++ step.toList

/-! ### Nodes -/

inductive Node where
  | module (body : List Stmt)
  | stmt (s : Stmt)
  | expr (e : Expr)

/-- The annotations and defaults in a parameter list. -/
def paramParts (params : List Param) : List Expr :=
  params.flatMap fun p => (p.hint.map Written.expr).toList ++ p.default.toList

def decoratorParts (decorators : List Decorator) : List Expr := decorators.map Decorator.expr

def returnParts (returns : Option Written) : List Expr := (returns.map Written.expr).toList

def baseParts (d : Dialect) (bases : List Base) : List Expr :=
  argumentParts d (bases.map Base.argument)

def Clause.parts : Clause → List Node
  | .mk head body => head.map .expr ++ body.map .stmt

/-- The nodes directly inside a statement. The expressions directly inside a definition are those of
its head, its decorators among them, which the strict dialect has behind the body. -/
def Stmt.parts (d : Dialect) : Stmt → List Node
  | .simple exprs => exprs.map .expr
  | .assign _ targets value => (targets ++ [value]).map .expr
  | .annotate _ target hint value => (target :: hint.expr :: value.toList).map .expr
  | .compound clauses => clauses.flatMap Clause.parts
  | .function head body =>
      match d with
      | .strict =>
          (paramParts head.params).map .expr ++ body.map .stmt ++
            (decoratorParts head.decorators ++ returnParts head.returns).map .expr
      | .tolerant =>
          (decoratorParts head.decorators ++ paramParts head.params ++
            returnParts head.returns).map .expr ++ body.map .stmt
  | .class head body =>
      match d with
      | .strict =>
          (baseParts d head.bases).map .expr ++ body.map .stmt ++
            (decoratorParts head.decorators).map .expr
      | .tolerant =>
          (decoratorParts head.decorators ++ baseParts d head.bases).map .expr ++ body.map .stmt

def Node.children (d : Dialect) : Node → List Node
  | .module body => body.map .stmt
  | .stmt s => s.parts d
  | .expr e => (e.parts d).map .expr

/-- Whether a node is a module, a function or a class. -/
def Node.isScope : Node → Bool
  | .module _ | .stmt (.function _ _) | .stmt (.class _ _) => true
  | _ => false

/-- The name of the function that a node is. -/
def Node.functionName? : Node → Option String
  | .stmt (.function head _) => some head.name
  | _ => none

/-! ### Sizes -/

private theorem sizeOf_lt_of_mem_pieceParts {pieces : List Piece} {e : Expr}
    (h : e ∈ pieceParts pieces) : sizeOf e < sizeOf pieces := by
  fun_induction pieceParts pieces with
  | case1 => simp at h
  | case2 codes rest ih =>
      have hrest := ih h
      rw [List.cons.sizeOf_spec]
      omega
  | case3 value conversion rest ih =>
      rw [List.cons.sizeOf_spec, Piece.field.sizeOf_spec]
      rcases List.mem_cons.mp h with rfl | h
      · omega
      · have hrest := ih h
        omega
  | case4 value conversion format rest ihformat ihrest =>
      rw [List.cons.sizeOf_spec, Piece.field.sizeOf_spec, Option.some.sizeOf_spec]
      simp only [List.mem_cons, List.mem_append] at h
      rcases h with rfl | h | h
      · omega
      · have hformat := ihformat h
        omega
      · have hrest := ihrest h
        omega

private theorem mem_argumentParts {d : Dialect} {args : List Argument} {e : Expr} :
    e ∈ argumentParts d args ↔ ∃ a ∈ args, a.expr = e := by
  cases d with
  | strict =>
      simp only [argumentParts, List.mem_map, List.mem_append, List.mem_filter]
      grind
  | tolerant => simp [argumentParts]

private theorem mem_itemParts {d : Dialect} {items : List DictItem} {e : Expr} :
    e ∈ itemParts d items ↔ ∃ i ∈ items, i.key? = some e ∨ i.value = e := by
  cases d with
  | strict =>
      simp only [itemParts, List.mem_append, List.mem_filterMap, List.mem_map]
      grind
  | tolerant =>
      simp [itemParts, eq_comm]

private theorem mem_defaultParts {d : Dialect} {params : List LambdaParam} {e : Expr} :
    e ∈ defaultParts d params ↔ ∃ p ∈ params, p.default? = some e := by
  cases d with
  | strict =>
      have hsplit : ∀ p, p ∈ params ↔ p ∈ params.takeWhile (!·.isMark) ∨
          p ∈ params.dropWhile (!·.isMark) := by
        intro p
        rw [← List.mem_append, List.takeWhile_append_dropWhile]
      simp only [defaultParts, List.mem_filterMap, List.mem_append, hsplit]
      grind
  | tolerant => simp [defaultParts]

private theorem sizeOf_argument_expr (a : Argument) : sizeOf a.expr < sizeOf a := by
  cases a with
  | positional e =>
      rw [Argument.expr, Argument.positional.sizeOf_spec]
      omega
  | starred e =>
      rw [Argument.expr, Argument.starred.sizeOf_spec]
      omega
  | keyword name e =>
      rw [Argument.expr, Argument.keyword.sizeOf_spec]
      omega
  | doubleStarred e =>
      rw [Argument.expr, Argument.doubleStarred.sizeOf_spec]
      omega

private theorem sizeOf_lt_of_key?_or_value {i : DictItem} {e : Expr}
    (h : i.key? = some e ∨ i.value = e) : sizeOf e < sizeOf i := by
  cases i with
  | pair key value =>
      rw [DictItem.pair.sizeOf_spec]
      rcases h with h | rfl
      · cases h
        omega
      · rw [DictItem.value]
        omega
  | unpack value =>
      rw [DictItem.unpack.sizeOf_spec]
      rcases h with h | rfl
      · cases h
      · rw [DictItem.value]
        omega

private theorem sizeOf_lt_of_default? {p : LambdaParam} {e : Expr} (h : p.default? = some e) :
    sizeOf e < sizeOf p := by
  obtain ⟨role, name, default⟩ := p
  obtain rfl : default = some e := h
  rw [LambdaParam.mk.sizeOf_spec, Option.some.sizeOf_spec]
  omega

private theorem sizeOf_lt_of_mem_loop {loops : List Loop} {loop : Loop} {e : Expr}
    (hloop : loop ∈ loops) (h : e ∈ loop.parts) : sizeOf e < sizeOf loops := by
  obtain ⟨isAsync, target, source, conditions⟩ := loop
  have hsize := List.sizeOf_lt_of_mem hloop
  simp only [Loop.mk.sizeOf_spec] at hsize
  simp only [Loop.parts, List.mem_cons] at h
  rcases h with rfl | rfl | h
  · omega
  · omega
  · have hcondition := List.sizeOf_lt_of_mem h
    omega

private theorem sizeOf_lt_of_mem_toList {o : Option Expr} {e : Expr} (h : e ∈ o.toList) :
    sizeOf e < sizeOf o := by
  obtain rfl := Option.mem_toList.mp h
  rw [Option.some.sizeOf_spec]
  omega

private theorem sizeOf_lt_of_mem_argumentParts {d : Dialect} {args : List Argument} {e : Expr}
    (h : e ∈ argumentParts d args) : sizeOf e < sizeOf args := by
  obtain ⟨a, ha, rfl⟩ := mem_argumentParts.mp h
  exact Nat.lt_trans (sizeOf_argument_expr a) (List.sizeOf_lt_of_mem ha)

private theorem sizeOf_lt_of_mem_itemParts {d : Dialect} {items : List DictItem} {e : Expr}
    (h : e ∈ itemParts d items) : sizeOf e < sizeOf items := by
  obtain ⟨i, hi, he⟩ := mem_itemParts.mp h
  exact Nat.lt_trans (sizeOf_lt_of_key?_or_value he) (List.sizeOf_lt_of_mem hi)

private theorem sizeOf_lt_of_mem_defaultParts {d : Dialect} {params : List LambdaParam} {e : Expr}
    (h : e ∈ defaultParts d params) : sizeOf e < sizeOf params := by
  obtain ⟨p, hp, he⟩ := mem_defaultParts.mp h
  exact Nat.lt_trans (sizeOf_lt_of_default? he) (List.sizeOf_lt_of_mem hp)

private theorem sizeOf_lt_of_mem_parts {d : Dialect} {e part : Expr} :
    part ∈ e.parts d → sizeOf part < sizeOf e := by
  have hlist {xs : List Expr} : part ∈ xs → sizeOf part < sizeOf xs := List.sizeOf_lt_of_mem
  fun_cases Expr.parts d e
  all_goals simp
  all_goals
    grind [→ sizeOf_lt_of_mem_pieceParts, → sizeOf_lt_of_mem_argumentParts,
      → sizeOf_lt_of_mem_itemParts, → sizeOf_lt_of_mem_defaultParts, → sizeOf_lt_of_mem_loop]

private theorem sizeOf_lt_of_mem_returnParts {hint : Option Written} {e : Expr}
    (h : e ∈ returnParts hint) : sizeOf e < sizeOf hint := by
  obtain ⟨⟨expr, source⟩, rfl, rfl⟩ := Option.map_eq_some_iff.mp (Option.mem_toList.mp h)
  rw [Option.some.sizeOf_spec, Written.mk.sizeOf_spec]
  dsimp only
  omega

private theorem sizeOf_lt_of_mem_paramParts {params : List Param} {e : Expr}
    (h : e ∈ paramParts params) : sizeOf e < sizeOf params := by
  obtain ⟨⟨role, name, source, hint, default⟩, hp, he⟩ := List.mem_flatMap.mp h
  have hsize := List.sizeOf_lt_of_mem hp
  simp only [Param.mk.sizeOf_spec] at hsize
  dsimp only at he
  rcases List.mem_append.mp he with he | he
  · have hhint := sizeOf_lt_of_mem_returnParts he
    omega
  · have hdefault := sizeOf_lt_of_mem_toList he
    omega

private theorem sizeOf_lt_of_mem_decoratorParts {decorators : List Decorator} {e : Expr}
    (h : e ∈ decoratorParts decorators) : sizeOf e < sizeOf decorators := by
  obtain ⟨⟨expr, markLine, exprLine, source⟩, hd, rfl⟩ := List.mem_map.mp h
  have hsize := List.sizeOf_lt_of_mem hd
  simp only [Decorator.mk.sizeOf_spec] at hsize
  dsimp only
  omega

private theorem sizeOf_lt_of_mem_baseParts {d : Dialect} {bases : List Base} {e : Expr}
    (h : e ∈ baseParts d bases) : sizeOf e < sizeOf bases := by
  obtain ⟨a, ha, rfl⟩ := mem_argumentParts.mp h
  obtain ⟨⟨argument, source⟩, hb, rfl⟩ := List.mem_map.mp ha
  have hsize := List.sizeOf_lt_of_mem hb
  have hexpr := sizeOf_argument_expr argument
  simp only [Base.mk.sizeOf_spec] at hsize
  dsimp only
  omega

private theorem sizeOf_lt_of_mem_clause {clauses : List Clause} {clause : Clause} {n : Node}
    (hclause : clause ∈ clauses) (h : n ∈ clause.parts) : sizeOf n < sizeOf clauses := by
  obtain ⟨head, body⟩ := clause
  have hsize := List.sizeOf_lt_of_mem hclause
  simp only [Clause.mk.sizeOf_spec] at hsize
  simp only [Clause.parts, List.mem_append, List.mem_map] at h
  rcases h with ⟨e, he, rfl⟩ | ⟨s, hs, rfl⟩
  · have hexpr := List.sizeOf_lt_of_mem he
    simp only [Node.expr.sizeOf_spec]
    omega
  · have hstmt := List.sizeOf_lt_of_mem hs
    simp only [Node.stmt.sizeOf_spec]
    omega

private theorem sizeOf_functionHead (head : FunctionHead) : sizeOf head = 1 + sizeOf head.name +
    sizeOf head.decorators + sizeOf head.params + sizeOf head.returns + sizeOf head.extent := by
  cases head
  simp

private theorem sizeOf_classHead (head : ClassHead) : sizeOf head = 1 + sizeOf head.name +
    sizeOf head.decorators + sizeOf head.bases + sizeOf head.extent := by
  cases head
  simp

private theorem sizeOf_written (w : Written) : sizeOf w = 1 + sizeOf w.expr + sizeOf w.source := by
  cases w
  simp

private theorem sizeOf_lt_of_mem_stmtParts {d : Dialect} {s : Stmt} {n : Node} :
    n ∈ s.parts d → sizeOf n < 1 + sizeOf s := by
  have hexprs {e : Expr} {xs : List Expr} : e ∈ xs → sizeOf e < sizeOf xs := List.sizeOf_lt_of_mem
  have hstmts {s : Stmt} {xs : List Stmt} : s ∈ xs → sizeOf s < sizeOf xs := List.sizeOf_lt_of_mem
  fun_cases Stmt.parts d s
  all_goals simp
  all_goals
    grind [Node.expr.sizeOf_spec, Node.stmt.sizeOf_spec, Option.some.sizeOf_spec,
      sizeOf_functionHead, sizeOf_classHead, sizeOf_written, → sizeOf_lt_of_mem_paramParts,
      → sizeOf_lt_of_mem_decoratorParts, → sizeOf_lt_of_mem_returnParts,
      → sizeOf_lt_of_mem_baseParts, → sizeOf_lt_of_mem_clause]

theorem sizeOf_lt_of_mem_children {d : Dialect} {n c : Node} (h : c ∈ n.children d) :
    sizeOf c < sizeOf n := by
  cases n with
  | module body =>
      obtain ⟨s, hs, rfl⟩ := List.mem_map.mp h
      have hsize := List.sizeOf_lt_of_mem hs
      rw [Node.stmt.sizeOf_spec, Node.module.sizeOf_spec]
      omega
  | stmt s => exact sizeOf_lt_of_mem_stmtParts h
  | expr e =>
      obtain ⟨part, hpart, rfl⟩ := List.mem_map.mp h
      have hsize := sizeOf_lt_of_mem_parts hpart
      rw [Node.expr.sizeOf_spec, Node.expr.sizeOf_spec]
      omega

end PullReview.Python
