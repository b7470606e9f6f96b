import PullReview.Proofs.Python.Reading
import PullReview.Python.Parse.Statement

/-!
# The rules of the grammar take tokens

Every rule is put together from readers that take tokens from the front of the tape, and so does it
itself. Only a field of a formatted literal is read from tokens of its own, and puts the tape back.
-/

namespace PullReview.Python.Parse

/-! ### Literals -/

section

variable (k : Knot)

/-- The expression of a field is read from tokens of its own; the tape is put back behind it. -/
theorem fieldExpression_still {chars : List Char} {start : Mark} {source : Source}
    {tape tape' : Tape} {e : Expr}
    (h : fieldExpression k chars start source tape = some (e, tape')) : tape = tape' := by
  obtain ⟨_, _, hdialect, h⟩ := bind_some h
  obtain ⟨rfl, rfl⟩ := Prod.mk.inj (Option.some.inj hdialect)
  cases hscan : scanInside source.dialect start chars with
  | none =>
      simp only [hscan] at h
      cases h
  | some tokens =>
      simp only [hscan] at h
      obtain ⟨_, _, hget, h⟩ := bind_some h
      obtain ⟨rfl, rfl⟩ := get_some hget
      obtain ⟨_, _, -, h⟩ := bind_some h
      obtain ⟨inner, _, -, h⟩ := bind_some h
      obtain ⟨_, _, -, h⟩ := bind_some h
      split at h
      · obtain ⟨_, _, hset, h⟩ := bind_some h
        obtain rfl := set_some hset
        cases inner <;> exact (pure_some h).2
      · cases h

instance steady_fieldExpression (chars : List Char) (start : Mark) :
    Steady (fieldExpression k chars start) :=
  .of_still (fieldExpression_still k)

mutual

private theorem steady_readPiece : (piece : RawPiece) → Steady (readPiece k piece)
  | .text codes => steady_pure _
  | .field chars start shown conversion format => by
      unfold readPiece
      have := steady_readFormat format
      infer_instance

private theorem steady_readFormat : (format : Option (List RawPiece)) → Steady (readFormat k format)
  | none => steady_pure _
  | some pieces => by
      unfold readFormat
      have := steady_readPieces pieces
      infer_instance

private theorem steady_readPieces : (pieces : List RawPiece) → Steady (readPieces k pieces)
  | [] => steady_pure _
  | piece :: rest => by
      unfold readPieces
      have := steady_readPiece piece
      have := steady_readPieces rest
      infer_instance

end

instance steady_literalPieces (q : Quoted) : Steady (literalPieces k q) := by
  unfold literalPieces
  refine Steady.bind inferInstance fun d => ?_
  split
  · split
    · exact steady_readPieces k _
    · infer_instance
  · split <;> infer_instance

instance steady_quoted? : Steady quoted? := by
  unfold quoted?
  refine Steady.bind inferInstance fun t => ?_
  split <;> infer_instance

instance steady_strings : Steady (strings k) := by
  unfold strings
  refine Steady.bind inferInstance fun d => Steady.bind inferInstance fun literals => ?_
  dsimp only
  split
  · infer_instance
  split
  · split
    · infer_instance
    · split <;> infer_instance
  · refine Steady.bind inferInstance fun pieces => ?_
    split
    · infer_instance
    · split <;> infer_instance

instance steady_numberAtom (text : String) : Steady (numberAtom text) := by
  unfold numberAtom
  split <;> infer_instance

end

/-! ### The knot -/

/-- Every reader of a knot takes tokens. -/
class SteadyKnot (k : Knot) : Prop where
  expression : Steady k.expression
  factor : Steady k.factor
  primary : Steady k.primary
  block : Steady k.block
  pattern : Steady k.pattern

attribute [instance] SteadyKnot.expression SteadyKnot.factor SteadyKnot.primary SteadyKnot.block
  SteadyKnot.pattern

variable (k : Knot) [SteadyKnot k]

-- the rules nest deeper than instance search goes by itself
set_option synthInstance.maxSize 4096

instance steady_namedExpression : Steady (namedExpression k) := by
  unfold namedExpression
  infer_instance

instance steady_binaryStep (ops : List (String × BinaryOp)) (next : Parse Expr) [Steady next]
    (left : Expr) : Steady (binaryStep ops next left) := by
  unfold binaryStep
  refine steady_peek.bind fun t => ?_
  split
  · split <;> infer_instance
  · infer_instance

instance steady_binaryLevel (ops : List (String × BinaryOp)) (next : Parse Expr) [Steady next] :
    Steady (binaryLevel ops next) := by
  unfold binaryLevel
  infer_instance

instance steady_bitwiseOr : Steady (bitwiseOr k) := by
  unfold bitwiseOr
  infer_instance

instance steady_compareOp? : Steady compareOp? := by
  unfold compareOp?
  refine steady_peek.bind fun t => ?_
  split
  · dsimp only
    split <;> infer_instance
  all_goals infer_instance

instance steady_compared : Steady (compared k) := by
  unfold compared
  refine Steady.bind inferInstance fun o => ?_
  split <;> infer_instance

instance steady_comparison : Steady (comparison k) := by
  unfold comparison
  infer_instance

instance steady_inversion : Steady (inversion k) := by
  unfold inversion
  infer_instance

instance steady_boolLevel (o : BoolOp) (w : String) (next : Parse Expr) [Steady next] :
    Steady (boolLevel o w next) := by
  unfold boolLevel
  infer_instance

instance steady_disjunction : Steady (disjunction k) := by
  unfold disjunction
  infer_instance

instance steady_starExpression : Steady (starExpression k) := by
  unfold starExpression
  infer_instance

instance steady_starExpressions : Steady (starExpressions k) := by
  unfold starExpressions
  infer_instance

instance steady_starNamed : Steady (starNamed k) := by
  unfold starNamed
  infer_instance

instance steady_yieldExpression : Steady (yieldExpression k) := by
  unfold yieldExpression
  infer_instance

instance steady_atLoop : Steady atLoop := by
  unfold atLoop
  infer_instance

instance steady_targets (stop : TokenKind → Bool) : Steady (targets k stop) := by
  unfold targets
  infer_instance

instance steady_loops : Steady (loops k) := by
  unfold loops
  infer_instance

instance steady_argument : Steady (argument k) := by
  unfold argument
  infer_instance

instance steady_arguments (inCall : Bool) : Steady (arguments k inCall) := by
  unfold arguments
  refine Steady.bind inferInstance fun closed => ?_
  split
  · infer_instance
  · refine Steady.bind (@steady_commaList _ _ ?_ _) fun items => inferInstance
    refine Steady.bind inferInstance fun first => Steady.bind inferInstance fun arg => ?_
    split <;> infer_instance

instance steady_sliceBound : Steady (sliceBound k) := by
  unfold sliceBound
  infer_instance

instance steady_sliceAfter (lower : Option Expr) : Steady (sliceAfter k lower) := by
  unfold sliceAfter
  infer_instance

instance steady_subscriptItem : Steady (subscriptItem k) := by
  unfold subscriptItem
  infer_instance

instance steady_subscriptIndex : Steady (subscriptIndex k) := by
  unfold subscriptIndex
  refine Steady.bind inferInstance fun items => ?_
  split
  split <;> infer_instance

instance steady_roundContent : Steady (roundContent k) := by
  unfold roundContent
  infer_instance

instance steady_squareContent : Steady (squareContent k) := by
  unfold squareContent
  infer_instance

instance steady_dictItem : Steady (dictItem k) := by
  unfold dictItem
  infer_instance

instance steady_curlyContent : Steady (curlyContent k) := by
  unfold curlyContent
  infer_instance

instance steady_atom : Steady (atom k) := by
  unfold atom
  refine Steady.bind inferInstance fun t => ?_
  split <;> infer_instance

instance steady_trailer (line : Nat) (e : Expr) : Steady (trailer k line e) := by
  unfold trailer
  infer_instance

instance steady_primaryRule : Steady (primaryRule k) := by
  unfold primaryRule
  infer_instance

instance steady_factorRule : Steady (factorRule k) := by
  unfold factorRule
  infer_instance

instance steady_lambdaParam : Steady (lambdaParam k) := by
  unfold lambdaParam
  infer_instance

instance steady_lambda : Steady (lambda k) := by
  unfold lambda
  infer_instance

instance steady_expressionRule : Steady (expressionRule k) := by
  unfold expressionRule
  infer_instance

/-! ### Patterns -/

instance steady_isFollowedBy (texts : List String) : Steady (isFollowedBy texts) := by
  unfold isFollowedBy
  refine Steady.bind inferInstance fun t => ?_
  split <;> infer_instance

instance steady_captureTarget : Steady captureTarget := by
  unfold captureTarget
  infer_instance

instance steady_numberPattern : Steady numberPattern := by
  unfold numberPattern
  refine Steady.bind inferInstance fun sign => Steady.bind inferInstance fun t => ?_
  split
  · refine Steady.bind inferInstance fun first => Steady.bind inferInstance fun joined => ?_
    split
    · refine Steady.bind inferInstance fun sum => Steady.bind inferInstance fun t => ?_
      split <;> infer_instance
    · infer_instance
  · infer_instance

instance steady_dottedTail : Steady dottedTail := by
  unfold dottedTail
  infer_instance

instance steady_sequenceItem : Steady (sequenceItem k) := by
  unfold sequenceItem
  infer_instance

instance steady_classItem : Steady (classItem k) := by
  unfold classItem
  infer_instance

instance steady_mappingKey : Steady (mappingKey k) := by
  unfold mappingKey
  refine Steady.bind inferInstance fun t => ?_
  split <;> infer_instance

instance steady_mappingItem : Steady (mappingItem k) := by
  unfold mappingItem
  infer_instance

instance steady_closedPattern : Steady (closedPattern k) := by
  unfold closedPattern
  refine Steady.bind inferInstance fun t => ?_
  split
  case h_9 =>
    refine Steady.bind inferInstance fun opened => Steady.bind inferInstance fun closed => ?_
    split
    · infer_instance
    · refine Steady.bind inferInstance fun items => ?_
      split
      refine Steady.bind inferInstance fun closing => ?_
      split <;> infer_instance
  all_goals infer_instance

instance steady_patternRule : Steady (patternRule k) := by
  unfold patternRule
  infer_instance

instance steady_patterns : Steady (patterns k) := by
  unfold patterns
  refine Steady.bind inferInstance fun items => ?_
  split
  split <;> infer_instance

/-! ### Statements -/

instance steady_atStatementEnd : Steady atStatementEnd := by
  unfold atStatementEnd
  refine Steady.bind inferInstance fun t => ?_
  split <;> infer_instance

instance steady_dottedName : Steady dottedName := by
  unfold dottedName
  infer_instance

instance steady_asName : Steady asName := by
  unfold asName
  infer_instance

instance steady_importNames : Steady importNames := by
  unfold importNames
  infer_instance

instance steady_importFrom : Steady importFrom := by
  unfold importFrom
  infer_instance

instance steady_names : Steady names := by
  unfold names
  infer_instance

instance steady_atAugmented : Steady atAugmented := by
  unfold atAugmented
  refine Steady.bind inferInstance fun t => ?_
  split <;> infer_instance

instance steady_rightSide : Steady (rightSide k) := by
  unfold rightSide
  infer_instance

instance steady_assigned : Steady (assigned k) := by
  unfold assigned
  infer_instance

instance steady_extentFrom (first : Nat) : Steady (extentFrom first) := by
  unfold extentFrom
  infer_instance

instance steady_expressionStatement : Steady (expressionStatement k) := by
  unfold expressionStatement
  refine Steady.bind inferInstance fun t => Steady.bind inferInstance fun left =>
    Steady.bind inferInstance fun assigns => ?_
  split
  · refine Steady.bind inferInstance fun more => ?_
    split <;> infer_instance
  · infer_instance

instance steady_raiseStatement : Steady (raiseStatement k) := by
  unfold raiseStatement
  infer_instance

instance steady_deleteStatement : Steady (deleteStatement k) := by
  unfold deleteStatement
  infer_instance

instance steady_assertStatement : Steady (assertStatement k) := by
  unfold assertStatement
  infer_instance

instance steady_returnStatement : Steady (returnStatement k) := by
  unfold returnStatement
  infer_instance

instance steady_looseStatement? : Steady (looseStatement? k) := by
  unfold looseStatement?
  infer_instance

instance steady_simpleStatement : Steady (simpleStatement k) := by
  unfold simpleStatement
  refine Steady.bind inferInstance fun t => ?_
  split
  case h_12 =>
    refine Steady.bind inferInstance fun loose => ?_
    split <;> infer_instance
  all_goals infer_instance

instance steady_simpleStatements : Steady (simpleStatements k) := by
  unfold simpleStatements
  infer_instance

/-! ### Definitions -/

instance steady_paramHint (starAllowed : Bool) : Steady (paramHint k starAllowed) := by
  unfold paramHint
  infer_instance

instance steady_starredName (start : Nat) : Steady (starredName start) := by
  unfold starredName
  infer_instance

instance steady_param : Steady (param k) := by
  unfold param
  infer_instance

instance steady_params : Steady (params k) := by
  unfold params
  infer_instance

instance steady_skipBrackets (bound depth : Nat) : Steady (skipBrackets bound depth) := by
  induction bound generalizing depth with
  | zero => exact steady_refuse
  | succ bound ih =>
      unfold skipBrackets
      infer_instance

instance steady_skipTypeParams : Steady skipTypeParams := by
  unfold skipTypeParams
  infer_instance

instance steady_decorator : Steady (decorator k) := by
  unfold decorator
  infer_instance

instance steady_decorators : Steady (decorators k) := by
  unfold decorators
  infer_instance

instance steady_returnHint : Steady (returnHint k) := by
  unfold returnHint
  infer_instance

instance steady_functionDef (ds : List Decorator) : Steady (functionDef k ds) := by
  unfold functionDef
  infer_instance

instance steady_bases : Steady (bases k) := by
  unfold bases
  infer_instance

instance steady_classDef (ds : List Decorator) : Steady (classDef k ds) := by
  unfold classDef
  infer_instance

/-! ### Compound statements -/

instance steady_clause (head : List Expr) : Steady (clause k head) := by
  unfold clause
  infer_instance

instance steady_wordClause (w : String) : Steady (wordClause k w) := by
  unfold wordClause
  infer_instance

instance steady_ifStatement : Steady (ifStatement k) := by
  unfold ifStatement
  infer_instance

instance steady_whileStatement : Steady (whileStatement k) := by
  unfold whileStatement
  infer_instance

instance steady_forStatement : Steady (forStatement k) := by
  unfold forStatement
  infer_instance

instance steady_withItem : Steady (withItem k) := by
  unfold withItem
  infer_instance

instance steady_bracketedItems : Steady (bracketedItems k) := by
  unfold bracketedItems
  infer_instance

instance steady_withStatement : Steady (withStatement k) := by
  unfold withStatement
  infer_instance

instance steady_handlerHead : Steady (handlerHead k) := by
  unfold handlerHead
  infer_instance

instance steady_tryStatement : Steady (tryStatement k) := by
  unfold tryStatement
  infer_instance

instance steady_subject : Steady (subject k) := by
  unfold subject
  refine Steady.bind inferInstance fun items => ?_
  split
  split <;> infer_instance

instance steady_caseClause : Steady (caseClause k) := by
  unfold caseClause
  infer_instance

instance steady_matchHead : Steady (matchHead k) := by
  unfold matchHead
  refine Steady.bind inferInstance fun w => Steady.bind inferInstance fun e =>
    Steady.bind inferInstance fun colon => Steady.bind inferInstance fun line =>
    Steady.bind inferInstance fun t => ?_
  split <;> infer_instance

instance steady_matchCases (e : Expr) : Steady (matchCases k e) := by
  unfold matchCases
  refine Steady.bind inferInstance fun cases => Steady.bind inferInstance fun t => ?_
  dsimp only
  split <;> infer_instance

instance steady_statement : Steady (statement k) := by
  unfold statement
  refine Steady.bind inferInstance fun t => ?_
  split
  case h_4 =>
    refine Steady.bind inferInstance fun t => ?_
    split <;> infer_instance
  case h_10 =>
    refine Steady.bind inferInstance fun e => ?_
    split <;> infer_instance
  all_goals infer_instance

instance steady_statements : Steady (statements k) := by
  unfold statements
  infer_instance

instance steady_blockRule : Steady (blockRule k) := by
  unfold blockRule
  refine Steady.bind inferInstance fun colon => Steady.bind inferInstance fun t => ?_
  split
  · refine Steady.bind inferInstance fun line => Steady.bind inferInstance fun t => ?_
    split
    · refine Steady.bind inferInstance fun indent => Steady.bind inferInstance fun body =>
        Steady.bind inferInstance fun t => ?_
      split <;> infer_instance
    · infer_instance
  · infer_instance

instance steadyKnot_knot (n : Nat) : SteadyKnot (knot n) := by
  induction n with
  | zero => exact ⟨steady_refuse, steady_refuse, steady_refuse, steady_refuse, steady_refuse⟩
  | succ n ih =>
      exact ⟨steady_expressionRule (knot n), steady_factorRule (knot n),
        steady_primaryRule (knot n), steady_blockRule (knot n), steady_patternRule (knot n)⟩

end PullReview.Python.Parse
