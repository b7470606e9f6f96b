import PullReview.Python.Parse.Expression

/-!
# Case patterns

A pattern is read for its form. Of its content only the literal texts are kept, which are the
expressions that a formatted literal may hide in.
-/

namespace PullReview.Python.Parse

def isFollowedBy (texts : List String) : Parse Bool := do
  match ← peek with
  | .op t => return texts.contains t
  | _ => return false

/-- A name to bind, which is not the wildcard and starts no longer form. -/
def captureTarget : Parse Unit := do
  let name ← identifier
  if name == "_" || (← isFollowedBy [".", "(", "="]) then refuse

def isImaginary (text : String) : Bool := text.endsWith "j" || text.endsWith "J"

/-- A number with an optional sign, or the sum of a real and an imaginary number. -/
def numberPattern : Parse Unit := do
  let _ ← tryOp "-"
  match ← peek with
  | .number first =>
      let _ ← take
      if ← isFollowedBy ["+", "-"] then
        let _ ← take
        match ← peek with
        | .number second =>
            let _ ← take
            if isImaginary first || !isImaginary second then refuse
        | _ => refuse
  | _ => refuse

/-- Names behind points. Answers whether there is one. -/
def dottedTail : Parse Bool := do
  let names ← many do
    if ← tryOp "." then return some (← identifier) else return none
  return !names.isEmpty

/-- An element of a sequence pattern, and whether it is starred. -/
def sequenceItem (k : Knot) : Parse (List Expr × Bool) := do
  if ← tryOp "*" then
    if ← tryWord "_" then return ([], true)
    captureTarget
    return ([], true)
  else return (← k.pattern, false)

def classItem (k : Knot) : Parse (List Expr × Bool) := do
  if isIdentifier (← peek) && isOp "=" (← peekSecond) then
    let _ ← take
    let _ ← take
    return (← k.pattern, true)
  else return (← k.pattern, false)

/-- Positional patterns come before keyword patterns. -/
def keywordsLast : List Bool → Bool
  | [] => true
  | true :: rest => rest.all id
  | false :: rest => keywordsLast rest

/-- A key of a mapping pattern: a literal or a dotted name. -/
def mappingKey (k : Knot) : Parse (List Expr) := do
  match ← peek with
  | .quoted _ => return [← strings k]
  | .number _ => numberPattern; return []
  | .op "-" => numberPattern; return []
  | .name "None" | .name "True" | .name "False" => let _ ← take; return []
  | _ =>
      let _ ← identifier
      if ← dottedTail then return [] else refuse

/-- An entry of a mapping pattern, and whether it binds the rest. -/
def mappingItem (k : Knot) : Parse (List Expr × Bool) := do
  if ← tryOp "**" then
    captureTarget
    return ([], true)
  else
    let key ← mappingKey k
    let _ ← op ":"
    return (key ++ (← k.pattern), false)

def closedPattern (k : Knot) : Parse (List Expr) := do
  match ← peek with
  | .quoted _ => return [← strings k]
  | .number _ => numberPattern; return []
  | .name "None" | .name "True" | .name "False" | .name "_" => let _ ← take; return []
  | .name _ =>
      let _ ← identifier
      let dotted ← dottedTail
      if ← tryOp "(" then
        let items ← bracketed (classItem k) ")"
        let _ ← op ")"
        if !keywordsLast (items.map (·.2)) then refuse
        return items.flatMap (·.1)
      else if !dotted && (← atOp "=") then refuse
      else return []
  | .op "-" => numberPattern; return []
  | .op "(" =>
      let _ ← take
      if ← tryOp ")" then return []
      let (items, trailing) ← commaList (sequenceItem k) (isOp ")")
      let _ ← op ")"
      match items, trailing with
      | [(_, true)], false => refuse
      | _, _ => return items.flatMap (·.1)
  | .op "[" =>
      let _ ← take
      let items ← bracketed (sequenceItem k) "]"
      let _ ← op "]"
      return items.flatMap (·.1)
  | .op t =>
      if t == "\x7b" then
        let _ ← take
        let items ← bracketed (mappingItem k) "\x7d"
        let _ ← op "\x7d"
        if items.dropLast.any (·.2) then refuse
        return items.flatMap (·.1)
      else refuse
  | _ => refuse

/-- Alternatives, with an optional name for the match. -/
def patternRule (k : Knot) : Parse (List Expr) := do
  let first ← closedPattern k
  let others ← many do
    if ← tryOp "|" then return some (← closedPattern k) else return none
  if ← tryWord "as" then captureTarget
  return first ++ others.flatten

/-- The pattern of a case: one pattern, or a sequence without brackets. -/
def patterns (k : Knot) : Parse (List Expr) := do
  let stop (t : TokenKind) : Bool := isOp ":" t || isWord "if" t
  let (items, trailing) ← commaList (sequenceItem k) stop
  match items, trailing with
  | [(_, true)], false => refuse
  | _, _ => return items.flatMap (·.1)

end PullReview.Python.Parse
