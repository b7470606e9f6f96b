import PullReview.Text.Identifier

/-!
# Numbers in Python source

`scanNumber` gives the length of the number at the head of a text. Digits may be grouped by single
underscores, a leading zero is refused unless all digits are zeros or a fraction follows, and the
number must not run into a name, a few keywords apart.
-/

namespace PullReview.Python

/-- The length of a run of digits grouped by single underscores; `none` where an underscore has
no digit behind it. -/
def digitGroups (p : Char → Bool) : List Char → Option Nat
  | [] => some 0
  | c :: rest =>
      if p c then (digitGroups p rest).map (· + 1)
      else if c == '_' then
        match rest with
        | d :: _ => if p d then (digitGroups p rest).map (· + 1) else none
        | [] => none
      else some 0

private def isHexDigit (c : Char) : Bool :=
  c.isDigit || ('a' ≤ c && c ≤ 'f') || ('A' ≤ c && c ≤ 'F')

private def isOctalDigit (c : Char) : Bool := '0' ≤ c && c ≤ '7'

private def isBinaryDigit (c : Char) : Bool := c == '0' || c == '1'

private def isWordChar (c : Char) : Bool := c.isAlphanum || c == '_' || c.toNat ≥ 128

/-- Whether a number may end before `rest`: no name may follow it directly, except the keywords
that can stand behind an operand. -/
def numberMayEnd (rest : List Char) : Bool :=
  let keywordFollows :=
    ["and", "else", "for", "if", "in", "is", "or", "not"].any fun w => w.toList.isPrefixOf rest
  match rest with
  | [] => true
  | c :: _ => keywordFollows || !isWordChar c

/-- A number in a base other than ten, after its two-character mark. -/
private def scanBased (p : Char → Bool) (rest : List Char) : Option Nat := do
  let n ← digitGroups p rest
  let after := rest.drop n
  if n == 0 || (after.headD ' ').isDigit || !numberMayEnd after then none else some (n + 2)

/-- The exponent at the head of `rest`, if there is one. -/
private def scanExponent (rest : List Char) : Option Nat :=
  match rest with
  | e :: tail =>
      if e == 'e' || e == 'E' then
        match tail with
        | s :: d :: _ =>
            if s == '+' || s == '-' then
              if d.isDigit then (digitGroups Char.isDigit (tail.drop 1)).map (· + 2) else none
            else if s.isDigit then (digitGroups Char.isDigit tail).map (· + 1)
            else if numberMayEnd rest then some 0 else none
        | [s] =>
            if s.isDigit then some 2 else if numberMayEnd rest then some 0 else none
        | [] => if numberMayEnd rest then some 0 else none
      else some 0
  | [] => some 0

/-- Everything after the whole part: fraction, exponent and the mark of an imaginary number. The
flag tells whether one of them is there. -/
private def scanTail (rest : List Char) : Option (Nat × Bool) := do
  let fraction ←
    match rest with
    | '.' :: tail =>
        if (tail.headD ' ').isDigit then (digitGroups Char.isDigit tail).map (· + 1) else some 1
    | _ => some 0
  let afterFraction := rest.drop fraction
  let exponent ← scanExponent afterFraction
  let afterExponent := afterFraction.drop exponent
  let imaginary :=
    match afterExponent with
    | c :: _ => if c == 'j' || c == 'J' then 1 else 0
    | [] => 0
  let total := fraction + exponent + imaginary
  if numberMayEnd (afterExponent.drop imaginary) then some (total, total != 0) else none

/-- The length of the number that `text` starts with; `text` starts with a digit, or with a point
and a digit. -/
def scanNumber (text : List Char) : Option Nat :=
  match text with
  | '0' :: x :: rest =>
      if x == 'x' || x == 'X' then scanBased isHexDigit rest
      else if x == 'o' || x == 'O' then scanBased isOctalDigit rest
      else if x == 'b' || x == 'B' then scanBased isBinaryDigit rest
      else scanDecimal text
  | _ => scanDecimal text
where
  scanDecimal (text : List Char) : Option Nat := do
    let whole ← digitGroups Char.isDigit text
    let (tail, hasTail) ← scanTail (text.drop whole)
    let digits := text.take whole
    let oldOctal := digits.head? == some '0' && digits.any fun c => c != '0' && c != '_'
    if oldOctal && !hasTail then none else some (whole + tail)

/-- The length of a number under looser rules: any grouping, old octals, a mark of length. -/
def scanNumberLoosely (text : List Char) : Nat :=
  match text with
  | '0' :: x :: rest =>
      if "xXoObB".toList.contains x then
        2 + (rest.takeWhile fun c => isHexDigit c || c == '_' || c == 'l' || c == 'L').length
      else decimal text
  | _ => decimal text
where
  digitLike (c : Char) : Bool := c.isDigit || c == '_'
  decimal (text : List Char) : Nat :=
    let whole := (text.takeWhile digitLike).length
    let fraction :=
      match text.drop whole with
      | '.' :: tail => 1 + (tail.takeWhile digitLike).length
      | _ => 0
    let afterFraction := text.drop (whole + fraction)
    let exponent :=
      match afterFraction with
      | e :: s :: tail =>
          if e == 'e' || e == 'E' then
            if s.isDigit then 1 + ((s :: tail).takeWhile digitLike).length
            else if (s == '+' || s == '-') && (tail.headD ' ').isDigit then
              2 + (tail.takeWhile digitLike).length
            else 0
          else 0
      | _ => 0
    let mark :=
      match afterFraction.drop exponent with
      | c :: _ => if "jJlL".toList.contains c then 1 else 0
      | [] => 0
    whole + fraction + exponent + mark

end PullReview.Python
