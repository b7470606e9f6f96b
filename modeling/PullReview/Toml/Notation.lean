import PullReview.Text.Identifier
import PullReview.Toml.Value

/-!
# Notations of values

A value is a text in one of four notations, a moment, a number, a truth value, an array of values of
one kind, or an inline table. Each reader returns what it read and what follows it.
-/

namespace PullReview.Toml

def isGap (c : Char) : Bool := c == ' ' || c == '\t'

def skipGaps (cs : List Char) : List Char := cs.dropWhile isGap

/-- Skips gaps, line ends and comments. -/
def skipLayout (inComment : Bool) : List Char → List Char
  | [] => []
  | c :: rest =>
      if c == '\n' then skipLayout false rest
      else if inComment || isGap c then skipLayout inComment rest
      else if c == '#' then skipLayout true rest
      else c :: rest

/-! ### Texts -/

private def before (c : Char) (r : Option (List Char × List Char)) :
    Option (List Char × List Char) :=
  r.map fun (cs, rest) => (c :: cs, rest)

private def charOfHex? (cs : List Char) : Option Char :=
  let digit? (c : Char) : Option Nat :=
    if c.isDigit then some (c.toNat - '0'.toNat)
    else if 'a' ≤ c && c ≤ 'f' then some (c.toNat - 'a'.toNat + 10)
    else if 'A' ≤ c && c ≤ 'F' then some (c.toNat - 'A'.toNat + 10)
    else none
  do
    let ds ← cs.mapM digit?
    let n := ds.foldl (fun n d => n * 16 + d) 0
    if n.isValidChar then some (Char.ofNat n) else none

/-- The character of a one-letter escape. -/
def escaped? (c : Char) : Option Char :=
  [('0', '\x00'), ('b', '\x08'), ('f', '\x0c'), ('n', '\n'), ('r', '\r'), ('t', '\t'), ('"', '"'),
    ('\\', '\\')].lookup c

/-- A text in double quotes, after the first. It ends on its line. -/
def basicText : List Char → Option (List Char × List Char)
  | [] => none
  | '"' :: rest => some ([], rest)
  | '\n' :: _ => none
  | '\\' :: 'u' :: a :: b :: c :: d :: rest => do
      before (← charOfHex? [a, b, c, d]) (basicText rest)
  | '\\' :: 'U' :: a :: b :: c :: d :: e :: f :: g :: h :: rest => do
      before (← charOfHex? [a, b, c, d, e, f, g, h]) (basicText rest)
  | '\\' :: c :: rest => do before (← escaped? c) (basicText rest)
  | c :: rest => before c (basicText rest)

/-- A text in three double quotes, after the first three. A backslash at the end of a line takes
away the blanks that follow. -/
def longText (trimming : Bool) : List Char → Option (List Char × List Char)
  | [] => none
  | '"' :: '"' :: '"' :: rest => some ([], rest)
  | '\\' :: '\n' :: rest => longText true rest
  | '\\' :: 'u' :: a :: b :: c :: d :: rest => do
      before (← charOfHex? [a, b, c, d]) (longText false rest)
  | '\\' :: 'U' :: a :: b :: c :: d :: e :: f :: g :: h :: rest => do
      before (← charOfHex? [a, b, c, d, e, f, g, h]) (longText false rest)
  | '\\' :: c :: rest => do before (← escaped? c) (longText false rest)
  | c :: rest =>
      if trimming && (isGap c || c == '\n') then longText true rest
      else before c (longText false rest)

/-- A text in single quotes, after the first: nothing is escaped. -/
def literalText : List Char → Option (List Char × List Char)
  | [] => none
  | '\'' :: rest => some ([], rest)
  | '\n' :: _ => none
  | c :: rest => before c (literalText rest)

/-- A text in three single quotes, after the first three. -/
def longLiteralText : List Char → Option (List Char × List Char)
  | [] => none
  | '\'' :: '\'' :: '\'' :: rest => some ([], rest)
  | c :: rest => before c (longLiteralText rest)

private def dropFirstLineEnd : List Char → List Char
  | '\n' :: rest => rest
  | cs => cs

/-- A text in one of the four notations. -/
def text? : List Char → Option (String × List Char)
  | '"' :: '"' :: '"' :: rest => asString (longText false (dropFirstLineEnd rest))
  | '\'' :: '\'' :: '\'' :: rest => asString (longLiteralText (dropFirstLineEnd rest))
  | '"' :: rest => asString (basicText rest)
  | '\'' :: rest => asString (literalText rest)
  | _ => none
where
  asString (r : Option (List Char × List Char)) : Option (String × List Char) :=
    r.map fun (cs, rest) => (String.ofList cs, rest)

/-! ### Numbers -/

private def inBase? (base : Nat) (cs : List Char) : Option Nat :=
  let digit? (c : Char) : Option Nat := do
    let c := c.toLower
    let d ← if c.isDigit then some (c.toNat - '0'.toNat)
      else if 'a' ≤ c && c ≤ 'f' then some (c.toNat - 'a'.toNat + 10)
      else none
    if d < base then some d else none
  if cs.isEmpty then none
  else do
    let ds ← cs.mapM digit?
    return ds.foldl (fun n d => n * base + d) 0

/-- A whole number without a sign. Leading zeros are only allowed to zero. -/
private def unsigned? : List Char → Option Nat
  | '0' :: 'x' :: rest | '0' :: 'X' :: rest => inBase? 16 rest
  | '0' :: 'o' :: rest | '0' :: 'O' :: rest => inBase? 8 rest
  | '0' :: 'b' :: rest | '0' :: 'B' :: rest => inBase? 2 rest
  | '0' :: rest => if rest.all (· == '0') then some 0 else none
  | cs => do
      let ds ← cs.mapM Text.digitValue?
      if ds.isEmpty then none else (Number.readWhole ds).toOption

/-- Underscores stand between two letters or digits only. -/
private def underscoresFit : List Char → Bool
  | [] => true
  | ['_'] => false
  | '_' :: c :: rest => c.isAlphanum && underscoresFit (c :: rest)
  | _ :: rest => underscoresFit rest

private def isFraction (cs : List Char) : Bool :=
  cs.contains '.' || (!cs.contains 'x' && cs.any fun c => c == 'e' || c == 'E')

private def fraction? (cs : List Char) : Option Float :=
  if cs.getLast? == some '.' || !(cs.head?.map Char.isDigit).getD false then none
  else Number.parseDouble? (String.ofList cs)

private def isNoNumber (cs : List Char) : Bool :=
  cs.map Char.toLower == ['i', 'n', 'f'] || cs.map Char.toLower == ['n', 'a', 'n']

/-- A number. A sign is taken from zero, so that no zero is negative. -/
def number? (cs : List Char) : Option Value :=
  let (negative, cs) := Number.takeSign cs
  if cs.head? == some '_' || !underscoresFit cs then none
  else
    let cs := cs.filter (· != '_')
    if isFraction cs then
      (fraction? cs).map fun x => .float (if negative then 0.0 - x else x)
    else if isNoNumber cs then
      (Number.parseDouble? (String.ofList cs)).map fun x =>
        .float (if negative then 0.0 - x else x)
    else
      (unsigned? cs).map fun n => .int (if negative then -(n : Int) else n)

/-- A truth value, a moment or a number. What starts like a time of day has to be one. -/
def scalar? (cs : List Char) : Option Value :=
  if cs == "true".toList then some (.bool true)
  else if cs == "false".toList then some (.bool false)
  else
    match clockParts? cs with
    | some (hour, minute, second, micros) =>
        (Clock.of? hour minute second micros).map fun clock => .moment (.time clock)
    | none => ((date? cs).map .moment).or (number? cs)

/-! ### Keys -/

def isKeyChar (c : Char) : Bool := c == '-' || Text.isIdentifierContinue c

/-- The names in headers are plainer than the keys of values. -/
def isHeaderChar (c : Char) : Bool := c == '-' || c == '_' || c.isAlphanum

/-- A key, quoted or of the given characters. -/
def key? (isPlain : Char → Bool) : List Char → Option (String × List Char)
  | '"' :: rest => (basicText rest).map fun (cs, rest) => (String.ofList cs, rest)
  | '\'' :: rest => (literalText rest).map fun (cs, rest) => (String.ofList cs, rest)
  | cs =>
      let key := cs.takeWhile isPlain
      if key.isEmpty then none else some (String.ofList key, cs.dropWhile isPlain)

/-- Keys with points between them. -/
def keys? (isPlain : Char → Bool) : Nat → List Char → Option (List String × List Char)
  | 0, _ => none
  | fuel + 1, cs => do
      let (key, rest) ← key? isPlain (skipGaps cs)
      match skipGaps rest with
      | '.' :: rest => do
          let (keys, rest) ← keys? isPlain fuel rest
          return (key :: keys, rest)
      | rest => return ([key], rest)

/-! ### Values -/

/-- Values of one kind may stand in one array. -/
def sameKind : Value → Value → Bool
  | .bool _, .bool _ | .int _, .int _ | .float _, .float _ | .str _, .str _ | .arr _, .arr _
  | .obj _, .obj _ => true
  | .moment a, .moment b => a.sameKind b
  | _, _ => false

mutual

/-- A value. A plain one ends where one of `stops` stands. -/
def value? (stops : List Char) : Nat → List Char → Option (Value × List Char)
  | 0, _ => none
  | fuel + 1, cs =>
      match cs with
      | '[' :: rest => array? fuel [] rest
      | '{' :: rest => inlineTable? fuel [] rest
      | '"' :: _ | '\'' :: _ => (text? cs).map fun (s, rest) => (.str s, rest)
      | cs => do
          let plain := cs.takeWhile fun c => !stops.contains c
          let v ← scalar? (plain.reverse.dropWhile isGap).reverse
          return (v, cs.dropWhile fun c => !stops.contains c)

/-- The rest of an array. Places without a value are passed over. -/
def array? : Nat → List Value → List Char → Option (Value × List Char)
  | 0, _, _ => none
  | fuel + 1, items, cs =>
      match skipLayout false cs with
      | ']' :: rest => some (.arr items, rest)
      | ',' :: rest => array? fuel items rest
      | cs => do
          let (v, rest) ← value? [',', ']', '\n', '#'] fuel cs
          if items.all (sameKind v) then
            match skipLayout false rest with
            | ',' :: rest => array? fuel (items ++ [v]) rest
            | ']' :: rest => some (.arr (items ++ [v]), rest)
            | _ => none
          else none

/-- The rest of an inline table. -/
def inlineTable? : Nat → List (String × Value) → List Char → Option (Value × List Char)
  | 0, _, _ => none
  | fuel + 1, members, cs =>
      match skipGaps cs with
      | '}' :: rest => if members.isEmpty then some (.obj members, rest) else none
      | cs => do
          let (key, rest) ← key? isKeyChar cs
          match skipGaps rest with
          | '=' :: rest => do
              let (v, rest) ← value? [',', '}', '\n', '#'] fuel (skipGaps rest)
              if members.any (·.1 == key) then none
              else
                match skipGaps rest with
                | ',' :: rest => inlineTable? fuel (members ++ [(key, v)]) rest
                | '}' :: rest => some (.obj (members ++ [(key, v)]), rest)
                | _ => none
          | _ => none

end

end PullReview.Toml
