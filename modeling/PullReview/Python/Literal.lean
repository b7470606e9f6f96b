import PullReview.Number.Binary64
import PullReview.Python.Token.Quote
import PullReview.Text.CharName

/-!
# Values of literals

Numbers and the escapes of string literals. A formatted literal is cut into texts and fields; the
expression of a field is kept as the characters it is written with.
-/

namespace PullReview.Python

/-! ### Numbers -/

inductive NumberValue where
  | int (value : Nat)
  | float (value : Float)
  | imaginary (value : Float)

private def digitOf (c : Char) : Nat :=
  if c.isDigit then c.toNat - 48
  else if 'a' ≤ c && c ≤ 'f' then c.toNat - 87
  else c.toNat - 55

private def inBase (base : Nat) (digits : List Char) : Nat :=
  digits.foldl (fun n c => n * base + digitOf c) 0

/-- The double written as digits, an optional fraction and an optional exponent. -/
private def floatOf (text : List Char) : Float :=
  let whole := text.takeWhile Char.isDigit
  let afterWhole := text.drop whole.length
  let fraction :=
    if afterWhole.head? == some '.' then (afterWhole.drop 1).takeWhile Char.isDigit else []
  let afterFraction :=
    if afterWhole.head? == some '.' then afterWhole.drop (fraction.length + 1) else afterWhole
  let exponent : Int :=
    match afterFraction with
    | _ :: '-' :: digits => -(inBase 10 (digits.takeWhile Char.isDigit) : Int)
    | _ :: '+' :: digits => inBase 10 (digits.takeWhile Char.isDigit)
    | _ :: digits => inBase 10 (digits.takeWhile Char.isDigit)
    | [] => 0
  Number.ofDecimal false (inBase 10 (whole ++ fraction)) (exponent - fraction.length)

/-- The most digits a decimal integer may have. -/
def integerDigitLimit : Nat := 4300

/-- The value of a number. A decimal integer may not be longer than the limit. -/
def numberValue (text : String) : Option NumberValue :=
  let chars := text.toList.filter (· != '_')
  match chars with
  | '0' :: x :: digits =>
      if x == 'x' || x == 'X' then some (.int (inBase 16 digits))
      else if x == 'o' || x == 'O' then some (.int (inBase 8 digits))
      else if x == 'b' || x == 'B' then some (.int (inBase 2 digits))
      else decimal chars
  | _ => decimal chars
where
  decimal (chars : List Char) : Option NumberValue :=
    let last := chars.getLast?
    if last == some 'j' || last == some 'J' then some (.imaginary (floatOf chars.dropLast))
    else if chars.any fun c => c == '.' || c == 'e' || c == 'E' then some (.float (floatOf chars))
    else if chars.length > integerDigitLimit then none
    else some (.int (inBase 10 (chars.filter Char.isDigit)))

/-! ### Escapes -/

private def isHex (c : Char) : Bool :=
  c.isDigit || ('a' ≤ c && c ≤ 'f') || ('A' ≤ c && c ≤ 'F')

/-- The number in the first `count` characters, all of them hexadecimal digits. -/
private def hexField (count : Nat) (text : List Char) : Option Nat :=
  let digits := text.take count
  if digits.length == count && digits.all isHex then some (inBase 16 digits) else none

private def octalField (text : List Char) : List Char :=
  (text.take 3).takeWhile fun c => '0' ≤ c && c ≤ '7'

private def simpleEscape (c : Char) : Option Nat :=
  match c with
  | '\\' => some 92
  | '\'' => some 39
  | '"' => some 34
  | 'a' => some 7
  | 'b' => some 8
  | 'f' => some 12
  | 'n' => some 10
  | 'r' => some 13
  | 't' => some 9
  | 'v' => some 11
  | _ => none

/-- What a backslash and the characters behind it stand for, and how many of those it takes. An
unknown escape stands for itself. -/
private def escape (bytes : Bool) (rest : List Char) : Option (List Nat × Nat) :=
  match rest with
  | [] => some ([92], 0)
  | c :: tail =>
      if c == '\n' then some ([], 1)
      else if let some code := simpleEscape c then some ([code], 1)
      else if '0' ≤ c && c ≤ '7' then
        let digits := octalField rest
        let value := inBase 8 digits
        some ([if bytes then value % 256 else value], digits.length)
      else if c == 'x' then (hexField 2 tail).map fun n => ([n], 3)
      else if bytes then some ([92, c.toNat], 1)
      else if c == 'u' then (hexField 4 tail).map fun n => ([n], 5)
      else if c == 'U' then
        match hexField 8 tail with
        | some n => if n ≤ 0x10FFFF then some ([n], 9) else none
        | none => none
      else if c == 'N' then
        match tail with
        | '{' :: tail =>
            let name := tail.takeWhile (· != '}')
            if name.length == tail.length then none
            else (Text.charNamed? (String.ofList name)).map fun n => ([n], name.length + 3)
        | _ => none
      else some ([92, c.toNat], 1)

/-- The code points of a text with escapes; `skip` counts characters an escape has taken. -/
private def decodeFrom (bytes : Bool) (skip : Nat) : List Char → Option (List Nat)
  | [] => some []
  | c :: rest =>
      match skip with
      | skip + 1 => decodeFrom bytes skip rest
      | 0 =>
        if c == '\\' then do
          let (codes, taken) ← escape bytes rest
          return codes ++ (← decodeFrom bytes taken rest)
        else if bytes && c.toNat ≥ 128 then none
        else return c.toNat :: (← decodeFrom bytes 0 rest)

/-- The code points a literal's text stands for. Only the strict dialect has wrong escapes. -/
def decodeText (d : Dialect) (raw : Bool) (body : List Char) : Option (List Nat) :=
  match d with
  | .tolerant => some (body.map Char.toNat)
  | .strict => if raw then some (body.map Char.toNat) else decodeFrom false 0 body

/-- The bytes of a byte literal, which may hold ASCII characters only. -/
def decodeBytes (d : Dialect) (raw : Bool) (body : List Char) : Option (List Nat) :=
  match d with
  | .tolerant => some (body.map Char.toNat)
  | .strict =>
      if body.any (·.toNat ≥ 128) then none
      else if raw then some (body.map Char.toNat)
      else decodeFrom true 0 body

/-! ### Formatted literals -/

/-- A piece of a formatted literal before its expressions are read. -/
inductive RawPiece where
  | text (codes : List Nat)
  | field (expr : List Char) (start : Mark) (shown : List Nat) (conversion : Option Char)
      (format : Option (List RawPiece))

private def markAfter (m : Mark) (passed : List Char) : Mark :=
  ⟨m.offset + passed.length, m.line + passed.count '\n'⟩

/-- How a run of text in a formatted literal ends. -/
private inductive RunEnd where
  | finish
  | doubled
  | brace

/-- The length of the text before the next brace. Braces are doubled at the top level only, and
those of a character name belong to its escape. -/
private def textRun (raw top : Bool) (length skip : Nat) : List Char → Option (Nat × RunEnd)
  | [] => some (length, .finish)
  | c :: rest =>
      match skip with
      | skip + 1 => textRun raw top (length + 1) skip rest
      | 0 =>
        if c == '\\' && !raw then
          match rest with
          | 'N' :: '{' :: tail =>
              textRun raw top (length + 1) ((tail.takeWhile (· != '}')).length + 3) rest
          | e :: _ =>
              if e == '{' || e == '}' then textRun raw top (length + 1) 0 rest
              else textRun raw top (length + 1) 1 rest
          | [] => some (length + 1, .finish)
        else if c == '{' || c == '}' then
          if top && rest.head? == some c then some (length + 1, .doubled)
          else if top && c == '}' then none
          else some (length, .brace)
        else textRun raw top (length + 1) 0 rest

/-- The length of the expression at the start of a field: up to a brace, a colon, a conversion
mark or an equals sign outside all brackets and literals, comparison signs apart. -/
private def fieldLength (d : Dialect) (length skip : Nat) (word open_ : List Char) :
    List Char → Option Nat
  | [] => none
  | c :: rest =>
      match skip with
      | skip + 1 => fieldLength d (length + 1) skip [] open_ rest
      | 0 =>
        if d == .strict && (c == '\\' || c == '#') then none
        else if c == '\'' || c == '"' then do
          let triple := rest.take 2 == [c, c]
          let marks := if triple then 2 else 0
          let inner := rest.drop marks
          let taken ←
            match d with
            | .strict => closeQuote c triple 0 inner
            | .tolerant =>
                let letters := if word.all isLiteralLetter then word else []
                let isRaw := letters.any fun x => x == 'r' || x == 'R'
                let isFormatted := letters.any fun x => "fFtT".toList.contains x
                closeNested 0 [] 0 [.literal c triple isRaw isFormatted] inner
          fieldLength d (length + 1) (marks + taken + marks + 1) [] open_ rest
        else if c == '(' || c == '[' || c == '{' then
          fieldLength d (length + 1) 0 [] (c :: open_) rest
        else if open_.isEmpty && "!:=<>".toList.contains c && rest.head? == some '=' &&
            c != ':' then
          fieldLength d (length + 1) 1 [] open_ rest
        else if open_.isEmpty && (c == '!' || c == ':' || c == '=' || c == '}') then some length
        else if c == ')' || c == ']' || c == '}' then
          match open_ with
          | o :: outer =>
              if (o == '(' && c == ')') || (o == '[' && c == ']') || (o == '{' && c == '}') then
                fieldLength d (length + 1) 0 [] outer rest
              else none
          | [] => none
        else
          let word := if c.isAlphanum || c == '_' then c :: word else []
          fieldLength d (length + 1) 0 word open_ rest

private def isSpaceCode (c : Char) : Bool :=
  c == ' ' || (9 ≤ c.toNat && c.toNat ≤ 13)

/-- The conversion behind an expression, and what follows it. -/
private def conversionOf (d : Dialect) (text : List Char) : Option (Option Char × List Char) :=
  match text with
  | '!' :: c :: rest =>
      if c == 's' || c == 'r' || c == 'a' || d == .tolerant then some (some c, rest) else none
  | '!' :: [] => none
  | _ => some (none, text)

/-- Blanks that may stand around an expression in a field. -/
private def isFieldBlank (c : Char) : Bool :=
  c == ' ' || c == '\t' || c == '\n' || c == '\x0c'

/-- Whether the characters of a field can be an expression at all. -/
private def fieldAllowed (d : Dialect) (level : Nat) (expr : List Char) : Bool :=
  d == .tolerant || (level < 2 && !expr.all isFieldBlank && !expr.contains '\\')

/-- The pieces of a formatted literal. `level` counts the formats around; a format ends before
the brace that closes its field. Answers the pieces and the characters left. -/
def rawPieces (d : Dialect) (raw : Bool) :
    Nat → (level : Nat) → Mark → List Char → Option (List RawPiece × List Char)
  | 0, _, _, _ => none
  | fuel + 1, level, mark, text => do
      let (length, ending) ← textRun raw (level == 0) 0 0 text
      let run := text.take length
      let head ← if run.isEmpty then pure [] else (decodeText d raw run).map ([RawPiece.text ·])
      let text := text.drop length
      let mark := markAfter mark run
      match ending, text with
      | .doubled, brace :: text =>
          let (more, left) ← rawPieces d raw fuel level (markAfter mark [brace]) text
          return (head ++ more, left)
      | .brace, '{' :: inner =>
          let start := markAfter mark ['{']
          let n ← fieldLength d 0 0 [] [] inner
          let expr := inner.take n
          if !fieldAllowed d level expr then none
          let shown :=
            match inner.drop n with
            | '=' :: tail => expr ++ '=' :: tail.takeWhile isSpaceCode
            | _ => []
          let (conversion, afterConversion) ← conversionOf d (inner.drop (max n shown.length))
          let (format, left) ←
            match afterConversion with
            | ':' :: tail =>
                let place := markAfter start (inner.take (inner.length - tail.length))
                let (format, left) ← rawPieces d raw fuel (level + 1) place tail
                pure (some format, left)
            | left => pure (none, left)
          match left with
          | '}' :: left =>
              let conversion :=
                if conversion.isNone && format.isNone && !shown.isEmpty then some 'r'
                else conversion
              let passed := '{' :: inner.take (inner.length - left.length)
              let (more, left) ← rawPieces d raw fuel level (markAfter mark passed) left
              let field := RawPiece.field expr start (shown.map Char.toNat) conversion format
              return (head ++ field :: more, left)
          | _ => none
      | _, left => return (head, left)

end PullReview.Python
