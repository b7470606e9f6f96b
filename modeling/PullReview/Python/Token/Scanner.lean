import PullReview.Python.Token.Number
import PullReview.Python.Token.Quote
import PullReview.Text.Blank
import PullReview.Text.Compatibility

/-!
# From source text to tokens

`scan` cuts a source into tokens and works out its layout: line ends outside brackets, and the
steps of indentation. The strict dialect measures an indentation twice, with tabs of eight and of
one column, and refuses a text where the two disagree; it also bounds the nesting of brackets and
blocks. In the tolerant dialect a block starts only behind a colon and a tab counts as eight.
-/

namespace PullReview.Python

/-- A place to read from. -/
structure Cursor where
  rest : List Char
  mark : Mark

def Cursor.next (c : Cursor) : Cursor :=
  match c.rest with
  | [] => c
  | ch :: rest => ⟨rest, ⟨c.mark.offset + 1, if ch == '\n' then c.mark.line + 1 else c.mark.line⟩⟩

def Cursor.skip (c : Cursor) : Nat → Cursor
  | 0 => c
  | n + 1 => c.next.skip n

/-- The state of a scan. `brackets` and `indents` are innermost first; `tokens` is newest first.
`blankLine` holds while only blanks or a comment have been seen on the line, and `lineIndent` is
the width of its leading blanks. -/
structure Scan where
  cursor : Cursor
  atLineStart : Bool
  blankLine : Bool
  lineIndent : Nat
  brackets : List Char
  indents : List (Nat × Nat)
  tokens : List Token

def Scan.push (s : Scan) (kind : TokenKind) (start stop : Mark) : Scan :=
  { s with tokens := ⟨kind, start, stop, []⟩ :: s.tokens }

/-- A layout token has no extent. -/
def Scan.pushLayout (s : Scan) (kind : TokenKind) : Scan :=
  s.push kind s.cursor.mark s.cursor.mark

/-- Hangs a comment on the last solid token. -/
def attachComment (comment : Comment) : List Token → List Token
  | [] => []
  | t :: rest =>
      if t.kind.isSolid then { t with comments := t.comments ++ [comment] } :: rest
      else t :: attachComment comment rest

def lastSolid? (tokens : List Token) : Option Token := tokens.find? (·.kind.isSolid)

/-! ### Indentation -/

/-- Blanks at the start of a line. `column` counts a tab to the next multiple of eight, `alternate`
counts it as one; `continued` is the column of the first backslash that joins lines here. -/
structure Indentation where
  column : Nat
  alternate : Nat
  continued : Nat
  cursor : Cursor

def strictIndentation : Nat → Indentation → Option Indentation
  | 0, i => some i
  | fuel + 1, i =>
      match i.cursor.rest with
      | ' ' :: _ =>
          strictIndentation fuel ⟨i.column + 1, i.alternate + 1, i.continued, i.cursor.next⟩
      | '\t' :: _ =>
          strictIndentation fuel
            ⟨(i.column / 8 + 1) * 8, i.alternate + 1, i.continued, i.cursor.next⟩
      | '\x0c' :: _ => strictIndentation fuel ⟨0, 0, i.continued, i.cursor.next⟩
      | '\\' :: '\n' :: _ :: _ =>
          let continued := if i.continued == 0 then i.column else i.continued
          strictIndentation fuel ⟨i.column, i.alternate, continued, i.cursor.skip 2⟩
      | '\\' :: _ => none
      | _ => some i

/-- The width of the blanks before `rest`, a tab counting eight; a form feed or a carriage return
starts again from nothing. -/
def tolerantIndentation (width : Nat) : List Char → Nat
  | ' ' :: rest => tolerantIndentation (width + 1) rest
  | '\t' :: rest => tolerantIndentation (width + 8) rest
  | '\x0c' :: rest => tolerantIndentation 0 rest
  | '\r' :: rest => tolerantIndentation 0 rest
  | _ => width

def isTolerantBlank (c : Char) : Bool :=
  c != '\n' && (Text.isBlank c || c == '\uFEFF' || c == '\u2060' || c == '\u200B')

def innermost (indents : List (Nat × Nat)) : Nat × Nat := indents.headD (0, 0)

/-- Closes every block deeper than `width`. -/
def closeBlocks (width : Nat) : List (Nat × Nat) → Scan → Scan
  | [], s => { s with indents := [] }
  | top :: outer, s =>
      if width < top.1 then closeBlocks width outer (s.pushLayout .dedent)
      else { s with indents := top :: outer }

/-- The most blocks that may be open. -/
def blockLimit : Nat := 100

def strictLayout (s : Scan) : Option Scan := do
  let i ← strictIndentation (s.cursor.rest.length + 1) ⟨0, 0, 0, s.cursor⟩
  let s := { s with cursor := i.cursor, atLineStart := false, lineIndent := i.column }
  match i.cursor.rest with
  | '#' :: _ | '\n' :: _ => return { s with blankLine := true }
  | _ =>
    if !s.brackets.isEmpty then return s
    let (column, alternate) :=
      if i.continued == 0 then (i.column, i.alternate) else (i.continued, i.continued)
    let (top, topAlternate) := innermost s.indents
    if column == top then
      if alternate == topAlternate then return s else none
    else if top < column then
      if s.indents.length + 2 > blockLimit || alternate ≤ topAlternate then none
      else
        return { s with indents := (column, alternate) :: s.indents }.pushLayout (.indent column)
    else
      let s := closeBlocks column s.indents s
      if innermost s.indents == (column, alternate) then return s else none

def tolerantLayout (s : Scan) : Scan :=
  let width := tolerantIndentation 0 s.cursor.rest
  let blanks := (s.cursor.rest.takeWhile isTolerantBlank).length
  let s := { s with cursor := s.cursor.skip blanks, atLineStart := false, lineIndent := width }
  match s.cursor.rest with
  | '#' :: _ | '\n' :: _ | [] => { s with blankLine := true }
  | _ =>
    if !s.brackets.isEmpty then s
    else
      let opensBlock :=
        match lastSolid? s.tokens with
        | some t => match t.kind with | .op ":" => true | _ => false
        | none => false
      if opensBlock && (innermost s.indents).1 < width then
        { s with indents := (width, width) :: s.indents }.pushLayout (.indent width)
      else closeBlocks width s.indents s

/-! ### Tokens -/

def operators : List String :=
  ["**=", "//=", ">>=", "<<=", "...", "!=", "%=", "&=", "**", "*=", "+=", "-=", "->", "//",
    "/=", ":=", "<<", "<=", "<>", "==", ">=", ">>", "@=", "^=", "|=", "%", "&", "(", ")", "*",
    "+", ",", "-", ".", "/", ":", ";", "<", "=", ">", "@", "[", "]", "^", "\x7b", "|", "\x7d",
    "~"]

/-- The most brackets that may be open. -/
def bracketLimit : Nat := 200

def closes (opening closing : Char) : Bool :=
  (opening == '(' && closing == ')') || (opening == '[' && closing == ']') ||
    (opening == '{' && closing == '}')

/-- The open brackets after an operator. -/
def bracketsAfter (d : Dialect) (brackets : List Char) (c : Char) : Option (List Char) :=
  if c == '(' || c == '[' || c == '{' then
    if d == .strict && brackets.length ≥ bracketLimit then none else some (c :: brackets)
  else if c == ')' || c == ']' || c == '}' then
    match brackets with
    | [] => if d == .strict then none else some []
    | top :: outer => if closes top c || d == .tolerant then some outer else none
  else some brackets

def scanOperator (d : Dialect) (s : Scan) : Option Scan := do
  let text ← operators.find? fun o => o.toList.isPrefixOf s.cursor.rest
  let brackets ← bracketsAfter d s.brackets (text.toList.headD ' ')
  let cursor := s.cursor.skip text.length
  return { s with cursor, brackets }.push (.op text) s.cursor.mark cursor.mark

/-- The literal letters that each dialect reads before a quote. -/
def isLiteralPrefix (d : Dialect) (word : List Char) : Bool :=
  match d with
  | .strict =>
      ["", "b", "u", "r", "f", "br", "rb", "fr", "rf"].contains
        (String.ofList (word.map Char.toLower))
  | .tolerant => word.all isLiteralLetter

def scanQuoted (d : Dialect) (letters : List Char) (s : Scan) : Option Scan := do
  let afterLetters := s.cursor.skip letters.length
  let quote ← afterLetters.rest.head?
  let triple := afterLetters.rest.take 3 == [quote, quote, quote]
  let marks := if triple then 3 else 1
  let inside := afterLetters.skip marks
  let raw := letters.any fun c => c == 'r' || c == 'R'
  let formatted := letters.any fun c => "fFtT".toList.contains c
  let length ←
    if d == .tolerant && formatted then
      closeNested 0 [] 0 [.literal quote triple raw true] inside.rest
    else closeQuote quote triple 0 inside.rest
  let cursor := inside.skip (length + marks)
  let text : Quoted :=
    { raw, formatted
      bytes := letters.any fun c => c == 'b' || c == 'B'
      unicodeMark := letters == ['u']
      body := inside.rest.take length
      bodyStart := inside.mark }
  return { s with cursor }.push (.quoted text) s.cursor.mark cursor.mark

def isNameStart (d : Dialect) (c : Char) : Bool :=
  match d with
  | .strict => c.isAlpha || c == '_' || c.toNat ≥ 128
  | .tolerant => Text.isIdentifierStart c

def isNameChar (d : Dialect) (c : Char) : Bool :=
  match d with
  | .strict => c.isAlphanum || c == '_' || c.toNat ≥ 128
  | .tolerant => Text.isIdentifierContinue c

def isIdentifier : List Char → Bool
  | [] => false
  | c :: rest => Text.isIdentifierStart c && rest.all Text.isIdentifierContinue

/-- The strict dialect reads a name in its compatibility form. -/
def spelling (d : Dialect) (name : String) : String :=
  match d with
  | .strict => Text.Compatibility.form name
  | .tolerant => name

def isQuote (d : Dialect) (c : Char) : Bool :=
  c == '\'' || c == '"' || (c.toNat == 0x60 && d == .tolerant)

def scanWord (d : Dialect) (s : Scan) : Option Scan := do
  let word := s.cursor.rest.takeWhile (isNameChar d)
  let cursor := s.cursor.skip word.length
  match cursor.rest with
  | q :: _ =>
    if (q == '\'' || q == '"') && isLiteralPrefix d word then
      return ← scanQuoted d word s
  | [] => pure ()
  if isIdentifier word then
    let kind := .name (spelling d (String.ofList word))
    return { s with cursor }.push kind s.cursor.mark cursor.mark
  else none

def scanNumeral (d : Dialect) (s : Scan) : Option Scan := do
  let length ←
    match d with
    | .strict => scanNumber s.cursor.rest
    | .tolerant => some (scanNumberLoosely s.cursor.rest)
  let cursor := s.cursor.skip length
  let text := String.ofList (s.cursor.rest.take length)
  return { s with cursor }.push (.number text) s.cursor.mark cursor.mark

def scanComment (s : Scan) : Scan :=
  let length := (s.cursor.rest.takeWhile (· != '\n')).length
  let cursor := s.cursor.skip length
  let indent := if s.blankLine then some s.lineIndent else none
  let comment : Comment := ⟨s.cursor.mark.line, cursor.mark.offset, indent⟩
  { s with cursor, tokens := attachComment comment s.tokens }

/-- The end of a line: nothing inside brackets or on a blank line. -/
def scanLineEnd (s : Scan) : Scan :=
  let s := if s.blankLine || !s.brackets.isEmpty then s else s.pushLayout .newline
  { s with cursor := s.cursor.next, atLineStart := true, blankLine := false }

/-- A backslash joins two lines; in the strict dialect something must follow. -/
def scanJoint (d : Dialect) (s : Scan) : Option Scan :=
  match d, s.cursor.rest with
  | .strict, '\\' :: '\n' :: _ :: _ => some { s with cursor := s.cursor.skip 2 }
  | .tolerant, '\\' :: '\r' :: '\n' :: _ => some { s with cursor := s.cursor.skip 3 }
  | .tolerant, '\\' :: '\n' :: _ => some { s with cursor := s.cursor.skip 2 }
  | _, _ => none

def isBlankBetween (d : Dialect) (c : Char) : Bool :=
  match d with
  | .strict => c == ' ' || c == '\t' || c == '\x0c'
  | .tolerant => isTolerantBlank c

/-- The end of the source: the last line is ended and all blocks are closed. -/
def scanFinish (d : Dialect) (s : Scan) : Option Scan :=
  if d == .strict && !s.brackets.isEmpty then none
  else
    let needsLineEnd :=
      match s.tokens with
      | t :: _ => t.kind.isSolid
      | [] => false
    let s := if needsLineEnd then s.pushLayout .newline else s
    let s := s.indents.foldl (fun s _ => s.pushLayout .dedent) s
    some ({ s with indents := [] }.pushLayout .finish)

def scanToken (d : Dialect) (s : Scan) : Option Scan :=
  match s.cursor.rest with
  | [] => scanFinish d s
  | c :: rest =>
      if isBlankBetween d c then some { s with cursor := s.cursor.next }
      else if c == '#' then some (scanComment s)
      else if c == '\n' then some (scanLineEnd s)
      else if c == '\\' then scanJoint d s
      else if isNameStart d c then scanWord d s
      else if c.isDigit || (c == '.' && (rest.headD ' ').isDigit) then scanNumeral d s
      else if isQuote d c then scanQuoted d [] s
      else scanOperator d s

def isFinished (s : Scan) : Bool :=
  match s.tokens with
  | t :: _ => match t.kind with | .finish => true | _ => false
  | [] => false

def scanFrom (d : Dialect) : Nat → Scan → Option Scan
  | 0, _ => none
  | fuel + 1, s =>
      if isFinished s then some s
      else
        let step :=
          if s.atLineStart then
            match d with
            | .strict => strictLayout s
            | .tolerant => some (tolerantLayout s)
          else scanToken d s
        match step with
        | none => none
        | some s => scanFrom d fuel s

/-- Reads every line end as a line feed. -/
def unifyLineEnds : List Char → List Char
  | [] => []
  | '\r' :: '\n' :: rest => '\n' :: unifyLineEnds rest
  | '\r' :: rest => '\n' :: unifyLineEnds rest
  | c :: rest => c :: unifyLineEnds rest

/-- The characters that the marks of a source's tokens count. -/
def sourceChars (d : Dialect) (source : String) : List Char :=
  match d with
  | .tolerant => source.toList
  | .strict =>
      let chars := unifyLineEnds source.toList
      if chars.getLast? == some '\n' || chars.isEmpty then chars else chars ++ ['\n']

/-- The tokens of a source, or `none` where the dialect has no tokens for it. -/
def scan (d : Dialect) (chars : List Char) : Option (List Token) :=
  let start : Scan := ⟨⟨chars, ⟨0, 1⟩⟩, true, false, 0, [], [], []⟩
  (scanFrom d (2 * chars.length + 4) start).map (·.tokens.reverse)

/-- The tokens of an expression that stands at `mark`, read as inside a round bracket; the last
of them is the bracket that closes it. -/
def scanInside (d : Dialect) (mark : Mark) (chars : List Char) : Option (List Token) := do
  let start : Scan := ⟨⟨chars ++ [')'], mark⟩, false, false, 0, ['('], [], []⟩
  let done ← scanFrom d (2 * chars.length + 6) start
  return done.tokens.reverse.filter (·.kind.isSolid)

end PullReview.Python
