import PullReview.Text.Printable

/-!
# Quoted text

A text between quotes with the characters escaped that would not print. Single quotes are used
unless the text has them and no double ones. Texts are lists of code points, which may be
surrogates; those are always escaped.
-/

namespace PullReview.Text

def hexDigit (n : Nat) : Char :=
  if n < 10 then Char.ofNat (48 + n) else Char.ofNat (87 + n)

/-- The last `width` hexadecimal digits of a number. -/
def hexPadded : Nat → Nat → List Char
  | 0, _ => []
  | width + 1, n => hexPadded width (n / 16) ++ [hexDigit (n % 16)]

/-- A code point that does not print, as an escape. -/
def escapeCode (n : Nat) : List Char :=
  if n == 9 then ['\\', 't']
  else if n == 10 then ['\\', 'n']
  else if n == 13 then ['\\', 'r']
  else if n == 92 then ['\\', '\\']
  else if n < 0x100 then '\\' :: 'x' :: hexPadded 2 n
  else if n < 0x10000 then '\\' :: 'u' :: hexPadded 4 n
  else '\\' :: 'U' :: hexPadded 8 n

def quotedCode (quote : Char) (n : Nat) : List Char :=
  if n == quote.toNat then ['\\', quote]
  else if n == 92 || !isPrintableCode n then escapeCode n
  else [Char.ofNat n]

/-- The quote a text is written with. -/
def quoteFor (codes : List Nat) : Char :=
  if codes.contains 39 && !codes.contains 34 then '"' else '\''

/-- A text of code points between quotes. -/
def quoteCodes (codes : List Nat) : List Char :=
  let quote := quoteFor codes
  quote :: codes.flatMap (quotedCode quote) ++ [quote]

def quote (s : String) : String := String.ofList (quoteCodes (s.toList.map Char.toNat))

/-- Bytes between quotes: only printable ASCII stands for itself. -/
def quoteBytes (bytes : List Nat) : List Char :=
  let quote := quoteFor bytes
  let one (n : Nat) : List Char :=
    if n == quote.toNat then ['\\', quote]
    else if n == 92 || n < 32 || n ≥ 127 then escapeCode n
    else [Char.ofNat n]
  'b' :: quote :: bytes.flatMap one ++ [quote]

end PullReview.Text
