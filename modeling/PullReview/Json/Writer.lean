import PullReview.Json
import PullReview.Number.Decimal
import PullReview.Number.Whole
import PullReview.Text.Quoted

/-!
# Writing JSON

Texts are written in ASCII, every other character as an escape, those beyond the first plane as a
pair. `compact` writes one line, `indented` puts each item on a line of its own. `writeWithin` only
writes whole numbers within a limit of digits.
-/

namespace PullReview.Json

def escapeUnit (n : Nat) : List Char := '\\' :: 'u' :: Text.hexPadded 4 n

def escapeChar (c : Char) : List Char :=
  let n := c.toNat
  if c == '"' then ['\\', '"']
  else if c == '\\' then ['\\', '\\']
  else if n == 10 then ['\\', 'n']
  else if n == 13 then ['\\', 'r']
  else if n == 9 then ['\\', 't']
  else if n == 12 then ['\\', 'f']
  else if n == 8 then ['\\', 'b']
  else if 32 ≤ n && n < 127 then [c]
  else if n < 0x10000 then escapeUnit n
  else
    let m := n - 0x10000
    escapeUnit (0xD800 + m / 0x400) ++ escapeUnit (0xDC00 + m % 0x400)

def quoteText (s : String) : String :=
  "\"" ++ String.ofList (s.toList.flatMap escapeChar) ++ "\""

/-- Doubles have the fewest digits that read back; the values outside the numbers have words. -/
def floatText (x : Float) : String :=
  match Number.Datum.ofFloat x with
  | .nan => "NaN"
  | .infinite negative => if negative then "-Infinity" else "Infinity"
  | _ => Number.plain x

def scalarText : Json → String
  | .null => "null"
  | .bool b => if b then "true" else "false"
  | .int n => toString n
  | .float x => floatText x
  | .str s => quoteText s
  | _ => ""

mutual

/-- The value on one line. -/
def compact : Json → String
  | .arr items => "[" ++ ", ".intercalate (compactItems items) ++ "]"
  | .obj members => "\x7b" ++ ", ".intercalate (compactMembers members) ++ "\x7d"
  | scalar => scalarText scalar

def compactItems : List Json → List String
  | [] => []
  | j :: rest => compact j :: compactItems rest

def compactMembers : List (String × Json) → List String
  | [] => []
  | (key, j) :: rest => (quoteText key ++ ": " ++ compact j) :: compactMembers rest

end

/-- The digits of a number, apart from its sign. -/
def digits (n : Int) : List Char := Nat.toDigits 10 n.natAbs

mutual

/-- All whole numbers are within the limit of digits. -/
def fits (limit : Option Nat) : Json → Bool
  | .int n => Number.within limit (digits n).length
  | .arr items => fitsItems limit items
  | .obj members => fitsMembers limit members
  | .null | .bool _ | .float _ | .str _ => true

def fitsItems (limit : Option Nat) : List Json → Bool
  | [] => true
  | j :: rest => fits limit j && fitsItems limit rest

def fitsMembers (limit : Option Nat) : List (String × Json) → Bool
  | [] => true
  | (_, j) :: rest => fits limit j && fitsMembers limit rest

end

/-- The value on one line, if its whole numbers are within the limit. -/
def writeWithin (limit : Option Nat) (j : Json) : Option String :=
  if fits limit j then some (compact j) else none

def margin (depth : Nat) : String := String.ofList (List.replicate (2 * depth) ' ')

/-- Items on lines of their own between brackets. -/
def spread (depth : Nat) (opening closing : String) (items : List String) : String :=
  if items.isEmpty then opening ++ closing
  else
    opening ++ "\n" ++ ",\n".intercalate (items.map (margin (depth + 1) ++ ·)) ++ "\n" ++
      margin depth ++ closing

mutual

def indentedAt (depth : Nat) : Json → String
  | .arr items => spread depth "[" "]" (indentedItems (depth + 1) items)
  | .obj members => spread depth "\x7b" "\x7d" (indentedMembers (depth + 1) members)
  | scalar => scalarText scalar

def indentedItems (depth : Nat) : List Json → List String
  | [] => []
  | j :: rest => indentedAt depth j :: indentedItems depth rest

def indentedMembers (depth : Nat) : List (String × Json) → List String
  | [] => []
  | (key, j) :: rest =>
      (quoteText key ++ ": " ++ indentedAt depth j) :: indentedMembers depth rest

end

/-- The value over several lines, two blanks for each level. -/
def indented (j : Json) : String := indentedAt 0 j

end PullReview.Json
