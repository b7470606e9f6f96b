import PullReview.Text.Blank
import PullReview.Text.Case
import PullReview.Text.Lines
import PullReview.Text.Search

/-!
# Normal forms of signatures and code

Two signatures are compared without regard to blanks and letter case. Code is compared line by line,
without comments, blank lines and the kind and number of blanks.
-/

namespace PullReview.Similarity

def normalSignature (s : String) : String := Text.lower (Text.strip (Text.squeeze s))

/-- Drops what follows `mark` on every line; lines end at line feeds here. `inside` says that the
mark has been passed. -/
def dropLineComments (mark : List Char) (inside : Bool) : List Char → List Char
  | [] => []
  | c :: rest =>
      if c == '\n' then c :: dropLineComments mark false rest
      else if inside || mark.isPrefixOf (c :: rest) then dropLineComments mark true rest
      else c :: dropLineComments mark false rest

/-- What follows the end of a block comment, if it is closed. -/
def afterBlock? : List Char → Option (List Char)
  | [] => none
  | '*' :: '/' :: rest => some rest
  | _ :: rest => afterBlock? rest

/-- Drops closed block comments; `fuel` need not exceed the number of characters. -/
def dropBlockComments : Nat → List Char → List Char
  | 0, cs => cs
  | _ + 1, [] => []
  | fuel + 1, '/' :: '*' :: rest =>
      match afterBlock? rest with
      | some cs => dropBlockComments fuel cs
      | none => '/' :: dropBlockComments fuel ('*' :: rest)
  | fuel + 1, c :: rest => c :: dropBlockComments fuel rest

/-- Code without its comments: those from a hash in Python, and otherwise block comments and those
from two slashes. -/
def withoutComments (language : Option String) (code : String) : String :=
  let cs := code.toList
  String.ofList <|
    if language == some "python" then dropLineComments ['#'] false cs
    else dropLineComments ['/', '/'] false (dropBlockComments cs.length cs)

/-- The lines of code that are not blank, without comments and with single spaces. -/
def normalLines (language : Option String) (code : String) : List String :=
  ((Text.lines (withoutComments language code)).map fun l => Text.strip (Text.squeeze l)).filter
    (· != "")

end PullReview.Similarity
