/-!
# Lines

A text is cut into lines at every line boundary, a carriage return and a line feed together being
one. The boundary does not belong to the line, and a boundary at the end starts no line.
-/

namespace PullReview.Text

def isLineBoundary (c : Char) : Bool :=
  let n := c.toNat
  (10 ≤ n && n ≤ 13) || (28 ≤ n && n ≤ 30) || n == 0x85 || n == 0x2028 || n == 0x2029

/-- The lines of a text; `line` is the line being read, reversed. -/
def linesFrom (line : List Char) : List Char → List (List Char)
  | [] => if line.isEmpty then [] else [line.reverse]
  | '\r' :: '\n' :: rest => line.reverse :: linesFrom [] rest
  | c :: rest =>
      if isLineBoundary c then line.reverse :: linesFrom [] rest
      else linesFrom (c :: line) rest

def lines (s : String) : List String := (linesFrom [] s.toList).map String.ofList

/-- Lines `first` to `last`, counted from one, joined by line feeds. -/
def excerpt (ls : List String) (first last : Nat) : String :=
  "\n".intercalate ((ls.drop (first - 1)).take (last - (first - 1)))

end PullReview.Text
