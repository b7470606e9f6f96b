/-!
# Texts inside texts

Whether one text occurs in another, and the removal of characters at an end.
-/

namespace PullReview.Text

/-- Whether `needle` starts `cs` or one of its tails. -/
def occursInChars (needle : List Char) : List Char → Bool
  | [] => needle.isEmpty
  | c :: rest => needle.isPrefixOf (c :: rest) || occursInChars needle rest

def occursIn (needle s : String) : Bool := occursInChars needle.toList s.toList

/-- The part of `cs` before the first occurrence of `needle`, and the part after it. -/
def splitFirst? (needle : List Char) : List Char → Option (List Char × List Char)
  | [] => if needle.isEmpty then some ([], []) else none
  | c :: rest =>
      if needle.isPrefixOf (c :: rest) then some ([], (c :: rest).drop needle.length)
      else (splitFirst? needle rest).map fun p => (c :: p.1, p.2)

/-- Drops the trailing characters that satisfy `p`. -/
def trimEndBy (p : Char → Bool) (cs : List Char) : List Char := (cs.reverse.dropWhile p).reverse

def replaceChar (old new : Char) (s : String) : String :=
  String.ofList (s.toList.map fun c => if c == old then new else c)

end PullReview.Text
