import PullReview.Json
import PullReview.Number.Decimal
import PullReview.Text.Quoted

/-!
# Values as text for a reader

A text stands for itself; inside lists and objects texts are quoted. Words for truth values and for
a missing value are capitalised.
-/

namespace PullReview.Json

mutual

/-- A value as it stands inside a list or an object. -/
def displayInner : Json → String
  | .null => "None"
  | .bool b => if b then "True" else "False"
  | .int n => toString n
  | .float x => Number.plain x
  | .str s => Text.quote s
  | .arr items => "[" ++ ", ".intercalate (displayItems items) ++ "]"
  | .obj members => "\x7b" ++ ", ".intercalate (displayMembers members) ++ "\x7d"

def displayItems : List Json → List String
  | [] => []
  | j :: rest => displayInner j :: displayItems rest

def displayMembers : List (String × Json) → List String
  | [] => []
  | (key, j) :: rest => (Text.quote key ++ ": " ++ displayInner j) :: displayMembers rest

end

def display : Json → String
  | .str s => s
  | j => displayInner j

end PullReview.Json
