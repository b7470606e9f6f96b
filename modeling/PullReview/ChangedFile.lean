import PullReview.Diff.LineMap
import PullReview.Symbol
import PullReview.Table

/-!
# Files under review

A changed file has a patch, if it is known, and its new content, unless it was removed.
-/

namespace PullReview

structure ChangedFile where
  filename : String
  patch : Option String := none
  content : Option String := none
  status : String := "modified"
  deriving DecidableEq, Repr, Inhabited

namespace ChangedFile

def isRemoved (f : ChangedFile) : Bool := f.status == "removed"

end ChangedFile

/-- The patches of a review by file; of two patches for one file the later counts. -/
structure Patches where
  table : Table (Option String)

namespace Patches

def ofFiles (files : List ChangedFile) : Patches :=
  ⟨Table.ofList (files.map fun f => (f.filename, f.patch))⟩

def patch? (p : Patches) (path : String) : Option String := ((p.table.get? path).getD none)

def hasPatch (p : Patches) (path : String) : Bool := (p.patch? path).any (· != "")

/-- The line `n` of a file, if its patch shows it. -/
def shownLine? (p : Patches) (path : String) (n : Int) :
    Except Number.TooManyDigits (Option Int) :=
  Diff.shownLineOf? (p.patch? path) n

/-- The first of `count` lines from `line` on that the patch of a file shows. -/
def firstShown? (p : Patches) (path : String) : Nat → Int →
    Except Number.TooManyDigits (Option Int)
  | 0, _ => .ok none
  | count + 1, line =>
      match p.shownLine? path line with
      | .ok none => firstShown? p path count (line + 1)
      | answer => answer

/-- The first line of a symbol that its file's patch shows. -/
def anchor? (p : Patches) (s : Symbol) : Except Number.TooManyDigits (Option Int) :=
  if p.hasPatch s.file then
    p.firstShown? s.file ((max s.startLine s.endLine - s.startLine).toNat + 1) s.startLine
  else .ok none

end Patches

end PullReview
