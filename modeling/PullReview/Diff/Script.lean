/-!
# Edit scripts

How one list of lines becomes another: runs of lines that both share, and places where lines are
removed and added. The script is found by taking the longest common run and going on to its left
and to its right. In a long text, lines that occur very often do not start a common run; they only
prolong one.
-/

namespace PullReview.Diff

/-- A run of lines that both sides share, or the lines removed and added at one place. -/
inductive Run where
  | same (lines : List String)
  | change (removed added : List String)
  deriving DecidableEq, Repr

namespace Run

def oldLines : Run → List String
  | same lines => lines
  | change removed _ => removed

def newLines : Run → List String
  | same lines => lines
  | change _ added => added

end Run

/-- A line of the new text, and whether a common run may start from it. -/
structure Candidate where
  line : String
  anchors : Bool
  deriving DecidableEq, Repr

/-- In a text of two hundred lines or more, a line on over one percent of them anchors nothing. -/
def candidates (new : List String) : List Candidate :=
  let limit := new.length / 100 + 1
  new.map fun l => ⟨l, new.length < 200 || new.count l ≤ limit⟩

/-- Where a common run starts on both sides, and its length. -/
structure Overlap where
  oldStart : Nat
  newStart : Nat
  size : Nat
  deriving DecidableEq, Repr

/-- The lengths of the common runs that end at an old line and at each of the new lines, from those
of the old line before. -/
def nextRow (line : String) (new : List Candidate) (row : List Nat) : List Nat :=
  List.zipWith (fun c before => if c.anchors && c.line == line then before + 1 else 0)
    new (0 :: row)

/-- Keeps the best overlap; `i` and `j` are the positions of the lines where the runs of `row`
end. -/
def improve (i : Nat) : Nat → List Nat → Overlap → Overlap
  | _, [], best => best
  | j, k :: row, best =>
      improve i (j + 1) row
        (if k > best.size then ⟨i + 1 - k, j + 1 - k, k⟩ else best)

def anchoredFrom (new : List Candidate) : Nat → List String → List Nat → Overlap → Overlap
  | _, [], _, best => best
  | i, line :: old, row, best =>
      let row := nextRow line new row
      anchoredFrom new (i + 1) old row (improve i 0 row best)

/-- The length of the common start of two lists of lines. -/
def commonStart : List String → List Candidate → Nat
  | l :: old, c :: new => if l == c.line then commonStart old new + 1 else 0
  | _, _ => 0

/-- The longest run of anchoring lines that both sides share, the first one of those, prolonged to
both ends by whatever lines agree. -/
def longestOverlap (old : List String) (new : List Candidate) : Overlap :=
  let found := anchoredFrom new 0 old (new.map fun _ => 0) ⟨0, 0, 0⟩
  let back := commonStart (old.take found.oldStart).reverse (new.take found.newStart).reverse
  let ahead :=
    commonStart (old.drop (found.oldStart + found.size)) (new.drop (found.newStart + found.size))
  ⟨found.oldStart - back, found.newStart - back, found.size + back + ahead⟩

def changeRun (old new : List String) : List Run :=
  if old.isEmpty && new.isEmpty then [] else [.change old new]

/-- The runs of a script. Every level of the search takes at least one old line out, so `fuel` need
not exceed their number. -/
def runsWithin : Nat → List String → List Candidate → List Run
  | 0, old, new => changeRun old (new.map (·.line))
  | fuel + 1, old, new =>
      let o := longestOverlap old new
      if o.size == 0 then changeRun old (new.map (·.line))
      else
        runsWithin fuel (old.take o.oldStart) (new.take o.newStart) ++
          .same ((old.drop o.oldStart).take o.size) ::
            runsWithin fuel (old.drop (o.oldStart + o.size)) (new.drop (o.newStart + o.size))

/-- Joins runs of shared lines that follow one another. -/
def joinSame : List Run → List Run
  | [] => []
  | .same a :: rest =>
      match joinSame rest with
      | .same b :: joined => .same (a ++ b) :: joined
      | joined => .same a :: joined
  | r :: rest => r :: joinSame rest

def script (old new : List String) : List Run :=
  joinSame (runsWithin old.length old (candidates new))

end PullReview.Diff
