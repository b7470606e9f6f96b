import PullReview.Diff.Script
import PullReview.Text.Lines

/-!
# Hunks

A patch shows the changes of a text in hunks, each with up to three shared lines before and after
its changes. Two changes belong to one hunk if no more than six shared lines lie between them.
-/

namespace PullReview.Diff

inductive Mark where
  | kept
  | removed
  | added
  deriving DecidableEq, Repr

def Mark.sign : Mark → String
  | kept => " "
  | removed => "-"
  | added => "+"

/-- A hunk starts after `oldStart` lines of the old text and `newStart` lines of the new one. -/
structure Hunk where
  oldStart : Nat
  newStart : Nat
  lines : List (Mark × String) := []
  deriving DecidableEq, Repr

namespace Hunk

def oldCount (h : Hunk) : Nat := h.lines.countP (·.1 != .added)

def newCount (h : Hunk) : Nat := h.lines.countP (·.1 != .removed)

def keep (h : Hunk) (ls : List String) : Hunk :=
  { h with lines := h.lines ++ ls.map fun l => (.kept, l) }

def replace (h : Hunk) (removed added : List String) : Hunk :=
  { h with
    lines := h.lines ++ removed.map (fun l => (.removed, l)) ++ added.map fun l => (.added, l) }

/-- The range of a side: its first line and the number of its lines. A single line is written
without the number, and an empty range names the line before it. -/
def range (start count : Nat) : String :=
  if count == 1 then toString (start + 1)
  else if count == 0 then toString start ++ ",0"
  else toString (start + 1) ++ "," ++ toString count

def header (h : Hunk) : String :=
  "@@ -" ++ range h.oldStart h.oldCount ++ " +" ++ range h.newStart h.newCount ++ " @@"

def text (h : Hunk) : List String := h.header :: h.lines.map fun l => l.1.sign ++ l.2

end Hunk

/-- The number of shared lines shown around a change. -/
def context : Nat := 3

/-- The hunk that opens behind a run of shared lines, of which it shows the last. -/
def openAfter (oldEnd newEnd : Nat) (shared : List String) : Hunk :=
  let shown := shared.drop (shared.length - context)
  Hunk.keep ⟨oldEnd - shown.length, newEnd - shown.length, []⟩ shown

/-- The hunks of the rest of a script, which starts after `i` old and `j` new lines; `h` is the hunk
being built. -/
def hunksFrom (i j : Nat) (h : Hunk) : List Run → List Hunk
  | [] => [h]
  | .change removed added :: rest =>
      hunksFrom (i + removed.length) (j + added.length) (h.replace removed added) rest
  | .same shared :: rest =>
      let i := i + shared.length
      let j := j + shared.length
      if rest.isEmpty then [h.keep (shared.take context)]
      else if shared.length > 2 * context then
        h.keep (shared.take context) :: hunksFrom i j (openAfter i j shared) rest
      else hunksFrom i j (h.keep shared) rest

/-- A script without a change has no hunk. -/
def hunks : List Run → List Hunk
  | [] => []
  | [.same _] => []
  | .same shared :: rest =>
      hunksFrom shared.length shared.length (openAfter shared.length shared.length shared) rest
  | runs => hunksFrom 0 0 ⟨0, 0, []⟩ runs

/-- The lines of a patch; two texts with the same lines have the empty patch. -/
def patchLines (old new : List String) (filename : String) : List String :=
  match hunks (script old new) with
  | [] => []
  | hs => ("--- a/" ++ filename) :: ("+++ b/" ++ filename) :: hs.flatMap Hunk.text

/-- The patch from one text to another. -/
def patch (old new filename : String) : String :=
  "\n".intercalate (patchLines (Text.lines old) (Text.lines new) filename)

end PullReview.Diff
