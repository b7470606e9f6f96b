import PullReview.Number.Whole
import PullReview.Text.Digit
import PullReview.Text.Lines

/-!
# Lines of a patch

A line of the new text can be commented on if the patch shows it. The patch is read line by line
with a counter of new lines: the header of a hunk sets it, a line that is kept or added advances
it, and outside a hunk there is none.
-/

namespace PullReview.Diff

/-- What a line of a patch does to the counter. -/
inductive PatchLine where
  | header (newStart : List Nat)
  | boundary
  | shown
  | hidden
  deriving DecidableEq, Repr

/-- A run of digits and what follows it; there is at least one digit. -/
def digitRun? (cs : List Char) : Option (List Nat × List Char) :=
  let ds := (cs.takeWhile Text.isDigit).filterMap Text.digitValue?
  if ds.isEmpty then none else some (ds, cs.dropWhile Text.isDigit)

def literal? (t : String) (cs : List Char) : Option (List Char) :=
  if t.toList.isPrefixOf cs then some (cs.drop t.length) else none

/-- Passes over the number of lines of a range, if it is written. -/
def skipCount (cs : List Char) : List Char :=
  match cs with
  | ',' :: rest => ((digitRun? rest).map (·.2)).getD cs
  | _ => cs

/-- The digits of the new start in a well-formed header. -/
def headerStart? (cs : List Char) : Option (List Nat) := do
  let cs ← literal? "@@ -" cs
  let (_, cs) ← digitRun? cs
  let cs ← literal? " +" (skipCount cs)
  let (start, cs) ← digitRun? cs
  let _ ← literal? " @@" (skipCount cs)
  return start

/-- What a line does, given the line after it. -/
def PatchLine.of (line : String) (next : Option String) : PatchLine :=
  if line.startsWith "@@" then
    match headerStart? line.toList with
    | some start => .header start
    | none => .boundary
  else if line.startsWith "diff " then .boundary
  else if line.startsWith "--- " && (next.any fun n => n.startsWith "+++ ") then .boundary
  else if line == "" || line.startsWith "+" || line.startsWith " " then .shown
  else .hidden

def readPatch : List String → List PatchLine
  | [] => []
  | l :: rest => .of l rest.head? :: readPatch rest

/-- Looks for the line `n`; `counter` is the number of the new line read last. -/
def findLine (n : Int) (counter : Option Int) :
    List PatchLine → Except Number.TooManyDigits (Option Int)
  | [] => .ok none
  | .header ds :: rest =>
      match Number.readWhole ds with
      | .ok start => findLine n (some (start - 1)) rest
      | .error e => .error e
  | .boundary :: rest => findLine n none rest
  | .hidden :: rest => findLine n counter rest
  | .shown :: rest =>
      match counter with
      | none => findLine n none rest
      | some c => if c + 1 == n then .ok (some n) else findLine n (some (c + 1)) rest

/-- The line `n` of the new text, if the patch shows it. -/
def shownLine? (patch : String) (n : Int) : Except Number.TooManyDigits (Option Int) :=
  if n < 1 then .ok none else findLine n none (readPatch (Text.lines patch))

/-- The same where the patch may be missing: then no line is shown. -/
def shownLineOf? (patch : Option String) (n : Int) : Except Number.TooManyDigits (Option Int) :=
  match patch with
  | some patch => shownLine? patch n
  | none => .ok none

end PullReview.Diff
