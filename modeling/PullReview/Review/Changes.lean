import PullReview.ChangedFile
import PullReview.Diff.Hunk
import PullReview.Repository

/-!
# Changed files of two checkouts

The code files that differ between a repository before a change and after it, with their patches.
-/

namespace PullReview.Review

def textOf (r : Repository) (path : String) : String := (r.read path).getD ""

/-- A code file after the change, unless it is as it was. -/
def headFile? (base head : Repository) (path : String) : Option ChangedFile :=
  let new := textOf head path
  if base.files.contains path then
    let old := textOf base path
    if old == new then none
    else some ⟨path, some (Diff.patch old new path), some new, "modified"⟩
  else some ⟨path, some (Diff.patch "" new path), some new, "added"⟩

def removedFile (base : Repository) (path : String) : ChangedFile :=
  ⟨path, some (Diff.patch (textOf base path) "" path), none, "removed"⟩

/-- The changed files: those after the change in the order of the checkout, then those that are
gone, by name. -/
def changedFiles (base head : Repository) : List ChangedFile :=
  let gone := (base.files.filter fun p => !head.files.contains p).mergeSort fun a b =>
    decide (a ≤ b)
  (head.files.filter Path.isCode).filterMap (headFile? base head) ++
    (gone.filter Path.isCode).map (removedFile base)

end PullReview.Review
