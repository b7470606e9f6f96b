import PullReview.Review
import PullReview.Text.Grid

/-!
# Reports for a terminal

The breaking changes and the duplicates in grids, then the extent of the impact and the number of
comments.
-/

namespace PullReview.Report

private def breakingGrid (changes : List BreakingChange) : Text.Grid where
  title := "Breaking changes"
  columns := [⟨"Severity", false⟩, ⟨"Type", false⟩, ⟨"Symbol", false⟩, ⟨"Detail", false⟩,
    ⟨"Call sites", true⟩]
  rows := changes.map fun c =>
    [c.severity.word, c.kind.word, c.symbol.location, c.message, toString c.callSites.length]

private def duplicateGrid (found : List DuplicateMatch) : Text.Grid where
  title := "Possible duplicates"
  columns := [⟨"Type", false⟩, ⟨"Similarity", true⟩, ⟨"Symbol", false⟩, ⟨"Matches", false⟩,
    ⟨"Reason", false⟩]
  rows := found.map fun m =>
    [m.kind.word, Number.percent m.similarity, m.first.location, m.second.location, m.reason]

def display (r : Report) : String :=
  let duplicates := r.duplicatesWithin ++ r.duplicatesAcross
  (if r.breaking.isEmpty then "No breaking changes detected.\n"
    else (breakingGrid r.breaking).render) ++
    (if duplicates.isEmpty then "" else (duplicateGrid duplicates).render) ++
    "Impact: " ++ toString r.impact.files.length ++ " file(s), " ++
    toString r.impact.features.length ++ " feature(s), " ++
    toString r.impact.cascades.length ++ " cascade risk(s)\n" ++
    "Comments: " ++ toString r.comments.length ++ " anchored, " ++ toString r.unanchored ++
    " outside the diff\n"

end PullReview.Report
