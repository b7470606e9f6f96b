import PullReview.Impact

/-!
# Impact summary

An analysis as a text with headings. A feature lists its first call sites and counts the others.
-/

namespace PullReview.ImpactAnalysis

/-- The first `n` elements, or all but the last `-n` for a negative `n`. -/
def leading {α : Type} (n : Int) (xs : List α) : List α :=
  if 0 ≤ n then xs.take n.toNat else xs.take (xs.length - (-n).toNat)

private def featureLines (maxSites : Int) (f : ImpactedFeature) : List String :=
  let extra : Int := f.areas.length - maxSites
  ["### " ++ f.name, "- **Risk Level:** " ++ Text.upper f.risk.word,
    "- **Affected Files:** " ++ toString f.files.length,
    "- **Call Sites:** " ++ toString f.areas.length, "- **Description:** " ++ f.description, ""] ++
  ((leading maxSites f.areas).map fun a =>
    "  - `" ++ a.method ++ "()` in `" ++ a.file ++ ":" ++ toString a.line ++ "`") ++
  (if extra > 0 then ["  ... and " ++ toString extra ++ " more call site(s)"] else []) ++ [""]

private def cascadeLine (c : Cascade) : String :=
  "- **" ++ c.trigger ++ "** (" ++ Text.upper c.severity.word ++ "): " ++ c.description

private def predictionLines (p : Prediction) : List String :=
  ["### " ++ p.scenario, "- **Probability:** " ++ Text.upper p.probability.word,
    "- **Impact:** " ++ p.impact, "- **Affected Files:** " ++ toString p.affectedFiles.length,
    "- **Mitigation:** " ++ p.mitigation, ""]

/-- Lines under a heading; nothing at all if there are none. -/
private def underHeading (title : String) (body : List String) : List String :=
  if body.isEmpty then [] else ["## " ++ title, ""] ++ body

def summaryLines (a : ImpactAnalysis) (maxSites : Int) : List String :=
  ["# Pre-Merge Impact Analysis", "", "## Overview", "",
    "This PR modifies **" ++ toString a.changed.length ++ " symbol(s)** that are used by **" ++
      toString a.files.length ++ " file(s)** in the codebase.", ""] ++
  underHeading "Impacted Features" (a.features.flatMap (featureLines maxSites)) ++
  underHeading "Cascade Risks"
    (if a.cascades.isEmpty then [] else a.cascades.map cascadeLine ++ [""]) ++
  underHeading "Potential Breakage Scenarios" (a.predictions.flatMap predictionLines)

/-- The summary, without blanks at its end but for one line feed. -/
def summary (a : ImpactAnalysis) (maxSites : Int := 10) : String :=
  String.ofList
    (Text.trimEndBy Text.isBlank ("\n".intercalate (a.summaryLines maxSites)).toList ++ ['\n'])

end PullReview.ImpactAnalysis
