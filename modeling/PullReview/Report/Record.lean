import PullReview.Review
import PullReview.Symbol.Record

/-!
# Reports as records

A report, and all that it holds, as an object whose members stand in a fixed order.
-/

namespace PullReview

def BreakingChange.toJson (c : BreakingChange) : Json :=
  .obj
    [("symbol", c.symbol.toJson), ("change_type", .str c.kind.word),
      ("old_signature", Json.ofOption .str c.oldSignature),
      ("new_signature", Json.ofOption .str c.newSignature),
      ("impacted_files", Json.strings c.impactedFiles),
      ("call_sites", .arr (c.callSites.map CallEdge.toJson)), ("severity", .str c.severity.word),
      ("message", .str c.message)]

def DuplicateMatch.toJson (m : DuplicateMatch) : Json :=
  .obj
    [("symbol1", m.first.toJson), ("symbol2", m.second.toJson), ("similarity", .float m.similarity),
      ("type", .str m.kind.word), ("reason", .str m.reason)]

def ImpactedArea.toJson (a : ImpactedArea) : Json :=
  .obj
    [("file", .str a.file), ("line", .int a.line), ("method", .str a.method),
      ("feature", .str a.feature), ("call_site", a.callSite.toJson),
      ("risk_level", .str a.risk.word),
      ("reason", .str a.reason)]

def ImpactedFeature.toJson (f : ImpactedFeature) : Json :=
  .obj
    [("name", .str f.name), ("files", Json.strings f.files),
      ("impacted_areas", .arr (f.areas.map ImpactedArea.toJson)), ("risk_level", .str f.risk.word),
      ("description", .str f.description)]

def Cascade.toJson (c : Cascade) : Json :=
  .obj
    [("trigger", .str c.trigger), ("affected_features", Json.strings c.features),
      ("affected_services", Json.strings c.services), ("chain_length", .int c.length),
      ("severity", .str c.severity.word), ("description", .str c.description)]

def ChainLink.toJson (l : ChainLink) : Json :=
  .obj
    [("level", .int l.level), ("file", .str l.file), ("symbol", .str l.symbol),
      ("reason", .str l.reason)]

def DependencyChain.toJson (c : DependencyChain) : Json :=
  .obj
    [("root_change", .str c.root), ("chain", .arr (c.links.map ChainLink.toJson)),
      ("total_affected", .int c.affected), ("critical_path", .bool c.critical)]

def Prediction.toJson (p : Prediction) : Json :=
  .obj
    [("scenario", .str p.scenario), ("probability", .str p.probability.word),
      ("impact", .str p.impact), ("affected_files", Json.strings p.affectedFiles),
      ("mitigation", .str p.mitigation)]

def ImpactAnalysis.toJson (a : ImpactAnalysis) : Json :=
  .obj
    [("changed_symbols", .arr (a.changed.map Symbol.toJson)),
      ("impacted_files", Json.strings a.files),
      ("impacted_features", .arr (a.features.map ImpactedFeature.toJson)),
      ("call_sites", .arr (a.callSites.map CallEdge.toJson)),
      ("cascade_failures", .arr (a.cascades.map Cascade.toJson)),
      ("dependency_chains", .arr (a.chains.map DependencyChain.toJson)),
      ("breakage_predictions", .arr (a.predictions.map Prediction.toJson))]

def Comment.toJson (c : Comment) : Json :=
  .obj
    [("path", .str c.path), ("line", .int c.line), ("body", .str c.body),
      ("severity", .str c.severity.word), ("category", .str c.category)]

def Report.toJson (r : Report) : Json :=
  .obj
    [("breaking_changes", .arr (r.breaking.map BreakingChange.toJson)),
      ("duplicates_within_pr", .arr (r.duplicatesWithin.map DuplicateMatch.toJson)),
      ("duplicates_cross_repo", .arr (r.duplicatesAcross.map DuplicateMatch.toJson)),
      ("impact", r.impact.toJson), ("comments", .arr (r.comments.map Comment.toJson)),
      ("unanchored_findings", .int r.unanchored)]

end PullReview
