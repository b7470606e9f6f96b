import PullReview.Comment
import PullReview.Impact

/-!
# Reviews

The symbols of the changed files are compared with the index of the code before the change. Those
that are new or differ go through all analyses, and the findings become comments.
-/

namespace PullReview

structure Report where
  breaking : List BreakingChange := []
  duplicatesWithin : List DuplicateMatch := []
  duplicatesAcross : List DuplicateMatch := []
  impact : ImpactAnalysis := {}
  comments : List Comment := []
  unanchored : Nat := 0
  deriving Repr, Inhabited

namespace Review

/-- What a review works with besides the index. -/
structure Settings where
  dialect : Python.Dialect := .tolerant
  embedder : Option Embedder := none
  store : Option Duplicate.NeighbourStore := none
  predictor : Option Impact.Predictor := none
  skipOtherLanguages : Bool := true
  limits : Duplicate.Limits := {}
  depth : Int := Impact.defaultDepth

/-- Why a review cannot be made. -/
inductive Fault where
  | extraction (fault : Extract.Fault)
  | patch (fault : Number.TooManyDigits)

def Fault.message : Fault → String
  | extraction f => f.message
  | patch f => f.message

def addFile (d : Python.Dialect) (t : Table (List Symbol)) (f : ChangedFile) :
    Except Extract.Fault (Table (List Symbol)) :=
  if f.isRemoved then .ok (t.insert f.filename [])
  else
    match f.content with
    | some content =>
        if Extract.supports f.filename then do
          let found ← Extract.extract d f.filename content
          return t.insert f.filename found.symbols
        else .ok t
    | none => .ok t

/-- The symbols of every changed file after the change; a removed file has none. -/
def fileSymbols (d : Python.Dialect) (files : List ChangedFile) :
    Except Extract.Fault (Table (List Symbol)) :=
  files.foldlM (addFile d) {}

/-- The symbol a file had under a name and a kind, the last of them. -/
def before? (ix : Index) (path : String) (s : Symbol) : Option Symbol :=
  (ix.fileSymbols path).reverse.find? fun old => old.name == s.name && old.kind == s.kind

def isChanged (ix : Index) (path : String) (s : Symbol) : Bool :=
  match before? ix path s with
  | some old => old.signature != s.signature || old.code != s.code
  | none => true

/-- The symbols that are new to their files or differ from what they were. -/
def changedSymbols (ix : Index) (t : Table (List Symbol)) : List Symbol :=
  t.entries.flatMap fun e => e.2.filter (isChanged ix e.1)

def detector (ix : Index) (s : Settings) : Duplicate.Detector where
  index := ix
  embedder := s.embedder
  store := s.store
  skipOtherLanguages := s.skipOtherLanguages
  limits := s.limits

def duplicates (ix : Index) (s : Settings) (changed : List Symbol) :
    List DuplicateMatch × List DuplicateMatch :=
  let d := detector ix s
  ((do return (← d.withinReview changed, ← d.acrossIndex changed) :
    Duplicate.Detect (List DuplicateMatch × List DuplicateMatch)).run {}).1

/-- Reviews changed files against an index. -/
def run (ix : Index) (s : Settings) (files : List ChangedFile) : Except Fault Report := do
  let perFile ← (fileSymbols s.dialect files).mapError Fault.extraction
  let changed := changedSymbols ix perFile
  let breaking := Breaking.detect ix changed perFile.entries
  let (within, across) := duplicates ix s changed
  let impact :=
    Impact.analyze ix (Impact.sources s.predictor) s.depth changed (files.map (·.filename))
  let (cs, unanchored) ←
    (comments (.ofFiles files) (findings breaking within across)).mapError Fault.patch
  return ⟨breaking, within, across, impact, cs, unanchored⟩

end Review

end PullReview
