import PullReview.Breaking
import PullReview.ChangedFile
import PullReview.Duplicate
import PullReview.Number.Decimal

/-!
# Review comments

A finding becomes a comment on the first line of its symbol that the patch shows. A finding
without such a line is counted only, and so is every removal, since the place of a symbol that is
gone says nothing about the new file.
-/

namespace PullReview

structure Comment where
  path : String
  line : Int
  body : String
  severity : Level
  category : String
  deriving DecidableEq, Repr, Inhabited

/-- What a review has to say at a symbol; a removal has no place. -/
structure Finding where
  target : Symbol
  placed : Bool
  body : String
  severity : Level
  category : String
  deriving DecidableEq, Repr

/-- So many call sites are listed in a comment. -/
def listedSites : Nat := 5

def BreakingChange.body (c : BreakingChange) : String :=
  let title :=
    "**Breaking change (" ++ Text.replaceChar '_' ' ' c.kind.word ++ ")**: " ++ c.message
  let sites := c.callSites.length
  let rest :=
    if c.callSites.isEmpty then
      ["No indexed callers were found, but external consumers may still break."]
    else
      (toString sites ++ " call site(s) in " ++ toString c.impactedFiles.length ++
          " file(s) may be affected:") ::
        ((c.callSites.take listedSites).map fun s =>
          "- `" ++ s.file ++ ":" ++ toString s.line ++ "` in `" ++ s.caller ++ "()`") ++
        (if sites > listedSites then ["- ... and " ++ toString (sites - listedSites) ++ " more"]
          else [])
  "\n".intercalate (title :: "" :: rest)

def DuplicateMatch.body (m : DuplicateMatch) (other : Symbol) : String :=
  "**Possible duplicate** (" ++ m.kind.word ++ ", " ++ Number.percent m.similarity ++
    " similar): " ++ m.reason ++ ". Compare with `" ++ other.name ++ "` at `" ++ other.location ++
    "`."

namespace Finding

def ofChange (c : BreakingChange) : Finding where
  target := c.symbol
  placed := c.kind != .removed
  body := c.body
  severity := c.severity
  category := "breaking_change"

def ofMatch (m : DuplicateMatch) (target other : Symbol) : Finding where
  target := target
  placed := true
  body := m.body other
  severity := if m.kind == .exact then .medium else .low
  category := "duplicate"

/-- A duplicate inside a review is reported at the later symbol. -/
def ofWithin (m : DuplicateMatch) : Finding := ofMatch m m.second m.first

def ofAcross (m : DuplicateMatch) : Finding := ofMatch m m.first m.second

def comment? (p : Patches) (f : Finding) : Except Number.TooManyDigits (Option Comment) :=
  if f.placed then do
    let line ← p.anchor? f.target
    return line.map fun l => ⟨f.target.file, l, f.body, f.severity, f.category⟩
  else .ok none

end Finding

/-- The findings of a review in the order they are reported. -/
def findings (changes : List BreakingChange) (within across : List DuplicateMatch) :
    List Finding :=
  changes.map .ofChange ++ within.map .ofWithin ++ across.map .ofAcross

/-- The comments of a list of findings, and the number of findings without one. -/
def comments (p : Patches) (fs : List Finding) :
    Except Number.TooManyDigits (List Comment × Nat) := do
  let cs ← fs.mapM (Finding.comment? p)
  return (cs.filterMap id, cs.countP (·.isNone))

end PullReview
