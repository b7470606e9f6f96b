import PullReview.Impact.Area
import PullReview.Text.Search

/-!
# Dependency chains

A chain lists the places a change can reach. Level one holds the callers in the symbol's own file
and those named after it, level two one caller for every other file, and the deeper levels come
from a breadth-first walk over the callers of callers.
-/

namespace PullReview

structure ChainLink where
  level : Int
  file : String
  symbol : String
  reason : String
  deriving DecidableEq, Repr, Inhabited

structure DependencyChain where
  root : String
  links : List ChainLink
  affected : Nat
  critical : Bool
  deriving DecidableEq, Repr, Inhabited

namespace Impact

/-- Callers in the symbol's own file, and callers whose names contain its name. -/
def isDirect (s : Symbol) (a : ImpactedArea) : Bool :=
  a.file == s.file || Text.occursIn s.name a.method

/-- One link for every file and caller. -/
def directLinks (s : Symbol) (as : List ImpactedArea) : List ChainLink :=
  (as.filter (isDirect s)).foldl
    (fun links a =>
      if links.any fun l => l.file == a.file && l.symbol == a.method then links
      else links ++ [⟨1, a.file, a.method, "directly calls " ++ s.name⟩])
    []

/-- One link for every file that no earlier link covers. -/
def addFileLinks (links : List ChainLink) (as : List ImpactedArea) : List ChainLink :=
  as.foldl
    (fun links a =>
      if links.any (·.file == a.file) then links
      else links ++ [⟨2, a.file, a.method, "transitively depends on a level-1 file"⟩])
    links

/-- The state of the walk: names whose callers are still to be visited with their levels, the names
seen so far, the files covered so far, and the links found. -/
structure Walk where
  queue : List (String × Int)
  visited : List String
  files : List String
  links : List ChainLink
  deriving Repr

namespace Walk

/-- Visits one caller of `current`: a name seen before is passed over, and a file covered before
gets no second link. -/
def visit (skipped : List String) (current : String) (level : Int) (w : Walk) (site : CallEdge) :
    Walk :=
  if w.visited.contains site.caller then w
  else
    let w := { w with
      visited := w.visited ++ [site.caller]
      queue := w.queue ++ [(site.caller, level + 1)] }
    if w.files.contains site.file || skipped.contains site.file then w
    else
      { w with
        files := w.files ++ [site.file]
        links := w.links ++ [⟨level + 1, site.file, site.caller, "calls " ++ current⟩] }

/-- Takes the first name off the queue and visits its callers, unless it lies at the depth where
the walk stops. -/
def step (ix : Index) (skipped : List String) (depth : Int) (w : Walk) : Walk :=
  match w.queue with
  | [] => w
  | (current, level) :: rest =>
      let w := { w with queue := rest }
      if level ≥ depth then w
      else (ix.callers current).foldl (visit skipped current level) w

def steps (ix : Index) (skipped : List String) (depth : Int) : Nat → Walk → Walk
  | 0, w => w
  | n + 1, w => steps ix skipped depth n (w.step ix skipped depth)

def start (root : String) (links : List ChainLink) : Walk where
  queue := links.map fun l => (l.symbol, 2)
  visited := root :: links.map (·.symbol)
  files := links.map (·.file)
  links := links

end Walk

/-- Extends a chain beyond level two. Every name enters the queue at most once after the start, so
the walk is over after as many steps as there are links and calls. -/
def extendLinks (ix : Index) (skipped : List String) (depth : Int) (root : String)
    (links : List ChainLink) : List ChainLink :=
  if depth < 3 then links
  else
    (Walk.steps ix skipped depth (links.length + ix.calls.length) (.start root links)).links

/-- A long chain is critical, and so is one that starts at a service or an interface. -/
def isCritical (name : String) (links : List ChainLink) : Bool :=
  let lowered := Text.lower name
  links.length > 5 || Text.occursIn "service" lowered || Text.occursIn "api" lowered

def chain (ix : Index) (skipped : List String) (depth : Int) (s : Symbol)
    (as : List ImpactedArea) : DependencyChain :=
  let links := extendLinks ix skipped depth s.name (addFileLinks (directLinks s as) as)
  { root := s.name
    links := links
    affected := links.length
    critical := isCritical s.name links }

end Impact

end PullReview
