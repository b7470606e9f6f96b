import PullReview.Extract

/-!
# Readers of source files

The tolerant reader needs a grammar for every language it reads; where the one for Python is not
available, the strict reader takes its place.
-/

namespace PullReview.Extract

structure Reader where
  dialect : Python.Dialect
  languages : List String
  deriving Repr

namespace Reader

def strict : Reader := ⟨.strict, ["python"]⟩

/-- A tolerant reader for those of the requested languages that have a grammar; Python is requested
if nothing else is. -/
def tolerant (grammars requested : List String) : Reader :=
  ⟨.tolerant, (if requested.isEmpty then ["python"] else requested).filter grammars.contains⟩

def reads (r : Reader) (language : String) : Bool := r.languages.contains language

def supports (r : Reader) (path : String) : Bool := (Path.language? path).any r.reads

def extract (r : Reader) (path content : String) : Except Fault Extracted :=
  if r.supports path then Extract.extract r.dialect path content else .ok ⟨[], []⟩

/-- The reader for Python. -/
def choose (grammars : List String) : Reader :=
  let r := tolerant grammars ["python"]
  if r.reads "python" then r else strict

end Reader

end PullReview.Extract
