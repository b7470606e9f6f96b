import PullReview.Extract
import PullReview.Table

/-!
# The index

What is known of a code base: all symbols and calls in the order they were added, the symbols of
every file, and for every name the symbol added last under it.
-/

namespace PullReview

structure Index where
  symbols : List Symbol := []
  calls : List CallEdge := []
  files : Table (List Symbol) := {}
  names : Table Symbol := {}
  deriving Inhabited

namespace Index

/-- Adds what was found in one file. A file without symbols is known too. -/
def add (ix : Index) (path : String) (symbols : List Symbol) (calls : List CallEdge) : Index where
  symbols := ix.symbols ++ symbols
  calls := ix.calls ++ calls
  files := ix.files.alter path fun old => old.getD [] ++ symbols
  names := symbols.foldl (fun t s => t.insert s.name s) ix.names

/-- Extracts a file and adds the result, together with the number of its symbols. -/
def addFrom {ε : Type} (extract : String → String → Except ε Extract.Extracted) (ix : Index)
    (path content : String) : Except ε (Index × Nat) := do
  let found ← extract path content
  return (ix.add path found.symbols found.calls, found.symbols.length)

def addSource (d : Python.Dialect) (ix : Index) (path content : String) :
    Except Extract.Fault (Index × Nat) :=
  ix.addFrom (Extract.extract d) path content

def callers (ix : Index) (name : String) : List CallEdge := ix.calls.filter (·.callee == name)

def callees (ix : Index) (name : String) : List CallEdge := ix.calls.filter (·.caller == name)

def symbol? (ix : Index) (name : String) : Option Symbol := ix.names.get? name

def fileSymbols (ix : Index) (path : String) : List Symbol := (ix.files.get? path).getD []

end Index

end PullReview
