import PullReview.Text.Case
import PullReview.Text.Search

/-!
# Paths

Slash-separated paths by their components. Empty components and single dots do not count. The
suffix of a path is the part of its last component from the last dot, unless the dot stands first
or last.
-/

namespace PullReview.Path

/-- Cuts a text at every occurrence of a character; there is always at least one part. -/
def splitAt (sep : Char) : List Char → List (List Char)
  | [] => [[]]
  | c :: rest =>
      if c == sep then [] :: splitAt sep rest
      else
        match splitAt sep rest with
        | part :: parts => (c :: part) :: parts
        | [] => [[c]]

/-- The components of a path, the root apart. -/
def components (path : String) : List String :=
  ((splitAt '/' path.toList).map String.ofList).filter fun p => p != "" && p != "."

/-- Where the components of a path lead from the root: two dots lead back. -/
def destination (parts : List String) : List String :=
  parts.foldl (fun place c => if c == ".." then place.dropLast else place ++ [c]) []

def isAbsolute (path : String) : Bool := path.startsWith "/"

/-- The last component, empty for a root or an empty path. -/
def name (path : String) : String := (components path).getLast?.getD ""

/-- The position of the last dot, if the suffix starts there. -/
def suffixStart? (cs : List Char) : Option Nat :=
  match cs.reverse.idxOf? '.' with
  | some back =>
      let i := cs.length - 1 - back
      if 0 < i && back != 0 then some i else none
  | none => none

def suffix (path : String) : String :=
  let cs := (name path).toList
  match suffixStart? cs with
  | some i => String.ofList (cs.drop i)
  | none => ""

/-- The last component without its suffix. -/
def stem (path : String) : String :=
  let cs := (name path).toList
  match suffixStart? cs with
  | some i => String.ofList (cs.take i)
  | none => String.ofList cs

/-- The last component of the directory a path lies in. -/
def parentName (path : String) : String := (components path).dropLast.getLast?.getD ""

/-! ### Languages -/

def languages : List (String × String) :=
  [(".py", "python"), (".js", "javascript"), (".jsx", "javascript"), (".ts", "typescript"),
    (".tsx", "typescript"), (".go", "go"), (".rs", "rust"), (".java", "java"), (".rb", "ruby"),
    (".cpp", "cpp"), (".c", "c"), (".cs", "c_sharp")]

/-- The language of a source file, known by its suffix in any letter case. -/
def language? (path : String) : Option String := languages.lookup (Text.lower (suffix path))

/-! ### Code files -/

/-- A path that contains one of these is never looked at. -/
def skippedPatterns : List String :=
  ["node_modules", ".git", "dist", "build", "target", ".min.", ".lock"]

def codeSuffixes : List String :=
  [".py", ".java", ".js", ".ts", ".go", ".rs", ".cpp", ".c", ".cs"]

def isCode (path : String) : Bool :=
  !(skippedPatterns.any fun p => Text.occursIn p path) &&
    codeSuffixes.contains (Text.lower (suffix path))

end PullReview.Path
