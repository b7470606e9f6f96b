import PullReview.Path
import PullReview.Text.Quoted
import PullReview.Text.Utf8

/-!
# File trees

Files and directories by the components of their paths. A path is followed component by component:
each one but the last must lead to a directory, and two dots lead back to the one before.
-/

namespace PullReview

inductive Node where
  | file (bytes : List UInt8)
  | directory
  deriving DecidableEq, Repr, Inhabited

inductive FileError where
  | notFound
  | alreadyThere
  | notADirectory
  | isADirectory
  | notEmpty
  | badName
  deriving DecidableEq, Repr

/-- What went wrong at a path, which is written from the root. -/
def FileError.message (e : FileError) (path : List String) : String :=
  let located (reason : String) : String :=
    reason ++ ": " ++ Text.quote ("/" ++ "/".intercalate path)
  match e with
  | notFound => located "[Errno 2] No such file or directory"
  | alreadyThere => located "[Errno 17] File exists"
  | notADirectory => located "[Errno 20] Not a directory"
  | isADirectory => located "[Errno 21] Is a directory"
  | notEmpty => located "[Errno 39] Directory not empty"
  | badName => "embedded null byte"

/-- The root is a directory and not listed. -/
structure FileTree where
  nodes : List (List String × Node) := []
  deriving Repr, Inhabited

namespace FileTree

/-- The node at a place, which is a path without two dots in it. -/
def node? (t : FileTree) (place : List String) : Option Node :=
  if place.isEmpty then some .directory else t.nodes.lookup place

/-- Follows a path from a place. The place it leads to may be empty. -/
def follow (t : FileTree) : List String → List String → Except FileError (List String)
  | place, [] => .ok place
  | place, c :: rest =>
      match t.node? place with
      | none => .error .notFound
      | some (.file _) => .error .notADirectory
      | some .directory => follow t (if c == ".." then place.dropLast else place ++ [c]) rest

/-- The place a path leads to. No name holds a null character. -/
def locate (t : FileTree) (path : List String) : Except FileError (List String) :=
  if path.any fun c => c.toList.contains '\x00' then .error .badName else t.follow [] path

/-- The node a path leads to. -/
def at? (t : FileTree) (path : List String) : Option Node :=
  match t.locate path with
  | .ok place => t.node? place
  | .error _ => none

def holds (t : FileTree) (path : List String) : Bool := (t.at? path).isSome

def isFile (t : FileTree) (path : List String) : Bool :=
  match t.at? path with
  | some (.file _) => true
  | _ => false

def isDirectory (t : FileTree) (path : List String) : Bool :=
  match t.at? path with
  | some .directory => true
  | _ => false

/-! ### Changes -/

def put (t : FileTree) (place : List String) (n : Node) : FileTree :=
  ⟨t.nodes.filter (·.1 != place) ++ [(place, n)]⟩

def erase (t : FileTree) (place : List String) : FileTree := ⟨t.nodes.filter (·.1 != place)⟩

def makeDirectory (t : FileTree) (path : List String) : Except FileError FileTree := do
  let place ← t.locate path
  match t.node? place with
  | some _ => .error .alreadyThere
  | none => return t.put place .directory

/-- What a change came to, with the path it failed at, and the tree after it: what was changed
before a failure stays changed. -/
abbrev Outcome (α : Type) := Except (FileError × List String) α × FileTree

/-- The tree after a change that did not fail. -/
def Outcome.unlessFailed : Outcome Unit → Except FileError FileTree
  | (.ok (), t) => .ok t
  | (.error e, _) => .error e.1

/-- A directory that is there already is no error. -/
def keepDirectory (t : FileTree) (path : List String) : Except FileError FileTree → Outcome Unit
  | .ok t => (.ok (), t)
  | .error e => if t.isDirectory path then (.ok (), t) else (.error (e, path), t)

/-- Makes a directory with all those above it; the path is given last component first. -/
def makeDirectoriesReversed (t : FileTree) : List String → Outcome Unit
  | [] => (.ok (), t)
  | c :: above =>
      let path := (c :: above).reverse
      match t.makeDirectory path with
      | .error .notFound =>
          match makeDirectoriesReversed t above with
          | (.ok (), t) => keepDirectory t path (t.makeDirectory path)
          | failed => failed
      | answer => keepDirectory t path answer

def makeDirectories (t : FileTree) (path : List String) : Outcome Unit :=
  t.makeDirectoriesReversed path.reverse

def write (t : FileTree) (path : List String) (bytes : List UInt8) : Except FileError FileTree := do
  let place ← t.locate path
  match t.node? place with
  | some .directory => .error .isADirectory
  | _ => return t.put place (.file bytes)

def removeFile (t : FileTree) (path : List String) : Except FileError FileTree := do
  let place ← t.locate path
  match t.node? place with
  | none => .error .notFound
  | some .directory => .error .isADirectory
  | some (.file _) => return t.erase place

/-- The nodes below a place are those whose places continue it. -/
def isBelow (place other : List String) : Bool :=
  place.length < other.length && place.isPrefixOf other

/-- Only an empty directory can be removed. -/
def removeDirectory (t : FileTree) (path : List String) : Except FileError FileTree := do
  let place ← t.locate path
  match t.node? place with
  | none => .error .notFound
  | some (.file _) => .error .notADirectory
  | some .directory =>
      if t.nodes.any fun n => isBelow place n.1 then .error .notEmpty else return t.erase place

/-! ### Contents -/

/-- The order of paths by their components. -/
def notAfter : List String → List String → Bool
  | [], _ => true
  | _ :: _, [] => false
  | a :: as, b :: bs => if a == b then notAfter as bs else a < b

/-- The paths of everything below a directory, relative to it and in order. -/
def below (t : FileTree) (path : List String) : List (List String) :=
  match t.locate path with
  | .ok place =>
      ((t.nodes.filter fun n => isBelow place n.1).map fun n => n.1.drop place.length).mergeSort
        notAfter
  | .error _ => []

/-- The bytes of a file. -/
def read (t : FileTree) (path : List String) : Except FileError (List UInt8) := do
  let place ← t.locate path
  match t.node? place with
  | none => .error .notFound
  | some .directory => .error .isADirectory
  | some (.file bytes) => return bytes

/-- The text of a file, without bytes that are no text and with plain line ends. -/
def readLossy? (t : FileTree) (path : List String) : Option String :=
  (t.read path).toOption.map fun bytes =>
    String.ofList (Text.Utf8.plainNewlines (Text.Utf8.decodeLossy bytes).toList)

/-- Bytes as a text with plain line ends. -/
def decodeText (bytes : List UInt8) : Except Text.Utf8.Fault String := do
  return String.ofList (Text.Utf8.plainNewlines (← Text.Utf8.decode bytes).toList)

/-- Adds a file, with the directories it needs, or a directory if the path ends in a slash. -/
def add (t : FileTree) (path : String) (bytes : List UInt8) : Except FileError FileTree :=
  let parts := Path.components path
  if path.endsWith "/" then (t.makeDirectories parts).unlessFailed
  else do
    let t ← (t.makeDirectories parts.dropLast).unlessFailed
    t.write parts bytes

end FileTree

end PullReview
