import PullReview.FileTree
import PullReview.Json.Reader
import PullReview.Json.Writer

/-!
# Projects

Every project has a directory in the memory of the program, with a record that describes it. A
project's name is a path from there.
-/

namespace PullReview.Project

def recordName : String := "project.json"

/-- The directory of a project. -/
def directory (memory : List String) (name : String) : List String :=
  if Path.isAbsolute name then Path.components name else memory ++ Path.components name

/-- The name of the project that a directory holds: its last component, with blanks filled. -/
def nameOfPath (path : String) : String :=
  Text.replaceChar ' ' '_' ((Path.destination (Path.components path)).getLast?.getD "")

/-- The projects, by name. -/
def names (memory : List String) (t : FileTree) : List String :=
  ((t.below memory).filter fun p => p.length == 1 && t.isDirectory (memory ++ p)).flatten

def create (memory : List String) (t : FileTree) (name : String) : FileTree.Outcome Unit :=
  t.makeDirectories (directory memory name)

/-- Why a project's record cannot be read. -/
inductive Fault where
  | file (error : FileError)
  | undecodable (fault : Text.Utf8.Fault)
  | tooManyDigits (fault : Number.TooManyDigits)

/-- The record of a project. One that is missing, or is no JSON, counts as empty. -/
def record (memory : List String) (t : FileTree) (name : String) : Except Fault Json :=
  let path := directory memory name ++ [recordName]
  if t.holds path then do
    let bytes ← (t.read path).mapError .file
    let text ← (FileTree.decodeText bytes).mapError .undecodable
    match Json.read text with
    | .ok j => return j
    | .error (.tooManyDigits f) => .error (.tooManyDigits f)
    | .error _ => return .obj []
  else .ok (.obj [])

def setRecord (memory : List String) (t : FileTree) (name : String) (j : Json) :
    FileTree.Outcome Unit :=
  match create memory t name with
  | (.ok (), t) =>
      let path := directory memory name ++ [recordName]
      match t.write path j.indented.toUTF8.toList with
      | .ok t => (.ok (), t)
      | .error e => (.error (e, path), t)
  | failed => failed

/-! ### Deletion -/

/-- Removes what a path leads to, if it leads anywhere. -/
def removeAt (t : FileTree) (path : List String) : Except FileError FileTree :=
  if t.isFile path then t.removeFile path
  else if t.isDirectory path then t.removeDirectory path
  else .ok t

/-- Removes one path after another, up to the first that cannot be removed. -/
def removeAll (t : FileTree) : List (List String) → FileTree.Outcome Unit
  | [] => (.ok (), t)
  | path :: rest =>
      match removeAt t path with
      | .ok t => removeAll t rest
      | .error e => (.error (e, path), t)

/-- Deletes a project with everything below it, the last paths first. The answer says whether it was
there; what was removed before a failure stays removed. -/
def delete (memory : List String) (t : FileTree) (name : String) : FileTree.Outcome Bool :=
  let path := directory memory name
  if t.holds path then
    match removeAll t ((t.below path).reverse.map (path ++ ·)) with
    | (.error e, t) => (.error e, t)
    | (.ok (), t) =>
        match t.removeDirectory path with
        | .ok t => (.ok true, t)
        | .error e => (.error (e, path), t)
  else (.ok false, t)

end PullReview.Project
