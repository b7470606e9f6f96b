import PullReview.Toml.Notation

/-!
# Reading configuration files

A file is a sequence of lines: a header opens a table, or adds one to a list of tables, and an
assignment sets a key of the table opened last. No key is set twice and no table is opened twice.
-/

namespace PullReview.Toml

private def replaceMember (ms : Members) (key : String) (v : Value) : Members :=
  ms.map fun m => if m.1 == key then (key, v) else m

/-- Changes the table at a path. Tables that are missing are made, and of a list of tables the last
one is meant. -/
def changeAt (f : Members → Option Members) : List String → Members → Option Members
  | [], ms => f ms
  | key :: path, ms =>
      match ms.lookup key with
      | none => do return ms ++ [(key, .obj (← changeAt f path []))]
      | some (.obj inner) => do return replaceMember ms key (.obj (← changeAt f path inner))
      | some (.arr items) =>
          match items.getLast? with
          | some (.obj inner) => do
              let changed ← changeAt f path inner
              return replaceMember ms key (.arr (items.dropLast ++ [.obj changed]))
          | _ => none
      | some _ => none

/-- The names on a path that are not there yet. -/
private def missingNames : List String → Members → List String
  | [], _ => []
  | key :: path, ms =>
      match ms.lookup key with
      | some (.obj inner) => missingNames path inner
      | some _ => []
      | none => key :: path

/-- What was read so far: `implied` holds the names of tables that have no header of their own
yet. -/
structure File where
  root : Members := []
  current : List String := []
  implied : List String := []

private def addKey (key : String) (v : Value) (ms : Members) : Option Members :=
  if ms.any (·.1 == key) then none else some (ms ++ [(key, v)])

def File.assign (f : File) (keys : List String) (v : Value) : Option File := do
  let key ← keys.getLast?
  let root ← changeAt (addKey key v) (f.current ++ keys.dropLast) f.root
  return { f with root := root }

/-- Opens a table under its header. -/
def File.openTable (f : File) (names : List String) : Option File := do
  let last ← names.getLast?
  let above := names.dropLast
  let wasImplied := f.implied.contains last
  let add (ms : Members) : Option Members :=
    match ms.lookup last with
    | none => some (ms ++ [(last, .obj [])])
    | some _ => if wasImplied then some ms else none
  let root ← changeAt add above f.root
  return { root := root, current := names
           implied := (f.implied ++ missingNames above f.root).erase last }

/-- Adds a table to the list under its header. -/
def File.openItem (f : File) (names : List String) : Option File := do
  let last ← names.getLast?
  let above := names.dropLast
  let add (ms : Members) : Option Members :=
    match ms.lookup last with
    | none => some (ms ++ [(last, .arr [.obj []])])
    | some (.arr items) => some (replaceMember ms last (.arr (items ++ [.obj []])))
    | some _ => none
  let root ← changeAt add above f.root
  return { root := root, current := names, implied := f.implied ++ missingNames above f.root }

/-- The end of a line: only a comment may stand there. -/
def lineEnd? (cs : List Char) : Option (List Char) :=
  match skipGaps cs with
  | [] => some []
  | '\n' :: rest => some rest
  | '#' :: rest => some ((rest.dropWhile (· != '\n')).drop 1)
  | _ => none

private def headerNames? (cs : List Char) : Option (List String × List Char) := do
  let (names, rest) ← keys? isHeaderChar (cs.length + 1) cs
  if names.all fun n => n != "" then some (names, rest) else none

/-- Reads one line, which is not empty. -/
def File.line? (f : File) (cs : List Char) : Option (File × List Char) :=
  match cs with
  | '[' :: '[' :: rest => do
      match ← headerNames? rest with
      | (names, ']' :: ']' :: rest) => return (← f.openItem names, ← lineEnd? rest)
      | _ => none
  | '[' :: rest => do
      match ← headerNames? rest with
      | (names, ']' :: rest) => return (← f.openTable names, ← lineEnd? rest)
      | _ => none
  | cs => do
      match ← keys? isKeyChar (cs.length + 1) cs with
      | (keys, '=' :: rest) => do
          let (v, rest) ← value? ['\n', '#'] (rest.length + 1) (skipGaps rest)
          return (← f.assign keys v, ← lineEnd? rest)
      | _ => none

/-- Reads all lines. Every line takes at least one character, which bounds their number. -/
def File.lines? : Nat → File → List Char → Option File
  | 0, f, _ => some f
  | fuel + 1, f, cs =>
      match skipLayout false cs with
      | [] => some f
      | cs => do
          let (f, rest) ← f.line? cs
          File.lines? fuel f rest

/-- The tables and values of a file, unless it cannot be read. -/
def read? (s : String) : Option Members :=
  let cs := s.toList
  (File.lines? (cs.length + 1) {} cs).map (·.root)

end PullReview.Toml
