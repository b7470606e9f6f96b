import PullReview.Text.Search
import PullReview.Toml.Value

/-!
# Writing configuration files

First come the plain values of a table, then the tables in it, level by level, each under its full
name. Keys and values keep their order; a value that is missing is left out.
-/

namespace PullReview.Toml

/-- A text that cannot be written: it starts with an escape of two digits. -/
inductive WriteFault where
  | leadingEscape
  deriving DecidableEq, Repr

def WriteFault.message : WriteFault → String
  | leadingEscape => "list index out of range"

/-- A text cut at every escape of two hexadecimal digits, the mark itself left out. -/
def escapeParts : List Char → List (List Char)
  | [] => [[]]
  | '\\' :: 'x' :: rest => [] :: escapeParts rest
  | c :: rest =>
      match escapeParts rest with
      | part :: parts => (c :: part) :: parts
      | [] => [[c]]

/-- One backslash for every two. -/
def halveBackslashes : List Char → List Char
  | '\\' :: '\\' :: rest => '\\' :: halveBackslashes rest
  | c :: rest => c :: halveBackslashes rest
  | [] => []

/-- The mark between two parts: the long form of an escape after an odd number of backslashes. A
part of backslashes only does not count its first. -/
def joint (part : List Char) : List Char :=
  let backslashes := (part.reverse.takeWhile (· == '\\')).length
  let counted := if backslashes == part.length then backslashes - 1 else backslashes
  if backslashes == 0 then ['x']
  else if counted % 2 == 1 then ['x'] else ['u', '0', '0']

/-- Joins the parts of a text again. -/
def joinParts : Nat → List (List Char) → Except WriteFault (List Char)
  | _, [] => .ok []
  | _, [part] => .ok part
  | 0, part :: _ => .ok part
  | fuel + 1, part :: next :: rest =>
      match part, next, rest with
      | [], _, [] => .error .leadingEscape
      | [], next, third :: rest =>
          let part := halveBackslashes next
          if part.isEmpty then .error .leadingEscape
          else joinParts fuel ((part ++ joint part ++ third) :: rest)
      | part, next, rest =>
          let part := halveBackslashes part
          joinParts fuel ((part ++ joint part ++ next) :: rest)

/-- The inner text of a quotation, with double quotes escaped and single ones not. -/
def quotedBody (s : String) : List Char :=
  let cs := (Text.quote s).toList
  let body := (cs.drop 1).dropLast
  if cs.head? == some '\'' then escapeDouble body else body
where
  escapeDouble : List Char → List Char
    | '\\' :: '\'' :: rest => '\'' :: escapeDouble rest
    | '\\' :: c :: rest => '\\' :: c :: escapeDouble rest
    | '"' :: rest => '\\' :: '"' :: escapeDouble rest
    | c :: rest => c :: escapeDouble rest
    | [] => []

def quoted (s : String) : Except WriteFault String := do
  let parts := escapeParts (quotedBody s)
  let cs ← joinParts parts.length parts
  return "\"" ++ String.ofList cs ++ "\""

/-- A double with an exponent of no leading zero. -/
def floatText (x : Float) : String :=
  String.ofList (shortExponent (Number.plain x).toList)
where
  shortExponent : List Char → List Char
    | 'e' :: '+' :: '0' :: rest => 'e' :: '+' :: rest
    | 'e' :: '-' :: '0' :: rest => 'e' :: '-' :: rest
    | c :: rest => c :: shortExponent rest
    | [] => []

mutual

/-- A value on the right of a key. -/
def value : Value → Except WriteFault String
  | .null => .ok "\"None\""
  | .bool b => .ok (if b then "true" else "false")
  | .int n => .ok (toString n)
  | .float x => .ok (floatText x)
  | .str s => quoted s
  | .moment m => .ok m.text
  | .arr items => do return "[" ++ String.join (← values items) ++ "]"
  | .obj members => do return "[" ++ String.join (← names members) ++ "]"

def values : List Value → Except WriteFault (List String)
  | [] => .ok []
  | v :: rest => do return (" " ++ (← value v) ++ ",") :: (← values rest)

def names : Members → Except WriteFault (List String)
  | [] => .ok []
  | (key, _) :: rest => do return (" " ++ (← quoted key) ++ ",") :: (← names rest)

end

def isBareKey (key : String) : Bool :=
  key != "" && key.toList.all fun c => c.isAlphanum || c == '_' || c == '-'

def keyText (key : String) : Except WriteFault String :=
  if isBareKey key then .ok key else quoted key

def isTable : Value → Bool
  | .obj _ => true
  | _ => false

/-- The tables of a level with their full names. -/
abbrev Tables := List (String × Members)

def assignment (key : String) (v : Value) : Except WriteFault String := do
  return (← keyText key) ++ " = " ++ (← value v) ++ "\n"

/-- The line of a plain value; tables and lists of tables have none. -/
def plainLine (key : String) : Value → Except WriteFault String
  | .null | .obj _ => .ok ""
  | .arr items => if items.any isTable then .ok "" else assignment key (.arr items)
  | v => assignment key v

/-- The lines of the plain values of a table. -/
def plainLines (members : Members) : Except WriteFault String := do
  return String.join (← members.mapM fun m => plainLine m.1 m.2)

def subtable? (key : String) : Value → Except WriteFault (Option (String × Members))
  | .obj inner => do return some (← keyText key, inner)
  | _ => .ok none

def subtables (members : Members) : Except WriteFault Tables :=
  members.filterMapM fun m => subtable? m.1 m.2

/-- The text of a table under its name, and the tables in it. -/
abbrev Body := String → Members → Except WriteFault (String × Tables)

/-- A table in an item of a list of tables. One without values has no header. -/
def itemTable (body : Body) (t : String × Members) :
    Except WriteFault (String × Tables) := do
  let (text, inner) ← body t.1 t.2
  return (if text == "" then "" else "[" ++ t.1 ++ "]\n" ++ text, inner)

/-- The tables in an item of a list of tables, level by level. -/
def itemTables (body : Body) : Nat → Tables → Except WriteFault String
  | 0, _ => .ok ""
  | depth + 1, tables => do
      let found ← tables.mapM (itemTable body)
      return String.join (found.map (·.1)) ++ (← itemTables body depth (found.flatMap (·.2)))

/-- What stands in an item of a list of tables. A value among the tables is left out. -/
def itemBody (body : Body) (name : String) : Value → Except WriteFault (String × Tables)
  | .obj members => body name members
  | _ => .ok ("", [])

/-- An item of a list of tables, under a double header. -/
def tableItem (body : Body) (depth : Nat) (name : String) (item : Value) :
    Except WriteFault String := do
  let (text, tables) ← itemBody body name item
  let inner ← itemTables body depth tables
  let text := if text.startsWith "[" then "\n" ++ text else text ++ "\n"
  return "[[" ++ name ++ "]]\n" ++ text ++ inner

/-- A list of tables. Other values have no text of this kind. -/
def tableList (body : Body) (depth : Nat) (above key : String) : Value → Except WriteFault String
  | .arr items =>
      if items.any isTable then do
        let name := above ++ (← keyText key)
        return String.join (← items.mapM (tableItem body depth name))
      else .ok ""
  | _ => .ok ""

/-- What stands under the header of a table, and the tables that follow it. -/
def tableBody : Nat → Body
  | 0, _, _ => .ok ("", [])
  | depth + 1, name, members => do
      let above := if name == "" then "" else name ++ "."
      let lists ← members.mapM fun m => tableList (tableBody depth) depth above m.1 m.2
      let inner ← subtables members
      return ((← plainLines members) ++ String.join lists,
        inner.map fun t => (above ++ t.1, t.2))

/-- Adds a table to the text so far, after an empty line. A table that only holds tables has no
header. -/
def addTable (body : Body) (state : String × Tables) (t : String × Members) :
    Except WriteFault (String × Tables) := do
  let (text, next) := state
  let (own, inner) ← body t.1 t.2
  let text :=
    if own != "" || inner.isEmpty then
      (if text != "" && !text.endsWith "\n\n" then text ++ "\n" else text) ++ "[" ++ t.1 ++ "]\n" ++
        own
    else text
  return (text, next ++ inner)

/-- Writes the tables level by level. -/
def addLevels (body : Body) : Nat → String → Tables → Except WriteFault String
  | _, text, [] => .ok text
  | 0, text, _ => .ok text
  | depth + 1, text, tables => do
      let (text, next) ← tables.foldlM (addTable body) (text, [])
      addLevels body depth text next

mutual

/-- How deep values lie in one another. -/
def depth : Value → Nat
  | .arr items => itemsDepth items + 1
  | .obj members => membersDepth members + 1
  | _ => 0

def itemsDepth : List Value → Nat
  | [] => 0
  | v :: rest => max (depth v) (itemsDepth rest)

def membersDepth : Members → Nat
  | [] => 0
  | m :: rest => max (depth m.2) (membersDepth rest)

end

/-- The text of a configuration. -/
def render (members : Members) : Except WriteFault String := do
  let levels := depth (.obj members)
  let (text, tables) ← tableBody levels "" members
  addLevels (tableBody levels) levels text tables

end PullReview.Toml
