/-!
# Ordered tables

A finite map from texts that remembers the order in which its keys were first inserted.
-/

namespace PullReview

structure Table (α : Type) where
  entries : List (String × α) := []
  deriving Repr

namespace Table

variable {α : Type}

instance : Inhabited (Table α) := ⟨{}⟩

def get? (t : Table α) (key : String) : Option α := t.entries.lookup key

def contains (t : Table α) (key : String) : Bool := t.entries.any (·.1 == key)

def keys (t : Table α) : List String := t.entries.map Prod.fst

def size (t : Table α) : Nat := t.entries.length

def alterEntries (key : String) (f : Option α → α) : List (String × α) → List (String × α)
  | [] => [(key, f none)]
  | e :: rest => if e.1 == key then (key, f (some e.2)) :: rest else e :: alterEntries key f rest

/-- Sets the value of a key from its old value. An old key keeps its place, a new one goes last. -/
def alter (t : Table α) (key : String) (f : Option α → α) : Table α :=
  ⟨alterEntries key f t.entries⟩

def insert (t : Table α) (key : String) (value : α) : Table α := t.alter key fun _ => value

def ofList (entries : List (String × α)) : Table α :=
  entries.foldl (fun t e => t.insert e.1 e.2) {}

end Table

/-- The distinct texts of a list, in the order of their first occurrence. -/
def distinct (xs : List String) : List String :=
  xs.foldl (fun seen x => if seen.contains x then seen else seen ++ [x]) []

end PullReview
