import PullReview.Embedding
import PullReview.Number.Binary64
import PullReview.Symbol.Record

/-!
# Stored embeddings

A store keeps one row for every embedded symbol, with the symbol as a record and its vector in
single precision. A search returns the rows of highest cosine, best first.
-/

namespace PullReview

namespace Ranking

variable {ρ σ : Type}

/-- The first `limit` items in the order of falling scores. -/
def best (less : σ → σ → Bool) (limit : Nat) (items : List (ρ × σ)) : List (ρ × σ) :=
  (items.mergeSort fun a b => !less a.2 b.2).take limit

/-- The items whose score is not below `least`. -/
def atLeast (less : σ → σ → Bool) (least : σ) (items : List (ρ × σ)) : List (ρ × σ) :=
  items.filter fun r => !less r.2 least

/-- The best items that are not `own`: one more is looked at than is asked for. -/
def others (less : σ → σ → Bool) (own : ρ → Bool) (limit : Nat) (least : σ)
    (items : List (ρ × σ)) : List (ρ × σ) :=
  ((atLeast less least (best less (limit + 1) items)).filter fun r => !own r.1).take limit

end Ranking

namespace Embedding

structure Row where
  id : String
  vector : List Float
  record : String
  deriving Repr

namespace Row

def ofSymbol (s : Symbol) (vector : List Float) : Row where
  id := s.id
  vector := vector.map Number.single
  record := (Symbol.toJson s).compact

/-- The symbol of a row, read from its record. Any limit there is was kept when that was written. -/
def symbol? (r : Row) : Option Symbol := Symbol.ofRecord? none r.record

/-- One less the distance of a row from a vector, which is kept in single precision. -/
def score (query : List Float) (r : Row) : Float :=
  let q := query.map Number.single
  1.0 - Number.single (1.0 - dot q r.vector / (norm q * norm r.vector))

end Row

/-- A store, empty until the first rows fix the length of its vectors. -/
structure Store where
  table : Option (Nat × List Row) := none
  deriving Repr, Inhabited

inductive StoreError where
  | tooManyDigits
  | wrongLength
  | noLimit
  deriving DecidableEq, Repr

namespace Store

def rows (s : Store) : List Row := (s.table.map (·.2)).getD []

def count (s : Store) : Nat := s.rows.length

def clear (_ : Store) : Store := {}

/-- Writes a batch, which replaces the rows with its ids; the first batch is taken as it is. The
old rows are gone before the lengths of the new vectors are looked at. -/
def write (s : Store) (batch : List (Symbol × List Float)) : Except StoreError Unit × Store :=
  match batch with
  | [] => (.ok (), s)
  | e :: _ =>
      let added := batch.map fun b => Row.ofSymbol b.1 b.2
      match s.table with
      | none =>
          if batch.all fun b => b.2.length == e.2.length then
            (.ok (), ⟨some (e.2.length, added)⟩)
          else (.error .wrongLength, s)
      | some (length, old) =>
          let kept := old.filter fun r => !added.any (·.id == r.id)
          if batch.all fun b => b.2.length == length then
            (.ok (), ⟨some (length, kept ++ added)⟩)
          else (.error .wrongLength, ⟨some (length, kept)⟩)

def vector? (s : Store) (x : Symbol) : Option (List Float) :=
  (s.rows.find? (·.id == x.id)).map (·.vector)

def below (a b : Float) : Bool := a < b

/-- The rows a search may look at, with their scores. -/
def scored (s : Store) (query : List Float) (limit : Int) :
    Except StoreError (List (Row × Float)) :=
  match s.table with
  | none => .ok []
  | some (length, rows) =>
      if query.isEmpty then .ok []
      else if limit ≤ 0 then .error .noLimit
      else if query.length != length then .error .wrongLength
      else .ok (rows.map fun r => (r, r.score query))

def symbols (found : List (Row × Float)) : List (Symbol × Float) :=
  found.filterMap fun r => r.1.symbol?.map fun s => (s, r.2)

/-- The symbols nearest to a vector whose score is at least `least`. -/
def similar (s : Store) (query : List Float) (limit : Int) (least : Float) :
    Except StoreError (List (Symbol × Float)) := do
  let rows ← s.scored query limit
  return symbols (Ranking.atLeast below least (Ranking.best below limit.toNat rows))

/-- The neighbours of a symbol other than itself, by its stored vector unless one is given. -/
def similarTo (s : Store) (x : Symbol) (limit : Int) (least : Float)
    (query : Option (List Float)) : Except StoreError (List (Symbol × Float)) :=
  match query <|> s.vector? x with
  | none => .ok []
  | some query => do
      let rows ← s.scored query (limit + 1)
      return symbols (Ranking.others below (fun r => r.id == x.id) limit.toNat least rows)

end Store

/-- All rows as records. -/
def Store.toJson (s : Store) : Json :=
  .arr (s.rows.map fun r =>
    .obj [("id", .str r.id), ("vector", .arr (r.vector.map .float)), ("symbol", .str r.record)])

/-! ### Stores on disk -/

/-- The stores under a set of directories, each by its directory and table. A directory may be
blocked by a file in the place where its stores would go. -/
structure Shelf where
  blocked : List String := []
  tables : List ((String × String) × Store) := []
  deriving Inhabited

namespace Shelf

def missingMessage : String := "lancedb is not installed. Install with: pip install lancedb pyarrow"

/-- Every model has a table of its own. -/
def tableName (modelKey : String) : String :=
  if modelKey == "" then "symbols" else "symbols_" ++ modelKey

def open? (s : Shelf) (dir modelKey : String) : Option Store :=
  if s.blocked.contains dir then none
  else some ((s.tables.lookup (dir, tableName modelKey)).getD {})

def save (s : Shelf) (dir modelKey : String) (store : Store) : Shelf :=
  let key := (dir, tableName modelKey)
  { s with tables := (key, store) :: s.tables.filter (·.1 != key) }

end Shelf

end Embedding

end PullReview
