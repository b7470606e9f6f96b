import PullReview.Embedding.Store
import PullReview.Index
import PullReview.Similarity

/-!
# Duplicates

Symbols that are nearly alike, within a set of changes and between it and the index. The score of
two symbols is the cosine of their vectors if both can be embedded, and their structural similarity
otherwise. The vector of a symbol is computed once and remembered by the symbol's identity,
signature and code.
-/

namespace PullReview

inductive DuplicateKind where
  | exact
  | similar
  | other (word : String)
  deriving DecidableEq, Repr, Inhabited

namespace DuplicateKind

def word : DuplicateKind → String
  | exact => "exact"
  | similar => "similar"
  | other w => w

def ofWord (w : String) : DuplicateKind :=
  if w == "exact" then exact else if w == "similar" then similar else other w

end DuplicateKind

structure DuplicateMatch where
  first : Symbol
  second : Symbol
  similarity : Float
  kind : DuplicateKind
  reason : String
  deriving Repr, Inhabited

namespace Duplicate

/-- Scores count if they are strictly above the limits. -/
structure Limits where
  withinReview : Float := 0.8
  acrossIndex : Float := 0.7
  vector : Float := 0.75
  exact : Float := 0.95
  neighbours : Int := 10
  deriving Repr, Inhabited

/-- A search for the neighbours of a symbol, the one after `number` others. -/
structure Query where
  symbol : Symbol
  limit : Int
  least : Float
  vector : List Float
  number : Nat := 0
  deriving Repr

/-- A store that answers searches, or fails to; one question asked twice may be answered
differently. -/
structure NeighbourStore where
  rows : Int
  search : Query → Option (List (Symbol × Float))

/-- The searches of a store of embeddings. -/
def NeighbourStore.ofStore (s : Embedding.Store) : NeighbourStore where
  rows := s.count
  search q := (s.similarTo q.symbol q.limit q.least (some q.vector)).toOption

structure Detector where
  index : Index := {}
  embedder : Option Embedder := none
  store : Option NeighbourStore := none
  skipOtherLanguages : Bool := true
  limits : Limits := {}

/-- What a vector is remembered by. -/
structure CacheKey where
  id : String
  signature : Option String
  code : Option String
  deriving DecidableEq, Repr

def CacheKey.ofSymbol (s : Symbol) : CacheKey := ⟨s.id, s.signature, s.code⟩

/-- The vectors computed so far and the searches made so far. -/
structure Memory where
  vectors : List (CacheKey × Option (List Float)) := []
  searches : List Query := []
  deriving Inhabited

abbrev Detect := StateM Memory

namespace Detector

def vectorFor (e : Embedder) (s : Symbol) : Detect (Option (List Float)) := do
  let memory ← get
  match memory.vectors.lookup (CacheKey.ofSymbol s) with
  | some v => return v
  | none =>
      let v := e.embedSymbol s
      set { memory with vectors := memory.vectors ++ [(CacheKey.ofSymbol s, v)] }
      return v

/-- The cosine of two symbols' vectors, not below zero. -/
def embeddedScore? (e : Embedder) (a b : Symbol) : Detect (Option Float) := do
  let v ← vectorFor e a
  let w ← vectorFor e b
  match v, w with
  | some v, some w =>
      let c := Embedding.cosine v w
      return some (if c > 0.0 then c else 0.0)
  | _, _ => return none

def structuralScore (a b : Symbol) : Float := (Similarity.structural a b).toFloat

/-- Embeddings take part only where there is a store as well. -/
def score (d : Detector) (a b : Symbol) : Detect Float := do
  match d.embedder, d.store with
  | some e, some _ => return (← embeddedScore? e a b).getD (structuralScore a b)
  | _, _ => return structuralScore a b

def comparable (d : Detector) (a b : Symbol) : Bool :=
  a.kind == b.kind && !(d.skipOtherLanguages && Similarity.languagesDiffer a b)

def found (d : Detector) (a b : Symbol) (score : Float) (reason : String) : DuplicateMatch where
  first := a
  second := b
  similarity := score
  kind := if score > d.limits.exact then .exact else .similar
  reason := reason

/-! ### Within a review -/

def withinReason (a b : Symbol) : String :=
  if a.signature.any (· != "") && a.signature == b.signature then
    "Exact duplicate: " ++ a.kind ++ " with same signature"
  else if a.name == b.name then "Duplicate " ++ a.kind ++ " name: " ++ a.name
  else "Similar " ++ a.kind ++ " pattern"

/-- One declaration found twice is no duplicate of itself. -/
def sameDeclaration (a b : Symbol) : Bool :=
  a.file == b.file && a.name == b.name && a.signature == b.signature

def matchWithin (d : Detector) (a b : Symbol) : Detect (Option DuplicateMatch) := do
  if d.comparable a b && !sameDeclaration a b then
    let s ← d.score a b
    return if s > d.limits.withinReview then some (d.found a b s (withinReason a b)) else none
  else return none

/-- Every two entries of a list, in order. -/
def pairs {α : Type} : List α → List (α × α)
  | [] => []
  | a :: rest => rest.map (fun b => (a, b)) ++ pairs rest

def withinReview (d : Detector) (symbols : List Symbol) : Detect (List DuplicateMatch) := do
  let ms ← (pairs symbols).mapM fun p => d.matchWithin p.1 p.2
  return ms.filterMap id

/-! ### Against the index -/

def acrossReason (other : Symbol) : String :=
  "Similar to existing " ++ other.kind ++ " in " ++ other.file

def isIndexed (d : Detector) (s : Symbol) : Bool :=
  (d.index.fileSymbols s.file).any fun t => t.id == s.id

def comparesAcross (d : Detector) (s other : Symbol) : Bool :=
  other.file != s.file && d.comparable s other

/-- The matches among the neighbours that a store returned for a symbol. -/
def neighbourMatches (d : Detector) (s : Symbol) (neighbours : List (Symbol × Float)) :
    List DuplicateMatch :=
  neighbours.filterMap fun n =>
    if d.comparesAcross s n.1 && d.isIndexed n.1 && n.2 > d.limits.vector then
      some (d.found s n.1 n.2 (acrossReason n.1))
    else none

/-- Asks the store; there is no answer without a vector, or if the search fails. -/
def bySearch? (d : Detector) (e : Embedder) (store : NeighbourStore) (s : Symbol) :
    Detect (Option (List DuplicateMatch)) := do
  match ← vectorFor e s with
  | none => return none
  | some v =>
      let memory ← get
      let q : Query := ⟨s, d.limits.neighbours, d.limits.vector, v, memory.searches.length⟩
      set { memory with searches := memory.searches ++ [q] }
      return (store.search q).map (d.neighbourMatches s)

def matchAcross (d : Detector) (s other : Symbol) : Detect (Option DuplicateMatch) := do
  if d.comparesAcross s other then
    let score ← d.score s other
    return if score > d.limits.acrossIndex then some (d.found s other score (acrossReason other))
      else none
  else return none

def byComparison (d : Detector) (s : Symbol) : Detect (List DuplicateMatch) := do
  let ms ← d.index.symbols.mapM (d.matchAcross s)
  return ms.filterMap id

/-- The matches of one symbol, by search if the store holds anything. -/
def across (d : Detector) (s : Symbol) : Detect (List DuplicateMatch) := do
  match d.embedder, d.store with
  | some e, some store =>
      if store.rows > 0 then
        match ← d.bySearch? e store s with
        | some ms => return ms
        | none => d.byComparison s
      else d.byComparison s
  | _, _ => d.byComparison s

/-- The first match of every pair of identities. -/
def distinctMatches (ms : List DuplicateMatch) : List DuplicateMatch :=
  ms.foldl
    (fun kept m =>
      if kept.any fun k => k.first.id == m.first.id && k.second.id == m.second.id then kept
      else kept ++ [m])
    []

def acrossIndex (d : Detector) (symbols : List Symbol) : Detect (List DuplicateMatch) := do
  let ms ← symbols.mapM d.across
  return distinctMatches ms.flatten

end Detector

end Duplicate

end PullReview
