import PullReview.Proofs.Duplicate.Across
import PullReview.Proofs.Table

/-!
# Remembered vectors

The vector of a symbol is remembered by the symbol's id, signature and code, but it is made from a
text that holds the return type and the parameters as well. So a symbol gets the vector of the first
symbol that was asked for with its key. Remembering makes no difference among symbols whose keys
tell their texts apart, and only there.
-/

namespace PullReview.Duplicate

/-! ### The first symbol of a key -/

/-- The first of some symbols that has the key of a symbol, or else this symbol. -/
def firstAlike (symbols : List Symbol) (s : Symbol) : Symbol :=
  (symbols.find? fun t => CacheKey.ofSymbol t = CacheKey.ofSymbol s).getD s

private theorem key_firstAlike (symbols : List Symbol) (s : Symbol) :
    CacheKey.ofSymbol (firstAlike symbols s) = CacheKey.ofSymbol s := by
  rw [firstAlike]
  cases hfind : symbols.find? fun t => CacheKey.ofSymbol t = CacheKey.ofSymbol s with
  | none => rfl
  | some t => simpa using List.find?_some hfind

private theorem firstAlike_cons (t : Symbol) (symbols : List Symbol) (s : Symbol) :
    firstAlike (t :: symbols) s =
      if CacheKey.ofSymbol t = CacheKey.ofSymbol s then t else firstAlike symbols s := by
  by_cases hkey : CacheKey.ofSymbol t = CacheKey.ofSymbol s
  · simp [firstAlike, hkey]
  · simp [firstAlike, hkey]

namespace Memory

private theorem vectorOf_remember (m : Memory) (e : Embedder) (s t : Symbol) :
    (m.remember e s).vectorOf e t =
      if CacheKey.ofSymbol s = CacheKey.ofSymbol t then m.vectorOf e s else m.vectorOf e t := by
  by_cases hkey : CacheKey.ofSymbol s = CacheKey.ofSymbol t
  · rw [if_pos hkey, vectorOf.eq_1 (m.remember e s), ← hkey, lookup_remember, Option.getD_some]
  · rw [if_neg hkey, remember]
    split
    · rfl
    · rw [vectorOf, vectorOf, List.lookup_append, Table.lookup_cons_eq, if_neg (Ne.symm hkey),
        List.lookup_nil, Option.or_none]

end Memory

namespace Detector

private theorem mapM_vectorFor_run (e : Embedder) (symbols : List Symbol) (m : Memory) :
    ((symbols.mapM (vectorFor e)).run m).1 =
      symbols.map fun s => m.vectorOf e (firstAlike symbols s) := by
  induction symbols generalizing m with
  | nil => rfl
  | cons s symbols ih =>
      have hrun : ((List.mapM (vectorFor e) (s :: symbols)).run m).1 =
          m.vectorOf e s :: ((symbols.mapM (vectorFor e)).run (m.remember e s)).1 := by
        rw [List.mapM_cons, StateT.run_bind, vectorFor_run]
        rfl
      rw [hrun, ih, List.map_cons, firstAlike_cons, if_pos rfl]
      refine congrArg (m.vectorOf e s :: ·) ?_
      apply List.map_congr_left
      intro t _
      rw [Memory.vectorOf_remember, key_firstAlike, firstAlike_cons]
      split <;> rfl

end Detector

/-! ### Memories with the symbols' own vectors -/

/-- Keys tell the vectors of some symbols apart. -/
def KeysTell (e : Embedder) (among : Symbol → Prop) : Prop :=
  ∀ a b, among a → among b → CacheKey.ofSymbol a = CacheKey.ofSymbol b →
    e.embedSymbol a = e.embedSymbol b

/-- A memory has no other vectors for some symbols than their own. -/
def Memory.IsTrue (e : Embedder) (among : Symbol → Prop) (m : Memory) : Prop :=
  ∀ s, among s → m.vectorOf e s = e.embedSymbol s

section

variable {e : Embedder} {among : Symbol → Prop}

theorem Memory.IsTrue.remember {m : Memory} (hm : m.IsTrue e among) (hkeys : KeysTell e among)
    {s : Symbol} (hs : among s) : (m.remember e s).IsTrue e among := by
  intro t ht
  rw [vectorOf_remember]
  split
  · rename_i hkey
    rw [hm s hs, hkeys s t hs ht hkey]
  · exact hm t ht

/-- Two memories with the symbols' own vectors, after the same searches. -/
structure Alike (e : Embedder) (among : Symbol → Prop) (m m' : Memory) : Prop where
  first : m.IsTrue e among
  second : m'.IsTrue e among
  searches : m.searches = m'.searches

/-- A computation that makes no difference between memories that are alike. -/
def Blind (e : Embedder) (among : Symbol → Prop) {α : Type} (x : Detect α) : Prop :=
  ∀ m m', Alike e among m m' →
    (x.run m).1 = (x.run m').1 ∧ Alike e among (x.run m).2 (x.run m').2

namespace Blind

variable {α β : Type}

theorem pure (a : α) : Blind e among (Pure.pure a) := fun _ _ h => ⟨rfl, h⟩

theorem bind {x : Detect α} {f : α → Detect β} (hx : Blind e among x)
    (hf : ∀ a, Blind e among (f a)) : Blind e among (x >>= f) := by
  intro m m' h
  obtain ⟨hresult, halike⟩ := hx m m' h
  change ((f (x.run m).1).run (x.run m).2).1 = ((f (x.run m').1).run (x.run m').2).1 ∧
    Alike e among ((f (x.run m).1).run (x.run m).2).2 ((f (x.run m').1).run (x.run m').2).2
  rw [← hresult]
  exact hf _ _ _ halike

theorem mapM {f : α → Detect β} {xs : List α} (hf : ∀ a ∈ xs, Blind e among (f a)) :
    Blind e among (xs.mapM f) := by
  induction xs with
  | nil => exact .pure []
  | cons a xs ih =>
      rw [List.forall_mem_cons] at hf
      rw [List.mapM_cons]
      exact hf.1.bind fun b => (ih hf.2).bind fun bs => .pure (b :: bs)

end Blind

end

namespace Detector

/-! ### Requests -/

/-- What a detector can be asked for. -/
inductive Request where
  | similarity (a b : Symbol)
  | withinReview (symbols : List Symbol)
  | acrossIndex (symbols : List Symbol)

def Request.symbols : Request → List Symbol
  | similarity a b => [a, b]
  | withinReview symbols => symbols
  | acrossIndex symbols => symbols

inductive Answer where
  | score (value : Float)
  | duplicates (found : List DuplicateMatch)

def answer (d : Detector) : Request → Detect Answer
  | .similarity a b => return .score (← d.score a b)
  | .withinReview symbols => return .duplicates (← d.withinReview symbols)
  | .acrossIndex symbols => return .duplicates (← d.acrossIndex symbols)

/-- The memory of a new detector after some requests. -/
def memoryOf (d : Detector) (requests : List Request) : Memory :=
  ((requests.mapM d.answer).run {}).2

section

variable {d : Detector} {e : Embedder} {among : Symbol → Prop}

private theorem vectorFor_blind (hkeys : KeysTell e among) {s : Symbol} (hs : among s) :
    Blind e among (vectorFor e s) := by
  intro m m' h
  rw [vectorFor_run, vectorFor_run]
  refine ⟨(h.first s hs).trans (h.second s hs).symm, h.first.remember hkeys hs,
    h.second.remember hkeys hs, ?_⟩
  rw [Memory.searches_remember, Memory.searches_remember, h.searches]

private theorem bySearch?_blind (hkeys : KeysTell e among) (store : NeighbourStore) {s : Symbol}
    (hs : among s) : Blind e among (d.bySearch? e store s) := by
  refine (vectorFor_blind hkeys hs).bind fun v => ?_
  cases v with
  | none => exact .pure none
  | some v =>
      intro m m' h
      refine ⟨?_, h.first, h.second, ?_⟩
      · change (store.search ⟨s, _, _, v, m.searches.length⟩).map (d.neighbourMatches s) =
          (store.search ⟨s, _, _, v, m'.searches.length⟩).map (d.neighbourMatches s)
        rw [h.searches]
      · change m.searches ++ [⟨s, _, _, v, m.searches.length⟩] =
          m'.searches ++ [⟨s, _, _, v, m'.searches.length⟩]
        rw [h.searches]

private theorem mem_pairs {symbols : List Symbol} {p : Symbol × Symbol} (h : p ∈ pairs symbols) :
    p.1 ∈ symbols ∧ p.2 ∈ symbols := by
  induction symbols with
  | nil => cases h
  | cons s symbols ih =>
      rw [pairs, List.mem_append] at h
      rcases h with h | h
      · obtain ⟨t, ht, rfl⟩ := List.mem_map.mp h
        exact ⟨List.mem_cons_self, List.mem_cons_of_mem s ht⟩
      · exact ⟨List.mem_cons_of_mem s (ih h).1, List.mem_cons_of_mem s (ih h).2⟩

variable (hd : d.embedder = some e) (hkeys : KeysTell e among)

include hd hkeys

private theorem score_blind {a b : Symbol} (ha : among a) (hb : among b) :
    Blind e among (d.score a b) := by
  cases hstore : d.store with
  | none =>
      simp only [score, hd, hstore]
      exact .pure _
  | some store =>
      simp only [score, hd, hstore, embeddedScore?_eq]
      refine .bind ?_ fun score => .pure _
      exact (vectorFor_blind hkeys ha).bind fun v =>
        (vectorFor_blind hkeys hb).bind fun w => .pure _

private theorem matchWithin_blind {a b : Symbol} (ha : among a) (hb : among b) :
    Blind e among (d.matchWithin a b) := by
  rw [matchWithin]
  split
  · exact (score_blind hd hkeys ha hb).bind fun s => .pure _
  · exact .pure none

private theorem withinReview_blind {symbols : List Symbol} (h : ∀ s ∈ symbols, among s) :
    Blind e among (d.withinReview symbols) := by
  refine .bind (.mapM ?_) fun ms => .pure _
  intro p hp
  obtain ⟨hfirst, hsecond⟩ := mem_pairs hp
  exact matchWithin_blind hd hkeys (h _ hfirst) (h _ hsecond)

private theorem matchAcross_blind {s other : Symbol} (hs : among s) (hother : among other) :
    Blind e among (d.matchAcross s other) := by
  rw [matchAcross]
  split
  · exact (score_blind hd hkeys hs hother).bind fun score => .pure _
  · exact .pure none

variable (hindex : ∀ t ∈ d.index.symbols, among t)

include hindex

private theorem byComparison_blind {s : Symbol} (hs : among s) :
    Blind e among (d.byComparison s) := by
  refine .bind (.mapM ?_) fun ms => .pure _
  intro t ht
  exact matchAcross_blind hd hkeys hs (hindex t ht)

private theorem across_blind {s : Symbol} (hs : among s) : Blind e among (d.across s) := by
  have hcompared := byComparison_blind hd hkeys hindex hs
  cases hstore : d.store with
  | none =>
      simp only [across, hd, hstore]
      exact hcompared
  | some store =>
      simp only [across, hd, hstore]
      split
      · refine (bySearch?_blind hkeys store hs).bind fun found => ?_
        cases found with
        | none => exact hcompared
        | some ms => exact .pure ms
      · exact hcompared

/-- One step: a request on some symbols is answered alike and leaves memories alike. -/
theorem answer_blind {r : Request} (h : ∀ s ∈ r.symbols, among s) : Blind e among (d.answer r) := by
  cases r with
  | similarity a b =>
      exact (score_blind hd hkeys (h a (by simp [Request.symbols]))
        (h b (by simp [Request.symbols]))).bind fun score => .pure _
  | withinReview symbols => exact (withinReview_blind hd hkeys h).bind fun ms => .pure _
  | acrossIndex symbols =>
      refine .bind (.bind (.mapM ?_) fun ms => .pure _) fun ms => .pure _
      intro s hs
      exact across_blind hd hkeys hindex (h s hs)

/-- A run: requests on some symbols leave their own vectors in the memory. -/
theorem memoryOf_isTrue {requests : List Request}
    (h : ∀ r ∈ requests, ∀ s ∈ r.symbols, among s) : (d.memoryOf requests).IsTrue e among := by
  have hblind : Blind e among (requests.mapM d.answer) := .mapM fun r hr =>
    answer_blind hd hkeys hindex (h r hr)
  exact (hblind {} {} ⟨fun _ _ => rfl, fun _ _ => rfl, rfl⟩).2.first

end

/-! ### Where remembering makes no difference -/

/-- Keys tell the texts of some symbols apart. -/
def KeysTellTexts (among : Symbol → Prop) : Prop :=
  ∀ a b, among a → among b → CacheKey.ofSymbol a = CacheKey.ofSymbol b →
    Embedding.symbolText a = Embedding.symbolText b

private theorem KeysTellTexts.keysTell {among : Symbol → Prop} (h : KeysTellTexts among)
    (e : Embedder) : KeysTell e among := by
  intro a b ha hb hkey
  rw [Embedder.embedSymbol, Embedder.embedSymbol, h a b ha hb hkey]

private theorem score_run_memory {d : Detector} {e : Embedder} {store : NeighbourStore}
    (hd : d.embedder = some e) (hstore : d.store = some store) (a b : Symbol) (m : Memory) :
    ((d.score a b).run m).2 = (m.remember e a).remember e b := by
  simp only [score, hd, hstore, embeddedScore?_eq]
  change ((vectorFor e b).run ((vectorFor e a).run m).2).2 = _
  rw [vectorFor_run, vectorFor_run]

/-- Embeds one text and fails at all others. -/
def embedderOf (text : String) : Embedder where
  key := "one"
  embed t := if t = text then some [1.0] else none

/-- A detector with an embedder. -/
def withEmbedder (d : Detector) (e : Embedder) : Detector := { d with embedder := some e }

/-- Requests on symbols of a set only. -/
def AreOn (among : Symbol → Prop) (requests : List Request) : Prop :=
  ∀ r ∈ requests, ∀ s ∈ r.symbols, among s

private theorem vectorFor_after_other {d : Detector} {store : NeighbourStore}
    (hstore : d.store = some store) {a b : Symbol}
    (hkey : CacheKey.ofSymbol a = CacheKey.ofSymbol b)
    (htext : Embedding.symbolText a ≠ Embedding.symbolText b) :
    let e := embedderOf (Embedding.symbolText a)
    ((vectorFor e b).run ((d.withEmbedder e).memoryOf [.similarity a a])).1 ≠ e.embedSymbol b := by
  intro e
  have hmemory : (d.withEmbedder e).memoryOf [.similarity a a] =
      (({} : Memory).remember e a).remember e a :=
    score_run_memory (d := d.withEmbedder e) rfl hstore a a {}
  have hother : e.embedSymbol a = some (Embedding.unit [1.0]) := by
    simp [Embedder.embedSymbol, e, embedderOf]
  have hown : e.embedSymbol b = none := by
    simp [Embedder.embedSymbol, e, embedderOf, Ne.symm htext]
  rw [hmemory, vectorFor_run, Memory.vectorOf_remember, if_pos hkey, Memory.vectorOf_remember,
    if_pos rfl, hown]
  change e.embedSymbol a ≠ none
  rw [hother]
  exact Option.some_ne_none _

/-- A symbol gets the vector of the first symbol of its key. All symbols of a set get their own
vectors from every embedder and after all requests on the set if and only if their keys tell their
texts; and the answers then do not depend on the requests before. -/
theorem vectors_own_iff (d : Detector) (store : NeighbourStore) (hstore : d.store = some store)
    (among : Symbol → Prop) (hindex : ∀ t ∈ d.index.symbols, among t) :
    (∀ (e : Embedder) (symbols : List Symbol), ((symbols.mapM (vectorFor e)).run {}).1 =
      symbols.map fun s => e.embedSymbol (firstAlike symbols s)) ∧
    ((∀ e requests, AreOn among requests → ∀ s, among s →
        ((vectorFor e s).run ((d.withEmbedder e).memoryOf requests)).1 = e.embedSymbol s) ↔
      KeysTellTexts among) ∧
    (KeysTellTexts among → ∀ e requests r, AreOn among requests → AreOn among [r] →
      let m := (d.withEmbedder e).memoryOf requests
      (((d.withEmbedder e).answer r).run m).1 =
        (((d.withEmbedder e).answer r).run { searches := m.searches }).1) := by
  refine ⟨fun e symbols => mapM_vectorFor_run e symbols {}, ⟨?_, ?_⟩, ?_⟩
  · intro hown a b ha hb hkey
    refine Decidable.byContradiction fun htext => ?_
    refine vectorFor_after_other hstore hkey htext (hown _ _ ?_ b hb)
    intro r hr s hs
    obtain rfl := List.mem_singleton.mp hr
    obtain rfl : s = a := by simpa [Request.symbols] using hs
    exact ha
  · intro htexts e requests hrequests s hs
    rw [vectorFor_run]
    exact memoryOf_isTrue (d := d.withEmbedder e) rfl (htexts.keysTell e) hindex hrequests s hs
  · intro htexts e requests r hrequests hr m
    have hkeys := htexts.keysTell e
    have htrue : m.IsTrue e among :=
      memoryOf_isTrue (d := d.withEmbedder e) rfl hkeys hindex hrequests
    have hblind := answer_blind (d := d.withEmbedder e) rfl hkeys hindex
      (hr r (List.mem_singleton.mpr rfl))
    exact (hblind m { searches := m.searches } ⟨htrue, fun _ _ => rfl, rfl⟩).1

/-! ### Two constants in one line -/

/-- A constant that is defined twice in one line, once with each of two types. -/
def limitOf (type : String) : Symbol where
  name := "LIMIT"
  kind := "field"
  file := "a.py"
  startLine := 1
  endLine := 1
  returnType := some type
  code := some "LIMIT: int = 1; LIMIT: str = ''"

/-- A constant of a type in another file. -/
def capOf (type : String) : Symbol where
  name := "CAP"
  kind := "field"
  file := "b.py"
  startLine := 1
  endLine := 1
  returnType := some type

/-- Embeds the constants by their types. -/
def typeEmbedder : Embedder where
  key := "types"
  embed text :=
    if text == Embedding.symbolText (limitOf "int") then some [1.0, 0.0] else some [0.0, 1.0]

def emptyStore : NeighbourStore where
  rows := 0
  search _ := none

/-- Some constants are in the index, and the store is empty. -/
def limitDetector (constants : List Symbol) : Detector where
  index := ({} : Index).add "a.py" constants []
  store := some emptyStore

/-- The first constant as it is after two lines have been put into its definition. -/
def longLimit : Symbol := { limitOf "int" with endLine := 3 }

theorem longer_constant_keeps_vector :
    let among (s : Symbol) : Prop := s = limitOf "int" ∨ s = longLimit
    let d := limitDetector [limitOf "int"]
    d.store = some emptyStore ∧ (∀ t ∈ d.index.symbols, among t) ∧ KeysTellTexts among ∧
      CacheKey.ofSymbol (limitOf "int") = CacheKey.ofSymbol longLimit ∧
      ((vectorFor typeEmbedder longLimit).run
        ((d.withEmbedder typeEmbedder).memoryOf [.withinReview [limitOf "int", longLimit]])).1 =
          typeEmbedder.embedSymbol longLimit := by
  intro among d
  have hindex : ∀ t ∈ d.index.symbols, among t := fun t ht => .inl (List.mem_singleton.mp ht)
  have htexts : KeysTellTexts among := by
    rintro a b (rfl | rfl) (rfl | rfl) _ <;> rfl
  refine ⟨rfl, hindex, htexts, rfl, ?_⟩
  refine (vectors_own_iff d emptyStore rfl among hindex).2.1.mpr htexts typeEmbedder _ ?_ longLimit
    (.inr rfl)
  intro r hr s hs
  obtain rfl := List.mem_singleton.mp hr
  simpa [Request.symbols] using hs

theorem second_constant_gets_first_vector :
    let d := (limitDetector [limitOf "int", limitOf "str"]).withEmbedder typeEmbedder
    CacheKey.ofSymbol (limitOf "int") = CacheKey.ofSymbol (limitOf "str") ∧
      ((vectorFor typeEmbedder (limitOf "str")).run
        ((vectorFor typeEmbedder (limitOf "int")).run {}).2).1 =
          typeEmbedder.embedSymbol (limitOf "int") ∧
      typeEmbedder.embedSymbol (limitOf "int") ≠ typeEmbedder.embedSymbol (limitOf "str") ∧
      typeEmbedder.embedSymbol (limitOf "str") = typeEmbedder.embedSymbol (capOf "str") ∧
      ((d.acrossIndex [capOf "str"]).run {}).1.length = 0 ∧
      ((d.score (capOf "str") (limitOf "str")).run {}).1 > d.limits.acrossIndex := by
  intro d
  have hkey : CacheKey.ofSymbol (limitOf "int") = CacheKey.ofSymbol (limitOf "str") := by
    decide +kernel
  refine ⟨hkey, ?_, by decide +kernel, by decide +kernel, by decide +kernel, by decide +kernel⟩
  rw [vectorFor_run, vectorFor_run, Memory.vectorOf_remember, if_pos hkey]
  rfl

end Detector

end PullReview.Duplicate
