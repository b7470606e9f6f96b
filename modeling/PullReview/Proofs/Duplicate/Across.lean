import PullReview.Duplicate
import PullReview.Proofs.Index

/-!
# Duplicates in the index

What the matches of a review with the index rest on. A symbol's matches are neighbours that the
store answered with, or symbols of the index that were compared with it; which of the two depends on
what the store and the embedder do for that symbol. Remembered vectors are never changed, so the
memory at the end of a run tells the vectors that were used in it.
-/

namespace PullReview.Duplicate

/-! ### Remembered vectors -/

namespace Memory

/-- The vector of a symbol: the remembered one, or else its own. -/
def vectorOf (m : Memory) (e : Embedder) (s : Symbol) : Option (List Float) :=
  (m.vectors.lookup (CacheKey.ofSymbol s)).getD (e.embedSymbol s)

/-- The memory after the vector of a symbol was asked for. -/
def remember (m : Memory) (e : Embedder) (s : Symbol) : Memory :=
  match m.vectors.lookup (CacheKey.ofSymbol s) with
  | some _ => m
  | none => { m with vectors := m.vectors ++ [(CacheKey.ofSymbol s, e.embedSymbol s)] }

/-- All vectors that are remembered stay so. -/
def Keeps (m later : Memory) : Prop :=
  ∀ key v, m.vectors.lookup key = some v → later.vectors.lookup key = some v

theorem Keeps.refl (m : Memory) : m.Keeps m := fun _ _ h => h

theorem Keeps.trans {m later last : Memory} (h : m.Keeps later) (h' : later.Keeps last) :
    m.Keeps last := fun key v hv => h' key v (h key v hv)

private theorem keeps_remember (m : Memory) (e : Embedder) (s : Symbol) :
    m.Keeps (m.remember e s) := by
  intro key v hv
  rw [remember]
  split
  · exact hv
  · rw [List.lookup_append, hv, Option.some_or]

theorem lookup_remember (m : Memory) (e : Embedder) (s : Symbol) :
    (m.remember e s).vectors.lookup (CacheKey.ofSymbol s) = some (m.vectorOf e s) := by
  rw [remember, vectorOf]
  cases hlookup : m.vectors.lookup (CacheKey.ofSymbol s) with
  | some v => exact hlookup
  | none => simp [List.lookup_append, hlookup]

theorem searches_remember (m : Memory) (e : Embedder) (s : Symbol) :
    (m.remember e s).searches = m.searches := by
  rw [remember]
  split <;> rfl

end Memory

/-- From a memory on, a computation only adds to what is remembered, and its result is what `value`
makes of any later memory. -/
structure Settles {α : Type} (x : Detect α) (m : Memory) (value : Memory → α) : Prop where
  keeps : m.Keeps (x.run m).2
  result : ∀ later, (x.run m).2.Keeps later → (x.run m).1 = value later

namespace Settles

variable {α β γ : Type}

theorem pure (a : α) (m : Memory) : Settles (Pure.pure a) m fun _ => a :=
  ⟨.refl m, fun _ _ => rfl⟩

theorem bind {x : Detect α} {f : α → Detect β} {m : Memory} {value : Memory → β}
    (hx : m.Keeps (x.run m).2) (hf : Settles (f (x.run m).1) (x.run m).2 value) :
    Settles (x >>= f) m value :=
  ⟨hx.trans hf.keeps, hf.result⟩

private theorem map₂ {x : Detect α} {y : Detect β} {m : Memory} {value : Memory → α}
    {next : Memory → β} (hx : Settles x m value) (hy : Settles y (x.run m).2 next)
    (f : α → β → γ) :
    Settles (do let a ← x; let b ← y; return f a b) m
      fun later => f (value later) (next later) := by
  refine ⟨hx.keeps.trans hy.keeps, fun later h => ?_⟩
  change f (x.run m).1 (y.run (x.run m).2).1 = _
  rw [hx.result later (hy.keeps.trans h), hy.result later h]

/-- A function of the result of a computation. -/
theorem map {x : Detect α} {m : Memory} {value : Memory → α} (hx : Settles x m value)
    (f : α → β) : Settles (do return f (← x)) m fun later => f (value later) :=
  ⟨hx.keeps, fun later h => congrArg f (hx.result later h)⟩

theorem mapM {f : α → Detect β} {value : α → Memory → β}
    (hf : ∀ a m, Settles (f a) m (value a)) (xs : List α) (m : Memory) :
    Settles (xs.mapM f) m fun later => xs.map fun a => value a later := by
  induction xs generalizing m with
  | nil => exact .pure [] m
  | cons a xs ih =>
      have ha := hf a m
      have hxs := ih ((f a).run m).2
      rw [List.mapM_cons]
      refine ⟨ha.keeps.trans hxs.keeps, fun later h => ?_⟩
      change ((f a).run m).1 :: ((xs.mapM f).run ((f a).run m).2).1 = _
      rw [ha.result later (hxs.keeps.trans h), hxs.result later h, List.map_cons]

end Settles

namespace Detector

/-! ### Scores -/

theorem vectorFor_run (e : Embedder) (s : Symbol) (m : Memory) :
    (vectorFor e s).run m = (m.vectorOf e s, m.remember e s) := by
  rw [Memory.vectorOf, Memory.remember]
  cases hlookup : m.vectors.lookup (CacheKey.ofSymbol s) <;>
    · simp [vectorFor, hlookup]
      rfl

private theorem vectorFor_settles (e : Embedder) (s : Symbol) (m : Memory) :
    Settles (vectorFor e s) m fun later => later.vectorOf e s := by
  refine ⟨?_, fun later h => ?_⟩
  · rw [vectorFor_run]
    exact m.keeps_remember e s
  · rw [vectorFor_run] at h ⊢
    rw [Memory.vectorOf.eq_1 later, h _ _ (m.lookup_remember e s), Option.getD_some]

/-- The score of two vectors, if both are there. -/
def vectorScore? : Option (List Float) → Option (List Float) → Option Float
  | some v, some w => some (if Embedding.cosine v w > 0.0 then Embedding.cosine v w else 0.0)
  | _, _ => none

/-- The score of two symbols by the vectors of a memory. -/
def scoreIn (d : Detector) (m : Memory) (a b : Symbol) : Float :=
  match d.embedder, d.store with
  | some e, some _ => (vectorScore? (m.vectorOf e a) (m.vectorOf e b)).getD (structuralScore a b)
  | _, _ => structuralScore a b

theorem embeddedScore?_eq (e : Embedder) (a b : Symbol) :
    embeddedScore? e a b =
      (do let v ← vectorFor e a; let w ← vectorFor e b; return vectorScore? v w) := by
  funext m
  rw [embeddedScore?]
  refine congrArg (fun f => (vectorFor e a >>= f) m) (funext fun v => ?_)
  refine congrArg (vectorFor e b >>= ·) (funext fun w => ?_)
  cases v <;> cases w <;> rfl

private theorem score_settles (d : Detector) (a b : Symbol) (m : Memory) :
    Settles (d.score a b) m fun later => d.scoreIn later a b := by
  cases he : d.embedder with
  | none =>
      simp only [score, scoreIn, he]
      exact .pure _ m
  | some e =>
      cases hstore : d.store with
      | none =>
          simp only [score, scoreIn, he, hstore]
          exact .pure _ m
      | some store =>
          simp only [score, scoreIn, he, hstore, embeddedScore?_eq]
          have hscore := (vectorFor_settles e a m).map₂ (vectorFor_settles e b _) vectorScore?
          exact hscore.map (·.getD (structuralScore a b))

/-! ### Comparisons -/

/-- The match of two symbols by the vectors of a memory. -/
def matchIn (d : Detector) (m : Memory) (s other : Symbol) : Option DuplicateMatch :=
  if d.comparesAcross s other ∧ d.scoreIn m s other > d.limits.acrossIndex then
    some (d.found s other (d.scoreIn m s other) (acrossReason other))
  else none

private theorem matchAcross_settles (d : Detector) (s other : Symbol) (m : Memory) :
    Settles (d.matchAcross s other) m fun later => d.matchIn later s other := by
  unfold matchAcross matchIn
  by_cases hcompares : d.comparesAcross s other = true
  · simp only [hcompares, if_true, true_and]
    exact (d.score_settles s other m).map fun score =>
      if score > d.limits.acrossIndex then some (d.found s other score (acrossReason other))
      else none
  · simp only [hcompares]
    exact .pure none m

private theorem byComparison_settles (d : Detector) (s : Symbol) (m : Memory) :
    Settles (d.byComparison s) m fun later => d.index.symbols.filterMap (d.matchIn later s) := by
  have hall := (Settles.mapM (d.matchAcross_settles s) d.index.symbols m).map (List.filterMap id)
  simp only [List.filterMap_map] at hall
  exact hall

/-! ### One symbol -/

/-- What the store answers for a symbol, if it is asked and does not fail. -/
def answer? (d : Detector) (m : Memory) (s : Symbol) : Option (List (Symbol × Float)) :=
  match d.embedder, d.store with
  | some e, some store =>
      if store.rows > 0 then
        (m.vectorOf e s).bind fun v =>
          store.search ⟨s, d.limits.neighbours, d.limits.vector, v, m.searches.length⟩
      else none
  | _, _ => none

/-- The matches of a symbol: among the answers of the store if there are any, else among the symbols
of the index, by the vectors of a later memory. -/
def matchesOf (d : Detector) (m later : Memory) (s : Symbol) : List DuplicateMatch :=
  match d.answer? m s with
  | some neighbours => d.neighbourMatches s neighbours
  | none => d.index.symbols.filterMap (d.matchIn later s)

theorem bySearch?_run (d : Detector) (e : Embedder) (store : NeighbourStore) (s : Symbol)
    (m : Memory) :
    ((d.bySearch? e store s).run m).1 = ((m.vectorOf e s).bind fun v =>
        store.search ⟨s, d.limits.neighbours, d.limits.vector, v, m.searches.length⟩).map
          (d.neighbourMatches s) ∧
      m.Keeps ((d.bySearch? e store s).run m).2 := by
  have hkeeps := m.keeps_remember e s
  have hcount := congrArg List.length (m.searches_remember e s)
  have hvector := vectorFor_run e s m
  rw [bySearch?, StateT.run_bind, hvector]
  cases hv : m.vectorOf e s with
  | none => exact ⟨rfl, hkeeps⟩
  | some v => exact ⟨by rw [← hcount]; rfl, hkeeps⟩

private theorem across_settles (d : Detector) (s : Symbol) (m : Memory) :
    Settles (d.across s) m fun later => d.matchesOf m later s := by
  have hcompared := d.byComparison_settles s
  cases he : d.embedder with
  | none => simpa only [across, matchesOf, answer?, he] using hcompared m
  | some e =>
      cases hstore : d.store with
      | none => simpa only [across, matchesOf, answer?, he, hstore] using hcompared m
      | some store =>
          by_cases hrows : store.rows > 0
          · simp only [across, matchesOf, answer?, he, hstore, hrows, if_true]
            obtain ⟨hresult, hkeeps⟩ := d.bySearch?_run e store s m
            refine .bind hkeeps ?_
            rw [hresult]
            cases (m.vectorOf e s).bind fun v => store.search
                ⟨s, d.limits.neighbours, d.limits.vector, v, m.searches.length⟩ with
            | none => exact hcompared _
            | some neighbours => exact .pure _ _
          · simpa only [across, matchesOf, answer?, he, hstore, hrows, if_false] using hcompared m

/-! ### All symbols -/

/-- The memory after the matches of some symbols were looked for. -/
def memoryAfter (d : Detector) (symbols : List Symbol) (m : Memory) : Memory :=
  ((symbols.mapM d.across).run m).2

private theorem memoryAfter_cons (d : Detector) (s : Symbol) (symbols : List Symbol) (m : Memory) :
    d.memoryAfter (s :: symbols) m = d.memoryAfter symbols ((d.across s).run m).2 := by
  rw [memoryAfter, List.mapM_cons]
  rfl

private theorem keeps_memoryAfter (d : Detector) (symbols : List Symbol) (m : Memory) :
    m.Keeps (d.memoryAfter symbols m) := by
  induction symbols generalizing m with
  | nil => exact .refl m
  | cons s symbols ih =>
      rw [memoryAfter_cons]
      exact (d.across_settles s m).keeps.trans (ih _)

/-- The matches of all symbols are those of each of them, by the memory that the ones before it
left and the vectors that are known in the end. -/
theorem mem_mapM_across (d : Detector) (symbols : List Symbol) (m : Memory) (x : DuplicateMatch) :
    x ∈ ((symbols.mapM d.across).run m).1.flatten ↔
      ∃ earlier s later, symbols = earlier ++ s :: later ∧
        x ∈ d.matchesOf (d.memoryAfter earlier m) (d.memoryAfter symbols m) s := by
  induction symbols generalizing m with
  | nil =>
      refine ⟨fun hx => absurd hx List.not_mem_nil, ?_⟩
      rintro ⟨earlier, s, later, hsplit, _⟩
      exact absurd hsplit.symm (List.append_ne_nil_of_right_ne_nil _ (List.cons_ne_nil _ _))
  | cons s symbols ih =>
      have hrun : ((List.mapM d.across (s :: symbols)).run m).1 =
          ((d.across s).run m).1 :: ((symbols.mapM d.across).run ((d.across s).run m).2).1 := by
        rw [List.mapM_cons]
        rfl
      have hfirst := (d.across_settles s m).result _ (d.keeps_memoryAfter symbols _)
      rw [hrun, List.flatten_cons, List.mem_append, hfirst, ih, memoryAfter_cons]
      constructor
      · rintro (hx | ⟨earlier, t, later, hsplit, hx⟩)
        · exact ⟨[], s, symbols, rfl, hx⟩
        · refine ⟨s :: earlier, t, later, by rw [hsplit, List.cons_append], ?_⟩
          rwa [memoryAfter_cons]
      · rintro ⟨earlier, t, later, hsplit, hx⟩
        cases earlier with
        | nil =>
            obtain ⟨rfl, rfl⟩ := List.cons.inj hsplit
            exact Or.inl hx
        | cons a earlier =>
            obtain ⟨rfl, hrest⟩ := List.cons.inj hsplit
            rw [memoryAfter_cons] at hx
            exact Or.inr ⟨earlier, t, later, hrest, hx⟩

/-! ### Distinct matches -/

/-- Two matches of the same identities. -/
def SamePair (x y : DuplicateMatch) : Prop := x.first.id = y.first.id ∧ x.second.id = y.second.id

/-- One step: a match is kept unless there is one of its identities. -/
def keepNew (kept : List DuplicateMatch) (x : DuplicateMatch) : List DuplicateMatch :=
  if kept.any fun k => k.first.id == x.first.id && k.second.id == x.second.id then kept
  else kept ++ [x]

theorem keepNew_cases (kept : List DuplicateMatch) (x : DuplicateMatch) :
    (keepNew kept x = kept ∧ ∃ k ∈ kept, SamePair k x) ∨
      (keepNew kept x = kept ++ [x] ∧ ∀ k ∈ kept, ¬ SamePair k x) := by
  rw [keepNew]
  split
  · rename_i hany
    exact Or.inl ⟨rfl, by simpa [SamePair] using hany⟩
  · rename_i hany
    exact Or.inr ⟨rfl, by simpa [SamePair] using hany⟩

private theorem foldl_keepNew_pairwise {kept : List DuplicateMatch}
    (h : kept.Pairwise fun x y => ¬ SamePair x y) (ms : List DuplicateMatch) :
    (ms.foldl keepNew kept).Pairwise fun x y => ¬ SamePair x y := by
  induction ms generalizing kept with
  | nil => exact h
  | cons x ms ih =>
      rw [List.foldl_cons]
      apply ih
      rcases keepNew_cases kept x with ⟨hkeep, _⟩ | ⟨hkeep, hnew⟩
      · rwa [hkeep]
      · rw [hkeep, List.pairwise_append]
        refine ⟨h, List.pairwise_singleton _ _, fun k hk y hy => ?_⟩
        exact List.mem_singleton.mp hy ▸ hnew k hk

theorem mem_foldl_keepNew {ms kept : List DuplicateMatch} {y : DuplicateMatch}
    (h : y ∈ ms.foldl keepNew kept) : y ∈ kept ∨ y ∈ ms := by
  induction ms generalizing kept with
  | nil => exact Or.inl h
  | cons x ms ih =>
      rcases ih h with hy | hy
      · rcases keepNew_cases kept x with ⟨hkeep, _⟩ | ⟨hkeep, _⟩
        · exact Or.inl (hkeep ▸ hy)
        · rw [hkeep, List.mem_append, List.mem_singleton] at hy
          exact hy.imp_right fun hyx => by simp [hyx]
      · exact Or.inr (List.mem_cons_of_mem x hy)

theorem exists_mem_foldl_keepNew {ms kept : List DuplicateMatch} {y : DuplicateMatch}
    (h : (∃ k ∈ kept, SamePair k y) ∨ y ∈ ms) : ∃ k ∈ ms.foldl keepNew kept, SamePair k y := by
  induction ms generalizing kept with
  | nil => exact h.resolve_right List.not_mem_nil
  | cons x ms ih =>
      rw [List.foldl_cons]
      apply ih
      rw [List.mem_cons] at h
      rcases keepNew_cases kept x with ⟨hkeep, hold⟩ | ⟨hkeep, _⟩
      · rw [hkeep]
        rcases h with h | rfl | h
        · exact Or.inl h
        · exact Or.inl hold
        · exact Or.inr h
      · rw [hkeep]
        rcases h with ⟨k, hk, hsame⟩ | rfl | h
        · exact Or.inl ⟨k, List.mem_append_left _ hk, hsame⟩
        · exact Or.inl ⟨y, by simp, rfl, rfl⟩
        · exact Or.inr h

/-! ### What is reported -/

/-- A symbol and another are found to be duplicates: the other one is in the index, in a different
file, of the same kind and not in a different language if that counts. It is an answer of the store
with a score above the limit for answers; or the store has no answer for the symbol, and the other
one is a symbol of the index with a score above the limit for comparisons. -/
structure Finds (d : Detector) (m last : Memory) (s other : Symbol) (score : Float) : Prop where
  indexed : ∃ t ∈ d.index.symbols, t.file = other.file ∧ t.id = other.id
  files : other.file ≠ s.file
  kinds : s.kind = other.kind
  languages : d.skipOtherLanguages = true → Similarity.languagesDiffer s other = false
  scored : match d.answer? m s with
    | some neighbours => (other, score) ∈ neighbours ∧ score > d.limits.vector
    | none => other ∈ d.index.symbols ∧ score = d.scoreIn last s other ∧
        score > d.limits.acrossIndex

theorem comparesAcross_iff (d : Detector) (s other : Symbol) :
    d.comparesAcross s other = true ↔ other.file ≠ s.file ∧ s.kind = other.kind ∧
      (d.skipOtherLanguages = true → Similarity.languagesDiffer s other = false) := by
  rw [comparesAcross, comparable]
  cases d.skipOtherLanguages <;> simp

theorem isIndexed_iff {d : Detector} (h : d.index.Built) (s : Symbol) :
    d.isIndexed s = true ↔ ∃ t ∈ d.index.symbols, t.file = s.file ∧ t.id = s.id := by
  rw [isIndexed, h.fileSymbols_eq, List.any_eq_true]
  simp [and_assoc]

private theorem mem_neighbourMatches_iff {d : Detector} {s : Symbol}
    {neighbours : List (Symbol × Float)} {x : DuplicateMatch} :
    x ∈ d.neighbourMatches s neighbours ↔ ∃ other score, (other, score) ∈ neighbours ∧
      d.comparesAcross s other = true ∧ d.isIndexed other = true ∧ score > d.limits.vector ∧
      x = d.found s other score (acrossReason other) := by
  simp only [neighbourMatches, List.mem_filterMap]
  constructor
  · rintro ⟨⟨other, score⟩, hmem, hx⟩
    split at hx
    · rename_i hcond
      simp only [Bool.and_eq_true, decide_eq_true_eq] at hcond
      exact ⟨other, score, hmem, hcond.1.1, hcond.1.2, hcond.2, (Option.some.inj hx).symm⟩
    · cases hx
  · rintro ⟨other, score, hmem, hcompares, hindexed, hscore, rfl⟩
    exact ⟨(other, score), hmem, by simp [hcompares, hindexed, hscore]⟩

private theorem matchIn_eq_some_iff {d : Detector} {m : Memory} {s other : Symbol}
    {x : DuplicateMatch} :
    d.matchIn m s other = some x ↔ d.comparesAcross s other = true ∧
      d.scoreIn m s other > d.limits.acrossIndex ∧
      x = d.found s other (d.scoreIn m s other) (acrossReason other) := by
  rw [matchIn]
  constructor
  · intro hx
    split at hx
    · rename_i hcond
      exact ⟨hcond.1, hcond.2, (Option.some.inj hx).symm⟩
    · cases hx
  · rintro ⟨hcompares, hscore, rfl⟩
    exact if_pos ⟨hcompares, hscore⟩

private theorem mem_matchesOf_iff {d : Detector} (h : d.index.Built) (m last : Memory) (s : Symbol)
    (x : DuplicateMatch) :
    x ∈ d.matchesOf m last s ↔ ∃ other score, d.Finds m last s other score ∧
      x = d.found s other score (acrossReason other) := by
  rw [matchesOf]
  cases hanswer : d.answer? m s with
  | some neighbours =>
      rw [mem_neighbourMatches_iff]
      constructor
      · rintro ⟨other, score, hmem, hcompares, hindexed, hscore, rfl⟩
        obtain ⟨hfiles, hkinds, hlanguages⟩ := (d.comparesAcross_iff s other).mp hcompares
        have hscored : (other, score) ∈ neighbours ∧ score > d.limits.vector := ⟨hmem, hscore⟩
        exact ⟨other, score, ⟨(isIndexed_iff h other).mp hindexed, hfiles, hkinds, hlanguages,
          by rw [hanswer]; exact hscored⟩, rfl⟩
      · rintro ⟨other, score, hfinds, rfl⟩
        have hscored := hfinds.scored
        rw [hanswer] at hscored
        have hcompares := (d.comparesAcross_iff s other).mpr
          ⟨hfinds.files, hfinds.kinds, hfinds.languages⟩
        exact ⟨other, score, hscored.1, hcompares, (isIndexed_iff h other).mpr hfinds.indexed,
          hscored.2, rfl⟩
  | none =>
      simp only [List.mem_filterMap, matchIn_eq_some_iff]
      constructor
      · rintro ⟨other, hmem, hcompares, hscore, rfl⟩
        obtain ⟨hfiles, hkinds, hlanguages⟩ := (d.comparesAcross_iff s other).mp hcompares
        exact ⟨other, _, ⟨⟨other, hmem, rfl, rfl⟩, hfiles, hkinds, hlanguages,
          by rw [hanswer]; exact ⟨hmem, rfl, hscore⟩⟩, rfl⟩
      · rintro ⟨other, score, hfinds, rfl⟩
        have hscored := hfinds.scored
        rw [hanswer] at hscored
        obtain ⟨hmem, rfl, hscore⟩ := hscored
        have hcompares := (d.comparesAcross_iff s other).mpr
          ⟨hfinds.files, hfinds.kinds, hfinds.languages⟩
        exact ⟨other, hmem, hcompares, hscore, rfl⟩

/-- All matches of a review with an index are found for one of its symbols, by the store if it
answers for that symbol and by comparison if not; no two of them have the same identities; and of
all that is found a match with the same identities is reported. -/
theorem acrossIndex_reports_found (d : Detector) (h : d.index.Built) (symbols : List Symbol)
    (m : Memory) :
    let reported := ((d.acrossIndex symbols).run m).1
    let last := ((d.acrossIndex symbols).run m).2
    (∀ x ∈ reported, ∃ earlier later, symbols = earlier ++ x.first :: later ∧
        d.Finds (d.memoryAfter earlier m) last x.first x.second x.similarity) ∧
      reported.Pairwise (fun x y => ¬ SamePair x y) ∧
      ∀ earlier s later, symbols = earlier ++ s :: later →
        ∀ other score, d.Finds (d.memoryAfter earlier m) last s other score →
          ∃ x ∈ reported, x.first.id = s.id ∧ x.second.id = other.id := by
  intro reported last
  have hreported : reported =
      (((symbols.mapM d.across).run m).1.flatten).foldl keepNew [] := rfl
  have hlast : last = d.memoryAfter symbols m := rfl
  rw [hlast, hreported]
  refine ⟨fun x hx => ?_, foldl_keepNew_pairwise List.Pairwise.nil _, ?_⟩
  · have hfound := (mem_foldl_keepNew hx).resolve_left List.not_mem_nil
    obtain ⟨earlier, s, later, hsplit, hmatch⟩ := (d.mem_mapM_across symbols m x).mp hfound
    obtain ⟨other, score, hfinds, rfl⟩ := (mem_matchesOf_iff h _ _ s x).mp hmatch
    exact ⟨earlier, later, hsplit, hfinds⟩
  · intro earlier s later hsplit other score hfinds
    have hmatch := (mem_matchesOf_iff h _ _ s _).mpr ⟨other, score, hfinds, rfl⟩
    have hfound := (d.mem_mapM_across symbols m _).mpr ⟨earlier, s, later, hsplit, hmatch⟩
    obtain ⟨x, hx, hfirst, hsecond⟩ := exists_mem_foldl_keepNew (Or.inr hfound)
    exact ⟨x, hx, hfirst, hsecond⟩

/-- A function of one name in one of several files. -/
def chargeIn (file : String) : Symbol where
  name := "charge"
  kind := "function"
  file := file
  startLine := 1
  endLine := 2
  signature := some "charge(amount)"

def sameVector : Embedder where
  key := "same"
  embed _ := some [1.0]

/-- The function is indexed in one file. The store fails at its first search, and knows the function
in another file as well. -/
def forgetful : Detector where
  index := ({} : Index).add "pay.py" [chargeIn "pay.py"] []
  embedder := some sameVector
  store := some
    { rows := 2
      search := fun q =>
        if q.number = 0 then none
        else some [(chargeIn "old.py", 0.99), (chargeIn "pay.py", 0.9)] }

private theorem forgetful_answer? {m : Memory} {s : Symbol} (hsearches : m.searches.length = 1)
    (hvector : (m.vectorOf sameVector s).isSome = true) :
    forgetful.answer? m s = some [(chargeIn "old.py", 0.99), (chargeIn "pay.py", 0.9)] := by
  obtain ⟨v, hv⟩ := Option.isSome_iff_exists.mp hvector
  simp [answer?, forgetful, hv, hsearches]

theorem forgetful_reports_indexed :
    forgetful.index.Built ∧
      (∀ x ∈ ((forgetful.acrossIndex [chargeIn "shop.py", chargeIn "cart.py"]).run {}).1,
        x.second.id = (chargeIn "pay.py").id ∧
          (x.first = chargeIn "shop.py" ∨ x.first = chargeIn "cart.py")) ∧
      ∃ x ∈ ((forgetful.acrossIndex [chargeIn "shop.py", chargeIn "cart.py"]).run {}).1,
        x.first.id = (chargeIn "cart.py").id ∧ x.second.id = (chargeIn "pay.py").id := by
  have hbuilt : forgetful.index.Built :=
    .add .empty "pay.py" [chargeIn "pay.py"] [] fun s hs => by
      rw [List.mem_singleton.mp hs]
      rfl
  obtain ⟨hreported, _, hfound⟩ :=
    acrossIndex_reports_found forgetful hbuilt [chargeIn "shop.py", chargeIn "cart.py"] {}
  refine ⟨hbuilt, fun x hx => ?_, ?_⟩
  · obtain ⟨earlier, later, hsplit, hfinds⟩ := hreported x hx
    obtain ⟨t, ht, _, hid⟩ := hfinds.indexed
    obtain rfl : t = chargeIn "pay.py" := List.mem_singleton.mp ht
    have hfirst : x.first ∈ [chargeIn "shop.py", chargeIn "cart.py"] := by
      rw [hsplit]
      simp
    exact ⟨hid.symm, by simpa using hfirst⟩
  · have hanswer : forgetful.answer? (forgetful.memoryAfter [chargeIn "shop.py"] {})
        (chargeIn "cart.py") = some [(chargeIn "old.py", 0.99), (chargeIn "pay.py", 0.9)] :=
      forgetful_answer? (by decide +kernel) (by decide +kernel)
    have hscore : (0.9 : Float) > forgetful.limits.vector := by decide +kernel
    refine hfound [chargeIn "shop.py"] (chargeIn "cart.py") [] rfl (chargeIn "pay.py") 0.9
      ⟨⟨chargeIn "pay.py", List.mem_singleton.mpr rfl, rfl, rfl⟩, by decide, rfl,
        fun _ => by decide +kernel, ?_⟩
    rw [hanswer]
    exact ⟨by simp, hscore⟩

end Detector

end PullReview.Duplicate
