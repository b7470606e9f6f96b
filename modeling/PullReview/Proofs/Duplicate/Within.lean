import Mathlib.Data.List.FinRange
import Mathlib.Data.List.Sym
import PullReview.Duplicate
import PullReview.Proofs.Similarity

/-!
# Duplicates within a review

Without embeddings, whether two symbols are reported and what is said of them does not depend on
which comes first. The two loops run over each pair of places once. So a review reports the same
places with the same findings in whatever order it lists its symbols.
-/

namespace PullReview.Duplicate.Detector

/-! ### Pairs of places -/

private theorem filterMap_ite {α β : Type} (p : α → Prop) [DecidablePred p] (f : α → β)
    (xs : List α) :
    xs.filterMap (fun x => if p x then some (f x) else none) = (xs.filter p).map f := by
  induction xs with
  | nil => rfl
  | cons x xs ih =>
      by_cases hx : p x
      · simp [hx, ih]
      · simp [hx, ih]

private theorem pairs_map {α β : Type} (f : α → β) (xs : List α) :
    pairs (xs.map f) = (pairs xs).map fun p => (f p.1, f p.2) := by
  induction xs with
  | nil => rfl
  | cons x xs ih => simp [pairs, ih, Function.comp_def]

private theorem pairs_unordered {α : Type} [DecidableEq α] {xs : List α} (h : xs.Nodup) :
    (pairs xs).map (fun p => s(p.1, p.2)) = xs.sym2.filter fun z => ¬ z.IsDiag := by
  induction xs with
  | nil => rfl
  | cons x xs ih =>
      rw [List.nodup_cons] at h
      have hkept : (xs.map fun y => s(x, y)).filter (fun z => ¬ z.IsDiag) =
          xs.map fun y => s(x, y) := by
        rw [List.filter_eq_self]
        intro z hz
        obtain ⟨y, hy, rfl⟩ := List.mem_map.mp hz
        have hne : x ≠ y := fun heq => h.1 (heq ▸ hy)
        simpa using hne
      rw [pairs, List.map_append, List.map_map, ih h.2, List.sym2, List.map_cons, List.cons_append,
        List.filter_cons_of_neg (by simp), List.filter_append, hkept]
      rfl

section

variable {n : Nat}

private theorem mem_pairs_finRange_iff (i j : Fin n) :
    s(i, j) ∈ (pairs (List.finRange n)).map (fun p => s(p.1, p.2)) ↔ i ≠ j := by
  rw [pairs_unordered (List.nodup_finRange n), List.mem_filter, List.mk_mem_sym2_iff]
  simp

private theorem pairs_finRange_nodup :
    ((pairs (List.finRange n)).map fun p => s(p.1, p.2)).Nodup := by
  rw [pairs_unordered (List.nodup_finRange n)]
  exact (List.nodup_finRange n).sym2.filter _

private theorem pairs_finRange_perm (σ : Equiv.Perm (Fin n)) :
    (((pairs (List.finRange n)).map fun p => s(p.1, p.2)).map (Sym2.map σ)).Perm
      ((pairs (List.finRange n)).map fun p => s(p.1, p.2)) := by
  have hnodup := List.nodup_finRange n
  have hmap : ((pairs (List.finRange n)).map fun p => s(p.1, p.2)).map (Sym2.map σ) =
      (pairs ((List.finRange n).map σ)).map fun p => s(p.1, p.2) := by
    rw [pairs_map, List.map_map, List.map_map]
    rfl
  rw [hmap, pairs_unordered (hnodup.map σ.injective), pairs_unordered hnodup]
  exact (σ.map_finRange_perm).sym2.filter _

end

/-! ### Two symbols -/

/-- What a match says of its symbols, whichever comes first. -/
def finding (m : DuplicateMatch) : Float × DuplicateKind × String :=
  (m.similarity, m.kind, m.reason)

/-- Two symbols of a review are reported: they are of one kind and not in different languages if
that counts, they are not the same declaration, and they are similar enough. -/
structure Reports (d : Detector) (a b : Symbol) : Prop where
  kinds : a.kind = b.kind
  languages : d.skipOtherLanguages = true → Similarity.languagesDiffer a b = false
  declarations : ¬ (a.file = b.file ∧ a.name = b.name ∧ a.signature = b.signature)
  score : structuralScore a b > d.limits.withinReview

instance (d : Detector) (a b : Symbol) : Decidable (d.Reports a b) :=
  decidable_of_iff
    (a.kind = b.kind ∧
      (d.skipOtherLanguages = true → Similarity.languagesDiffer a b = false) ∧
      ¬ (a.file = b.file ∧ a.name = b.name ∧ a.signature = b.signature) ∧
      structuralScore a b > d.limits.withinReview)
    ⟨fun ⟨hkinds, hlanguages, hdeclarations, hscore⟩ =>
        ⟨hkinds, hlanguages, hdeclarations, hscore⟩,
      fun h => ⟨h.kinds, h.languages, h.declarations, h.score⟩⟩

private theorem compared_iff (d : Detector) (a b : Symbol) :
    (d.comparable a b && !sameDeclaration a b) = true ↔
      a.kind = b.kind ∧
        (d.skipOtherLanguages = true → Similarity.languagesDiffer a b = false) ∧
        ¬ (a.file = b.file ∧ a.name = b.name ∧ a.signature = b.signature) := by
  have hsame : sameDeclaration a b = true ↔
      a.file = b.file ∧ a.name = b.name ∧ a.signature = b.signature := by
    simp [sameDeclaration, and_assoc]
  rw [Bool.and_eq_true, Bool.not_eq_true', ← Bool.not_eq_true, hsame, comparable]
  cases d.skipOtherLanguages <;> simp [and_assoc]

/-- The match of two symbols by their structure. -/
def structuralMatch (d : Detector) (a b : Symbol) : DuplicateMatch :=
  d.found a b (structuralScore a b) (withinReason a b)

private theorem structuralScore_comm (a b : Symbol) : structuralScore a b = structuralScore b a :=
  congrArg Similarity.Share.toFloat (Similarity.structural_comm a b)

private theorem languagesDiffer_comm (a b : Symbol) :
    Similarity.languagesDiffer a b = Similarity.languagesDiffer b a := by
  unfold Similarity.languagesDiffer
  generalize Path.language? a.file = l, Path.language? b.file = l'
  cases l with
  | none => cases l' <;> rfl
  | some l =>
      cases l' with
      | none => rfl
      | some l' => exact congrArg not Bool.beq_comm

theorem Reports.symm {d : Detector} {a b : Symbol} (h : d.Reports a b) : d.Reports b a where
  kinds := h.kinds.symm
  languages := by
    rw [languagesDiffer_comm]
    exact h.languages
  declarations := fun ⟨hfile, hname, hsignature⟩ =>
    h.declarations ⟨hfile.symm, hname.symm, hsignature.symm⟩
  score := by
    rw [structuralScore_comm]
    exact h.score

private theorem withinReason_comm {a b : Symbol} (h : a.kind = b.kind) :
    withinReason a b = withinReason b a := by
  rw [withinReason, withinReason, h]
  by_cases hsignature : a.signature = b.signature
  · by_cases hname : a.name = b.name
    · rw [hsignature, hname]
    · simp [hsignature, hname, Ne.symm hname]
  · by_cases hname : a.name = b.name
    · simp [hsignature, Ne.symm hsignature, hname]
    · simp [hsignature, Ne.symm hsignature, hname, Ne.symm hname]

private theorem finding_structuralMatch_comm (d : Detector) {a b : Symbol} (h : a.kind = b.kind) :
    finding (d.structuralMatch a b) = finding (d.structuralMatch b a) := by
  rw [structuralMatch, structuralMatch, structuralScore_comm, withinReason_comm h]
  rfl

/-- What is said of two symbols if they are reported. -/
def finding? (d : Detector) (a b : Symbol) : Option (Float × DuplicateKind × String) :=
  if d.Reports a b then some (finding (d.structuralMatch a b)) else none

private theorem finding?_comm (d : Detector) (a b : Symbol) : d.finding? a b = d.finding? b a := by
  rw [finding?, finding?]
  by_cases h : d.Reports a b
  · rw [if_pos h, if_pos h.symm, finding_structuralMatch_comm d h.kinds]
  · rw [if_neg h, if_neg fun h' => h h'.symm]

private theorem finding?_isSome_iff (d : Detector) (a b : Symbol) :
    (d.finding? a b).isSome = true ↔ d.Reports a b := by
  rw [finding?]
  by_cases h : d.Reports a b
  · simp [h]
  · simp [h]

/-- What is said of two symbols in no order. -/
def findingOf? (d : Detector) : Sym2 Symbol → Option (Float × DuplicateKind × String) :=
  Sym2.lift ⟨d.finding?, d.finding?_comm⟩

/-! ### Reports -/

/-- Only the structure of symbols counts if there is no embedder, or no store. -/
theorem matchWithin_eq {d : Detector} (h : d.embedder = none ∨ d.store = none) (a b : Symbol) :
    d.matchWithin a b =
      pure (if d.Reports a b then some (d.structuralMatch a b) else none) := by
  have hscore : d.score a b = pure (structuralScore a b) := by
    rcases h with h | h
    · simp only [score, h]
    · cases he : d.embedder <;> simp only [score, h, he]
  rw [matchWithin, hscore]
  by_cases hreports : d.Reports a b
  · have hcompared : (d.comparable a b && !sameDeclaration a b) = true :=
      (compared_iff d a b).mpr ⟨hreports.kinds, hreports.languages, hreports.declarations⟩
    rw [if_pos hcompared, if_pos hreports, pure_bind, if_pos hreports.score]
    rfl
  · rw [if_neg hreports]
    split
    · rename_i hcompared
      obtain ⟨hkinds, hlanguages, hdeclarations⟩ := (compared_iff d a b).mp hcompared
      rw [pure_bind, if_neg fun hscore => hreports ⟨hkinds, hlanguages, hdeclarations, hscore⟩]
    · rfl

private theorem withinReview_eq {d : Detector} (h : d.embedder = none ∨ d.store = none)
    (symbols : List Symbol) :
    d.withinReview symbols =
      pure (((pairs symbols).filter fun p => d.Reports p.1 p.2).map fun p =>
        d.structuralMatch p.1 p.2) := by
  rw [withinReview]
  simp only [matchWithin_eq h]
  rw [List.mapM_pure, pure_bind, List.filterMap_map, ← filterMap_ite]
  rfl

section

variable {n : Nat}

/-- The match of the symbols at two places. -/
def matchAt (d : Detector) (entry : Fin n → Symbol) (p : Fin n × Fin n) : DuplicateMatch :=
  d.structuralMatch (entry p.1) (entry p.2)

/-- A report on the entries of a list: it has the match of the entries at each of some places, no
two places are reported twice in whatever order, and they are reported if and only if their entries
are to be. -/
structure IsReport (d : Detector) (entry : Fin n → Symbol) (reported : List DuplicateMatch)
    (places : List (Fin n × Fin n)) : Prop where
  matches_eq : reported = places.map (d.matchAt entry)
  once : (places.map fun p => s(p.1, p.2)).Nodup
  mem_iff : ∀ i j, s(i, j) ∈ places.map (fun p => s(p.1, p.2)) ↔
    i ≠ j ∧ d.Reports (entry i) (entry j)

/-- The places that are reported. -/
def reportedPlaces (d : Detector) (entry : Fin n → Symbol) : List (Fin n × Fin n) :=
  (pairs (List.finRange n)).filter fun p => d.Reports (entry p.1) (entry p.2)

private theorem reportedPlaces_unordered (d : Detector) (entry : Fin n → Symbol) :
    (d.reportedPlaces entry).map (fun p => s(p.1, p.2)) =
      ((pairs (List.finRange n)).map fun p => s(p.1, p.2)).filter fun z =>
        (d.findingOf? (z.map entry)).isSome := by
  rw [reportedPlaces, List.filter_map]
  congr 1
  apply List.filter_congr
  intro p _
  rw [Bool.eq_iff_iff, decide_eq_true_eq]
  exact (d.finding?_isSome_iff (entry p.1) (entry p.2)).symm

private theorem isReport_reportedPlaces {d : Detector} (h : d.embedder = none ∨ d.store = none)
    (entry : Fin n → Symbol) (m : Memory) :
    d.IsReport entry ((d.withinReview (List.ofFn entry)).run m).1 (d.reportedPlaces entry) where
  matches_eq := by
    rw [withinReview_eq h, List.ofFn_eq_map, pairs_map, List.filter_map, List.map_map]
    rfl
  once := by
    rw [reportedPlaces_unordered]
    exact pairs_finRange_nodup.filter _
  mem_iff i j := by
    rw [reportedPlaces_unordered, List.mem_filter, mem_pairs_finRange_iff]
    exact and_congr_right fun _ => d.finding?_isSome_iff (entry i) (entry j)

private theorem map_finding_reportedPlaces (d : Detector) (entry : Fin n → Symbol)
    (place : Fin n → Fin n) :
    ((d.reportedPlaces (entry ∘ place)).map fun p =>
        (s(place p.1, place p.2), finding (d.matchAt (entry ∘ place) p))) =
      (((pairs (List.finRange n)).map fun p => s(p.1, p.2)).map (Sym2.map place)).filterMap
        fun z => (d.findingOf? (z.map entry)).map fun f => (z, f) := by
  rw [reportedPlaces, List.map_map, List.filterMap_map, ← filterMap_ite]
  congr 1
  funext p
  change (if d.Reports (entry (place p.1)) (entry (place p.2)) then _ else none) =
    (d.finding? (entry (place p.1)) (entry (place p.2))).map _
  rw [finding?]
  by_cases hreports : d.Reports (entry (place p.1)) (entry (place p.2))
  · rw [if_pos hreports, if_pos hreports]
    rfl
  · rw [if_neg hreports, if_neg hreports]
    rfl

/-- The order in which a review lists its symbols does not matter, if there is no embedder or no
store. Two entries of the list are reported at most once, and if and only if they are to be. If the
list is rearranged, the same entries are reported with the same similarity, kind and reason. -/
theorem withinReview_rearranged (d : Detector) (h : d.embedder = none ∨ d.store = none)
    (entry : Fin n → Symbol) (σ : Equiv.Perm (Fin n)) (m m' : Memory) :
    let reported := ((d.withinReview (List.ofFn entry)).run m).1
    let rearranged := ((d.withinReview (List.ofFn (entry ∘ σ))).run m').1
    ∃ places places', d.IsReport entry reported places ∧
      d.IsReport (entry ∘ σ) rearranged places' ∧
      (places'.map fun p => (s(σ p.1, σ p.2), finding (d.matchAt (entry ∘ σ) p))).Perm
        (places.map fun p => (s(p.1, p.2), finding (d.matchAt entry p))) := by
  intro reported rearranged
  refine ⟨d.reportedPlaces entry, d.reportedPlaces (entry ∘ σ),
    isReport_reportedPlaces h entry m, isReport_reportedPlaces h (entry ∘ σ) m', ?_⟩
  have hsame := d.map_finding_reportedPlaces entry id
  rw [Sym2.map_id, List.map_id, Function.comp_id] at hsame
  have hmoved := d.map_finding_reportedPlaces entry σ
  rw [hmoved]
  refine ((pairs_finRange_perm σ).filterMap _).trans ?_
  rw [← hsame]
  exact List.Perm.refl _

end

/-- A function of one signature in one of several files. -/
def helperIn (file : String) : Symbol where
  name := "helper"
  kind := "function"
  file := file
  startLine := 1
  endLine := 2
  signature := some "helper(x)"

/-- The function stands in two files, and the list has the one in the first file twice. -/
def helperTwice (i : Fin 3) : Symbol := if i = 1 then helperIn "b.py" else helperIn "a.py"

theorem helpers_reported_rearranged :
    let σ := Equiv.swap (0 : Fin 3) 1
    ({} : Detector).embedder = none ∧
      ∃ places places',
        IsReport {} helperTwice ((withinReview {} (List.ofFn helperTwice)).run {}).1 places ∧
        IsReport {} (helperTwice ∘ σ)
          ((withinReview {} (List.ofFn (helperTwice ∘ σ))).run {}).1 places' ∧
        (s(0, 1) ∈ places.map (fun p => s(p.1, p.2)) ∧
          s(0, 2) ∉ places.map (fun p => s(p.1, p.2))) ∧
        s(0, 2) ∈ places'.map (fun p => s(p.1, p.2)) := by
  intro σ
  obtain ⟨places, places', hreport, hreport', _⟩ :=
    withinReview_rearranged {} (.inl rfl) helperTwice σ {} {}
  refine ⟨rfl, places, places', hreport, hreport', ⟨?_, ?_⟩, ?_⟩
  · exact (hreport.mem_iff 0 1).mpr ⟨by decide, by decide +kernel⟩
  · intro hmem
    exact ((hreport.mem_iff 0 2).mp hmem).2.declarations ⟨rfl, rfl, rfl⟩
  · exact (hreport'.mem_iff 0 2).mpr ⟨by decide, by decide +kernel⟩

end PullReview.Duplicate.Detector
