import PullReview.Proofs.Impact.Partition
import PullReview.Proofs.Impact.Reach

/-!
# Cascades of a growing index

An analysis has a cascade for every changed symbol whose areas are in more than one feature or
belong to more than one service. Further calls in the index put further areas behind those that are
there, so a cascade stays, and nothing that it tells becomes less.
-/

namespace PullReview

/-- What one cascade tells is told by the other as well: features and services come first in the
same order, and neither the length nor the severity is less. -/
structure Cascade.AtMost (c c' : Cascade) : Prop where
  features : c.features <+: c'.features
  services : c.services <+: c'.services
  length : c.length ≤ c'.length
  severity : c.severity.rank ≤ c'.severity.rank

namespace Impact

/-! ### Length and severity -/

private theorem cascadeLength_le_iff (indirect m : Nat) :
    cascadeLength indirect ≤ m + 1 ↔ indirect ≤ 3 * m := by
  rw [cascadeLength]
  omega

private theorem cascadeLength_mono {m n : Nat} (h : m ≤ n) : cascadeLength m ≤ cascadeLength n := by
  rw [cascadeLength, cascadeLength]
  omega

private theorem rank_cascadeSeverity (length : Nat) :
    (cascadeSeverity length).rank = min 2 (length - 2) := by
  rw [cascadeSeverity]
  split
  · simp only [Level.rank]
    omega
  · split
    · simp only [Level.rank]
      omega
    · simp only [Level.rank]
      omega

private theorem cascadeSeverity_mono {m n : Nat} (h : m ≤ n) :
    (cascadeSeverity m).rank ≤ (cascadeSeverity n).rank := by
  rw [rank_cascadeSeverity, rank_cascadeSeverity]
  omega

/-! ### One symbol -/

/-- The services that areas belong to, one for every area that has one. -/
def services (as : List ImpactedArea) : List String := as.filterMap fun a => serviceName? a.file

/-- The number of areas outside the file of a symbol. -/
def indirect (s : Symbol) (as : List ImpactedArea) : Nat := as.countP fun a => a.file != s.file

/-- The cascade of a symbol with more than one feature or service. -/
structure IsCascade (s : Symbol) (as : List ImpactedArea) (c : Cascade) : Prop where
  varied : Varied (as.map (·.feature)) ∨ Varied (services as)
  trigger : c.trigger = s.name
  features : c.features = distinct (as.map (·.feature))
  services : c.services = distinct (services as)
  length : c.length = cascadeLength (indirect s as)
  severity : c.severity = cascadeSeverity c.length

private theorem services_named (as : List ImpactedArea) :
    ((as.filterMap fun a => serviceName? a.file).filter (· != "")) = services as := by
  rw [services, List.filter_eq_self]
  intro name hname
  obtain ⟨a, _, hservice⟩ := List.mem_filterMap.mp hname
  simpa using serviceName?_ne_empty hservice

private theorem cascade?_cases (s : Symbol) (as : List ImpactedArea) :
    (cascade? s as = none ∧ ¬ (Varied (as.map (·.feature)) ∨ Varied (services as))) ∨
      ∃ c, cascade? s as = some c ∧ IsCascade s as c := by
  have hvaried : ¬ (((distinct (as.map (·.feature))).length ≤ 1 &&
      (distinct (services as)).length ≤ 1) = true) ↔
      Varied (as.map (·.feature)) ∨ Varied (services as) := by
    rw [Bool.and_eq_true, decide_eq_true_eq, decide_eq_true_eq, ← one_lt_length_distinct_iff,
      ← one_lt_length_distinct_iff]
    omega
  rw [cascade?, services_named]
  split
  · rename_i hfew
    exact Or.inl ⟨rfl, fun h => hvaried.mpr h hfew⟩
  · rename_i hmany
    exact Or.inr ⟨_, rfl, hvaried.mp hmany, rfl, rfl, rfl, rfl, rfl⟩

private theorem cascade?_isSome_iff (s : Symbol) (as : List ImpactedArea) :
    (cascade? s as).isSome ↔ Varied (as.map (·.feature)) ∨ Varied (services as) := by
  rcases cascade?_cases s as with ⟨hnone, hfew⟩ | ⟨c, hsome, hc⟩
  · simp [hnone, hfew]
  · simp [hsome, hc.varied]

private theorem isCascade_of_cascade? {s : Symbol} {as : List ImpactedArea} {c : Cascade}
    (h : cascade? s as = some c) : IsCascade s as c := by
  rcases cascade?_cases s as with ⟨hnone, _⟩ | ⟨c', hsome, hc⟩
  · rw [hnone] at h
    cases h
  · rw [hsome] at h
    exact Option.some.inj h ▸ hc

private theorem cascade?_mono {s : Symbol} {as more : List ImpactedArea} (hle : as <+: more)
    {c : Cascade} (h : cascade? s as = some c) : ∃ c', cascade? s more = some c' ∧ c.AtMost c' := by
  have hc := isCascade_of_cascade? h
  have hfeatures : as.map (·.feature) <+: more.map (·.feature) := hle.map _
  have hservices : services as <+: services more := hle.filterMap _
  have hsome : (cascade? s more).isSome :=
    (cascade?_isSome_iff s more).mpr (hc.varied.imp (·.mono hfeatures) (·.mono hservices))
  obtain ⟨c', hc'⟩ := Option.isSome_iff_exists.mp hsome
  have hlater := isCascade_of_cascade? hc'
  have hlength : c.length ≤ c'.length := by
    rw [hc.length, hlater.length]
    exact cascadeLength_mono hle.sublist.countP_le
  refine ⟨c', hc', ?_, ?_, hlength, ?_⟩
  · rw [hc.features, hlater.features]
    exact distinct_prefix hfeatures
  · rw [hc.services, hlater.services]
    exact distinct_prefix hservices
  · rw [hc.severity, hlater.severity]
    exact cascadeSeverity_mono hlength

/-! ### Cascades of an analysis -/

/-- The cascade that an analysis has for a symbol, if it has one. -/
def symbolCascade? (ix : Index) (skipped : List String) (s : Symbol) : Option Cascade :=
  cascade? s (areas ix skipped s)

private theorem areas_prefix_add (ix : Index) (skipped : List String) (s : Symbol) (path : String)
    (found : List Symbol) (more : List CallEdge) :
    areas ix skipped s <+: areas (ix.add path found more) skipped s :=
  (((List.prefix_append ix.calls more).filter _).filter _).map _

/-- The changed symbols have their cascades in the order of the symbols; a symbol that is not called
has none. -/
theorem analyze_cascades (ix : Index) (predictors : List Predictor) (depth : Int)
    (symbols : List Symbol) (skipped : List String) :
    (analyze ix predictors depth symbols skipped).cascades =
      (analyze ix predictors depth symbols skipped).changed.filterMap
        (symbolCascade? ix skipped) := by
  dsimp only [analyze]
  rw [List.filterMap_filter, List.filterMap_map]
  congr 1
  funext s
  cases hareas : areas ix skipped s with
  | nil => simp [symbolCascade?, hareas, cascade?, distinct]
  | cons a as => simp [symbolCascade?, hareas]

private theorem feature_of_area {ix : Index} {symbols : List Symbol} {skipped : List String}
    {s : Symbol} (hs : s ∈ symbols.filter isFollowed) {a : ImpactedArea}
    (ha : a ∈ areas ix skipped s) :
    ∃ f ∈ features (reached ix symbols skipped), f.name = a.feature ∧ a ∈ f.areas := by
  have hreached : a ∈ reached ix symbols skipped := List.mem_flatMap.mpr ⟨s, hs, ha⟩
  refine ⟨_, mem_features_iff.mpr ⟨a, hreached, rfl⟩, groupName_of_mem_reached hreached, ?_⟩
  exact List.mem_filter.mpr ⟨hreached, beq_self_eq_true _⟩

/-- An analysis has a cascade for a changed symbol if and only if the areas of the symbol are in
more than one feature or belong to more than one service. Every feature of the cascade is a feature
of the analysis and holds an area of the symbol; the length is one more than a third of the calls
from other files, rounded up; and whatever is added to the index, the symbol has a cascade that
tells no less. -/
theorem analyze_cascades_grow (ix : Index) (predictors : List Predictor) (depth : Int)
    (symbols : List Symbol) (skipped : List String) (s : Symbol)
    (hs : s ∈ (analyze ix predictors depth symbols skipped).changed) :
    let r := analyze ix predictors depth symbols skipped
    r.cascades = r.changed.filterMap (symbolCascade? ix skipped) ∧
    ((symbolCascade? ix skipped s).isSome ↔
      Varied ((areas ix skipped s).map (·.feature)) ∨ Varied (services (areas ix skipped s))) ∧
    ∀ c, symbolCascade? ix skipped s = some c →
      (c.trigger = s.name ∧ ∀ name ∈ c.features,
        ∃ f ∈ r.features, f.name = name ∧ ∃ a ∈ areas ix skipped s, a ∈ f.areas) ∧
      (∀ m, c.length ≤ m + 1 ↔ indirect s (areas ix skipped s) ≤ 3 * m) ∧
      ∀ (path : String) (found : List Symbol) (more : List CallEdge),
        ∃ c', symbolCascade? (ix.add path found more) skipped s = some c' ∧
          c' ∈ (analyze (ix.add path found more) predictors depth symbols skipped).cascades ∧
          c.AtMost c' := by
  intro r
  refine ⟨analyze_cascades ix predictors depth symbols skipped,
    cascade?_isSome_iff s (areas ix skipped s), fun c hc => ?_⟩
  have hcascade := isCascade_of_cascade? hc
  refine ⟨⟨hcascade.trigger, fun name hname => ?_⟩, fun m => ?_, fun path found more => ?_⟩
  · rw [hcascade.features, mem_distinct, List.mem_map] at hname
    obtain ⟨a, ha, rfl⟩ := hname
    obtain ⟨f, hf, hnamed, hmem⟩ := feature_of_area hs ha
    exact ⟨f, (analyze_features ix predictors depth symbols skipped).symm ▸ hf, hnamed, a, ha, hmem⟩
  · rw [hcascade.length]
    exact cascadeLength_le_iff _ m
  · obtain ⟨c', hc', hle⟩ := cascade?_mono (areas_prefix_add ix skipped s path found more) hc
    refine ⟨c', hc', ?_, hle⟩
    rw [analyze_cascades]
    exact List.mem_filterMap.mpr ⟨s, hs, hc'⟩

/-- A payment is called by a service and from the billing code. -/
def spreadCalls : List CallEdge :=
  [⟨"checkout", "pay", "shop/order_service.py", 4⟩, ⟨"refund", "pay", "billing/refunds.py", 9⟩]

def spreadCascade : Cascade where
  trigger := "pay"
  features := ["Order", "Billing"]
  services := ["order_service"]
  length := 2
  severity := .low
  description := "Changing pay reaches 2 feature(s) and 1 service(s) through 2 call site(s)."

theorem spread_calls_cascade :
    paySymbol ∈ (analyze { calls := spreadCalls } [] 3 [paySymbol] []).changed ∧
      symbolCascade? { calls := spreadCalls } [] paySymbol = some spreadCascade ∧
      ∀ more : List CallEdge,
        ∃ c ∈ (analyze (({ calls := spreadCalls } : Index).add "web/cart.py" [] more) [] 3
          [paySymbol] []).cascades, spreadCascade.AtMost c := by
  have hchanged : paySymbol ∈ (analyze { calls := spreadCalls } [] 3 [paySymbol] []).changed := by
    decide +kernel
  have hcascade : symbolCascade? { calls := spreadCalls } [] paySymbol = some spreadCascade := by
    decide +kernel
  refine ⟨hchanged, hcascade, fun more => ?_⟩
  have hgrow :=
    analyze_cascades_grow { calls := spreadCalls } [] 3 [paySymbol] [] paySymbol hchanged
  obtain ⟨c, _, hc, hle⟩ := (hgrow.2.2 spreadCascade hcascade).2.2 "web/cart.py" [] more
  exact ⟨c, hc, hle⟩

end Impact

end PullReview
