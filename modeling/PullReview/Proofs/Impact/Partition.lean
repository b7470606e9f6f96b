import Mathlib.Algebra.GroupWithZero.Nat
import Mathlib.Logic.ExistsUnique
import PullReview.Impact
import PullReview.Proofs.Feature
import PullReview.Proofs.Table.Order

/-!
# Call sites by feature

An analysis has several views of the calls that it found: the sites themselves, the files they are
in, and the features with their areas, files and risks. All are views of one list of areas, which
the features divide among themselves by their names.
-/

namespace PullReview

/-! ### The highest level -/

namespace Level

/-- The higher of two levels, the first one if they rank alike. -/
def higher (best x : Level) : Level := if best.rank < x.rank then x else best

private theorem highest_cons (l : Level) (ls : List Level) :
    highest (l :: ls) = ls.foldl higher l := rfl

private theorem foldl_higher (best : Level) (ls : List Level) :
    ls.foldl higher best ∈ best :: ls ∧
      ∀ l ∈ best :: ls, l.rank ≤ (ls.foldl higher best).rank := by
  induction ls generalizing best with
  | nil => simp
  | cons l ls ih =>
      obtain ⟨hmem, hle⟩ := ih (higher best l)
      have hstep : higher best l = best ∨ higher best l = l := by
        rw [higher]
        split
        · exact Or.inr rfl
        · exact Or.inl rfl
      have hrank : best.rank ≤ (higher best l).rank ∧ l.rank ≤ (higher best l).rank := by
        rw [higher]
        split <;> omega
      have hbest := hle _ List.mem_cons_self
      rw [List.foldl_cons]
      refine ⟨?_, ?_⟩
      · rcases List.mem_cons.mp hmem with htop | hmem
        · rw [htop]
          rcases hstep with hstep | hstep <;> simp [hstep]
        · simp [hmem]
      · intro x hx
        rcases List.mem_cons.mp hx with rfl | hx
        · exact Nat.le_trans hrank.1 hbest
        · rcases List.mem_cons.mp hx with rfl | hx
          · exact Nat.le_trans hrank.2 hbest
          · exact hle x (List.mem_cons_of_mem _ hx)

private theorem highest_spec {ls : List Level} (h : ls ≠ []) :
    highest ls ∈ ls ∧ ∀ l ∈ ls, l.rank ≤ (highest ls).rank := by
  cases ls with
  | nil => exact absurd rfl h
  | cons l ls =>
      rw [highest_cons]
      exact foldl_higher l ls

end Level

namespace Impact

/-! ### Groups -/

/-- The name under which an area is grouped. -/
def groupName (a : ImpactedArea) : String := if a.feature == "" then "Unknown" else a.feature

/-- The areas that are grouped under a name. -/
def members (as : List ImpactedArea) (name : String) : List ImpactedArea :=
  as.filter (groupName · == name)

private theorem grouped_keys (as : List ImpactedArea) :
    IsFirstOccurrences (as.map groupName) (grouped as).keys :=
  Table.keys_isFirstOccurrences groupName (fun a old => old.getD [] ++ [a]) as

private theorem get?_grouped (as : List ImpactedArea) (name : String) :
    (grouped as).get? name =
      if name ∈ as.map groupName then some (members as name) else none := by
  have hget := Table.get?_gather groupName (fun a => [a]) as name
  rwa [List.flatMap_singleton'] at hget

private theorem grouped_perm (as : List ImpactedArea) :
    ((grouped as).entries.flatMap Prod.snd).Perm as := by
  have hperm := Table.flatMap_gather groupName (fun a => [a]) as {}
  rwa [List.flatMap_singleton'] at hperm

theorem mem_features_iff {as : List ImpactedArea} {f : ImpactedFeature} :
    f ∈ features as ↔ ∃ a ∈ as, f = feature (groupName a) (members as (groupName a)) := by
  have hentry : ∀ name group, (name, group) ∈ (grouped as).entries ↔
      name ∈ as.map groupName ∧ group = members as name := by
    intro name group
    rw [← Table.get?_eq_some_iff (grouped_keys as).nodup, get?_grouped]
    split
    · rename_i hname
      simp [hname, eq_comm]
    · rename_i hname
      simp [hname]
  rw [features, List.mem_map]
  constructor
  · rintro ⟨⟨name, group⟩, he, rfl⟩
    obtain ⟨hname, rfl⟩ := (hentry name group).mp he
    obtain ⟨a, ha, rfl⟩ := List.mem_map.mp hname
    exact ⟨a, ha, rfl⟩
  · rintro ⟨a, ha, rfl⟩
    exact ⟨_, (hentry _ _).mpr ⟨List.mem_map_of_mem ha, rfl⟩, rfl⟩

private theorem map_name_features (as : List ImpactedArea) :
    (features as).map (·.name) = (grouped as).keys := by
  rw [features, List.map_map]
  rfl

private theorem flatMap_areas_features (as : List ImpactedArea) :
    ((features as).flatMap (·.areas)).Perm as := by
  rw [features, List.flatMap_map]
  exact grouped_perm as

/-- Every area lies in one feature and no other. -/
theorem existsUnique_feature {as : List ImpactedArea} {a : ImpactedArea} (ha : a ∈ as) :
    ∃! f, f ∈ features as ∧ a ∈ f.areas := by
  refine ⟨feature (groupName a) (members as (groupName a)), ⟨?_, ?_⟩, ?_⟩
  · exact mem_features_iff.mpr ⟨a, ha, rfl⟩
  · exact List.mem_filter.mpr ⟨ha, beq_self_eq_true _⟩
  · rintro f ⟨hf, hmem⟩
    obtain ⟨b, -, rfl⟩ := mem_features_iff.mp hf
    have hname : groupName a = groupName b := by
      simpa using (List.mem_filter.mp hmem).2
    rw [hname]

private theorem mem_files_iff {as : List ImpactedArea} {f : ImpactedFeature} (h : f ∈ features as)
    (path : String) : path ∈ f.files ↔ ∃ a ∈ f.areas, a.file = path := by
  obtain ⟨a, -, rfl⟩ := mem_features_iff.mp h
  rw [feature, mem_distinct, List.mem_map]

private theorem features_risk {as : List ImpactedArea} {f : ImpactedFeature} (h : f ∈ features as) :
    (∃ a ∈ f.areas, a.risk = f.risk) ∧ ∀ a ∈ f.areas, a.risk.rank ≤ f.risk.rank := by
  obtain ⟨a, ha, rfl⟩ := mem_features_iff.mp h
  have hmem : a ∈ members as (groupName a) := List.mem_filter.mpr ⟨ha, beq_self_eq_true _⟩
  have hne : (members as (groupName a)).map (·.risk) ≠ [] :=
    List.ne_nil_of_mem (List.mem_map_of_mem hmem)
  obtain ⟨hin, hle⟩ := Level.highest_spec hne
  exact ⟨List.mem_map.mp hin, fun b hb => hle b.risk (List.mem_map_of_mem hb)⟩

/-! ### The areas of an analysis -/

/-- All areas of the symbols that are followed, symbol by symbol. -/
def reached (ix : Index) (symbols : List Symbol) (skipped : List String) : List ImpactedArea :=
  (symbols.filter isFollowed).flatMap (areas ix skipped)

section

variable (ix : Index) (predictors : List Predictor) (depth : Int) (symbols : List Symbol)
  (skipped : List String)

private theorem analyze_callSites :
    (analyze ix predictors depth symbols skipped).callSites =
      (reached ix symbols skipped).map (·.callSite) := by
  rw [analyze, reached, List.flatMap_map]

private theorem analyze_files :
    (analyze ix predictors depth symbols skipped).files =
      distinct ((reached ix symbols skipped).map (·.file)) := by
  rw [analyze, reached, List.flatMap_map]

theorem analyze_features :
    (analyze ix predictors depth symbols skipped).features =
      features (reached ix symbols skipped) := by
  rw [analyze, reached, List.flatMap_map]

end

variable {ix : Index} {symbols : List Symbol} {skipped : List String}

private theorem exists_area_of_mem_reached {a : ImpactedArea} (h : a ∈ reached ix symbols skipped) :
    ∃ s e, a = area s e := by
  obtain ⟨s, -, ha⟩ := List.mem_flatMap.mp h
  obtain ⟨e, -, rfl⟩ := List.mem_map.mp ha
  exact ⟨s, e, rfl⟩

private theorem area_feature (s : Symbol) (e : CallEdge) :
    (area s e).feature = Feature.ofPath e.file := by
  rw [area]

private theorem feature_ne_empty_of_mem_reached {a : ImpactedArea}
    (h : a ∈ reached ix symbols skipped) : a.feature ≠ "" := by
  obtain ⟨s, e, rfl⟩ := exists_area_of_mem_reached h
  rw [area_feature]
  exact Feature.ofPath_ne_empty e.file

theorem groupName_of_mem_reached {a : ImpactedArea} (h : a ∈ reached ix symbols skipped) :
    groupName a = a.feature := by
  rw [groupName, if_neg (by simpa using feature_ne_empty_of_mem_reached h)]

private theorem members_reached (name : String) :
    members (reached ix symbols skipped) name =
      (reached ix symbols skipped).filter fun a => a.feature = name := by
  apply List.filter_congr
  intro a ha
  rw [groupName_of_mem_reached ha]
  rfl

private theorem map_file_reached :
    (reached ix symbols skipped).map (·.file) =
      ((reached ix symbols skipped).map (·.callSite)).map (·.file) := by
  rw [List.map_map]
  apply List.map_congr_left
  intro a ha
  obtain ⟨s, e, rfl⟩ := exists_area_of_mem_reached ha
  rfl

private theorem isFollowed_eq (s : Symbol) :
    isFollowed s = decide (s.kind ∈ ["method", "function", "class"]) := by
  rw [Bool.eq_iff_iff]
  simp [isFollowed, Symbol.isCallable, or_assoc]

private theorem map_callSite_areas (ix : Index) (skipped : List String) (s : Symbol) :
    (areas ix skipped s).map (·.callSite) =
      ix.calls.filter fun e => e.callee = s.name ∧ e.file ∉ skipped := by
  have hsite : (·.callSite) ∘ area s = id := rfl
  rw [areas, List.map_map, hsite, List.map_id, Index.callers, List.filter_filter]
  apply List.filter_congr
  intro e _
  by_cases hname : e.callee = s.name <;> by_cases hfile : e.file ∈ skipped <;> simp [hname, hfile]

/-- How the views of the call sites in an analysis agree with each other and with the index; `areas`
are the areas of all followed symbols. -/
structure Partitioned (ix : Index) (symbols : List Symbol) (skipped : List String)
    (areas : List ImpactedArea) (r : ImpactAnalysis) : Prop where
  callSites : r.callSites =
    (symbols.filter fun s => s.kind ∈ ["method", "function", "class"]).flatMap fun s =>
      ix.calls.filter fun e => e.callee = s.name ∧ e.file ∉ skipped
  sites : areas.map (·.callSite) = r.callSites
  ordered : ∀ f ∈ r.features, f.areas = areas.filter fun a => a.feature = f.name
  single : ∀ a ∈ areas, ∃! f, f ∈ r.features ∧ a ∈ f.areas
  complete : (r.features.flatMap (·.areas)).Perm areas
  counts : (r.features.map (·.areas.length)).sum = r.callSites.length
  names : (r.features.map (·.name)).Nodup
  named : ∀ f ∈ r.features, f.name ≠ ""
  files : IsFirstOccurrences (r.callSites.map (·.file)) r.files
  union : ∀ path, path ∈ r.files ↔ ∃ f ∈ r.features, path ∈ f.files
  risk : ∀ f ∈ r.features, (∃ a ∈ f.areas, a.risk = f.risk) ∧
    ∀ a ∈ f.areas, a.risk.rank ≤ f.risk.rank

/-- The features of an analysis divide its call sites among themselves. -/
theorem analyze_partitions_callSites (ix : Index) (predictors : List Predictor) (depth : Int)
    (symbols : List Symbol) (skipped : List String) :
    Partitioned ix symbols skipped (reached ix symbols skipped)
      (analyze ix predictors depth symbols skipped) where
  callSites := by
    rw [analyze_callSites, reached, List.map_flatMap]
    simp only [map_callSite_areas]
    rw [List.filter_congr fun s _ => isFollowed_eq s]
  sites := (analyze_callSites ix predictors depth symbols skipped).symm
  ordered := by
    intro f hf
    rw [analyze_features] at hf
    obtain ⟨a, -, rfl⟩ := mem_features_iff.mp hf
    exact members_reached (groupName a)
  single := by
    intro a ha
    rw [analyze_features]
    exact existsUnique_feature ha
  complete := by
    rw [analyze_features]
    exact flatMap_areas_features _
  counts := by
    rw [analyze_features, analyze_callSites, List.length_map, ← List.length_flatMap]
    exact (flatMap_areas_features _).length_eq
  names := by
    rw [analyze_features, map_name_features]
    exact (grouped_keys _).nodup
  named := by
    intro f hf
    rw [analyze_features] at hf
    obtain ⟨a, ha, rfl⟩ := mem_features_iff.mp hf
    rw [feature, groupName_of_mem_reached ha]
    exact feature_ne_empty_of_mem_reached ha
  files := by
    rw [analyze_files, analyze_callSites, ← map_file_reached]
    exact distinct_isFirstOccurrences _
  union := by
    intro path
    rw [analyze_files, analyze_features, mem_distinct, List.mem_map]
    constructor
    · rintro ⟨a, ha, hpath⟩
      obtain ⟨f, ⟨hf, hmem⟩, -⟩ := existsUnique_feature ha
      exact ⟨f, hf, (mem_files_iff hf path).mpr ⟨a, hmem, hpath⟩⟩
    · rintro ⟨f, hf, hpath⟩
      obtain ⟨a, hmem, hpath⟩ := (mem_files_iff hf path).mp hpath
      exact ⟨a, (flatMap_areas_features _).subset (List.mem_flatMap.mpr ⟨f, hf, hmem⟩), hpath⟩
  risk := by
    intro f hf
    rw [analyze_features] at hf
    exact features_risk hf

end Impact

end PullReview
