import Mathlib.Data.List.Nodup
import PullReview.Proofs.Impact.Reach

/-!
# Layers of a chain

A chain is filled in three passes: callers named after the symbol or in its file, one caller for
every other file that calls it, and the walk. No pass after the first adds a file that the chain
covers, so a file beyond the first level has one link, and the passes come in the order of their
levels.
-/

namespace PullReview

/-- What every chain of an analysis keeps: `depth` is the depth of the walk, `near` are the files
that call the symbol, and `skipped` are the files under review. -/
structure DependencyChain.IsLayered (c : DependencyChain) (depth : Int)
    (near skipped : List String) : Prop where
  rising : c.links.Pairwise fun a b => a.level ≤ b.level
  bounded : ∀ l ∈ c.links, l.level ≤ max 2 depth
  distinct : c.links.Pairwise fun a b =>
    a.level = 1 → b.level = 1 → (a.file, a.symbol) ≠ (b.file, b.symbol)
  single : ∀ l ∈ c.links, 2 ≤ l.level → c.files.count l.file = 1
  covers : ∀ f, f ∈ near ↔ ∃ l ∈ c.links, (l.level = 1 ∨ l.level = 2) ∧ l.file = f
  outside : ∀ l ∈ c.links, l.file ∉ skipped
  total : c.affected = c.links.length

namespace Impact

/-! ### The first two levels -/

private theorem directLinks_level (s : Symbol) (as : List ImpactedArea) :
    ∀ l ∈ directLinks s as, l.level = 1 := by
  refine List.foldlRecOn (motive := fun links : List ChainLink => ∀ l ∈ links, l.level = 1) _ _
    (by simp) ?_
  intro links h a _
  split
  · exact h
  · intro l hl
    rcases List.mem_append.mp hl with hl | hl
    · exact h l hl
    · rw [List.mem_singleton.mp hl]

private theorem directLinks_distinct (s : Symbol) (as : List ImpactedArea) :
    (directLinks s as).Pairwise fun a b => (a.file, a.symbol) ≠ (b.file, b.symbol) := by
  refine List.foldlRecOn
    (motive := fun links : List ChainLink =>
      links.Pairwise fun a b => (a.file, a.symbol) ≠ (b.file, b.symbol)) _ _ .nil ?_
  intro links h a _
  split
  · exact h
  · rename_i hnew
    refine List.pairwise_append.mpr ⟨h, List.pairwise_singleton _ _, ?_⟩
    intro l hl m hm heq
    rw [List.mem_singleton.mp hm, Prod.mk.injEq] at heq
    exact hnew (List.any_eq_true.mpr ⟨l, hl, by simp [heq]⟩)

/-- The second pass adds links of the second level, each in a file of its own that no link of the
first pass covers. -/
private theorem addFileLinks_eq (links : List ChainLink) (as : List ImpactedArea) :
    ∃ more, addFileLinks links as = links ++ more ∧
      (∀ l ∈ more, l.level = 2 ∧ l.file ∉ links.map (·.file)) ∧ (more.map (·.file)).Nodup := by
  refine List.foldlRecOn
    (motive := fun out => ∃ more, out = links ++ more ∧
      (∀ l ∈ more, l.level = 2 ∧ l.file ∉ links.map (·.file)) ∧ (more.map (·.file)).Nodup)
    _ _ ⟨[], (List.append_nil links).symm, by simp, by simp⟩ ?_
  rintro _ ⟨more, rfl, hmore, hnodup⟩ a _
  split
  · exact ⟨more, rfl, hmore, hnodup⟩
  · rename_i hnew
    have hout : ∀ l ∈ links ++ more, l.file ≠ a.file := fun l hl heq =>
      hnew (List.any_eq_true.mpr ⟨l, hl, by simp [heq]⟩)
    refine ⟨more ++ [⟨2, a.file, a.method, "transitively depends on a level-1 file"⟩],
      List.append_assoc _ _ _, fun l hl => ?_, ?_⟩
    · rcases List.mem_append.mp hl with hl | hl
      · exact hmore l hl
      · rw [List.mem_singleton.mp hl]
        refine ⟨rfl, fun hf => ?_⟩
        obtain ⟨m, hm, heq⟩ := List.mem_map.mp hf
        exact hout m (List.mem_append_left _ hm) heq
    · rw [List.map_append, List.nodup_append]
      refine ⟨hnodup, by simp, ?_⟩
      intro f hf g hg
      obtain ⟨m, hm, rfl⟩ := List.mem_map.mp hf
      obtain rfl : g = a.file := by simpa using hg
      exact hout m (List.mem_append_right _ hm)

/-- The links of the first two levels, the first level before the second. -/
structure NearLayers (links : List ChainLink) : Prop where
  levels : ∀ l ∈ links, l.level = 1 ∨ l.level = 2
  rising : links.Pairwise fun a b => a.level ≤ b.level
  distinct : links.Pairwise fun a b =>
    a.level = 1 → b.level = 1 → (a.file, a.symbol) ≠ (b.file, b.symbol)
  single : ∀ l ∈ links, 2 ≤ l.level → (links.map (·.file)).count l.file = 1

theorem nearLinks_layers (s : Symbol) (as : List ImpactedArea) : NearLayers (nearLinks s as) := by
  obtain ⟨more, heq, hmore, hnodup⟩ := addFileLinks_eq (directLinks s as) as
  have hone := directLinks_level s as
  rw [nearLinks, heq]
  refine ⟨fun l hl => ?_, ?_, ?_, fun l hl htwo => ?_⟩
  · rcases List.mem_append.mp hl with hl | hl
    · exact Or.inl (hone l hl)
    · exact Or.inr (hmore l hl).1
  · refine List.pairwise_append.mpr ⟨List.pairwise_of_forall_mem_list fun a ha b hb => ?_,
      List.pairwise_of_forall_mem_list fun a ha b hb => ?_, fun a ha b hb => ?_⟩
    · exact Int.le_of_eq ((hone a ha).trans (hone b hb).symm)
    · exact Int.le_of_eq ((hmore a ha).1.trans (hmore b hb).1.symm)
    · rw [hone a ha, (hmore b hb).1]
      decide
  · refine List.pairwise_append.mpr ⟨?_, List.pairwise_of_forall_mem_list fun a ha b _ h1 => ?_,
      fun a _ b hb _ h1 => ?_⟩
    · exact (directLinks_distinct s as).imp fun h _ _ => h
    · rw [(hmore a ha).1] at h1
      exact absurd h1 (by decide)
    · rw [(hmore b hb).1] at h1
      exact absurd h1 (by decide)
  · rcases List.mem_append.mp hl with hl | hl
    · have := hone l hl
      omega
    · rw [List.map_append, List.count_append, List.count_eq_zero.mpr (hmore l hl).2,
        List.count_eq_one_of_mem hnodup (List.mem_map_of_mem hl)]

/-! ### The walk -/

namespace Walk

private theorem openings_nodup (skipped files : List String) (es : List CallEdge) :
    ((openings skipped files es).map (·.file)).Nodup := by
  induction es generalizing files with
  | nil => simp [openings]
  | cons a es ih =>
      by_cases ha : (files.contains a.file || skipped.contains a.file)
      · simp only [openings, ha, if_true]
        exact ih files
      · simp only [openings, ha, if_false, Bool.false_eq_true, List.map_cons, List.nodup_cons]
        refine ⟨fun hmem => ?_, ih _⟩
        obtain ⟨e, he, heq⟩ := List.mem_map.mp hmem
        exact (mem_openings he).2.1 (by simp [heq])

section

variable {skipped files : List String} {es : List CallEdge}

private theorem mem_callLinks {x : String} {level : Int} {l : ChainLink}
    (h : l ∈ (openings skipped files es).map (callLink x level)) :
    l.level = level + 1 ∧ l.file ∉ files ∧ l.file ∉ skipped ∧
      l.file ∈ (openings skipped files es).map (·.file) := by
  obtain ⟨e, he, rfl⟩ := List.mem_map.mp h
  exact ⟨rfl, (mem_openings he).2.1, (mem_openings he).2.2, List.mem_map_of_mem he⟩

private theorem count_openings_of_mem {f : String} (h : f ∈ files) :
    (files ++ (openings skipped files es).map (·.file)).count f = files.count f := by
  have hnone : f ∉ (openings skipped files es).map (·.file) := by
    intro hf
    obtain ⟨e, he, rfl⟩ := List.mem_map.mp hf
    exact (mem_openings he).2.1 h
  rw [List.count_append, List.count_eq_zero.mpr hnone, Nat.add_zero]

private theorem count_openings_of_opened {f : String}
    (h : f ∈ (openings skipped files es).map (·.file)) :
    (files ++ (openings skipped files es).map (·.file)).count f = 1 := by
  have hnew : f ∉ files := by
    obtain ⟨e, he, rfl⟩ := List.mem_map.mp h
    exact (mem_openings he).2.1
  rw [List.count_append, List.count_eq_zero.mpr hnew,
    List.count_eq_one_of_mem (openings_nodup skipped files es) h]

end

/-- The links so far are in the order of their levels, none lies more than a level beyond a name
still to be followed, and a file beyond the first level has one link. -/
structure Layered (skipped : List String) (depth : Int) (w : Walk) : Prop where
  files : w.files = w.links.map (·.file)
  rising : w.links.Pairwise fun a b => a.level ≤ b.level
  ahead : ∀ l ∈ w.links, ∀ p ∈ w.queue, l.level ≤ p.2 + 1
  bounded : ∀ l ∈ w.links, l.level ≤ max 2 depth
  single : ∀ l ∈ w.links, 2 ≤ l.level → w.files.count l.file = 1
  outside : ∀ l ∈ w.links, l.file ∉ skipped

namespace Layered

variable {ix : Index} {root : String} {skipped : List String} {depth : Int} {w : Walk} {x : String}
  {level : Int} {rest : List (String × Int)}

theorem expand (h : Layered skipped depth w) (hq : w.queue = (x, level) :: rest)
    (hd : level < depth) (hrest : ∀ p ∈ rest, level ≤ p.2) :
    Layered skipped depth (expand skipped x level { w with queue := rest } (ix.callers x)) := by
  let found := discoveries w.visited (ix.callers x)
  have hold : ∀ l ∈ w.links, l.level ≤ level + 1 :=
    fun l hl => h.ahead l hl (x, level) (by simp [hq])
  have hnew : ∀ l ∈ (openings skipped w.files found).map (callLink x level),
      l.level = level + 1 := fun l hl => (mem_callLinks hl).1
  have hqueue : ∀ p ∈ rest ++ found.map fun e => (e.caller, level + 1), level ≤ p.2 := by
    intro p hp
    rcases List.mem_append.mp hp with hp | hp
    · exact hrest p hp
    · obtain ⟨e, _, rfl⟩ := List.mem_map.mp hp
      simp only
      omega
  refine ⟨?_, ?_, ?_, ?_, ?_, ?_⟩
  · exact expand_files h.files skipped x level (ix.callers x)
  · refine List.pairwise_append.mpr ⟨h.rising, List.pairwise_of_forall_mem_list fun a ha b hb => ?_,
      fun a ha b hb => ?_⟩
    · exact Int.le_of_eq ((hnew a ha).trans (hnew b hb).symm)
    · rw [hnew b hb]
      exact hold a ha
  · intro l hl p hp
    have hp := hqueue p hp
    rcases List.mem_append.mp hl with hl | hl
    · have := hold l hl
      omega
    · have := hnew l hl
      omega
  · intro l hl
    rcases List.mem_append.mp hl with hl | hl
    · exact h.bounded l hl
    · have := hnew l hl
      omega
  · intro l hl htwo
    rcases List.mem_append.mp hl with hl | hl
    · have hmem : l.file ∈ w.files := by
        rw [h.files]
        exact List.mem_map_of_mem hl
      exact (count_openings_of_mem hmem).trans (h.single l hl htwo)
    · exact count_openings_of_opened (mem_callLinks hl).2.2.2
  · intro l hl
    rcases List.mem_append.mp hl with hl | hl
    · exact h.outside l hl
    · exact (mem_callLinks hl).2.2.1

theorem step {taken : List (String × Int)} (h : Layered skipped depth w)
    (hf : Followed ix root depth taken w) : Layered skipped depth (w.step ix skipped depth) := by
  refine step_keeps (motive := Layered skipped depth) h ?_ ?_
  · intro x level rest hq _
    refine ⟨h.files, h.rising, fun l hl q hmem => ?_, h.bounded, h.single, h.outside⟩
    exact h.ahead l hl q (by simp [hq, show q ∈ rest from hmem])
  · intro x level rest hq hd
    have hlevels := hf.levels
    rw [hq] at hlevels
    exact h.expand hq hd fun q hmem => hlevels.le_of_mem_queue hmem

end Layered

private theorem start_layered (ix : Index) (skipped : List String) (depth : Int) (s : Symbol) :
    Layered skipped depth (start s.name (nearLinks s (areas ix skipped s))) := by
  have hnear := nearLinks_layers s (areas ix skipped s)
  refine ⟨rfl, hnear.rising, fun l hl p hp => ?_, fun l hl => ?_, hnear.single, fun l hl => ?_⟩
  · obtain ⟨m, _, rfl⟩ := List.mem_map.mp hp
    have := hnear.levels l hl
    simp only
    omega
  · have := hnear.levels l hl
    omega
  · obtain ⟨a, ha, _, hfile, _⟩ := nearLinks_origin hl
    obtain ⟨e, _, _, hout, rfl⟩ := mem_areas.mp ha
    rw [hfile]
    exact hout

end Walk

/-! ### Chains -/

private theorem symbolChain_layered (ix : Index) (skipped : List String) (depth : Int)
    (s : Symbol) :
    ∃ w : Walk, w.links = (symbolChain ix skipped depth s).links ∧ w.Layered skipped depth := by
  have hstep : ∀ w : Walk,
      (w.Layered skipped depth ∧ ∃ taken, Walk.Followed ix s.name depth taken w) →
      (w.step ix skipped depth).Layered skipped depth ∧
        ∃ taken, Walk.Followed ix s.name depth taken (w.step ix skipped depth) := by
    rintro w ⟨hw, taken, hf⟩
    obtain ⟨taken', hf', -⟩ := hf.step skipped
    exact ⟨hw.step hf, taken', hf'⟩
  obtain ⟨w, hlinks, hw, -⟩ := exists_walk_of_symbolChain
    (motive := fun w => w.Layered skipped depth ∧ ∃ taken, Walk.Followed ix s.name depth taken w)
    ⟨Walk.start_layered ix skipped depth s, [], Walk.start_followed ix s.name depth _⟩ hstep
  exact ⟨w, hlinks, hw⟩

private theorem symbolChain_distinct (ix : Index) (skipped : List String) (depth : Int)
    (s : Symbol) :
    (symbolChain ix skipped depth s).links.Pairwise fun a b =>
      a.level = 1 → b.level = 1 → (a.file, a.symbol) ≠ (b.file, b.symbol) := by
  obtain ⟨more, hlinks, hdeep⟩ := symbolChain_links ix skipped depth s
  rw [hlinks]
  refine List.pairwise_append.mpr ⟨(nearLinks_layers s _).distinct,
    List.pairwise_of_forall_mem_list fun a ha b _ h1 => ?_, fun a _ b hb _ h1 => ?_⟩
  · have := hdeep a ha
    omega
  · have := hdeep b hb
    omega

private theorem symbolChain_covers (ix : Index) (skipped : List String) (depth : Int) (s : Symbol)
    (f : String) :
    f ∈ (areas ix skipped s).map (·.file) ↔
      ∃ l ∈ (symbolChain ix skipped depth s).links, (l.level = 1 ∨ l.level = 2) ∧ l.file = f := by
  constructor
  · intro hf
    obtain ⟨a, ha, rfl⟩ := List.mem_map.mp hf
    obtain ⟨l, hl, hfile⟩ := List.mem_map.mp (nearLinks_covers s ha)
    obtain ⟨more, hlinks, _⟩ := symbolChain_links ix skipped depth s
    exact ⟨l, hlinks ▸ List.mem_append_left _ hl, (nearLinks_layers s _).levels l hl, hfile⟩
  · rintro ⟨l, hl, hlevel, rfl⟩
    obtain ⟨a, ha, _, hfile, _⟩ := nearLinks_origin (mem_nearLinks_of_level hl (by omega))
    exact List.mem_map.mpr ⟨a, ha, hfile.symm⟩

/-- Every chain of an analysis is layered over the files of its symbol's areas. -/
theorem analyze_chains_layered (ix : Index) (predictors : List Predictor) (depth : Int)
    (symbols : List Symbol) (skipped : List String) (c : DependencyChain)
    (hc : c ∈ (analyze ix predictors depth symbols skipped).chains) :
    ∃ s ∈ symbols, c = symbolChain ix skipped depth s ∧
      c.IsLayered depth ((areas ix skipped s).map (·.file)) skipped := by
  obtain ⟨s, hs, -, rfl⟩ := mem_chains.mp hc
  obtain ⟨w, hlinks, hw⟩ := symbolChain_layered ix skipped depth s
  refine ⟨s, hs, rfl, ?_⟩
  exact {
    rising := hlinks ▸ hw.rising
    bounded := hlinks ▸ hw.bounded
    distinct := symbolChain_distinct ix skipped depth s
    single := by
      rw [DependencyChain.files, ← hlinks, ← hw.files]
      exact hw.single
    covers := symbolChain_covers ix skipped depth s
    outside := hlinks ▸ hw.outside
    total := rfl }

/-- Of the callers of `checkout`, one stands in its own file. -/
def checkoutSymbol : Symbol :=
  { name := "checkout", kind := "function", file := "web.py", startLine := 5, endLine := 9 }

theorem checkout_chain_layered :
    symbolChain { calls := paymentCalls } ["core.py"] 4 checkoutSymbol ∈
        (analyze { calls := paymentCalls } [Predictor.rules] 4 [checkoutSymbol]
          ["core.py"]).chains ∧
      (symbolChain { calls := paymentCalls } ["core.py"] 4 checkoutSymbol).links =
        [⟨1, "web.py", "handle", "directly calls checkout"⟩,
          ⟨2, "test_web.py", "handle", "transitively depends on a level-1 file"⟩,
          ⟨3, "app.py", "serve", "calls handle"⟩] ∧
      (symbolChain { calls := paymentCalls } ["core.py"] 4 checkoutSymbol).IsLayered 4
        ["web.py", "test_web.py"] ["core.py"] := by
  have hchain : symbolChain { calls := paymentCalls } ["core.py"] 4 checkoutSymbol ∈
      (analyze { calls := paymentCalls } [Predictor.rules] 4 [checkoutSymbol] ["core.py"]).chains :=
    mem_chains.mpr ⟨checkoutSymbol, by simp, ⟨by decide, by decide⟩, rfl⟩
  obtain ⟨s, hs, -, hlayered⟩ := analyze_chains_layered _ _ _ _ _ _ hchain
  obtain rfl := List.mem_singleton.mp hs
  exact ⟨hchain, by decide, hlayered⟩

end Impact

end PullReview
