import PullReview.Proofs.Impact.Layers

/-!
# Chains of several depths

Two walks that start alike and stop at different depths do the same until the first name at the
lesser depth comes off the queue. From then on the queues hold nothing above that depth: the
shallow walk only runs out, and all links that the other one still finds lie deeper. So the chain
of the lesser depth is the part of the other chain within that depth.
-/

namespace PullReview.Impact

namespace Walk

/-- Only names at `depth` or beyond are still to be followed. -/
def PastDepth (depth : Int) (w : Walk) : Prop := ∀ p ∈ w.queue, depth ≤ p.2

section

variable {ix : Index} {skipped : List String} {d d' : Int} {w w' : Walk}

theorem PastDepth.step (h : PastDepth d w) : PastDepth d (w.step ix skipped d') := by
  refine step_keeps (motive := PastDepth d) h ?_ ?_
  · intro x level rest hq _ p hp
    exact h p (by simp [hq, show p ∈ rest from hp])
  · intro x level rest hq _ p hp
    rcases List.mem_append.mp hp with hp | hp
    · exact h p (by simp [hq, show p ∈ rest from hp])
    · obtain ⟨e, _, rfl⟩ := List.mem_map.mp hp
      exact Int.le_add_one (h (x, level) (by simp [hq]))

private theorem PastDepth.links_step (h : PastDepth d w) :
    (w.step ix skipped d).links = w.links := by
  refine step_keeps (motive := fun v => v.links = w.links) rfl (fun _ _ _ _ _ => rfl) ?_
  intro x level rest hq hd
  have hlevel : d ≤ level := h (x, level) (by simp [hq])
  omega

/-- The walk `w` stops at depth `d` and `w'` goes on: as long as they have not parted they are the
same, and afterwards both are past that depth. -/
structure Cut (d : Int) (w w' : Walk) : Prop where
  links : ∃ more, w'.links = w.links ++ more ∧ ∀ l ∈ more, d < l.level
  parted : w = w' ∨ PastDepth d w ∧ PastDepth d w'

namespace Cut

theorem refl (d : Int) (w : Walk) : Cut d w w :=
  ⟨⟨[], (List.append_nil _).symm, by simp⟩, Or.inl rfl⟩

private theorem step_past (h : Cut d w w') (hw : PastDepth d w) (hw' : PastDepth d w') :
    Cut d (w.step ix skipped d) (w'.step ix skipped d') := by
  obtain ⟨more, hmore, hdeep⟩ := h.links
  obtain ⟨found, hfound, hlevel⟩ := step_links ix skipped d' w'
  refine ⟨⟨more ++ found, ?_, ?_⟩, Or.inr ⟨hw.step, hw'.step⟩⟩
  · rw [hfound, hmore, hw.links_step, List.append_assoc]
  · intro l hl
    rcases List.mem_append.mp hl with hl | hl
    · exact hdeep l hl
    · obtain ⟨p, hp, heq⟩ := hlevel l hl
      rw [heq]
      exact Int.lt_add_one_of_le (hw' p hp)

theorem step {root : String} {taken : List (String × Int)} (h : Cut d w w') (hd : d ≤ d')
    (hf : Followed ix root d' taken w') :
    Cut d (w.step ix skipped d) (w'.step ix skipped d') := by
  rcases h.parted with rfl | ⟨hw, hw'⟩
  · cases hq : w.queue with
    | nil =>
        rw [step_nil hq, step_nil hq]
        exact refl d w
    | cons q rest =>
        by_cases hlevel : q.2 < d
        · rw [step_follow hq hlevel, step_follow hq (by omega)]
          exact refl d _
        · -- the queue is in the order of the levels, so all of it is past the lesser depth
          have hpast : PastDepth d w := by
            intro p hp
            have hlevels := hf.levels
            rw [hq] at hlevels hp
            rcases List.mem_cons.mp hp with rfl | hp
            · omega
            · have := hlevels.le_of_mem_queue hp
              omega
          exact h.step_past hpast hpast
  · exact h.step_past hw hw'

theorem steps {root : String} {taken : List (String × Int)} (h : Cut d w w') (hd : d ≤ d')
    (hf : Followed ix root d' taken w') (skipped : List String) (n : Nat) :
    Cut d (steps ix skipped d n w) (Walk.steps ix skipped d' n w') := by
  induction n generalizing w w' taken with
  | zero => exact h
  | succ n ih =>
      obtain ⟨taken', hf', _⟩ := hf.step skipped
      exact ih (h.step hd hf) hf'

end Cut

private theorem steps_links_le (n : Nat) (h : ∀ l ∈ w.links, l.level ≤ d) :
    ∀ l ∈ (steps ix skipped d n w).links, l.level ≤ d := by
  refine steps_keep (motive := fun w => ∀ l ∈ w.links, l.level ≤ d) h (fun w h => ?_) n
  refine step_keeps (motive := fun w => ∀ l ∈ w.links, l.level ≤ d) h (fun _ _ _ _ _ => h) ?_
  intro x level rest _ hd l hl
  rcases List.mem_append.mp hl with hl | hl
  · exact h l hl
  · obtain ⟨e, _, rfl⟩ := List.mem_map.mp hl
    exact hd

end

end Walk

/-! ### Chains -/

private theorem extendLinks_cut (ix : Index) (skipped : List String) (root : String) {d d' : Int}
    (hd : d ≤ d') {links : List ChainLink} (hnear : ∀ l ∈ links, l.level ≤ 2) :
    (∀ l ∈ extendLinks ix skipped d root links, l.level ≤ max 2 d) ∧
      ∃ more, extendLinks ix skipped d' root links =
          extendLinks ix skipped d root links ++ more ∧ ∀ l ∈ more, max 2 d < l.level := by
  have hstart := Walk.start_followed ix root d' links
  by_cases hshallow : d < 3
  · have hcut : extendLinks ix skipped d root links = links := if_pos hshallow
    rw [hcut]
    refine ⟨fun l hl => Int.le_trans (hnear l hl) (Int.le_max_left _ _), ?_⟩
    rw [extendLinks]
    split
    · exact ⟨[], (List.append_nil _).symm, by simp⟩
    · obtain ⟨more, hmore, hdeep⟩ := hstart.links skipped (links.length + ix.calls.length)
      refine ⟨more, hmore, fun l hl => ?_⟩
      have := hdeep l hl
      omega
  · have hcut := (Walk.Cut.refl d (Walk.start root links)).steps hd hstart skipped
      (links.length + ix.calls.length)
    have hbounded : ∀ l ∈ (Walk.start root links).links, l.level ≤ d := by
      intro l hl
      have := hnear l hl
      omega
    rw [Int.max_eq_right (by omega), extendLinks, extendLinks, if_neg hshallow,
      if_neg (by omega : ¬ d' < 3)]
    exact ⟨Walk.steps_links_le _ hbounded, hcut.links⟩

/-- A deeper search only extends a chain: the links within the lesser depth come first, and they are
the chain of that depth. The first two levels are part of every chain. -/
theorem chain_links_cut (ix : Index) (skipped : List String) (s : Symbol) (as : List ImpactedArea)
    (d d' : Int) (h : d ≤ d') :
    (chain ix skipped d s as).links <+: (chain ix skipped d' s as).links ∧
      (chain ix skipped d s as).links =
        (chain ix skipped d' s as).links.filter fun l => l.level ≤ max 2 d := by
  have hnear : ∀ l ∈ nearLinks s as, l.level ≤ 2 := by
    intro l hl
    have := (nearLinks_layers s as).levels l hl
    omega
  obtain ⟨hbounded, more, hmore, hdeep⟩ := extendLinks_cut ix skipped s.name h hnear
  change extendLinks ix skipped d s.name (nearLinks s as) <+:
      extendLinks ix skipped d' s.name (nearLinks s as) ∧
    extendLinks ix skipped d s.name (nearLinks s as) =
      (extendLinks ix skipped d' s.name (nearLinks s as)).filter fun l => l.level ≤ max 2 d
  rw [hmore]
  refine ⟨List.prefix_append _ _, ?_⟩
  have hkept : (extendLinks ix skipped d s.name (nearLinks s as)).filter
      (fun l => l.level ≤ max 2 d) = extendLinks ix skipped d s.name (nearLinks s as) := by
    rw [List.filter_eq_self]
    intro l hl
    exact decide_eq_true (hbounded l hl)
  have hgone : more.filter (fun l => l.level ≤ max 2 d) = [] := by
    rw [List.filter_eq_nil_iff]
    intro l hl
    have := hdeep l hl
    rw [decide_eq_true_eq]
    omega
  rw [List.filter_append, hkept, hgone, List.append_nil]

/-- The callers of `pay` go round in a circle, and `report` looks in from outside. -/
def circularCalls : List CallEdge :=
  [⟨"checkout", "pay", "orders.py", 4⟩, ⟨"handle", "checkout", "web.py", 9⟩,
    ⟨"serve", "handle", "app.py", 2⟩, ⟨"checkout", "serve", "orders.py", 7⟩,
    ⟨"report", "serve", "stats.py", 3⟩]

theorem circular_chain_cut :
    (3 : Int) ≤ 5 ∧
      (chain { calls := circularCalls } [] 3 paySymbol
          (areas { calls := circularCalls } [] paySymbol)).links =
        [⟨2, "orders.py", "checkout", "transitively depends on a level-1 file"⟩,
          ⟨3, "web.py", "handle", "calls checkout"⟩] ∧
      (chain { calls := circularCalls } [] 5 paySymbol
          (areas { calls := circularCalls } [] paySymbol)).links.length = 4 ∧
      (chain { calls := circularCalls } [] 3 paySymbol
          (areas { calls := circularCalls } [] paySymbol)).links =
        (chain { calls := circularCalls } [] 5 paySymbol
          (areas { calls := circularCalls } [] paySymbol)).links.filter fun l => l.level ≤ 3 :=
  ⟨by decide, by decide, by decide,
    (chain_links_cut { calls := circularCalls } [] paySymbol _ 3 5 (by decide)).2⟩

end PullReview.Impact
