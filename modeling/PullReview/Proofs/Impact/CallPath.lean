import PullReview.Proofs.Impact.Reach

/-!
# Paths of calls behind the links of a chain

The walk never leaves the call graph: a name on its queue calls its way to the changed symbol, and
its level is one more than the number of calls. So a link's level tells how long a path of calls
lies behind it, although the callers on that path need not have links of their own.
-/

namespace PullReview.Impact

private theorem IsCallPath.snoc {ix : Index} {name : String} {es : List CallEdge} {e d : CallEdge}
    (h : IsCallPath ix name (es ++ [e])) (hcall : d ∈ ix.calls) (hcallee : d.callee = e.caller) :
    IsCallPath ix name (es ++ [e] ++ [d]) := by
  induction es generalizing name with
  | nil => exact ⟨h.1, ⟨hcall, hcallee⟩, trivial⟩
  | cons a es ih => exact ⟨h.1, ih h.2⟩

/-- The call `e` is the outer end of a path of `n` calls to `root`. -/
def IsPathEnd (ix : Index) (root : String) (n : Int) (e : CallEdge) : Prop :=
  ∃ es, IsCallPath ix root (es ++ [e]) ∧ ((es ++ [e]).length : Int) = n

namespace IsPathEnd

variable {ix : Index} {root : String} {n : Int} {e d : CallEdge}

theorem direct (hcall : e ∈ ix.calls) (hcallee : e.callee = root) : IsPathEnd ix root 1 e :=
  ⟨[], ⟨⟨hcall, hcallee⟩, trivial⟩, rfl⟩

private theorem pos (h : IsPathEnd ix root n e) : 1 ≤ n := by
  obtain ⟨es, _, hlen⟩ := h
  rw [List.length_append, List.length_singleton] at hlen
  omega

private theorem outwards (h : IsPathEnd ix root n e) (hcall : d ∈ ix.calls)
    (hcallee : d.callee = e.caller) : IsPathEnd ix root (n + 1) d := by
  obtain ⟨es, hpath, hlen⟩ := h
  refine ⟨es ++ [e], hpath.snoc hcall hcallee, ?_⟩
  rw [List.length_append, List.length_singleton]
  omega

end IsPathEnd

/-- A link stands for the outer end of a path of calls whose length its level tells, and a link
beyond the second level says what it calls. -/
def ChainLink.IsReached (ix : Index) (root : String) (l : ChainLink) : Prop :=
  ∃ e, IsPathEnd ix root (max 1 (l.level - 1)) e ∧ e.caller = l.symbol ∧ e.file = l.file ∧
    (3 ≤ l.level → l.reason = "calls " ++ e.callee)

namespace Walk

/-- Every name on the queue calls its way to the root in one call less than its level. -/
structure Traced (ix : Index) (root : String) (w : Walk) : Prop where
  queue : ∀ p ∈ w.queue, ∃ e, e.caller = p.1 ∧ IsPathEnd ix root (p.2 - 1) e
  links : ∀ l ∈ w.links, ChainLink.IsReached ix root l

namespace Traced

variable {ix : Index} {root : String} {w : Walk}

theorem expand {x : String} {level : Int} {rest : List (String × Int)} (h : Traced ix root w)
    (hq : w.queue = (x, level) :: rest) (skipped : List String) :
    Traced ix root (expand skipped x level { w with queue := rest } (ix.callers x)) := by
  obtain ⟨e, hcaller, hend⟩ := h.queue (x, level) (by simp [hq])
  have hfound : ∀ d ∈ discoveries w.visited (ix.callers x),
      d.callee = x ∧ IsPathEnd ix root level d := by
    intro d hd
    obtain ⟨hcall, hcallee⟩ := List.mem_filter.mp (mem_discoveries hd).1
    have hcallee : d.callee = x := by simpa using hcallee
    have hout := hend.outwards hcall (hcallee.trans hcaller.symm)
    rw [Int.sub_add_cancel] at hout
    exact ⟨hcallee, hout⟩
  refine ⟨fun p hp => ?_, fun l hl => ?_⟩
  · rcases List.mem_append.mp hp with hp | hp
    · exact h.queue p (by simp [hq, show p ∈ rest from hp])
    · obtain ⟨d, hd, rfl⟩ := List.mem_map.mp hp
      refine ⟨d, rfl, ?_⟩
      rw [Int.add_sub_cancel]
      exact (hfound d hd).2
  · rcases List.mem_append.mp hl with hl | hl
    · exact h.links l hl
    · obtain ⟨d, hd, rfl⟩ := List.mem_map.mp hl
      obtain ⟨hcallee, hpath⟩ := hfound d (mem_openings hd).1
      have hpos := hpath.pos
      refine ⟨d, ?_, rfl, rfl, fun _ => by rw [hcallee]; rfl⟩
      rwa [callLink, Int.add_sub_cancel, Int.max_eq_right hpos]

theorem step (h : Traced ix root w) (skipped : List String) (depth : Int) :
    Traced ix root (w.step ix skipped depth) := by
  refine step_keeps (motive := Traced ix root) h ?_ ?_
  · intro x level rest hq _
    exact ⟨fun q hmem => h.queue q (by simp [hq, show q ∈ rest from hmem]), h.links⟩
  · intro x level rest hq _
    exact h.expand hq skipped

end Traced

end Walk

/-! ### Links of a chain -/

private theorem nearLinks_isCall {ix : Index} {skipped : List String} {s : Symbol} {l : ChainLink}
    (h : l ∈ nearLinks s (areas ix skipped s)) :
    l.level ≤ 2 ∧ ∃ e, IsPathEnd ix s.name 1 e ∧ e.caller = l.symbol ∧ e.file = l.file := by
  obtain ⟨a, ha, hlevel, hfile, hsymbol⟩ := nearLinks_origin h
  obtain ⟨e, hcall, hcallee, _, rfl⟩ := mem_areas.mp ha
  exact ⟨hlevel, e, .direct hcall hcallee, hsymbol.symm, hfile.symm⟩

private theorem start_traced (ix : Index) (skipped : List String) (s : Symbol) :
    Walk.Traced ix s.name (.start s.name (nearLinks s (areas ix skipped s))) := by
  refine ⟨fun p hp => ?_, fun l hl => ?_⟩
  · obtain ⟨l, hl, rfl⟩ := List.mem_map.mp hp
    obtain ⟨_, e, hend, hcaller, _⟩ := nearLinks_isCall hl
    exact ⟨e, hcaller, hend⟩
  · obtain ⟨hlevel, e, hend, hcaller, hfile⟩ := nearLinks_isCall hl
    refine ⟨e, ?_, hcaller, hfile, fun hdeep => by omega⟩
    rwa [Int.max_eq_left (by omega)]

private theorem symbolChain_isReached {ix : Index} {skipped : List String} {depth : Int}
    {s : Symbol} {l : ChainLink} (h : l ∈ (symbolChain ix skipped depth s).links) :
    ChainLink.IsReached ix s.name l := by
  obtain ⟨w, hlinks, hw⟩ := exists_walk_of_symbolChain (motive := Walk.Traced ix s.name)
    (start_traced ix skipped s) fun w hw => hw.step skipped depth
  exact hw.links l (hlinks ▸ h)

/-- Behind a link of level `n` lies a path of `n - 1` calls, or of one at the first level, from the
link's symbol and file to the changed symbol, and beyond the second level the link's reason is the
first of these calls. -/
theorem analyze_links_have_callPath (ix : Index) (predictors : List Predictor) (depth : Int)
    (symbols : List Symbol) (skipped : List String) (c : DependencyChain)
    (hc : c ∈ (analyze ix predictors depth symbols skipped).chains) :
    ∃ s ∈ symbols, c = symbolChain ix skipped depth s ∧
      ∀ l ∈ c.links, ∃ (es : List CallEdge) (e : CallEdge),
        IsCallPath ix s.name (es ++ [e]) ∧
        ((es ++ [e]).length : Int) = max 1 (l.level - 1) ∧
        e.caller = l.symbol ∧ e.file = l.file ∧
        (3 ≤ l.level → l.reason = "calls " ++ e.callee) := by
  obtain ⟨s, hs, -, rfl⟩ := mem_chains.mp hc
  refine ⟨s, hs, rfl, fun l hl => ?_⟩
  obtain ⟨e, ⟨es, hpath, hlen⟩, hlink⟩ := symbolChain_isReached hl
  exact ⟨es, e, hpath, hlen, hlink⟩

theorem payment_link_has_callPath :
    symbolChain { calls := paymentCalls } ["core.py"] 4 paySymbol ∈
        (analyze { calls := paymentCalls } [Predictor.rules] 4 [paySymbol] ["core.py"]).chains ∧
      ⟨4, "app.py", "serve", "calls handle"⟩ ∈
        (symbolChain { calls := paymentCalls } ["core.py"] 4 paySymbol).links ∧
      ∃ (es : List CallEdge) (e : CallEdge),
        IsCallPath { calls := paymentCalls } "pay" (es ++ [e]) ∧
        ((es ++ [e]).length : Int) = 3 ∧ e.caller = "serve" ∧ e.file = "app.py" ∧
        "calls handle" = "calls " ++ e.callee := by
  have hchain : symbolChain { calls := paymentCalls } ["core.py"] 4 paySymbol ∈
      (analyze { calls := paymentCalls } [Predictor.rules] 4 [paySymbol] ["core.py"]).chains :=
    mem_chains.mpr ⟨paySymbol, by simp, ⟨by decide, by decide⟩, rfl⟩
  have hlink : ⟨4, "app.py", "serve", "calls handle"⟩ ∈
      (symbolChain { calls := paymentCalls } ["core.py"] 4 paySymbol).links := by decide
  obtain ⟨s, hs, -, hpaths⟩ := analyze_links_have_callPath _ _ _ _ _ _ hchain
  obtain rfl := List.mem_singleton.mp hs
  obtain ⟨es, e, hpath, hlen, hcaller, hfile, hreason⟩ := hpaths _ hlink
  exact ⟨hchain, hlink, es, e, hpath, hlen, hcaller, hfile, hreason (by decide)⟩

end PullReview.Impact
