import PullReview.Impact
import PullReview.Proofs.Impact.Walk

/-!
# What a dependency chain reaches

The chain of a changed symbol covers every file that calls it, and the walk behind it reaches all
callers of callers that a path of calls leads to, within its depth. It comes to every caller once,
so a file on such a path can be missing only if the walk came to the caller from another file.
-/

namespace PullReview

/-- The files a chain covers, one for every link. -/
def DependencyChain.files (c : DependencyChain) : List String := c.links.map (·.file)

namespace Impact

/-- A path of calls that ends at `name`, from the call of `name` outwards. -/
def IsCallPath (ix : Index) : String → List CallEdge → Prop
  | _, [] => True
  | name, e :: es => (e ∈ ix.calls ∧ e.callee = name) ∧ IsCallPath ix e.caller es

instance IsCallPath.decidable (ix : Index) :
    (name : String) → (es : List CallEdge) → Decidable (IsCallPath ix name es)
  | _, [] => .isTrue trivial
  | name, e :: es =>
      have := IsCallPath.decidable ix e.caller es
      inferInstanceAs (Decidable ((e ∈ ix.calls ∧ e.callee = name) ∧ IsCallPath ix e.caller es))

/-- The chain that an analysis has for a symbol. -/
def symbolChain (ix : Index) (skipped : List String) (depth : Int) (s : Symbol) :
    DependencyChain :=
  chain ix skipped depth s (areas ix skipped s)

/-- The symbols with a chain are those that are followed and called from outside the review. -/
theorem mem_chains {ix : Index} {predictors : List Predictor} {depth : Int}
    {symbols : List Symbol} {skipped : List String} {c : DependencyChain} :
    c ∈ (analyze ix predictors depth symbols skipped).chains ↔
      ∃ s ∈ symbols, (isFollowed s ∧ areas ix skipped s ≠ []) ∧
        c = symbolChain ix skipped depth s := by
  simp only [analyze, List.mem_map, List.mem_filter, symbolChain]
  constructor
  · rintro ⟨_, ⟨⟨s, ⟨hs, hf⟩, rfl⟩, ha⟩, rfl⟩
    exact ⟨s, hs, ⟨hf, by simpa using ha⟩, rfl⟩
  · rintro ⟨s, hs, ⟨hf, ha⟩, rfl⟩
    exact ⟨(s, areas ix skipped s), ⟨⟨s, ⟨hs, hf⟩, rfl⟩, by simpa using ha⟩, rfl⟩

theorem mem_areas {ix : Index} {skipped : List String} {s : Symbol} {a : ImpactedArea} :
    a ∈ areas ix skipped s ↔
      ∃ e ∈ ix.calls, e.callee = s.name ∧ e.file ∉ skipped ∧ area s e = a := by
  simp only [areas, Index.callers, List.mem_map, List.mem_filter, beq_iff_eq, Bool.not_eq_true',
    List.contains_eq_mem, decide_eq_false_iff_not, and_assoc]

/-! ### The first two levels -/

/-- The links of the first two levels. -/
def nearLinks (s : Symbol) (as : List ImpactedArea) : List ChainLink :=
  addFileLinks (directLinks s as) as

private theorem mem_foldl_origin {P : ImpactedArea → ChainLink → Prop}
    {f : List ChainLink → ImpactedArea → List ChainLink}
    (hf : ∀ links a l, l ∈ f links a → l ∈ links ∨ P a l) {as : List ImpactedArea}
    {links : List ChainLink} {l : ChainLink} (h : l ∈ as.foldl f links) :
    l ∈ links ∨ ∃ a ∈ as, P a l := by
  induction as generalizing links with
  | nil => exact Or.inl h
  | cons a as ih =>
      rcases ih h with h | ⟨b, hb, hP⟩
      · exact (hf links a l h).imp_right fun hP => ⟨a, by simp, hP⟩
      · exact Or.inr ⟨b, by simp [hb], hP⟩

/-- A link of one of the first two levels names the file and the caller of its area. -/
def IsNear (a : ImpactedArea) (l : ChainLink) : Prop :=
  l.level ≤ 2 ∧ l.file = a.file ∧ l.symbol = a.method

private theorem directLinks_origin {s : Symbol} {as : List ImpactedArea} {l : ChainLink}
    (h : l ∈ directLinks s as) : ∃ a ∈ as, IsNear a l := by
  have hstep : l ∈ [] ∨ ∃ a ∈ as.filter (isDirect s), IsNear a l := by
    refine mem_foldl_origin (fun links a l hl => ?_) h
    split at hl
    · exact Or.inl hl
    · rcases List.mem_append.mp hl with hl | hl
      · exact Or.inl hl
      · obtain rfl := List.mem_singleton.mp hl
        exact Or.inr ⟨by simp, rfl, rfl⟩
  rcases hstep with hnil | ⟨a, ha, hnear⟩
  · simp at hnil
  · exact ⟨a, (List.mem_filter.mp ha).1, hnear⟩

private theorem addFileLinks_origin {links : List ChainLink} {as : List ImpactedArea}
    {l : ChainLink} (h : l ∈ addFileLinks links as) : l ∈ links ∨ ∃ a ∈ as, IsNear a l := by
  refine mem_foldl_origin (fun links a l hl => ?_) h
  split at hl
  · exact Or.inl hl
  · rcases List.mem_append.mp hl with hl | hl
    · exact Or.inl hl
    · obtain rfl := List.mem_singleton.mp hl
      exact Or.inr ⟨by simp, rfl, rfl⟩

private theorem addFileLinks_keeps {links : List ChainLink} {as : List ImpactedArea}
    {l : ChainLink} (h : l ∈ links) : l ∈ addFileLinks links as := by
  induction as generalizing links with
  | nil => exact h
  | cons a as ih =>
      rw [addFileLinks, List.foldl_cons]
      apply ih
      split
      · exact h
      · exact List.mem_append_left _ h

private theorem addFileLinks_covers (links : List ChainLink) {as : List ImpactedArea}
    {a : ImpactedArea} (h : a ∈ as) : a.file ∈ (addFileLinks links as).map (·.file) := by
  induction as generalizing links with
  | nil => simp at h
  | cons b as ih =>
      rcases List.mem_cons.mp h with rfl | h
      · rw [addFileLinks, List.foldl_cons]
        have hnow : ∃ l ∈ (if links.any (·.file == a.file) then links
            else links ++ [⟨2, a.file, a.method, "transitively depends on a level-1 file"⟩]),
            l.file = a.file := by
          split
          · rename_i hany
            obtain ⟨l, hl, heq⟩ := List.any_eq_true.mp hany
            exact ⟨l, hl, by simpa using heq⟩
          · exact ⟨_, List.mem_append_right _ (List.mem_singleton.mpr rfl), rfl⟩
        obtain ⟨l, hl, heq⟩ := hnow
        exact List.mem_map.mpr ⟨l, addFileLinks_keeps hl, heq⟩
      · rw [addFileLinks, List.foldl_cons]
        exact ih _ h

theorem nearLinks_origin {s : Symbol} {as : List ImpactedArea} {l : ChainLink}
    (h : l ∈ nearLinks s as) : ∃ a ∈ as, IsNear a l := by
  rcases addFileLinks_origin h with h | h
  · exact directLinks_origin h
  · exact h

theorem nearLinks_covers (s : Symbol) {as : List ImpactedArea} {a : ImpactedArea} (h : a ∈ as) :
    a.file ∈ (nearLinks s as).map (·.file) :=
  addFileLinks_covers _ h

/-! ### The walk of a chain -/

namespace Walk

theorem start_followed (ix : Index) (root : String) (depth : Int) (links : List ChainLink) :
    Followed ix root depth [] (start root links) := by
  have hlevel : ∀ p ∈ links.map fun l => (l.symbol, (2 : Int)), p.2 = 2 := by
    intro p hp
    obtain ⟨l, _, rfl⟩ := List.mem_map.mp hp
    rfl
  refine ⟨⟨List.pairwise_of_forall_mem_list ?_, ?_, ?_⟩, ?_, ?_, by simp⟩
  · intro p hp q hq
    exact Int.le_of_eq ((hlevel p hp).trans (hlevel q hq).symm)
  · intro p hp q hq
    rw [hlevel p hp, hlevel q hq]
    omega
  · intro p hp
    exact Int.le_of_eq (hlevel p hp).symm
  · intro p hp
    obtain ⟨l, hl, rfl⟩ := List.mem_map.mp hp
    exact List.mem_cons_of_mem _ (List.mem_map_of_mem hl)
  · intro x hx
    rcases List.mem_cons.mp hx with rfl | hx
    · exact Or.inl rfl
    · obtain ⟨l, hl, rfl⟩ := List.mem_map.mp hx
      exact Or.inr ⟨2, List.mem_map.mpr ⟨l, hl, rfl⟩⟩

private theorem start_arrived (ix : Index) (skipped : List String) (root : String)
    (links : List ChainLink) :
    Arrived ix skipped (root :: links.map (·.symbol)) [] (start root links) := by
  refine ⟨rfl, fun p hp => ?_, (List.append_nil _).symm, List.nodup_nil, by simp, by simp, by simp⟩
  obtain ⟨l, hl, rfl⟩ := List.mem_map.mp hp
  exact List.mem_cons_of_mem _ (List.mem_map_of_mem hl)

/-- The walk of a chain to its end. -/
def finish (ix : Index) (skipped : List String) (depth : Int) (root : String)
    (links : List ChainLink) : Walk :=
  steps ix skipped depth (links.length + ix.calls.length) (start root links)

theorem finish_queue (ix : Index) (skipped : List String) (depth : Int) (root : String)
    (links : List ChainLink) : (finish ix skipped depth root links).queue = [] := by
  have hcallers : ∀ e ∈ ix.calls, e.caller ∈ ix.calls.map (·.caller) :=
    fun e he => List.mem_map_of_mem he
  apply steps_queue hcallers
  have hunseen : unseen (ix.calls.map (·.caller)) (start root links).visited ≤
      (ix.calls.map (·.caller)).length := List.countP_le_length
  simp only [start, List.length_map] at hunseen ⊢
  omega

/-- A finished walk has seen every caller on a path of calls that fits into its depth. -/
theorem Followed.callPath {ix : Index} {root : String} {depth : Int}
    {taken : List (String × Int)} {w : Walk} (h : Followed ix root depth taken w)
    (hq : w.queue = []) {es : List CallEdge} {name : String} {level : Int}
    (hname : (name, level) ∈ taken) (hpath : IsCallPath ix name es)
    (hlen : level + es.length ≤ depth) (hroot : ∀ e ∈ es, e.caller ≠ root) :
    ∀ e ∈ es, e.caller ∈ w.visited := by
  induction es generalizing name level with
  | nil => simp
  | cons e es ih =>
      obtain ⟨⟨hcall, hcallee⟩, hrest⟩ := hpath
      simp only [List.length_cons] at hlen
      have hsite : e ∈ ix.callers name := List.mem_filter.mpr ⟨hcall, by simp [hcallee]⟩
      obtain ⟨deeper, hle, hmem⟩ :=
        (h.callers (name, level) hname (by simp only; omega) e hsite).resolve_left
          (hroot e (by simp))
      have hknown := h.known _ hmem
      rw [hq, List.append_nil] at hmem
      intro d hd
      rcases List.mem_cons.mp hd with rfl | hd
      · exact hknown
      · exact ih hmem hrest (by simp only at hle; omega) (fun c hc => hroot c (by simp [hc])) d hd

end Walk

/-! ### Coverage -/

/-- The links of a chain are those of a walk, and what holds at the start of the walk and outlives
every step holds of it. -/
theorem exists_walk_of_symbolChain {motive : Walk → Prop} {ix : Index} {skipped : List String}
    {depth : Int} {s : Symbol}
    (hstart : motive (.start s.name (nearLinks s (areas ix skipped s))))
    (hstep : ∀ w, motive w → motive (w.step ix skipped depth)) :
    ∃ w : Walk, w.links = (symbolChain ix skipped depth s).links ∧ motive w := by
  have hlinks : (symbolChain ix skipped depth s).links =
      extendLinks ix skipped depth s.name (nearLinks s (areas ix skipped s)) := rfl
  rw [hlinks, extendLinks]
  split
  · exact ⟨_, rfl, hstart⟩
  · exact ⟨_, rfl, Walk.steps_keep hstart hstep _⟩

theorem symbolChain_links (ix : Index) (skipped : List String) (depth : Int) (s : Symbol) :
    ∃ more, (symbolChain ix skipped depth s).links =
        nearLinks s (areas ix skipped s) ++ more ∧ ∀ l ∈ more, 3 ≤ l.level := by
  have hlinks : (symbolChain ix skipped depth s).links =
      extendLinks ix skipped depth s.name (nearLinks s (areas ix skipped s)) := rfl
  rw [hlinks, extendLinks]
  split
  · exact ⟨[], by simp, by simp⟩
  · exact (Walk.start_followed ix s.name depth _).links skipped _

private theorem mem_links_of_mem_nearLinks {ix : Index} {skipped : List String} (depth : Int)
    {s : Symbol} {l : ChainLink} (h : l ∈ nearLinks s (areas ix skipped s)) :
    l ∈ (symbolChain ix skipped depth s).links := by
  obtain ⟨more, hlinks, _⟩ := symbolChain_links ix skipped depth s
  rw [hlinks]
  exact List.mem_append_left _ h

private theorem file_mem_symbolChain {ix : Index} {skipped : List String} (depth : Int) {s : Symbol}
    {e : CallEdge} (he : e ∈ ix.calls) (hcallee : e.callee = s.name) (hout : e.file ∉ skipped) :
    e.file ∈ (symbolChain ix skipped depth s).files := by
  have harea : area s e ∈ areas ix skipped s := mem_areas.mpr ⟨e, he, hcallee, hout, rfl⟩
  obtain ⟨l, hl, hfile⟩ := List.mem_map.mp (nearLinks_covers s harea)
  exact List.mem_map.mpr ⟨l, mem_links_of_mem_nearLinks depth hl, hfile⟩

theorem mem_nearLinks_of_level {ix : Index} {skipped : List String} {depth : Int} {s : Symbol}
    {l : ChainLink} (h : l ∈ (symbolChain ix skipped depth s).links) (hlevel : l.level ≤ 2) :
    l ∈ nearLinks s (areas ix skipped s) := by
  obtain ⟨more, hlinks, hdeep⟩ := symbolChain_links ix skipped depth s
  rw [hlinks] at h
  rcases List.mem_append.mp h with h | h
  · exact h
  · have := hdeep l h
    omega

/-! ### Calls that the walk passes over -/

/-- The calls by which the walk behind a chain comes to callers beyond the first two levels, in the
order in which it looks at them. -/
def chainArrivals (ix : Index) (skipped : List String) (depth : Int) (s : Symbol) :
    List CallEdge :=
  let near := nearLinks s (areas ix skipped s)
  Walk.arrivals ix skipped depth (near.length + ix.calls.length) (.start s.name near)

/-- The names that the walk behind a chain comes to: the symbol itself, the callers of the first two
levels, and the callers beyond. -/
def chainNames (ix : Index) (skipped : List String) (depth : Int) (s : Symbol) : List String :=
  s.name :: (nearLinks s (areas ix skipped s)).map (·.symbol) ++
    (chainArrivals ix skipped depth s).map (·.caller)

/-- A call is passed over if the walk is at its caller already: the caller is the changed symbol, or
has a link of the first two levels for another file, or the walk came to it by a call in another
file. -/
inductive IsPassedOver (ix : Index) (skipped : List String) (depth : Int) (s : Symbol)
    (e : CallEdge) : Prop
  | root (h : e.caller = s.name)
  | near (l : ChainLink) (hl : l ∈ (symbolChain ix skipped depth s).links) (hlevel : l.level ≤ 2)
      (hsymbol : l.symbol = e.caller) (hfile : l.file ≠ e.file)
  | met (d : CallEdge) (hd : d ∈ chainArrivals ix skipped depth s) (hcaller : d.caller = e.caller)
      (hfile : d.file ≠ e.file)
      (hcovered : d.file ∈ (symbolChain ix skipped depth s).files ∨ d.file ∈ skipped)

section

variable {ix : Index} {skipped : List String} {depth : Int} {s : Symbol}

private theorem finish_arrived (ix : Index) (skipped : List String) (depth : Int) (s : Symbol) :
    Walk.Arrived ix skipped (s.name :: (nearLinks s (areas ix skipped s)).map (·.symbol))
      (chainArrivals ix skipped depth s)
      (Walk.finish ix skipped depth s.name (nearLinks s (areas ix skipped s))) :=
  (Walk.start_arrived ix skipped s.name (nearLinks s (areas ix skipped s))).steps depth _

/-- The walk comes to every name once, and only by calls of names that it came to before. -/
theorem chainArrivals_once (ix : Index) (skipped : List String) (depth : Int) (s : Symbol) :
    ((chainArrivals ix skipped depth s).map (·.caller)).Nodup ∧
      ∀ d ∈ chainArrivals ix skipped depth s, d ∈ ix.calls ∧
        d.callee ∈ chainNames ix skipped depth s ∧ d.caller ≠ s.name ∧
        ∀ l ∈ (symbolChain ix skipped depth s).links, l.level ≤ 2 → l.symbol ≠ d.caller := by
  have harrived := finish_arrived ix skipped depth s
  refine ⟨harrived.once, fun d hd => ?_⟩
  obtain ⟨hcall, hcallee⟩ := harrived.calls d hd
  have hunseen := harrived.unseen d hd
  rw [List.mem_cons, not_or] at hunseen
  rw [harrived.visited] at hcallee
  refine ⟨hcall, hcallee, hunseen.1, fun l hl hlevel hsymbol => hunseen.2 ?_⟩
  rw [← hsymbol]
  exact List.mem_map_of_mem (mem_nearLinks_of_level hl hlevel)

/-- The walk comes to every caller on a path of calls that starts at a caller of the first two
levels, fits into the depth and does not come back to the symbol. -/
theorem caller_mem_chainNames {l : ChainLink} (hl : l ∈ nearLinks s (areas ix skipped s))
    {es : List CallEdge} (hpath : IsCallPath ix l.symbol es)
    (hlen : 2 + (es.length : Int) ≤ depth) (hroot : ∀ e ∈ es, e.caller ≠ s.name) :
    ∀ e ∈ es, e.caller ∈ chainNames ix skipped depth s := by
  let near := nearLinks s (areas ix skipped s)
  have hq : (Walk.finish ix skipped depth s.name near).queue = [] :=
    Walk.finish_queue ix skipped depth s.name near
  obtain ⟨taken, hfollowed, hkeep⟩ :=
    (Walk.start_followed ix s.name depth near).steps skipped (near.length + ix.calls.length)
  have hentry : (l.symbol, (2 : Int)) ∈ taken := by
    have hmem := hkeep (l.symbol, 2) (List.mem_map.mpr ⟨l, hl, rfl⟩)
    change _ ∈ taken ++ (Walk.finish ix skipped depth s.name near).queue at hmem
    rwa [hq, List.append_nil] at hmem
  have hseen := hfollowed.callPath hq hentry hpath hlen hroot
  intro e he
  rw [chainNames, ← (finish_arrived ix skipped depth s).visited]
  exact hseen e he

private theorem file_mem_or_skipped_of_met (hdepth : 3 ≤ depth) {d : CallEdge}
    (hd : d ∈ chainArrivals ix skipped depth s) :
    d.file ∈ (symbolChain ix skipped depth s).files ∨ d.file ∈ skipped := by
  have harrived := finish_arrived ix skipped depth s
  have hlinks : (symbolChain ix skipped depth s).links =
      (Walk.finish ix skipped depth s.name (nearLinks s (areas ix skipped s))).links :=
    if_neg (by omega)
  rw [DependencyChain.files, hlinks, ← harrived.files]
  exact harrived.covered d hd

/-- A call at the outer end of a path that starts at a caller of the first two levels, and does not
come back to the root, has its file in the chain or is passed over. -/
theorem file_mem_or_isPassedOver {l : ChainLink} (hl : l ∈ nearLinks s (areas ix skipped s))
    {es : List CallEdge} {e : CallEdge} (hpath : IsCallPath ix l.symbol (es ++ [e]))
    (hlen : 2 + ((es ++ [e]).length : Int) ≤ depth) (hes : ∀ d ∈ es, d.caller ≠ s.name)
    (hout : e.file ∉ skipped) :
    e.file ∈ (symbolChain ix skipped depth s).files ∨ IsPassedOver ix skipped depth s e := by
  by_cases hroot : e.caller = s.name
  · exact .inr (.root hroot)
  have hall : ∀ d ∈ es ++ [e], d.caller ≠ s.name := by
    simpa [or_imp, forall_and, hroot] using hes
  -- the walk is at the caller from the start, or it came to it
  rcases List.mem_append.mp (caller_mem_chainNames hl hpath hlen hall e (by simp)) with hnear | hmet
  · obtain ⟨l', hl', hsymbol⟩ := List.mem_map.mp ((List.mem_cons.mp hnear).resolve_left hroot)
    have hlink := mem_links_of_mem_nearLinks depth hl'
    by_cases hsame : l'.file = e.file
    · exact .inl (hsame ▸ List.mem_map_of_mem hlink)
    · obtain ⟨_, _, hlevel, _⟩ := nearLinks_origin hl'
      exact .inr (.near l' hlink hlevel hsymbol hsame)
  · obtain ⟨d, hd, hcaller⟩ := List.mem_map.mp hmet
    have hdepth : 3 ≤ depth := by
      rw [List.length_append, List.length_singleton] at hlen
      omega
    have hcovered := file_mem_or_skipped_of_met hdepth hd
    by_cases hsame : d.file = e.file
    · rw [hsame] at hcovered
      exact .inl (hcovered.resolve_right hout)
    · exact .inr (.met d hd hcaller hsame hcovered)

theorem IsCallPath.suffix {name : String} {before : List CallEdge} {b : CallEdge}
    {es : List CallEdge} (h : IsCallPath ix name (before ++ b :: es)) :
    IsCallPath ix b.caller es := by
  induction before generalizing name with
  | nil => exact h.2
  | cons a before ih => exact ih h.2

theorem IsCallPath.front {name : String} {es after : List CallEdge}
    (h : IsCallPath ix name (es ++ after)) : IsCallPath ix name es := by
  induction es generalizing name with
  | nil => trivial
  | cons a es ih => exact ⟨h.1, ih h.2⟩

private theorem IsCallPath.mem_calls {name : String} {es : List CallEdge}
    (h : IsCallPath ix name es) {e : CallEdge} (he : e ∈ es) : e ∈ ix.calls := by
  induction es generalizing name with
  | nil => cases he
  | cons a es ih =>
      rcases List.mem_cons.mp he with rfl | he
      · exact h.1.1
      · exact ih h.2 he

end

/-- The chain of a changed symbol covers the file of every call of it. Along a path of calls it also
covers the file of every call behind a caller of the first two levels, up to the next return to the
symbol, unless the walk passes over the call. It comes to every other name by one call of a name
that it is at. -/
theorem analyze_chain_covers_callPath (ix : Index) (predictors : List Predictor) (depth : Int)
    (symbols : List Symbol) (skipped : List String) (s : Symbol) (hs : s ∈ symbols)
    (hf : isFollowed s) (es : List CallEdge) (hne : es ≠ []) (hpath : IsCallPath ix s.name es)
    (hlen : (es.length : Int) ≤ depth - 1) (hout : ∀ e ∈ es, e.file ∉ skipped) :
    symbolChain ix skipped depth s ∈ (analyze ix predictors depth symbols skipped).chains ∧
    (∀ e ∈ es, e.callee = s.name → e.file ∈ (symbolChain ix skipped depth s).files) ∧
    (∀ before b middle e after, es = before ++ b :: (middle ++ [e] ++ after) →
      (∃ l ∈ (symbolChain ix skipped depth s).links, l.level ≤ 2 ∧ l.symbol = b.caller) →
      (∀ c ∈ middle, c.caller ≠ s.name) →
      e.file ∈ (symbolChain ix skipped depth s).files ∨ IsPassedOver ix skipped depth s e) ∧
    ((chainArrivals ix skipped depth s).map (·.caller)).Nodup ∧
    ∀ d ∈ chainArrivals ix skipped depth s, d ∈ ix.calls ∧
      d.callee ∈ chainNames ix skipped depth s ∧ d.caller ≠ s.name ∧
      ∀ l ∈ (symbolChain ix skipped depth s).links, l.level ≤ 2 → l.symbol ≠ d.caller := by
  refine ⟨?_, fun e he hcallee => ?_, ?_, chainArrivals_once ix skipped depth s⟩
  · obtain ⟨first, rest, rfl⟩ := List.exists_cons_of_ne_nil hne
    have harea : area s first ∈ areas ix skipped s :=
      mem_areas.mpr ⟨first, hpath.1.1, hpath.1.2, hout first (by simp), rfl⟩
    exact mem_chains.mpr ⟨s, hs, ⟨hf, List.ne_nil_of_mem harea⟩, rfl⟩
  · exact file_mem_symbolChain depth (hpath.mem_calls he) hcallee (hout e he)
  · rintro before b middle e after rfl ⟨l, hl, hlevel, hsymbol⟩ hmiddle
    have hnear := mem_nearLinks_of_level hl hlevel
    have hinner := hpath.suffix.front
    rw [← hsymbol] at hinner
    refine file_mem_or_isPassedOver hnear hinner ?_ hmiddle (hout e (by simp))
    simp only [List.length_append, List.length_cons] at hlen ⊢
    omega

/-- `checkout` calls `pay`, `handle` calls `checkout`, `serve` calls `handle`, and `handle` has a
namesake in the tests. -/
def paymentCalls : List CallEdge :=
  [⟨"checkout", "pay", "orders.py", 4⟩, ⟨"handle", "checkout", "web.py", 9⟩,
    ⟨"handle", "checkout", "test_web.py", 3⟩, ⟨"serve", "handle", "app.py", 2⟩]

def paySymbol : Symbol :=
  { name := "pay", kind := "function", file := "core.py", startLine := 1, endLine := 2 }

/-- The calls of a payment, and one from the file under review by the outermost caller. -/
def loggedCalls : List CallEdge := paymentCalls ++ [⟨"serve", "log", "core.py", 7⟩]

theorem payment_chain_covers_callPath :
    IsCallPath { calls := loggedCalls } "pay"
      [⟨"checkout", "pay", "orders.py", 4⟩, ⟨"handle", "checkout", "test_web.py", 3⟩,
        ⟨"serve", "handle", "app.py", 2⟩] ∧
    "app.py" ∈ (symbolChain { calls := loggedCalls } ["core.py"] 4 paySymbol).files := by
  have hpath : IsCallPath { calls := loggedCalls } "pay"
      [⟨"checkout", "pay", "orders.py", 4⟩, ⟨"handle", "checkout", "test_web.py", 3⟩,
        ⟨"serve", "handle", "app.py", 2⟩] := by decide
  obtain ⟨-, -, hcovers, -⟩ := analyze_chain_covers_callPath { calls := loggedCalls }
    [Predictor.rules] 4 [paySymbol] ["core.py"] paySymbol (by decide) (by decide) _ (by decide)
    hpath (by decide) (by decide)
  refine ⟨hpath, (hcovers [] ⟨"checkout", "pay", "orders.py", 4⟩
    [⟨"handle", "checkout", "test_web.py", 3⟩] ⟨"serve", "handle", "app.py", 2⟩ [] rfl (by decide)
    (by decide)).resolve_right fun hpassed => ?_⟩
  cases hpassed with
  | root h => exact absurd h (by decide)
  | near l hl hlevel hsymbol hfile => exact absurd hfile (by revert l; decide)
  | met d hd hcaller hfile hcovered => exact absurd hfile (by revert d; decide)

theorem callPath_file_lost :
    ¬ ∀ (ix : Index) (skipped : List String) (depth : Int) (s : Symbol) (es : List CallEdge),
      isFollowed s → areas ix skipped s ≠ [] → 2 ≤ depth → IsCallPath ix s.name es →
      1 ≤ es.length → (es.length : Int) ≤ depth - 1 → (∀ e ∈ es, e.file ∉ skipped) →
      ∀ e ∈ es, e.file ∈ (symbolChain ix skipped depth s).files := by
  intro h
  have hlost := h
    { calls := [⟨"checkout", "pay", "orders.py", 4⟩, ⟨"refund", "pay", "orders.py", 8⟩,
        ⟨"handle", "refund", "web.py", 9⟩] }
    ["core.py"] 4 paySymbol
    [⟨"refund", "pay", "orders.py", 8⟩, ⟨"handle", "refund", "web.py", 9⟩]
    (by decide) (by decide) (by decide) (by decide) (by decide) (by decide) (by decide)
    ⟨"handle", "refund", "web.py", 9⟩ (by decide)
  exact absurd hlost (by decide)

end Impact

end PullReview
