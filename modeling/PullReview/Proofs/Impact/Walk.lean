import PullReview.Impact.Chain

/-!
# The walk over callers

A step of the walk in closed form, and what every run of it keeps. Names are taken off the queue in
the order of their levels, and a name that was followed has all its callers seen at most one level
deeper. The walk comes to every name by one call, whose file is linked then or under review. It is
over after as many steps as there are links at the start and callers in the index.
-/

namespace PullReview.Impact.Walk

/-- The first call of every caller that is not among the names seen before. -/
def discoveries (visited : List String) : List CallEdge → List CallEdge
  | [] => []
  | e :: es =>
      if visited.contains e.caller then discoveries visited es
      else e :: discoveries (visited ++ [e.caller]) es

/-- The first call in every file that is neither covered nor under review. -/
def openings (skipped files : List String) : List CallEdge → List CallEdge
  | [] => []
  | e :: es =>
      if files.contains e.file || skipped.contains e.file then openings skipped files es
      else e :: openings skipped (files ++ [e.file]) es

/-- The link for a call of `current`, which stands at `level`. -/
def callLink (current : String) (level : Int) (e : CallEdge) : ChainLink :=
  ⟨level + 1, e.file, e.caller, "calls " ++ current⟩

/-- The walk after the callers of `current` were visited. -/
def expand (skipped : List String) (current : String) (level : Int) (w : Walk)
    (sites : List CallEdge) : Walk :=
  let found := discoveries w.visited sites
  let opened := openings skipped w.files found
  { queue := w.queue ++ found.map fun e => (e.caller, level + 1)
    visited := w.visited ++ found.map (·.caller)
    files := w.files ++ opened.map (·.file)
    links := w.links ++ opened.map (callLink current level) }

private theorem foldl_visit (skipped : List String) (current : String) (level : Int)
    (sites : List CallEdge) (w : Walk) :
    sites.foldl (visit skipped current level) w = expand skipped current level w sites := by
  induction sites generalizing w with
  | nil => simp [expand, discoveries, openings]
  | cons e es ih =>
      rw [List.foldl_cons, ih]
      by_cases hseen : w.visited.contains e.caller
      · simp only [visit, expand, discoveries, hseen, if_true]
      · by_cases hfile : (w.files.contains e.file || skipped.contains e.file)
        · simp only [visit, expand, discoveries, openings, hseen, hfile, if_true, if_false,
            Bool.false_eq_true, List.map_cons, List.append_assoc, List.cons_append,
            List.nil_append]
        · simp only [visit, expand, discoveries, openings, hseen, hfile, if_false,
            Bool.false_eq_true, List.map_cons, List.append_assoc, List.cons_append,
            List.nil_append, callLink]

theorem step_nil {ix : Index} {skipped : List String} {depth : Int} {w : Walk}
    (h : w.queue = []) : w.step ix skipped depth = w := by
  rw [step, h]

theorem step_stop {ix : Index} {skipped : List String} {depth : Int} {w : Walk} {x : String}
    {level : Int} {rest : List (String × Int)} (h : w.queue = (x, level) :: rest)
    (hd : depth ≤ level) : w.step ix skipped depth = { w with queue := rest } := by
  rw [step, h]
  exact if_pos hd

theorem step_follow {ix : Index} {skipped : List String} {depth : Int} {w : Walk} {x : String}
    {level : Int} {rest : List (String × Int)} (h : w.queue = (x, level) :: rest)
    (hd : level < depth) :
    w.step ix skipped depth = expand skipped x level { w with queue := rest } (ix.callers x) := by
  rw [step, h, ← foldl_visit]
  exact if_neg (by omega)

section

variable {ix : Index} {skipped : List String} {depth : Int} {motive : Walk → Prop} {w : Walk}

/-- A property outlives a step if it outlives the loss of the first entry on the queue, and a visit
to the callers of an entry that is not too deep. -/
theorem step_keeps (h : motive w)
    (hdrop : ∀ x level rest, w.queue = (x, level) :: rest → depth ≤ level →
      motive { w with queue := rest })
    (hexpand : ∀ x level rest, w.queue = (x, level) :: rest → level < depth →
      motive (expand skipped x level { w with queue := rest } (ix.callers x))) :
    motive (w.step ix skipped depth) := by
  cases hq : w.queue with
  | nil => rwa [step_nil hq]
  | cons entry rest =>
      obtain ⟨x, level⟩ := entry
      by_cases hd : level < depth
      · rw [step_follow hq hd]
        exact hexpand x level rest hq hd
      · rw [step_stop hq (by omega)]
        exact hdrop x level rest hq (by omega)

theorem steps_keep (h : motive w) (hstep : ∀ w, motive w → motive (w.step ix skipped depth))
    (n : Nat) : motive (steps ix skipped depth n w) := by
  induction n generalizing w with
  | zero => exact h
  | succ n ih => exact ih (hstep w h)

end

theorem mem_discoveries {visited : List String} {es : List CallEdge} {e : CallEdge}
    (h : e ∈ discoveries visited es) : e ∈ es ∧ e.caller ∉ visited := by
  induction es generalizing visited with
  | nil => simp [discoveries] at h
  | cons a es ih =>
      by_cases ha : visited.contains a.caller
      · simp only [discoveries, ha, if_true] at h
        exact ⟨List.mem_cons_of_mem _ (ih h).1, (ih h).2⟩
      · simp only [discoveries, ha, if_false, Bool.false_eq_true, List.mem_cons] at h
        rcases h with rfl | h
        · exact ⟨by simp, by simpa using ha⟩
        · exact ⟨List.mem_cons_of_mem _ (ih h).1, fun hv => (ih h).2 (by simp [hv])⟩

private theorem caller_mem_of_mem (visited : List String) {es : List CallEdge} {e : CallEdge}
    (h : e ∈ es) : e.caller ∈ visited ++ (discoveries visited es).map (·.caller) := by
  induction es generalizing visited with
  | nil => simp at h
  | cons a es ih =>
      by_cases ha : visited.contains a.caller
      · simp only [discoveries, ha, if_true]
        rcases List.mem_cons.mp h with rfl | h
        · exact List.mem_append_left _ (by simpa using ha)
        · exact ih visited h
      · simp only [discoveries, ha, if_false, Bool.false_eq_true, List.map_cons]
        rcases List.mem_cons.mp h with rfl | h
        · simp
        · simpa using ih (visited ++ [a.caller]) h

theorem mem_openings {skipped files : List String} {es : List CallEdge} {e : CallEdge}
    (h : e ∈ openings skipped files es) : e ∈ es ∧ e.file ∉ files ∧ e.file ∉ skipped := by
  induction es generalizing files with
  | nil => simp [openings] at h
  | cons a es ih =>
      by_cases ha : (files.contains a.file || skipped.contains a.file)
      · simp only [openings, ha, if_true] at h
        exact ⟨List.mem_cons_of_mem _ (ih h).1, (ih h).2⟩
      · simp only [openings, ha, if_false, Bool.false_eq_true, List.mem_cons] at h
        rcases h with rfl | h
        · exact ⟨by simp, by simpa using ha⟩
        · obtain ⟨hmem, hfile, hskipped⟩ := ih h
          exact ⟨List.mem_cons_of_mem _ hmem, fun hf => hfile (by simp [hf]), hskipped⟩

private theorem file_mem_of_mem (skipped files : List String) {es : List CallEdge} {e : CallEdge}
    (h : e ∈ es) :
    e.file ∈ files ++ (openings skipped files es).map (·.file) ∨ e.file ∈ skipped := by
  induction es generalizing files with
  | nil => simp at h
  | cons a es ih =>
      by_cases ha : (files.contains a.file || skipped.contains a.file)
      · simp only [openings, ha, if_true]
        rcases List.mem_cons.mp h with rfl | h
        · rcases (by simpa using ha : e.file ∈ files ∨ e.file ∈ skipped) with hf | hs
          · exact Or.inl (List.mem_append_left _ hf)
          · exact Or.inr hs
        · exact ih files h
      · simp only [openings, ha, if_false, Bool.false_eq_true, List.map_cons]
        rcases List.mem_cons.mp h with rfl | h
        · exact Or.inl (by simp)
        · simpa using ih (files ++ [a.file]) h

theorem expand_files {w : Walk} (h : w.files = w.links.map (·.file)) (skipped : List String)
    (x : String) (level : Int) (sites : List CallEdge) :
    (expand skipped x level w sites).files =
      (expand skipped x level w sites).links.map (·.file) := by
  simp only [expand, List.map_append, List.map_map, h]
  rfl

/-! ### The end of the walk -/

/-- How many of the names `callers` have not been seen. -/
def unseen (callers visited : List String) : Nat := callers.countP fun x => !visited.contains x

private theorem unseen_append_lt {callers visited : List String} {x : String} (hx : x ∈ callers)
    (hn : x ∉ visited) : unseen callers (visited ++ [x]) < unseen callers visited := by
  induction callers with
  | nil => simp at hx
  | cons a callers ih =>
      simp only [unseen, List.countP_cons] at ih ⊢
      have hle : callers.countP (fun y => !(visited ++ [x]).contains y) ≤
          callers.countP fun y => !visited.contains y := by
        apply List.countP_mono_left
        intro y _ hy
        simp only [Bool.not_eq_true', List.contains_eq_mem, decide_eq_false_iff_not,
          List.mem_append, not_or] at hy ⊢
        exact hy.1
      by_cases ha : a = x
      · subst ha
        simp only [List.contains_eq_mem, List.mem_append, List.mem_singleton, or_true,
          decide_true, Bool.not_true, Bool.false_eq_true, if_false, hn, decide_false,
          Bool.not_false, if_true] at hle ⊢
        omega
      · have := ih (by simpa [Ne.symm ha] using hx)
        simp only [List.contains_eq_mem, List.mem_append, List.mem_singleton, ha, or_false]
          at this ⊢
        omega

private theorem unseen_discoveries {callers : List String} (visited : List String)
    {es : List CallEdge} (h : ∀ e ∈ es, e.caller ∈ callers) :
    unseen callers (visited ++ (discoveries visited es).map (·.caller)) +
      (discoveries visited es).length ≤ unseen callers visited := by
  induction es generalizing visited with
  | nil => simp [discoveries]
  | cons a es ih =>
      have hes : ∀ e ∈ es, e.caller ∈ callers := fun e he => h e (by simp [he])
      by_cases ha : visited.contains a.caller
      · simp only [discoveries, ha, if_true]
        exact ih visited hes
      · have hlt := unseen_append_lt (h a (by simp)) (by simpa using ha : a.caller ∉ visited)
        have hrest := ih (visited ++ [a.caller]) hes
        simp only [discoveries, ha, if_false, Bool.false_eq_true, List.map_cons, List.length_cons]
        simp only [List.append_assoc, List.singleton_append] at hrest
        omega

/-- A step takes one name off the queue and puts no more on it than it brings up. -/
theorem step_measure {ix : Index} (skipped : List String) {callers : List String} (depth : Int)
    {w : Walk} (h : ∀ e ∈ ix.calls, e.caller ∈ callers) (hq : w.queue ≠ []) :
    (w.step ix skipped depth).queue.length +
        unseen callers (w.step ix skipped depth).visited + 1 ≤
      w.queue.length + unseen callers w.visited := by
  obtain ⟨⟨x, level⟩, rest, hw⟩ := List.exists_cons_of_ne_nil hq
  by_cases hd : level < depth
  · have hsites : ∀ e ∈ ix.callers x, e.caller ∈ callers :=
      fun e he => h e (List.mem_filter.mp he).1
    have hu := unseen_discoveries w.visited hsites
    rw [step_follow hw hd, hw]
    simp only [expand, List.length_append, List.length_map, List.length_cons]
    omega
  · rw [step_stop hw (by omega), hw]
    simp only [List.length_cons]
    omega

theorem steps_nil {ix : Index} {skipped : List String} {depth : Int} (n : Nat) {w : Walk}
    (h : w.queue = []) : steps ix skipped depth n w = w := by
  induction n with
  | zero => rfl
  | succ n ih => rw [steps, step_nil h, ih]

theorem steps_queue {ix : Index} {skipped callers : List String} {depth : Int}
    (h : ∀ e ∈ ix.calls, e.caller ∈ callers) (n : Nat) (w : Walk)
    (hn : w.queue.length + unseen callers w.visited ≤ n) :
    (steps ix skipped depth n w).queue = [] := by
  induction n generalizing w with
  | zero =>
      rw [steps]
      exact List.length_eq_zero_iff.mp (by omega)
  | succ n ih =>
      by_cases hq : w.queue = []
      · rw [steps_nil _ hq, hq]
      · have hm := step_measure skipped depth h hq
        exact ih _ (by omega)

/-! ### Levels -/

/-- The levels of a breadth-first walk: of the entries `taken` off the queue and of those on it. -/
structure Levels (taken queue : List (String × Int)) : Prop where
  rising : (taken ++ queue).Pairwise fun p q => p.2 ≤ q.2
  narrow : ∀ p ∈ queue, ∀ q ∈ queue, q.2 ≤ p.2 + 1
  deep : ∀ p ∈ taken ++ queue, 2 ≤ p.2

namespace Levels

variable {taken rest : List (String × Int)} {x : String} {level : Int}

theorem le_of_mem_queue (h : Levels taken ((x, level) :: rest)) {p : String × Int}
    (hp : p ∈ rest) : level ≤ p.2 :=
  (List.pairwise_cons.mp (List.pairwise_append.mp h.rising).2.1).1 p hp

private theorem le_succ_of_mem (h : Levels taken ((x, level) :: rest)) {p : String × Int}
    (hp : p ∈ taken ++ (x, level) :: rest) : p.2 ≤ level + 1 := by
  rcases List.mem_append.mp hp with hp | hp
  · have : p.2 ≤ level := (List.pairwise_append.mp h.rising).2.2 p hp (x, level) (by simp)
    omega
  · exact h.narrow (x, level) (by simp) p hp

theorem entries_append (taken : List (String × Int)) (p : String × Int)
    (rest fresh : List (String × Int)) :
    taken ++ [p] ++ (rest ++ fresh) = (taken ++ p :: rest) ++ fresh := by
  rw [← List.append_assoc, ← List.append_cons]

/-- The first entry makes way for entries one level deeper. -/
theorem push (h : Levels taken ((x, level) :: rest)) {fresh : List (String × Int)}
    (hfresh : ∀ p ∈ fresh, p.2 = level + 1) :
    Levels (taken ++ [(x, level)]) (rest ++ fresh) := by
  have hsame := entries_append taken (x, level) rest fresh
  have hlevel : 2 ≤ level := h.deep (x, level) (by simp)
  refine ⟨?_, ?_, ?_⟩
  · rw [hsame, List.pairwise_append]
    refine ⟨h.rising, List.pairwise_of_forall_mem_list ?_, ?_⟩
    · intro p hp q hq
      exact Int.le_of_eq ((hfresh p hp).trans (hfresh q hq).symm)
    · intro p hp q hq
      rw [hfresh q hq]
      exact h.le_succ_of_mem hp
  · have hspan : ∀ p ∈ rest ++ fresh, level ≤ p.2 ∧ p.2 ≤ level + 1 := by
      intro p hp
      rcases List.mem_append.mp hp with hp | hp
      · exact ⟨h.le_of_mem_queue hp, h.le_succ_of_mem (by simp [hp])⟩
      · rw [hfresh p hp]
        omega
    intro p hp q hq
    have hp := hspan p hp
    have hq := hspan q hq
    omega
  · rw [hsame]
    intro p hp
    rcases List.mem_append.mp hp with hp | hp
    · exact h.deep p hp
    · rw [hfresh p hp]
      omega

end Levels

/-- What the walk has done once the entries `taken` are off the queue. Every name seen has its
entry, and the callers of a name that was followed have theirs at most one level deeper. -/
structure Followed (ix : Index) (root : String) (depth : Int) (taken : List (String × Int))
    (w : Walk) : Prop where
  levels : Levels taken w.queue
  known : ∀ p ∈ taken ++ w.queue, p.1 ∈ w.visited
  entered : ∀ x ∈ w.visited, x = root ∨ ∃ level, (x, level) ∈ taken ++ w.queue
  callers : ∀ p ∈ taken, p.2 < depth → ∀ e ∈ ix.callers p.1,
    e.caller = root ∨ ∃ level ≤ p.2 + 1, (e.caller, level) ∈ taken ++ w.queue

namespace Followed

variable {ix : Index} {root : String} {depth : Int} {taken : List (String × Int)} {w : Walk}
  {x : String} {level : Int} {rest : List (String × Int)}

/-- An entry that lies too deep only leaves the queue. -/
theorem drop (h : Followed ix root depth taken w) (hq : w.queue = (x, level) :: rest)
    (hd : depth ≤ level) :
    Followed ix root depth (taken ++ [(x, level)]) { w with queue := rest } := by
  obtain ⟨hl, hk, he, hc⟩ := h
  rw [hq] at hl hk he hc
  have hsame : taken ++ [(x, level)] ++ rest = taken ++ (x, level) :: rest :=
    (List.append_cons taken (x, level) rest).symm
  refine ⟨?_, ?_, ?_, ?_⟩
  · have hnone : ∀ p ∈ ([] : List (String × Int)), p.2 = level + 1 := by simp
    simpa using hl.push hnone
  · simpa only [hsame] using hk
  · simpa only [hsame] using he
  · intro p hp hlt
    rcases List.mem_append.mp hp with hp | hp
    · simpa only [hsame] using hc p hp hlt
    · obtain rfl : p = (x, level) := by simpa using hp
      exact absurd hlt (by simp only; omega)

theorem expand (h : Followed ix root depth taken w) (hq : w.queue = (x, level) :: rest)
    (skipped : List String) :
    Followed ix root depth (taken ++ [(x, level)])
      (expand skipped x level { w with queue := rest } (ix.callers x)) := by
  obtain ⟨hl, hk, he, hc⟩ := h
  rw [hq] at hl hk he hc
  let found := discoveries w.visited (ix.callers x)
  let fresh := found.map fun e => (e.caller, level + 1)
  have hsame := Levels.entries_append taken (x, level) rest fresh
  refine ⟨hl.push ?_, ?_, ?_, ?_⟩
  · intro p hp
    obtain ⟨e, _, rfl⟩ := List.mem_map.mp hp
    rfl
  · change ∀ p ∈ taken ++ [(x, level)] ++ (rest ++ fresh), p.1 ∈ w.visited ++ found.map (·.caller)
    rw [hsame]
    intro p hp
    rcases List.mem_append.mp hp with hp | hp
    · exact List.mem_append_left _ (hk p hp)
    · obtain ⟨e, hmem, rfl⟩ := List.mem_map.mp hp
      exact List.mem_append_right _ (List.mem_map_of_mem hmem)
  · change ∀ y ∈ w.visited ++ found.map (·.caller),
      y = root ∨ ∃ l, (y, l) ∈ taken ++ [(x, level)] ++ (rest ++ fresh)
    rw [hsame]
    intro y hy
    rcases List.mem_append.mp hy with hy | hy
    · exact (he y hy).imp_right fun ⟨l, hmem⟩ => ⟨l, List.mem_append_left _ hmem⟩
    · obtain ⟨e, hmem, rfl⟩ := List.mem_map.mp hy
      exact Or.inr ⟨level + 1, List.mem_append_right _ (List.mem_map_of_mem hmem)⟩
  · change ∀ p ∈ taken ++ [(x, level)], p.2 < depth → ∀ e ∈ ix.callers p.1,
      e.caller = root ∨ ∃ l ≤ p.2 + 1, (e.caller, l) ∈ taken ++ [(x, level)] ++ (rest ++ fresh)
    rw [hsame]
    intro p hp hlt e hsite
    rcases List.mem_append.mp hp with hp | hp
    · exact (hc p hp hlt e hsite).imp_right fun ⟨l, hle, hmem⟩ =>
        ⟨l, hle, List.mem_append_left _ hmem⟩
    · obtain rfl : p = (x, level) := by simpa using hp
      -- a caller seen before is in the walk already, and no entry lies more than one level deeper
      rcases List.mem_append.mp (caller_mem_of_mem w.visited hsite) with hold | hnew
      · exact (he _ hold).imp_right fun ⟨l, hmem⟩ =>
          ⟨l, hl.le_succ_of_mem hmem, List.mem_append_left _ hmem⟩
      · obtain ⟨d, hmem, hcaller⟩ := List.mem_map.mp hnew
        refine Or.inr ⟨level + 1, Int.le_refl _, List.mem_append_right _ ?_⟩
        rw [← hcaller]
        exact List.mem_map_of_mem hmem

/-- A step takes at most one entry off the queue, and what was in the walk stays in it. -/
theorem step (h : Followed ix root depth taken w) (skipped : List String) :
    ∃ taken', Followed ix root depth taken' (w.step ix skipped depth) ∧
      ∀ p ∈ taken ++ w.queue, p ∈ taken' ++ (w.step ix skipped depth).queue := by
  refine step_keeps (motive := fun w' => ∃ taken', Followed ix root depth taken' w' ∧
    ∀ p ∈ taken ++ w.queue, p ∈ taken' ++ w'.queue) ⟨taken, h, fun _ hp => hp⟩ ?_ ?_
  · intro x level rest hq hd
    exact ⟨taken ++ [(x, level)], h.drop hq hd, fun p hp => by simpa [hq] using hp⟩
  · intro x level rest hq _
    refine ⟨taken ++ [(x, level)], h.expand hq skipped, fun p hp => ?_⟩
    simp only [Walk.expand, List.append_assoc, List.cons_append, List.nil_append]
    rw [← List.cons_append, ← List.append_assoc, ← hq]
    exact List.mem_append_left _ hp

theorem steps (h : Followed ix root depth taken w) (skipped : List String) (n : Nat) :
    ∃ taken', Followed ix root depth taken' (steps ix skipped depth n w) ∧
      ∀ p ∈ taken ++ w.queue, p ∈ taken' ++ (Walk.steps ix skipped depth n w).queue := by
  refine steps_keep (motive := fun w' => ∃ taken', Followed ix root depth taken' w' ∧
    ∀ p ∈ taken ++ w.queue, p ∈ taken' ++ w'.queue) ⟨taken, h, fun _ hp => hp⟩ ?_ n
  rintro w' ⟨taken', h', hkeep⟩
  obtain ⟨taken'', h'', hkeep'⟩ := h'.step skipped
  exact ⟨taken'', h'', fun p hp => hkeep' p (hkeep p hp)⟩

end Followed

/-! ### Arrivals -/

/-- The calls by which a step comes to names that were not seen before. -/
def found (ix : Index) (depth : Int) (w : Walk) : List CallEdge :=
  match w.queue with
  | [] => []
  | (x, level) :: _ => if level < depth then discoveries w.visited (ix.callers x) else []

/-- The calls by which a walk comes to names, in the order in which it looks at them. -/
def arrivals (ix : Index) (skipped : List String) (depth : Int) : Nat → Walk → List CallEdge
  | 0, _ => []
  | n + 1, w => w.found ix depth ++ arrivals ix skipped depth n (w.step ix skipped depth)

/-- A walk that had seen the names `seen` came to all others by the calls `ds`, to each of them
once, and covered the files of these calls as far as they are not under review. -/
structure Arrived (ix : Index) (skipped seen : List String) (ds : List CallEdge) (w : Walk) :
    Prop where
  files : w.files = w.links.map (·.file)
  known : ∀ p ∈ w.queue, p.1 ∈ w.visited
  visited : w.visited = seen ++ ds.map (·.caller)
  once : (ds.map (·.caller)).Nodup
  unseen : ∀ d ∈ ds, d.caller ∉ seen
  calls : ∀ d ∈ ds, d ∈ ix.calls ∧ d.callee ∈ w.visited
  covered : ∀ d ∈ ds, d.file ∈ w.files ∨ d.file ∈ skipped

theorem discoveries_nodup (visited : List String) (es : List CallEdge) :
    ((discoveries visited es).map (·.caller)).Nodup := by
  induction es generalizing visited with
  | nil => simp [discoveries]
  | cons e es ih =>
      rw [discoveries]
      split
      · exact ih visited
      · rw [List.map_cons, List.nodup_cons]
        refine ⟨fun hmem => ?_, ih _⟩
        obtain ⟨d, hd, hcaller⟩ := List.mem_map.mp hmem
        exact (mem_discoveries hd).2 (by simp [hcaller])

namespace Arrived

variable {ix : Index} {skipped seen : List String} {ds : List CallEdge} {w : Walk}

theorem expand {x : String} {level : Int} {rest : List (String × Int)}
    (h : Arrived ix skipped seen ds w) (hq : w.queue = (x, level) :: rest) :
    Arrived ix skipped seen (ds ++ discoveries w.visited (ix.callers x))
      (expand skipped x level { w with queue := rest } (ix.callers x)) := by
  let new := discoveries w.visited (ix.callers x)
  have hx : x ∈ w.visited := h.known (x, level) (by simp [hq])
  have hnew : ∀ d ∈ new, d ∈ ix.calls ∧ d.callee = x ∧ d.caller ∉ w.visited := by
    intro d hd
    obtain ⟨hsite, hunseen⟩ := mem_discoveries hd
    obtain ⟨hcall, hcallee⟩ := List.mem_filter.mp hsite
    exact ⟨hcall, by simpa using hcallee, hunseen⟩
  have hbefore : ∀ y ∈ w.visited, y ∈ w.visited ++ new.map (·.caller) :=
    fun y hy => List.mem_append_left _ hy
  constructor
  case files => exact expand_files h.files skipped x level (ix.callers x)
  case known =>
    intro p hp
    rcases List.mem_append.mp hp with hp | hp
    · exact hbefore _ (h.known p (by simp [hq, show p ∈ rest from hp]))
    · obtain ⟨d, hd, rfl⟩ := List.mem_map.mp hp
      exact List.mem_append_right _ (List.mem_map_of_mem hd)
  case visited =>
    change w.visited ++ new.map (·.caller) = _
    rw [List.map_append, ← List.append_assoc, ← h.visited]
  case once =>
    rw [List.map_append, List.nodup_append]
    refine ⟨h.once, discoveries_nodup _ _, ?_⟩
    rintro y hy z hz rfl
    obtain ⟨d, hd, rfl⟩ := List.mem_map.mp hz
    refine (hnew d hd).2.2 ?_
    rw [h.visited]
    exact List.mem_append_right _ hy
  case unseen =>
    refine List.forall_mem_append.mpr ⟨h.unseen, fun d hd hseen => (hnew d hd).2.2 ?_⟩
    rw [h.visited]
    exact List.mem_append_left _ hseen
  case calls =>
    refine List.forall_mem_append.mpr ⟨fun d hd => ?_, fun d hd => ?_⟩
    · exact ⟨(h.calls d hd).1, hbefore _ (h.calls d hd).2⟩
    · obtain ⟨hcall, rfl, _⟩ := hnew d hd
      exact ⟨hcall, hbefore _ hx⟩
  case covered =>
    refine List.forall_mem_append.mpr ⟨fun d hd => ?_, fun d hd => ?_⟩
    · exact (h.covered d hd).imp_left (List.mem_append_left _)
    · exact file_mem_of_mem skipped w.files hd

theorem step (h : Arrived ix skipped seen ds w) (depth : Int) :
    Arrived ix skipped seen (ds ++ w.found ix depth) (w.step ix skipped depth) := by
  cases hq : w.queue with
  | nil => simpa [found, hq, step_nil hq] using h
  | cons entry rest =>
      obtain ⟨x, level⟩ := entry
      by_cases hd : level < depth
      · rw [step_follow hq hd]
        simpa [found, hq, hd] using h.expand hq
      · have hknown : ∀ p ∈ rest, p.1 ∈ w.visited := fun p hp => h.known p (by simp [hq, hp])
        rw [step_stop hq (by omega)]
        simpa [found, hq, hd] using
          (⟨h.files, hknown, h.visited, h.once, h.unseen, h.calls, h.covered⟩ :
            Arrived ix skipped seen ds { w with queue := rest })

theorem steps (h : Arrived ix skipped seen ds w) (depth : Int) (n : Nat) :
    Arrived ix skipped seen (ds ++ arrivals ix skipped depth n w)
      (steps ix skipped depth n w) := by
  induction n generalizing ds w with
  | zero =>
      rw [arrivals, List.append_nil]
      exact h
  | succ n ih =>
      rw [arrivals, ← List.append_assoc]
      exact ih (h.step depth)

end Arrived

/-! ### Links -/

theorem step_links (ix : Index) (skipped : List String) (depth : Int) (w : Walk) :
    ∃ more, (w.step ix skipped depth).links = w.links ++ more ∧
      ∀ l ∈ more, ∃ p ∈ w.queue, l.level = p.2 + 1 := by
  have hnone : ∃ more, w.links = w.links ++ more ∧
      ∀ l ∈ more, ∃ p ∈ w.queue, l.level = p.2 + 1 := ⟨[], by simp, by simp⟩
  refine step_keeps (motive := fun w' => ∃ more, w'.links = w.links ++ more ∧
    ∀ l ∈ more, ∃ p ∈ w.queue, l.level = p.2 + 1) hnone (fun _ _ _ _ _ => hnone) ?_
  intro x level rest hq _
  refine ⟨_, rfl, fun l hl => ⟨(x, level), by simp [hq], ?_⟩⟩
  obtain ⟨e, _, rfl⟩ := List.mem_map.mp hl
  rfl

/-- The links that a walk adds lie at level three or deeper. -/
theorem Followed.links {ix : Index} {root : String} {depth : Int} {taken : List (String × Int)}
    {w : Walk} (h : Followed ix root depth taken w) (skipped : List String) (n : Nat) :
    ∃ more, (Walk.steps ix skipped depth n w).links = w.links ++ more ∧
      ∀ l ∈ more, 3 ≤ l.level := by
  refine (steps_keep (motive := fun w' => (∃ taken', Followed ix root depth taken' w') ∧
    ∃ more, w'.links = w.links ++ more ∧ ∀ l ∈ more, 3 ≤ l.level)
    ⟨⟨taken, h⟩, [], by simp, by simp⟩ ?_ n).2
  rintro w' ⟨⟨taken', h'⟩, more, hmore, hdeep⟩
  obtain ⟨found, hfound, hlevel⟩ := step_links ix skipped depth w'
  obtain ⟨taken'', h'', -⟩ := h'.step skipped
  refine ⟨⟨taken'', h''⟩, more ++ found, by rw [hfound, hmore, List.append_assoc], ?_⟩
  intro l hl
  rcases List.mem_append.mp hl with hl | hl
  · exact hdeep l hl
  · obtain ⟨p, hp, heq⟩ := hlevel l hl
    have := h'.levels.deep p (List.mem_append_right _ hp)
    omega

end PullReview.Impact.Walk
