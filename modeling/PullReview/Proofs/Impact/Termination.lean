import Mathlib.Data.List.Perm.Subperm
import PullReview.Proofs.Impact.Reach
import PullReview.Proofs.Table.Order

/-!
# The end of the walk over callers

The queue of the walk grows while it is being emptied, and the calls may go round in circles. But a
step puts only names on the queue that were never seen, and marks them as seen. So over a whole run
each caller of the index enters the queue at most once, and the run is over after as many steps as
there are entries at the start and callers in the index, however deep it may go.
-/

namespace PullReview.Impact

namespace Walk

/-- A run of the walk until its queue is empty: the entries `taken` off the front of the queue, one
by each step, and the entries `entered`, which the steps put behind the rest of it. -/
inductive Run (ix : Index) (skipped : List String) (depth : Int) :
    Walk → List (String × Int) → List (String × Int) → Walk → Prop
  | ended {w : Walk} (hq : w.queue = []) : Run ix skipped depth w [] [] w
  | next {w last : Walk} {entry : String × Int} {rest put taken entered : List (String × Int)}
      (hq : w.queue = entry :: rest) (hput : (w.step ix skipped depth).queue = rest ++ put)
      (hrun : Run ix skipped depth (w.step ix skipped depth) taken entered last) :
      Run ix skipped depth w (entry :: taken) (put ++ entered) last

/-! ### Names that enter the queue -/

/-- From one walk to a later one, callers of the index that were not seen before entered the queue,
each once, and nothing else was seen. -/
structure Enters (ix : Index) (w : Walk) (entered : List (String × Int)) (w' : Walk) : Prop where
  visited : w'.visited = w.visited ++ entered.map Prod.fst
  once : (entered.map Prod.fst).Nodup
  unseen : ∀ x ∈ entered.map Prod.fst, x ∉ w.visited
  callers : ∀ x ∈ entered.map Prod.fst, x ∈ ix.calls.map (·.caller)

namespace Enters

variable {ix : Index} {w w' w'' : Walk} {entered entered' : List (String × Int)}

theorem none (h : w'.visited = w.visited) : Enters ix w [] w' := by
  refine ⟨by simp [h], List.nodup_nil, ?_, ?_⟩ <;> simp

/-- What enters later was not seen when the first names had entered, so it is none of them. -/
theorem trans (h : Enters ix w entered w') (h' : Enters ix w' entered' w'') :
    Enters ix w (entered ++ entered') w'' := by
  have hlater : ∀ x ∈ entered'.map Prod.fst, x ∉ w.visited ∧ x ∉ entered.map Prod.fst := by
    intro x hx
    have hseen := h'.unseen x hx
    rw [h.visited, List.mem_append, not_or] at hseen
    exact hseen
  refine ⟨?_, ?_, ?_, ?_⟩
  · rw [h'.visited, h.visited, List.map_append, List.append_assoc]
  · rw [List.map_append, List.nodup_append]
    refine ⟨h.once, h'.once, ?_⟩
    rintro x hx y hy rfl
    exact (hlater x hy).2 hx
  · rw [List.map_append]
    exact List.forall_mem_append.mpr ⟨h.unseen, fun x hx => (hlater x hx).1⟩
  · rw [List.map_append]
    exact List.forall_mem_append.mpr ⟨h.callers, h'.callers⟩

/-- A list that has all callers of the index is at least as long. -/
theorem length_le (h : Enters ix w entered w') {callers : List String}
    (hcallers : ix.calls.map (·.caller) ⊆ callers) : entered.length ≤ callers.length := by
  have hsub : entered.map Prod.fst ⊆ callers := fun x hx => hcallers (h.callers x hx)
  rw [← List.length_map Prod.fst]
  exact (List.subperm_of_subset h.once hsub).length_le

end Enters

/-- One step: the first entry leaves the queue, and what goes behind the rest has just been seen. -/
theorem step_enters (ix : Index) (skipped : List String) (depth : Int) {w : Walk}
    {entry : String × Int} {rest : List (String × Int)} (hq : w.queue = entry :: rest) :
    ∃ put, (w.step ix skipped depth).queue = rest ++ put ∧
      Enters ix w put (w.step ix skipped depth) := by
  by_cases hd : entry.2 < depth
  · let found := discoveries w.visited (ix.callers entry.1)
    have hnames : (found.map fun e => (e.caller, entry.2 + 1)).map Prod.fst =
        found.map (·.caller) := by
      rw [List.map_map]
      rfl
    refine ⟨found.map fun e => (e.caller, entry.2 + 1), ?_, ?_⟩
    · rw [step_follow hq hd]
      rfl
    · refine ⟨?_, ?_, ?_, ?_⟩ <;> rw [hnames]
      · rw [step_follow hq hd]
        rfl
      · exact discoveries_nodup w.visited (ix.callers entry.1)
      · intro x hx
        obtain ⟨e, he, rfl⟩ := List.mem_map.mp hx
        exact (mem_discoveries he).2
      · intro x hx
        obtain ⟨e, he, rfl⟩ := List.mem_map.mp hx
        exact List.mem_map_of_mem (List.mem_filter.mp (mem_discoveries he).1).1
  · rw [step_stop hq (by omega)]
    exact ⟨[], (List.append_nil rest).symm, .none rfl⟩

/-! ### Whole runs -/

namespace Run

variable {ix : Index} {skipped : List String} {depth : Int} {w last : Walk}
  {taken entered : List (String × Int)}

private theorem enters (h : Run ix skipped depth w taken entered last) :
    Enters ix w entered last := by
  induction h with
  | ended hq => exact .none rfl
  | next hq hput hrun ih =>
      obtain ⟨put, hqueue, hstep⟩ := step_enters ix skipped depth hq
      obtain rfl := List.append_cancel_left (hput.symm.trans hqueue)
      exact hstep.trans ih

/-- Entries leave the queue in the order in which they got there, and in the end all have left. -/
theorem taken_eq (h : Run ix skipped depth w taken entered last) : taken = w.queue ++ entered := by
  induction h with
  | ended hq => rw [hq, List.append_nil]
  | next hq hput hrun ih => rw [ih, hput, hq, List.append_assoc, List.cons_append]

private theorem steps_eq (h : Run ix skipped depth w taken entered last) {n : Nat}
    (hn : taken.length ≤ n) : steps ix skipped depth n w = last := by
  induction h generalizing n with
  | ended hq => exact steps_nil n hq
  | next hq hput hrun ih =>
      obtain ⟨m, rfl⟩ : ∃ m, n = m + 1 := Nat.exists_eq_add_one.mpr (by simp at hn; omega)
      rw [steps]
      exact ih (by simpa using hn)

end Run

private theorem exists_run {ix : Index} {skipped : List String} {depth : Int} (n : Nat) {w : Walk}
    (h : (steps ix skipped depth n w).queue = []) :
    ∃ taken entered, Run ix skipped depth w taken entered (steps ix skipped depth n w) := by
  induction n generalizing w with
  | zero => exact ⟨[], [], .ended h⟩
  | succ n ih =>
      cases hq : w.queue with
      | nil =>
          rw [steps_nil _ hq]
          exact ⟨[], [], .ended hq⟩
      | cons entry rest =>
          obtain ⟨put, hput, -⟩ := step_enters ix skipped depth hq
          obtain ⟨taken, entered, hrun⟩ := ih h
          exact ⟨entry :: taken, put ++ entered, .next hq hput hrun⟩

end Walk

/-- The walk that extends a chain comes to its end, whatever the calls, the chain, the files under
review and the depth. It takes off the queue what was there at the start and what entered later. A
name enters at most once; it is the name of a caller, but neither the root nor the name of a link
that the chain had before. So there are at most as many steps as links at the start and callers. -/
theorem extendLinks_walk_ends (ix : Index) (skipped : List String) (depth : Int) (root : String)
    (links : List ChainLink) :
    (∃ taken entered last, Walk.Run ix skipped depth (.start root links) taken entered last) ∧
    ∀ taken entered last, Walk.Run ix skipped depth (.start root links) taken entered last →
      extendLinks ix skipped depth root links = (if depth < 3 then links else last.links) ∧
      taken = links.map (fun l => (l.symbol, 2)) ++ entered ∧
      (entered.map Prod.fst).Nodup ∧
      (∀ x ∈ entered.map Prod.fst, x ≠ root ∧ x ∉ links.map (·.symbol) ∧
        x ∈ ix.calls.map (·.caller)) ∧
      taken.length ≤ links.length + (distinct (ix.calls.map (·.caller))).length := by
  obtain ⟨taken, entered, hfinish⟩ :=
    Walk.exists_run _ (Walk.finish_queue ix skipped depth root links)
  refine ⟨⟨taken, entered, _, hfinish⟩, fun taken' entered' last hrun => ?_⟩
  have hlength : taken'.length = links.length + entered'.length := by
    rw [hrun.taken_eq, Walk.start, List.length_append, List.length_map]
  refine ⟨?_, hrun.taken_eq, hrun.enters.once, fun x hx => ?_, ?_⟩
  · have hentered := hrun.enters.length_le (List.Subset.refl _)
    rw [List.length_map] at hentered
    rw [extendLinks, hrun.steps_eq (by omega)]
  · have hunseen := hrun.enters.unseen x hx
    simp only [Walk.start, List.mem_cons, not_or] at hunseen
    exact ⟨hunseen.1, hunseen.2, hrun.enters.callers x hx⟩
  · have hentered := hrun.enters.length_le fun x hx => mem_distinct.mpr hx
    omega

/-- `handle` calls itself, `retry` calls it twice and is called by it, `serve` calls `retry`, and
the root `pay` calls `serve`. -/
def circularIndex : Index where
  calls :=
    [⟨"handle", "handle", "web.py", 3⟩, ⟨"retry", "handle", "job.py", 5⟩,
      ⟨"retry", "handle", "job.py", 6⟩, ⟨"handle", "retry", "web.py", 4⟩,
      ⟨"serve", "retry", "app.py", 2⟩, ⟨"pay", "serve", "core.py", 9⟩]

/-- Two links with one name. -/
def handleLinks : List ChainLink :=
  [⟨1, "core.py", "handle", "directly calls pay"⟩,
    ⟨2, "web.py", "handle", "transitively depends on a level-1 file"⟩]

theorem circularIndex_walk_ends :
    let taken := [("handle", 2), ("handle", 2), ("retry", 3), ("serve", 4)]
    (∃ last, Walk.Run circularIndex [] 1000000 (.start "pay" handleLinks) taken
        [("retry", 3), ("serve", 4)] last ∧
      extendLinks circularIndex [] 1000000 "pay" handleLinks = last.links) ∧
    taken.length ≤
      handleLinks.length + (distinct (circularIndex.calls.map (·.caller))).length := by
  let step := Walk.step circularIndex [] 1000000
  let start := Walk.start "pay" handleLinks
  have hstart : start.queue = [("handle", 2)] ++ [("handle", 2)] := rfl
  have hfirst : (step start).queue = [("handle", 2)] ++ [("retry", 3)] := by decide
  have hsecond : (step (step start)).queue = [("retry", 3)] ++ [] := by decide
  have hthird : (step (step (step start))).queue = [] ++ [("serve", 4)] := by decide
  have hfourth : (step (step (step (step start)))).queue = [] ++ [] := by decide
  have hrun := Walk.Run.next hstart hfirst
    (.next hfirst hsecond (.next hsecond hthird (.next hthird hfourth (.ended hfourth))))
  obtain ⟨hlinks, -, -, -, hlength⟩ :=
    (extendLinks_walk_ends circularIndex [] 1000000 "pay" handleLinks).2 _ _ _ hrun
  exact ⟨⟨_, hrun, hlinks⟩, hlength⟩

end PullReview.Impact
