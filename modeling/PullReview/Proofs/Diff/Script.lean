import PullReview.Diff.Script

/-!
# Edit scripts build the two texts

The search for the longest common run only ever returns lines that the two sides share, so the
lines of a side of the runs of a script, put together, are the text of that side.
-/

namespace PullReview.Diff

/-! ### Overlaps -/

/-- The lines of an overlap are lines of both sides, and the same ones. -/
structure Overlap.Shared (o : Overlap) (old : List String) (new : List Candidate) : Prop where
  inOld : o.oldStart + o.size ≤ old.length
  inNew : o.newStart + o.size ≤ new.length
  agree : ∀ t < o.size, old[o.oldStart + t]? = new[o.newStart + t]?.map (·.line)

namespace Overlap.Shared

variable {o : Overlap} {old : List String} {new : List Candidate}

theorem empty : Shared ⟨0, 0, 0⟩ old new := ⟨by simp, by simp, by simp⟩

theorem lines_eq (h : o.Shared old new) :
    (old.drop o.oldStart).take o.size = ((new.drop o.newStart).take o.size).map (·.line) := by
  apply List.ext_getElem?
  intro t
  simp only [List.getElem?_map, List.getElem?_take, List.getElem?_drop]
  split
  · rename_i ht
    exact h.agree t ht
  · rfl

theorem ahead {k : Nat} (h : o.Shared old new)
    (hold : k ≤ (old.drop (o.oldStart + o.size)).length)
    (hnew : k ≤ (new.drop (o.newStart + o.size)).length)
    (hagree : ∀ t < k, (old.drop (o.oldStart + o.size))[t]? =
      (new.drop (o.newStart + o.size))[t]?.map (·.line)) :
    Shared ⟨o.oldStart, o.newStart, o.size + k⟩ old new := by
  have hbounds := And.intro h.inOld h.inNew
  rw [List.length_drop] at hold hnew
  refine ⟨?_, ?_, fun t ht => ?_⟩
  · show o.oldStart + (o.size + k) ≤ old.length
    omega
  · show o.newStart + (o.size + k) ≤ new.length
    omega
  · by_cases hin : t < o.size
    · exact h.agree t hin
    · have ht' : t < o.size + k := ht
      have hstep := hagree (t - o.size) (by omega)
      rw [List.getElem?_drop, List.getElem?_drop,
        show o.oldStart + o.size + (t - o.size) = o.oldStart + t by omega,
        show o.newStart + o.size + (t - o.size) = o.newStart + t by omega] at hstep
      exact hstep

private theorem getElem?_reverse_take {α : Type} {l : List α} {s t : Nat} (hs : s ≤ l.length)
    (ht : t < s) : (l.take s).reverse[t]? = l[s - 1 - t]? := by
  rw [List.getElem?_reverse (by simp; omega), List.length_take, Nat.min_eq_left hs,
    List.getElem?_take_of_lt (by omega)]

theorem back {k : Nat} (h : o.Shared old new) (hold : k ≤ o.oldStart) (hnew : k ≤ o.newStart)
    (hagree : ∀ t < k, (old.take o.oldStart).reverse[t]? =
      (new.take o.newStart).reverse[t]?.map (·.line)) :
    Shared ⟨o.oldStart - k, o.newStart - k, o.size + k⟩ old new := by
  have hbounds := And.intro h.inOld h.inNew
  refine ⟨?_, ?_, fun t ht => ?_⟩
  · show o.oldStart - k + (o.size + k) ≤ old.length
    omega
  · show o.newStart - k + (o.size + k) ≤ new.length
    omega
  · have ht' : t < o.size + k := ht
    show old[o.oldStart - k + t]? = new[o.newStart - k + t]?.map (·.line)
    by_cases hin : t < k
    · have hstep := hagree (k - 1 - t) (by omega)
      rw [getElem?_reverse_take (by omega) (by omega), getElem?_reverse_take (by omega) (by omega),
        show o.oldStart - 1 - (k - 1 - t) = o.oldStart - k + t by omega,
        show o.newStart - 1 - (k - 1 - t) = o.newStart - k + t by omega] at hstep
      exact hstep
    · have hstep := h.agree (t - k) (by omega)
      rw [show o.oldStart + (t - k) = o.oldStart - k + t by omega,
        show o.newStart + (t - k) = o.newStart - k + t by omega] at hstep
      exact hstep

end Overlap.Shared

/-! ### The search for anchored runs -/

/-- A run of `k` lines ends before old line `i` and before new line `j`. -/
structure RunEnds (old : List String) (new : List Candidate) (i j k : Nat) : Prop where
  fitsOld : k ≤ i
  fitsNew : k ≤ j
  shared : Overlap.Shared ⟨i - k, j - k, k⟩ old new

private theorem RunEnds.zero {old : List String} {new : List Candidate} {i j : Nat}
    (hi : i ≤ old.length) (hj : j ≤ new.length) : RunEnds old new i j 0 :=
  ⟨by simp, by simp, ⟨hi, hj, by simp⟩⟩

private theorem RunEnds.succ {old : List String} {new : List Candidate} {i j k : Nat}
    {c : Candidate} (h : RunEnds old new i j k) (hold : old[i]? = some c.line)
    (hnew : new[j]? = some c) : RunEnds old new (i + 1) (j + 1) (k + 1) := by
  obtain ⟨hi, hj, hshared⟩ := h
  have hilt := (List.getElem?_eq_some_iff.mp hold).1
  have hjlt := (List.getElem?_eq_some_iff.mp hnew).1
  refine ⟨by omega, by omega, ?_⟩
  rw [Nat.add_sub_add_right, Nat.add_sub_add_right]
  apply hshared.ahead
  · simp only [List.length_drop]
    omega
  · simp only [List.length_drop]
    omega
  · intro t ht
    obtain rfl : t = 0 := by omega
    simp only [List.getElem?_drop, Nat.add_zero, Nat.sub_add_cancel hi, Nat.sub_add_cancel hj,
      hold, hnew, Option.map_some]

/-- Each number of a row is the length of a run that ends with the new line it stands at. -/
def RowEnds (old : List String) (new : List Candidate) (i : Nat) (row : List Nat) : Prop :=
  ∀ j k, row[j]? = some k → RunEnds old new i (j + 1) k

private theorem nextRow_ends {old : List String} {new : List Candidate} {i : Nat} {line : String}
    {row : List Nat} (hline : old[i]? = some line) (h : RowEnds old new i row) :
    RowEnds old new (i + 1) (nextRow line new row) := by
  intro j k hk
  have hi := (List.getElem?_eq_some_iff.mp hline).1
  obtain ⟨c, before, hc, hbefore, rfl⟩ := List.getElem?_zipWith_eq_some.mp hk
  have hj := (List.getElem?_eq_some_iff.mp hc).1
  have hends : RunEnds old new i j before := by
    cases j with
    | zero =>
        obtain rfl : 0 = before := by simpa using hbefore
        exact .zero (by omega) (by omega)
    | succ j => exact h j before (by simpa using hbefore)
  split
  · rename_i hmatch
    obtain rfl : c.line = line := by
      have hboth := Bool.and_eq_true_iff.mp hmatch
      simpa using hboth.2
    exact hends.succ hline hc
  · exact .zero (by omega) (by omega)

private theorem improve_shared {old : List String} {new : List Candidate} {i j : Nat}
    {row : List Nat} {best : Overlap} (hbest : best.Shared old new)
    (hrow : ∀ t k, row[t]? = some k → RunEnds old new (i + 1) (j + t + 1) k) :
    (improve i j row best).Shared old new := by
  induction row generalizing j best with
  | nil => exact hbest
  | cons k row ih =>
      rw [improve]
      apply ih
      · split
        · exact (hrow 0 k (by simp)).shared
        · exact hbest
      · intro t k' hk'
        have hends := hrow (t + 1) k' (by simpa using hk')
        rwa [show j + (t + 1) + 1 = j + 1 + t + 1 by omega] at hends

private theorem anchoredFrom_shared {old rest : List String} {new : List Candidate} {i : Nat}
    {row : List Nat} {best : Overlap} (hrest : old.drop i = rest)
    (hrow : RowEnds old new i row) (hbest : best.Shared old new) :
    (anchoredFrom new i rest row best).Shared old new := by
  induction rest generalizing i row best with
  | nil => exact hbest
  | cons line rest ih =>
      have hline : old[i]? = some line := by
        rw [← List.head?_drop, hrest, List.head?_cons]
      have hnext := nextRow_ends hline hrow
      rw [anchoredFrom]
      apply ih
      · rw [← List.tail_drop, hrest, List.tail_cons]
      · exact hnext
      · apply improve_shared hbest
        intro t k hk
        rw [Nat.zero_add]
        exact hnext t k hk

/-! ### The longest overlap -/

private theorem commonStart_le (old : List String) (new : List Candidate) :
    commonStart old new ≤ old.length ∧ commonStart old new ≤ new.length := by
  fun_induction commonStart old new with
  | case1 l old c new _ ih =>
      simp only [List.length_cons]
      omega
  | case2 l old c new _ => simp
  | case3 old new _ => simp

private theorem commonStart_agree (old : List String) (new : List Candidate) :
    ∀ t < commonStart old new, old[t]? = new[t]?.map (·.line) := by
  fun_induction commonStart old new with
  | case1 l old c new heq ih =>
      intro t ht
      cases t with
      | zero => simpa using heq
      | succ t => simpa using ih t (by omega)
  | case2 l old c new _ => simp
  | case3 old new _ => simp

private theorem longestOverlap_shared (old : List String) (new : List Candidate) :
    (longestOverlap old new).Shared old new := by
  have hfound : (anchoredFrom new 0 old (new.map fun _ => 0) ⟨0, 0, 0⟩).Shared old new := by
    apply anchoredFrom_shared List.drop_zero _ .empty
    intro j k hk
    rw [List.getElem?_map] at hk
    obtain ⟨c, hc, rfl⟩ := Option.map_eq_some_iff.mp hk
    exact .zero (by simp) (List.getElem?_eq_some_iff.mp hc).1
  simp only [longestOverlap]
  generalize anchoredFrom new 0 old (new.map fun _ => 0) ⟨0, 0, 0⟩ = found at hfound ⊢
  have hlong := hfound.ahead (commonStart_le _ _).1 (commonStart_le _ _).2 (commonStart_agree _ _)
  have hback := commonStart_le (old.take found.oldStart).reverse (new.take found.newStart).reverse
  simp only [List.length_reverse, List.length_take] at hback
  rw [Nat.add_right_comm]
  exact hlong.back (Nat.le_trans hback.1 (Nat.min_le_left _ _))
    (Nat.le_trans hback.2 (Nat.min_le_left _ _)) (commonStart_agree _ _)

/-! ### Scripts -/

private theorem changeRun_lines (old new : List String) :
    (changeRun old new).flatMap Run.oldLines = old ∧
      (changeRun old new).flatMap Run.newLines = new := by
  rw [changeRun]
  split
  · rename_i hempty
    obtain ⟨hold, hnew⟩ := Bool.and_eq_true_iff.mp hempty
    rw [List.isEmpty_iff.mp hold, List.isEmpty_iff.mp hnew]
    exact ⟨rfl, rfl⟩
  · simp [Run.oldLines, Run.newLines]

private theorem runsWithin_lines (fuel : Nat) (old : List String) (new : List Candidate) :
    (runsWithin fuel old new).flatMap Run.oldLines = old ∧
      (runsWithin fuel old new).flatMap Run.newLines = new.map (·.line) := by
  induction fuel generalizing old new with
  | zero => exact changeRun_lines _ _
  | succ fuel ih =>
      rw [runsWithin]
      split
      · exact changeRun_lines _ _
      · refine ⟨?_, ?_⟩
        · rw [List.flatMap_append, List.flatMap_cons, (ih _ _).1, (ih _ _).1, Run.oldLines,
            ← List.drop_drop, List.take_append_drop, List.take_append_drop]
        · rw [List.flatMap_append, List.flatMap_cons, (ih _ _).2, (ih _ _).2, Run.newLines,
            (longestOverlap_shared old new).lines_eq, ← List.map_append, ← List.map_append,
            ← List.drop_drop, List.take_append_drop, List.take_append_drop]

private theorem joinSame_lines {side : Run → List String} (hside : ∀ ls, side (.same ls) = ls)
    (runs : List Run) : (joinSame runs).flatMap side = runs.flatMap side := by
  fun_induction joinSame runs with
  | case1 => rfl
  | case2 a rest b joined hjoined ih =>
      rw [hjoined] at ih
      simp only [List.flatMap_cons, hside] at ih ⊢
      rw [← ih, List.append_assoc]
  | case3 a rest _ ih => rw [List.flatMap_cons, ih, List.flatMap_cons]
  | case4 r rest _ ih => rw [List.flatMap_cons, ih, List.flatMap_cons]

/-- The old lines of the runs of a script are the old text. -/
theorem script_oldLines (old new : List String) :
    (script old new).flatMap Run.oldLines = old := by
  rw [script, joinSame_lines (fun _ => rfl), (runsWithin_lines _ _ _).1]

/-- The new lines of the runs of a script are the new text. -/
theorem script_newLines (old new : List String) :
    (script old new).flatMap Run.newLines = new := by
  rw [script, joinSame_lines (fun _ => rfl), (runsWithin_lines _ _ _).2, candidates, List.map_map]
  exact List.map_id new

end PullReview.Diff
