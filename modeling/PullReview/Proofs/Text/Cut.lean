import Mathlib.Data.List.Infix
import PullReview.Proofs.Text.Lines

/-!
# Texts cut at some characters

Readers of a text do not agree on what ends a line. A text can be cut at any set of characters, a
carriage return and a line feed together being one cut. Two sets cut a text into the same first
lines if these lines hold nothing of the larger set, and a part of a text that is cut at line feeds
stands in the lines that its line feeds tell.
-/

namespace PullReview.Text

/-- The lines between breaks; `line` is the line being read, reversed. -/
def cutFrom (isBreak : Char → Bool) (line : List Char) : List Char → List (List Char)
  | [] => if line.isEmpty then [] else [line.reverse]
  | '\r' :: '\n' :: rest => line.reverse :: cutFrom isBreak [] rest
  | c :: rest =>
      if isBreak c then line.reverse :: cutFrom isBreak [] rest
      else cutFrom isBreak (c :: line) rest

def cut (isBreak : Char → Bool) (s : String) : List String :=
  (cutFrom isBreak [] s.toList).map String.ofList

private theorem linesFrom_eq_cutFrom (line cs : List Char) :
    linesFrom line cs = cutFrom isLineBoundary line cs := by
  fun_induction linesFrom line cs with
  | case1 line h => simp [cutFrom, h]
  | case2 line h => simp [cutFrom, h]
  | case3 line rest ih => simp [cutFrom, ih]
  | case4 line c rest hpair hc ih =>
      rw [cutFrom, if_pos hc, ih]
      exact hpair
  | case5 line c rest hpair hc ih =>
      rw [cutFrom, if_neg hc, ih]
      exact hpair

theorem lines_eq_cut (s : String) : lines s = cut isLineBoundary s := by
  rw [lines, cut, linesFrom_eq_cutFrom]

variable {isBreak : Char → Bool}

/-- No line holds a break. -/
theorem isBreak_of_mem_cutFrom {line cs l : List Char} (hl : l ∈ cutFrom isBreak line cs)
    (hline : ∀ c ∈ line, isBreak c = false) : ∀ c ∈ l, isBreak c = false := by
  fun_induction cutFrom isBreak line cs with
  | case1 line h => cases hl
  | case2 line h =>
      rw [List.mem_singleton.mp hl]
      simpa using hline
  | case3 line rest ih =>
      obtain rfl | hl := List.mem_cons.mp hl
      · simpa using hline
      · exact ih hl (by simp)
  | case4 line c rest hpair hc ih =>
      obtain rfl | hl := List.mem_cons.mp hl
      · simpa using hline
      · exact ih hl (by simp)
  | case5 line c rest hpair hc ih =>
      exact ih hl (List.forall_mem_cons.mpr ⟨by simpa using hc, hline⟩)

private theorem cutFrom_of_line_ne_nil (isBreak : Char → Bool) {line : List Char}
    (hline : line ≠ []) (cs : List Char) :
    ∃ first rest, cutFrom isBreak line cs = first :: rest ∧ line.reverse <+: first := by
  fun_induction cutFrom isBreak line cs with
  | case1 line h => exact absurd (List.isEmpty_iff.mp h) hline
  | case2 line h => exact ⟨_, _, rfl, List.prefix_refl _⟩
  | case3 line rest ih => exact ⟨_, _, rfl, List.prefix_refl _⟩
  | case4 line c rest hpair hc ih => exact ⟨_, _, rfl, List.prefix_refl _⟩
  | case5 line c rest hpair hc ih =>
      obtain ⟨first, more, hcut, hfirst⟩ := ih (List.cons_ne_nil c line)
      refine ⟨first, more, hcut, List.IsPrefix.trans ?_ hfirst⟩
      rw [List.reverse_cons]
      exact List.prefix_append _ _

/-- More breaks change nothing in lines that do not hold them. -/
theorem take_cutFrom_of_subset {isBreak' : Char → Bool} (hsub : ∀ c, isBreak c = true →
    isBreak' c = true) {line cs : List Char} {n : Nat}
    (h : ∀ l ∈ (cutFrom isBreak line cs).take n, ∀ c ∈ l, isBreak' c = false) :
    (cutFrom isBreak' line cs).take n = (cutFrom isBreak line cs).take n := by
  fun_induction cutFrom isBreak line cs generalizing n with
  | case1 line hline => simp [cutFrom, hline]
  | case2 line hline => simp [cutFrom, hline]
  | case3 line rest ih =>
      cases n with
      | zero => rfl
      | succ n =>
          rw [List.take_succ_cons, List.forall_mem_cons] at h
          rw [cutFrom, List.take_succ_cons, List.take_succ_cons, ih h.2]
  | case4 line c rest hpair hc ih =>
      cases n with
      | zero => rfl
      | succ n =>
          rw [List.take_succ_cons, List.forall_mem_cons] at h
          rw [cutFrom, if_pos (hsub c hc), List.take_succ_cons, List.take_succ_cons, ih h.2]
          exact hpair
  | case5 line c rest hpair hc ih =>
      cases n with
      | zero => rfl
      | succ n =>
          have hc' : isBreak' c = false := by
            obtain ⟨first, more, hcut, hfirst⟩ :=
              cutFrom_of_line_ne_nil isBreak (List.cons_ne_nil c line) rest
            rw [hcut, List.take_succ_cons, List.forall_mem_cons] at h
            exact h.1 c (hfirst.subset (by simp))
          rw [cutFrom, if_neg (by simp [hc']), ih h]
          exact hpair

/-! ### Line feeds -/

def isFeed (c : Char) : Bool := c == '\n'

theorem cutFrom_cons {c : Char} (hc : c ≠ '\r') (line rest : List Char) :
    cutFrom isBreak line (c :: rest) =
      if isBreak c then line.reverse :: cutFrom isBreak [] rest
      else cutFrom isBreak (c :: line) rest := by
  rw [cutFrom]
  rintro _ rfl
  exact fun _ => hc rfl

private theorem cutFrom_append {line l : List Char} (hfeed : '\n' ∉ l) (hreturn : '\r' ∉ l)
    (rest : List Char) :
    cutFrom isFeed line (l ++ rest) = cutFrom isFeed (l.reverse ++ line) rest := by
  induction l generalizing line with
  | nil => rfl
  | cons c l ih =>
      rw [List.mem_cons, not_or] at hfeed hreturn
      have hc : isFeed c = false := beq_false_of_ne (Ne.symm hfeed.1)
      rw [List.cons_append, cutFrom_cons (Ne.symm hreturn.1), hc, if_neg (by simp),
        ih hfeed.2 hreturn.2]
      simp

private theorem cutFrom_line {l : List Char} (hfeed : '\n' ∉ l) (hreturn : '\r' ∉ l)
    (rest : List Char) : cutFrom isFeed [] (l ++ '\n' :: rest) = l :: cutFrom isFeed [] rest := by
  rw [cutFrom_append hfeed hreturn, cutFrom_cons (by decide), if_pos (by decide)]
  simp

private theorem exists_line {cs : List Char} (h : '\n' ∈ cs) :
    ∃ l rest, cs = l ++ '\n' :: rest ∧ '\n' ∉ l := by
  obtain ⟨l, rest, hl, hcs, -⟩ := List.exists_erase_eq h
  exact ⟨l, rest, hcs, hl⟩

/-- Leaving out as many lines as there are line feeds in front of a text leaves all of the text. -/
theorem drop_cutFrom {before : List Char} (hreturn : '\r' ∉ before) (rest : List Char) {n : Nat}
    (hn : n ≤ before.count '\n') : ∃ kept, kept.count '\n' + n = before.count '\n' ∧ '\r' ∉ kept ∧
      (cutFrom isFeed [] (before ++ rest)).drop n = cutFrom isFeed [] (kept ++ rest) := by
  induction n generalizing before with
  | zero => exact ⟨before, rfl, hreturn, rfl⟩
  | succ n ih =>
      have hfeed : '\n' ∈ before := List.count_pos_iff.mp (by omega)
      obtain ⟨l, more, rfl, hl⟩ := exists_line hfeed
      rw [List.mem_append, List.mem_cons, not_or, not_or] at hreturn
      have hcount : (l ++ '\n' :: more).count '\n' = more.count '\n' + 1 := by
        rw [List.count_append, List.count_cons_self, List.count_eq_zero_of_not_mem hl, Nat.zero_add]
      obtain ⟨kept, hkept, hkeptReturn, hdrop⟩ := ih hreturn.2.2 (by omega)
      refine ⟨kept, by omega, hkeptReturn, ?_⟩
      rw [List.append_assoc, List.cons_append, cutFrom_line hl hreturn.1, List.drop_succ_cons,
        hdrop]

private theorem eq_nil_of_cutFrom_eq_nil (isBreak : Char → Bool) {cs : List Char}
    (h : cutFrom isBreak [] cs = []) : cs = [] := by
  fun_cases cutFrom isBreak [] cs with
  | case1 => rfl
  | case2 hline => exact absurd rfl hline
  | case3 rest => simp [cutFrom] at h
  | case4 c rest hpair hc =>
      rw [cutFrom, if_pos hc] at h
      · cases h
      · exact hpair
  | case5 c rest hpair hc =>
      rw [cutFrom, if_neg hc] at h
      · obtain ⟨first, more, hcut, -⟩ :=
          cutFrom_of_line_ne_nil isBreak (List.cons_ne_nil c []) rest
        rw [hcut] at h
        cases h
      · exact hpair

private theorem prefix_intercalate (sep l : List Char) (ls : List (List Char)) :
    l <+: sep.intercalate (l :: ls) := by
  cases ls with
  | nil => rw [List.intercalate_singleton]
  | cons l' ls =>
      rw [List.intercalate_cons_cons, List.append_assoc]
      exact List.prefix_append _ _

private theorem prefix_take_cutFrom {front : List Char} (hreturn : '\r' ∉ front) (rest : List Char)
    {n : Nat} (hn : front.count '\n' < n) :
    front <+: ['\n'].intercalate ((cutFrom isFeed [] (front ++ rest)).take n) ++ ['\n'] := by
  induction n generalizing front with
  | zero => cases hn
  | succ n ih =>
      by_cases hfeed : '\n' ∈ front
      · obtain ⟨l, more, rfl, hl⟩ := exists_line hfeed
        rw [List.mem_append, List.mem_cons, not_or, not_or] at hreturn
        have hmore : more.count '\n' < n := by
          rw [List.count_append, List.count_cons_self] at hn
          omega
        have hinner := ih hreturn.2.2 hmore
        rw [List.append_assoc, List.cons_append, cutFrom_line hl hreturn.1, List.take_succ_cons]
        cases hlines : (cutFrom isFeed [] (more ++ rest)).take n with
        | nil =>
            have hnil : more ++ rest = [] := by
              apply eq_nil_of_cutFrom_eq_nil isFeed
              obtain hn | hnil := List.take_eq_nil_iff.mp hlines
              · omega
              · exact hnil
            rw [(List.append_eq_nil_iff.mp hnil).1, List.intercalate_singleton]
        | cons l' ls =>
            rw [hlines] at hinner
            rw [List.intercalate_cons_cons, List.append_assoc, List.append_assoc]
            exact (List.prefix_append_right_inj l).mpr ((List.prefix_cons_inj '\n').mpr hinner)
      · rw [cutFrom_append hfeed hreturn, List.append_nil]
        by_cases hfront : front = []
        · rw [hfront]
          exact List.nil_prefix
        · obtain ⟨first, more, hcut, hfirst⟩ := cutFrom_of_line_ne_nil isFeed
            (List.reverse_eq_nil_iff.not.mpr hfront) rest
          rw [List.reverse_reverse] at hfirst
          rw [hcut, List.take_succ_cons]
          exact (hfirst.trans (prefix_intercalate _ _ _)).trans (List.prefix_append _ _)

/-- The part of a text between two offsets stands in the lines that its line feeds tell. -/
theorem infix_lines {cs : List Char} (hreturn : '\r' ∉ cs) {start stop first last : Nat}
    (hle : start ≤ stop) (hfirst : first - 1 ≤ (cs.take start).count '\n')
    (hlast : (cs.take stop).count '\n' < last) :
    (cs.drop start).take (stop - start) <:+:
      ['\n'].intercalate (((cutFrom isFeed [] cs).drop (first - 1)).take (last - (first - 1))) ++
        ['\n'] := by
  have hbefore : '\r' ∉ cs.take start := fun h => hreturn (List.mem_of_mem_take h)
  have hpart : '\r' ∉ (cs.drop start).take (stop - start) :=
    fun h => hreturn (List.mem_of_mem_drop (List.mem_of_mem_take h))
  obtain ⟨kept, hkept, hkeptReturn, hdrop⟩ := drop_cutFrom hbefore (cs.drop start) hfirst
  rw [List.take_append_drop] at hdrop
  have hcount : (kept ++ (cs.drop start).take (stop - start)).count '\n' < last - (first - 1) := by
    rw [← Nat.add_sub_cancel' hle, List.take_add, List.count_append] at hlast
    rw [List.count_append]
    omega
  have hreturns : '\r' ∉ kept ++ (cs.drop start).take (stop - start) := by
    simp [hkeptReturn, hpart]
  have hprefix := prefix_take_cutFrom hreturns ((cs.drop start).drop (stop - start)) hcount
  rw [List.append_assoc, List.take_append_drop, ← hdrop] at hprefix
  exact (List.suffix_append kept _).isInfix.trans hprefix.isInfix

end PullReview.Text
