import PullReview.Proofs.Text.Lines
import PullReview.Text.Blank

/-!
# Thinned texts

A text is thinned out when pieces of it give way to single blanks and its end is cut off. Nothing
comes together that was apart: whatever stands in the thinned text in one piece, without blanks,
stands in the text as well, and in the same order. Trimming a text, squeezing its blanks and leaving
out its blank lines thin it out.
-/

namespace PullReview.Text

/-- Pieces of the second text gave way to blanks in the first, which may end earlier. -/
inductive Thinned : List Char → List Char → Prop
  | nil (cs : List Char) : Thinned [] cs
  | keep (c : Char) {ds cs : List Char} (h : Thinned ds cs) : Thinned (c :: ds) (c :: cs)
  | blank {b : Char} (hb : isBlank b = true) (piece : List Char) {ds cs : List Char}
      (h : Thinned ds cs) : Thinned (b :: ds) (piece ++ cs)

/-- A part of a text without blanks stays in one piece. -/
theorem Thinned.of_append_solid {w ds cs : List Char} (hw : ∀ c ∈ w, isBlank c = false)
    (h : Thinned (w ++ ds) cs) : ∃ rest, cs = w ++ rest ∧ Thinned ds rest := by
  induction w generalizing cs with
  | nil => exact ⟨cs, rfl, h⟩
  | cons c w ih =>
      rw [List.forall_mem_cons] at hw
      cases h with
      | keep _ h =>
          obtain ⟨rest, rfl, hrest⟩ := ih hw.2 h
          exact ⟨rest, rfl, hrest⟩
      | blank hb piece h =>
          rw [hw.1] at hb
          cases hb

private theorem Thinned.of_append_left {ds more cs : List Char} (h : Thinned (ds ++ more) cs) :
    Thinned ds cs := by
  induction ds generalizing cs with
  | nil => exact .nil cs
  | cons c ds ih =>
      cases h with
      | keep _ h => exact .keep c (ih h)
      | blank hb piece h => exact .blank hb piece (ih h)

theorem Thinned.append_right {ds cs : List Char} (h : Thinned ds cs) (more : List Char) :
    Thinned ds (cs ++ more) := by
  induction h with
  | nil cs => exact .nil _
  | keep c h ih => exact .keep c ih
  | blank hb piece h ih =>
      rw [List.append_assoc]
      exact .blank hb piece ih

theorem Thinned.count_le {c : Char} (hc : isBlank c = false) {ds cs : List Char}
    (h : Thinned ds cs) : ds.count c ≤ cs.count c := by
  induction h with
  | nil cs => simp
  | keep d h ih => simpa [List.count_cons] using ih
  | @blank b hb piece ds cs h ih =>
      have hne : b ≠ c := by
        rintro rfl
        rw [hc] at hb
        cases hb
      rw [List.count_cons_of_ne hne, List.count_append]
      omega

/-- The first text covers the second, which is a thinned end of it. -/
def Covers (cs ds : List Char) : Prop := ∃ front rest, cs = front ++ rest ∧ Thinned ds rest

theorem Thinned.covers {ds cs : List Char} (h : Thinned ds cs) : Covers cs ds := ⟨[], cs, rfl, h⟩

namespace Covers

theorem append_left {cs ds : List Char} (front : List Char) (h : Covers cs ds) :
    Covers (front ++ cs) ds := by
  obtain ⟨more, rest, rfl, hrest⟩ := h
  exact ⟨front ++ more, rest, (List.append_assoc _ _ _).symm, hrest⟩

private theorem of_append {front ds cs : List Char} (h : Thinned (front ++ ds) cs) :
    Covers cs ds := by
  induction front generalizing cs with
  | nil => exact h.covers
  | cons c front ih =>
      cases h with
      | keep _ h => exact (ih h).append_left [c]
      | blank hb piece h => exact (ih h).append_left piece

/-- What stands in one piece in a thinned text stands in the text, with what follows it. -/
theorem exists_solid {cs front w ds : List Char} (hw : ∀ c ∈ w, isBlank c = false)
    (h : Covers cs (front ++ w ++ ds)) :
    ∃ before after, cs = before ++ w ++ after ∧ Covers after ds := by
  obtain ⟨more, rest, rfl, hrest⟩ := h
  rw [List.append_assoc] at hrest
  obtain ⟨before, found, rfl, hfound⟩ := of_append hrest
  obtain ⟨after, rfl, hafter⟩ := hfound.of_append_solid hw
  exact ⟨more ++ before, after, by simp, hafter.covers⟩

theorem infix_of_solid {cs ds w : List Char} (h : Covers cs ds) (hw : ∀ c ∈ w, isBlank c = false)
    (hds : w <:+: ds) : w <:+: cs := by
  obtain ⟨front, rest, rfl⟩ := hds
  obtain ⟨before, after, rfl, _⟩ := h.exists_solid hw
  exact ⟨before, after, rfl⟩

theorem count_le {cs ds : List Char} {c : Char} (hc : isBlank c = false) (h : Covers cs ds) :
    ds.count c ≤ cs.count c := by
  obtain ⟨front, rest, rfl, hrest⟩ := h
  have hle := hrest.count_le hc
  rw [List.count_append]
  omega

theorem of_infix {cs ds part : List Char} (h : Covers cs ds) (hpart : part <:+: ds) :
    Covers cs part := by
  obtain ⟨front, more, rfl⟩ := hpart
  obtain ⟨before, rest, rfl, hrest⟩ := h
  rw [List.append_assoc] at hrest
  obtain ⟨middle, found, rfl, hfound⟩ := of_append hrest
  exact ⟨before ++ middle, found, by simp, hfound.of_append_left⟩

/-- Two covered texts with a blank between them are covered by the texts one after the other. -/
theorem append {cs ds cs' ds' : List Char} (h : Covers cs ds) (h' : Covers cs' ds') {b : Char}
    (hb : isBlank b = true) (piece : List Char) :
    Covers (cs ++ piece ++ cs') (ds ++ b :: ds') := by
  obtain ⟨front, rest, rfl, hrest⟩ := h
  obtain ⟨front', rest', rfl, hrest'⟩ := h'
  have hjoined : Thinned (ds ++ b :: ds') (rest ++ (piece ++ (front' ++ rest'))) := by
    induction hrest with
    | nil cs =>
        have hblank := Thinned.blank hb (cs ++ (piece ++ front')) hrest'
        simpa using hblank
    | keep c h ih => exact .keep c ih
    | blank hc more h ih =>
        have hblank := Thinned.blank hc more ih
        simpa using hblank
  exact ⟨front, _, by simp, hjoined⟩

end Covers

/-! ### Squeezing and trimming -/

private theorem thinned_squeezeFrom (cs : List Char) :
    Thinned (squeezeFrom false cs) cs ∧ Covers cs (squeezeFrom true cs) := by
  induction cs with
  | nil => exact ⟨.nil [], (Thinned.nil []).covers⟩
  | cons c cs ih =>
      obtain ⟨hfirst, hrun⟩ := ih
      rw [squeezeFrom, squeezeFrom]
      by_cases hc : isBlank c = true
      · rw [if_pos hc, if_pos hc]
        refine ⟨?_, hrun.append_left [c]⟩
        obtain ⟨front, rest, rfl, hrest⟩ := hrun
        exact .blank (by decide) (c :: front) hrest
      · rw [if_neg hc, if_neg hc]
        exact ⟨.keep c hfirst, (Thinned.keep c hfirst).covers⟩

private theorem infix_stripBy (p : Char → Bool) (cs : List Char) : stripBy p cs <:+: cs := by
  rw [stripBy, ← List.reverse_infix, List.reverse_reverse]
  apply (List.dropWhile_suffix p).isInfix.trans
  rw [List.reverse_infix]
  exact (List.dropWhile_suffix p).isInfix

/-- The characters of a line with single spaces, and none at its ends. -/
def tidy (line : List Char) : List Char := stripBy isBlank (squeezeFrom false line)

private theorem covers_tidy (line : List Char) : Covers line (tidy line) :=
  (thinned_squeezeFrom line).1.covers.of_infix (infix_stripBy isBlank _)

/-! ### Lines -/

/-- The lines that are not empty, on lines of their own. -/
def joinFilled (ls : List (List Char)) : List Char := ['\n'].intercalate (ls.filter (· != []))

private theorem covers_joinFilled {cs rest line : List Char} {ls : List (List Char)}
    (hline : Covers cs line) (hls : Covers rest (joinFilled ls)) (piece : List Char) :
    Covers (cs ++ piece ++ rest) (joinFilled (line :: ls)) := by
  by_cases hempty : line = []
  · rw [joinFilled, List.filter_cons_of_neg (by simp [hempty])]
    exact hls.append_left (cs ++ piece)
  · rw [joinFilled, List.filter_cons_of_pos (by simp [hempty])]
    cases hfilled : ls.filter (· != []) with
    | nil =>
        rw [List.intercalate_singleton, List.append_assoc]
        obtain ⟨front, more, rfl, hmore⟩ := hline
        exact ⟨front, more ++ (piece ++ rest), by simp, hmore.append_right _⟩
    | cons first others =>
        rw [joinFilled, hfilled] at hls
        rw [List.intercalate_cons_cons, List.append_assoc line]
        exact hline.append hls (show isBlank '\n' = true by decide) piece

theorem covers_linesFrom (line cs : List Char) :
    Covers (line.reverse ++ cs) (joinFilled ((linesFrom line cs).map tidy)) := by
  fun_induction linesFrom line cs with
  | case1 line h => exact (Thinned.nil _).covers
  | case2 line h =>
      have hnone : Covers [] (joinFilled []) := (Thinned.nil []).covers
      have hlast := covers_joinFilled (covers_tidy line.reverse) hnone []
      simpa using hlast
  | case3 line rest ih =>
      have hline := covers_joinFilled (covers_tidy line.reverse) ih ['\r', '\n']
      simpa using hline
  | case4 line c rest hpair hc ih =>
      have hline := covers_joinFilled (covers_tidy line.reverse) ih [c]
      simpa using hline
  | case5 line c rest hpair hc ih => simpa using ih

/-! ### Tidy lines -/

private theorem isBlank_of_mem_squeezeFrom {inRun : Bool} {cs : List Char} {c : Char}
    (h : c ∈ squeezeFrom inRun cs) : isBlank c = true → c = ' ' := by
  fun_induction squeezeFrom inRun cs with
  | case1 => cases h
  | case2 d rest hd ih => exact ih h
  | case3 inRun d rest hd hrun ih =>
      rcases List.mem_cons.mp h with rfl | h
      · exact fun _ => rfl
      · exact ih h
  | case4 inRun d rest hd ih =>
      rcases List.mem_cons.mp h with rfl | h
      · exact fun hblank => absurd hblank hd
      · exact ih h

private theorem head?_squeezeFrom {cs : List Char} {c : Char}
    (h : (squeezeFrom true cs).head? = some c) : isBlank c = false := by
  induction cs with
  | nil => cases h
  | cons d cs ih =>
      rw [squeezeFrom] at h
      by_cases hd : isBlank d = true
      · rw [if_pos hd] at h
        exact ih h
      · rw [if_neg hd] at h
        rw [← Option.some.inj h]
        simpa using hd

private theorem not_double_squeezeFrom (inRun : Bool) (cs : List Char) :
    ¬ [' ', ' '] <:+: squeezeFrom inRun cs := by
  fun_induction squeezeFrom inRun cs with
  | case1 => simp
  | case2 d rest hd ih => exact ih
  | case3 inRun d rest hd hrun ih =>
      rw [List.infix_cons_iff, not_or]
      refine ⟨?_, ih⟩
      rintro ⟨more, hmore⟩
      have hhead : (squeezeFrom true rest).head? = some ' ' := by
        rw [← (List.cons.inj hmore).2]
        rfl
      have hblank := head?_squeezeFrom hhead
      cases hblank
  | case4 inRun d rest hd ih =>
      rw [List.infix_cons_iff, not_or]
      refine ⟨?_, ih⟩
      rintro ⟨more, hmore⟩
      rw [← (List.cons.inj hmore).1] at hd
      exact hd (by decide)

/-- No blank stands at an end of a line, and those inside it are single spaces. -/
structure IsTidy (line : List Char) : Prop where
  space : ∀ c ∈ line, isBlank c = true → c = ' '
  single : ¬ [' ', ' '] <:+: line
  first : ∀ c, line.head? = some c → isBlank c = false
  last : ∀ c, line.getLast? = some c → isBlank c = false

private theorem head?_dropWhile {p : Char → Bool} {cs : List Char} {c : Char}
    (h : (cs.dropWhile p).head? = some c) : p c = false := by
  have hnot := List.head?_dropWhile_not p cs
  rw [h] at hnot
  simpa using hnot

theorem isTidy_tidy (line : List Char) : IsTidy (tidy line) := by
  have hinside : tidy line <:+: squeezeFrom false line := infix_stripBy isBlank _
  constructor
  · intro c hc
    exact isBlank_of_mem_squeezeFrom (hinside.subset hc)
  · intro hdouble
    exact not_double_squeezeFrom false line (hdouble.trans hinside)
  · intro c hc
    -- what is cut off at the end leaves the first character alone
    have hfront : tidy line <+: (squeezeFrom false line).dropWhile isBlank := by
      rw [tidy, stripBy, ← List.reverse_suffix, List.reverse_reverse]
      exact List.dropWhile_suffix isBlank
    obtain ⟨more, hmore⟩ := hfront
    have hhead : ((squeezeFrom false line).dropWhile isBlank).head? = some c := by
      rw [← hmore, List.head?_append, hc]
      rfl
    exact head?_dropWhile hhead
  · intro c hc
    rw [tidy, stripBy, List.getLast?_reverse] at hc
    exact head?_dropWhile hc

private theorem squeezeFrom_eq_self {inRun : Bool} {line : List Char}
    (hspace : ∀ c ∈ line, isBlank c = true → c = ' ') (hsingle : ¬ [' ', ' '] <:+: line)
    (hfirst : inRun = true → ∀ c, line.head? = some c → isBlank c = false) :
    squeezeFrom inRun line = line := by
  induction line generalizing inRun with
  | nil => rfl
  | cons c line ih =>
      rw [List.forall_mem_cons] at hspace
      rw [List.infix_cons_iff, not_or] at hsingle
      rw [squeezeFrom]
      by_cases hc : isBlank c = true
      · obtain rfl := hspace.1 hc
        have hrun : inRun = false := by
          cases inRun with
          | false => rfl
          | true =>
              have hnot := hfirst rfl ' ' rfl
              rw [hc] at hnot
              cases hnot
        rw [if_pos hc, hrun, if_neg (by simp), ih hspace.2 hsingle.2]
        intro _ d hd
        -- a second blank would be a space beside the first
        apply Bool.eq_false_iff.mpr
        intro hblank
        cases line with
        | nil => cases hd
        | cons e line =>
            obtain rfl := Option.some.inj hd
            obtain rfl := hspace.2 e (by simp) hblank
            exact hsingle.1 ⟨line, rfl⟩
      · rw [if_neg hc, ih hspace.2 hsingle.2 (by simp)]

theorem IsTidy.tidy_eq {line : List Char} (h : IsTidy line) : tidy line = line := by
  have hdrop {cs : List Char} (hcs : ∀ c, cs.head? = some c → isBlank c = false) :
      cs.dropWhile isBlank = cs := by
    cases cs with
    | nil => rfl
    | cons c cs => exact List.dropWhile_cons_of_neg (by simp [hcs c rfl])
  have hlast : ∀ c, line.reverse.head? = some c → isBlank c = false := by
    rw [List.head?_reverse]
    exact h.last
  rw [tidy, squeezeFrom_eq_self h.space h.single (by simp), stripBy, hdrop h.first, hdrop hlast,
    List.reverse_reverse]

/-- A tidy line holds no line boundary. -/
theorem IsTidy.isLineBoundary_eq {line : List Char} (h : IsTidy line) {c : Char} (hc : c ∈ line) :
    isLineBoundary c = false := by
  apply Bool.eq_false_iff.mpr
  intro hboundary
  have hblank : isBlank c = true := by
    simp only [isLineBoundary, isBlank, Bool.or_eq_true, Bool.and_eq_true, decide_eq_true_eq,
      beq_iff_eq] at hboundary ⊢
    omega
  rw [h.space c hc hblank] at hboundary
  exact absurd hboundary (by decide)

end PullReview.Text
