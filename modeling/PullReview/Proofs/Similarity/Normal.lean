import Mathlib.Data.List.Infix
import PullReview.Proofs.Text.Thinned
import PullReview.Similarity.Normal

/-!
# Normal forms of code

The lines of a normal form are tidy, and for Python it holds no hash. For other languages no two
slashes stand side by side in it. A closed block comment can be left, though: where a block comment
stood between a slash and a star, taking it out joins the two to the start of another. Exactly if
one is left, the normal form has another normal form.
-/

namespace PullReview.Similarity

open Text (Covers IsTidy Thinned isBlank joinFilled linesFrom tidy)

/-! ### Lines -/

private theorem toList_normalLines (language : Option String) (code : String) :
    (normalLines language code).map String.toList =
      ((linesFrom [] (withoutComments language code).toList).map tidy).filter (· != []) := by
  have htidy (line : List Char) :
      (Text.strip (Text.squeeze (String.ofList line))).toList = tidy line := by
    simp [Text.strip, Text.squeeze, tidy]
  have hfilled (s : String) : (s != "") = (s.toList != []) := by
    rw [Bool.eq_iff_iff, bne_iff_ne, bne_iff_ne, ne_eq, ne_eq, ← String.toList_eq_nil_iff]
  rw [normalLines, Text.lines, List.map_map]
  generalize linesFrom [] (withoutComments language code).toList = ls
  induction ls with
  | nil => rfl
  | cons line ls ih =>
      rw [List.map_cons, List.map_cons, List.filter_cons, List.filter_cons, ← ih]
      simp only [Function.comp_apply, hfilled, htidy]
      split
      · rw [List.map_cons, htidy]
      · rfl

/-- The normal form as one text. -/
def normalText (language : Option String) (code : String) : String :=
  "\n".intercalate (normalLines language code)

private theorem toList_normalText (language : Option String) (code : String) :
    (normalText language code).toList =
      joinFilled ((linesFrom [] (withoutComments language code).toList).map tidy) := by
  rw [normalText, String.toList_intercalate, toList_normalLines]
  rfl

private theorem covers_normalText (language : Option String) (code : String) :
    Covers (withoutComments language code).toList (normalText language code).toList := by
  rw [toList_normalText]
  exact Text.covers_linesFrom [] _

/-- A line that is not empty, with single spaces and none at its ends. -/
structure IsNormal (line : String) : Prop where
  filled : line ≠ ""
  tidy : IsTidy line.toList

private theorem isNormal_of_mem {language : Option String} {code line : String}
    (h : line ∈ normalLines language code) : IsNormal line := by
  have hmem : line.toList ∈ (normalLines language code).map String.toList := List.mem_map_of_mem h
  rw [toList_normalLines, List.mem_filter] at hmem
  obtain ⟨hline, hfilled⟩ := hmem
  obtain ⟨raw, _, hraw⟩ := List.mem_map.mp hline
  constructor
  · rintro rfl
    simp at hfilled
  · rw [← hraw]
    exact Text.isTidy_tidy raw

private theorem normalLines_normalText {language : Option String} {code : String}
    (h : withoutComments language (normalText language code) = normalText language code) :
    normalLines language (normalText language code) = normalLines language code := by
  have hlines : Text.lines (normalText language code) = normalLines language code := by
    apply Text.lines_intercalate
    · intro line hline c hc
      exact (isNormal_of_mem hline).tidy.isLineBoundary_eq hc
    · intro hlast
      exact (isNormal_of_mem (List.mem_of_getLast? hlast)).filled rfl
  rw [normalLines, h, hlines]
  have hfixed : ∀ line ∈ normalLines language code,
      Text.strip (Text.squeeze line) = line := by
    intro line hline
    have htidy := (isNormal_of_mem hline).tidy.tidy_eq
    rw [Text.strip, Text.squeeze, String.toList_ofList]
    exact (congrArg String.ofList htidy).trans String.ofList_toList
  rw [List.map_congr_left hfixed, List.map_id', List.filter_eq_self]
  intro line hline
  simpa using (isNormal_of_mem hline).filled

/-! ### Line comments -/

section LineComments

variable {mark : List Char} (hmark : ∀ c ∈ mark, isBlank c = false)

private theorem thinned_dropLineComments (mark cs : List Char) :
    Thinned (dropLineComments mark false cs) cs ∧
      ∀ piece, Thinned (dropLineComments mark true cs) (piece ++ cs) := by
  induction cs with
  | nil => exact ⟨.nil [], fun piece => .nil _⟩
  | cons c cs ih =>
      obtain ⟨houtside, hinside⟩ := ih
      rw [dropLineComments, dropLineComments]
      by_cases hc : c = '\n'
      · subst hc
        refine ⟨.keep '\n' houtside, fun piece => ?_⟩
        rw [List.append_cons]
        exact .blank (by decide) (piece ++ ['\n']) houtside
      · have hc' : (c == '\n') = false := by simpa using hc
        rw [hc']
        simp only [Bool.false_eq_true, if_false, Bool.true_or, if_true, Bool.false_or]
        constructor
        · split
          · exact hinside [c]
          · exact .keep c houtside
        · intro piece
          rw [List.append_cons]
          exact hinside (piece ++ [c])

include hmark in
private theorem not_mark_dropLineComments (hne : mark ≠ []) (inside : Bool) (cs : List Char) :
    ¬ mark <:+: dropLineComments mark inside cs := by
  induction cs generalizing inside with
  | nil => simpa [dropLineComments] using hne
  | cons c cs ih =>
      rw [dropLineComments]
      split
      · rename_i hc
        rw [List.infix_cons_iff, not_or]
        refine ⟨?_, ih false⟩
        intro hfront
        obtain ⟨d, mark', rfl⟩ := List.exists_cons_of_ne_nil hne
        have hd : isBlank d = false := hmark d (by simp)
        rw [(List.cons_prefix_cons.mp hfront).1, beq_iff_eq.mp hc] at hd
        cases hd
      · split
        · exact ih true
        · rename_i hcomment
          rw [List.infix_cons_iff, not_or]
          refine ⟨?_, ih false⟩
          rintro ⟨more, hmore⟩
          -- the mark would stand in front of the characters that were kept
          obtain ⟨d, mark', rfl⟩ := List.exists_cons_of_ne_nil hne
          rw [List.cons_append, List.cons.injEq] at hmore
          obtain ⟨rfl, hkept⟩ := hmore
          have hthin := (thinned_dropLineComments (d :: mark') cs).1
          rw [← hkept] at hthin
          obtain ⟨rest, rfl, _⟩ := hthin.of_append_solid fun x hx => hmark x (by simp [hx])
          simp at hcomment

private theorem dropLineComments_eq_self {cs : List Char} (h : ¬ mark <:+: cs) :
    dropLineComments mark false cs = cs := by
  induction cs with
  | nil => rfl
  | cons c cs ih =>
      rw [List.infix_cons_iff, not_or] at h
      have hfront : mark.isPrefixOf (c :: cs) = false := by
        rw [Bool.eq_false_iff, ne_eq, List.isPrefixOf_iff_prefix]
        exact h.1
      rw [dropLineComments, ih h.2, hfront]
      simp

end LineComments

/-! ### Block comments -/

/-- A block comment stands in the text, from its start to its end. -/
def HoldsBlock (cs : List Char) : Prop :=
  ∃ before comment after, cs = before ++ ['/', '*'] ++ comment ++ ['*', '/'] ++ after

/-- A slash stands right in front of a block comment, and a star right behind one. -/
def SplitsMark (cs : List Char) : Prop :=
  ∃ before comment after, cs = before ++ ['/', '/', '*'] ++ comment ++ ['*', '/', '*'] ++ after

private theorem not_holdsBlock_nil : ¬ HoldsBlock [] := by
  rintro ⟨before, comment, after, h⟩
  simp at h

theorem HoldsBlock.cons {cs : List Char} (h : HoldsBlock cs) (c : Char) : HoldsBlock (c :: cs) := by
  obtain ⟨before, comment, after, rfl⟩ := h
  exact ⟨c :: before, comment, after, rfl⟩

theorem SplitsMark.append_left {cs : List Char} (h : SplitsMark cs) (front : List Char) :
    SplitsMark (front ++ cs) := by
  obtain ⟨before, comment, after, rfl⟩ := h
  exact ⟨front ++ before, comment, after, by simp⟩

private theorem holdsBlock_cons_iff {c : Char} {cs : List Char} :
    HoldsBlock (c :: cs) ↔
      (∃ comment after, c :: cs = ['/', '*'] ++ comment ++ ['*', '/'] ++ after) ∨
        HoldsBlock cs := by
  constructor
  · rintro ⟨before, comment, after, h⟩
    cases before with
    | nil => exact .inl ⟨comment, after, h⟩
    | cons d before => exact .inr ⟨before, comment, after, (List.cons.inj h).2⟩
  · rintro (⟨comment, after, h⟩ | h)
    · exact ⟨[], comment, after, h⟩
    · exact h.cons c

private theorem HoldsBlock.of_covers {cs ds : List Char} (h : HoldsBlock ds) (hcs : Covers cs ds) :
    HoldsBlock cs := by
  obtain ⟨before, comment, after, rfl⟩ := h
  rw [List.append_assoc, List.append_assoc] at hcs
  obtain ⟨before', rest, rfl, hrest⟩ :=
    hcs.exists_solid (show ∀ c ∈ ['/', '*'], isBlank c = false by simp [isBlank])
  rw [← List.append_assoc] at hrest
  obtain ⟨comment', after', rfl, _⟩ :=
    hrest.exists_solid (show ∀ c ∈ ['*', '/'], isBlank c = false by simp [isBlank])
  exact ⟨before', comment', after', by simp⟩

private theorem afterBlock?_eq_some {cs rest : List Char} (h : afterBlock? cs = some rest) :
    ∃ comment, cs = comment ++ ['*', '/'] ++ rest := by
  fun_induction afterBlock? cs with
  | case1 => cases h
  | case2 rest' =>
      obtain rfl := Option.some.inj h
      exact ⟨[], rfl⟩
  | case3 c cs hend ih =>
      obtain ⟨comment, rfl⟩ := ih h
      exact ⟨c :: comment, rfl⟩

private theorem afterBlock?_append (comment after : List Char) :
    ∃ rest, afterBlock? (comment ++ ['*', '/'] ++ after) = some rest := by
  induction comment with
  | nil => exact ⟨after, rfl⟩
  | cons c comment ih =>
      rw [List.cons_append, List.cons_append]
      generalize comment ++ ['*', '/'] ++ after = more at ih ⊢
      rw [afterBlock?.eq_def]
      split
      · rename_i heq
        cases heq
      · exact ⟨_, rfl⟩
      · rename_i heq
        rwa [← (List.cons.inj heq).2]

private theorem not_block_of_afterBlock?_eq_none {rest : List Char} (h : afterBlock? rest = none)
    (comment after : List Char) :
    '/' :: '*' :: rest ≠ ['/', '*'] ++ comment ++ ['*', '/'] ++ after := by
  intro heq
  obtain ⟨more, hmore⟩ := afterBlock?_append comment after
  simp only [List.cons_append, List.nil_append, List.cons.injEq, true_and] at heq
  rw [heq, hmore] at h
  cases h

private theorem dropBlockComments_eq_self {cs : List Char} (h : ¬ HoldsBlock cs) (fuel : Nat) :
    dropBlockComments fuel cs = cs := by
  fun_induction dropBlockComments fuel cs with
  | case1 cs => rfl
  | case2 fuel => rfl
  | case3 fuel rest cs hafter ih =>
      obtain ⟨comment, rfl⟩ := afterBlock?_eq_some hafter
      exact absurd ⟨[], comment, cs, rfl⟩ h
  | case4 fuel rest hafter ih => rw [ih fun hrest => h (hrest.cons '/')]
  | case5 fuel c rest hstart ih => rw [ih fun hrest => h (hrest.cons c)]

private theorem eq_star_of_dropBlockComments {fuel : Nat} {cs ds : List Char}
    (h : dropBlockComments fuel cs = '*' :: ds) : (∃ rest, cs = '*' :: rest) ∨
      ∃ comment after, cs = ['/', '*'] ++ comment ++ ['*', '/', '*'] ++ after := by
  fun_induction dropBlockComments fuel cs with
  | case1 cs => exact .inl ⟨ds, h⟩
  | case2 fuel => cases h
  | case3 fuel rest cs hafter ih =>
      obtain ⟨comment, rfl⟩ := afterBlock?_eq_some hafter
      rcases ih h with ⟨rest, rfl⟩ | ⟨comment', after, rfl⟩
      · exact .inr ⟨comment, rest, by simp⟩
      · exact .inr ⟨comment ++ ['*', '/', '/', '*'] ++ comment', after, by simp⟩
  | case4 fuel rest hafter ih => cases h
  | case5 fuel c rest hstart ih =>
      rw [(List.cons.inj h).1]
      exact .inl ⟨rest, rfl⟩

/-- Taking out the block comments leaves one only if one stood between a slash and a star. -/
theorem splitsMark_of_holdsBlock {fuel : Nat} {cs : List Char} (hfuel : cs.length ≤ fuel)
    (h : HoldsBlock (dropBlockComments fuel cs)) : SplitsMark cs := by
  fun_induction dropBlockComments fuel cs with
  | case1 cs =>
      obtain rfl : cs = [] := by simpa using hfuel
      exact absurd h not_holdsBlock_nil
  | case2 fuel => exact absurd h not_holdsBlock_nil
  | case3 fuel rest cs hafter ih =>
      obtain ⟨comment, rfl⟩ := afterBlock?_eq_some hafter
      simp only [List.length_cons, List.length_append] at hfuel
      have hrest := ih (by omega) h
      simpa using hrest.append_left (['/', '*'] ++ comment ++ ['*', '/'])
  | case4 fuel rest hafter ih =>
      -- behind a comment that is not closed no comment can be
      have hopen : ¬ HoldsBlock ('*' :: rest) := by
        intro hblock
        rcases holdsBlock_cons_iff.mp hblock with ⟨comment, after, heq⟩ |
          ⟨before, comment, after, rfl⟩
        · exact absurd (List.cons.inj heq).1 (by decide)
        · obtain ⟨more, hmore⟩ := afterBlock?_append (before ++ ['/', '*'] ++ comment) after
          rw [hmore] at hafter
          cases hafter
      rw [dropBlockComments_eq_self hopen] at h
      rcases holdsBlock_cons_iff.mp h with ⟨comment, after, heq⟩ | h
      · exact absurd heq (not_block_of_afterBlock?_eq_none hafter comment after)
      · exact absurd h hopen
  | case5 fuel c rest hstart ih =>
      rw [List.length_cons] at hfuel
      rcases holdsBlock_cons_iff.mp h with ⟨comment, after, heq⟩ | h
      · simp only [List.cons_append, List.nil_append, List.cons.injEq] at heq
        obtain ⟨rfl, heq⟩ := heq
        rcases eq_star_of_dropBlockComments heq with ⟨rest', rfl⟩ | ⟨comment', after', rfl⟩
        · exact (hstart rest' rfl rfl).elim
        · exact ⟨[], comment', after', by simp⟩
      · exact (ih (by omega) h).append_left [c]

/-- Taking out block comments takes out slashes, if there is one to take out. -/
theorem count_dropBlockComments {fuel : Nat} {cs : List Char} (hfuel : cs.length ≤ fuel) :
    (dropBlockComments fuel cs).count '/' ≤ cs.count '/' ∧
      (HoldsBlock cs → (dropBlockComments fuel cs).count '/' < cs.count '/') := by
  fun_induction dropBlockComments fuel cs with
  | case1 cs =>
      obtain rfl : cs = [] := by simpa using hfuel
      exact ⟨Nat.le_refl _, fun hblock => absurd hblock not_holdsBlock_nil⟩
  | case2 fuel => exact ⟨Nat.le_refl _, fun hblock => absurd hblock not_holdsBlock_nil⟩
  | case3 fuel rest cs hafter ih =>
      obtain ⟨comment, rfl⟩ := afterBlock?_eq_some hafter
      simp only [List.length_cons, List.length_append] at hfuel
      have hle := (ih (by omega)).1
      simp only [List.count_cons, List.count_append]
      constructor
      · simp
        omega
      · simp
        omega
  | case4 fuel rest hafter ih =>
      rw [List.length_cons] at hfuel
      obtain ⟨hle, hlt⟩ := ih (by omega)
      rw [List.count_cons_self, List.count_cons_self]
      refine ⟨by omega, fun hblock => ?_⟩
      rcases holdsBlock_cons_iff.mp hblock with ⟨comment, after, heq⟩ | hblock
      · exact absurd heq (not_block_of_afterBlock?_eq_none hafter comment after)
      · have hless := hlt hblock
        omega
  | case5 fuel c rest hstart ih =>
      rw [List.length_cons] at hfuel
      obtain ⟨hle, hlt⟩ := ih (by omega)
      rw [List.count_cons, List.count_cons]
      refine ⟨by omega, fun hblock => ?_⟩
      rcases holdsBlock_cons_iff.mp hblock with ⟨comment, after, heq⟩ | hblock
      · simp only [List.cons_append, List.nil_append, List.cons.injEq] at heq
        exact (hstart _ heq.1 heq.2).elim
      · have hless := hlt hblock
        omega

/-! ### Code -/

private theorem toList_withoutComments_python (code : String) :
    (withoutComments (some "python") code).toList =
      dropLineComments ['#'] false code.toList := by
  simp [withoutComments]

private theorem toList_withoutComments_other {language : Option String}
    (h : language ≠ some "python") (code : String) : (withoutComments language code).toList =
      dropLineComments ['/', '/'] false (dropBlockComments code.toList.length code.toList) := by
  have hlanguage : (language == some "python") = false := by simpa using h
  simp [withoutComments, hlanguage]

private theorem solid_hash : ∀ c ∈ ['#'], isBlank c = false := by simp [isBlank]

private theorem solid_slashes : ∀ c ∈ ['/', '/'], isBlank c = false := by simp [isBlank]

private theorem not_hash_normalText (code : String) :
    ¬ ['#'] <:+: (normalText (some "python") code).toList := by
  intro hhash
  have hcode := (covers_normalText (some "python") code).infix_of_solid solid_hash hhash
  rw [toList_withoutComments_python] at hcode
  exact not_mark_dropLineComments solid_hash (by simp) false _ hcode

section Other

variable {language : Option String} (hlanguage : language ≠ some "python") (code : String)

include hlanguage

private theorem not_slashes_normalText : ¬ ['/', '/'] <:+: (normalText language code).toList := by
  intro hslashes
  have hcode := (covers_normalText language code).infix_of_solid solid_slashes hslashes
  rw [toList_withoutComments_other hlanguage] at hcode
  exact not_mark_dropLineComments solid_slashes (by simp) false _ hcode

private theorem splitsMark_of_normalText (h : HoldsBlock (normalText language code).toList) :
    SplitsMark code.toList := by
  have hcode := h.of_covers (covers_normalText language code)
  rw [toList_withoutComments_other hlanguage] at hcode
  have hblocks := hcode.of_covers (thinned_dropLineComments _ _).1.covers
  exact splitsMark_of_holdsBlock (Nat.le_refl _) hblocks

private theorem normalLines_normalText_iff :
    normalLines language (normalText language code) = normalLines language code ↔
      ¬ HoldsBlock (normalText language code).toList := by
  constructor
  · intro hsame hblock
    have htext : normalText language (normalText language code) = normalText language code :=
      congrArg "\n".intercalate hsame
    have hcovers := covers_normalText language (normalText language code)
    rw [htext, toList_withoutComments_other hlanguage] at hcovers
    generalize (normalText language code).toList = text at hblock hcovers
    have hslash : isBlank '/' = false := by decide
    have hless : text.count '/' < text.count '/' := calc
      text.count '/' ≤
          (dropLineComments ['/', '/'] false (dropBlockComments text.length text)).count '/' :=
        hcovers.count_le hslash
      _ ≤ (dropBlockComments text.length text).count '/' :=
        (thinned_dropLineComments _ _).1.count_le hslash
      _ < text.count '/' := (count_dropBlockComments (Nat.le_refl _)).2 hblock
    exact Nat.lt_irrefl _ hless
  · intro hblock
    apply normalLines_normalText
    rw [← String.toList_inj, toList_withoutComments_other hlanguage,
      dropBlockComments_eq_self hblock,
      dropLineComments_eq_self (not_slashes_normalText hlanguage code)]

end Other

/-- The lines of a normal form are tidy. It holds no line comment, and its own normal form is the
same, unless a block comment is left in it. One is left only where the code has a slash in front of
a block comment and a star behind it. -/
theorem normalLines_tidy_and_fixed (language : Option String) (code : String) :
    (∀ line ∈ normalLines language code, IsNormal line) ∧
    (language = some "python" →
      '#' ∉ (normalText language code).toList ∧
      normalLines language (normalText language code) = normalLines language code) ∧
    (language ≠ some "python" →
      ¬ ['/', '/'] <:+: (normalText language code).toList ∧
      (normalLines language (normalText language code) = normalLines language code ↔
        ¬ HoldsBlock (normalText language code).toList) ∧
      (HoldsBlock (normalText language code).toList → SplitsMark code.toList)) := by
  refine ⟨fun line => isNormal_of_mem, ?_, ?_⟩
  · rintro rfl
    have hhash := not_hash_normalText code
    refine ⟨fun hmem => hhash ((List.singleton_infix_iff _ _).mpr hmem), normalLines_normalText ?_⟩
    rw [← String.toList_inj, toList_withoutComments_python, dropLineComments_eq_self hhash]
  · intro hlanguage
    exact ⟨not_slashes_normalText hlanguage code, normalLines_normalText_iff hlanguage code,
      splitsMark_of_normalText hlanguage code⟩

/-- Comments of both kinds on lines with blanks of several kinds. -/
def commentedCode : String := "\tx  =\u00A01; /* a\n b */ // c\n\n y /*d*/= 2; /* e\n"

theorem commentedCode_fixed :
    ¬ SplitsMark commentedCode.toList ∧
      normalLines (some "java") commentedCode = ["x = 1;", "y = 2; /* e"] ∧
      normalLines (some "java") (normalText (some "java") commentedCode) =
        ["x = 1;", "y = 2; /* e"] := by
  have hmark : ¬ ['/', '/', '*'] <:+: commentedCode.toList := by decide
  have hsplits : ¬ SplitsMark commentedCode.toList := by
    rintro ⟨before, comment, after, h⟩
    exact hmark ⟨before, comment ++ ['*', '/', '*'] ++ after, by simp [h]⟩
  have hlines : normalLines (some "java") commentedCode = ["x = 1;", "y = 2; /* e"] := by decide
  obtain ⟨_, hfixed, hleft⟩ :=
    (normalLines_tidy_and_fixed (some "java") commentedCode).2.2 (by decide)
  exact ⟨hsplits, hlines, (hfixed.mpr fun hblock => hsplits (hleft hblock)).trans hlines⟩

theorem comment_left_by_comment :
    normalLines (some "java") "//**/* x */" = ["/* x */"] ∧
      HoldsBlock (normalText (some "java") "//**/* x */").toList ∧
      normalLines (some "java") (normalText (some "java") "//**/* x */") = [] := by
  have hlines : normalLines (some "java") "//**/* x */" = ["/* x */"] ∧
      normalLines (some "java") "/* x */" = [] := by decide
  have htext : normalText (some "java") "//**/* x */" = "/* x */" := by
    rw [normalText, hlines.1, String.intercalate_singleton]
  rw [htext]
  exact ⟨hlines.1, ⟨[], [' ', 'x', ' '], [], rfl⟩, hlines.2⟩

end PullReview.Similarity
