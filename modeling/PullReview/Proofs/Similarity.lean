import Mathlib.Algebra.Order.Field.Basic
import Mathlib.Algebra.Order.Field.Rat
import Mathlib.Data.Multiset.UnionInter
import Mathlib.Tactic.NormNum
import PullReview.Similarity

/-!
# Structural similarity is a score

The lines that two bodies have in common are the intersection of two multisets. So it does not
matter which body comes first, at most all lines of the longer one are common, all of them are if
the bodies have the same lines equally often, and none if they have no line in common.
-/

namespace PullReview.Similarity

/-! ### Common lines -/

section

variable (a b : List String)

private theorem commonLines_eq_card : commonLines a b = ((a : Multiset String) ∩ b).card := by
  rw [Multiset.coe_inter, Multiset.coe_card]
  induction a generalizing b with
  | nil => rw [commonLines, List.nil_bagInter, List.length_nil]
  | cons l ls ih =>
      rw [commonLines]
      by_cases hl : l ∈ b
      · rw [if_pos (List.contains_iff_mem.mpr hl), List.cons_bagInter_of_mem ls hl,
          List.length_cons, ih]
      · rw [if_neg (mt List.contains_iff_mem.mp hl), List.cons_bagInter_of_not_mem ls hl, ih]

private theorem commonLines_comm : commonLines a b = commonLines b a := by
  rw [commonLines_eq_card, commonLines_eq_card, Multiset.inter_comm]

private theorem commonLines_le_left : commonLines a b ≤ a.length := by
  rw [commonLines_eq_card, ← Multiset.coe_card]
  exact Multiset.card_le_card Multiset.inter_le_left

private theorem commonLines_le_max : commonLines a b ≤ max a.length b.length :=
  Nat.le_trans (commonLines_le_left a b) (Nat.le_max_left _ _)

/-- All lines of the longer body are common if and only if both have the same lines equally
often. -/
theorem commonLines_eq_max_iff :
    commonLines a b = max a.length b.length ↔ (a : Multiset String) = b := by
  rw [commonLines_eq_card, ← Multiset.coe_card, ← Multiset.coe_card]
  constructor
  · intro hall
    have hleft : (a : Multiset String) ∩ b = a :=
      Multiset.eq_of_le_of_card_le Multiset.inter_le_left (by omega)
    have hright : (a : Multiset String) ∩ b = b :=
      Multiset.eq_of_le_of_card_le Multiset.inter_le_right (by omega)
    exact hleft.symm.trans hright
  · intro hsame
    rw [hsame, ← Multiset.inf_eq_inter, inf_idem, Nat.max_self]

private theorem commonLines_eq_zero_iff : commonLines a b = 0 ↔ ∀ l ∈ a, l ∉ b := by
  rw [commonLines_eq_card, Multiset.card_eq_zero, Multiset.inter_eq_zero_iff_disjoint,
    Multiset.disjoint_left]
  rfl

end

/-! ### Shares of lines -/

/-- A share as a rational number. -/
def Share.value (s : Share) : ℚ := s.part / s.whole

private theorem Share.value_none : Share.none.value = 0 := by norm_num [value, Share.none]

private theorem Share.value_full : Share.full.value = 1 := by norm_num [value, Share.full]

section

variable {a b : List String}

private theorem lineShare_comm (a b : List String) : lineShare a b = lineShare b a := by
  rw [lineShare, lineShare, Bool.or_comm, commonLines_comm, Nat.max_comm]

private theorem lineShare_of_ne_nil (ha : a ≠ []) (hb : b ≠ []) :
    lineShare a b = ⟨commonLines a b, max a.length b.length⟩ := by
  rw [lineShare, List.isEmpty_eq_false_iff.mpr ha, List.isEmpty_eq_false_iff.mpr hb]
  rfl

private theorem lineShare_of_nil (h : a = [] ∨ b = []) : lineShare a b = .none := by
  rcases h with rfl | rfl
  · rfl
  · rw [lineShare_comm]
    rfl

private theorem max_length_pos (ha : a ≠ []) (b : List String) :
    (0 : ℚ) < (max a.length b.length : ℕ) := by
  have hpos : 0 < a.length := List.length_pos_iff.mpr ha
  exact Nat.cast_pos.mpr (Nat.lt_of_lt_of_le hpos (Nat.le_max_left _ _))

private theorem value_lineShare_mem (a b : List String) :
    0 ≤ (lineShare a b).value ∧ (lineShare a b).value ≤ 1 := by
  by_cases ha : a = []
  · rw [lineShare_of_nil (.inl ha), Share.value_none]
    exact ⟨le_refl 0, zero_le_one⟩
  · by_cases hb : b = []
    · rw [lineShare_of_nil (.inr hb), Share.value_none]
      exact ⟨le_refl 0, zero_le_one⟩
    · rw [lineShare_of_ne_nil ha hb, Share.value]
      refine ⟨div_nonneg (Nat.cast_nonneg _) (Nat.cast_nonneg _), ?_⟩
      rw [div_le_one (max_length_pos ha b)]
      exact Nat.cast_le.mpr (commonLines_le_max a b)

private theorem value_lineShare_eq_one_iff (ha : a ≠ []) (hb : b ≠ []) :
    (lineShare a b).value = 1 ↔ (a : Multiset String) = b := by
  rw [lineShare_of_ne_nil ha hb, Share.value, div_eq_one_iff_eq (max_length_pos ha b).ne',
    Nat.cast_inj, commonLines_eq_max_iff]

private theorem value_lineShare_eq_zero_iff (ha : a ≠ []) (hb : b ≠ []) :
    (lineShare a b).value = 0 ↔ ∀ l ∈ a, l ∉ b := by
  rw [lineShare_of_ne_nil ha hb, Share.value, div_eq_zero_iff,
    or_iff_left (max_length_pos ha b).ne', Nat.cast_eq_zero, commonLines_eq_zero_iff]

end

/-! ### Symbols -/

/-- The normal lines of a symbol's code; there are none without code. -/
def bodyLines (s : Symbol) : List String :=
  (s.code.map (normalLines (Path.language? s.file))).getD []

/-- Both symbols have a signature, and these are the same up to blanks and letter case. -/
def SignaturesAgree (a b : Symbol) : Prop :=
  ∃ s t, a.signature = some s ∧ b.signature = some t ∧ s ≠ "" ∧ t ≠ "" ∧
    normalSignature s = normalSignature t

private theorem normalLines_empty (language : Option String) : normalLines language "" = [] := by
  rw [normalLines, withoutComments]
  split <;> rfl

private theorem bodyShare_eq (a b : Symbol) :
    bodyShare a b = lineShare (bodyLines a) (bodyLines b) := by
  rw [bodyShare, bodyLines, bodyLines]
  cases a.code with
  | none => rfl
  | some s =>
      cases b.code with
      | none => exact (lineShare_of_nil (.inr rfl)).symm
      | some t =>
          by_cases hs : s = ""
          · simp [hs, normalLines_empty, lineShare_of_nil]
          · by_cases ht : t = ""
            · simp [ht, normalLines_empty, lineShare_of_nil]
            · simp [hs, ht]

private theorem signatureShare?_comm (a b : Symbol) :
    signatureShare? a b = signatureShare? b a := by
  rw [signatureShare?, signatureShare?]
  cases a.signature with
  | none => cases b.signature <;> rfl
  | some s =>
      cases b.signature with
      | none => rfl
      | some t =>
          simp only [Bool.or_comm (s == ""), Bool.beq_comm (a := s) (b := t),
            Bool.beq_comm (a := normalSignature s) (b := normalSignature t)]

private theorem signatureShare?_cases (a b : Symbol) :
    (SignaturesAgree a b ∧
        (signatureShare? a b = some .full ∨ signatureShare? a b = some ⟨9, 10⟩)) ∨
      (¬ SignaturesAgree a b ∧ signatureShare? a b = none) := by
  rw [SignaturesAgree, signatureShare?]
  cases a.signature with
  | none => simp
  | some s =>
      cases b.signature with
      | none => simp
      | some t =>
          by_cases hs : s = ""
          · simp [hs]
          · by_cases ht : t = ""
            · simp [ht]
            · by_cases hsame : s = t
              · simp [hsame, ht]
              · by_cases hnormal : normalSignature s = normalSignature t
                · simp [hs, ht, hsame, hnormal]
                · simp [hs, ht, hsame, hnormal]

theorem structural_comm (a b : Symbol) : structural a b = structural b a := by
  rw [structural, structural, signatureShare?_comm, bodyShare_eq, bodyShare_eq, lineShare_comm]

private theorem structural_of_not_agree {a b : Symbol} (h : ¬ SignaturesAgree a b) :
    structural a b = lineShare (bodyLines a) (bodyLines b) := by
  rcases signatureShare?_cases a b with ⟨hagree, _⟩ | ⟨_, hnone⟩
  · exact absurd hagree h
  · rw [structural, hnone, Option.getD_none, bodyShare_eq]

private theorem structural_self {a : Symbol} {s : String} (hs : a.signature = some s)
    (hne : s ≠ "") : structural a a = .full := by
  rw [structural, signatureShare?, hs]
  simp [hne]

private theorem value_structural_mem (a b : Symbol) :
    0 ≤ (structural a b).value ∧ (structural a b).value ≤ 1 := by
  rcases signatureShare?_cases a b with ⟨_, hfull | hnearly⟩ | ⟨hnot, _⟩
  · rw [structural, hfull, Option.getD_some, Share.value_full]
    exact ⟨zero_le_one, le_refl 1⟩
  · rw [structural, hnearly, Option.getD_some, Share.value]
    norm_num
  · rw [structural_of_not_agree hnot]
    exact value_lineShare_mem _ _

private theorem value_structural_self {a : Symbol}
    (h : (∃ s, a.signature = some s ∧ s ≠ "") ∨ bodyLines a ≠ []) :
    (structural a a).value = 1 := by
  by_cases hsigned : ∃ s, a.signature = some s ∧ s ≠ ""
  · obtain ⟨s, hs, hne⟩ := hsigned
    rw [structural_self hs hne, Share.value_full]
  · have hbody := h.resolve_left hsigned
    have hnot : ¬ SignaturesAgree a a := by
      rintro ⟨s, _, hs, _, hne, _⟩
      exact hsigned ⟨s, hs, hne⟩
    rw [structural_of_not_agree hnot, value_lineShare_eq_one_iff hbody hbody]

/-- The similarity of two symbols is a score between zero and one that does not depend on their
order. A symbol with a signature or with a line of code is fully similar to itself. Where the
signatures do not decide and both symbols have lines, one means the same lines equally often, and
zero means no line in common. -/
theorem structural_is_score (a b : Symbol) :
    (structural a b).value = (structural b a).value ∧
      0 ≤ (structural a b).value ∧ (structural a b).value ≤ 1 ∧
      ((∃ s, a.signature = some s ∧ s ≠ "") ∨ bodyLines a ≠ [] → (structural a a).value = 1) ∧
      (¬ SignaturesAgree a b → bodyLines a ≠ [] → bodyLines b ≠ [] →
        ((structural a b).value = 1 ↔ (bodyLines a : Multiset String) = bodyLines b) ∧
        ((structural a b).value = 0 ↔ ∀ l ∈ bodyLines a, l ∉ bodyLines b)) := by
  have hbounds := value_structural_mem a b
  refine ⟨by rw [structural_comm], hbounds.1, hbounds.2, value_structural_self, ?_⟩
  intro hnot ha hb
  rw [structural_of_not_agree hnot]
  exact ⟨value_lineShare_eq_one_iff ha hb, value_lineShare_eq_zero_iff ha hb⟩

/-- A function without a signature in a file. -/
def unsigned (file code : String) : Symbol where
  name := "f"
  kind := "function"
  file := file
  startLine := 1
  endLine := 3
  code := some code

def hashCommented : Symbol := unsigned "a.py" "x = 1  # one\ny()\nx =  1"

def slashCommented : Symbol := unsigned "b.js" "x = 1\n  x = 1 // two\ny()"

def otherLines : Symbol := unsigned "c.py" "z()\nx = 2"

theorem reordered_lines_score_one :
    ¬ SignaturesAgree hashCommented slashCommented ∧ bodyLines hashCommented ≠ [] ∧
      bodyLines slashCommented ≠ [] ∧ (structural hashCommented slashCommented).value = 1 ∧
      (structural slashCommented otherLines).value = 0 := by
  have hnot {a b : Symbol} (h : a.signature = none) : ¬ SignaturesAgree a b := by
    rintro ⟨s, _, hs, _⟩
    rw [h] at hs
    cases hs
  have hhash : bodyLines hashCommented = ["x = 1", "y()", "x = 1"] := by decide +kernel
  have hslash : bodyLines slashCommented = ["x = 1", "x = 1", "y()"] := by decide +kernel
  have hother : bodyLines otherLines = ["z()", "x = 2"] := by decide +kernel
  have hne : bodyLines hashCommented ≠ [] := by simp [hhash]
  have hne' : bodyLines slashCommented ≠ [] := by simp [hslash]
  have hne'' : bodyLines otherLines ≠ [] := by simp [hother]
  have hone := (structural_is_score hashCommented slashCommented).2.2.2.2 (hnot rfl) hne hne'
  have hzero := (structural_is_score slashCommented otherLines).2.2.2.2 (hnot rfl) hne' hne''
  refine ⟨hnot rfl, hne, hne', hone.1.mpr ?_, hzero.2.mpr ?_⟩
  · rw [hhash, hslash, Multiset.coe_eq_coe]
    decide
  · rw [hslash, hother]
    decide

end PullReview.Similarity
