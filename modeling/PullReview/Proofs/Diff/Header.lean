import Mathlib.Data.List.Basic
import PullReview.Diff.Hunk
import PullReview.Diff.LineMap

/-!
# Headers of hunks

The reader of a header takes exactly the lines of its form and finds the start of the new side in
them. A hunk's own header has this form, and the number in it is read back, as long as it has no
more digits than a number may have.
-/

namespace PullReview.Diff

/-! ### Numbers -/

/-- The digits of a number, the first one first. -/
def digitsOf (n : Nat) : List Nat := (Nat.toDigits 10 n).map fun c => c.toNat - '0'.toNat

theorem toNat_of_isDigit {c : Char} (h : c.isDigit = true) : 48 ≤ c.toNat ∧ c.toNat ≤ 57 := by
  simpa [Char.isDigit, Char.le_def, UInt32.le_iff_toNat_le] using h

private theorem digitValue?_of_isDigit {c : Char} (h : c.isDigit = true) :
    Text.digitValue? c = some (c.toNat - '0'.toNat) := by
  have hrange := toNat_of_isDigit h
  obtain ⟨others, hzeros⟩ : ∃ others, Text.digitZeros = '0'.toNat :: others := ⟨_, rfl⟩
  have hfirst : (decide ('0'.toNat ≤ c.toNat) && decide (c.toNat ≤ '0'.toNat + 9)) = true := by
    simp only [Char.reduceToNat, Bool.and_eq_true, decide_eq_true_eq]
    omega
  rw [Text.digitValue?, hzeros, List.find?_cons, hfirst]
  rfl

private theorem wholeOfDigits_digitsOf (n : Nat) : Number.wholeOfDigits (digitsOf n) = n := by
  have hread := Nat.ofDigitChars_toDigits (b := 10) (n := n) (by decide) (by decide)
  rw [Nat.ofDigitChars_eq_foldl] at hread
  rw [Number.wholeOfDigits, digitsOf, List.foldl_map]
  simpa only [Nat.mul_comm 10] using hread

private theorem length_digitsOf_le (n : Nat) {k : Nat} (hk : 0 < k) :
    (digitsOf n).length ≤ k ↔ n < Nat.pow 10 k := by
  rw [digitsOf, List.length_map]
  exact Nat.length_toDigits_le_iff (by decide) hk

/-- The numbers below it have no more digits than a number may have. -/
def readBound : Nat := Nat.pow 10 Number.digitLimit

/-- A written number is read back if it has no more digits than the limit, and refused if it has. -/
theorem readWhole_digitsOf (n k : Nat) :
    Number.readWhole (digitsOf n) = .ok k ↔ k = n ∧ n < readBound := by
  have hlen : (digitsOf n).length ≤ Number.digitLimit ↔ n < readBound := by
    unfold readBound
    exact length_digitsOf_le n (by decide)
  rw [Number.readWhole, wholeOfDigits_digitsOf, ← hlen]
  split
  · rename_i hlong
    simp [Nat.not_le_of_lt hlong]
  · rename_i hshort
    simp [Nat.le_of_not_lt hshort, eq_comm]

/-! ### The form of a header -/

def IsNumeral (cs : List Char) : Prop := cs ≠ [] ∧ ∀ c ∈ cs, Text.isDigit c = true

/-- The number of lines of a range, which may be left out. -/
def IsCount (cs : List Char) : Prop := cs = [] ∨ ∃ count, IsNumeral count ∧ cs = ',' :: count

/-- The line is a well-formed header, and the new side of its hunk starts at the number that `start`
writes. -/
def IsHeader (line : String) (start : List Char) : Prop :=
  ∃ old oldCount newCount rest,
    IsNumeral old ∧ IsCount oldCount ∧ IsNumeral start ∧ IsCount newCount ∧
      line.toList = "@@ -".toList ++ (old ++ (oldCount ++ (" +".toList ++
        (start ++ (newCount ++ (" @@".toList ++ rest))))))

/-- The digits of a numeral, whatever script they are from. -/
def digitValues (cs : List Char) : List Nat := cs.filterMap Text.digitValue?

theorem length_digitValues {cs : List Char} (h : ∀ c ∈ cs, Text.isDigit c = true) :
    (digitValues cs).length = cs.length := by
  induction cs with
  | nil => rfl
  | cons c cs ih =>
      obtain ⟨n, hn⟩ := Option.isSome_iff_exists.mp (h c (by simp))
      have hrest := ih fun d hd => h d (by simp [hd])
      rw [digitValues, List.filterMap_cons, hn, List.length_cons, List.length_cons, ← hrest]
      rfl

private theorem literal?_append (t : String) (cs : List Char) :
    literal? t (t.toList ++ cs) = some cs := by
  have hprefix : t.toList.isPrefixOf (t.toList ++ cs) = true := by simp
  rw [literal?, if_pos hprefix, ← String.length_toList, List.drop_left]

private theorem literal?_eq_some_iff {t : String} {cs rest : List Char} :
    literal? t cs = some rest ↔ cs = t.toList ++ rest := by
  constructor
  · intro h
    rw [literal?] at h
    split at h
    · rename_i hprefix
      obtain ⟨more, rfl⟩ := List.isPrefixOf_iff_prefix.mp hprefix
      rw [← String.length_toList, List.drop_left] at h
      rw [Option.some.inj h]
    · cases h
  · rintro rfl
    exact literal?_append t rest

/-- A line goes on with something that is neither a digit nor a comma. -/
def EndsNumber (cs : List Char) : Prop :=
  ∀ c, cs.head? = some c → Text.isDigit c = false ∧ c ≠ ','

private theorem endsNumber_blank (cs : List Char) : EndsNumber (' ' :: cs) := by
  intro c hc
  obtain rfl : ' ' = c := by simpa using hc
  decide

private theorem digitRun?_numeral {num rest : List Char} (hnum : IsNumeral num)
    (hrest : ∀ c, rest.head? = some c → Text.isDigit c = false) :
    digitRun? (num ++ rest) = some (digitValues num, rest) := by
  have hstop : rest.takeWhile Text.isDigit = [] ∧ rest.dropWhile Text.isDigit = rest := by
    cases rest with
    | nil => simp
    | cons c rest => simp [hrest c rfl]
  have hne : (digitValues num).isEmpty = false := by
    have hlen := length_digitValues hnum.2
    have hpos := List.length_pos_iff.mpr hnum.1
    cases hds : digitValues num with
    | nil =>
        rw [hds, List.length_nil] at hlen
        omega
    | cons d ds => rfl
  rw [digitRun?, List.takeWhile_append_of_pos hnum.2, List.dropWhile_append_of_pos hnum.2,
    hstop.1, hstop.2, List.append_nil]
  change (if (digitValues num).isEmpty then none else some (digitValues num, rest)) = _
  rw [hne]
  rfl

private theorem exists_numeral_of_digitRun? {cs rest : List Char} {ds : List Nat}
    (h : digitRun? cs = some (ds, rest)) :
    ∃ num, IsNumeral num ∧ ds = digitValues num ∧ cs = num ++ rest := by
  rw [digitRun?] at h
  split at h
  · cases h
  · rename_i hne
    obtain ⟨rfl, rfl⟩ := Prod.mk.inj (Option.some.inj h)
    refine ⟨cs.takeWhile Text.isDigit, ⟨?_, ?_⟩, rfl, List.takeWhile_append_dropWhile.symm⟩
    · intro hnil
      rw [hnil] at hne
      exact hne rfl
    · intro c hc
      exact List.all_eq_true.mp List.all_takeWhile c hc

private theorem skipCount_of_head {rest : List Char} (h : rest.head? ≠ some ',') :
    skipCount rest = rest := by
  fun_cases skipCount rest with
  | case1 rest => simp at h
  | case2 _ => rfl

private theorem skipCount_append {count rest : List Char} (hcount : IsCount count)
    (hrest : EndsNumber rest) : skipCount (count ++ rest) = rest := by
  rcases hcount with rfl | ⟨num, hnum, rfl⟩
  · exact skipCount_of_head fun h => (hrest ',' h).2 rfl
  · rw [List.cons_append, skipCount, digitRun?_numeral hnum fun c hc => (hrest c hc).1]
    rfl

private theorem exists_count (cs : List Char) :
    ∃ count, IsCount count ∧ cs = count ++ skipCount cs := by
  fun_cases skipCount cs with
  | case1 rest =>
      cases hrun : digitRun? rest with
      | none => exact ⟨[], .inl rfl, rfl⟩
      | some run =>
          obtain ⟨ds, more⟩ := run
          obtain ⟨num, hnum, -, rfl⟩ := exists_numeral_of_digitRun? hrun
          exact ⟨',' :: num, .inr ⟨num, hnum, rfl⟩, rfl⟩
  | case2 hcomma => exact ⟨[], .inl rfl, rfl⟩

private theorem isDigit_head_count {count rest : List Char} (hcount : IsCount count)
    (hrest : EndsNumber rest) :
    ∀ c, (count ++ rest).head? = some c → Text.isDigit c = false := by
  rcases hcount with rfl | ⟨num, hnum, rfl⟩
  · exact fun c hc => (hrest c hc).1
  · intro c hc
    obtain rfl : ',' = c := by simpa using hc
    decide

/-- The reader takes exactly the well-formed headers, and of them the digits of the new start. -/
theorem headerStart?_eq_some_iff {line : String} {ds : List Nat} :
    headerStart? line.toList = some ds ↔ ∃ start, IsHeader line start ∧ ds = digitValues start := by
  constructor
  · intro h
    simp only [headerStart?, Option.bind_eq_bind, Option.bind_eq_some_iff] at h
    obtain ⟨afterMark, hmark, ⟨_, afterOld⟩, hold, afterPlus, hplus, ⟨start, afterNew⟩, hnew, rest,
      hclose, hstart⟩ := h
    obtain ⟨old, hold, -, hafterMark⟩ := exists_numeral_of_digitRun? hold
    obtain ⟨oldCount, holdCount, hafterOld⟩ := exists_count afterOld
    obtain ⟨new, hnew, hvalues, hafterPlus⟩ := exists_numeral_of_digitRun? hnew
    obtain ⟨newCount, hnewCount, hafterNew⟩ := exists_count afterNew
    rw [literal?_eq_some_iff] at hmark hplus hclose
    dsimp only at hplus hclose hstart
    refine ⟨new, ⟨old, oldCount, newCount, rest, hold, holdCount, hnew, hnewCount, ?_⟩, ?_⟩
    · rw [hmark, hafterMark, hafterOld, hplus, hafterPlus, hafterNew, hclose]
    · rw [← Option.some.inj hstart]
      exact hvalues
  · rintro ⟨start, ⟨old, oldCount, newCount, rest, hold, holdCount, hnew, hnewCount, hline⟩, rfl⟩
    have hplus : EndsNumber (" +".toList ++ (start ++ (newCount ++ (" @@".toList ++ rest)))) :=
      endsNumber_blank _
    have hclose : EndsNumber (" @@".toList ++ rest) := endsNumber_blank _
    rw [headerStart?, hline, literal?_append]
    simp only [Option.bind_eq_bind, Option.bind_some,
      digitRun?_numeral hold (isDigit_head_count holdCount hplus), skipCount_append holdCount hplus,
      literal?_append, digitRun?_numeral hnew (isDigit_head_count hnewCount hclose),
      skipCount_append hnewCount hclose]
    rfl

theorem startsWith_of_isHeader {line : String} {start : List Char} (h : IsHeader line start) :
    line.startsWith "@@" = true := by
  obtain ⟨old, oldCount, newCount, rest, -, -, -, -, hline⟩ := h
  rw [String.startsWith_string_iff, hline]
  exact ⟨_, rfl⟩

/-! ### Headers of hunks -/

/-- The number a range starts with. -/
def rangeStart (start count : Nat) : Nat := if count = 0 then start else start + 1

private theorem isNumeral_toString (n : Nat) :
    IsNumeral (toString n).toList ∧ digitValues (toString n).toList = digitsOf n := by
  have hvalue : ∀ c ∈ Nat.toDigits 10 n, Text.digitValue? c = some (c.toNat - '0'.toNat) :=
    fun c hc => digitValue?_of_isDigit (Nat.isDigit_of_mem_toDigits (by decide) (by decide) hc)
  rw [Nat.toString_eq_ofList_toDigits, String.toList_ofList]
  refine ⟨⟨by simp, fun c hc => ?_⟩, ?_⟩
  · rw [Text.isDigit, hvalue c hc]
    rfl
  · exact List.filterMap_eq_map_iff_forall_eq_some.mpr hvalue

private theorem exists_count_range (start count : Nat) : ∃ more, IsCount more ∧
    (Hunk.range start count).toList = (toString (rangeStart start count)).toList ++ more := by
  rw [Hunk.range, rangeStart]
  split
  · rename_i hone
    have hone : count = 1 := by simpa using hone
    rw [if_neg (by omega)]
    exact ⟨[], .inl rfl, (List.append_nil _).symm⟩
  · split
    · rename_i hzero
      rw [if_pos (by simpa using hzero), String.toList_append]
      exact ⟨_, .inr ⟨_, (isNumeral_toString 0).1, rfl⟩, rfl⟩
    · rename_i hzero
      rw [if_neg (by simpa using hzero), String.toList_append, String.toList_append,
        List.append_assoc]
      exact ⟨_, .inr ⟨_, (isNumeral_toString count).1, rfl⟩, rfl⟩

private theorem isHeader_header (h : Hunk) :
    IsHeader h.header (toString (rangeStart h.newStart h.newCount)).toList := by
  obtain ⟨oldCount, holdCount, hold⟩ := exists_count_range h.oldStart h.oldCount
  obtain ⟨newCount, hnewCount, hnew⟩ := exists_count_range h.newStart h.newCount
  refine ⟨(toString (rangeStart h.oldStart h.oldCount)).toList, oldCount, newCount, [],
    (isNumeral_toString _).1, holdCount, (isNumeral_toString _).1, hnewCount, ?_⟩
  simp only [Hunk.header, String.toList_append, hold, hnew, List.append_assoc, List.append_nil]

private theorem headerStart?_header (h : Hunk) :
    headerStart? h.header.toList = some (digitsOf (rangeStart h.newStart h.newCount)) := by
  rw [headerStart?_eq_some_iff]
  exact ⟨_, isHeader_header h, (isNumeral_toString _).2.symm⟩

theorem of_header (h : Hunk) (next : Option String) :
    PatchLine.of h.header next = .header (digitsOf (rangeStart h.newStart h.newCount)) := by
  rw [PatchLine.of, if_pos (startsWith_of_isHeader (isHeader_header h)), headerStart?_header]

end PullReview.Diff
