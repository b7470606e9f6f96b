import Mathlib.Data.Nat.Count
import PullReview.Proofs.Diff.LineMap

/-!
# The numbers of a patch's lines

Any text can be read as a patch. Its boundaries are the lines that start a hunk or a file, and a
body line has a number if the last boundary before it is a well-formed header: the start of the new
side, and one more for each body line since. The reader finds exactly the lines that have a number,
unless a header that it cannot read comes first.
-/

namespace PullReview.Diff

/-! ### Boundaries and body lines -/

/-- A line that starts a hunk or a file, given the line after it. -/
def StartsPart (line : String) (next : Option String) : Prop :=
  line.startsWith "@@" ∨ line.startsWith "diff " ∨
    line.startsWith "--- " ∧ ∃ after ∈ next, after.startsWith "+++ "

instance (line : String) (next : Option String) : Decidable (StartsPart line next) :=
  inferInstanceAs (Decidable (_ ∨ _))

def IsBoundary (ls : List String) (i : Nat) : Prop := ∃ line ∈ ls[i]?, StartsPart line ls[i + 1]?

instance (ls : List String) : DecidablePred (IsBoundary ls) :=
  fun i => inferInstanceAs (Decidable (∃ line ∈ ls[i]?, _))

/-- A line that is kept or added, as far as its own text tells. -/
def ShowsText (line : String) : Prop := line = "" ∨ line.startsWith "+" ∨ line.startsWith " "

instance (line : String) : Decidable (ShowsText line) := inferInstanceAs (Decidable (_ ∨ _))

def IsBody (ls : List String) (i : Nat) : Prop :=
  ¬ IsBoundary ls i ∧ ∃ line ∈ ls[i]?, ShowsText line

instance (ls : List String) : DecidablePred (IsBody ls) :=
  fun _ => inferInstanceAs (Decidable (_ ∧ _))

structure IsLastBoundary (ls : List String) (i b : Nat) : Prop where
  lt : b < i
  isBoundary : IsBoundary ls b
  last : ∀ j, b < j → j < i → ¬ IsBoundary ls j

/-- The number of body lines behind the line `b` and before the line `i`. -/
def bodyCount (ls : List String) (b i : Nat) : Nat := Nat.count (fun j => b < j ∧ IsBody ls j) i

/-- The line `i` is a body line, and the last boundary before it is a header: its number is counted
on from the start of the hunk. -/
structure HasNumber (ls : List String) (i : Nat) (n : Int) : Prop where
  isBody : IsBody ls i
  counted : ∃ b line start, IsLastBoundary ls i b ∧ ls[b]? = some line ∧ IsHeader line start ∧
    n = (Number.wholeOfDigits (digitValues start) : Int) - 1 + bodyCount ls b (i + 1)

/-- The line `i` is a header whose start has `digits` digits, which are too many. -/
def IsLongHeader (ls : List String) (i digits : Nat) : Prop :=
  ∃ line start, ls[i]? = some line ∧ IsHeader line start ∧ start.length = digits ∧
    Number.digitLimit < digits

/-! ### Kinds of lines -/

private theorem of_cases (line : String) (next : Option String) :
    (∃ start, IsHeader line start ∧ PatchLine.of line next = .header (digitValues start)) ∨
    (StartsPart line next ∧ (∀ start, ¬ IsHeader line start) ∧
      PatchLine.of line next = .boundary) ∨
    (¬ StartsPart line next ∧
      PatchLine.of line next = if ShowsText line then .shown else .hidden) := by
  rw [PatchLine.of]
  split
  · rename_i hmark
    cases hstart : headerStart? line.toList with
    | some ds =>
        obtain ⟨start, hheader, rfl⟩ := headerStart?_eq_some_iff.mp hstart
        exact .inl ⟨start, hheader, rfl⟩
    | none =>
        refine .inr (.inl ⟨.inl hmark, fun start hheader => ?_, rfl⟩)
        rw [headerStart?_eq_some_iff.mpr ⟨start, hheader, rfl⟩] at hstart
        cases hstart
  · rename_i hmark
    have hnone (start : List Char) : ¬ IsHeader line start :=
      fun hheader => hmark (startsWith_of_isHeader hheader)
    split
    · rename_i hdiff
      exact .inr (.inl ⟨.inr (.inl hdiff), hnone, rfl⟩)
    · rename_i hdiff
      have hfile : (line.startsWith "--- " && next.any fun n => n.startsWith "+++ ") = true ↔
          line.startsWith "--- " ∧ ∃ after ∈ next, after.startsWith "+++ " := by
        rw [Bool.and_eq_true, Option.any_eq_true]
        rfl
      split
      · rename_i hhead
        exact .inr (.inl ⟨.inr (.inr (hfile.mp hhead)), hnone, rfl⟩)
      · rename_i hhead
        have hpart : ¬ StartsPart line next := by
          rintro (h | h | h)
          · exact hmark h
          · exact hdiff h
          · exact hhead (hfile.mpr h)
        have hshows : (line == "" || line.startsWith "+" || line.startsWith " ") = true ↔
            ShowsText line := by
          rw [Bool.or_eq_true, Bool.or_eq_true, beq_iff_eq, or_assoc, ShowsText]
        refine .inr (.inr ⟨hpart, ?_⟩)
        simp only [hshows]

private theorem getElem?_readPatch (ls : List String) (i : Nat) :
    (readPatch ls)[i]? = ls[i]?.map (PatchLine.of · ls[i + 1]?) := by
  induction ls generalizing i with
  | nil => rfl
  | cons l ls ih =>
      cases i with
      | zero => simp [readPatch, List.head?_eq_getElem?]
      | succ i => simp [readPatch, ih]

private theorem line_cases {ls : List String} {i : Nat} {line : String}
    (hline : ls[i]? = some line) :
    (∃ start, IsHeader line start ∧ IsBoundary ls i ∧
      (readPatch ls)[i]? = some (.header (digitValues start))) ∨
    (IsBoundary ls i ∧ (∀ start, ¬ IsHeader line start) ∧ (readPatch ls)[i]? = some .boundary) ∨
    (IsBody ls i ∧ (readPatch ls)[i]? = some .shown) ∨
    (¬ IsBoundary ls i ∧ ¬ IsBody ls i ∧ (readPatch ls)[i]? = some .hidden) := by
  have hboundary : IsBoundary ls i ↔ StartsPart line ls[i + 1]? := by
    simp [IsBoundary, hline]
  have hbody : IsBody ls i ↔ ¬ StartsPart line ls[i + 1]? ∧ ShowsText line := by
    rw [IsBody, hboundary]
    simp [hline]
  rw [getElem?_readPatch, hline, Option.map_some, hboundary, hbody]
  rcases of_cases line ls[i + 1]? with ⟨start, hheader, hof⟩ | ⟨hpart, hnone, hof⟩ | ⟨hpart, hof⟩
  · exact .inl ⟨start, hheader, .inl (startsWith_of_isHeader hheader), congrArg some hof⟩
  · exact .inr (.inl ⟨hpart, hnone, congrArg some hof⟩)
  · by_cases hshows : ShowsText line
    · rw [if_pos hshows] at hof
      exact .inr (.inr (.inl ⟨⟨hpart, hshows⟩, congrArg some hof⟩))
    · rw [if_neg hshows] at hof
      exact .inr (.inr (.inr ⟨hpart, fun h => hshows h.2, congrArg some hof⟩))

private theorem isBody_iff {ls : List String} {i : Nat} :
    IsBody ls i ↔ (readPatch ls)[i]? = some .shown := by
  cases hline : ls[i]? with
  | none => simp [IsBody, getElem?_readPatch, hline]
  | some line =>
      rcases line_cases hline with ⟨start, -, hb, hp⟩ | ⟨hb, -, hp⟩ | ⟨hb, hp⟩ | ⟨-, hb, hp⟩
      · simp [hp, IsBody, hb]
      · simp [hp, IsBody, hb]
      · simp [hp, hb]
      · simp [hp, hb]

private theorem getElem?_readPatch_header {ls : List String} {i : Nat} {ds : List Nat} :
    (readPatch ls)[i]? = some (.header ds) ↔
      ∃ line start, ls[i]? = some line ∧ IsHeader line start ∧ ds = digitValues start := by
  constructor
  · intro hp
    cases hline : ls[i]? with
    | none => simp [getElem?_readPatch, hline] at hp
    | some line =>
        rcases line_cases hline with ⟨start, hheader, -, hp'⟩ | ⟨-, -, hp'⟩ | ⟨-, hp'⟩ | ⟨-, -, hp'⟩
        · rw [hp'] at hp
          exact ⟨line, start, rfl, hheader, (PatchLine.header.inj (Option.some.inj hp)).symm⟩
        · cases hp.symm.trans hp'
        · cases hp.symm.trans hp'
        · cases hp.symm.trans hp'
  · rintro ⟨line, start, hline, hheader, rfl⟩
    rw [getElem?_readPatch, hline, Option.map_some, PatchLine.of,
      if_pos (startsWith_of_isHeader hheader), headerStart?_eq_some_iff.mpr ⟨start, hheader, rfl⟩]

private theorem isLongHeader_iff {ls : List String} {i digits : Nat} :
    IsLongHeader ls i digits ↔ ∃ ds, (readPatch ls)[i]? = some (.header ds) ∧
      ds.length = digits ∧ Number.digitLimit < digits := by
  constructor
  · rintro ⟨line, start, hline, hheader, hlen, hlong⟩
    refine ⟨digitValues start, getElem?_readPatch_header.mpr ⟨line, start, hline, hheader, rfl⟩,
      ?_, hlong⟩
    obtain ⟨_, _, _, _, _, _, hstart, _, _⟩ := hheader
    rw [length_digitValues hstart.2, hlen]
  · rintro ⟨ds, hp, hlen, hlong⟩
    obtain ⟨line, start, hline, hheader, rfl⟩ := getElem?_readPatch_header.mp hp
    refine ⟨line, start, hline, hheader, ?_, hlong⟩
    obtain ⟨_, _, _, _, _, _, hstart, _, _⟩ := hheader
    rw [← hlen, length_digitValues hstart.2]

/-! ### The counter and the numbers -/

/-- What the counter is before the line `i`: it counts on from the last boundary, if that is a
header. -/
def Counts (ls : List String) (i : Nat) (v : Int) : Prop :=
  ∃ b line start, IsLastBoundary ls i b ∧ ls[b]? = some line ∧ IsHeader line start ∧
    v = (Number.wholeOfDigits (digitValues start) : Int) - 1 + bodyCount ls b i

private theorem isLastBoundary_succ {ls : List String} {i b : Nat} (h : ¬ IsBoundary ls i) :
    IsLastBoundary ls (i + 1) b ↔ IsLastBoundary ls i b := by
  constructor
  · rintro ⟨hlt, hb, hlast⟩
    have hne : b ≠ i := by
      rintro rfl
      exact h hb
    exact ⟨by omega, hb, fun j hbj hji => hlast j hbj (by omega)⟩
  · rintro ⟨hlt, hb, hlast⟩
    refine ⟨by omega, hb, fun j hbj hji => ?_⟩
    by_cases hj : j = i
    · rw [hj]
      exact h
    · exact hlast j hbj (by omega)

private theorem isLastBoundary_succ_self {ls : List String} {i b : Nat} (h : IsBoundary ls i) :
    IsLastBoundary ls (i + 1) b ↔ b = i := by
  constructor
  · rintro ⟨hlt, hb, hlast⟩
    by_contra hne
    exact hlast i (by omega) (by omega) h
  · rintro rfl
    exact ⟨by omega, h, fun j hbj hji => by omega⟩

private theorem bodyCount_succ {ls : List String} {b i : Nat} (h : b < i) :
    bodyCount ls b (i + 1) = bodyCount ls b i + if IsBody ls i then 1 else 0 := by
  rw [bodyCount, bodyCount, Nat.count_succ]
  simp [h]

private theorem bodyCount_self (ls : List String) (b : Nat) : bodyCount ls b (b + 1) = 0 := by
  rw [bodyCount, Nat.count_iff_forall_not]
  rintro j hj ⟨hbj, -⟩
  omega

private theorem hasNumber_iff {ls : List String} {i : Nat} {n : Int} :
    HasNumber ls i n ↔ IsBody ls i ∧ Counts ls i (n - 1) := by
  constructor
  · rintro ⟨hbody, b, line, start, hlast, hline, hheader, rfl⟩
    refine ⟨hbody, b, line, start, hlast, hline, hheader, ?_⟩
    rw [bodyCount_succ hlast.lt, if_pos hbody]
    omega
  · rintro ⟨hbody, b, line, start, hlast, hline, hheader, hn⟩
    refine ⟨hbody, b, line, start, hlast, hline, hheader, ?_⟩
    rw [bodyCount_succ hlast.lt, if_pos hbody]
    omega

private theorem counts_zero (ls : List String) (v : Int) : ¬ Counts ls 0 v := by
  rintro ⟨b, line, start, hlast, -⟩
  have hlt := hlast.lt
  omega

private theorem counts_succ_boundary {ls : List String} {i : Nat} {v : Int} (h : IsBoundary ls i) :
    Counts ls (i + 1) v ↔ ∃ ds, (readPatch ls)[i]? = some (.header ds) ∧
      v = (Number.wholeOfDigits ds : Int) - 1 := by
  simp only [Counts, isLastBoundary_succ_self h, getElem?_readPatch_header]
  constructor
  · rintro ⟨b, line, start, rfl, hline, hheader, rfl⟩
    refine ⟨digitValues start, ⟨line, start, hline, hheader, rfl⟩, ?_⟩
    rw [bodyCount_self]
    omega
  · rintro ⟨ds, ⟨line, start, hline, hheader, rfl⟩, rfl⟩
    refine ⟨i, line, start, rfl, hline, hheader, ?_⟩
    rw [bodyCount_self]
    omega

private theorem counts_succ_other {ls : List String} {i : Nat} {v : Int} (h : ¬ IsBoundary ls i) :
    Counts ls (i + 1) v ↔ Counts ls i (v - if IsBody ls i then 1 else 0) := by
  have hstep (b : Nat) (hb : b < i) (w : Int) : v = w + bodyCount ls b (i + 1) ↔
      v - (if IsBody ls i then 1 else 0) = w + bodyCount ls b i := by
    rw [bodyCount_succ hb]
    by_cases hbody : IsBody ls i
    · simp only [if_pos hbody]
      omega
    · simp only [if_neg hbody]
      omega
  simp only [Counts, isLastBoundary_succ h]
  constructor
  · rintro ⟨b, line, start, hlast, hline, hheader, hv⟩
    exact ⟨b, line, start, hlast, hline, hheader, (hstep b hlast.lt _).mp hv⟩
  · rintro ⟨b, line, start, hlast, hline, hheader, hv⟩
    exact ⟨b, line, start, hlast, hline, hheader, (hstep b hlast.lt _).mpr hv⟩

/-- One line takes the counter on as the numbers go on. -/
theorem next_counts {ls : List String} {i : Nat} {p : PatchLine} {counter counter' : Option Int}
    (hp : (readPatch ls)[i]? = some p) (hcounter : ∀ v, counter = some v ↔ Counts ls i v)
    (hnext : p.next counter = .ok counter') : ∀ v, counter' = some v ↔ Counts ls (i + 1) v := by
  intro v
  obtain ⟨line, hline, -⟩ := Option.map_eq_some_iff.mp ((getElem?_readPatch ls i).symm.trans hp)
  rcases line_cases hline with ⟨start, -, hb, hp'⟩ | ⟨hb, -, hp'⟩ | ⟨hbody, hp'⟩ | ⟨hb, hbody, hp'⟩
  all_goals obtain rfl := Option.some.inj (hp.symm.trans hp')
  · rw [counts_succ_boundary hb, hp]
    cases hread : Number.readWhole (digitValues start) with
    | error e => simp [PatchLine.next, hread, Except.map] at hnext
    | ok whole =>
        rw [PatchLine.next, hread] at hnext
        obtain rfl := Except.ok.inj hnext
        rw [Number.readWhole] at hread
        split at hread
        · cases hread
        · obtain rfl := Except.ok.inj hread
          simp [eq_comm]
  · obtain rfl : none = counter' := Except.ok.inj hnext
    simp [counts_succ_boundary hb, hp]
  · obtain rfl : counter.map (· + 1) = counter' := Except.ok.inj hnext
    rw [counts_succ_other hbody.1, if_pos hbody, ← hcounter, Option.map_eq_some_iff]
    constructor
    · rintro ⟨w, rfl, rfl⟩
      simp
    · intro h
      exact ⟨v - 1, h, by omega⟩
  · obtain rfl : counter = counter' := Except.ok.inj hnext
    rw [counts_succ_other hb, if_neg hbody, Int.sub_zero, hcounter]

private theorem counterAfter_take_succ {ps : List PatchLine} {i : Nat} {p : PatchLine}
    {counter final : Option Int} (hp : ps[i]? = some p)
    (h : counterAfter counter (ps.take (i + 1)) = .ok final) :
    ∃ middle, counterAfter counter (ps.take i) = .ok middle ∧ p.next middle = .ok final := by
  rw [List.take_add_one, hp] at h
  obtain ⟨middle, hmiddle, h⟩ := counterAfter_append_ok h
  obtain ⟨last, hlast, h⟩ := counterAfter_cons_ok h
  obtain rfl : last = final := Except.ok.inj h
  exact ⟨middle, hmiddle, hlast⟩

/-- As long as every header can be read, the counter is what the numbers count. -/
theorem counterAfter_counts {ls : List String} {i : Nat} {counter : Option Int}
    (hi : i ≤ (readPatch ls).length)
    (h : counterAfter none ((readPatch ls).take i) = .ok counter) :
    ∀ v, counter = some v ↔ Counts ls i v := by
  induction i generalizing counter with
  | zero =>
      obtain rfl : none = counter := Except.ok.inj h
      simp [counts_zero]
  | succ i ih =>
      have hp := List.getElem?_eq_getElem (Nat.lt_of_succ_le hi)
      obtain ⟨middle, hmiddle, hnext⟩ := counterAfter_take_succ hp h
      exact next_counts hp (ih (Nat.le_of_succ_le hi) hmiddle) hnext

/-! ### Headers that cannot be read -/

/-- A header whose start has too many digits. -/
def PatchLine.IsLong (p : PatchLine) : Prop := ∃ ds, p = .header ds ∧ Number.digitLimit < ds.length

private theorem next_ok_iff (p : PatchLine) (counter : Option Int) :
    (∃ counter', p.next counter = .ok counter') ↔ ¬ p.IsLong := by
  cases p with
  | header ds =>
      rcases readWhole_cases ds with ⟨hlong, hread⟩ | ⟨hshort, hread⟩
      · simp [PatchLine.next, PatchLine.IsLong, hread, hlong, Except.map]
      · simp [PatchLine.next, PatchLine.IsLong, hread, hshort, Except.map]
  | boundary => simp [PatchLine.next, PatchLine.IsLong]
  | shown => simp [PatchLine.next, PatchLine.IsLong]
  | hidden => simp [PatchLine.next, PatchLine.IsLong]

private theorem counterAfter_ok_iff (ps : List PatchLine) (counter : Option Int) :
    (∃ final, counterAfter counter ps = .ok final) ↔ ∀ p ∈ ps, ¬ p.IsLong := by
  induction ps generalizing counter with
  | nil => exact ⟨fun _ p hp => absurd hp List.not_mem_nil, fun _ => ⟨counter, rfl⟩⟩
  | cons p ps ih =>
      rw [List.forall_mem_cons, ← next_ok_iff p counter]
      constructor
      · rintro ⟨final, h⟩
        obtain ⟨middle, hp, hps⟩ := counterAfter_cons_ok h
        exact ⟨⟨middle, hp⟩, (ih middle).mp ⟨final, hps⟩⟩
      · rintro ⟨⟨middle, hp⟩, hps⟩
        obtain ⟨final, hfinal⟩ := (ih middle).mpr hps
        exact ⟨final, (counterAfter_cons ps hp).trans hfinal⟩

private theorem not_isLong_of_findLine_none {n : Int} {counter : Option Int} {ps : List PatchLine}
    (h : findLine n counter ps = .ok none) : ∀ p ∈ ps, ¬ p.IsLong := by
  induction ps generalizing counter with
  | nil => simp
  | cons p ps ih =>
      rw [List.forall_mem_cons, ← next_ok_iff p counter]
      rcases findLine_cons_cases n counter p with
        ⟨-, -, hstop⟩ | ⟨ds, -, -, -, hfail⟩ | ⟨counter', hp, hon⟩
      · rw [hstop] at h
        cases h
      · rw [hfail] at h
        cases h
      · rw [hon] at h
        exact ⟨⟨counter', hp⟩, ih h⟩

private theorem isLong_take_iff (ls : List String) (i : Nat) :
    (∀ p ∈ (readPatch ls).take i, ¬ p.IsLong) ↔ ∀ j < i, ∀ digits, ¬ IsLongHeader ls j digits := by
  constructor
  · intro h j hj digits hlong
    obtain ⟨ds, hp, rfl, hlong⟩ := isLongHeader_iff.mp hlong
    have hmem : PatchLine.header ds ∈ (readPatch ls).take i := by
      rw [List.mem_iff_getElem?]
      exact ⟨j, by rw [List.getElem?_take_of_lt hj, hp]⟩
    exact h _ hmem ⟨ds, rfl, hlong⟩
  · rintro h p hp ⟨ds, rfl, hlong⟩
    obtain ⟨j, hj⟩ := List.mem_iff_getElem?.mp hp
    have hlt : j < i := by
      by_contra hge
      rw [List.getElem?_take_eq_none (Nat.le_of_not_lt hge)] at hj
      cases hj
    rw [List.getElem?_take_of_lt hlt] at hj
    exact h j hlt _ (isLongHeader_iff.mpr ⟨ds, hj, rfl, hlong⟩)

/-! ### What the reader finds -/

private theorem findLine_take_of_hasNumber {ls : List String} {i j : Nat} {n : Int}
    (hnumber : HasNumber ls j n) (hji : j < i)
    (hshort : ∀ k < j, ∀ digits, ¬ IsLongHeader ls k digits) :
    findLine n none ((readPatch ls).take i) = .ok (some n) := by
  obtain ⟨hbody, hcounts⟩ := hasNumber_iff.mp hnumber
  obtain ⟨hlt, hshown⟩ := List.getElem?_eq_some_iff.mp (isBody_iff.mp hbody)
  rw [← isLong_take_iff, ← counterAfter_ok_iff _ none] at hshort
  obtain ⟨counter, hcounter⟩ := hshort
  obtain rfl := (counterAfter_counts (Nat.le_of_lt hlt) hcounter _).mpr hcounts
  have hsplit : (readPatch ls).take i =
      (readPatch ls).take j ++ .shown :: ((readPatch ls).take i).drop (j + 1) := by
    have hget : ((readPatch ls).take i)[j]? = some .shown := by
      rw [List.getElem?_take_of_lt hji]
      exact isBody_iff.mp hbody
    obtain ⟨hlt', hshown'⟩ := List.getElem?_eq_some_iff.mp hget
    rw [← hshown', List.getElem_cons_drop, ← Nat.min_eq_left (Nat.le_of_lt hji), ← List.take_take,
      Nat.min_eq_left (Nat.le_of_lt hji), List.take_append_drop]
  rw [hsplit]
  exact findLine_of_counterAfter _ hcounter

private theorem findLine_eq_some_iff {ls : List String} {n m : Int} :
    findLine n none (readPatch ls) = .ok (some m) ↔
      m = n ∧ ∃ i, HasNumber ls i n ∧ ∀ j < i, ∀ digits, ¬ IsLongHeader ls j digits := by
  constructor
  · intro h
    obtain ⟨rfl, before, after, hps, hcounter, -⟩ := exists_stop h
    have hlen : before.length ≤ (readPatch ls).length := by
      rw [hps, List.length_append]
      omega
    have hbefore : (readPatch ls).take before.length = before := by
      rw [hps, List.take_left]
    have hshown : (readPatch ls)[before.length]? = some .shown := by
      rw [hps, List.getElem?_append_right (Nat.le_refl _), Nat.sub_self]
      rfl
    refine ⟨rfl, before.length, ?_, ?_⟩
    · rw [← hbefore] at hcounter
      rw [hasNumber_iff]
      exact ⟨isBody_iff.mpr hshown, (counterAfter_counts hlen hcounter _).mp rfl⟩
    · rw [← isLong_take_iff, hbefore, ← counterAfter_ok_iff before none]
      exact ⟨_, hcounter⟩
  · rintro ⟨rfl, i, hnumber, hshort⟩
    obtain ⟨hlt, -⟩ := List.getElem?_eq_some_iff.mp (isBody_iff.mp hnumber.isBody)
    have hfound := findLine_take_of_hasNumber hnumber hlt hshort
    rwa [List.take_length] at hfound

private theorem exists_isLongHeader_of_error {ls : List String} {n : Int} {e : Number.TooManyDigits}
    (h : findLine n none (readPatch ls) = .error e) :
    ∃ i, IsLongHeader ls i e.count ∧
      ∀ j < i, (∀ digits, ¬ IsLongHeader ls j digits) ∧ ¬ HasNumber ls j n := by
  obtain ⟨before, ds, after, hps, hlong, hcount, hnone⟩ := exists_failure h
  have hbefore : (readPatch ls).take before.length = before := by
    rw [hps, List.take_left]
  have hheader : (readPatch ls)[before.length]? = some (.header ds) := by
    rw [hps, List.getElem?_append_right (Nat.le_refl _), Nat.sub_self]
    rfl
  rw [← hbefore] at hnone
  have hshort := (isLong_take_iff ls before.length).mp (not_isLong_of_findLine_none hnone)
  refine ⟨before.length, ?_, fun j hj => ⟨hshort j hj, fun hnumber => ?_⟩⟩
  · rw [hcount]
    exact isLongHeader_iff.mpr ⟨ds, hheader, rfl, hlong⟩
  · have hfound := findLine_take_of_hasNumber hnumber hj fun k hk => hshort k (Nat.lt_trans hk hj)
    cases hnone.symm.trans hfound

theorem IsLongHeader.unique {ls : List String} {i digits digits' : Nat}
    (h : IsLongHeader ls i digits) (h' : IsLongHeader ls i digits') : digits = digits' := by
  obtain ⟨ds, hp, rfl, -⟩ := isLongHeader_iff.mp h
  obtain ⟨ds', hp', rfl, -⟩ := isLongHeader_iff.mp h'
  cases hp.symm.trans hp'
  rfl

private theorem IsLongHeader.not_isBody {ls : List String} {i digits : Nat}
    (h : IsLongHeader ls i digits) : ¬ IsBody ls i := by
  obtain ⟨ds, hp, -, -⟩ := isLongHeader_iff.mp h
  rw [isBody_iff, hp]
  simp

private theorem findLine_eq_error_iff {ls : List String} {n : Int} {e : Number.TooManyDigits} :
    findLine n none (readPatch ls) = .error e ↔
      ∃ i, IsLongHeader ls i e.count ∧
        ∀ j < i, (∀ digits, ¬ IsLongHeader ls j digits) ∧ ¬ HasNumber ls j n := by
  refine ⟨exists_isLongHeader_of_error, ?_⟩
  rintro ⟨i, hlong, hbefore⟩
  cases hresult : findLine n none (readPatch ls) with
  | error e' =>
      obtain ⟨i', hlong', hbefore'⟩ := exists_isLongHeader_of_error hresult
      have hi : i = i' := by
        rcases Nat.lt_trichotomy i i' with hlt | heq | hgt
        · exact absurd hlong ((hbefore' i hlt).1 _)
        · exact heq
        · exact absurd hlong' ((hbefore i' hgt).1 _)
      have hcount : e.count = e'.count := hlong.unique (hi ▸ hlong')
      cases e
      cases e'
      exact congrArg _ (congrArg _ hcount.symm)
  | ok found =>
      exfalso
      cases found with
      | none =>
          have hshort := not_isLong_of_findLine_none hresult
          rw [← @List.take_length _ (readPatch ls), isLong_take_iff] at hshort
          obtain ⟨ds, hp, -, -⟩ := isLongHeader_iff.mp hlong
          obtain ⟨hlt, -⟩ := List.getElem?_eq_some_iff.mp hp
          exact hshort i hlt _ hlong
      | some m =>
          obtain ⟨-, k, hnumber, hshort⟩ := findLine_eq_some_iff.mp hresult
          rcases Nat.lt_trichotomy i k with hlt | rfl | hgt
          · exact hshort i hlt _ hlong
          · exact hlong.not_isBody hnumber.isBody
          · exact (hbefore k hgt).2 hnumber

private theorem shownLine?_eq_some_iff {patch : String} {n m : Int} :
    shownLine? patch n = .ok (some m) ↔ m = n ∧ 1 ≤ n ∧ ∃ i, HasNumber (Text.lines patch) i n ∧
      ∀ j < i, ∀ digits, ¬ IsLongHeader (Text.lines patch) j digits := by
  rw [shownLine?]
  by_cases hn : n < 1
  · have hpos : ¬ 1 ≤ n := by omega
    simp [hn, hpos]
  · have hpos : 1 ≤ n := by omega
    rw [if_neg hn, findLine_eq_some_iff]
    simp [hpos]

private theorem shownLine?_eq_error_iff {patch : String} {n : Int} {e : Number.TooManyDigits} :
    shownLine? patch n = .error e ↔ 1 ≤ n ∧ ∃ i, IsLongHeader (Text.lines patch) i e.count ∧
      ∀ j < i, (∀ digits, ¬ IsLongHeader (Text.lines patch) j digits) ∧
        ¬ HasNumber (Text.lines patch) j n := by
  rw [shownLine?]
  by_cases hn : n < 1
  · have hpos : ¬ 1 ≤ n := by omega
    simp [hn, hpos]
  · have hpos : 1 ≤ n := by omega
    rw [if_neg hn, findLine_eq_error_iff]
    simp [hpos]

/-- Where no header has a start of too many digits, a line is found exactly if some body line has
its number. -/
theorem shownLine?_finds_numbers {patch : String}
    (hshort : ∀ line ∈ Text.lines patch, ∀ start, IsHeader line start →
      start.length ≤ Number.digitLimit) (n : Int) :
    ((1 ≤ n ∧ ∃ i, HasNumber (Text.lines patch) i n) ∧ shownLine? patch n = .ok (some n)) ∨
      (¬ (1 ≤ n ∧ ∃ i, HasNumber (Text.lines patch) i n) ∧ shownLine? patch n = .ok none) := by
  have hread (i digits : Nat) : ¬ IsLongHeader (Text.lines patch) i digits := by
    rintro ⟨line, start, hline, hheader, rfl, hlong⟩
    have hle := hshort line (List.mem_of_getElem? hline) start hheader
    omega
  have hsome : shownLine? patch n = .ok (some n) ↔
      1 ≤ n ∧ ∃ i, HasNumber (Text.lines patch) i n := by
    simp [shownLine?_eq_some_iff, hread]
  by_cases hnumber : 1 ≤ n ∧ ∃ i, HasNumber (Text.lines patch) i n
  · exact .inl ⟨hnumber, hsome.mpr hnumber⟩
  · refine .inr ⟨hnumber, ?_⟩
    cases hresult : shownLine? patch n with
    | error e =>
        obtain ⟨-, i, hlong, -⟩ := shownLine?_eq_error_iff.mp hresult
        exact absurd hlong (hread i _)
    | ok answer =>
        cases answer with
        | none => rfl
        | some m =>
            obtain rfl := (shownLine?_eq_some_iff.mp hresult).1
            exact absurd (hsome.mp hresult) hnumber

theorem IsHeader.length_le {line : String} {start : List Char} (h : IsHeader line start) :
    start.length ≤ line.toList.length := by
  obtain ⟨old, oldCount, newCount, rest, -, -, -, -, hline⟩ := h
  rw [hline]
  simp only [List.length_append]
  omega

/-- Two hunks, the first ended by the head of another file and the second started twice. -/
def mixedPatch : String :=
  "@@ -1 +4,2 @@\n-a\n+b\n\n--- c\n+++ d\n e\n@@ x\n+f\n@@ -9 +٩ @@ g\n\\ h\n i"

theorem mixedPatch_shows_nine :
    (∀ line ∈ Text.lines mixedPatch, ∀ start, IsHeader line start →
      start.length ≤ Number.digitLimit) ∧
      (∃ i, HasNumber (Text.lines mixedPatch) i 9) ∧ shownLine? mixedPatch 9 = .ok (some 9) ∧
      ¬ (∃ i, HasNumber (Text.lines mixedPatch) i 6) ∧ shownLine? mixedPatch 6 = .ok none := by
  have hshort : ∀ line ∈ Text.lines mixedPatch, ∀ start, IsHeader line start →
      start.length ≤ Number.digitLimit := by
    have hlines : ∀ line ∈ Text.lines mixedPatch, line.toList.length ≤ Number.digitLimit := by
      decide +kernel
    exact fun line hline start hheader => Nat.le_trans hheader.length_le (hlines line hline)
  have hnine : shownLine? mixedPatch 9 = .ok (some 9) := by decide +kernel
  have hsix : shownLine? mixedPatch 6 = .ok none := by decide +kernel
  refine ⟨hshort, ?_, hnine, ?_, hsix⟩
  · rcases shownLine?_finds_numbers hshort 9 with ⟨⟨-, hnumber⟩, -⟩ | ⟨-, hnone⟩
    · exact hnumber
    · cases hnine.symm.trans hnone
  · rcases shownLine?_finds_numbers hshort 6 with ⟨-, hsome⟩ | ⟨hnumber, -⟩
    · cases hsix.symm.trans hsome
    · exact fun h => hnumber ⟨by decide, h⟩

/-- Exactly when the reader fails, with or without a patch, and what it answers otherwise. -/
theorem shownLineOf?_outcomes (patch : Option String) (n : Int) :
    (∀ e, shownLineOf? patch n = .error e ↔ ∃ text ∈ patch, 1 ≤ n ∧
      ∃ i, IsLongHeader (Text.lines text) i e.count ∧
        ∀ j < i, (∀ digits, ¬ IsLongHeader (Text.lines text) j digits) ∧
          ¬ HasNumber (Text.lines text) j n) ∧
    (∀ m, shownLineOf? patch n = .ok (some m) ↔ m = n ∧ ∃ text ∈ patch, 1 ≤ n ∧
      ∃ i, HasNumber (Text.lines text) i n ∧
        ∀ j < i, ∀ digits, ¬ IsLongHeader (Text.lines text) j digits) := by
  cases patch with
  | none => simp [shownLineOf?]
  | some text => simp [shownLineOf?, shownLine?_eq_error_iff, shownLine?_eq_some_iff]

/-- A patch of one header, whose start has as many digits as it is asked for. -/
def headerOfDigits (digits : Nat) : String :=
  "@@ -1 +" ++ String.ofList (List.replicate digits '1') ++ " @@"

private theorem lines_headerOfDigits (digits : Nat) :
    Text.lines (headerOfDigits digits) = [headerOfDigits digits] := by
  have hdigits : Text.IsLine (String.ofList (List.replicate digits '1')) := by
    intro c hc
    rw [String.toList_ofList] at hc
    rw [List.eq_of_mem_replicate hc]
    decide
  have hline : Text.IsLine (headerOfDigits digits) :=
    Text.isLine_append (Text.isLine_append (by decide) hdigits) (by decide)
  have hne : headerOfDigits digits ≠ "" := by
    intro h
    have := congrArg String.toList h
    simp [headerOfDigits] at this
  have hcut : Text.lines ("\n".intercalate [headerOfDigits digits]) = [headerOfDigits digits] := by
    apply Text.lines_intercalate
    · simpa using hline
    · simpa using hne
  rwa [String.intercalate_singleton] at hcut

private theorem isLongHeader_headerOfDigits {digits : Nat} (h : Number.digitLimit < digits) :
    IsLongHeader (Text.lines (headerOfDigits digits)) 0 digits := by
  have hone : Text.isDigit '1' = true := by decide
  have hold : IsNumeral ['1'] := ⟨by simp, by simpa using hone⟩
  have hnew : IsNumeral (List.replicate digits '1') := by
    refine ⟨?_, fun c hc => ?_⟩
    · rw [ne_eq, List.replicate_eq_nil_iff]
      omega
    · rw [List.eq_of_mem_replicate hc]
      exact hone
  rw [lines_headerOfDigits]
  refine ⟨headerOfDigits digits, List.replicate digits '1', rfl, ?_, List.length_replicate, h⟩
  refine ⟨['1'], [], [], [], hold, .inl rfl, hnew, .inl rfl, ?_⟩
  simp [headerOfDigits]

theorem headerOfDigits_fails :
    shownLineOf? (some (headerOfDigits 4301)) 1 = .error ⟨4301⟩ := by
  rw [shownLineOf?, shownLine?_eq_error_iff]
  exact ⟨by decide, 0, isLongHeader_headerOfDigits (by decide), fun j hj => absurd hj (by omega)⟩

end PullReview.Diff
