import PullReview.Proofs.Diff.LineMap

/-!
# Lines that a patch shows

Where the reader of a patch comes to a line of a hunk, its counter is the number of that line in the
new text. So what it finds is shown by a hunk, and a line that a hunk shows is found unless the
hunk reads like the start of another file before it.
-/

namespace PullReview.Diff

/-! ### Hunks -/

namespace Hunk

/-- The lines of a hunk up to the `k`-th that is not removed. -/
def linesUpTo : Nat → List (Mark × String) → List (Mark × String)
  | 0, _ => []
  | _ + 1, [] => []
  | k + 1, x :: rest => x :: linesUpTo (if x.1 = .removed then k + 1 else k) rest

/-- Up to line `n` of the new text, no two lines of the hunk read like the head of another file. -/
def IsClear (h : Hunk) (n : Int) : Prop :=
  (linesUpTo (n - h.newStart).toNat h.lines).IsChain fun x y => ¬ IsFileHead x y

instance IsClear.decidable (h : Hunk) (n : Int) : Decidable (h.IsClear n) :=
  inferInstanceAs (Decidable (List.IsChain _ _))

private theorem linesUpTo_append {ls rest : List (Mark × String)} {y : Mark × String}
    (hy : y.1 ≠ .removed) : linesUpTo (Diff.newCount ls + 1) (ls ++ y :: rest) = ls ++ [y] := by
  induction ls with
  | nil => simp [linesUpTo, Diff.newCount, hy]
  | cons x ls ih =>
      by_cases hx : x.1 = .removed
      · have hcount : Diff.newCount (x :: ls) = Diff.newCount ls := by simp [Diff.newCount, hx]
        rw [List.cons_append, hcount, linesUpTo, if_pos hx, ih, List.cons_append]
      · have hcount : Diff.newCount (x :: ls) = Diff.newCount ls + 1 := by simp [Diff.newCount, hx]
        rw [List.cons_append, hcount, linesUpTo, if_neg hx, ih, List.cons_append]

private theorem exists_split {ls : List (Mark × String)} {k : Nat} (h : k < Diff.newCount ls) :
    ∃ lead y rest, ls = lead ++ y :: rest ∧ y.1 ≠ .removed ∧ Diff.newCount lead = k := by
  induction ls generalizing k with
  | nil => simp [Diff.newCount] at h
  | cons x ls ih =>
      by_cases hx : x.1 = .removed
      · have hcount (zs : List (Mark × String)) : Diff.newCount (x :: zs) = Diff.newCount zs := by
          simp [Diff.newCount, hx]
        rw [hcount] at h
        obtain ⟨lead, y, rest, rfl, hy, rfl⟩ := ih h
        exact ⟨x :: lead, y, rest, rfl, hy, hcount lead⟩
      · have hcount (zs : List (Mark × String)) :
            Diff.newCount (x :: zs) = Diff.newCount zs + 1 := by
          simp [Diff.newCount, hx]
        cases k with
        | zero => exact ⟨[], x, ls, rfl, hx, rfl⟩
        | succ k =>
            rw [hcount] at h
            obtain ⟨lead, y, rest, rfl, hy, rfl⟩ := ih (Nat.lt_of_succ_lt_succ h)
            exact ⟨x :: lead, y, rest, rfl, hy, hcount lead⟩

/-- A line of a hunk that is not removed, and what lies before and behind it. -/
structure At (h : Hunk) (lead : List (Mark × String)) (y : Mark × String)
    (rest : List (Mark × String)) : Prop where
  lines_eq : h.lines = lead ++ y :: rest
  shown : y.1 ≠ .removed

namespace At

variable {h : Hunk} {lead rest : List (Mark × String)} {y : Mark × String}

private theorem newCount_lt (hat : h.At lead y rest) : Diff.newCount lead < h.newCount := by
  have hy := hat.shown
  rw [Hunk.newCount, hat.lines_eq, List.countP_append, List.countP_cons, Diff.newCount]
  simp [hy]

theorem covers (hat : h.At lead y rest) : h.Covers (h.newStart + Diff.newCount lead + 1) := by
  have := hat.newCount_lt
  rw [Covers]
  omega

private theorem rangeStart_eq (hat : h.At lead y rest) :
    rangeStart h.newStart h.newCount = h.newStart + 1 := by
  have := hat.newCount_lt
  rw [rangeStart, if_neg (by omega)]

private theorem newLines_getElem? (hat : h.At lead y rest) :
    h.newLines[Diff.newCount lead]? = some y.2 := by
  have hy := hat.shown
  have hlen : ((lead.filter (·.1 != .removed)).map (·.2)).length = Diff.newCount lead := by
    rw [List.length_map, Diff.newCount, List.countP_eq_length_filter]
  rw [Hunk.newLines, hat.lines_eq, List.filter_append, List.map_append,
    List.getElem?_append_right (by omega), hlen, Nat.sub_self]
  simp [hy]

private theorem isClear_iff (hat : h.At lead y rest) :
    h.IsClear (h.newStart + Diff.newCount lead + 1) ↔
      (lead ++ [y]).IsChain fun a b => ¬ IsFileHead a b := by
  have hindex : ((h.newStart : Int) + Diff.newCount lead + 1 - h.newStart).toNat =
      Diff.newCount lead + 1 := by omega
  rw [IsClear, hindex, hat.lines_eq, linesUpTo_append hat.shown]

end At

private theorem Covers.exists_at {h : Hunk} {n : Int} (hn : h.Covers n) :
    ∃ lead y rest, h.At lead y rest ∧ n = h.newStart + Diff.newCount lead + 1 := by
  obtain ⟨hlo, hhi⟩ := hn
  have hlt : (n - h.newStart - 1).toNat < Diff.newCount h.lines := by
    change _ < h.newCount
    omega
  obtain ⟨lead, y, rest, hlines, hy, hcount⟩ := exists_split hlt
  exact ⟨lead, y, rest, ⟨hlines, hy⟩, by omega⟩

end Hunk

/-! ### The counter at a line of a hunk -/

private theorem next_header_ok {h : Hunk} {next : Option String} {counter counter' : Option Int}
    (hok : (PatchLine.of h.header next).next counter = .ok counter') :
    rangeStart h.newStart h.newCount < readBound ∧
      counter' = some ((rangeStart h.newStart h.newCount : Int) - 1) := by
  rw [of_header, PatchLine.next] at hok
  cases hread : Number.readWhole (digitsOf (rangeStart h.newStart h.newCount)) with
  | error e => simp [hread, Except.map] at hok
  | ok start =>
      obtain ⟨rfl, hsize⟩ := (readWhole_digitsOf _ _).mp hread
      rw [hread] at hok
      exact ⟨hsize, (Except.ok.inj hok).symm⟩

private theorem next_header {h : Hunk} (hsize : rangeStart h.newStart h.newCount < readBound)
    (next : Option String) (counter : Option Int) :
    (PatchLine.of h.header next).next counter =
      .ok (some ((rangeStart h.newStart h.newCount : Int) - 1)) := by
  rw [of_header, PatchLine.next, (readWhole_digitsOf _ _).mpr ⟨rfl, hsize⟩]
  rfl

private theorem Hunk.text_eq (h : Hunk) : h.text = h.header :: h.lines.map lineText := rfl

private theorem counterAfter_hunks {hs : List Hunk}
    (hsize : ∀ h ∈ hs, rangeStart h.newStart h.newCount < readBound)
    (next : Option String) (counter : Option Int) :
    ∃ counter', counterAfter counter (readBefore next (hs.flatMap Hunk.text)) = .ok counter' := by
  induction hs generalizing counter with
  | nil => exact ⟨counter, rfl⟩
  | cons h hs ih =>
      have hhead := next_header (hsize h (by simp))
      rw [List.flatMap_cons, readBefore_append, Hunk.text_eq, readBefore, List.cons_append,
        counterAfter_cons _ (hhead _ counter)]
      obtain ⟨middle, hbody, _⟩ := counterAfter_lines ((hs.flatMap Hunk.text).head?.or next) h.lines
        (some ((rangeStart h.newStart h.newCount : Int) - 1))
      rw [counterAfter_append _ hbody]
      exact ih (fun g hg => hsize g (by simp [hg])) middle

private theorem counterAfter_at {before : List Hunk} {h : Hunk} {lead rest : List (Mark × String)}
    {y : Mark × String} (hat : h.At lead y rest)
    (hclear : (lead ++ [y]).IsChain fun a b => ¬ IsFileHead a b)
    (hbefore : ∀ g ∈ before, rangeStart g.newStart g.newCount < readBound)
    (hsize : h.newStart + 1 < readBound) (counter : Option Int) :
    counterAfter counter (readBefore (some (lineText y))
        (before.flatMap Hunk.text ++ h.header :: lead.map lineText)) =
      .ok (some (h.newStart + newCount lead)) := by
  obtain ⟨middle, hmiddle⟩ := counterAfter_hunks hbefore
    ((h.header :: lead.map lineText).head?.or (some (lineText y))) counter
  have hhead := next_header (h := h) (by rw [hat.rangeStart_eq]; exact hsize)
  rw [readBefore_append, counterAfter_append _ hmiddle, readBefore,
    counterAfter_cons _ (hhead _ middle), hat.rangeStart_eq,
    show ((h.newStart + 1 : Nat) : Int) - 1 = h.newStart by omega]
  exact (counterAfter_lines_eq _ lead y).1 hclear

/-- A clear line of a hunk whose header can be read, and its number in the new text. -/
structure Hunk.ReadAt (h : Hunk) (line : String) (n : Int) (lead : List (Mark × String))
    (y : Mark × String) (rest : List (Mark × String)) : Prop extends h.At lead y rest where
  line_eq : line = lineText y
  number_eq : n = h.newStart + Diff.newCount lead + 1
  clear : (lead ++ [y]).IsChain fun a b => ¬ IsFileHead a b
  readable : h.newStart + 1 < readBound

private theorem Hunk.ReadAt.line_eq_or {h : Hunk} {line : String} {n : Int} {y : Mark × String}
    {lead rest : List (Mark × String)} (hread : h.ReadAt line n lead y rest) :
    line = "+" ++ y.2 ∨ line = " " ++ y.2 := by
  have hshown := hread.shown
  rw [hread.line_eq, lineText]
  cases hmark : y.1 with
  | added => exact .inl rfl
  | kept => exact .inr rfl
  | removed => exact absurd hmark hshown

private theorem readAt_of_text {h : Hunk} {lead tail : List String} {line : String}
    {next : Option String} (htext : h.text = lead ++ line :: tail) {counter : Option Int} {c : Int}
    (hcount : counterAfter counter (readBefore (some line) lead) = .ok (some c))
    (hshown : PatchLine.of line next = .shown) :
    ∃ ls y rest, h.ReadAt line (c + 1) ls y rest := by
  cases lead with
  | nil =>
      obtain ⟨rfl, _⟩ := List.cons.inj htext
      rw [of_header] at hshown
      cases hshown
  | cons header lead =>
      obtain ⟨rfl, hbody⟩ := List.cons.inj htext
      obtain ⟨ls, ys, hlines, rfl, hys⟩ := List.map_eq_append_iff.mp hbody
      obtain ⟨y, rest, rfl, hy, _⟩ := List.map_eq_cons_iff.mp hys
      obtain rfl : lineText y = line := hy
      have hat : h.At ls y rest := by
        refine ⟨hlines, fun hremoved => ?_⟩
        rw [of_lineText_removed hremoved] at hshown
        split at hshown <;> cases hshown
      -- the header starts the counter, and the lines before `y` may lose it
      obtain ⟨middle, hhead, hcount⟩ := counterAfter_cons_ok hcount
      obtain ⟨hsize, rfl⟩ := next_header_ok hhead
      rw [hat.rangeStart_eq] at hsize hcount
      have hbranch := counterAfter_lines_eq (((h.newStart + 1 : Nat) : Int) - 1) ls y
      by_cases hclear : (ls ++ [y]).IsChain fun a b => ¬ IsFileHead a b
      · have heq := Option.some.inj (Except.ok.inj (hcount.symm.trans (hbranch.1 hclear)))
        exact ⟨ls, y, rest, hat, rfl, by omega, hclear, hsize⟩
      · cases Except.ok.inj (hcount.symm.trans (hbranch.2 hclear))

private theorem exists_readAt {hs : List Hunk} {lead tail : List String} {line : String}
    (hsplit : hs.flatMap Hunk.text = lead ++ line :: tail) {counter : Option Int} {c : Int}
    (hcount : counterAfter counter (readBefore (some line) lead) = .ok (some c))
    (hshown : PatchLine.of line tail.head? = .shown) :
    ∃ h ∈ hs, ∃ ls y rest, h.ReadAt line (c + 1) ls y rest := by
  induction hs generalizing lead counter with
  | nil => simp at hsplit
  | cons h hs ih =>
      rw [List.flatMap_cons] at hsplit
      -- a line behind the first hunk is one of the others
      have hlater : ∀ more, lead = h.text ++ more → hs.flatMap Hunk.text = more ++ line :: tail →
          ∃ g ∈ h :: hs, ∃ ls y rest, g.ReadAt line (c + 1) ls y rest := by
        rintro more rfl hmore
        rw [readBefore_append] at hcount
        obtain ⟨middle, _, hcount⟩ := counterAfter_append_ok hcount
        obtain ⟨g, hg, hread⟩ := ih hmore hcount
        exact ⟨g, List.mem_cons_of_mem _ hg, hread⟩
      rcases List.append_eq_append_iff.mp hsplit with ⟨more, hlead, hmore⟩ | ⟨more, htext, hmore⟩
      · exact hlater more hlead hmore
      · cases more with
        | nil => exact hlater [] (by simpa using htext.symm) (by simpa using hmore.symm)
        | cons l more =>
            obtain ⟨rfl, _⟩ := List.cons.inj hmore
            exact ⟨h, by simp, readAt_of_text htext hcount hshown⟩

/-! ### The lines of a patch -/

private theorem exists_readBefore {next : Option String} {ls : List String}
    {before after : List PatchLine} {p : PatchLine}
    (h : readBefore next ls = before ++ p :: after) :
    ∃ lead line tail, ls = lead ++ line :: tail ∧ before = readBefore (some line) lead ∧
      p = .of line (tail.head?.or next) := by
  induction before generalizing ls with
  | nil =>
      cases ls with
      | nil => cases h
      | cons l rest =>
          obtain ⟨hp, _⟩ := List.cons.inj h
          exact ⟨[], l, rest, rfl, rfl, hp.symm⟩
  | cons q before ih =>
      cases ls with
      | nil => cases h
      | cons l rest =>
          obtain ⟨hq, hrest⟩ := List.cons.inj h
          obtain ⟨lead, line, tail, rfl, rfl, hp⟩ := ih hrest
          refine ⟨l :: lead, line, tail, rfl, ?_, hp⟩
          rw [readBefore, ← hq, List.head?_append, Option.or_assoc]
          rfl

/-- The lines of a patch with hunks. -/
def written (filename : String) (hs : List Hunk) : List String :=
  ("--- a/" ++ filename) :: ("+++ b/" ++ filename) :: hs.flatMap Hunk.text

private theorem patchLines_eq (old new : List String) (filename : String) :
    patchLines old new filename =
      if hunks (script old new) = [] then [] else written filename (hunks (script old new)) := by
  rw [patchLines]
  split
  · rename_i hnil
    rw [if_pos hnil]
  · rename_i hne
    rw [if_neg hne, written]

private theorem readPatch_written (filename : String) (hs : List Hunk) :
    readPatch (written filename hs) =
      .boundary :: .shown :: readBefore none (hs.flatMap Hunk.text) := by
  have hold : "--- a/" ++ filename = lineText (.removed, "-- a/" ++ filename) := by
    rw [lineText, Mark.sign, ← String.append_assoc]
    rfl
  have hnew : "+++ b/" ++ filename = lineText (.added, "++ b/" ++ filename) := by
    rw [lineText, Mark.sign, ← String.append_assoc]
    rfl
  have hhead : IsFileHead (.removed, "-- a/" ++ filename) (.added, "++ b/" ++ filename) := by
    refine ⟨⟨rfl, ?_⟩, rfl, ?_⟩
    · rw [String.startsWith_string_iff, String.toList_append]
      exact ⟨_, rfl⟩
    · rw [String.startsWith_string_iff, String.toList_append]
      exact ⟨_, rfl⟩
  rw [readPatch_eq, written, hold, hnew, readBefore, List.head?_cons, Option.some_or,
    of_lineText_before _ _ rfl, if_pos hhead, readBefore, of_lineText_shown (by simp)]

/-- Reading stops at the line with index `i`: `n` is found with it and not before. -/
structure StopsAt (ps : List PatchLine) (n : Int) (i : Nat) : Prop where
  before : findLine n none (ps.take i) = .ok none
  here : findLine n none (ps.take (i + 1)) = .ok (some n)

private theorem exists_readAt_of_findLine {filename : String} {hs : List Hunk} {n m : Int}
    (h : findLine n none (readPatch (written filename hs)) = .ok (some m)) :
    m = n ∧ ∃ i line, (written filename hs)[i]? = some line ∧
      StopsAt (readPatch (written filename hs)) n i ∧
      ∃ g ∈ hs, ∃ ls y rest, g.ReadAt line n ls y rest := by
  obtain ⟨rfl, before, after, hps, hcount, hnone⟩ := exists_stop h
  refine ⟨rfl, before.length, ?_⟩
  have hstop : StopsAt (readPatch (written filename hs)) m before.length := by
    rw [hps]
    refine ⟨?_, ?_⟩
    · rw [List.take_left]
      exact hnone
    · rw [List.take_length_add_append]
      exact findLine_of_counterAfter [] hcount
  rw [readPatch_written] at hps
  -- the two opening lines set no counter
  cases before with
  | nil => cases hps
  | cons p before =>
      obtain ⟨rfl, hrest⟩ := List.cons.inj hps
      cases before with
      | nil => cases Except.ok.inj hcount
      | cons p before =>
          obtain ⟨rfl, hbody⟩ := List.cons.inj hrest
          obtain ⟨lead, line, tail, hlines, rfl, hshown⟩ := exists_readBefore hbody
          rw [Option.or_none] at hshown
          have hread := exists_readAt hlines hcount hshown.symm
          rw [Int.sub_add_cancel] at hread
          refine ⟨line, ?_, hstop, hread⟩
          rw [written, hlines, List.length_cons, List.length_cons, length_readBefore]
          simp

/-- A clear line of a hunk is found. -/
theorem findLine_written {filename : String} {before after : List Hunk} {h : Hunk} {n : Int}
    (hn : h.Covers n) (hclear : h.IsClear n)
    (hbefore : ∀ g ∈ before, rangeStart g.newStart g.newCount < readBound)
    (hsize : h.newStart + 1 < readBound) :
    findLine n none (readPatch (written filename (before ++ h :: after))) = .ok (some n) := by
  obtain ⟨lead, y, rest, hat, rfl⟩ := hn.exists_at
  have htext : (before ++ h :: after).flatMap Hunk.text =
      (before.flatMap Hunk.text ++ h.header :: lead.map lineText) ++
        lineText y :: (rest.map lineText ++ after.flatMap Hunk.text) := by
    rw [List.flatMap_append, List.flatMap_cons, Hunk.text_eq, hat.lines_eq]
    simp
  rw [readPatch_written, htext, readBefore_append, readBefore, of_lineText_shown hat.shown,
    List.head?_cons, Option.some_or]
  have hcount := counterAfter_at hat (hat.isClear_iff.mp hclear) hbefore hsize none
  exact findLine_of_counterAfter _ (by rw [hcount, Int.add_sub_cancel])

/-! ### Patches of texts -/

private theorem isLine_toString (n : Nat) : Text.IsLine (toString n) := by
  intro c hc
  rw [Nat.toString_eq_ofList_toDigits, String.toList_ofList] at hc
  have hrange := toNat_of_isDigit (Nat.isDigit_of_mem_toDigits (by decide) (by decide) hc)
  simp only [Text.isLineBoundary, Bool.or_eq_false_iff, Bool.and_eq_false_iff,
    decide_eq_false_iff_not, beq_eq_false_iff_ne]
  omega

private theorem isLine_range (start count : Nat) : Text.IsLine (Hunk.range start count) := by
  rw [Hunk.range]
  split
  · exact isLine_toString _
  · split
    · exact Text.isLine_append (isLine_toString _) (by decide)
    · exact Text.isLine_append (Text.isLine_append (isLine_toString _) (by decide))
        (isLine_toString _)

theorem Hunk.isLine_header (h : Hunk) : Text.IsLine h.header := by
  have hold := isLine_range h.oldStart h.oldCount
  have hnew := isLine_range h.newStart h.newCount
  exact Text.isLine_append (Text.isLine_append (Text.isLine_append (Text.isLine_append
    (by decide) hold) (by decide)) hnew) (by decide)

private theorem Hunk.isLine_text {h : Hunk} (hlines : ∀ x ∈ h.lines, Text.IsLine x.2) :
    ∀ l ∈ h.text, Text.IsLine l ∧ l ≠ "" := by
  rw [Hunk.text_eq, List.forall_mem_cons, List.forall_mem_map]
  refine ⟨⟨h.isLine_header, ?_⟩, fun x hx => ⟨Text.isLine_append ?_ (hlines x hx), ?_⟩⟩
  · simp [Hunk.header]
  · cases x.1 <;> decide
  · cases hx : x.1 <;> simp [lineText, Mark.sign, hx]

private theorem lines_patch {filename : String} (hfile : Text.IsLine filename) (old new : String) :
    Text.lines (patch old new filename) =
      patchLines (Text.lines old) (Text.lines new) filename := by
  have hlines : ∀ l ∈ patchLines (Text.lines old) (Text.lines new) filename,
      Text.IsLine l ∧ l ≠ "" := by
    rw [patchLines_eq]
    split
    · simp
    · simp only [written, List.forall_mem_cons]
      refine ⟨⟨Text.isLine_append (by decide) hfile, by simp⟩,
        ⟨Text.isLine_append (by decide) hfile, by simp⟩, fun l hl => ?_⟩
      obtain ⟨h, hh, hl⟩ := List.mem_flatMap.mp hl
      refine Hunk.isLine_text (hunks_lines ?_ ?_ hh) l hl
      · rw [script_oldLines]
        exact fun l => Text.isLine_of_mem_lines
      · rw [script_newLines]
        exact fun l => Text.isLine_of_mem_lines
  refine Text.lines_intercalate (fun l hl => (hlines l hl).1) fun hlast => ?_
  exact (hlines "" (List.mem_of_getLast? hlast)).2 rfl

/-- What is found in the patch of two texts is a clear line of one of its hunks. -/
theorem exists_readAt_of_shownLine? {filename : String} (hfile : Text.IsLine filename)
    {old new : String} {n m : Int} (h : shownLine? (patch old new filename) n = .ok (some m)) :
    m = n ∧ ∃ i line, (Text.lines (patch old new filename))[i]? = some line ∧
      StopsAt (readPatch (Text.lines (patch old new filename))) n i ∧
      ∃ g ∈ hunks (script (Text.lines old) (Text.lines new)),
        ∃ ls y rest, g.ReadAt line n ls y rest := by
  rw [shownLine?, lines_patch hfile] at h
  rw [lines_patch hfile]
  split at h
  · cases h
  · rw [patchLines_eq] at h ⊢
    split at h
    · cases h
    · rename_i hne
      rw [if_neg hne]
      exact exists_readAt_of_findLine h

/-- The line that is found is line `n` of the new text, a hunk covers it, and reading stops at the
line of the patch that shows it. -/
theorem shownLine?_patch_shows {filename : String} (hfile : Text.IsLine filename)
    {old new : String} {n m : Int} (h : shownLine? (patch old new filename) n = .ok (some m)) :
    m = n ∧ 1 ≤ n ∧ n ≤ (Text.lines new).length ∧
      (∃ g ∈ hunks (script (Text.lines old) (Text.lines new)), g.Covers n) ∧
      ∃ i l line, StopsAt (readPatch (Text.lines (patch old new filename))) n i ∧
        (Text.lines (patch old new filename))[i]? = some line ∧
        (Text.lines new)[(n - 1).toNat]? = some l ∧ (line = "+" ++ l ∨ line = " " ++ l) := by
  obtain ⟨rfl, i, line, hline, hstop, g, hg, lead, y, rest, hread⟩ :=
    exists_readAt_of_shownLine? hfile h
  have hn := hread.number_eq
  have hcovers : g.Covers m := hn ▸ hread.covers
  have hshows : g.Shows (Text.lines new) := by
    have := hunks_shows hg
    rwa [script_newLines] at this
  have hend := hshows.newStart_add_newCount_le
  refine ⟨rfl, ?_, ?_, ⟨g, hg, hcovers⟩, i, y.2, line, hstop, hline, ?_, hread.line_eq_or⟩
  · omega
  · have := hcovers.2
    omega
  · rw [show (m - 1).toNat = g.newStart + newCount lead by omega]
    exact hshows.getElem? hread.newLines_getElem?

theorem shownLine?_shows_added_line :
    shownLine? (patch "a\nb" "a\nB" "f") 2 = .ok (some 2) ∧
      ∃ i l line, StopsAt (readPatch (Text.lines (patch "a\nb" "a\nB" "f"))) 2 i ∧
        (Text.lines (patch "a\nb" "a\nB" "f"))[i]? = some line ∧
        (Text.lines "a\nB")[1]? = some l ∧ (line = "+" ++ l ∨ line = " " ++ l) := by
  have h : shownLine? (patch "a\nb" "a\nB" "f") 2 = .ok (some 2) := by decide +kernel
  exact ⟨h, (shownLine?_patch_shows (by decide) h).2.2.2.2⟩

/-- A line is found exactly when a hunk covers it whose lines up to it are clear and whose place can
be read, and every added line is covered. -/
theorem shownLine?_patch_iff {filename : String} (hfile : Text.IsLine filename)
    (old new : String) :
    (∀ n, shownLine? (patch old new filename) n = .ok (some n) ↔
      ∃ h ∈ hunks (script (Text.lines old) (Text.lines new)),
        h.Covers n ∧ h.IsClear n ∧ h.newStart + 1 < readBound) ∧
    ∀ lead rest removed added,
      script (Text.lines old) (Text.lines new) = lead ++ .change removed added :: rest →
      ∀ n : Int, (lead.flatMap Run.newLines).length < n →
        n ≤ (lead.flatMap Run.newLines).length + added.length →
        ∃ h ∈ hunks (script (Text.lines old) (Text.lines new)), h.Covers n := by
  refine ⟨fun n => ⟨fun h => ?_, ?_⟩, fun lead rest removed added hscript n hlo hhi => ?_⟩
  · obtain ⟨_, i, line, _, _, g, hg, ls, y, rest, hread⟩ := exists_readAt_of_shownLine? hfile h
    rw [hread.number_eq]
    exact ⟨g, hg, hread.covers, hread.isClear_iff.mpr hread.clear, hread.readable⟩
  · rintro ⟨h, hh, hcovers, hclear, hsize⟩
    have hpos : ¬ n < 1 := by
      have := hcovers.1
      omega
    have hne := List.ne_nil_of_mem hh
    have hordered := hunks_pairwise (script (Text.lines old) (Text.lines new))
    rw [shownLine?, if_neg hpos, lines_patch hfile, patchLines_eq, if_neg hne]
    obtain ⟨before, after, hsplit⟩ := List.append_of_mem hh
    rw [hsplit] at hordered ⊢
    refine findLine_written hcovers hclear (fun g hg => ?_) hsize
    -- the hunks before `h` start before it
    have hle : g.newStart + g.newCount ≤ h.newStart :=
      (List.pairwise_append.mp hordered).2.2 g hg h (by simp)
    rw [rangeStart]
    split <;> omega
  · rw [hscript]
    exact hunks_covers_added hlo hhi

theorem shownLine?_finds_changed_line :
    shownLine? (patch "a\nb\nc" "a\nB\nc" "f") 2 = .ok (some 2) := by
  apply ((shownLine?_patch_iff (by decide) "a\nb\nc" "a\nB\nc").1 2).mpr
  decide +kernel

theorem shownLine?_loses_covered_line :
    (∃ h ∈ hunks (script (Text.lines "-- a\nx") (Text.lines "++ b\nx")), h.Covers 2) ∧
      shownLine? (patch "-- a\nx" "++ b\nx" "f") 2 = .ok none := by
  decide +kernel

end PullReview.Diff
