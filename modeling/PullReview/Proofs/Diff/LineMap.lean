import PullReview.Proofs.Diff.Header
import PullReview.Proofs.Diff.Hunk
import PullReview.Proofs.Text.Lines

/-!
# The counter of a patch's reader

A line is found where the counter of new lines comes to it. Over the lines of a hunk the counter
counts what is kept or added, unless a removed line and the added line behind it read like the head
of another file: from there to the next hunk there is no counter.
-/

namespace PullReview.Diff

/-! ### The counter -/

/-- The counter after a line of a patch. -/
def PatchLine.next (counter : Option Int) :
    PatchLine → Except Number.TooManyDigits (Option Int)
  | .header ds => (Number.readWhole ds).map fun start => some ((start : Int) - 1)
  | .boundary => .ok none
  | .shown => .ok (counter.map (· + 1))
  | .hidden => .ok counter

/-- The counter after some lines of a patch. -/
def counterAfter (counter : Option Int) (ps : List PatchLine) :
    Except Number.TooManyDigits (Option Int) :=
  ps.foldlM PatchLine.next counter

theorem counterAfter_cons {counter counter' : Option Int} {p : PatchLine} (ps : List PatchLine)
    (h : p.next counter = .ok counter') :
    counterAfter counter (p :: ps) = counterAfter counter' ps := by
  rw [counterAfter, List.foldlM_cons, h]
  rfl

theorem counterAfter_append {counter counter' : Option Int} {ps : List PatchLine}
    (qs : List PatchLine) (h : counterAfter counter ps = .ok counter') :
    counterAfter counter (ps ++ qs) = counterAfter counter' qs := by
  rw [counterAfter] at h
  rw [counterAfter, List.foldlM_append, h]
  rfl

theorem counterAfter_append_ok {counter final : Option Int} {ps qs : List PatchLine}
    (h : counterAfter counter (ps ++ qs) = .ok final) :
    ∃ middle, counterAfter counter ps = .ok middle ∧ counterAfter middle qs = .ok final := by
  rw [counterAfter, List.foldlM_append] at h
  cases hps : ps.foldlM PatchLine.next counter with
  | error e => rw [hps] at h; cases h
  | ok middle => rw [hps] at h; exact ⟨middle, hps, h⟩

theorem counterAfter_cons_ok {counter final : Option Int} {p : PatchLine} {ps : List PatchLine}
    (h : counterAfter counter (p :: ps) = .ok final) :
    ∃ middle, p.next counter = .ok middle ∧ counterAfter middle ps = .ok final := by
  rw [counterAfter, List.foldlM_cons] at h
  cases hp : p.next counter with
  | error e => rw [hp] at h; cases h
  | ok middle => rw [hp] at h; exact ⟨middle, rfl, h⟩

theorem readWhole_cases (ds : List Nat) :
    (Number.digitLimit < ds.length ∧ Number.readWhole ds = .error ⟨ds.length⟩) ∨
      (¬ Number.digitLimit < ds.length ∧ Number.readWhole ds = .ok (Number.wholeOfDigits ds)) := by
  by_cases h : Number.digitLimit < ds.length
  · exact .inl ⟨h, if_pos h⟩
  · exact .inr ⟨h, if_neg h⟩

/-- What the search does at a line of a patch: it ends there with the line, it fails at a header
that cannot be read, or it goes on with the counter after the line. -/
theorem findLine_cons_cases (n : Int) (counter : Option Int) (p : PatchLine) :
    (p = .shown ∧ counter = some (n - 1) ∧
      ∀ ps, findLine n counter (p :: ps) = .ok (some n)) ∨
    (∃ ds, p = .header ds ∧ Number.digitLimit < ds.length ∧
      p.next counter = .error ⟨ds.length⟩ ∧
      ∀ ps, findLine n counter (p :: ps) = .error ⟨ds.length⟩) ∨
    ∃ counter', p.next counter = .ok counter' ∧
      ∀ ps, findLine n counter (p :: ps) = findLine n counter' ps := by
  cases p with
  | header ds =>
      rcases readWhole_cases ds with ⟨hlong, hread⟩ | ⟨-, hread⟩
      · refine .inr (.inl ⟨ds, rfl, hlong, ?_, fun ps => ?_⟩)
        · rw [PatchLine.next, hread]
          rfl
        · rw [findLine, hread]
      · refine .inr (.inr ⟨some ((Number.wholeOfDigits ds : Int) - 1), ?_, fun ps => ?_⟩)
        · rw [PatchLine.next, hread]
          rfl
        · rw [findLine, hread]
  | boundary => exact .inr (.inr ⟨none, rfl, fun _ => rfl⟩)
  | hidden => exact .inr (.inr ⟨counter, rfl, fun _ => rfl⟩)
  | shown =>
      cases counter with
      | none => exact .inr (.inr ⟨none, rfl, fun _ => rfl⟩)
      | some c =>
          by_cases hhit : c + 1 = n
          · refine .inl ⟨rfl, by rw [← hhit, Int.add_sub_cancel], fun ps => ?_⟩
            rw [findLine, if_pos (beq_iff_eq.mpr hhit)]
          · refine .inr (.inr ⟨some (c + 1), rfl, fun ps => ?_⟩)
            rw [findLine, if_neg (fun h => hhit (beq_iff_eq.mp h))]

/-- A line is found at the latest where the counter comes to it. -/
theorem findLine_of_counterAfter {n : Int} {counter : Option Int} {ps : List PatchLine}
    (qs : List PatchLine) (h : counterAfter counter ps = .ok (some (n - 1))) :
    findLine n counter (ps ++ .shown :: qs) = .ok (some n) := by
  induction ps generalizing counter with
  | nil =>
      obtain rfl : counter = some (n - 1) := Except.ok.inj h
      simp [findLine]
  | cons p ps ih =>
      obtain ⟨middle, hp, hps⟩ := counterAfter_cons_ok h
      rw [List.cons_append]
      rcases findLine_cons_cases n counter p with
        ⟨-, -, hstop⟩ | ⟨ds, -, -, hfail, -⟩ | ⟨counter', hp', hon⟩
      · exact hstop _
      · cases hp.symm.trans hfail
      · obtain rfl : middle = counter' := Except.ok.inj (hp.symm.trans hp')
        rw [hon, ih hps]

/-- A line that is found is found at a shown line, where the counter comes to it, and not before. -/
theorem exists_stop {n m : Int} {counter : Option Int} {ps : List PatchLine}
    (h : findLine n counter ps = .ok (some m)) :
    m = n ∧ ∃ before after, ps = before ++ .shown :: after ∧
      counterAfter counter before = .ok (some (n - 1)) ∧
      findLine n counter before = .ok none := by
  induction ps generalizing counter with
  | nil => simp [findLine] at h
  | cons p ps ih =>
      rcases findLine_cons_cases n counter p with
        ⟨rfl, rfl, hstop⟩ | ⟨ds, -, -, -, hfail⟩ | ⟨counter', hp, hon⟩
      · rw [hstop] at h
        exact ⟨(Option.some.inj (Except.ok.inj h)).symm, [], ps, rfl, rfl, rfl⟩
      · rw [hfail] at h
        cases h
      · rw [hon] at h
        obtain ⟨hm, before, after, rfl, hcount, hnone⟩ := ih h
        refine ⟨hm, p :: before, after, rfl, ?_, ?_⟩
        · rw [counterAfter_cons before hp, hcount]
        · rw [hon, hnone]

/-! ### Headers that cannot be read -/

/-- A patch with a header whose start has more digits than a number may have. -/
def HasLongHeader (patch : String) : Prop :=
  ∃ line ∈ Text.lines patch, ∃ start, headerStart? line.toList = some start ∧
    Number.digitLimit < start.length

/-- A search that fails stops at a header that cannot be read, and has found nothing before it. -/
theorem exists_failure {n : Int} {counter : Option Int} {ps : List PatchLine}
    {e : Number.TooManyDigits} (h : findLine n counter ps = .error e) :
    ∃ before ds after, ps = before ++ .header ds :: after ∧ Number.digitLimit < ds.length ∧
      e.count = ds.length ∧ findLine n counter before = .ok none := by
  induction ps generalizing counter with
  | nil => cases h
  | cons p ps ih =>
      rcases findLine_cons_cases n counter p with
        ⟨-, -, hstop⟩ | ⟨ds, rfl, hlong, -, hfail⟩ | ⟨counter', -, hon⟩
      · rw [hstop] at h
        cases h
      · rw [hfail] at h
        obtain rfl := Except.error.inj h
        exact ⟨[], ds, ps, rfl, hlong, rfl, rfl⟩
      · rw [hon] at h
        obtain ⟨before, ds, after, rfl, hlong, hcount, hnone⟩ := ih h
        exact ⟨p :: before, ds, after, rfl, hlong, hcount, (hon before).trans hnone⟩

private theorem exists_line_of_header {ls : List String} {ds : List Nat}
    (h : .header ds ∈ readPatch ls) : ∃ line ∈ ls, headerStart? line.toList = some ds := by
  induction ls with
  | nil => cases h
  | cons l ls ih =>
      rw [readPatch] at h
      rcases List.mem_cons.mp h with h | h
      · refine ⟨l, List.mem_cons_self, ?_⟩
        rw [PatchLine.of] at h
        split at h
        · cases hstart : headerStart? l.toList with
          | none => rw [hstart] at h; cases h
          | some start => rw [hstart] at h; cases h; rfl
        · split at h
          · cases h
          · split at h
            · cases h
            · split at h <;> cases h
      · obtain ⟨line, hline, hstart⟩ := ih h
        exact ⟨line, List.mem_cons_of_mem _ hline, hstart⟩

/-- Only such a header keeps a patch from being read. -/
theorem hasLongHeader_of_error {patch : String} {n : Int} {e : Number.TooManyDigits}
    (h : shownLine? patch n = .error e) : HasLongHeader patch := by
  rw [shownLine?] at h
  split at h
  · cases h
  · obtain ⟨before, ds, after, hps, hlong, -⟩ := exists_failure h
    have hds : PatchLine.header ds ∈ readPatch (Text.lines patch) := by simp [hps]
    obtain ⟨line, hline, hstart⟩ := exists_line_of_header hds
    exact ⟨line, hline, ds, hstart, hlong⟩

/-- A line that is found is the line that was looked for. -/
theorem eq_of_shownLine? {patch : String} {n m : Int} (h : shownLine? patch n = .ok (some m)) :
    m = n := by
  rw [shownLine?] at h
  split at h
  · cases h
  · exact (exists_stop h).1

/-! ### Lines of a hunk -/

/-- What the lines of a piece of a patch do, given the line behind them. -/
def readBefore (next : Option String) : List String → List PatchLine
  | [] => []
  | l :: rest => .of l (rest.head?.or next) :: readBefore next rest

theorem readPatch_eq (ls : List String) : readPatch ls = readBefore none ls := by
  induction ls with
  | nil => rfl
  | cons l rest ih => rw [readPatch, readBefore, ih, Option.or_none]

theorem readBefore_append (next : Option String) (xs ys : List String) :
    readBefore next (xs ++ ys) = readBefore (ys.head?.or next) xs ++ readBefore next ys := by
  induction xs with
  | nil => rfl
  | cons x xs ih =>
      rw [List.cons_append, readBefore, readBefore, ih, List.head?_append, Option.or_assoc]
      rfl

theorem length_readBefore (next : Option String) (ls : List String) :
    (readBefore next ls).length = ls.length := by
  induction ls with
  | nil => rfl
  | cons l rest ih => rw [readBefore, List.length_cons, ih, List.length_cons]

/-- The text of a line of a hunk. -/
def lineText (x : Mark × String) : String := x.1.sign ++ x.2

/-- A removed line and the added line behind it that read like the head of another file. -/
def IsFileHead (x y : Mark × String) : Prop :=
  (x.1 = .removed ∧ x.2.startsWith "-- ") ∧ y.1 = .added ∧ y.2.startsWith "++ "

instance IsFileHead.decidable (x y : Mark × String) : Decidable (IsFileHead x y) :=
  inferInstanceAs (Decidable (_ ∧ _))

private theorem startsWith_lineText (m : Mark) (l t : String) :
    (lineText (m, l)).startsWith t = t.toList.isPrefixOf (m.sign.toList ++ l.toList) := by
  rw [Bool.eq_iff_iff, String.startsWith_string_iff, List.isPrefixOf_iff_prefix, lineText,
    String.toList_append]

private theorem isPrefixOf_toList (t l : String) :
    t.toList.isPrefixOf l.toList = l.startsWith t := by
  rw [Bool.eq_iff_iff, String.startsWith_string_iff, List.isPrefixOf_iff_prefix]

theorem of_lineText_shown {x : Mark × String} (h : x.1 ≠ .removed) (next : Option String) :
    PatchLine.of (lineText x) next = .shown := by
  obtain ⟨m, l⟩ := x
  cases m with
  | removed => exact absurd rfl h
  | kept => simp [PatchLine.of, startsWith_lineText, Mark.sign, List.isPrefixOf]
  | added => simp [PatchLine.of, startsWith_lineText, Mark.sign, List.isPrefixOf]

theorem of_lineText_removed {x : Mark × String} (h : x.1 = .removed) (next : Option String) :
    PatchLine.of (lineText x) next =
      if x.2.startsWith "-- " ∧ next.any (·.startsWith "+++ ") then .boundary else .hidden := by
  obtain ⟨m, l⟩ := x
  obtain rfl : m = .removed := h
  have hempty : (lineText (.removed, l) == "") = false := by
    rw [beq_eq_false_iff_ne]
    intro heq
    have := congrArg String.toList heq
    simp [lineText, Mark.sign] at this
  have hhead : (lineText (.removed, l)).startsWith "--- " = l.startsWith "-- " := by
    rw [startsWith_lineText, ← isPrefixOf_toList]
    simp [Mark.sign]
  simp [PatchLine.of, hempty, hhead, startsWith_lineText, Mark.sign, List.isPrefixOf]

private theorem lineText_startsWith_plus (y : Mark × String) :
    (lineText y).startsWith "+++ " ↔ y.1 = .added ∧ y.2.startsWith "++ " := by
  obtain ⟨m, l⟩ := y
  rw [startsWith_lineText, ← isPrefixOf_toList]
  cases m <;> simp [Mark.sign, List.isPrefixOf]

theorem of_lineText_before (x y : Mark × String) (h : x.1 = .removed) :
    PatchLine.of (lineText x) (some (lineText y)) =
      if IsFileHead x y then .boundary else .hidden := by
  rw [of_lineText_removed h]
  have hiff : (x.2.startsWith "-- " ∧ (some (lineText y)).any (·.startsWith "+++ ")) ↔
      IsFileHead x y := by
    simp only [Option.any_some, lineText_startsWith_plus, IsFileHead, h, true_and]
  simp only [hiff]

/-! ### The counter in a hunk -/

/-- The number of lines of the new text among the lines of a hunk. -/
def newCount (ls : List (Mark × String)) : Nat := ls.countP (·.1 != .removed)

private theorem next_lineText {x : Mark × String} {next : Option String} (counter : Option Int) :
    ∃ counter', (PatchLine.of (lineText x) next).next counter = .ok counter' ∧
      (counter = none → counter' = none) := by
  by_cases hx : x.1 = .removed
  · rw [of_lineText_removed hx]
    split
    · exact ⟨none, rfl, fun _ => rfl⟩
    · exact ⟨counter, rfl, id⟩
  · rw [of_lineText_shown hx]
    exact ⟨counter.map (· + 1), rfl, fun h => by rw [h]; rfl⟩

/-- Lines of a hunk never fail, and without a counter they do not start one. -/
theorem counterAfter_lines (next : Option String) (ls : List (Mark × String))
    (counter : Option Int) :
    ∃ counter', counterAfter counter (readBefore next (ls.map lineText)) = .ok counter' ∧
      (counter = none → counter' = none) := by
  induction ls generalizing counter with
  | nil => exact ⟨counter, rfl, id⟩
  | cons x ls ih =>
      obtain ⟨middle, hx, hnone⟩ := next_lineText counter
      obtain ⟨final, hrest, hnone'⟩ := ih middle
      rw [List.map_cons, readBefore, counterAfter_cons _ hx]
      exact ⟨final, hrest, fun h => hnone' (hnone h)⟩

/-- Up to a line of a hunk the counter counts new lines, and it is lost exactly when two of the
lines read like the head of another file. -/
theorem counterAfter_lines_eq (c : Int) (ls : List (Mark × String)) (y : Mark × String) :
    ((ls ++ [y]).IsChain (fun a b => ¬ IsFileHead a b) →
      counterAfter (some c) (readBefore (some (lineText y)) (ls.map lineText)) =
        .ok (some (c + newCount ls))) ∧
    (¬ (ls ++ [y]).IsChain (fun a b => ¬ IsFileHead a b) →
      counterAfter (some c) (readBefore (some (lineText y)) (ls.map lineText)) = .ok none) := by
  induction ls generalizing c with
  | nil =>
      refine ⟨fun _ => ?_, fun h => absurd (by simp) h⟩
      simp only [newCount, List.countP_nil, Int.ofNat_zero, Int.add_zero]
      rfl
  | cons x ls ih =>
      -- the line behind `x`, in the hunk and in its text
      obtain ⟨z, rest, hz, hnext⟩ : ∃ z rest, ls ++ [y] = z :: rest ∧
          (ls.map lineText).head?.or (some (lineText y)) = some (lineText z) := by
        cases ls with
        | nil => exact ⟨y, [], rfl, rfl⟩
        | cons z rest => exact ⟨z, rest ++ [y], rfl, rfl⟩
      have hchain : (x :: ls ++ [y]).IsChain (fun a b => ¬ IsFileHead a b) ↔
          ¬ IsFileHead x z ∧ (ls ++ [y]).IsChain (fun a b => ¬ IsFileHead a b) := by
        rw [List.cons_append, hz, List.isChain_cons_cons]
      rw [hchain, List.map_cons, readBefore, hnext]
      by_cases hx : x.1 = .removed
      · have hcount : newCount (x :: ls) = newCount ls := by simp [newCount, hx]
        rw [of_lineText_before x z hx, hcount]
        by_cases hhead : IsFileHead x z
        · rw [if_pos hhead, counterAfter_cons _ rfl]
          refine ⟨fun h => absurd hhead h.1, fun _ => ?_⟩
          obtain ⟨final, hfinal, hnone⟩ := counterAfter_lines (some (lineText y)) ls none
          rw [hfinal, hnone rfl]
        · rw [if_neg hhead, counterAfter_cons _ rfl]
          exact ⟨fun h => (ih c).1 h.2, fun h => (ih c).2 fun hrest => h ⟨hhead, hrest⟩⟩
      · have hcount : (newCount (x :: ls) : Int) = 1 + newCount ls := by
          simp only [newCount, List.countP_cons, bne_iff_ne, ne_eq, hx, not_false_eq_true, if_true]
          omega
        have hhead : ¬ IsFileHead x z := fun h => hx h.1.1
        rw [of_lineText_shown hx, counterAfter_cons _ rfl, hcount, ← Int.add_assoc]
        exact ⟨fun h => (ih (c + 1)).1 h.2, fun h => (ih (c + 1)).2 fun hrest => h ⟨hhead, hrest⟩⟩

end PullReview.Diff
