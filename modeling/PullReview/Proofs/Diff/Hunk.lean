import PullReview.Diff.Hunk
import PullReview.Proofs.Diff.Script

/-!
# Hunks show the new text

A hunk shows consecutive lines of the new text at the place it names, the hunks of a patch come in
the order of the text and do not meet, and every added line is in one of them.
-/

namespace PullReview.Diff

namespace Hunk

/-- The lines of the new text that a hunk shows. -/
def newLines (h : Hunk) : List String := (h.lines.filter (·.1 != .removed)).map (·.2)

/-- Line `n` of the new text, counted from one, is in the range of the new side. -/
def Covers (h : Hunk) (n : Int) : Prop := h.newStart < n ∧ n ≤ h.newStart + h.newCount

instance Covers.decidable (h : Hunk) (n : Int) : Decidable (h.Covers n) :=
  inferInstanceAs (Decidable (_ ∧ _))

private theorem length_newLines (h : Hunk) : h.newLines.length = h.newCount := by
  rw [newLines, List.length_map, newCount, List.countP_eq_length_filter]

private theorem newLines_keep (h : Hunk) (ls : List String) :
    (h.keep ls).newLines = h.newLines ++ ls := by
  have hkept : (ls.map fun l => (Mark.kept, l)).filter (·.1 != .removed) =
      ls.map fun l => (Mark.kept, l) := by
    simp [List.filter_eq_self]
  simp only [newLines, keep, List.filter_append, hkept, List.map_append, List.map_map]
  exact congrArg _ (List.map_id ls)

private theorem newLines_replace (h : Hunk) (removed added : List String) :
    (h.replace removed added).newLines = h.newLines ++ added := by
  have hremoved : (removed.map fun l => (Mark.removed, l)).filter (·.1 != .removed) = [] := by
    simp [List.filter_eq_nil_iff]
  have hadded : (added.map fun l => (Mark.added, l)).filter (·.1 != .removed) =
      added.map fun l => (Mark.added, l) := by
    simp [List.filter_eq_self]
  simp only [newLines, replace, List.filter_append, hremoved, hadded, List.append_nil,
    List.map_append, List.map_map]
  exact congrArg _ (List.map_id added)

/-- The new lines of the hunk are the lines of `before` from its start on. -/
structure EndsAt (h : Hunk) (before : List String) : Prop where
  start_le : h.newStart ≤ before.length
  newLines_eq : h.newLines = before.drop h.newStart

namespace EndsAt

variable {h : Hunk} {before : List String}

private theorem newStart_add_newCount (hends : h.EndsAt before) :
    h.newStart + h.newCount = before.length := by
  have hstart := hends.start_le
  rw [← length_newLines, hends.newLines_eq, List.length_drop]
  omega

private theorem extend {g : Hunk} {ls : List String} (hends : h.EndsAt before)
    (hstart : g.newStart = h.newStart) (hlines : g.newLines = h.newLines ++ ls) :
    g.EndsAt (before ++ ls) := by
  refine ⟨?_, ?_⟩
  · rw [hstart, List.length_append]
    exact Nat.le_add_right_of_le hends.start_le
  · rw [hlines, hstart, List.drop_append_of_le_length hends.start_le, hends.newLines_eq]

theorem keep (hends : h.EndsAt before) (ls : List String) : (h.keep ls).EndsAt (before ++ ls) :=
  hends.extend rfl (newLines_keep h ls)

theorem replace (hends : h.EndsAt before) (removed added : List String) :
    (h.replace removed added).EndsAt (before ++ added) :=
  hends.extend rfl (newLines_replace h removed added)

end EndsAt

/-- A hunk with a whole run at its end. -/
def absorb (h : Hunk) : Run → Hunk
  | .same shared => h.keep shared
  | .change removed added => h.replace removed added

theorem EndsAt.absorb {h : Hunk} {before : List String} (hends : h.EndsAt before) :
    (r : Run) → (h.absorb r).EndsAt (before ++ r.newLines)
  | .same shared => hends.keep shared
  | .change removed added => hends.replace removed added

private theorem newStart_absorb (h : Hunk) (r : Run) : (h.absorb r).newStart = h.newStart := by
  cases r <;> rfl

/-- The hunk shows consecutive lines of `new` at the place it names. -/
def Shows (h : Hunk) (new : List String) : Prop := ∃ before, before <+: new ∧ h.EndsAt before

namespace Shows

variable {h : Hunk} {new : List String}

theorem newStart_add_newCount_le (hshows : h.Shows new) :
    h.newStart + h.newCount ≤ new.length := by
  obtain ⟨before, hprefix, hends⟩ := hshows
  rw [hends.newStart_add_newCount]
  exact hprefix.length_le

theorem getElem? {t : Nat} {l : String} (hshows : h.Shows new) (hl : h.newLines[t]? = some l) :
    new[h.newStart + t]? = some l := by
  obtain ⟨before, ⟨rest, rfl⟩, hends⟩ := hshows
  rw [hends.newLines_eq, List.getElem?_drop] at hl
  rw [List.getElem?_append_left (List.getElem?_eq_some_iff.mp hl).1]
  exact hl

end Shows

end Hunk

/-! ### The hunks of the rest of a script -/

private theorem openAfter_newStart (i j : Nat) (shared : List String) :
    (openAfter i (j + shared.length) shared).newStart = j + (shared.length - context) := by
  simp only [openAfter, Hunk.keep, List.length_drop]
  omega

private theorem openAfter_endsAt (i : Nat) (before shared : List String) :
    (openAfter i (before.length + shared.length) shared).EndsAt (before ++ shared) := by
  refine ⟨?_, ?_⟩
  · rw [openAfter_newStart, List.length_append]
    omega
  · rw [openAfter_newStart, List.drop_append, List.drop_of_length_le (Nat.le_add_right _ _),
      Nat.add_sub_cancel_left, openAfter, Hunk.newLines_keep]
    rfl

private theorem openAfter_lines {P : String → Prop} {i j : Nat} {shared : List String}
    (h : ∀ l ∈ shared, P l) : ∀ x ∈ (openAfter i j shared).lines, P x.2 := by
  simp only [openAfter, Hunk.keep, List.nil_append, List.forall_mem_map]
  exact fun l hl => h l (List.mem_of_mem_drop hl)

/-- Shared lines close the hunk being built if no run follows, or if there are too many of them;
any other run it absorbs. -/
private theorem hunksFrom_cons_cases (i j : Nat) (h : Hunk) (r : Run) (rest : List Run) :
    (∃ shared, r = .same shared ∧ rest = [] ∧
      hunksFrom i j h (r :: rest) = [h.keep (shared.take context)]) ∨
    (∃ shared i', r = .same shared ∧ 2 * context < shared.length ∧
      hunksFrom i j h (r :: rest) = h.keep (shared.take context) ::
        hunksFrom i' (j + shared.length) (openAfter i' (j + shared.length) shared) rest) ∨
    ∃ i', hunksFrom i j h (r :: rest) =
      hunksFrom i' (j + r.newLines.length) (h.absorb r) rest := by
  cases r with
  | change removed added => exact .inr (.inr ⟨i + removed.length, rfl⟩)
  | same shared =>
      rw [hunksFrom]
      split
      · rename_i hlast
        exact .inl ⟨shared, rfl, List.isEmpty_iff.mp hlast, rfl⟩
      · split
        · rename_i hlong
          exact .inr (.inl ⟨shared, i + shared.length, rfl, hlong, rfl⟩)
        · exact .inr (.inr ⟨i + shared.length, rfl⟩)

private theorem shows_keep_take {h : Hunk} {before : List String} (hends : h.EndsAt before)
    (n : Nat) (shared more : List String) :
    (h.keep (shared.take n)).Shows (before ++ shared ++ more) := by
  refine ⟨_, ?_, hends.keep (shared.take n)⟩
  rw [List.append_assoc, List.prefix_append_right_inj]
  exact (List.take_prefix _ _).trans (List.prefix_append _ _)

private theorem hunksFrom_shows {i : Nat} {h g : Hunk} {before : List String} {runs : List Run}
    (hends : h.EndsAt before) (hg : g ∈ hunksFrom i before.length h runs) :
    g.Shows (before ++ runs.flatMap Run.newLines) := by
  induction runs generalizing i h before with
  | nil =>
      obtain rfl := List.mem_singleton.mp hg
      exact ⟨before, List.prefix_append _ _, hends⟩
  | cons r rest ih =>
      rw [List.flatMap_cons, ← List.append_assoc]
      rcases hunksFrom_cons_cases i before.length h r rest with
        ⟨shared, rfl, -, heq⟩ | ⟨shared, i', rfl, -, heq⟩ | ⟨i', heq⟩
      · rw [heq] at hg
        obtain rfl := List.mem_singleton.mp hg
        exact shows_keep_take hends _ shared _
      · rw [heq] at hg
        rcases List.mem_cons.mp hg with rfl | hg
        · exact shows_keep_take hends _ shared _
        · have hopen := openAfter_endsAt i' before shared
          rw [← List.length_append] at hopen hg
          exact ih hopen hg
      · rw [heq, ← List.length_append] at hg
        exact ih (hends.absorb r) hg

/-- Two hunks in the order of the text. -/
def Hunk.Before (g h : Hunk) : Prop := g.newStart + g.newCount ≤ h.newStart

private theorem hunksFrom_newStart_le {i : Nat} {h g : Hunk} {before : List String}
    {runs : List Run} (hends : h.EndsAt before) (hg : g ∈ hunksFrom i before.length h runs) :
    h.newStart ≤ g.newStart := by
  induction runs generalizing i h before with
  | nil =>
      obtain rfl := List.mem_singleton.mp hg
      exact Nat.le_refl _
  | cons r rest ih =>
      rcases hunksFrom_cons_cases i before.length h r rest with
        ⟨shared, -, -, heq⟩ | ⟨shared, i', -, -, heq⟩ | ⟨i', heq⟩
      · rw [heq] at hg
        obtain rfl := List.mem_singleton.mp hg
        exact Nat.le_refl _
      · rw [heq] at hg
        rcases List.mem_cons.mp hg with rfl | hg
        · exact Nat.le_refl _
        · have hopen := openAfter_endsAt i' before shared
          have hstart := openAfter_newStart i' before.length shared
          have hle := hends.start_le
          rw [← List.length_append] at hopen hstart hg
          have hnext := ih hopen hg
          omega
      · rw [heq, ← List.length_append] at hg
        have hnext := ih (hends.absorb r) hg
        rwa [Hunk.newStart_absorb] at hnext

private theorem hunksFrom_pairwise {i : Nat} {h : Hunk} {before : List String} {runs : List Run}
    (hends : h.EndsAt before) : (hunksFrom i before.length h runs).Pairwise Hunk.Before := by
  induction runs generalizing i h before with
  | nil => exact List.pairwise_singleton _ _
  | cons r rest ih =>
      rcases hunksFrom_cons_cases i before.length h r rest with
        ⟨shared, -, -, heq⟩ | ⟨shared, i', -, hlong, heq⟩ | ⟨i', heq⟩
      · rw [heq]
        exact List.pairwise_singleton _ _
      · have hopen := openAfter_endsAt i' before shared
        have hstart := openAfter_newStart i' before.length shared
        have hshort := (hends.keep (shared.take context)).newStart_add_newCount
        rw [heq]
        rw [← List.length_append] at hopen hstart ⊢
        refine List.pairwise_cons.mpr ⟨fun g hg => ?_, ih hopen⟩
        have hnext := hunksFrom_newStart_le hopen hg
        rw [List.length_append, List.length_take] at hshort
        rw [Hunk.Before]
        omega
      · rw [heq, ← List.length_append]
        exact ih (hends.absorb r)

private theorem hunksFrom_lines {P : String → Prop} {i j : Nat} {h g : Hunk} {runs : List Run}
    (hlines : ∀ x ∈ h.lines, P x.2) (hold : ∀ l ∈ runs.flatMap Run.oldLines, P l)
    (hnew : ∀ l ∈ runs.flatMap Run.newLines, P l) (hg : g ∈ hunksFrom i j h runs) :
    ∀ x ∈ g.lines, P x.2 := by
  have hkeep {h : Hunk} {ls : List String} (hlines : ∀ x ∈ h.lines, P x.2) (hls : ∀ l ∈ ls, P l) :
      ∀ x ∈ (h.keep ls).lines, P x.2 := by
    simp only [Hunk.keep, List.forall_mem_append, List.forall_mem_map]
    exact ⟨hlines, hls⟩
  have habsorb {h : Hunk} (hlines : ∀ x ∈ h.lines, P x.2) {r : Run}
      (hold : ∀ l ∈ r.oldLines, P l) (hnew : ∀ l ∈ r.newLines, P l) :
      ∀ x ∈ (h.absorb r).lines, P x.2 := by
    cases r with
    | same shared => exact hkeep hlines hnew
    | change removed added =>
        simp only [Hunk.absorb, Hunk.replace, List.forall_mem_append, List.forall_mem_map]
        exact ⟨⟨hlines, hold⟩, hnew⟩
  induction runs generalizing i j h with
  | nil =>
      obtain rfl := List.mem_singleton.mp hg
      exact hlines
  | cons r rest ih =>
      simp only [List.flatMap_cons, List.forall_mem_append] at hold hnew
      rcases hunksFrom_cons_cases i j h r rest with
        ⟨shared, rfl, -, heq⟩ | ⟨shared, i', rfl, -, heq⟩ | ⟨i', heq⟩
      · rw [heq] at hg
        obtain rfl := List.mem_singleton.mp hg
        exact hkeep hlines fun l hl => hnew.1 l (List.mem_of_mem_take hl)
      · rw [heq] at hg
        rcases List.mem_cons.mp hg with rfl | hg
        · exact hkeep hlines fun l hl => hnew.1 l (List.mem_of_mem_take hl)
        · exact ih (openAfter_lines hnew.1) hold.2 hnew.2 hg
      · rw [heq] at hg
        exact ih (habsorb hlines hold.1 hnew.1) hold.2 hnew.2 hg

private theorem hunksFrom_extends (i j : Nat) (h : Hunk) (runs : List Run) :
    ∃ g ∈ hunksFrom i j h runs, g.newStart = h.newStart ∧ h.newCount ≤ g.newCount := by
  have hkeep (h : Hunk) (ls : List String) : h.newCount ≤ (h.keep ls).newCount := by
    simp only [Hunk.newCount, Hunk.keep, List.countP_append]
    omega
  have habsorb (h : Hunk) (r : Run) : h.newCount ≤ (h.absorb r).newCount := by
    cases r with
    | same shared => exact hkeep h shared
    | change removed added =>
        simp only [Hunk.newCount, Hunk.absorb, Hunk.replace, List.countP_append]
        omega
  induction runs generalizing i j h with
  | nil => exact ⟨h, by simp [hunksFrom], rfl, Nat.le_refl _⟩
  | cons r rest ih =>
      rcases hunksFrom_cons_cases i j h r rest with
        ⟨shared, -, -, heq⟩ | ⟨shared, i', -, -, heq⟩ | ⟨i', heq⟩ <;> rw [heq]
      · exact ⟨_, List.mem_singleton.mpr rfl, rfl, hkeep _ _⟩
      · exact ⟨_, List.mem_cons_self, rfl, hkeep _ _⟩
      · obtain ⟨g, hg, hstart, hcount⟩ := ih i' (j + r.newLines.length) (h.absorb r)
        exact ⟨g, hg, hstart.trans (Hunk.newStart_absorb h r), Nat.le_trans (habsorb h r) hcount⟩

private theorem hunksFrom_covers {h : Hunk} {before : List String} (hends : h.EndsAt before)
    (i : Nat) (lead rest : List Run) (removed added : List String) :
    ∃ g ∈ hunksFrom i before.length h (lead ++ .change removed added :: rest),
      g.newStart ≤ (before ++ lead.flatMap Run.newLines).length ∧
      (before ++ lead.flatMap Run.newLines ++ added).length ≤ g.newStart + g.newCount := by
  induction lead generalizing i h before with
  | nil =>
      obtain ⟨g, hg, hstart, hcount⟩ := hunksFrom_extends (i + removed.length)
        (before.length + added.length) (h.replace removed added) rest
      have hend := (hends.replace removed added).newStart_add_newCount
      rw [← hstart] at hend
      refine ⟨g, hg, ?_, ?_⟩
      · rw [hstart, List.flatMap_nil, List.append_nil]
        exact hends.start_le
      · rw [List.flatMap_nil, List.append_nil, ← hend]
        omega
  | cons r lead ih =>
      rw [List.cons_append, List.flatMap_cons, ← List.append_assoc]
      rcases hunksFrom_cons_cases i before.length h r (lead ++ .change removed added :: rest) with
        ⟨_, -, hnil, -⟩ | ⟨shared, i', rfl, -, heq⟩ | ⟨i', heq⟩
      · simp at hnil
      · have hopen := openAfter_endsAt i' before shared
        rw [heq]
        rw [← List.length_append] at hopen ⊢
        obtain ⟨g, hg, hcovers⟩ := ih hopen i'
        exact ⟨g, List.mem_cons_of_mem _ hg, hcovers⟩
      · rw [heq, ← List.length_append]
        exact ih (hends.absorb r) i'

/-! ### The hunks of a script -/

private theorem hunks_eq (runs : List Run) :
    ∃ lead rest, runs = lead ++ rest ∧ (∀ r ∈ lead, ∃ shared, r = .same shared) ∧
      ((hunks runs = [] ∧ rest = []) ∨ ∃ i h, h.EndsAt (lead.flatMap Run.newLines) ∧
        hunks runs = hunksFrom i (lead.flatMap Run.newLines).length h rest) := by
  fun_cases hunks runs with
  | case1 => exact ⟨[], [], rfl, by simp, .inl ⟨rfl, rfl⟩⟩
  | case2 shared => exact ⟨[.same shared], [], rfl, by simp, .inl ⟨rfl, rfl⟩⟩
  | case3 shared rest _ =>
      have hopen := openAfter_endsAt shared.length [] shared
      rw [List.length_nil, Nat.zero_add, List.nil_append] at hopen
      refine ⟨[.same shared], rest, rfl, by simp,
        .inr ⟨shared.length, openAfter shared.length shared.length shared, ?_, ?_⟩⟩
      · simpa [Run.newLines] using hopen
      · simp [Run.newLines]
  | case4 _ _ =>
      refine ⟨[], runs, rfl, by simp, .inr ⟨0, ⟨0, 0, []⟩, ⟨Nat.le_refl _, rfl⟩, rfl⟩⟩

theorem hunks_shows {runs : List Run} {g : Hunk} (hg : g ∈ hunks runs) :
    g.Shows (runs.flatMap Run.newLines) := by
  obtain ⟨lead, rest, rfl, -, ⟨hnil, -⟩ | ⟨i, h, hends, heq⟩⟩ := hunks_eq runs
  · simp [hnil] at hg
  · rw [heq] at hg
    rw [List.flatMap_append]
    exact hunksFrom_shows hends hg

theorem hunks_pairwise (runs : List Run) : (hunks runs).Pairwise Hunk.Before := by
  obtain ⟨lead, rest, rfl, -, ⟨hnil, -⟩ | ⟨i, h, hends, heq⟩⟩ := hunks_eq runs
  · simp [hnil]
  · rw [heq]
    exact hunksFrom_pairwise hends

/-- What holds of all lines of a script holds of all lines of its hunks. -/
theorem hunks_lines {P : String → Prop} {runs : List Run}
    (hold : ∀ l ∈ runs.flatMap Run.oldLines, P l) (hnew : ∀ l ∈ runs.flatMap Run.newLines, P l)
    {g : Hunk} (hg : g ∈ hunks runs) : ∀ x ∈ g.lines, P x.2 := by
  revert hg
  fun_cases hunks runs with
  | case1 => simp
  | case2 shared => simp
  | case3 shared rest _ =>
      simp only [List.flatMap_cons, List.forall_mem_append] at hold hnew
      exact hunksFrom_lines (openAfter_lines hnew.1) hold.2 hnew.2
  | case4 _ _ => exact hunksFrom_lines (by simp) hold hnew

/-- The lines added at a place of a script are in one hunk. -/
theorem hunks_covers_added {lead rest : List Run} {removed added : List String} {n : Int}
    (hlo : (lead.flatMap Run.newLines).length < n)
    (hhi : n ≤ (lead.flatMap Run.newLines).length + added.length) :
    ∃ g ∈ hunks (lead ++ .change removed added :: rest), g.Covers n := by
  obtain ⟨head, tail, hsplit, hsame, hhunks⟩ := hunks_eq (lead ++ .change removed added :: rest)
  have hnotin : .change removed added ∉ head := by
    intro hmem
    obtain ⟨shared, heq⟩ := hsame _ hmem
    simp at heq
  -- the shared lines at the head end before the change
  obtain ⟨more, rfl, rfl⟩ : ∃ more, lead = head ++ more ∧
      tail = more ++ .change removed added :: rest := by
    rcases List.append_eq_append_iff.mp hsplit with ⟨more, hhead, hrest⟩ | h
    · cases more with
      | nil => exact ⟨[], by simpa using hhead.symm, by simpa using hrest.symm⟩
      | cons r more =>
          obtain ⟨rfl, _⟩ := List.cons.inj hrest
          exact absurd (hhead ▸ by simp) hnotin
    · exact h
  rcases hhunks with ⟨_, hnil⟩ | ⟨i, h, hends, heq⟩
  · simp at hnil
  · rw [heq]
    obtain ⟨g, hg, hstart, hend⟩ := hunksFrom_covers hends i more rest removed added
    refine ⟨g, hg, ?_, ?_⟩
    · rw [List.flatMap_append] at hlo
      omega
    · rw [List.flatMap_append] at hhi
      rw [List.length_append] at hend
      omega

end PullReview.Diff
