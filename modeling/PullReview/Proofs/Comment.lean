import PullReview.Comment
import PullReview.Proofs.Diff.Patch
import PullReview.Proofs.Table

/-!
# Findings become comments or are counted

A finding is placed on the least line of its symbol that the patch of its file shows, and counted if
there is none. So no finding is lost and none is misplaced, unless a patch on the way has a header
whose start has too many digits: then there are no comments at all.
-/

namespace PullReview

/-! ### The patch of a file -/

namespace Patches

/-- The patch of the last changed file of a name. -/
def lastPatch? (files : List ChangedFile) (path : String) : Option String :=
  (files.reverse.find? (·.filename == path)).bind (·.patch)

private theorem patch?_ofFiles (files : List ChangedFile) (path : String) :
    (ofFiles files).patch? path = lastPatch? files path := by
  have hfind : (files.map fun f => (f.filename, f.patch)).reverse.find? (·.1 == path) =
      (files.reverse.find? (·.filename == path)).map fun f => (f.filename, f.patch) := by
    rw [← List.map_reverse, List.find?_map]
    rfl
  rw [patch?, ofFiles, Table.get?_ofList, hfind, lastPatch?]
  cases files.reverse.find? (·.filename == path) <;> rfl

/-- What the patch of a file says on a line of it. -/
def lineIn? (files : List ChangedFile) (path : String) (n : Int) :
    Except Number.TooManyDigits (Option Int) :=
  match lastPatch? files path with
  | some patch => Diff.shownLine? patch n
  | none => .ok none

private theorem shownLine?_ofFiles (files : List ChangedFile) (path : String) (n : Int) :
    (ofFiles files).shownLine? path n = lineIn? files path n := by
  rw [shownLine?, patch?_ofFiles]
  rfl

private theorem eq_of_lineIn? {files : List ChangedFile} {path : String} {n m : Int}
    (h : lineIn? files path n = .ok (some m)) : m = n := by
  rw [lineIn?] at h
  split at h
  · exact Diff.eq_of_shownLine? h
  · cases h

private theorem shownLine?_of_not_hasPatch {p : Patches} {path : String}
    (h : p.hasPatch path = false) (n : Int) : p.shownLine? path n = .ok none := by
  have hempty : Diff.shownLine? "" n = .ok none := by
    rw [Diff.shownLine?]
    split <;> rfl
  rw [shownLine?]
  rw [hasPatch] at h
  cases hpatch : p.patch? path with
  | none => rfl
  | some patch =>
      obtain rfl : patch = "" := by simpa [hpatch] using h
      exact hempty

/-! ### The first line that is shown -/

private theorem firstShown?_cases (p : Patches) (path : String) (count : Nat) (line : Int) :
    (p.firstShown? path count line = .ok none ∧
        ∀ n, line ≤ n → n < line + count → p.shownLine? path n = .ok none) ∨
      ∃ n, line ≤ n ∧ n < line + count ∧ p.shownLine? path n ≠ .ok none ∧
        p.firstShown? path count line = p.shownLine? path n ∧
        ∀ m, line ≤ m → m < n → p.shownLine? path m = .ok none := by
  induction count generalizing line with
  | zero =>
      refine Or.inl ⟨rfl, fun n hlo hhi => ?_⟩
      omega
  | succ count ih =>
      by_cases hline : p.shownLine? path line = .ok none
      · have hnext : p.firstShown? path (count + 1) line =
            p.firstShown? path count (line + 1) := by
          rw [firstShown?, hline]
        have hfirst : ∀ m, line ≤ m → m < line + 1 → p.shownLine? path m = .ok none := by
          intro m hlo hhi
          obtain rfl : m = line := by omega
          exact hline
        rcases ih (line + 1) with ⟨hnone, hall⟩ | ⟨n, hlo, hhi, hne, hanswer, hbefore⟩
        · refine Or.inl ⟨hnext.trans hnone, fun n hlo hhi => ?_⟩
          by_cases hn : n < line + 1
          · exact hfirst n hlo hn
          · exact hall n (by omega) (by omega)
        · refine Or.inr ⟨n, by omega, by omega, hne, hnext.trans hanswer, fun m hm hlt => ?_⟩
          by_cases hm' : m < line + 1
          · exact hfirst m hm hm'
          · exact hbefore m (by omega) hlt
      · refine Or.inr ⟨line, by omega, by omega, hline, ?_, fun m hm hlt => ?_⟩
        · rw [firstShown?]
          split
          · rename_i hnone
            exact absurd hnone hline
          · rfl
        · omega

private theorem anchor?_eq (p : Patches) (s : Symbol) :
    p.anchor? s =
      p.firstShown? s.file ((max s.startLine s.endLine - s.startLine).toNat + 1) s.startLine := by
  rw [anchor?]
  split
  · rfl
  · rename_i hpatch
    have hhidden := shownLine?_of_not_hasPatch (by simpa using hpatch)
    rcases firstShown?_cases p s.file ((max s.startLine s.endLine - s.startLine).toNat + 1)
      s.startLine with ⟨hnone, -⟩ | ⟨n, -, -, hne, -, -⟩
    · exact hnone.symm
    · exact absurd (hhidden n) hne

/-- The first line of a symbol for which the patch of its file has an answer. -/
structure IsFirstAnswer (files : List ChangedFile) (t : Symbol) (n : Int)
    (answer : Except Number.TooManyDigits (Option Int)) : Prop where
  first_le : t.startLine ≤ n
  le_last : n ≤ max t.startLine t.endLine
  answer : lineIn? files t.file n = answer
  before : ∀ m, t.startLine ≤ m → m < n → lineIn? files t.file m = .ok none

/-- A symbol no line of which is shown. -/
def IsHidden (files : List ChangedFile) (t : Symbol) : Prop :=
  ∀ n, t.startLine ≤ n → n ≤ max t.startLine t.endLine → lineIn? files t.file n = .ok none

private theorem anchor?_cases (files : List ChangedFile) (t : Symbol) :
    ((ofFiles files).anchor? t = .ok none ∧ IsHidden files t) ∨
      (∃ n, (ofFiles files).anchor? t = .ok (some n) ∧
        IsFirstAnswer files t n (.ok (some n))) ∨
      ∃ e n, (ofFiles files).anchor? t = .error e ∧ IsFirstAnswer files t n (.error e) := by
  have hcases := firstShown?_cases (ofFiles files) t.file
    ((max t.startLine t.endLine - t.startLine).toNat + 1) t.startLine
  simp only [shownLine?_ofFiles, ← anchor?_eq] at hcases
  rcases hcases with ⟨hnone, hall⟩ | ⟨n, hlo, hhi, hne, hanswer, hbefore⟩
  · exact Or.inl ⟨hnone, fun n hlo hhi => hall n hlo (by omega)⟩
  · have hlast : n ≤ max t.startLine t.endLine := by omega
    cases hline : lineIn? files t.file n with
    | error e => exact Or.inr (Or.inr ⟨e, n, hanswer.trans hline, hlo, hlast, hline, hbefore⟩)
    | ok found =>
        cases found with
        | none => exact absurd hline hne
        | some m =>
            obtain rfl := eq_of_lineIn? hline
            exact Or.inr (Or.inl ⟨m, hanswer.trans hline, hlo, hlast, hline, hbefore⟩)

end Patches

open Patches (lastPatch? IsFirstAnswer IsHidden)

/-! ### Findings -/

namespace Finding

/-- The comment of a finding on a line. -/
def commentAt (f : Finding) (line : Int) : Comment :=
  ⟨f.target.file, line, f.body, f.severity, f.category⟩

/-- One step: a finding is placed, counted, or its patch cannot be read. -/
theorem comment?_cases (files : List ChangedFile) (f : Finding) :
    (∃ n, f.comment? (.ofFiles files) = .ok (some (f.commentAt n)) ∧ f.placed = true ∧
        IsFirstAnswer files f.target n (.ok (some n))) ∨
      (f.comment? (.ofFiles files) = .ok none ∧
        (f.placed = true → IsHidden files f.target)) ∨
      ∃ e n, f.comment? (.ofFiles files) = .error e ∧ f.placed = true ∧
        IsFirstAnswer files f.target n (.error e) := by
  cases hplaced : f.placed with
  | false =>
      refine Or.inr (Or.inl ⟨?_, by simp⟩)
      simp [comment?, hplaced]
  | true =>
      rcases Patches.anchor?_cases files f.target with
        ⟨hanchor, hhidden⟩ | ⟨n, hanchor, hfirst⟩ | ⟨e, n, hanchor, hfirst⟩
      · refine Or.inr (Or.inl ⟨?_, fun _ => hhidden⟩)
        simp [comment?, hplaced, hanchor]
      · refine Or.inl ⟨n, ?_, rfl, hfirst⟩
        simp [comment?, hplaced, hanchor, commentAt]
      · refine Or.inr (Or.inr ⟨e, n, ?_, rfl, hfirst⟩)
        simp [comment?, hplaced, hanchor]

end Finding

/-! ### All findings of a review -/

/-- A list of things to report with their comments, in order, and the number of those that have
none: a comment stands on the first line of its target that the patch shows, and only what is gone
or what has a target without such a line is not placed. -/
inductive Reported {α : Type} (files : List ChangedFile) (target : α → Symbol) (body : α → String)
    (Gone : α → Prop) : List α → List Comment → Nat → Prop where
  | nil : Reported files target body Gone [] [] 0
  | placed {a : α} {c : Comment} {as : List α} {cs : List Comment} {unplaced : Nat}
      (hgone : ¬ Gone a) (hpath : c.path = (target a).file) (hbody : c.body = body a)
      (hline : IsFirstAnswer files (target a) c.line (.ok (some c.line)))
      (rest : Reported files target body Gone as cs unplaced) :
      Reported files target body Gone (a :: as) (c :: cs) unplaced
  | unplaced {a : α} {as : List α} {cs : List Comment} {unplaced : Nat}
      (hhidden : ¬ Gone a → IsHidden files (target a))
      (rest : Reported files target body Gone as cs unplaced) :
      Reported files target body Gone (a :: as) cs (unplaced + 1)

namespace Reported

section

variable {α : Type} {files : List ChangedFile} {target : α → Symbol} {body : α → String}
  {Gone : α → Prop} {as bs : List α} {cs : List Comment} {unplaced : Nat}

private theorem length_add (h : Reported files target body Gone as cs unplaced) :
    cs.length + unplaced = as.length := by
  induction h with
  | nil => rfl
  | placed _ _ _ _ _ ih =>
      rw [List.length_cons, List.length_cons]
      omega
  | unplaced _ _ ih =>
      rw [List.length_cons]
      omega

/-- What is listed in two parts has its comments in two parts. -/
theorem split (h : Reported files target body Gone (as ++ bs) cs unplaced) :
    ∃ cs₁ cs₂ k₁ k₂, cs = cs₁ ++ cs₂ ∧ unplaced = k₁ + k₂ ∧
      Reported files target body Gone as cs₁ k₁ ∧ Reported files target body Gone bs cs₂ k₂ := by
  induction as generalizing cs unplaced with
  | nil => exact ⟨[], cs, 0, unplaced, rfl, (Nat.zero_add _).symm, .nil, h⟩
  | cons a as ih =>
      cases h with
      | placed hgone hpath hbody hline rest =>
          obtain ⟨cs₁, cs₂, k₁, k₂, rfl, rfl, hleft, hright⟩ := ih rest
          exact ⟨_ :: cs₁, cs₂, k₁, k₂, rfl, rfl, .placed hgone hpath hbody hline hleft, hright⟩
      | unplaced hhidden rest =>
          obtain ⟨cs₁, cs₂, k₁, k₂, rfl, rfl, hleft, hright⟩ := ih rest
          exact ⟨cs₁, cs₂, k₁ + 1, k₂, rfl, by omega, .unplaced hhidden hleft, hright⟩

/-- The findings made from a list report the list. -/
theorem of_map {say : α → Finding} (htarget : ∀ a, (say a).target = target a)
    (hsay : ∀ a, (say a).body = body a) (hgone : ∀ a, (say a).placed = false ↔ Gone a)
    (h : Reported files Finding.target Finding.body (·.placed = false) (as.map say) cs unplaced) :
    Reported files target body Gone as cs unplaced := by
  induction as generalizing cs unplaced with
  | nil =>
      cases h
      exact .nil
  | cons a as ih =>
      cases h with
      | placed hplaced hpath hbody hline rest =>
          rw [htarget] at hpath hline
          exact .placed (mt (hgone a).mpr hplaced) hpath (hbody.trans (hsay a)) hline (ih rest)
      | unplaced hhidden rest =>
          rw [hgone, htarget] at hhidden
          exact .unplaced hhidden (ih rest)

end

end Reported

private theorem comments_cons (p : Patches) (f : Finding) (fs : List Finding) :
    comments p (f :: fs) =
      (f.comment? p).bind fun c => (comments p fs).map fun r =>
        (c.toList ++ r.1, r.2 + if c.isNone then 1 else 0) := by
  rw [comments, comments, List.mapM_cons]
  cases f.comment? p with
  | error e => rfl
  | ok c =>
      cases fs.mapM (Finding.comment? p) with
      | error e => rfl
      | ok cs => cases c <;> simp [Except.bind, Except.map, bind, pure, Except.pure]

/-- A whole run: the findings are reported, or one of them needs a patch that cannot be read. -/
theorem comments_cases (files : List ChangedFile) (fs : List Finding) :
    (∃ cs unplaced, comments (.ofFiles files) fs = .ok (cs, unplaced) ∧
        Reported files Finding.target Finding.body (·.placed = false) fs cs unplaced) ∨
      ∃ e, comments (.ofFiles files) fs = .error e ∧ ∃ f ∈ fs, f.placed = true ∧
        ∃ n, IsFirstAnswer files f.target n (.error e) := by
  induction fs with
  | nil => exact Or.inl ⟨[], 0, rfl, .nil⟩
  | cons f fs ih =>
      rw [comments_cons]
      -- the first finding that fails ends the run, whatever the others have
      rcases f.comment?_cases files with
        ⟨n, hcomment, hplaced, hfirst⟩ | ⟨hcomment, hhidden⟩ | ⟨e, n, hcomment, hplaced, hfirst⟩
      · rw [hcomment]
        rcases ih with ⟨cs, unplaced, hrest, hreported⟩ | ⟨e, hrest, g, hg, hbad⟩
        · rw [hrest]
          exact Or.inl ⟨_, _, rfl, .placed (by simp [hplaced]) rfl rfl hfirst hreported⟩
        · rw [hrest]
          exact Or.inr ⟨e, rfl, g, List.mem_cons_of_mem _ hg, hbad⟩
      · rw [hcomment]
        rcases ih with ⟨cs, unplaced, hrest, hreported⟩ | ⟨e, hrest, g, hg, hbad⟩
        · rw [hrest]
          exact Or.inl ⟨_, _, rfl, .unplaced (by simpa using hhidden) hreported⟩
        · rw [hrest]
          exact Or.inr ⟨e, rfl, g, List.mem_cons_of_mem _ hg, hbad⟩
      · rw [hcomment]
        exact Or.inr ⟨e, rfl, f, List.mem_cons_self, hplaced, n, hfirst⟩

/-- The symbols at which a review has something to say. -/
def IsTarget (changes : List BreakingChange) (within across : List DuplicateMatch) (t : Symbol) :
    Prop :=
  (∃ c ∈ changes, c.kind ≠ .removed ∧ t = c.symbol) ∨ (∃ m ∈ within, t = m.second) ∨
    ∃ m ∈ across, t = m.first

private theorem isTarget_of_mem_findings {changes : List BreakingChange}
    {within across : List DuplicateMatch} {f : Finding} (h : f ∈ findings changes within across)
    (hplaced : f.placed = true) : IsTarget changes within across f.target := by
  simp only [findings, List.mem_append, List.mem_map] at h
  rcases h with (⟨c, hc, rfl⟩ | ⟨m, hm, rfl⟩) | ⟨m, hm, rfl⟩
  · exact Or.inl ⟨c, hc, by simpa [Finding.ofChange] using hplaced, rfl⟩
  · exact Or.inr (Or.inl ⟨m, hm, rfl⟩)
  · exact Or.inr (Or.inr ⟨m, hm, rfl⟩)

private theorem exists_patch_of_lineIn?_error {files : List ChangedFile} {path : String} {n : Int}
    {e : Number.TooManyDigits} (h : Patches.lineIn? files path n = .error e) :
    ∃ patch, lastPatch? files path = some patch ∧ Diff.HasLongHeader patch := by
  rw [Patches.lineIn?] at h
  split at h
  · rename_i patch hpatch
    exact ⟨patch, hpatch, Diff.hasLongHeader_of_error h⟩
  · cases h

/-- Every finding has a comment or is counted, breaking changes first, then the duplicates inside
the review, then those across the index; unless the patch of a target has a header that cannot be
read. -/
theorem comments_report_findings (files : List ChangedFile) (changes : List BreakingChange)
    (within across : List DuplicateMatch) :
    (∃ cs₁ cs₂ cs₃ k₁ k₂ k₃,
      comments (.ofFiles files) (findings changes within across) =
        .ok (cs₁ ++ cs₂ ++ cs₃, k₁ + k₂ + k₃) ∧
      (cs₁ ++ cs₂ ++ cs₃).length + (k₁ + k₂ + k₃) =
        changes.length + within.length + across.length ∧
      Reported files (·.symbol) (·.body) (·.kind = .removed) changes cs₁ k₁ ∧
      Reported files (·.second) (fun m => m.body m.first) (fun _ => False) within cs₂ k₂ ∧
      Reported files (·.first) (fun m => m.body m.second) (fun _ => False) across cs₃ k₃) ∨
    ∃ e, comments (.ofFiles files) (findings changes within across) = .error e ∧
      ∃ t, IsTarget changes within across t ∧ (∃ n, IsFirstAnswer files t n (.error e)) ∧
        ∃ patch, lastPatch? files t.file = some patch ∧ Diff.HasLongHeader patch := by
  rcases comments_cases files (findings changes within across) with
    ⟨cs, unplaced, hcomments, hreported⟩ | ⟨e, hcomments, f, hf, hplaced, n, hfirst⟩
  · have hcount := hreported.length_add
    obtain ⟨_, cs₃, _, k₃, rfl, rfl, hleft, hacross⟩ := hreported.split
    obtain ⟨cs₁, cs₂, k₁, k₂, rfl, rfl, hchanges, hwithin⟩ := hleft.split
    refine Or.inl ⟨cs₁, cs₂, cs₃, k₁, k₂, k₃, hcomments, ?_, ?_, ?_, ?_⟩
    · rw [hcount, findings]
      simp only [List.length_append, List.length_map]
    · exact hchanges.of_map (fun _ => rfl) (fun _ => rfl) fun c => by simp [Finding.ofChange]
    · exact hwithin.of_map (fun _ => rfl) (fun _ => rfl) fun m => by
        simp [Finding.ofWithin, Finding.ofMatch]
    · exact hacross.of_map (fun _ => rfl) (fun _ => rfl) fun m => by
        simp [Finding.ofAcross, Finding.ofMatch]
  · exact Or.inr ⟨e, hcomments, f.target, isTarget_of_mem_findings hf hplaced, ⟨n, hfirst⟩,
      exists_patch_of_lineIn?_error hfirst.answer⟩

/-! ### A header that cannot be read -/

/-- A patch of one line behind the line `start`, whose header gives no count for it. -/
def farPatch (start : Nat) : String := "\n".intercalate [(⟨0, start, []⟩ : Diff.Hunk).header, "+x"]

private theorem shownLine?_farPatch {start : Nat} (hstart : Diff.readBound ≤ start) {n : Int}
    (hn : 1 ≤ n) : ∃ e, Diff.shownLine? (farPatch start) n = .error e := by
  have hlines : Text.lines (farPatch start) = [(⟨0, start, []⟩ : Diff.Hunk).header, "+x"] := by
    apply Text.lines_intercalate
    · intro l hl
      rcases List.mem_pair.mp hl with rfl | rfl
      · exact Diff.Hunk.isLine_header _
      · decide
    · simp
  have hempty : Diff.rangeStart start (Diff.Hunk.newCount ⟨0, start, []⟩) = start := if_pos rfl
  rw [Diff.shownLine?, if_neg (Int.not_lt.mpr hn), hlines, Diff.readPatch, Diff.of_header, hempty,
    Diff.findLine]
  cases hread : Number.readWhole (Diff.digitsOf start) with
  | error e => exact ⟨e, rfl⟩
  | ok read => exact absurd ((Diff.readWhole_digitsOf _ _).mp hread).2 (Nat.not_lt.mpr hstart)

def farFile : ChangedFile where
  filename := "a.py"
  patch := some (farPatch Diff.readBound)

def changeAtFirstLine : BreakingChange where
  symbol := { name := "f", kind := "function", file := "a.py", startLine := 1, endLine := 1 }
  kind := .signature
  oldSignature := some "f()"
  newSignature := some "f(x)"
  impactedFiles := []
  callSites := []
  severity := .medium
  message := "changed"

theorem comments_farFile_error :
    ∃ e, comments (.ofFiles [farFile]) (findings [changeAtFirstLine] [] []) = .error e := by
  obtain ⟨e, hfar⟩ := shownLine?_farPatch (Nat.le_refl _) (Int.le_refl 1)
  have hline : Patches.lineIn? [farFile] "a.py" 1 = .error e := hfar
  rcases comments_cases [farFile] (findings [changeAtFirstLine] [] []) with
    ⟨cs, unplaced, -, hreported⟩ | ⟨e', herror, -⟩
  · exfalso
    cases hreported with
    | @placed _ c _ _ _ _ _ _ hfirst _ =>
        have hone : c.line = 1 := Int.le_antisymm hfirst.le_last hfirst.first_le
        have hanswer := hfirst.answer
        rw [hone] at hanswer
        cases hanswer.symm.trans hline
    | unplaced hhidden _ =>
        have hnone := hhidden (by decide) 1 (Int.le_refl 1) (Int.le_refl 1)
        cases hnone.symm.trans hline
  · exact ⟨e', herror⟩

end PullReview
