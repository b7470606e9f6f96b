import PullReview.Proofs.FileTree
import PullReview.Review.Changes

/-!
# What the changed files are

A path is reported at most once, and with the status that its texts in the two checkouts give it.
Which paths are looked at at all depends on two tests: no component may be a skipped directory, and
no skipped pattern may occur anywhere in the path. The second test also hides sources such as
`distance.py`, whose names only contain the name of a skipped directory.
-/

namespace PullReview

namespace Repository

/-- The text of a listed file. -/
def text? (r : Repository) (path : String) : Option String :=
  if path ∈ r.files then some (Review.textOf r path) else none

private theorem text?_of_mem {r : Repository} {path : String} (h : path ∈ r.files) :
    r.text? path = some (Review.textOf r path) := if_pos h

private theorem text?_of_notMem {r : Repository} {path : String} (h : path ∉ r.files) :
    r.text? path = none := if_neg h

/-- The proper paths of which no component is a skipped directory. -/
structure IsListed (p : List String) : Prop where
  ne_nil : p ≠ []
  names : ∀ c ∈ p, FileTree.isName c = true
  directories : ∀ c ∈ p, c ∉ skippedDirectories

private theorem IsListed.components_eq {p : List String} (h : IsListed p) :
    Path.components ("/".intercalate p) = p :=
  Path.components_intercalate fun c hc => (FileTree.isName_iff.mp (h.names c hc)).1

variable {t : FileTree} {root : List String}

private theorem mem_filter_below_iff (ht : t.Proper) {p : List String} :
    (p ∈ (t.below root).filter fun p =>
      t.isFile (root ++ p) && !p.any skippedDirectories.contains) ↔
      IsListed p ∧ (t.readLossy? (root ++ p)).isSome := by
  rw [List.mem_filter, Bool.and_eq_true, FileTree.isFile_eq, Bool.not_eq_true', List.any_eq_false]
  simp only [List.contains_iff_mem]
  constructor
  · rintro ⟨hbelow, hread, hdirectories⟩
    obtain ⟨_, _, hne, _⟩ := FileTree.mem_below_iff.mp hbelow
    exact ⟨⟨hne, ht.isName_of_mem_below hbelow, hdirectories⟩, hread⟩
  · rintro ⟨hp, hread⟩
    have hdots : ∀ c ∈ p, c ≠ ".." := fun c hc => (FileTree.isName_iff.mp (hp.names c hc)).2.1
    have hfile : t.isFile (root ++ p) = true := by rw [FileTree.isFile_eq, hread]
    exact ⟨FileTree.mem_below_of_isFile hp.ne_nil hdots hfile, hread, hp.directories⟩

private theorem mem_files_ofTree_iff (ht : t.Proper) {path : String} :
    path ∈ (ofTree t root).files ↔
      ∃ p, IsListed p ∧ (t.readLossy? (root ++ p)).isSome ∧ "/".intercalate p = path := by
  rw [ofTree, List.mem_map]
  exact exists_congr fun p => by rw [mem_filter_below_iff ht, and_assoc]

private theorem files_ofTree_nodup (ht : t.Proper) : (ofTree t root).files.Nodup := by
  rw [ofTree, List.Nodup, List.pairwise_map]
  refine ((ht.below_nodup root).filter _).imp_of_mem fun {p q} hp hq hne heq => hne ?_
  -- the components of a path give back the names it was joined from
  rw [← ((mem_filter_below_iff ht).mp hp).1.components_eq, heq,
    ((mem_filter_below_iff ht).mp hq).1.components_eq]

private theorem text?_ofTree (ht : t.Proper) {p : List String} (hp : IsListed p) :
    (ofTree t root).text? ("/".intercalate p) = t.readLossy? (root ++ p) := by
  have htext : Review.textOf (ofTree t root) ("/".intercalate p) =
      (t.readLossy? (root ++ p)).getD "" := by
    simp only [Review.textOf, ofTree, hp.components_eq]
  cases hread : t.readLossy? (root ++ p) with
  | some text =>
      rw [text?_of_mem, htext, hread, Option.getD_some]
      exact (mem_files_ofTree_iff ht).mpr ⟨p, hp, by rw [hread]; rfl, rfl⟩
  | none =>
      refine text?_of_notMem fun hmem => ?_
      obtain ⟨q, hq, hsome, heq⟩ := (mem_files_ofTree_iff ht).mp hmem
      rw [← hq.components_eq, heq, hp.components_eq, hread] at hsome
      cases hsome

end Repository

namespace Review

/-- How a path has changed, by its texts before and after. -/
def status? : Option String → Option String → Option String
  | none, none => none
  | none, some _ => some "added"
  | some _, none => some "removed"
  | some old, some new => if old = new then none else some "modified"

/-- The changed file of a path, by its texts before and after. -/
def change? (path : String) (old new : Option String) : Option ChangedFile :=
  (status? old new).map fun status =>
    ⟨path, some (Diff.patch (old.getD "") (new.getD "") path), new, status⟩

private theorem filename_of_change? {path : String} {old new : Option String} {f : ChangedFile}
    (h : change? path old new = some f) : f.filename = path := by
  obtain ⟨status, _, rfl⟩ := Option.map_eq_some_iff.mp h
  rfl

/-- Only a path that one of the checkouts lists can have changed. -/
theorem exists_isListed_of_change? {base head : FileTree} (hbase : base.Proper)
    (hhead : head.Proper) {before after : List String} {path : String} {f : ChangedFile}
    (h : change? path ((Repository.ofTree base before).text? path)
      ((Repository.ofTree head after).text? path) = some f) :
    ∃ p, Repository.IsListed p ∧ "/".intercalate p = path := by
  by_cases hafter : path ∈ (Repository.ofTree head after).files
  · obtain ⟨p, hp, _, heq⟩ := (Repository.mem_files_ofTree_iff hhead).mp hafter
    exact ⟨p, hp, heq⟩
  · by_cases hbefore : path ∈ (Repository.ofTree base before).files
    · obtain ⟨p, hp, _, heq⟩ := (Repository.mem_files_ofTree_iff hbase).mp hbefore
      exact ⟨p, hp, heq⟩
    · rw [Repository.text?_of_notMem hbefore, Repository.text?_of_notMem hafter] at h
      cases h

section Repositories

variable {base head : Repository}

private theorem headFile?_eq (path : String) :
    headFile? base head path = change? path (base.text? path) (some (textOf head path)) := by
  by_cases hpath : path ∈ base.files
  · rw [Repository.text?_of_mem hpath, headFile?, if_pos (List.contains_iff_mem.mpr hpath)]
    by_cases heq : textOf base path = textOf head path
    · simp [heq, change?, status?]
    · simp [heq, change?, status?]
  · rw [Repository.text?_of_notMem hpath, headFile?, if_neg (by simpa using hpath)]
    rfl

private theorem removedFile_eq (path : String) :
    change? path (some (textOf base path)) none = some (removedFile base path) := rfl

private theorem mem_changedFiles_iff {f : ChangedFile} :
    f ∈ changedFiles base head ↔ ∃ path, Path.isCode path = true ∧
      change? path (base.text? path) (head.text? path) = some f := by
  simp only [changedFiles, List.mem_append, List.mem_filterMap, List.mem_map, List.mem_filter,
    List.mem_mergeSort, Bool.not_eq_true', List.contains_eq_mem, decide_eq_false_iff_not]
  constructor
  · rintro (⟨path, ⟨hhead, hcode⟩, hf⟩ | ⟨path, ⟨⟨hbase, hgone⟩, hcode⟩, rfl⟩)
    · refine ⟨path, hcode, ?_⟩
      rw [Repository.text?_of_mem hhead, ← headFile?_eq, hf]
    · refine ⟨path, hcode, ?_⟩
      rw [Repository.text?_of_mem hbase, Repository.text?_of_notMem hgone, removedFile_eq]
  · rintro ⟨path, hcode, hf⟩
    by_cases hhead : path ∈ head.files
    · rw [Repository.text?_of_mem hhead, ← headFile?_eq] at hf
      exact Or.inl ⟨path, ⟨hhead, hcode⟩, hf⟩
    · by_cases hbase : path ∈ base.files
      · rw [Repository.text?_of_mem hbase, Repository.text?_of_notMem hhead, removedFile_eq] at hf
        exact Or.inr ⟨path, ⟨⟨hbase, hhead⟩, hcode⟩, Option.some.inj hf⟩
      · rw [Repository.text?_of_notMem hbase, Repository.text?_of_notMem hhead] at hf
        cases hf

variable (base head) in
private theorem map_filename_headFiles_sublist (paths : List String) :
    ((paths.filterMap (headFile? base head)).map ChangedFile.filename).Sublist paths := by
  induction paths with
  | nil => exact List.Sublist.refl []
  | cons path paths ih =>
      cases hfile : headFile? base head path with
      | none =>
          rw [List.filterMap_cons_none hfile]
          exact ih.cons path
      | some f =>
          rw [List.filterMap_cons_some hfile, List.map_cons,
            filename_of_change? ((headFile?_eq path).symm.trans hfile)]
          exact ih.cons_cons path

private theorem changedFiles_filenames_nodup (hbase : base.files.Nodup) (hhead : head.files.Nodup) :
    ((changedFiles base head).map ChangedFile.filename).Nodup := by
  have hremoved : ChangedFile.filename ∘ removedFile base = id := rfl
  have hfound := map_filename_headFiles_sublist base head (head.files.filter Path.isCode)
  rw [changedFiles, List.map_append, List.map_map, hremoved, List.map_id, List.nodup_append]
  refine ⟨hfound.nodup (hhead.filter _), ?_, ?_⟩
  · exact ((List.mergeSort_perm _ _).nodup_iff.mpr (hbase.filter _)).filter _
  · rintro path hpath gone hgone rfl
    have hin : path ∈ head.files := (List.mem_filter.mp (hfound.subset hpath)).1
    simp [hin] at hgone

end Repositories

/-- The paths that are meant to be reviewed: proper paths to a source, outside of the skipped
directories, that are neither minified nor lock files. -/
structure IsSource (p : List String) : Prop extends Repository.IsListed p where
  suffix : Text.lower (Path.suffix ("/".intercalate p)) ∈ Path.codeSuffixes
  minified : ¬ ".min.".toList <:+: ("/".intercalate p).toList
  lock : ¬ ".lock".toList <:+: ("/".intercalate p).toList

/-- The names of directories that hide a path if they occur anywhere in it. -/
def hidingNames : List String := ["node_modules", ".git", "dist", "build", "target"]

def IsHidden (p : List String) : Prop :=
  ∃ name ∈ hidingNames, name.toList <:+: ("/".intercalate p).toList

instance (p : List String) : Decidable (IsSource p) :=
  decidable_of_iff
    ((p ≠ [] ∧ (∀ c ∈ p, FileTree.isName c = true) ∧ ∀ c ∈ p, c ∉ Repository.skippedDirectories) ∧
      Text.lower (Path.suffix ("/".intercalate p)) ∈ Path.codeSuffixes ∧
      ¬ Text.occursIn ".min." ("/".intercalate p) = true ∧
      ¬ Text.occursIn ".lock" ("/".intercalate p) = true)
    (by
      simp only [Text.occursIn_iff]
      exact ⟨fun ⟨⟨hne, hnames, hdirectories⟩, hsuffix, hminified, hlock⟩ =>
          ⟨⟨hne, hnames, hdirectories⟩, hsuffix, hminified, hlock⟩,
        fun h => ⟨⟨h.ne_nil, h.names, h.directories⟩, h.suffix, h.minified, h.lock⟩⟩)

instance (p : List String) : Decidable (IsHidden p) :=
  decidable_of_iff (∃ name ∈ hidingNames, Text.occursIn name ("/".intercalate p) = true)
    (by simp only [Text.occursIn_iff, IsHidden])

private theorem isListed_and_isCode_iff {p : List String} :
    Repository.IsListed p ∧ Path.isCode ("/".intercalate p) = true ↔ IsSource p ∧ ¬ IsHidden p := by
  have hpatterns : Path.skippedPatterns = hidingNames ++ [".min.", ".lock"] := rfl
  rw [Path.isCode_iff, hpatterns]
  constructor
  · rintro ⟨hp, hsuffix, hout⟩
    refine ⟨⟨hp, hsuffix, hout ".min." (by simp), hout ".lock" (by simp)⟩, ?_⟩
    rintro ⟨name, hname, hin⟩
    exact hout name (List.mem_append_left _ hname) hin
  · rintro ⟨hp, hshown⟩
    refine ⟨hp.toIsListed, hp.suffix, fun pattern hpattern hin => ?_⟩
    rcases List.mem_append.mp hpattern with hname | hrest
    · exact hshown ⟨pattern, hname, hin⟩
    · simp only [List.mem_cons, List.not_mem_nil, or_false] at hrest
      rcases hrest with rfl | rfl
      · exact hp.minified hin
      · exact hp.lock hin

/-- **The changed files of two checkouts.** No path is reported twice. The reported files are those
of the sources whose texts differ, or that only one checkout has, with the status, the patch and the
new content that the two texts give. But a source is left out if the name of a skipped directory
occurs in its path, be it only as a part of another name. -/
theorem changedFiles_ofTree {base head : FileTree} (hbase : base.Proper) (hhead : head.Proper)
    (before after : List String) :
    ((changedFiles (.ofTree base before) (.ofTree head after)).map ChangedFile.filename).Nodup ∧
      ∀ f, f ∈ changedFiles (.ofTree base before) (.ofTree head after) ↔
        ∃ p, IsSource p ∧ ¬ IsHidden p ∧
          change? ("/".intercalate p) (base.readLossy? (before ++ p))
            (head.readLossy? (after ++ p)) = some f := by
  refine ⟨changedFiles_filenames_nodup (Repository.files_ofTree_nodup hbase)
    (Repository.files_ofTree_nodup hhead), fun f => mem_changedFiles_iff.trans ?_⟩
  constructor
  · rintro ⟨path, hcode, hf⟩
    obtain ⟨p, hp, rfl⟩ := exists_isListed_of_change? hbase hhead hf
    rw [Repository.text?_ofTree hbase hp, Repository.text?_ofTree hhead hp] at hf
    obtain ⟨hsource, hshown⟩ := isListed_and_isCode_iff.mp ⟨hp, hcode⟩
    exact ⟨p, hsource, hshown, hf⟩
  · rintro ⟨p, hsource, hshown, hf⟩
    obtain ⟨hp, hcode⟩ := isListed_and_isCode_iff.mpr ⟨hsource, hshown⟩
    refine ⟨_, hcode, ?_⟩
    rwa [Repository.text?_ofTree hbase hp, Repository.text?_ofTree hhead hp]

/-- A checkout with one source. -/
def smallCheckout : FileTree := .ofFiles [("src/app.py", [65])]

/-- The same checkout with another text in its source, and a second source. -/
def grownCheckout : FileTree := .ofFiles [("src/app.py", [66]), ("src/distance.py", [65])]

theorem app_reported_modified :
    smallCheckout.Proper ∧ grownCheckout.Proper ∧
      ((changedFiles (.ofTree smallCheckout []) (.ofTree grownCheckout [])).map
        ChangedFile.filename).Nodup ∧
      ⟨"src/app.py", some (Diff.patch "A" "B" "src/app.py"), some "B", "modified"⟩ ∈
        changedFiles (.ofTree smallCheckout []) (.ofTree grownCheckout []) := by
  have hsmall : smallCheckout.Proper := FileTree.proper_ofFiles _
  have hgrown : grownCheckout.Proper := FileTree.proper_ofFiles _
  have hold : smallCheckout.readLossy? ["src", "app.py"] = some "A" := by decide +kernel
  have hnew : grownCheckout.readLossy? ["src", "app.py"] = some "B" := by decide +kernel
  have hpath : "/".intercalate ["src", "app.py"] = "src/app.py" := by decide
  obtain ⟨hnodup, hmem⟩ := changedFiles_ofTree hsmall hgrown [] []
  refine ⟨hsmall, hgrown, hnodup,
    (hmem _).mpr ⟨["src", "app.py"], by decide +kernel, by decide +kernel, ?_⟩⟩
  rw [List.nil_append, hold, hnew, hpath]
  simp [change?, status?]

theorem distance_not_reported :
    IsSource ["src", "distance.py"] ∧
      status? (smallCheckout.readLossy? ["src", "distance.py"])
        (grownCheckout.readLossy? ["src", "distance.py"]) = some "added" ∧
      ∀ f ∈ changedFiles (.ofTree smallCheckout []) (.ofTree grownCheckout []),
        f.filename ≠ "src/distance.py" := by
  refine ⟨by decide +kernel, by decide +kernel, ?_⟩
  intro f hf heq
  obtain ⟨path, hcode, hchange⟩ := mem_changedFiles_iff.mp hf
  rw [← filename_of_change? hchange, heq] at hcode
  exact absurd hcode (by decide)

end Review

end PullReview
