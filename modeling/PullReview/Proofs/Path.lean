import PullReview.Path

/-!
# Paths and their components

Names without slashes that are joined by slashes are the components of the path they make. A path is
code if it has a code suffix and none of the skipped patterns occurs in it anywhere.
-/

namespace PullReview

theorem Text.occursIn_iff (needle s : String) :
    occursIn needle s = true ↔ needle.toList <:+: s.toList := by
  rw [occursIn]
  induction s.toList with
  | nil => simp [occursInChars]
  | cons c cs ih =>
      rw [occursInChars, Bool.or_eq_true, List.isPrefixOf_iff_prefix, ih, List.infix_cons_iff]

namespace Path

private theorem splitAt_eq_splitOn (sep : Char) (cs : List Char) :
    splitAt sep cs = cs.splitOn sep := by
  induction cs with
  | nil => rfl
  | cons c cs ih =>
      rw [splitAt, ih, List.splitOn_cons_eq_if_modifyHead]
      cases hparts : cs.splitOn sep with
      | nil => exact absurd hparts (List.splitOn_ne_nil sep cs)
      | cons part parts => rfl

private theorem notMem_of_mem_splitAt {sep : Char} {cs part : List Char}
    (h : part ∈ splitAt sep cs) : sep ∉ part := by
  induction cs generalizing part with
  | nil => simp_all [splitAt]
  | cons c cs ih =>
      rw [splitAt] at h
      split at h
      · rcases List.mem_cons.mp h with rfl | h
        · exact List.not_mem_nil
        · exact ih h
      · rename_i hc
        have hc : sep ≠ c := fun heq => hc (by simp [heq])
        split at h
        · rename_i first parts hparts
          rcases List.mem_cons.mp h with rfl | h
          · exact List.not_mem_cons_of_ne_of_not_mem hc (ih (by simp [hparts]))
          · exact ih (by simp [hparts, h])
        · simp_all

/-- A name of a file or directory in a path. -/
structure IsComponent (c : String) : Prop where
  ne_empty : c ≠ ""
  ne_dot : c ≠ "."
  slash : '/' ∉ c.toList

theorem isComponent_of_mem {path c : String} (h : c ∈ components path) : IsComponent c := by
  obtain ⟨hmem, hname⟩ := List.mem_filter.mp h
  obtain ⟨part, hpart, rfl⟩ := List.mem_map.mp hmem
  simp only [Bool.and_eq_true, bne_iff_ne] at hname
  exact ⟨hname.1, hname.2, by simpa using notMem_of_mem_splitAt hpart⟩

theorem components_intercalate {p : List String} (h : ∀ c ∈ p, IsComponent c) :
    components ("/".intercalate p) = p := by
  cases p with
  | nil => decide
  | cons c p =>
      have hparts : splitAt '/' ("/".intercalate (c :: p)).toList =
          (c :: p).map String.toList := by
        rw [splitAt_eq_splitOn, String.toList_intercalate]
        apply List.splitOn_intercalate
        · intro l hl
          obtain ⟨c, hc, rfl⟩ := List.mem_map.mp hl
          exact (h c hc).slash
        · simp
      have hnames : ((c :: p).map String.toList).map String.ofList = c :: p := by
        rw [List.map_map]
        exact List.map_id'' (fun _ => String.ofList_toList) _
      rw [components, hparts, hnames, List.filter_eq_self]
      intro c hc
      simp [(h c hc).ne_empty, (h c hc).ne_dot]

theorem isCode_iff (path : String) :
    isCode path = true ↔ Text.lower (suffix path) ∈ codeSuffixes ∧
      ∀ pattern ∈ skippedPatterns, ¬ pattern.toList <:+: path.toList := by
  simp only [isCode, Bool.and_eq_true, Bool.not_eq_true', List.any_eq_false, List.contains_iff_mem,
    Text.occursIn_iff]
  exact and_comm

end Path

end PullReview
