import PullReview.Feature
import PullReview.Proofs.Path

/-!
# Every file has a feature

Whatever a path looks like, the feature read off it has a name: upper case never makes a text
empty, and a stem without its role either ends in a character that counts or gives way to the role.
A path that mentions a service has a stem too, and so the service has a name.
-/

namespace PullReview

namespace Text

private theorem upperChar_ne_nil (c : Char) : upperChar c ≠ [] := by
  have hexpansions : ∀ e ∈ upperExpansions, e.2 ≠ [] := by decide
  rw [upperChar]
  split
  · rename_i n cs hfind
    have hcs : cs ≠ [] := hexpansions _ (List.mem_of_find?_eq_some hfind)
    simpa using hcs
  · exact List.cons_ne_nil _ _

private theorem upperFirst_ne_empty {s : String} (h : s ≠ "") : upperFirst s ≠ "" := by
  rw [upperFirst]
  split
  · rename_i hnil
    exact absurd (String.toList_eq_nil_iff.mp hnil) h
  · rename_i c rest _
    have hcs : upperChar c ++ rest ≠ [] := List.append_ne_nil_of_left_ne_nil (upperChar_ne_nil c) _
    simpa using hcs

end Text

namespace Path

private theorem exists_mem_splitAt {sep c : Char} {cs : List Char} (hc : c ∈ cs) (hsep : c ≠ sep) :
    ∃ part ∈ splitAt sep cs, c ∈ part := by
  induction cs with
  | nil => cases hc
  | cons d cs ih =>
      have hrest : c ∈ cs → ∃ part ∈ splitAt sep cs, c ∈ part := ih
      rw [splitAt]
      split
      · rename_i hd
        have hd : d = sep := by simpa using hd
        obtain ⟨part, hpart, hmem⟩ :=
          hrest ((List.mem_cons.mp hc).resolve_left fun heq => hsep (heq.trans hd))
        exact ⟨part, List.mem_cons_of_mem _ hpart, hmem⟩
      · split
        · rename_i first parts hparts
          rcases List.mem_cons.mp hc with rfl | hc
          · exact ⟨_, List.mem_cons_self, List.mem_cons_self⟩
          · obtain ⟨part, hpart, hmem⟩ := hrest hc
            rw [hparts] at hpart
            rcases List.mem_cons.mp hpart with rfl | hpart
            · exact ⟨_, List.mem_cons_self, List.mem_cons_of_mem _ hmem⟩
            · exact ⟨part, List.mem_cons_of_mem _ hpart, hmem⟩
        · rename_i hparts
          rcases List.mem_cons.mp hc with rfl | hc
          · exact ⟨_, List.mem_cons_self, List.mem_cons_self⟩
          · obtain ⟨part, hpart, -⟩ := hrest hc
            simp [hparts] at hpart

end Path

namespace Feature

private theorem camel_ne_empty {s : String} (h : ∃ c ∈ s.toList, isJoint c = false) :
    camel s ≠ "" := by
  obtain ⟨c, hc, hjoint⟩ := h
  simp only [isJoint, Bool.or_eq_false_iff, beq_eq_false_iff_ne] at hjoint
  have hkept : c ∈ (Text.replaceChar '-' '_' s).toList := by
    rw [Text.replaceChar, String.toList_ofList, List.mem_map]
    exact ⟨c, hc, by simp [hjoint.2]⟩
  obtain ⟨part, hpart, hmem⟩ := Path.exists_mem_splitAt hkept hjoint.1
  have hword : Text.upperFirst (String.ofList part) ≠ "" := by
    apply Text.upperFirst_ne_empty
    simpa using List.ne_nil_of_mem hmem
  rw [camel]
  intro hempty
  have hall := congrArg String.toList hempty
  simp only [String.toList_join, String.toList_empty, List.flatMap_eq_nil_iff, List.mem_map] at hall
  exact hword (String.toList_eq_nil_iff.mp (hall _ ⟨part, hpart, rfl⟩))

private theorem ofRole_ne_empty (stem : String) {role : String} (h : role ≠ "") :
    ofRole stem role ≠ "" := by
  rw [ofRole]
  split
  · exact h
  · rename_i hrest
    -- what is left ends in a character that is no joint, or it would have been trimmed
    have hne : (stem.toList.take (stem.toList.length - role.length)).reverse.dropWhile isJoint ≠
        [] := by
      simpa [Text.trimEndBy] using hrest
    apply camel_ne_empty
    refine ⟨_, ?_, List.head_dropWhile_not isJoint hne⟩
    rw [String.toList_ofList, Text.trimEndBy, List.mem_reverse]
    exact List.head_mem hne

/-- The feature of a file has a name. -/
theorem ofPath_ne_empty (path : String) : ofPath path ≠ "" := by
  have hroles : ∀ role ∈ roles, role ≠ "" := by decide
  unfold ofPath
  dsimp only
  generalize hfind : roles.find? (fun role => (Text.lower (Path.stem path)).endsWith
    (Text.lower role)) = found
  cases found with
  | some role =>
      exact ofRole_ne_empty (Path.stem path) (hroles role (List.mem_of_find?_eq_some hfind))
  | none =>
      dsimp only
      split
      · rename_i hparent
        rw [Bool.and_eq_true, bne_iff_ne] at hparent
        exact Text.upperFirst_ne_empty hparent.1
      · split
        · decide
        · rename_i hstem
          simpa using hstem

end Feature

/-! ### Services -/

namespace Path

private theorem eq_slash_or_dot_of_mem {path : String} (h : components path = []) {c : Char}
    (hc : c ∈ path.toList) : c = '/' ∨ c = '.' := by
  by_cases hslash : c = '/'
  · exact Or.inl hslash
  · obtain ⟨part, hpart, hmem⟩ := exists_mem_splitAt hc hslash
    have hgone := List.filter_eq_nil_iff.mp h (String.ofList part) (List.mem_map_of_mem hpart)
    have hdot : part = ['.'] := by
      simp only [Bool.and_eq_true, bne_iff_ne, ne_eq, not_and, Classical.not_not] at hgone
      have hne : String.ofList part ≠ "" := by
        simpa using List.ne_nil_of_mem hmem
      simpa using congrArg String.toList (hgone hne)
    rw [hdot] at hmem
    exact Or.inr (List.mem_singleton.mp hmem)

private theorem pos_of_suffixStart? {cs : List Char} {i : Nat} (h : suffixStart? cs = some i) :
    0 < i := by
  rw [suffixStart?] at h
  split at h
  · dsimp only at h
    split at h
    · rename_i hbounds
      simp only [Bool.and_eq_true, decide_eq_true_eq] at hbounds
      rw [← Option.some.inj h]
      exact hbounds.1
    · cases h
  · cases h

private theorem stem_ne_empty {path : String} (h : components path ≠ []) : stem path ≠ "" := by
  have hlast := List.getLast?_eq_some_getLast h
  have hname : (name path).toList ≠ [] := by
    rw [name, hlast, Option.getD_some]
    simpa using (isComponent_of_mem (List.getLast_mem h)).ne_empty
  rw [stem]
  split
  · rename_i i hstart
    have hpos := pos_of_suffixStart? hstart
    have htake : (name path).toList.take i ≠ [] := fun htake =>
      (List.take_eq_nil_iff.mp htake).elim (by omega) hname
    simpa using htake
  · simpa using hname

end Path

theorem serviceName?_ne_empty {path service : String} (h : serviceName? path = some service) :
    service ≠ "" := by
  rw [serviceName?] at h
  split at h
  · rename_i hservice
    rw [← Option.some.inj h]
    apply Path.stem_ne_empty
    intro hnone
    have hchars : ∀ c ∈ path.toList, c = '/' ∨ c = '.' := fun c hc =>
      Path.eq_slash_or_dot_of_mem hnone hc
    have hlower : Text.lower path = path := Text.lower_eq_self fun c hc => by
      rcases hchars c hc with rfl | rfl <;> decide
    rw [hlower, Text.occursIn_iff] at hservice
    rcases hchars 's' (hservice.subset (by decide)) with h | h <;> exact absurd h (by decide)
  · cases h

end PullReview
