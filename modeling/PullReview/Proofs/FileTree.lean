import PullReview.FileTree
import PullReview.Proofs.Failure
import PullReview.Proofs.Path

/-!
# Trees of files

In a tree that was made by adding files, every place has one node and all names are proper ones. The
paths below a directory are then all different, and a path of proper names leads from the directory
to a file exactly if it is one of them and has a text.
-/

namespace PullReview.FileTree

/-- A name that a file or a directory can have. -/
def isName (c : String) : Bool :=
  c != "" && c != "." && c != ".." && !c.toList.contains '/' && !c.toList.contains '\x00'

/-- Every place has one node, and all its components are names. -/
structure Proper (t : FileTree) : Prop where
  distinct : (t.nodes.map Prod.fst).Nodup
  names : ∀ place ∈ t.nodes.map Prod.fst, ∀ c ∈ place, isName c = true

theorem isName_iff {c : String} :
    isName c = true ↔ Path.IsComponent c ∧ c ≠ ".." ∧ '\x00' ∉ c.toList := by
  constructor
  · intro h
    simp only [isName, Bool.and_eq_true, bne_iff_ne, Bool.not_eq_true', List.contains_eq_mem,
      decide_eq_false_iff_not] at h
    exact ⟨⟨h.1.1.1.1, h.1.1.1.2, h.1.2⟩, h.1.1.2, h.2⟩
  · rintro ⟨hc, hdots, hnull⟩
    simp [isName, hc.ne_empty, hc.ne_dot, hc.slash, hdots, hnull]

/-! ### Following paths -/

/-- A path leads on from directories only. -/
theorem follow_cons_ok_iff {t : FileTree} {place path place' : List String} {c : String} :
    t.follow place (c :: path) = .ok place' ↔ t.node? place = some .directory ∧
      t.follow (if c == ".." then place.dropLast else place ++ [c]) path = .ok place' := by
  rw [follow]
  cases t.node? place with
  | none => simp
  | some n => cases n <;> simp

theorem follow_append_ok_iff {t : FileTree} {place p q place' : List String} :
    t.follow place (p ++ q) = .ok place' ↔
      ∃ middle, t.follow place p = .ok middle ∧ t.follow middle q = .ok place' := by
  induction p generalizing place with
  | nil => simp [follow]
  | cons c p ih => simp only [List.cons_append, follow_cons_ok_iff, ih, and_assoc, exists_and_left]

theorem locate_ok_iff {t : FileTree} {path place : List String} :
    t.locate path = .ok place ↔
      (∀ c ∈ path, '\x00' ∉ c.toList) ∧ t.follow [] path = .ok place := by
  rw [locate]
  split
  · rename_i hany
    obtain ⟨c, hc, hnull⟩ := List.any_eq_true.mp hany
    constructor
    · intro h
      cases h
    · rintro ⟨hnone, -⟩
      exact absurd (List.contains_iff_mem.mp hnull) (hnone c hc)
  · rename_i hany
    have hnone : ∀ c ∈ path, '\x00' ∉ c.toList := fun c hc hnull =>
      hany (List.any_eq_true.mpr ⟨c, hc, List.contains_iff_mem.mpr hnull⟩)
    exact ⟨fun h => ⟨hnone, h⟩, And.right⟩

private theorem follow_eq_append {t : FileTree} {place p place' : List String}
    (hp : ∀ c ∈ p, c ≠ "..") (h : t.follow place p = .ok place') : place' = place ++ p := by
  induction p generalizing place with
  | nil =>
      rw [List.append_nil]
      exact (Except.ok.inj h).symm
  | cons c p ih =>
      obtain ⟨-, h⟩ := follow_cons_ok_iff.mp h
      have hc : (c == "..") = false := by simpa using hp c (by simp)
      rw [hc] at h
      rw [List.append_cons]
      exact ih (fun d hd => hp d (by simp [hd])) h

private theorem locate_append {t : FileTree} {root p place : List String} (hp : ∀ c ∈ p, c ≠ "..")
    (h : t.locate (root ++ p) = .ok place) :
    ∃ above, t.locate root = .ok above ∧ place = above ++ p := by
  obtain ⟨hnull, h⟩ := locate_ok_iff.mp h
  obtain ⟨above, habove, h⟩ := follow_append_ok_iff.mp h
  have hroot : ∀ c ∈ root, '\x00' ∉ c.toList := fun c hc => hnull c (List.mem_append_left p hc)
  exact ⟨above, locate_ok_iff.mpr ⟨hroot, habove⟩, follow_eq_append hp h⟩

theorem isFile_eq (t : FileTree) (path : List String) :
    t.isFile path = (t.readLossy? path).isSome := by
  rw [isFile, at?, readLossy?, read]
  cases hplace : t.locate path with
  | error e => rfl
  | ok place =>
      simp only [bind, Except.bind]
      cases hnode : t.node? place with
      | none => rfl
      | some n => cases n <;> rfl

/-! ### What is below a directory -/

theorem mem_below_iff {t : FileTree} {root p : List String} :
    p ∈ t.below root ↔ ∃ place, t.locate root = .ok place ∧ p ≠ [] ∧
      place ++ p ∈ t.nodes.map Prod.fst := by
  rw [below]
  cases hplace : t.locate root with
  | error e => simp
  | ok place =>
      simp only [List.mem_mergeSort, List.mem_map, List.mem_filter, isBelow, Bool.and_eq_true,
        decide_eq_true_eq, List.isPrefixOf_iff_prefix, Except.ok.injEq, exists_eq_left']
      constructor
      · rintro ⟨n, ⟨hn, hlength, rest, hrest⟩, rfl⟩
        rw [← hrest, List.length_append] at hlength
        rw [← hrest, List.drop_left]
        refine ⟨?_, n, hn, hrest.symm⟩
        rintro rfl
        simp at hlength
      · rintro ⟨hp, n, hn, hplaces⟩
        have hpos := List.length_pos_iff.mpr hp
        refine ⟨n, ⟨hn, ?_, p, hplaces.symm⟩, ?_⟩
        · rw [hplaces, List.length_append]
          omega
        · rw [hplaces, List.drop_left]

theorem mem_below_of_isFile {t : FileTree} {root p : List String} (hne : p ≠ [])
    (hp : ∀ c ∈ p, c ≠ "..") (h : t.isFile (root ++ p) = true) : p ∈ t.below root := by
  rw [isFile, at?] at h
  cases hplace : t.locate (root ++ p) with
  | error e => simp [hplace] at h
  | ok place =>
      obtain ⟨above, habove, rfl⟩ := locate_append hp hplace
      have hplaces : above ++ p ≠ [] := List.append_ne_nil_of_right_ne_nil above hne
      refine mem_below_iff.mpr ⟨above, habove, hne, ?_⟩
      simp only [hplace, node?, List.isEmpty_eq_false_iff.mpr hplaces] at h
      cases hnode : t.nodes.lookup (above ++ p) with
      | none => simp [hnode] at h
      | some n =>
          obtain ⟨before, after, hnodes, _⟩ := List.lookup_eq_some_iff.mp hnode
          simp [hnodes]

theorem Proper.below_nodup {t : FileTree} (ht : t.Proper) (root : List String) :
    (t.below root).Nodup := by
  rw [below]
  split
  · rename_i place _
    have hdistinct : (t.nodes.filter fun n => isBelow place n.1).Pairwise fun a b => a.1 ≠ b.1 :=
      (List.pairwise_map.mp ht.distinct).filter _
    rw [(List.mergeSort_perm _ _).nodup_iff, List.Nodup, List.pairwise_map]
    refine hdistinct.imp_of_mem fun {a b} ha hb hne heq => hne ?_
    simp only [List.mem_filter, isBelow, Bool.and_eq_true, List.isPrefixOf_iff_prefix] at ha hb
    obtain ⟨more, hmore⟩ := ha.2.2
    obtain ⟨other, hother⟩ := hb.2.2
    rw [← hmore, ← hother, List.drop_left, List.drop_left] at heq
    rw [← hmore, ← hother, heq]
  · exact List.nodup_nil

theorem Proper.isName_of_mem_below {t : FileTree} (ht : t.Proper) {root p : List String}
    (hp : p ∈ t.below root) : ∀ c ∈ p, isName c = true := by
  obtain ⟨place, _, _, hmem⟩ := mem_below_iff.mp hp
  exact fun c hc => ht.names _ hmem c (List.mem_append_right place hc)

/-! ### Adding files -/

private theorem proper_empty : Proper {} := ⟨List.nodup_nil, by simp⟩

theorem Proper.put {t : FileTree} (ht : t.Proper) {place : List String}
    (hplace : ∀ c ∈ place, isName c = true) (n : Node) : (t.put place n).Proper := by
  constructor
  · rw [FileTree.put, List.map_append, List.nodup_append]
    refine ⟨?_, by simp, ?_⟩
    · exact (List.filter_sublist.map Prod.fst).nodup ht.distinct
    · intro a ha b hb heq
      obtain ⟨m, hm, rfl⟩ := List.mem_map.mp ha
      have hne := (List.mem_filter.mp hm).2
      simp_all
  · intro other hother
    rw [FileTree.put, List.map_append, List.mem_append] at hother
    rcases hother with hother | hother
    · exact ht.names other ((List.filter_sublist.map Prod.fst).subset hother)
    · obtain rfl : other = place := by simpa using hother
      exact hplace

private theorem isName_follow {t : FileTree} {place path place' : List String}
    (hplace : ∀ c ∈ place, isName c = true)
    (hpath : ∀ c ∈ path, Path.IsComponent c ∧ '\x00' ∉ c.toList)
    (h : t.follow place path = .ok place') : ∀ c ∈ place', isName c = true := by
  induction path generalizing place with
  | nil => exact Except.ok.inj h ▸ hplace
  | cons c path ih =>
      obtain ⟨-, h⟩ := follow_cons_ok_iff.mp h
      refine ih ?_ (fun d hd => hpath d (by simp [hd])) h
      intro d hd
      split at hd
      · exact hplace d (List.dropLast_subset place hd)
      · rename_i hc
        rcases List.mem_append.mp hd with hd | hd
        · exact hplace d hd
        · obtain rfl := List.mem_singleton.mp hd
          exact isName_iff.mpr ⟨(hpath d (by simp)).1, by simpa using hc, (hpath d (by simp)).2⟩

private theorem isName_locate {t : FileTree} {path place : List String}
    (hpath : ∀ c ∈ path, Path.IsComponent c) (h : t.locate path = .ok place) :
    ∀ c ∈ place, isName c = true := by
  obtain ⟨hnull, h⟩ := locate_ok_iff.mp h
  exact isName_follow (by simp) (fun c hc => ⟨hpath c hc, hnull c hc⟩) h

theorem makeDirectory_eq {t t' : FileTree} {path : List String}
    (h : t.makeDirectory path = .ok t') :
    ∃ place, t.locate path = .ok place ∧ t.node? place = none ∧
      t' = t.put place .directory := by
  obtain ⟨place, hplace, h⟩ := bind_ok h
  split at h
  · cases h
  · rename_i hmissing
    exact ⟨place, hplace, hmissing, (Except.ok.inj h).symm⟩

theorem write_eq {t t' : FileTree} {path : List String} {bytes : List UInt8}
    (h : t.write path bytes = .ok t') :
    ∃ place, t.locate path = .ok place ∧ t.node? place ≠ some .directory ∧
      t' = t.put place (.file bytes) := by
  obtain ⟨place, hplace, h⟩ := bind_ok h
  split at h
  · cases h
  · rename_i hnode
    exact ⟨place, hplace, hnode, (Except.ok.inj h).symm⟩

/-- What stays true when a node is put where a path leads, unless that replaces a directory. -/
def KeptByPut (P : FileTree → Prop) : Prop :=
  ∀ (t : FileTree) (path place : List String) (n : Node), P t →
    (∀ c ∈ path, Path.IsComponent c) → t.locate path = .ok place →
    (t.node? place = some .directory → n = .directory) → P (t.put place n)

private theorem keptByPut_proper : KeptByPut Proper :=
  fun _ _ _ n ht hpath hplace _ => ht.put (isName_locate hpath hplace) n

section KeptByPut

variable {P : FileTree → Prop} (hP : KeptByPut P)

include hP

theorem KeptByPut.makeDirectory {t t' : FileTree} (ht : P t) {path : List String}
    (hpath : ∀ c ∈ path, Path.IsComponent c) (h : t.makeDirectory path = .ok t') : P t' := by
  obtain ⟨place, hplace, -, rfl⟩ := makeDirectory_eq h
  exact hP t path place .directory ht hpath hplace fun _ => rfl

omit hP in
private theorem keepDirectory_of_ok {t : FileTree} (ht : P t) {path : List String}
    {answer : Except FileError FileTree} (hanswer : ∀ t', answer = .ok t' → P t') :
    P (t.keepDirectory path answer).2 := by
  cases answer with
  | ok made => exact hanswer made rfl
  | error e =>
      rw [FileTree.keepDirectory]
      split <;> exact ht

theorem KeptByPut.makeDirectoriesReversed {t : FileTree} (ht : P t) {path : List String}
    (hpath : ∀ c ∈ path, Path.IsComponent c) : P (t.makeDirectoriesReversed path).2 := by
  induction path with
  | nil => exact ht
  | cons c above ih =>
      have hreversed : ∀ d ∈ (c :: above).reverse, Path.IsComponent d :=
        fun d hd => hpath d (List.mem_reverse.mp hd)
      have habove := ih fun d hd => hpath d (by simp [hd])
      rw [FileTree.makeDirectoriesReversed]
      split
      · split
        · rename_i t₁ heq
          rw [heq] at habove
          exact keepDirectory_of_ok habove fun _ => hP.makeDirectory habove hreversed
        · exact habove
      · exact keepDirectory_of_ok ht fun _ => hP.makeDirectory ht hreversed

theorem KeptByPut.makeDirectories {t t' : FileTree} (ht : P t) {path : List String}
    (hpath : ∀ c ∈ path, Path.IsComponent c)
    (h : (t.makeDirectories path).unlessFailed = .ok t') : P t' := by
  have hmade : P (t.makeDirectories path).2 :=
    hP.makeDirectoriesReversed ht fun c hc => hpath c (List.mem_reverse.mp hc)
  cases houtcome : t.makeDirectories path with
  | mk answer made =>
      rw [houtcome] at h hmade
      cases answer with
      | error e => cases h
      | ok u => exact Except.ok.inj h ▸ hmade

theorem KeptByPut.write {t t' : FileTree} (ht : P t) {path : List String}
    (hpath : ∀ c ∈ path, Path.IsComponent c) {bytes : List UInt8}
    (h : t.write path bytes = .ok t') : P t' := by
  obtain ⟨place, hplace, hnode, rfl⟩ := write_eq h
  exact hP t path place _ ht hpath hplace fun hdirectory => absurd hdirectory hnode

/-- Adding a file or a directory keeps it true, whatever its path. -/
theorem KeptByPut.add {t t' : FileTree} (ht : P t) {path : String} {bytes : List UInt8}
    (h : t.add path bytes = .ok t') : P t' := by
  have hpath : ∀ c ∈ Path.components path, Path.IsComponent c := fun _ => Path.isComponent_of_mem
  rw [FileTree.add] at h
  split at h
  · exact hP.makeDirectories ht hpath h
  · cases habove : (t.makeDirectories (Path.components path).dropLast).unlessFailed with
    | error e => rw [habove] at h; cases h
    | ok t₁ =>
        rw [habove] at h
        have ht₁ : P t₁ :=
          hP.makeDirectories ht (fun c hc => hpath c (List.dropLast_subset _ hc)) habove
        exact hP.write ht₁ hpath h

end KeptByPut

/-- The tree of some files; those that have no place are left out. -/
def ofFiles (files : List (String × List UInt8)) : FileTree :=
  files.foldl (fun t f => ((t.add f.1 f.2).toOption).getD t) {}

theorem KeptByPut.ofFiles {P : FileTree → Prop} (hP : KeptByPut P) (hempty : P {})
    (files : List (String × List UInt8)) : P (ofFiles files) := by
  have hfold : ∀ t : FileTree, P t →
      P (files.foldl (fun t f => ((t.add f.1 f.2).toOption).getD t) t) := by
    induction files with
    | nil => exact fun _ ht => ht
    | cons f files ih =>
        intro t ht
        refine ih _ ?_
        show P ((t.add f.1 f.2).toOption.getD t)
        cases hadd : t.add f.1 f.2 with
        | error e => exact ht
        | ok t' => exact hP.add ht hadd
  exact hfold {} hempty

theorem proper_ofFiles (files : List (String × List UInt8)) : (ofFiles files).Proper :=
  keptByPut_proper.ofFiles proper_empty files

end PullReview.FileTree
