import PullReview.Proofs.FileTree
import PullReview.Proofs.Table

/-!
# What a change leaves alone

A path leads to one place whatever the tree holds, unless it leads nowhere. Making directories fills
missing places along a path, writing a file fills the place its path leads to, and removing empties
it: all other places keep their nodes, also if the change fails on its way.
-/

namespace PullReview

namespace Path

private theorem destination_append (path more : List String) :
    destination (path ++ more) =
      more.foldl (fun place c => if c == ".." then place.dropLast else place ++ [c])
        (destination path) := by
  rw [destination, List.foldl_append, ← destination]

theorem destination_append_names (path : List String) {more : List String}
    (hmore : ∀ c ∈ more, c ≠ "..") : destination (path ++ more) = destination path ++ more := by
  rw [destination_append]
  generalize destination path = place
  induction more generalizing place with
  | nil => simp
  | cons c more ih =>
      have hc : (c == "..") = false := by simpa using hmore c (by simp)
      have hmore' : ∀ d ∈ more, d ≠ ".." := fun d hd => hmore d (by simp [hd])
      rw [List.foldl_cons, hc, if_neg Bool.false_ne_true, ih hmore', ← List.append_cons]

end Path

namespace FileTree

open PullReview.Path (destination)

/-! ### Nodes -/

@[simp]
theorem node?_nil (t : FileTree) : t.node? [] = some .directory := rfl

theorem node?_of_ne_nil (t : FileTree) {place : List String} (h : place ≠ []) :
    t.node? place = t.nodes.lookup place := by
  simp [node?, h]

theorem node?_put_of_ne {t : FileTree} {place other : List String} (n : Node)
    (h : other ≠ place) : (t.put place n).node? other = t.node? other := by
  by_cases hnil : other = []
  · simp [hnil]
  · rw [node?_of_ne_nil _ hnil, node?_of_ne_nil _ hnil, put, List.lookup_append,
      Table.lookup_filter_key (· != place), Table.lookup_cons_eq]
    simp [h]

theorem node?_put_self {t : FileTree} {place : List String} (n : Node) (h : place ≠ []) :
    (t.put place n).node? place = some n := by
  rw [node?_of_ne_nil _ h, put, List.lookup_append, Table.lookup_filter_key (· != place),
    Table.lookup_cons_eq]
  simp

private theorem node?_erase (t : FileTree) (place other : List String) :
    (t.erase place).node? other = t.node? other ∨
      other = place ∧ (t.erase place).node? other = none := by
  by_cases hnil : other = []
  · simp [hnil]
  · rw [node?_of_ne_nil _ hnil, node?_of_ne_nil _ hnil, erase,
      Table.lookup_filter_key (· != place)]
    by_cases h : other = place <;> simp [h]

/-! ### Where paths lead -/

theorem follow_eq_foldl {t : FileTree} {place path place' : List String}
    (h : t.follow place path = .ok place') :
    place' = path.foldl (fun p c => if c == ".." then p.dropLast else p ++ [c]) place := by
  induction path generalizing place with
  | nil => exact (Except.ok.inj h).symm
  | cons c path ih => exact ih (follow_cons_ok_iff.mp h).2

theorem locate_eq_destination {t : FileTree} {path place : List String}
    (h : t.locate path = .ok place) : place = destination path :=
  follow_eq_foldl (locate_ok_iff.mp h).2

private theorem follow_of_directories {t t' : FileTree} {place path place' : List String}
    (hkeep : ∀ p, t.node? p = some .directory → t'.node? p = some .directory)
    (h : t.follow place path = .ok place') : t'.follow place path = .ok place' := by
  induction path generalizing place with
  | nil => exact h
  | cons c path ih =>
      obtain ⟨hplace, h⟩ := follow_cons_ok_iff.mp h
      exact follow_cons_ok_iff.mpr ⟨hkeep _ hplace, ih h⟩

private theorem locate_of_directories {t t' : FileTree} {path place : List String}
    (hkeep : ∀ p, t.node? p = some .directory → t'.node? p = some .directory)
    (h : t.locate path = .ok place) : t'.locate path = .ok place := by
  obtain ⟨hnull, h⟩ := locate_ok_iff.mp h
  exact locate_ok_iff.mpr ⟨hnull, follow_of_directories hkeep h⟩

theorem isDirectory_iff {t : FileTree} {path : List String} :
    t.isDirectory path = true ↔
      ∃ place, t.locate path = .ok place ∧ t.node? place = some .directory := by
  rw [isDirectory, at?]
  cases hplace : t.locate path with
  | error e => simp
  | ok place =>
      simp only [Except.ok.injEq, exists_eq_left']
      cases hnode : t.node? place with
      | none => simp
      | some n => cases n <;> simp

/-- Every part of the way to a directory is a directory. -/
theorem node?_destination_of_isDirectory {t : FileTree} {path part : List String}
    (h : t.isDirectory path = true) (hpart : part <+: path) :
    t.node? (destination part) = some .directory := by
  obtain ⟨rest, rfl⟩ := hpart
  obtain ⟨place, hplace, hnode⟩ := isDirectory_iff.mp h
  obtain ⟨middle, hpart, hrest⟩ := follow_append_ok_iff.mp (locate_ok_iff.mp hplace).2
  have hmiddle : middle = destination part := follow_eq_foldl hpart
  rw [← hmiddle]
  cases rest with
  | nil =>
      rw [follow] at hrest
      rw [Except.ok.inj hrest]
      exact hnode
  | cons c rest => exact (follow_cons_ok_iff.mp hrest).1

/-! ### Reading -/

private theorem read_eq {t : FileTree} {path : List String} {bytes : List UInt8}
    (h : t.read path = .ok bytes) :
    ∃ place, t.locate path = .ok place ∧ t.node? place = some (.file bytes) := by
  obtain ⟨place, hplace, h⟩ := bind_ok h
  split at h
  · cases h
  · cases h
  · rename_i hnode
    exact ⟨place, hplace, hnode.trans (by rw [Except.ok.inj h])⟩

theorem read_of_not_holds {t : FileTree} {path : List String} (h : t.holds path = false) :
    ∃ e, t.read path = .error e := by
  cases hread : t.read path with
  | error e => exact ⟨e, rfl⟩
  | ok bytes =>
      obtain ⟨place, hplace, hnode⟩ := read_eq hread
      rw [holds, at?, hplace] at h
      simp [hnode] at h

/-- A file that can be read lies in a directory. -/
theorem isDirectory_of_read {t : FileTree} {path : List String} {name : String}
    {bytes : List UInt8} (h : t.read (path ++ [name]) = .ok bytes) : t.isDirectory path = true := by
  obtain ⟨place, hplace, _⟩ := read_eq h
  obtain ⟨hnull, hplace⟩ := locate_ok_iff.mp hplace
  obtain ⟨middle, hpath, hname⟩ := follow_append_ok_iff.mp hplace
  have habove : ∀ c ∈ path, '\x00' ∉ c.toList := fun c hc => hnull c (List.mem_append_left _ hc)
  exact isDirectory_iff.mpr ⟨middle, locate_ok_iff.mpr ⟨habove, hpath⟩,
    (follow_cons_ok_iff.mp hname).1⟩

/-! ### Making directories -/

/-- Between two trees only directories were made, each at a missing place that a part of the path
leads to. -/
def MadeAlong (path : List String) (t t' : FileTree) : Prop :=
  ∀ place, t'.node? place = t.node? place ∨
    t.node? place = none ∧ t'.node? place = some .directory ∧
      ∃ part, part <+: path ∧ destination part = place

theorem MadeAlong.refl (path : List String) (t : FileTree) : MadeAlong path t t :=
  fun _ => .inl rfl

theorem MadeAlong.mono {path longer : List String} {t t' : FileTree} (h : MadeAlong path t t')
    (hpath : path <+: longer) : MadeAlong longer t t' := by
  intro place
  rcases h place with h | ⟨hbefore, hafter, part, hpart, hplace⟩
  · exact .inl h
  · exact .inr ⟨hbefore, hafter, part, hpart.trans hpath, hplace⟩

theorem MadeAlong.trans {path : List String} {t₁ t₂ t₃ : FileTree} (h₁ : MadeAlong path t₁ t₂)
    (h₂ : MadeAlong path t₂ t₃) : MadeAlong path t₁ t₃ := by
  intro place
  rcases h₁ place with h | ⟨hbefore, hafter, hpart⟩
  · rw [← h]
    exact h₂ place
  · have hkept : t₃.node? place = some .directory := by
      rcases h₂ place with h | ⟨hmissing, _⟩
      · rw [h, hafter]
      · rw [hmissing] at hafter
        cases hafter
    exact .inr ⟨hbefore, hkept, hpart⟩

private theorem ne_nil_of_node?_eq_none {t : FileTree} {place : List String}
    (h : t.node? place = none) : place ≠ [] := by
  rintro rfl
  simp at h

private theorem makeDirectory_madeAlong {t t' : FileTree} {path : List String}
    (h : t.makeDirectory path = .ok t') : MadeAlong path t t' := by
  obtain ⟨place, hplace, hmissing, rfl⟩ := makeDirectory_eq h
  intro other
  by_cases hother : other = place
  · subst hother
    exact .inr ⟨hmissing, node?_put_self _ (ne_nil_of_node?_eq_none hmissing), path,
      List.prefix_rfl, (locate_eq_destination hplace).symm⟩
  · exact .inl (node?_put_of_ne _ hother)

private theorem isDirectory_makeDirectory {t t' : FileTree} {path : List String}
    (h : t.makeDirectory path = .ok t') : t'.isDirectory path = true := by
  obtain ⟨place, hplace, hmissing, rfl⟩ := makeDirectory_eq h
  have hkeep : ∀ p, t.node? p = some .directory →
      (t.put place .directory).node? p = some .directory := by
    intro p hp
    have hne : p ≠ place := by
      rintro rfl
      rw [hmissing] at hp
      cases hp
    rw [node?_put_of_ne _ hne, hp]
  exact isDirectory_iff.mpr ⟨place, locate_of_directories hkeep hplace,
    node?_put_self _ (ne_nil_of_node?_eq_none hmissing)⟩

private theorem keepDirectory_madeAlong {t : FileTree} {path : List String}
    {answer : Except FileError FileTree} (hanswer : ∀ t', answer = .ok t' → MadeAlong path t t') :
    MadeAlong path t (t.keepDirectory path answer).2 := by
  cases answer with
  | ok made => exact hanswer made rfl
  | error e =>
      rw [keepDirectory]
      split <;> exact .refl path t

private theorem makeDirectoriesReversed_madeAlong (t : FileTree) (path : List String) :
    MadeAlong path.reverse t (t.makeDirectoriesReversed path).2 := by
  induction path with
  | nil => exact .refl _ t
  | cons c above ih =>
      have habove : MadeAlong (c :: above).reverse t (t.makeDirectoriesReversed above).2 :=
        ih.mono (by simp)
      rw [makeDirectoriesReversed]
      split
      · split
        · rename_i made hmade
          rw [hmade] at habove
          exact habove.trans (keepDirectory_madeAlong fun _ => makeDirectory_madeAlong)
        · exact habove
      · exact keepDirectory_madeAlong fun _ => makeDirectory_madeAlong

/-- Making directories changes nothing but missing places along their path, also if it fails. -/
theorem makeDirectories_madeAlong (t : FileTree) (path : List String) :
    MadeAlong path t (t.makeDirectories path).2 := by
  have h := makeDirectoriesReversed_madeAlong t path.reverse
  rwa [List.reverse_reverse] at h

private theorem isDirectory_keepDirectory {t : FileTree} {path : List String}
    {answer : Except FileError FileTree}
    (hanswer : ∀ t', answer = .ok t' → t'.isDirectory path = true)
    (h : (t.keepDirectory path answer).1 = .ok ()) :
    (t.keepDirectory path answer).2.isDirectory path = true := by
  cases answer with
  | ok made => exact hanswer made rfl
  | error e =>
      rw [keepDirectory] at h ⊢
      split at h
      · rename_i hdirectory
        rw [if_pos hdirectory]
        exact hdirectory
      · cases h

theorem isDirectory_makeDirectories {t : FileTree} {path : List String}
    (h : (t.makeDirectories path).1 = .ok ()) :
    (t.makeDirectories path).2.isDirectory path = true := by
  rw [makeDirectories] at h ⊢
  cases hreverse : path.reverse with
  | nil =>
      have hpath : path = [] := List.reverse_eq_nil_iff.mp hreverse
      subst hpath
      rfl
  | cons c above =>
      have hpath : (c :: above).reverse = path := by rw [← hreverse, List.reverse_reverse]
      rw [hreverse, makeDirectoriesReversed, hpath] at h
      rw [makeDirectoriesReversed, hpath]
      revert h
      split
      · split
        · exact isDirectory_keepDirectory fun _ => isDirectory_makeDirectory
        · rename_i hfailed
          intro hok
          have heq : t.makeDirectoriesReversed above =
              (.ok (), (t.makeDirectoriesReversed above).2) := Prod.ext hok rfl
          exact absurd heq (hfailed _)
      · exact isDirectory_keepDirectory fun _ => isDirectory_makeDirectory

private theorem makeDirectory_of_isDirectory {t : FileTree} {path : List String}
    (h : t.isDirectory path = true) : t.makeDirectory path = .error .alreadyThere := by
  obtain ⟨place, hplace, hnode⟩ := isDirectory_iff.mp h
  rw [makeDirectory, hplace]
  simp only [bind, Except.bind, hnode]

theorem makeDirectories_of_isDirectory {t : FileTree} {path : List String}
    (h : t.isDirectory path = true) : t.makeDirectories path = (.ok (), t) := by
  rw [makeDirectories]
  cases hreverse : path.reverse with
  | nil => rfl
  | cons c above =>
      have hpath : (c :: above).reverse = path := by rw [← hreverse, List.reverse_reverse]
      rw [makeDirectoriesReversed, hpath]
      simp only [makeDirectory_of_isDirectory h, keepDirectory, h, if_true]

/-! ### Writing -/

theorem node?_write_of_ne {t t' : FileTree} {path other : List String} {bytes : List UInt8}
    (h : t.write path bytes = .ok t') (hother : other ≠ destination path) :
    t'.node? other = t.node? other := by
  obtain ⟨place, hplace, _, rfl⟩ := write_eq h
  rw [← locate_eq_destination hplace] at hother
  exact node?_put_of_ne _ hother

/-- A file that can be read can be written. -/
theorem write_of_read {t : FileTree} {path : List String} {old : List UInt8}
    (h : t.read path = .ok old) (bytes : List UInt8) : ∃ t', t.write path bytes = .ok t' := by
  obtain ⟨place, hplace, hnode⟩ := read_eq h
  refine ⟨t.put place (.file bytes), ?_⟩
  rw [write, hplace]
  simp only [bind, Except.bind, hnode]
  rfl

/-- What was written can be read. -/
theorem read_write {t t' : FileTree} {path : List String} {bytes : List UInt8}
    (h : t.write path bytes = .ok t') : t'.read path = .ok bytes := by
  obtain ⟨place, hplace, hnode, rfl⟩ := write_eq h
  have hne : place ≠ [] := by
    rintro rfl
    exact hnode (node?_nil t)
  -- the place held no directory, so the way to it does not pass through it
  have hkeep : ∀ p, t.node? p = some .directory →
      (t.put place (.file bytes)).node? p = some .directory := by
    intro p hp
    have hpne : p ≠ place := by
      rintro rfl
      exact hnode hp
    rw [node?_put_of_ne _ hpne, hp]
  rw [read, locate_of_directories hkeep hplace]
  simp only [bind, Except.bind, node?_put_self _ hne]
  rfl

/-! ### Removing -/

/-- Between two trees nothing changed but places at or below a root, which are gone. -/
def RemovedBelow (root : List String) (t t' : FileTree) : Prop :=
  ∀ place, t'.node? place = t.node? place ∨ root <+: place ∧ t'.node? place = none

theorem RemovedBelow.refl (root : List String) (t : FileTree) : RemovedBelow root t t :=
  fun _ => .inl rfl

theorem RemovedBelow.trans {root : List String} {t₁ t₂ t₃ : FileTree}
    (h₁ : RemovedBelow root t₁ t₂) (h₂ : RemovedBelow root t₂ t₃) : RemovedBelow root t₁ t₃ := by
  intro place
  rcases h₂ place with h | h
  · rw [h]
    exact h₁ place
  · exact .inr h

theorem removeFile_eq {t t' : FileTree} {path : List String} (h : t.removeFile path = .ok t') :
    ∃ place, t.locate path = .ok place ∧ t' = t.erase place := by
  obtain ⟨place, hplace, h⟩ := bind_ok h
  split at h
  · cases h
  · cases h
  · exact ⟨place, hplace, (Except.ok.inj h).symm⟩

theorem removeDirectory_eq {t t' : FileTree} {path : List String}
    (h : t.removeDirectory path = .ok t') :
    ∃ place, t.locate path = .ok place ∧ t' = t.erase place := by
  obtain ⟨place, hplace, h⟩ := bind_ok h
  split at h
  · cases h
  · cases h
  · split at h
    · cases h
    · exact ⟨place, hplace, (Except.ok.inj h).symm⟩

theorem erase_removedBelow {t : FileTree} {root path place : List String}
    (hroot : root <+: destination path) (hplace : t.locate path = .ok place) :
    RemovedBelow root t (t.erase place) := by
  intro other
  rcases node?_erase t place other with hnode | ⟨rfl, hnode⟩
  · exact .inl hnode
  · exact .inr ⟨locate_eq_destination hplace ▸ hroot, hnode⟩

theorem holds_erase {t : FileTree} {path : List String} (h : destination path ≠ []) :
    (t.erase (destination path)).holds path = false := by
  have hgone : (t.erase (destination path)).node? (destination path) = none := by
    rw [node?_of_ne_nil _ h, erase, Table.lookup_filter_key (· != destination path)]
    simp
  rw [holds, at?]
  split
  · rename_i place hplace
    rw [locate_eq_destination hplace, hgone, Option.isSome_none]
  · rfl

end FileTree

end PullReview
