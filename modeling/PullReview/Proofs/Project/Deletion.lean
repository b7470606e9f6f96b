import Mathlib.Data.List.Induction
import PullReview.Proofs.FileTree.Removal
import PullReview.Proofs.Project

/-!
# Deleting a project

A deletion lists what is below the directory of a project and removes it, the last paths first, and
then removes the directory. Each path is still there when its turn comes, and each directory is
empty by then. So the deletion does not fail, and takes away the directory with everything below it
and nothing else.
-/

namespace PullReview.Project

open FileTree (isBelow isName)
open PullReview.Path (destination)

/-- The paths that a deletion removes, in this order. -/
def removals (t : FileTree) (path : List String) : List (List String) :=
  (t.below path).reverse.map (path ++ ·) ++ [path]

private theorem removeAll_append (t : FileTree) (paths more : List (List String)) :
    removeAll t (paths ++ more) =
      match removeAll t paths with
      | (.ok (), t) => removeAll t more
      | failed => failed := by
  induction paths generalizing t with
  | nil => rfl
  | cons path paths ih =>
      rw [List.cons_append, removeAll, removeAll]
      cases removeAt t path with
      | error e => rfl
      | ok t' => exact ih t'

private theorem removeAt_eq {t : FileTree} {path place : List String} {n : Node}
    (hplace : t.locate path = .ok place) (hnode : t.node? place = some n)
    (hempty : n = .directory → t.below path = []) : removeAt t path = .ok (t.erase place) := by
  have hat : t.at? path = some n := by rw [FileTree.at?, hplace, ← hnode]
  cases n with
  | file bytes =>
      rw [removeAt, FileTree.isFile, hat]
      exact FileTree.removeFile_of_node? hplace hnode
  | directory =>
      rw [removeAt, FileTree.isFile, FileTree.isDirectory, hat]
      exact FileTree.removeDirectory_of_below_eq_nil hplace hnode (hempty rfl)

/-- A tree with a directory in it, and the path by which the directory is reached. The way there
does not lead through what is below the directory. -/
structure Site (t : FileTree) (path place : List String) : Prop where
  proper : t.Proper
  rooted : t.Rooted
  located : t.locate path = .ok place
  directory : t.node? place = some .directory
  way : ∀ part, part <+: path → isBelow place (destination part) = false

namespace Site

variable {t : FileTree} {path place : List String}

private theorem mem_below (h : Site t path place) {p : List String} :
    p ∈ t.below path ↔ p ≠ [] ∧ place ++ p ∈ t.nodes.map Prod.fst := by
  rw [FileTree.mem_below_iff, h.located]
  simp

/-- The places of the first paths that a deletion removes. -/
def places (place : List String) (done : List (List String)) : List (List String) :=
  done.map (place ++ ·)

private theorem mem_places {done : List (List String)} {p : List String} :
    place ++ p ∈ places place done ↔ p ∈ done := by
  simp [places]

private theorem exists_of_isBelow {q : List String} (h : isBelow place q = true) :
    ∃ more, more ≠ [] ∧ q = place ++ more := by
  simp only [isBelow, Bool.and_eq_true, decide_eq_true_eq, List.isPrefixOf_iff_prefix] at h
  obtain ⟨hlength, more, rfl⟩ := h
  refine ⟨more, ?_, rfl⟩
  rintro rfl
  simp at hlength

private theorem mem_of_listed {done rest : List (List String)} {p : List String}
    (hlist : (t.below path).reverse = done ++ p :: rest) : p ∈ t.below path := by
  rw [← List.mem_reverse, hlist]
  simp

private theorem notMem_places (h : Site t path place) {done rest : List (List String)}
    (hlist : (t.below path).reverse = done ++ rest) {q : List String}
    (hq : isBelow place q = false) : q ∉ places place done := by
  intro hmem
  obtain ⟨p, hp, rfl⟩ := List.mem_map.mp hmem
  have hbelow : p ∈ t.below path := by
    rw [← List.mem_reverse, hlist]
    exact List.mem_append_left rest hp
  rw [isBelow_append (h.mem_below.mp hbelow).1] at hq
  cases hq

private theorem locate_without (h : Site t path place) {done rest : List (List String)}
    (hlist : (t.below path).reverse = done ++ rest) :
    (t.without (places place done)).locate path = .ok place := by
  apply FileTree.locate_congr _ h.located
  intro part hpart _
  exact FileTree.node?_without_of_notMem t (h.notMem_places hlist (h.way part hpart))

private theorem sorted (h : Site t path place) {done rest : List (List String)} {p : List String}
    (hlist : (t.below path).reverse = done ++ p :: rest) :
    p ∉ done ∧ (∀ q ∈ done, FileTree.notAfter p q = true) ∧
      ∀ q ∈ rest, FileTree.notAfter q p = true := by
  have hnodup : (done ++ p :: rest).Nodup := by
    rw [← hlist, (List.reverse_perm _).nodup_iff]
    exact h.proper.below_nodup path
  have horder : (done ++ p :: rest).Pairwise fun a b => FileTree.notAfter b a = true := by
    rw [← hlist, List.pairwise_reverse]
    exact FileTree.below_pairwise t path
  rw [List.pairwise_append, List.pairwise_cons] at horder
  refine ⟨?_, fun q hq => horder.2.2 q hq p (by simp), horder.2.1.1⟩
  intro hp
  exact (List.nodup_append.mp hnodup).2.2 p hp p (by simp) rfl

/-- When its turn comes, a path still leads where it led: the directories between the project and
its place come later. -/
theorem locate_turn (h : Site t path place) {done rest : List (List String)} {p : List String}
    (hlist : (t.below path).reverse = done ++ p :: rest) :
    (t.without (places place done)).locate (path ++ p) = .ok (place ++ p) := by
  obtain ⟨_, hdone, _⟩ := h.sorted hlist
  have hp : p ∈ t.below path := mem_of_listed hlist
  have hmem : place ++ p ∈ t.nodes.map Prod.fst := (h.mem_below.mp hp).2
  apply FileTree.locate_congr _ (FileTree.locate_of_mem h.proper h.rooted h.located hmem)
  intro part hpart hshort
  apply FileTree.node?_without_of_notMem
  rcases List.prefix_or_prefix_of_prefix hpart (List.prefix_append path p) with hway | ⟨above, rfl⟩
  · exact h.notMem_places hlist (h.way part hway)
  · obtain ⟨more, hmore⟩ := (List.prefix_append_right_inj path).mp hpart
    subst hmore
    have hmore : more ≠ [] := by
      rintro rfl
      simp at hshort
    have hdots : ∀ c ∈ above, c ≠ ".." := by
      intro c hc
      have hname := h.proper.isName_of_mem_below hp c (List.mem_append_left more hc)
      exact (FileTree.isName_iff.mp hname).2.1
    rw [Path.destination_append_names path hdots, ← FileTree.locate_eq_destination h.located,
      mem_places]
    intro habove
    have hlate := hdone above habove
    rw [FileTree.notAfter_append hmore] at hlate
    cases hlate

/-- When its turn comes, nothing is left below a path: all of it had its turn before. -/
theorem below_turn (h : Site t path place) {done rest : List (List String)} {p : List String}
    (hlist : (t.below path).reverse = done ++ p :: rest) :
    (t.without (places place done)).below (path ++ p) = [] := by
  obtain ⟨_, _, hrest⟩ := h.sorted hlist
  have hne : p ≠ [] := (h.mem_below.mp (mem_of_listed hlist)).1
  rw [FileTree.below_eq_nil_iff (h.locate_turn hlist), List.any_eq_false]
  intro n hn hbelow
  obtain ⟨hn, hleft⟩ := FileTree.mem_without.mp hn
  obtain ⟨more, hmore, hplaces⟩ := exists_of_isBelow hbelow
  rw [List.append_assoc] at hplaces
  have hlisted : p ++ more ∈ done ++ p :: rest := by
    rw [← hlist, List.mem_reverse, h.mem_below, ← hplaces]
    exact ⟨List.append_ne_nil_of_left_ne_nil hne more, List.mem_map_of_mem hn⟩
  rw [hplaces, mem_places] at hleft
  rcases List.mem_append.mp hlisted with hgone | hlate
  · exact hleft hgone
  · rcases List.mem_cons.mp hlate with hsame | hlate
    · exact hmore (List.append_right_eq_self.mp hsame)
    · have horder := hrest _ hlate
      rw [FileTree.notAfter_append hmore] at horder
      cases horder

private theorem node?_turn (h : Site t path place) {done rest : List (List String)}
    {p : List String} (hlist : (t.below path).reverse = done ++ p :: rest) :
    ∃ n, (t.without (places place done)).node? (place ++ p) = some n := by
  obtain ⟨hnew, _, _⟩ := h.sorted hlist
  obtain ⟨hne, hmem⟩ := h.mem_below.mp (mem_of_listed hlist)
  rw [FileTree.node?_without_of_notMem t (mt mem_places.mp hnew)]
  apply Option.isSome_iff_exists.mp
  rwa [FileTree.node?_isSome_iff (List.append_ne_nil_of_right_ne_nil place hne)]

/-- After some steps exactly the paths that had their turn are gone. -/
theorem removeAll_eq (h : Site t path place) {done rest : List (List String)}
    (hlist : (t.below path).reverse = done ++ rest) :
    removeAll t (done.map (path ++ ·)) = (.ok (), t.without (places place done)) := by
  induction done using List.reverseRecOn generalizing rest with
  | nil =>
      have hnone : t.without (places place []) = t := t.without_nil
      rw [hnone]
      rfl
  | append_singleton done p ih =>
      have hlist' : (t.below path).reverse = done ++ p :: rest := by
        rw [hlist, ← List.append_cons]
      obtain ⟨n, hn⟩ := h.node?_turn hlist'
      have hstep := removeAt_eq (h.locate_turn hlist') hn fun _ => h.below_turn hlist'
      rw [List.map_append, removeAll_append, ih hlist', List.map_singleton]
      simp only [removeAll, hstep]
      rw [FileTree.erase_without, places, places, List.map_append, List.map_singleton]

private theorem last_turn (h : Site t path place) :
    (t.without (places place (t.below path).reverse)).locate path = .ok place ∧
      (t.without (places place (t.below path).reverse)).node? place = some .directory ∧
      (t.without (places place (t.below path).reverse)).below path = [] := by
  have hall : (t.below path).reverse = (t.below path).reverse ++ [] := by rw [List.append_nil]
  have hlocate := h.locate_without hall
  refine ⟨hlocate, ?_, ?_⟩
  · rw [FileTree.node?_without_of_notMem t (h.notMem_places hall (by simp [isBelow])), h.directory]
  · rw [FileTree.below_eq_nil_iff hlocate, List.any_eq_false]
    intro n hn hbelow
    obtain ⟨hn, hleft⟩ := FileTree.mem_without.mp hn
    obtain ⟨more, hmore, hplaces⟩ := exists_of_isBelow hbelow
    rw [hplaces, mem_places, List.mem_reverse, h.mem_below, ← hplaces] at hleft
    exact hleft ⟨hmore, List.mem_map_of_mem hn⟩

/-- The whole run removes the directory and everything below it. -/
theorem node?_after (h : Site t path place) (hne : place ≠ []) (q : List String) :
    (t.without (places place (t.below path).reverse ++ [place])).node? q =
      if place <+: q then none else t.node? q := by
  split
  · rename_i hq
    obtain ⟨more, rfl⟩ := hq
    have hq : place ++ more ≠ [] := List.append_ne_nil_of_left_ne_nil hne more
    rw [FileTree.node?_without t hq]
    split
    · rfl
    · rename_i hkept
      rw [List.mem_append, not_or, mem_places, List.mem_reverse, h.mem_below] at hkept
      have hmore : more ≠ [] := by
        rintro rfl
        simp at hkept
      -- a place that was not listed held no node
      rw [← Option.not_isSome_iff_eq_none, FileTree.node?_isSome_iff hq]
      exact fun hmem => hkept.1 ⟨hmore, hmem⟩
  · rename_i hq
    apply FileTree.node?_without_of_notMem
    rw [List.mem_append, not_or]
    constructor
    · intro hmem
      obtain ⟨p, _, rfl⟩ := List.mem_map.mp hmem
      exact hq (List.prefix_append place p)
    · rw [List.mem_singleton]
      rintro rfl
      exact hq List.prefix_rfl

private theorem turns (h : Site t path place) {done rest : List (List String)} {p : List String}
    (hlist : removals t path = done ++ p :: rest) :
    ∃ t₁, removeAll t done = (.ok (), t₁) ∧ t₁.holds p = true ∧ t₁.below p = [] := by
  have hholds {t₁ : FileTree} {q place₁ : List String} {n : Node}
      (hlocate : t₁.locate q = .ok place₁) (hnode : t₁.node? place₁ = some n) :
      t₁.holds q = true := by
    simp [FileTree.holds, FileTree.at?, hlocate, hnode]
  rcases List.eq_nil_or_concat rest with rfl | ⟨rest, last, rfl⟩
  · -- the directory itself has the last turn
    obtain ⟨hdone, hp⟩ := List.append_inj' hlist rfl
    obtain rfl : path = p := by simpa using hp
    obtain ⟨hlocate, hnode, hempty⟩ := h.last_turn
    rw [← hdone]
    exact ⟨_, h.removeAll_eq (List.append_nil _).symm, hholds hlocate hnode, hempty⟩
  · rw [List.concat_eq_append, ← List.cons_append, ← List.append_assoc] at hlist
    obtain ⟨hlist, _⟩ := List.append_inj' hlist rfl
    obtain ⟨front, back, hsplit, rfl, hback⟩ := List.map_eq_append_iff.mp hlist
    obtain ⟨q, back, rfl, rfl, _⟩ := List.map_eq_cons_iff.mp hback
    obtain ⟨n, hn⟩ := h.node?_turn hsplit
    exact ⟨_, h.removeAll_eq hsplit, hholds (h.locate_turn hsplit) hn, h.below_turn hsplit⟩

end Site

/-! ### Whole deletions -/

private theorem directory_of_isName (memory : List String) {name : String}
    (h : isName name = true) : directory memory name = memory ++ [name] := by
  have hname : Path.IsComponent name := (FileTree.isName_iff.mp h).1
  have hcomponents : Path.components name = [name] := by
    have hjoined := Path.components_intercalate (p := [name]) (by simpa using hname)
    simpa using hjoined
  have habsolute : Path.isAbsolute name = false := by
    rw [Path.isAbsolute, Bool.eq_false_iff, ne_eq, String.startsWith_string_iff]
    intro hslash
    exact hname.slash (hslash.subset (by simp))
  rw [directory, habsolute, hcomponents]
  rfl

private theorem site_of_isDirectory {memory : List String} {t : FileTree} (ht : t.Proper)
    (hrooted : t.Rooted) {name : String} (hname : isName name = true)
    (hway : ∀ part, part <+: memory →
      isBelow (destination memory ++ [name]) (destination part) = false)
    (h : t.isDirectory (directory memory name) = true) :
    Site t (directory memory name) (destination memory ++ [name]) := by
  have hdots : ∀ c ∈ [name], c ≠ ".." := by simpa using (FileTree.isName_iff.mp hname).2.1
  have hend : destination (memory ++ [name]) = destination memory ++ [name] :=
    Path.destination_append_names memory hdots
  obtain ⟨place, hplace, hnode⟩ := FileTree.isDirectory_iff.mp h
  rw [directory_of_isName memory hname] at hplace ⊢
  obtain rfl : place = destination memory ++ [name] :=
    (FileTree.locate_eq_destination hplace).trans hend
  refine ⟨ht, hrooted, hplace, hnode, ?_⟩
  intro part hpart
  rcases List.prefix_concat_iff.mp hpart with rfl | hpart
  · rw [hend]
    simp [isBelow]
  · exact hway part hpart

private theorem not_isBelow_of_names {memory : List String} (h : ∀ c ∈ memory, c ≠ "..")
    (name : String) :
    ∀ part, part <+: memory →
      isBelow (destination memory ++ [name]) (destination part) = false := by
  have hnames {path : List String} (hpath : ∀ c ∈ path, c ≠ "..") : destination path = path :=
    Path.destination_append_names [] hpath
  intro part hpart
  rw [hnames h, hnames fun c hc => h c (hpart.subset hc)]
  have hlength := hpart.length_le
  simp only [isBelow, List.length_append, List.length_singleton, Bool.and_eq_false_iff,
    decide_eq_false_iff_not]
  omega

private theorem holds_append_of_node?_eq_none {t : FileTree} {path : List String}
    (h : t.node? (destination path) = none) (more : List String) :
    t.holds (path ++ more) = false := by
  rw [FileTree.holds, FileTree.at?]
  split
  · rename_i place hplace
    obtain ⟨middle, hpath, hmore⟩ :=
      FileTree.follow_append_ok_iff.mp (FileTree.locate_ok_iff.mp hplace).2
    have hmiddle : t.node? middle = none := FileTree.follow_eq_foldl hpath ▸ h
    cases more with
    | nil => rw [← Except.ok.inj hmore, hmiddle, Option.isSome_none]
    | cons c more => cases hmiddle.symm.trans (FileTree.follow_cons_ok_iff.mp hmore).1
  · rfl

/-- A project that is there is deleted: every path has its turn while it is there and has nothing
below it, the deletion does not fail, nothing is left at or below the project's directory, and every
other place is as it was. A project that is not there is not deleted, and nothing changes. -/
theorem delete_removes_tree {memory : List String} {t : FileTree} (ht : t.Proper)
    (hrooted : t.Rooted) {name : String} (hname : isName name = true)
    (hway : ∀ part, part <+: memory →
      isBelow (destination memory ++ [name]) (destination part) = false) :
    (t.isDirectory (directory memory name) = true →
      (∀ done path rest, removals t (directory memory name) = done ++ path :: rest →
        ∃ t₁, removeAll t done = (.ok (), t₁) ∧ t₁.holds path = true ∧ t₁.below path = []) ∧
      ∃ t', delete memory t name = (.ok true, t') ∧
        removeAll t (removals t (directory memory name)) = (.ok (), t') ∧
        (∀ more, t'.holds (directory memory name ++ more) = false) ∧
        ∀ place, t'.node? place =
          if destination memory ++ [name] <+: place then none else t.node? place) ∧
    (t.holds (directory memory name) = false → delete memory t name = (.ok false, t)) := by
  constructor
  · intro hdirectory
    have hsite := site_of_isDirectory ht hrooted hname hway hdirectory
    refine ⟨fun done path rest hlist => hsite.turns hlist, ?_⟩
    obtain ⟨hlocate, hnode, hempty⟩ := hsite.last_turn
    have hall := hsite.removeAll_eq (List.append_nil _).symm
    have hlast := FileTree.removeDirectory_of_below_eq_nil hlocate hnode hempty
    have hholds : t.holds (directory memory name) = true := by
      simp [FileTree.holds, FileTree.at?, hsite.located, hsite.directory]
    rw [FileTree.erase_without] at hlast
    refine ⟨_, ?_, ?_, ?_, hsite.node?_after (by simp)⟩
    · simp only [delete, hholds, if_true, hall, hlast]
    · have hstep := removeAt_eq hlocate hnode fun _ => hempty
      rw [FileTree.erase_without] at hstep
      rw [removals, removeAll_append, hall]
      simp only [removeAll, hstep]
    · apply holds_append_of_node?_eq_none
      rw [← FileTree.locate_eq_destination hsite.located, hsite.node?_after (by simp),
        if_pos List.prefix_rfl]
  · intro hmissing
    simp only [delete, hmissing, Bool.false_eq_true, if_false]

/-- A project whose names continue one another, beside one whose name continues its own. -/
def nestedProjects : FileTree :=
  .ofFiles [("home/memory/pay/a/b", [1]), ("home/memory/pay/a-b/", []),
    ("home/memory/pay/a.txt", []), ("home/memory/pay-old/x", [2])]

theorem delete_pay_leaves_pay_old :
    nestedProjects.Proper ∧ nestedProjects.Rooted ∧ isName "pay" = true ∧
    nestedProjects.isDirectory (directory ["home", "memory"] "pay") = true ∧
    (∃ t', delete ["home", "memory"] nestedProjects "pay" = (.ok true, t') ∧
      t'.node? ["home", "memory", "pay", "a", "b"] = none ∧
      t'.node? ["home", "memory", "pay"] = none ∧
      t'.node? ["home", "memory", "pay-old", "x"] = some (.file [2])) ∧
    delete ["home", "memory"] nestedProjects "shop" = (.ok false, nestedProjects) := by
  have hproper : nestedProjects.Proper := FileTree.proper_ofFiles _
  have hrooted : nestedProjects.Rooted := FileTree.rooted_ofFiles _
  have hnames : ∀ c ∈ ["home", "memory"], c ≠ ".." := by decide
  have hway := not_isBelow_of_names hnames
  have hfacts : isName "pay" = true ∧ isName "shop" = true ∧
      nestedProjects.isDirectory (directory ["home", "memory"] "pay") = true ∧
      nestedProjects.holds (directory ["home", "memory"] "shop") = false ∧
      nestedProjects.node? ["home", "memory", "pay-old", "x"] = some (.file [2]) := by
    decide +kernel
  obtain ⟨hpay, hshop, hdirectory, hmissing, hold⟩ := hfacts
  obtain ⟨_, t', hdelete, _, _, hafter⟩ :=
    (delete_removes_tree hproper hrooted hpay (hway "pay")).1 hdirectory
  refine ⟨hproper, hrooted, hpay, hdirectory, ⟨t', hdelete, ?_, ?_, ?_⟩,
    (delete_removes_tree hproper hrooted hshop (hway "shop")).2 hmissing⟩
  · exact (hafter _).trans (if_pos ⟨["a", "b"], rfl⟩)
  · exact (hafter _).trans (if_pos List.prefix_rfl)
  · exact (hafter _).trans ((if_neg (by decide)).trans hold)

end PullReview.Project
