import PullReview.Project
import PullReview.Proofs.FileTree.Change

/-!
# Projects and the rest of the files

A project's name is a path, so it decides where the commands on projects work: they make directories
along that path, write a record at its end, or remove what is at and below its end. A name of proper
components keeps them strictly below the memory. A name without components is the memory itself, and
one that starts at the root or goes back leaves it.
-/

namespace PullReview.Project

open FileTree (MadeAlong RemovedBelow isBelow)
open PullReview.Path (destination)

/-- The name leads from the memory down to a directory below it. -/
def isInside (name : String) : Bool :=
  !Path.isAbsolute name && !(Path.components name).isEmpty &&
    !(Path.components name).contains ".."

private theorem isInside_iff {name : String} :
    isInside name = true ↔ Path.isAbsolute name = false ∧ Path.components name ≠ [] ∧
      ∀ c ∈ Path.components name, c ≠ ".." := by
  simp only [isInside, Bool.and_eq_true, Bool.not_eq_true', List.isEmpty_eq_false_iff,
    List.contains_eq_mem, decide_eq_false_iff_not, and_assoc]
  constructor
  · rintro ⟨habsolute, hne, hdots⟩
    exact ⟨habsolute, hne, fun c hc heq => hdots (heq ▸ hc)⟩
  · rintro ⟨habsolute, hne, hdots⟩
    exact ⟨habsolute, hne, fun hmem => hdots _ hmem rfl⟩

private theorem directory_of_isInside (memory : List String) {name : String}
    (h : isInside name = true) : directory memory name = memory ++ Path.components name := by
  simp [directory, (isInside_iff.mp h).1]

private theorem destination_of_isInside (memory : List String) {name : String}
    (h : isInside name = true) :
    destination (directory memory name) = destination memory ++ Path.components name := by
  rw [directory_of_isInside memory h]
  exact Path.destination_append_names memory (isInside_iff.mp h).2.2

theorem isBelow_append {place more : List String} (h : more ≠ []) :
    isBelow place (place ++ more) = true := by
  have hpos := List.length_pos_iff.mpr h
  simp only [isBelow, Bool.and_eq_true, decide_eq_true_eq, List.isPrefixOf_iff_prefix,
    List.length_append]
  exact ⟨by omega, List.prefix_append place more⟩

private theorem isBelow_destination_of_prefix {memory part : List String} {name : String}
    (h : isInside name = true) (hpart : part <+: directory memory name) :
    part <+: memory ∨ isBelow (destination memory) (destination part) = true := by
  rw [directory_of_isInside memory h] at hpart
  have hmemory : memory <+: memory ++ Path.components name := List.prefix_append _ _
  rcases List.prefix_or_prefix_of_prefix hpart hmemory with hshort | ⟨more, rfl⟩
  · exact .inl hshort
  · have hmore : more <+: Path.components name := (List.prefix_append_right_inj memory).mp hpart
    have hdots : ∀ c ∈ more, c ≠ ".." :=
      fun c hc => (isInside_iff.mp h).2.2 c (hmore.subset hc)
    by_cases hne : more = []
    · exact .inl (by simp [hne])
    · rw [Path.destination_append_names memory hdots]
      exact .inr (isBelow_append hne)

/-! ### What the commands change -/

private theorem create_madeAlong (memory : List String) (t : FileTree) (name : String) :
    MadeAlong (directory memory name) t (create memory t name).2 :=
  FileTree.makeDirectories_madeAlong t (directory memory name)

private theorem node?_setRecord_of_ne {memory : List String} {t : FileTree} {name : String}
    {place : List String} (j : Json)
    (h : place ≠ destination (directory memory name ++ [recordName])) :
    (setRecord memory t name j).2.node? place = (create memory t name).2.node? place := by
  rw [setRecord]
  split
  · rename_i made hmade
    rw [hmade]
    dsimp only
    split
    · rename_i written hwritten
      exact FileTree.node?_write_of_ne hwritten h
    · rfl
  · rfl

private theorem read_setRecord {memory : List String} {t : FileTree} {name : String} {j : Json}
    (h : (setRecord memory t name j).1 = .ok ()) :
    (setRecord memory t name j).2.read (directory memory name ++ [recordName]) =
      .ok j.indented.toUTF8.toList := by
  revert h
  rw [setRecord]
  split
  · dsimp only
    split
    · rename_i written hwritten
      intro _
      exact FileTree.read_write hwritten
    · intro h
      cases h
  · rename_i hfailed
    intro hok
    have heq : create memory t name = (.ok (), (create memory t name).2) := Prod.ext hok rfl
    exact absurd heq (hfailed _)

private theorem removeAt_removedBelow {t t' : FileTree} {root path : List String}
    (hroot : root <+: destination path) (h : removeAt t path = .ok t') :
    RemovedBelow root t t' := by
  rw [removeAt] at h
  split at h
  · obtain ⟨place, hplace, rfl⟩ := FileTree.removeFile_eq h
    exact FileTree.erase_removedBelow hroot hplace
  · split at h
    · obtain ⟨place, hplace, rfl⟩ := FileTree.removeDirectory_eq h
      exact FileTree.erase_removedBelow hroot hplace
    · rw [← Except.ok.inj h]
      exact .refl root t

private theorem removeAll_removedBelow {root : List String} (t : FileTree)
    {paths : List (List String)} (hpaths : ∀ path ∈ paths, root <+: destination path) :
    RemovedBelow root t (removeAll t paths).2 := by
  induction paths generalizing t with
  | nil => exact .refl root t
  | cons path paths ih =>
      rw [removeAll]
      split
      · rename_i t' hremoved
        have hstep := removeAt_removedBelow (hpaths path (by simp)) hremoved
        exact hstep.trans (ih t' fun p hp => hpaths p (by simp [hp]))
      · exact .refl root t

/-- Deleting a project removes nothing but what is at or below the place that its path leads to,
also if it fails on its way. -/
theorem delete_removedBelow (memory : List String) {t : FileTree} (ht : t.Proper) (name : String) :
    RemovedBelow (destination (directory memory name)) t (delete memory t name).2 := by
  rw [delete]
  split
  · have hbelow : ∀ path ∈
        (t.below (directory memory name)).reverse.map (directory memory name ++ ·),
        destination (directory memory name) <+: destination path := by
      intro path hpath
      obtain ⟨p, hp, rfl⟩ := List.mem_map.mp hpath
      have hnames := ht.isName_of_mem_below (List.mem_reverse.mp hp)
      have hdots : ∀ c ∈ p, c ≠ ".." := fun c hc => (FileTree.isName_iff.mp (hnames c hc)).2.1
      rw [Path.destination_append_names _ hdots]
      exact List.prefix_append _ _
    have hall := removeAll_removedBelow t hbelow
    split
    · rename_i hremoved
      rw [hremoved] at hall
      exact hall
    · rename_i hremoved
      rw [hremoved] at hall
      split
      · rename_i hlast
        obtain ⟨place, hplace, rfl⟩ := FileTree.removeDirectory_eq hlast
        exact hall.trans (FileTree.erase_removedBelow List.prefix_rfl hplace)
      · exact hall
  · exact .refl _ t

private theorem holds_delete {memory : List String} {t : FileTree} {name : String}
    (hne : destination (directory memory name) ≠ []) (h : (delete memory t name).1 = .ok true) :
    (delete memory t name).2.holds (directory memory name) = false := by
  revert h
  rw [delete]
  split
  · split
    · intro h
      cases h
    · split
      · rename_i hlast
        intro _
        obtain ⟨place, hplace, rfl⟩ := FileTree.removeDirectory_eq hlast
        rw [FileTree.locate_eq_destination hplace]
        exact FileTree.holds_erase hne
      · intro h
        cases h
  · intro h
    cases h

/-! ### Staying below the memory -/

/-- Nothing changed but below the memory, except that a memory that was missing is made with the
directories on the way to it. -/
def KeepsOutside (memory : List String) (t t' : FileTree) : Prop :=
  ∀ place, isBelow (destination memory) place = false → t'.node? place = t.node? place ∨
    t.isDirectory memory = false ∧ t.node? place = none ∧ t'.node? place = some .directory ∧
      ∃ part, part <+: memory ∧ destination part = place

private theorem keepsOutside_of_madeAlong {memory : List String} {t t' : FileTree} {name : String}
    (hname : isInside name = true) (h : MadeAlong (directory memory name) t t') :
    KeepsOutside memory t t' := by
  intro place hplace
  rcases h place with hsame | ⟨hbefore, hafter, part, hpart, rfl⟩
  · exact .inl hsame
  · rcases isBelow_destination_of_prefix hname hpart with hmemory | hbelow
    · refine .inr ⟨?_, hbefore, hafter, part, hmemory, rfl⟩
      cases hdirectory : t.isDirectory memory with
      | false => rfl
      | true =>
          -- every part of the way to a memory that is there is there as well
          have hnode := FileTree.node?_destination_of_isDirectory hdirectory hmemory
          rw [hnode] at hbefore
          cases hbefore
    · rw [hbelow] at hplace
      cases hplace

private theorem create_keepsOutside (memory : List String) (t : FileTree) {name : String}
    (hname : isInside name = true) : KeepsOutside memory t (create memory t name).2 :=
  keepsOutside_of_madeAlong hname (create_madeAlong memory t name)

private theorem setRecord_keepsOutside (memory : List String) (t : FileTree) {name : String}
    (hname : isInside name = true) (j : Json) :
    KeepsOutside memory t (setRecord memory t name j).2 := by
  intro place hplace
  have hrecord : place ≠ destination (directory memory name ++ [recordName]) := by
    rintro rfl
    rw [Path.destination_append_names _ (by decide), destination_of_isInside memory hname,
      List.append_assoc, isBelow_append (by simp)] at hplace
    cases hplace
  rw [node?_setRecord_of_ne j hrecord]
  exact create_keepsOutside memory t hname place hplace

private theorem node?_delete_of_not_prefix {memory : List String} {t : FileTree} (ht : t.Proper)
    {name : String} {place : List String}
    (h : ¬ destination (directory memory name) <+: place) :
    (delete memory t name).2.node? place = t.node? place := by
  rcases delete_removedBelow memory ht name place with hsame | ⟨hbelow, _⟩
  · exact hsame
  · exact absurd hbelow h

/-- Whatever its name, the commands on a project only make missing directories along its path, write
the record at its end, and remove what is at or below its end. If the name is inside the memory they
change nothing outside it and not the memory itself, a deletion leaves the content of every
directory in the memory alone but the first one on the path, and a command that succeeds does its
work. -/
theorem commands_stay_below (memory : List String) {t : FileTree} (ht : t.Proper) (name : String)
    (j : Json) :
    MadeAlong (directory memory name) t (create memory t name).2 ∧
    (∀ place, place ≠ destination (directory memory name ++ [recordName]) →
      (setRecord memory t name j).2.node? place = (create memory t name).2.node? place) ∧
    RemovedBelow (destination (directory memory name)) t (delete memory t name).2 ∧
    (isInside name = true →
      KeepsOutside memory t (create memory t name).2 ∧
      KeepsOutside memory t (setRecord memory t name j).2 ∧
      (∀ place, isBelow (destination memory) place = false →
        (delete memory t name).2.node? place = t.node? place) ∧
      (∀ other, (Path.components name).head? ≠ some other →
        ∀ place, destination memory ++ [other] <+: place →
          (delete memory t name).2.node? place = t.node? place) ∧
      ((create memory t name).1 = .ok () →
        (create memory t name).2.isDirectory (directory memory name) = true) ∧
      ((setRecord memory t name j).1 = .ok () →
        (setRecord memory t name j).2.read (directory memory name ++ [recordName]) =
          .ok j.indented.toUTF8.toList) ∧
      ((delete memory t name).1 = .ok true →
        (delete memory t name).2.holds (directory memory name) = false)) := by
  refine ⟨create_madeAlong memory t name, fun place => node?_setRecord_of_ne j,
    delete_removedBelow memory ht name, fun hname => ?_⟩
  have hend := destination_of_isInside memory hname
  obtain ⟨_, hne, _⟩ := isInside_iff.mp hname
  refine ⟨create_keepsOutside memory t hname, setRecord_keepsOutside memory t hname j, ?_, ?_,
    FileTree.isDirectory_makeDirectories, read_setRecord, holds_delete (by simp [hend, hne])⟩
  · intro place hplace
    apply node?_delete_of_not_prefix ht
    rw [hend]
    rintro ⟨more, rfl⟩
    rw [List.append_assoc, isBelow_append (by simp [hne])] at hplace
    cases hplace
  · intro other hother place hplace
    apply node?_delete_of_not_prefix ht
    rw [hend]
    intro hbelow
    obtain ⟨c, rest, hcomponents⟩ := List.exists_cons_of_ne_nil hne
    rw [hcomponents] at hbelow hother
    -- both paths go through the memory to their next component
    obtain ⟨more, rfl⟩ := hplace
    rw [List.append_assoc, List.prefix_append_right_inj] at hbelow
    have hsame : c = other := (List.cons_prefix_cons.mp hbelow).1
    exact hother (by simp [hsame])

/-- A memory with two projects, beside a configuration. -/
def twoProjects : FileTree :=
  .ofFiles [("home/config.toml", []), ("home/memory/pay/v1/", []),
    ("home/memory/shop/project.json", [])]

theorem delete_pay_keeps_shop :
    twoProjects.Proper ∧ isInside "pay" = true ∧
    (delete ["home", "memory"] twoProjects "pay").2.node? ["home", "config.toml"] =
      twoProjects.node? ["home", "config.toml"] ∧
    (delete ["home", "memory"] twoProjects "pay").2.node?
        ["home", "memory", "shop", "project.json"] =
      twoProjects.node? ["home", "memory", "shop", "project.json"] := by
  have hproper : twoProjects.Proper := FileTree.proper_ofFiles _
  have hinside : isInside "pay" = true := by decide +kernel
  obtain ⟨_, _, _, h⟩ := commands_stay_below ["home", "memory"] hproper "pay" .null
  obtain ⟨_, _, houtside, hother, _⟩ := h hinside
  refine ⟨hproper, hinside, houtside _ (by decide), hother "shop" ?_ _ ⟨["project.json"], rfl⟩⟩
  decide +kernel

/-- A memory with one project. -/
def oneProject : FileTree := .ofFiles [("home/memory/shop/", [])]

theorem empty_name_deletes_memory :
    oneProject.Proper ∧ names ["home", "memory"] oneProject = ["shop"] ∧
    oneProject.node? ["home", "memory"] = some .directory ∧
    (delete ["home", "memory"] oneProject "").1.toOption = some true ∧
    (delete ["home", "memory"] oneProject "").2.node? ["home", "memory"] = none ∧
    (delete ["home", "memory"] oneProject "").2.node? ["home", "memory", "shop"] = none ∧
    oneProject.node? ["home", "project.json"] = none ∧
    (setRecord ["home", "memory"] oneProject ".." (.obj [])).2.isFile
      ["home", "project.json"] = true := by
  have hproper : oneProject.Proper := FileTree.proper_ofFiles _
  refine ⟨hproper, ?_⟩
  decide +kernel

end PullReview.Project
