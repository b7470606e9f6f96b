import Mathlib.Data.List.Forall2
import Mathlib.Data.List.Perm.Basic
import PullReview.Proofs.Failure
import PullReview.Proofs.Python.Tree

/-!
# Places in syntax trees

A place leads from the root of a tree down to a node, and gives the nodes on the way. The places of
a tree in their order are the walk over it. What a recursive function collects over a tree, each
node before its children, is what it has for the nodes at these places.
-/

namespace PullReview.Python

/-- A way down a tree: which child to go to at each level. -/
abbrev Place := List Nat

/-- The order of the nodes of a tree: a place comes before those below it, and before those that
branch off to a later child. -/
def Place.Before : Place → Place → Prop := List.Lex (· < ·)

/-- The node at a place below another one, and all nodes around it, the innermost first. -/
def Node.at? (d : Dialect) (above : List Node) (n : Node) : Place → Option (List Node)
  | [] => some (n :: above)
  | i :: rest => (n.children d)[i]?.bind fun c => c.at? d (n :: above) rest

/-- The node at a place of a module, and all nodes around it. -/
def nodeAt? (d : Dialect) (body : List Stmt) (place : Place) : Option (List Node) :=
  (Node.module body).at? d [] place

/-! ### Walks -/

/-- All places at and below a node with the nodes there, each node before its children. -/
def walk (d : Dialect) (above : List Node) (n : Node) : List (Place × List Node) :=
  ([], n :: above) :: (n.children d).attach.zipIdx.flatMap fun c =>
    (walk d (n :: above) c.1.1).map fun w => (c.2 :: w.1, w.2)
termination_by sizeOf n
decreasing_by exact sizeOf_lt_of_mem_children c.1.2

private theorem walk_eq (d : Dialect) (above : List Node) (n : Node) :
    walk d above n = ([], n :: above) :: (n.children d).zipIdx.flatMap fun c =>
      (walk d (n :: above) c.1).map fun w => (c.2 :: w.1, w.2) := by
  have hindices : (n.children d).zipIdx =
      (n.children d).attach.zipIdx.map (Prod.map Subtype.val id) := by
    rw [← List.zipIdx_map, List.attach_map_subtype_val]
  rw [walk, hindices, List.flatMap_map]
  rfl

private theorem mem_walk_iff {d : Dialect} {above : List Node} {n : Node} {place : Place}
    {l : List Node} : (place, l) ∈ walk d above n ↔ n.at? d above place = some l := by
  induction place generalizing above n with
  | nil =>
      rw [walk_eq, Node.at?]
      simp [eq_comm]
  | cons i rest ih =>
      rw [walk_eq, Node.at?]
      simp only [List.mem_cons, List.mem_flatMap, List.mem_map, Prod.mk.injEq, reduceCtorEq,
        false_and, false_or, Option.bind_eq_some_iff, List.mem_zipIdx_iff_getElem?]
      constructor
      · rintro ⟨⟨c, j⟩, hc, ⟨p, l'⟩, hw, h⟩
        simp at h
        obtain ⟨⟨rfl, rfl⟩, rfl⟩ := h
        exact ⟨c, hc, ih.mp hw⟩
      · rintro ⟨c, hc, h⟩
        exact ⟨(c, i), hc, (rest, l), ih.mpr h, rfl, rfl⟩

/-- What holds of a node once it holds of its children holds of all nodes. -/
theorem Node.induction (d : Dialect) {P : List Node → Node → Prop}
    (h : ∀ above n, (∀ c ∈ n.children d, P (n :: above) c) → P above n) (above : List Node)
    (n : Node) : P above n :=
  h above n fun c _ => Node.induction d h (n :: above) c
termination_by sizeOf n
decreasing_by exact sizeOf_lt_of_mem_children ‹_›

private theorem pairwise_snd_zipIdx (nodes : List Node) (start : Nat) :
    (nodes.zipIdx start).Pairwise fun a b => a.2 < b.2 := by
  induction nodes generalizing start with
  | nil => exact .nil
  | cons n nodes ih =>
      exact List.pairwise_cons.mpr ⟨fun _ hb => List.le_snd_of_mem_zipIdx hb, ih (start + 1)⟩

private theorem fst_mem_of_mem_zipIdx {nodes : List Node} {c : Node × Nat} (h : c ∈ nodes.zipIdx) :
    c.1 ∈ nodes :=
  List.mem_of_getElem? (List.mem_zipIdx_iff_getElem?.mp h)

/-- A walk meets the places in their order. -/
theorem walk_pairwise (d : Dialect) (above : List Node) (n : Node) :
    (walk d above n).Pairwise fun a b => Place.Before a.1 b.1 := by
  induction above, n using Node.induction d with
  | h above n ih =>
      rw [walk_eq, List.pairwise_cons, List.pairwise_flatMap]
      refine ⟨fun w hw => ?_, fun c hc => ?_, (pairwise_snd_zipIdx _ 0).imp ?_⟩
      · obtain ⟨c, _, hw⟩ := List.mem_flatMap.mp hw
        obtain ⟨w', _, rfl⟩ := List.mem_map.mp hw
        exact .nil
      · rw [List.pairwise_map]
        refine (ih c.1 (fst_mem_of_mem_zipIdx hc)).imp fun hlt => ?_
        exact .cons hlt
      · intro a b hab x hx y hy
        obtain ⟨x, _, rfl⟩ := List.mem_map.mp hx
        obtain ⟨y, _, rfl⟩ := List.mem_map.mp hy
        exact .rel hab

/-! ### Lineages -/

/-- A node and the nodes around it, for all nodes at and below one, in the order of a walk. -/
def lineages (d : Dialect) (above : List Node) (n : Node) : List (List Node) :=
  (walk d above n).map Prod.snd

private theorem lineages_eq (d : Dialect) (above : List Node) (n : Node) :
    lineages d above n = (n :: above) :: (n.children d).flatMap (lineages d (n :: above)) := by
  have hchildren := List.zipIdx_map_fst 0 (n.children d)
  rw [lineages, walk_eq, List.map_cons, List.map_flatMap]
  congr 1
  conv => rhs; rw [← hchildren, List.flatMap_map]
  simp only [lineages, List.map_map]
  rfl

theorem mem_lineages_iff {d : Dialect} {body : List Stmt} {l : List Node} :
    l ∈ lineages d [] (.module body) ↔ ∃ place, nodeAt? d body place = some l := by
  simp [lineages, nodeAt?, ← mem_walk_iff]

variable {d : Dialect} {β : Type}

private theorem filterMap_lineages_eq (f : List Node → Option β) (above : List Node) (n : Node) :
    (lineages d above n).filterMap f = (f (n :: above)).toList ++
      (n.children d).flatMap fun c => (lineages d (n :: above) c).filterMap f := by
  rw [lineages_eq, List.filterMap_cons, List.filterMap_flatMap]
  cases f (n :: above) <;> rfl

/-- A function that puts what it has for a node before what it has for its children collects it over
a walk. -/
theorem eq_filterMap_lineages {visit : List Node → Node → List β} {f : List Node → Option β}
    (h : ∀ above n, visit above n =
      (f (n :: above)).toList ++ (n.children d).flatMap (visit (n :: above)))
    (above : List Node) (n : Node) : visit above n = (lineages d above n).filterMap f := by
  induction above, n using Node.induction d with
  | h above n ih =>
      rw [h, filterMap_lineages_eq]
      congr 1
      exact List.flatMap_congr fun c hc => ih c hc

/-- The same up to the order of what is collected. -/
theorem perm_filterMap_lineages {visit : List Node → Node → List β} {f : List Node → Option β}
    (h : ∀ above n, (visit above n).Perm
      ((f (n :: above)).toList ++ (n.children d).flatMap (visit (n :: above))))
    (above : List Node) (n : Node) : (visit above n).Perm ((lineages d above n).filterMap f) := by
  induction above, n using Node.induction d with
  | h above n ih =>
      rw [filterMap_lineages_eq]
      exact (h above n).trans (.append_left _ (List.Perm.flatMap_left _ ih))

/-- The same for a function that can fail. -/
theorem eq_gather_lineages {ε : Type} {visit : List Node → Node → Except ε (List β)}
    {here : List Node → Except ε (List β)}
    (h : ∀ above n, visit above n =
      do return (← here (n :: above)) ++ (← gather (visit (n :: above)) (n.children d)))
    (above : List Node) (n : Node) : visit above n = gather here (lineages d above n) := by
  induction above, n using Node.induction d with
  | h above n ih => rw [h, lineages_eq, gather_cons, gather_flatMap, gather_congr ih]

/-! ### Lists over a tree -/

/-- One entry for each place of a module where `P` holds, in the order of the places, such that `R`
holds of the nodes there and the entry. -/
def Lists (d : Dialect) (body : List Stmt) (P : List Node → Prop) (R : List Node → β → Prop)
    (found : List β) : Prop :=
  ∃ places : List Place, places.Pairwise Place.Before ∧
    (∀ place, place ∈ places ↔ ∃ l, nodeAt? d body place = some l ∧ P l) ∧
    List.Forall₂ (fun place b => ∃ l, nodeAt? d body place = some l ∧ R l b) places found

private theorem forall₂_filterMap (f : List Node → Option β) (ws : List (Place × List Node)) :
    List.Forall₂ (fun place b => ∃ l, (place, l) ∈ ws ∧ f l = some b)
      ((ws.filter fun w => (f w.2).isSome).map Prod.fst) ((ws.map Prod.snd).filterMap f) := by
  induction ws with
  | nil => exact .nil
  | cons w ws ih =>
      have hrest := ih.imp fun place b ⟨l, hmem, hl⟩ =>
        (⟨l, List.mem_cons_of_mem w hmem, hl⟩ : ∃ l, (place, l) ∈ w :: ws ∧ f l = some b)
      cases hw : f w.2 with
      | none => simpa [hw] using hrest
      | some b =>
          rw [List.filter_cons_of_pos (by simp [hw]), List.map_cons, List.map_cons,
            List.filterMap_cons_some hw]
          exact .cons ⟨w.2, List.mem_cons_self, hw⟩ hrest

/-- A function of the nodes around a place lists the places at which it has a value. -/
theorem lists_filterMap {body : List Stmt} {f : List Node → Option β} {P : List Node → Prop}
    {R : List Node → β → Prop}
    (hsome : ∀ l ∈ lineages d [] (.module body), ∀ b, f l = some b → P l ∧ R l b)
    (hnone : ∀ l ∈ lineages d [] (.module body), f l = none → ¬ P l) :
    Lists d body P R ((lineages d [] (.module body)).filterMap f) := by
  have hlineage {place : Place} {l : List Node} (h : nodeAt? d body place = some l) :
      l ∈ lineages d [] (.module body) := mem_lineages_iff.mpr ⟨place, h⟩
  refine ⟨_, ?_, fun place => ?_, (forall₂_filterMap f (walk d [] (.module body))).imp ?_⟩
  · rw [List.pairwise_map]
    exact (walk_pairwise d [] (.module body)).filter _
  · simp only [List.mem_map, List.mem_filter, Prod.exists, exists_and_right, exists_eq_right,
      mem_walk_iff]
    refine exists_congr fun l => ?_
    constructor
    · rintro ⟨hl, h⟩
      obtain ⟨b, hb⟩ := Option.isSome_iff_exists.mp h
      exact ⟨hl, (hsome l (hlineage hl) b hb).1⟩
    · rintro ⟨hl, hP⟩
      exact ⟨hl, Option.isSome_iff_ne_none.mpr fun h => hnone l (hlineage hl) h hP⟩
  · rintro place b ⟨l, hl, hb⟩
    have hplace : nodeAt? d body place = some l := mem_walk_iff.mp hl
    exact ⟨l, hplace, (hsome l (hlineage hplace) b hb).2⟩

end PullReview.Python
