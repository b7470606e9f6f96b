import PullReview.Proofs.Table

/-!
# Keys in the order of their first use

A table that is filled entry by entry has its keys in the order in which they first came up, and
under each key what the entries of that key made of it, one after the other.
-/

namespace PullReview

/-- The texts of a list, each once, in the order in which they first occur. -/
structure IsFirstOccurrences (xs ys : List String) : Prop where
  mem_iff : ∀ x, x ∈ ys ↔ x ∈ xs
  ordered : ys.Pairwise fun a b => xs.idxOf a < xs.idxOf b

/-- Adds a text that is not there yet. -/
def addNew (ys : List String) (x : String) : List String := if x ∈ ys then ys else ys ++ [x]

namespace IsFirstOccurrences

variable {xs ys zs : List String}

theorem empty : IsFirstOccurrences [] [] := ⟨fun _ => Iff.rfl, List.Pairwise.nil⟩

theorem nodup (h : IsFirstOccurrences xs ys) : ys.Nodup := by
  apply h.ordered.imp
  rintro a b hlt rfl
  exact Nat.lt_irrefl _ hlt

/-- A list has its first occurrences in one order only. -/
theorem unique (hys : IsFirstOccurrences xs ys) (hzs : IsFirstOccurrences xs zs) : ys = zs := by
  have hperm : ys.Perm zs := by
    apply (List.perm_ext_iff_of_nodup hys.nodup hzs.nodup).mpr
    intro x
    rw [hys.mem_iff, hzs.mem_iff]
  apply List.Perm.eq_of_pairwise ?_ hys.ordered hzs.ordered hperm
  intro a b _ _ hab hba
  exact absurd hab (Nat.lt_asymm hba)

/-- One step: a new text goes last, an old one keeps its place. -/
theorem addNew (h : IsFirstOccurrences xs ys) (x : String) :
    IsFirstOccurrences (xs ++ [x]) (addNew ys x) := by
  have hkept : ∀ a ∈ ys, (xs ++ [x]).idxOf a = xs.idxOf a := by
    intro a ha
    rw [List.idxOf_append, if_pos ((h.mem_iff a).mp ha)]
  have hordered : ys.Pairwise fun a b => (xs ++ [x]).idxOf a < (xs ++ [x]).idxOf b := by
    apply h.ordered.imp_of_mem
    intro a b ha hb hlt
    rwa [hkept a ha, hkept b hb]
  rw [PullReview.addNew]
  split
  · rename_i hx
    refine ⟨fun a => ?_, hordered⟩
    have hax : a = x → a ∈ ys := fun heq => heq ▸ hx
    rw [List.mem_append, List.mem_singleton, ← h.mem_iff]
    exact ⟨Or.inl, fun ha => ha.elim id hax⟩
  · rename_i hx
    have hnew : x ∉ xs := fun hmem => hx ((h.mem_iff x).mpr hmem)
    refine ⟨fun a => ?_, ?_⟩
    · rw [List.mem_append, List.mem_append, h.mem_iff]
    · apply List.pairwise_append.mpr
      refine ⟨hordered, List.pairwise_singleton _ _, ?_⟩
      intro a ha b hb
      obtain rfl : b = x := List.mem_singleton.mp hb
      rw [hkept a ha, List.idxOf_append, if_neg hnew]
      have hlt := List.idxOf_lt_length_iff.mpr ((h.mem_iff a).mp ha)
      omega

/-- A whole run: every text of a further list is added in turn. -/
theorem foldl_addNew (h : IsFirstOccurrences xs ys) (more : List String) :
    IsFirstOccurrences (xs ++ more) (more.foldl PullReview.addNew ys) := by
  induction more generalizing xs ys with
  | nil => simpa using h
  | cons x more ih => simpa using ih (h.addNew x)

end IsFirstOccurrences

private theorem distinct_eq (xs : List String) : distinct xs = xs.foldl addNew [] := by
  have hstep : (fun (seen : List String) x => if seen.contains x then seen else seen ++ [x]) =
      addNew := by
    funext seen x
    simp [addNew]
  rw [distinct, hstep]

theorem distinct_isFirstOccurrences (xs : List String) : IsFirstOccurrences xs (distinct xs) := by
  rw [distinct_eq]
  exact IsFirstOccurrences.empty.foldl_addNew xs

@[simp] theorem mem_distinct {xs : List String} {x : String} : x ∈ distinct xs ↔ x ∈ xs :=
  (distinct_isFirstOccurrences xs).mem_iff x

private theorem prefix_foldl_addNew (ys more : List String) : ys <+: more.foldl addNew ys := by
  induction more generalizing ys with
  | nil => exact List.prefix_refl ys
  | cons x more ih =>
      have hstep : ys <+: addNew ys x := by
        rw [addNew]
        split
        · exact List.prefix_refl ys
        · exact List.prefix_append ys [x]
      exact hstep.trans (ih _)

/-- A longer list has further texts behind those of its beginning. -/
theorem distinct_prefix {xs ys : List String} (h : xs <+: ys) : distinct xs <+: distinct ys := by
  obtain ⟨more, rfl⟩ := h
  rw [distinct_eq, distinct_eq, List.foldl_append]
  exact prefix_foldl_addNew _ more

/-- There is more than one text in a list. -/
def Varied (xs : List String) : Prop := ∃ x ∈ xs, ∃ y ∈ xs, x ≠ y

theorem Varied.mono {xs ys : List String} (h : Varied xs) (hle : xs <+: ys) : Varied ys := by
  obtain ⟨x, hx, y, hy, hne⟩ := h
  exact ⟨x, hle.subset hx, y, hle.subset hy, hne⟩

theorem one_lt_length_distinct_iff (xs : List String) : 1 < (distinct xs).length ↔ Varied xs := by
  have hnodup := (distinct_isFirstOccurrences xs).nodup
  constructor
  · intro hlength
    match hdistinct : distinct xs, hlength with
    | x :: y :: rest, _ =>
        rw [hdistinct, List.nodup_cons] at hnodup
        have hx : x ∈ xs := mem_distinct.mp (by simp [hdistinct])
        have hy : y ∈ xs := mem_distinct.mp (by simp [hdistinct])
        have hne : x ≠ y := by
          intro heq
          exact hnodup.1 (by simp [heq])
        exact ⟨x, hx, y, hy, hne⟩
  · rintro ⟨x, hx, y, hy, hne⟩
    have hx := mem_distinct.mpr hx
    have hy := mem_distinct.mpr hy
    match distinct xs, hx, hy with
    | [z], hx, hy =>
        rw [List.mem_singleton] at hx hy
        exact absurd (hx.trans hy.symm) hne
    | _ :: _ :: _, _, _ => simp

namespace Table

variable {α β : Type}

/-! ### Keys -/

theorem keys_alter (t : Table α) (key : String) (f : Option α → α) :
    (t.alter key f).keys = addNew t.keys key := by
  obtain ⟨es⟩ := t
  change (alterEntries key f es).map Prod.fst = addNew (es.map Prod.fst) key
  induction es with
  | nil => rfl
  | cons e es ih =>
      rw [alterEntries, addNew]
      by_cases he : e.1 = key
      · simp [he]
      · rw [if_neg (by simpa using he), List.map_cons, List.map_cons, ih, addNew]
        simp only [List.mem_cons, Ne.symm he, false_or]
        split <;> rfl

theorem keys_foldl_alter (key : β → String) (f : β → Option α → α) (xs : List β) (t : Table α) :
    (xs.foldl (fun t x => t.alter (key x) (f x)) t).keys = (xs.map key).foldl addNew t.keys := by
  induction xs generalizing t with
  | nil => rfl
  | cons x xs ih => rw [List.foldl_cons, ih, keys_alter, List.map_cons, List.foldl_cons]

theorem keys_isFirstOccurrences (key : β → String) (f : β → Option α → α) (xs : List β) :
    IsFirstOccurrences (xs.map key)
      (xs.foldl (fun t x => t.alter (key x) (f x)) ({} : Table α)).keys := by
  rw [keys_foldl_alter]
  exact IsFirstOccurrences.empty.foldl_addNew (xs.map key)

/-! ### Values -/

private theorem get?_foldl_alter (key : β → String) (f : β → Option α → α) (xs : List β)
    (t : Table α) (k : String) :
    (xs.foldl (fun t x => t.alter (key x) (f x)) t).get? k =
      (xs.filter (key · == k)).foldl (fun old x => some (f x old)) (t.get? k) := by
  induction xs generalizing t with
  | nil => rfl
  | cons x xs ih =>
      rw [List.foldl_cons, ih, get?_alter, List.filter_cons]
      by_cases hx : key x = k
      · simp [hx]
      · simp [hx, Ne.symm hx]

/-- Lists that are gathered under a key stand there one behind the other. -/
theorem get?_gather (key : β → String) (g : β → List α) (xs : List β) (k : String) :
    (xs.foldl (fun t x => t.alter (key x) fun old => old.getD [] ++ g x)
        ({} : Table (List α))).get? k =
      if k ∈ xs.map key then some ((xs.filter (key · == k)).flatMap g) else none := by
  have hgather : ∀ (ys : List β) (old : Option (List α)),
      ys.foldl (fun old x => some (old.getD [] ++ g x)) old =
        if ys = [] then old else some (old.getD [] ++ ys.flatMap g) := by
    intro ys
    induction ys with
    | nil => exact fun old => rfl
    | cons y ys ih =>
        intro old
        rw [List.foldl_cons, ih]
        by_cases hys : ys = []
        · simp [hys]
        · simp [hys]
  have hempty : xs.filter (key · == k) = [] ↔ k ∉ xs.map key := by
    simp [List.filter_eq_nil_iff]
  rw [get?_foldl_alter, hgather]
  by_cases hk : k ∈ xs.map key
  · rw [if_neg fun hnil => hempty.mp hnil hk, if_pos hk]
    rfl
  · rw [if_pos (hempty.mpr hk), if_neg hk]
    rfl

/-! ### Entries -/

/-- What is appended under a key is appended to all values together. -/
theorem flatMap_alter_append (t : Table (List α)) (key : String) (ys : List α) :
    ((t.alter key fun old => old.getD [] ++ ys).entries.flatMap Prod.snd).Perm
      (t.entries.flatMap Prod.snd ++ ys) := by
  obtain ⟨es⟩ := t
  change ((alterEntries key _ es).flatMap Prod.snd).Perm (es.flatMap Prod.snd ++ ys)
  induction es with
  | nil => simp [alterEntries]
  | cons e es ih =>
      rw [alterEntries, List.flatMap_cons]
      split
      · rw [List.flatMap_cons, List.append_assoc, Option.getD_some, List.append_assoc]
        exact List.perm_append_comm.append_left e.2
      · rw [List.flatMap_cons, List.append_assoc]
        exact ih.append_left e.2

/-- Everything that is gathered stands under one of the keys, as often as it came up. -/
theorem flatMap_gather (key : β → String) (g : β → List α) (xs : List β) (t : Table (List α)) :
    ((xs.foldl (fun t x => t.alter (key x) fun old => old.getD [] ++ g x) t).entries.flatMap
        Prod.snd).Perm (t.entries.flatMap Prod.snd ++ xs.flatMap g) := by
  induction xs generalizing t with
  | nil => simp
  | cons x xs ih =>
      rw [List.foldl_cons, List.flatMap_cons, ← List.append_assoc]
      exact (ih _).trans ((flatMap_alter_append t (key x) (g x)).append_right (xs.flatMap g))

theorem get?_eq_some_iff {t : Table α} (h : t.keys.Nodup) (k : String) (v : α) :
    t.get? k = some v ↔ (k, v) ∈ t.entries := by
  rw [get?, List.lookup_eq_some_iff]
  constructor
  · rintro ⟨before, after, hentries, -⟩
    simp [hentries]
  · intro hmem
    obtain ⟨before, after, hentries⟩ := List.append_of_mem hmem
    refine ⟨before, after, hentries, fun e he => ?_⟩
    rw [keys, hentries, List.map_append, List.nodup_append] at h
    have hne := h.2.2 e.1 (List.mem_map_of_mem he) k (by simp)
    simpa using Ne.symm hne

/-- A table is given by its keys in their order and by what stands under them. -/
theorem eq_of_keys_of_get? {t u : Table α} (hkeys : t.keys = u.keys) (hnodup : t.keys.Nodup)
    (hget : ∀ k, t.get? k = u.get? k) : t = u := by
  obtain ⟨es⟩ := t
  obtain ⟨fs⟩ := u
  have hlength : es.length = fs.length := by
    simpa [keys] using congrArg List.length hkeys
  congr 1
  apply List.ext_getElem hlength
  intro i hi hj
  have hkey : es[i].1 = fs[i].1 := by
    have hat := congrArg (·[i]?) hkeys
    simpa [keys, hi, hj] using hat
  have hes := (get?_eq_some_iff hnodup es[i].1 es[i].2).mpr (List.getElem_mem hi)
  have hfs := (get?_eq_some_iff (hkeys ▸ hnodup) fs[i].1 fs[i].2).mpr (List.getElem_mem hj)
  rw [hget, hkey, hfs] at hes
  exact Prod.ext hkey (Option.some.inj hes).symm

end Table

end PullReview
