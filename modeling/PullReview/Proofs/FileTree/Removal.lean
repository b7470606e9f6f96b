import PullReview.Proofs.FileTree.Change

/-!
# Removing what lies below a directory

In a tree of files every node lies in a directory, so a path leads to each of them. Paths are
ordered by their components, and everything below a directory comes after it in this order. So
whoever goes through the paths backwards meets a directory when all that was in it is gone.
-/

namespace PullReview.FileTree

open PullReview.Path (destination)

/-! ### The order of paths -/

private theorem notAfter_total (p q : List String) : (notAfter p q || notAfter q p) = true := by
  induction p generalizing q with
  | nil => simp [notAfter]
  | cons a p ih =>
      cases q with
      | nil => simp [notAfter]
      | cons b q =>
          rw [notAfter, notAfter]
          by_cases hab : a = b
          · simpa [hab] using ih q
          · have hlt : a < b ∨ b < a := by
              by_cases hlt : a < b
              · exact .inl hlt
              · exact .inr (Decidable.byContradiction fun hgt =>
                  hab (String.le_antisymm (String.not_lt.mp hgt) (String.not_lt.mp hlt)))
            simpa [hab, Ne.symm hab] using hlt

private theorem notAfter_trans (p q r : List String) (hpq : notAfter p q = true)
    (hqr : notAfter q r = true) : notAfter p r = true := by
  induction p generalizing q r with
  | nil => rfl
  | cons a p ih =>
      cases q with
      | nil => cases hpq
      | cons b q =>
          cases r with
          | nil => cases hqr
          | cons c r =>
              rw [notAfter] at hpq hqr ⊢
              by_cases hab : a = b
              · subst hab
                by_cases hac : a = c
                · subst hac
                  simp only [beq_self_eq_true, if_true] at hpq hqr ⊢
                  exact ih q r hpq hqr
                · simpa [hac] using hqr
              · by_cases hbc : b = c
                · subst hbc
                  simpa [hab] using hpq
                · simp only [beq_false_of_ne hab, beq_false_of_ne hbc, Bool.false_eq_true, if_false,
                    decide_eq_true_eq] at hpq hqr
                  have hlt : a < c := String.lt_trans hpq hqr
                  have hac : a ≠ c := by
                    rintro rfl
                    exact String.lt_irrefl a hlt
                  simpa [hac] using hlt

/-- What is below a directory comes after it. -/
theorem notAfter_append {more : List String} (h : more ≠ []) (p : List String) :
    notAfter (p ++ more) p = false := by
  induction p with
  | nil =>
      obtain ⟨c, more, rfl⟩ := List.exists_cons_of_ne_nil h
      rfl
  | cons a p ih =>
      rw [List.cons_append, notAfter, beq_self_eq_true, if_pos rfl, ih]

theorem below_pairwise (t : FileTree) (root : List String) :
    (t.below root).Pairwise fun p q => notAfter p q = true := by
  rw [below]
  split
  · exact List.pairwise_mergeSort notAfter_trans notAfter_total _
  · exact List.Pairwise.nil

/-! ### Trees that hang together -/

/-- Every node lies in a directory. -/
def Rooted (t : FileTree) : Prop :=
  ∀ place ∈ t.nodes.map Prod.fst, t.node? place.dropLast = some .directory

theorem node?_isSome_iff {t : FileTree} {place : List String} (h : place ≠ []) :
    (t.node? place).isSome = true ↔ place ∈ t.nodes.map Prod.fst := by
  rw [node?_of_ne_nil t h]
  constructor
  · intro hsome
    obtain ⟨n, hn⟩ := Option.isSome_iff_exists.mp hsome
    obtain ⟨before, after, hnodes, _⟩ := List.lookup_eq_some_iff.mp hn
    rw [hnodes]
    simp
  · intro hmem
    rw [Option.isSome_iff_ne_none, ne_eq, List.lookup_eq_none_iff]
    intro hnone
    obtain ⟨n, hn, rfl⟩ := List.mem_map.mp hmem
    have hne := hnone n hn
    simp at hne

private theorem Rooted.node?_above {t : FileTree} (ht : t.Rooted) {place more : List String}
    (hmem : place ++ more ∈ t.nodes.map Prod.fst) (hmore : more ≠ []) :
    t.node? place = some .directory := by
  have hparent := ht _ hmem
  rw [List.dropLast_append_of_ne_nil hmore] at hparent
  -- the nearest directory is one component up, the others are above it
  by_cases hlast : more.dropLast = []
  · rwa [hlast, List.append_nil] at hparent
  · have hmem' : place ++ more.dropLast ∈ t.nodes.map Prod.fst := by
      rw [← node?_isSome_iff (List.append_ne_nil_of_right_ne_nil place hlast), hparent]
      rfl
    exact ht.node?_above hmem' hlast
termination_by more.length
decreasing_by
  have hpos := List.length_pos_iff.mpr hmore
  rw [List.length_dropLast]
  omega

private theorem Rooted.node?_dropLast_of_follow {t : FileTree} (ht : t.Rooted)
    {place path place' : List String} (hplace : t.node? place.dropLast = some .directory)
    (h : t.follow place path = .ok place') : t.node? place'.dropLast = some .directory := by
  induction path generalizing place with
  | nil => exact Except.ok.inj h ▸ hplace
  | cons c path ih =>
      obtain ⟨hnode, h⟩ := follow_cons_ok_iff.mp h
      refine ih ?_ h
      split
      · by_cases hnil : place.dropLast = []
        · rw [hnil]
          rfl
        · exact ht _ ((node?_isSome_iff hnil).mp (by rw [hplace]; rfl))
      · rwa [List.dropLast_concat]

theorem Rooted.put {t : FileTree} (ht : t.Rooted) {place : List String} {n : Node}
    (hparent : t.node? place.dropLast = some .directory)
    (hn : t.node? place = some .directory → n = .directory) : (t.put place n).Rooted := by
  -- a directory that is there before the change is there after it
  have hkeep : ∀ p, t.node? p = some .directory → (t.put place n).node? p = some .directory := by
    intro p hp
    by_cases hplace : p = place
    · subst hplace
      by_cases hnil : p = []
      · rw [hnil]
        rfl
      · rw [node?_put_self n hnil, hn hp]
    · rw [node?_put_of_ne n hplace, hp]
  intro other hother
  rw [FileTree.put, List.map_append, List.mem_append] at hother
  rcases hother with hother | hother
  · exact hkeep _ (ht other ((List.filter_sublist.map Prod.fst).subset hother))
  · obtain rfl : other = place := by simpa using hother
    exact hkeep _ hparent

private theorem keptByPut_rooted : KeptByPut Rooted := by
  intro t path place n ht _ hplace hn
  exact ht.put (ht.node?_dropLast_of_follow rfl (locate_ok_iff.mp hplace).2) hn

theorem rooted_ofFiles (files : List (String × List UInt8)) : (ofFiles files).Rooted :=
  keptByPut_rooted.ofFiles (by simp [Rooted]) files

/-! ### Ways -/

private theorem follow_congr {t t' : FileTree} {place path place' : List String}
    (hway : ∀ part, part <+: path → part ≠ path →
      t'.node? (part.foldl (fun p c => if c == ".." then p.dropLast else p ++ [c]) place) =
        t.node? (part.foldl (fun p c => if c == ".." then p.dropLast else p ++ [c]) place))
    (h : t.follow place path = .ok place') : t'.follow place path = .ok place' := by
  induction path generalizing place with
  | nil => exact h
  | cons c path ih =>
      have hfirst : t'.node? place = t.node? place := hway [] List.nil_prefix (by simp)
      obtain ⟨hplace, h⟩ := follow_cons_ok_iff.mp h
      refine follow_cons_ok_iff.mpr ⟨hfirst.trans hplace, ih ?_ h⟩
      intro part hpart hne
      exact hway (c :: part) (List.cons_prefix_cons.mpr ⟨rfl, hpart⟩) (by simpa using hne)

/-- Where a path leads depends only on the nodes on its way. -/
theorem locate_congr {t t' : FileTree} {path place : List String}
    (hway : ∀ part, part <+: path → part ≠ path →
      t'.node? (destination part) = t.node? (destination part))
    (h : t.locate path = .ok place) : t'.locate path = .ok place := by
  obtain ⟨hnull, h⟩ := locate_ok_iff.mp h
  exact locate_ok_iff.mpr ⟨hnull, follow_congr hway h⟩

/-- A path leads from a directory to every node below it. -/
theorem locate_of_mem {t : FileTree} (ht : t.Proper) (hrooted : t.Rooted)
    {path place p : List String} (hpath : t.locate path = .ok place)
    (hmem : place ++ p ∈ t.nodes.map Prod.fst) : t.locate (path ++ p) = .ok (place ++ p) := by
  have hnames : ∀ c ∈ p, isName c = true :=
    fun c hc => ht.names _ hmem c (List.mem_append_right place hc)
  have hfollow : ∀ before after, p = before ++ after →
      t.follow (place ++ before) after = .ok (place ++ p) := by
    intro before after hp
    induction after generalizing before with
    | nil => rw [follow, hp, List.append_nil]
    | cons c after ih =>
        have hdots : (c == "..") = false := by
          have hc := (isName_iff.mp (hnames c (by rw [hp]; simp))).2.1
          simpa using hc
        have hnode : t.node? (place ++ before) = some .directory := by
          have hbelow : place ++ before ++ c :: after ∈ t.nodes.map Prod.fst := by
            rwa [List.append_assoc, ← hp]
          exact hrooted.node?_above hbelow (by simp)
        refine follow_cons_ok_iff.mpr ⟨hnode, ?_⟩
        simp only [hdots, Bool.false_eq_true, if_false]
        rw [List.append_assoc]
        exact ih (before ++ [c]) (by rw [hp]; simp)
  obtain ⟨hnull, hpath⟩ := locate_ok_iff.mp hpath
  have hstart := hfollow [] p rfl
  rw [List.append_nil] at hstart
  refine locate_ok_iff.mpr ⟨?_, follow_append_ok_iff.mpr ⟨place, hpath, hstart⟩⟩
  exact List.forall_mem_append.mpr ⟨hnull, fun c hc => (isName_iff.mp (hnames c hc)).2.2⟩

/-! ### Removing places -/

/-- The tree without some places. -/
def without (t : FileTree) (places : List (List String)) : FileTree :=
  ⟨t.nodes.filter fun n => !places.contains n.1⟩

theorem without_nil (t : FileTree) : t.without [] = t := by
  rw [without, List.filter_eq_self.mpr (by simp)]

theorem erase_without (t : FileTree) (places : List (List String)) (place : List String) :
    (t.without places).erase place = t.without (places ++ [place]) := by
  rw [erase, without, without, List.filter_filter]
  congr 2
  funext n
  by_cases hn : n.1 = place <;> simp [hn]

theorem mem_without {t : FileTree} {places : List (List String)} {n : List String × Node} :
    n ∈ (t.without places).nodes ↔ n ∈ t.nodes ∧ n.1 ∉ places := by
  simp [without]

theorem node?_without (t : FileTree) {places : List (List String)} {place : List String}
    (h : place ≠ []) :
    (t.without places).node? place = if place ∈ places then none else t.node? place := by
  rw [node?_of_ne_nil _ h, node?_of_ne_nil _ h, without,
    Table.lookup_filter_key fun p => !places.contains p]
  by_cases hmem : place ∈ places <;> simp [hmem]

theorem node?_without_of_notMem (t : FileTree) {places : List (List String)} {place : List String}
    (h : place ∉ places) : (t.without places).node? place = t.node? place := by
  by_cases hnil : place = []
  · simp [hnil]
  · rw [node?_without t hnil, if_neg h]

theorem below_eq_nil_iff {t : FileTree} {path place : List String} (h : t.locate path = .ok place) :
    t.below path = [] ↔ (t.nodes.any fun n => isBelow place n.1) = false := by
  rw [below, h]
  simp only [← List.length_eq_zero_iff, List.length_mergeSort, List.length_map]
  rw [List.length_eq_zero_iff, List.filter_eq_nil_iff, List.any_eq_false]

/-- A directory with nothing below it can be removed. -/
theorem removeDirectory_of_below_eq_nil {t : FileTree} {path place : List String}
    (hplace : t.locate path = .ok place) (hnode : t.node? place = some .directory)
    (hempty : t.below path = []) : t.removeDirectory path = .ok (t.erase place) := by
  rw [below_eq_nil_iff hplace] at hempty
  rw [removeDirectory, hplace]
  simp only [bind, Except.bind, hnode, hempty]
  rfl

theorem removeFile_of_node? {t : FileTree} {path place : List String} {bytes : List UInt8}
    (hplace : t.locate path = .ok place) (hnode : t.node? place = some (.file bytes)) :
    t.removeFile path = .ok (t.erase place) := by
  rw [removeFile, hplace]
  simp only [bind, Except.bind, hnode]
  rfl

end PullReview.FileTree
