import PullReview.Table

/-!
# Entries of ordered tables

What a change of one key does to the entries, to the keys and to the values of a table.
-/

namespace PullReview.Table

variable {α : Type}

private theorem mem_alterEntries {key : String} {f : Option α → α} {es : List (String × α)}
    {e : String × α} (h : e ∈ alterEntries key f es) :
    e ∈ es ∨ ∃ old, e = (key, f old) := by
  induction es with
  | nil => exact Or.inr ⟨none, by simpa [alterEntries] using h⟩
  | cons a es ih =>
      rw [alterEntries] at h
      split at h
      · rcases List.mem_cons.mp h with h | h
        · exact Or.inr ⟨some a.2, h⟩
        · exact Or.inl (List.mem_cons_of_mem _ h)
      · rcases List.mem_cons.mp h with h | h
        · exact Or.inl (by simp [h])
        · exact (ih h).imp_left (List.mem_cons_of_mem _)

theorem keys_alterEntries (key : String) (f : Option α → α) (es : List (String × α))
    (k : String) :
    k ∈ (alterEntries key f es).map Prod.fst ↔ k ∈ es.map Prod.fst ∨ k = key := by
  induction es with
  | nil => simp [alterEntries]
  | cons a es ih =>
      rw [alterEntries]
      split
      · rename_i ha
        have ha : a.1 = key := by simpa using ha
        simp only [List.map_cons, List.mem_cons, ha]
        constructor
        · exact fun h => h.elim Or.inr fun h => Or.inl (Or.inr h)
        · exact fun h => h.elim id Or.inl
      · simp only [List.map_cons, List.mem_cons, ih, or_assoc]

theorem mem_insert {t : Table α} {key : String} {value : α} {e : String × α}
    (h : e ∈ (t.insert key value).entries) : e ∈ t.entries ∨ e = (key, value) :=
  (mem_alterEntries h).imp_right fun ⟨_, he⟩ => he

theorem mem_keys_insert {t : Table α} {key : String} {value : α} {k : String} :
    k ∈ (t.insert key value).keys ↔ k ∈ t.keys ∨ k = key :=
  keys_alterEntries key _ t.entries k

/-! ### Values -/

section Lookup

variable {κ : Type} [BEq κ] [LawfulBEq κ] [DecidableEq κ]

theorem lookup_cons_eq (a : κ × α) (es : List (κ × α)) (k : κ) :
    (a :: es).lookup k = if k = a.1 then some a.2 else es.lookup k := by
  obtain ⟨key, value⟩ := a
  by_cases hk : k = key
  · simp [hk]
  · have hk' : (k == key) = false := by simpa using hk
    simp [List.lookup_cons, hk, hk']

private theorem lookup_of_mem {es : List (κ × α)} {k : κ} {value : α}
    (hnodup : (es.map Prod.fst).Nodup) (h : (k, value) ∈ es) : es.lookup k = some value := by
  induction es with
  | nil => cases h
  | cons e es ih =>
      rw [List.map_cons, List.nodup_cons] at hnodup
      rw [lookup_cons_eq]
      rcases List.mem_cons.mp h with rfl | h
      · simp
      · have hk : k ≠ e.1 := by
          rintro rfl
          exact hnodup.1 (List.mem_map.mpr ⟨_, h, rfl⟩)
        rw [if_neg hk, ih hnodup.2 h]

/-- The order of entries does not matter if no key is there twice. -/
theorem lookup_of_perm {es fs : List (κ × α)} (h : es.Perm fs) (hnodup : (es.map Prod.fst).Nodup)
    (k : κ) : es.lookup k = fs.lookup k := by
  cases hfs : fs.lookup k with
  | none =>
      rw [List.lookup_eq_none_iff] at hfs ⊢
      intro e he
      exact hfs e (h.mem_iff.mp he)
  | some value =>
      obtain ⟨before, after, rfl, _⟩ := List.lookup_eq_some_iff.mp hfs
      exact lookup_of_mem hnodup (h.mem_iff.mpr (by simp))

/-- Of entries chosen by their keys, those of a chosen key are all there. -/
theorem lookup_filter_key (p : κ → Bool) (es : List (κ × α)) (k : κ) :
    (es.filter fun e => p e.1).lookup k = if p k then es.lookup k else none := by
  induction es with
  | nil => simp
  | cons e es ih =>
      rw [lookup_cons_eq, List.filter_cons]
      by_cases hk : k = e.1
      · subst hk
        by_cases hp : p e.1
        · simp [hp, lookup_cons_eq]
        · rw [if_neg hp, ih]
          simp [hp]
      · by_cases hp : p e.1
        · rw [if_pos hp, lookup_cons_eq, ih]
          simp [hk]
        · rw [if_neg hp, ih]
          simp [hk]

end Lookup

private theorem lookup_alterEntries (key : String) (f : Option α → α) (es : List (String × α))
    (k : String) :
    (alterEntries key f es).lookup k =
      if k = key then some (f (es.lookup key)) else es.lookup k := by
  induction es with
  | nil => simp [alterEntries, lookup_cons_eq]
  | cons a es ih =>
      rw [alterEntries]
      by_cases ha : a.1 = key
      · simp only [ha, beq_self_eq_true, if_true, lookup_cons_eq]
        by_cases hk : k = key <;> simp [hk]
      · simp only [beq_iff_eq, ha, if_false, lookup_cons_eq, ih]
        by_cases hk : k = key
        · simp [hk, Ne.symm ha]
        · simp [hk]

theorem get?_alter (t : Table α) (key : String) (f : Option α → α) (k : String) :
    (t.alter key f).get? k = if k = key then some (f (t.get? key)) else t.get? k :=
  lookup_alterEntries key f t.entries k

theorem get?_insert (t : Table α) (key : String) (value : α) (k : String) :
    (t.insert key value).get? k = if k = key then some value else t.get? k :=
  get?_alter t key _ k

/-- Of all that is inserted under a key the last one counts. -/
theorem get?_foldl_insert {β : Type} (key : β → String) (value : β → α) (xs : List β) (t : Table α)
    (k : String) :
    (xs.foldl (fun t x => t.insert (key x) (value x)) t).get? k =
      ((xs.reverse.find? (key · == k)).map value).or (t.get? k) := by
  induction xs generalizing t with
  | nil => rfl
  | cons x xs ih =>
      rw [List.foldl_cons, ih, get?_insert, List.reverse_cons, List.find?_append]
      by_cases hx : key x = k
      · cases xs.reverse.find? (key · == k) <;> simp [hx]
      · cases xs.reverse.find? (key · == k) <;> simp [hx, Ne.symm hx]

theorem get?_ofList (entries : List (String × α)) (k : String) :
    (ofList entries).get? k = (entries.reverse.find? (·.1 == k)).map Prod.snd := by
  have hget := get?_foldl_insert Prod.fst Prod.snd entries {} k
  rwa [show ({} : Table α).get? k = none from rfl, Option.or_none] at hget

end PullReview.Table
