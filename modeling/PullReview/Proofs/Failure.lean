/-!
# Computations that can fail

What is known of the parts of a computation that did not fail.
-/

namespace PullReview

variable {ε ε' α β : Type}

theorem ok_bind (a : α) (f : α → Except ε β) : (Except.ok a >>= f) = f a := rfl

theorem ok_map (f : α → β) (a : α) : (Except.ok a : Except ε α).map f = .ok (f a) := rfl

theorem error_map (f : α → β) (e : ε) : (Except.error e).map f = Except.error e := rfl

theorem toOption_bind_pure (x : Except ε α) (f : α → β) :
    (x >>= fun a => pure (f a)).toOption = x.toOption.map f := by
  cases x <;> rfl

theorem bind_ok {x : Except ε α} {f : α → Except ε β} {r : β} (h : x >>= f = .ok r) :
    ∃ a, x = .ok a ∧ f a = .ok r := by
  cases x with
  | error e => cases h
  | ok a => exact ⟨a, rfl, h⟩

/-- A fold goes through if no element can make a step fail. -/
theorem exists_foldlM_ok_iff {f : β → α → Except ε β} {p : α → Prop}
    (hf : ∀ b a, (∃ c, f b a = .ok c) ↔ p a) {xs : List α} {b : β} :
    (∃ c, xs.foldlM f b = .ok c) ↔ ∀ a ∈ xs, p a := by
  induction xs generalizing b with
  | nil => simp [List.foldlM, pure, Except.pure]
  | cons x xs ih =>
      rw [List.forall_mem_cons, ← hf b x, List.foldlM_cons]
      constructor
      · rintro ⟨c, hc⟩
        obtain ⟨first, hfirst, hrest⟩ := bind_ok hc
        exact ⟨⟨first, hfirst⟩, ih.mp ⟨c, hrest⟩⟩
      · rintro ⟨⟨first, hfirst⟩, hrest⟩
        rw [hfirst]
        exact ih.mpr hrest

theorem mapError_eq_ok_iff {f : ε → ε'} {x : Except ε α} {r : α} :
    x.mapError f = .ok r ↔ x = .ok r := by
  cases x with
  | error e => constructor <;> (intro h; cases h)
  | ok a => constructor <;> (intro h; cases h; rfl)

theorem mem_mapM_ok {f : α → Except ε β} {xs : List α} {ys : List β} (h : xs.mapM f = .ok ys) :
    ∀ y ∈ ys, ∃ x ∈ xs, f x = .ok y := by
  induction xs generalizing ys with
  | nil =>
      rw [List.mapM_nil] at h
      rw [← Except.ok.inj h]
      simp
  | cons x xs ih =>
      rw [List.mapM_cons] at h
      obtain ⟨first, hfirst, h⟩ := bind_ok h
      obtain ⟨rest, hrest, h⟩ := bind_ok h
      rw [← Except.ok.inj h]
      intro y hy
      rcases List.mem_cons.mp hy with rfl | hy
      · exact ⟨x, by simp, hfirst⟩
      · obtain ⟨z, hz, hfz⟩ := ih hrest y hy
        exact ⟨z, by simp [hz], hfz⟩

theorem mapM_ok_of_mem {f : α → Except ε β} {xs : List α} {ys : List β} (h : xs.mapM f = .ok ys) :
    ∀ x ∈ xs, ∃ y ∈ ys, f x = .ok y := by
  induction xs generalizing ys with
  | nil => simp
  | cons x xs ih =>
      rw [List.mapM_cons] at h
      obtain ⟨first, hfirst, h⟩ := bind_ok h
      obtain ⟨rest, hrest, h⟩ := bind_ok h
      rw [← Except.ok.inj h]
      intro z hz
      rcases List.mem_cons.mp hz with rfl | hz
      · exact ⟨first, by simp, hfirst⟩
      · obtain ⟨y, hy, hfy⟩ := ih hrest z hz
        exact ⟨y, by simp [hy], hfy⟩

theorem mem_filterMapM_ok {f : α → Except ε (Option β)} {xs : List α} {ys : List β}
    (h : xs.filterMapM f = .ok ys) : ∀ y ∈ ys, ∃ x ∈ xs, f x = .ok (some y) := by
  induction xs generalizing ys with
  | nil =>
      rw [List.filterMapM_nil] at h
      rw [← Except.ok.inj h]
      simp
  | cons x xs ih =>
      rw [List.filterMapM_cons] at h
      obtain ⟨first, hfirst, h⟩ := bind_ok h
      intro y hy
      cases first with
      | none =>
          obtain ⟨z, hz, hfz⟩ := ih h y hy
          exact ⟨z, by simp [hz], hfz⟩
      | some b =>
          obtain ⟨rest, hrest, h⟩ := bind_ok h
          rw [← Except.ok.inj h] at hy
          rcases List.mem_cons.mp hy with rfl | hy
          · exact ⟨x, by simp, hfirst⟩
          · obtain ⟨z, hz, hfz⟩ := ih hrest y hy
            exact ⟨z, by simp [hz], hfz⟩

/-- What a function that can fail gives for each entry, one after the other. -/
def gather (f : α → Except ε (List β)) (xs : List α) : Except ε (List β) := do
  return (← xs.mapM f).flatten

theorem gather_nil (f : α → Except ε (List β)) : gather f [] = .ok [] := by
  rw [gather, List.mapM_nil]
  rfl

theorem gather_cons (f : α → Except ε (List β)) (x : α) (xs : List α) :
    gather f (x :: xs) = do return (← f x) ++ (← gather f xs) := by
  rw [gather, gather, List.mapM_cons]
  cases f x with
  | error e => rfl
  | ok first => cases xs.mapM f <;> rfl

theorem gather_map {γ : Type} (f : β → Except ε (List γ)) (g : α → β) (xs : List α) :
    gather f (xs.map g) = gather (fun x => f (g x)) xs := by
  induction xs with
  | nil => rw [List.map_nil, gather_nil, gather_nil]
  | cons x xs ih => rw [List.map_cons, gather_cons, gather_cons, ih]

theorem gather_append (f : α → Except ε (List β)) (xs ys : List α) :
    gather f (xs ++ ys) = do return (← gather f xs) ++ (← gather f ys) := by
  induction xs with
  | nil =>
      rw [gather_nil, List.nil_append]
      cases gather f ys <;> rfl
  | cons x xs ih =>
      rw [List.cons_append, gather_cons, gather_cons, ih]
      cases f x with
      | error e => rfl
      | ok first =>
          cases gather f xs with
          | error e => rfl
          | ok rest =>
              cases gather f ys with
              | error e => rfl
              | ok rest' => exact congrArg Except.ok (List.append_assoc first rest rest').symm

theorem gather_flatMap {γ : Type} (f : β → Except ε (List γ)) (g : α → List β) (xs : List α) :
    gather f (xs.flatMap g) = gather (fun x => gather f (g x)) xs := by
  induction xs with
  | nil => rw [List.flatMap_nil, gather_nil, gather_nil]
  | cons x xs ih => rw [List.flatMap_cons, gather_append, gather_cons, ih]

theorem gather_congr {f g : α → Except ε (List β)} {xs : List α} (h : ∀ x ∈ xs, f x = g x) :
    gather f xs = gather g xs := by
  induction xs with
  | nil => rw [gather_nil, gather_nil]
  | cons x xs ih =>
      rw [gather_cons, gather_cons, h x (by simp), ih fun y hy => h y (by simp [hy])]

theorem gather_ok {f : α → Except ε (List β)} {g : α → List β} {xs : List α}
    (h : ∀ x ∈ xs, f x = .ok (g x)) : gather f xs = .ok (xs.flatMap g) := by
  induction xs with
  | nil => rw [gather_nil, List.flatMap_nil]
  | cons x xs ih =>
      rw [gather_cons, h x (by simp), ih fun y hy => h y (by simp [hy]), List.flatMap_cons]
      rfl

end PullReview
