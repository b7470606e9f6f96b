/-!
# The order of doubles

All doubles but those that are no number stand in one line, by their sign, then by their exponent
and then by their significand. So `<` is asymmetric and transitive, though there are doubles that it
does not compare.
-/

namespace PullReview.Number

open Float.Model (UnpackedFloat)

/-- A place in the line of doubles: zeros are in the middle, and infinities at the ends. -/
structure Place where
  side : Int
  exponent : Int := 0
  significand : Int := 0

namespace Place

def Before (p q : Place) : Prop :=
  p.side < q.side ∨ p.side = q.side ∧
    (p.exponent < q.exponent ∨ p.exponent = q.exponent ∧ p.significand < q.significand)

theorem Before.asymm {p q : Place} (h : p.Before q) : ¬ q.Before p := by
  unfold Before at h ⊢
  omega

theorem Before.trans {p q r : Place} (h : p.Before q) (h' : q.Before r) : p.Before r := by
  unfold Before at h h' ⊢
  omega

end Place

/-- The place of a number. -/
def place? : UnpackedFloat → Option Place
  | .notANumber => none
  | .infinity .negative => some { side := -2 }
  | .finite .negative significand exponent _ => some ⟨-1, -exponent, -significand⟩
  | .zero _ => some { side := 0 }
  | .finite .positive significand exponent _ => some ⟨1, exponent, significand⟩
  | .infinity .positive => some { side := 2 }

section

variable (e e' : Int) (m m' : Nat)

private theorem then_compare_eq_lt_iff :
    (compare e e').then (compare m m') = .lt ↔ e < e' ∨ e = e' ∧ m < m' := by
  rw [Ordering.then_eq_lt, Int.compare_eq_lt, Int.compare_eq_eq, Nat.compare_eq_lt]

private theorem then_compare_eq_gt_iff :
    (compare e e').then (compare m m') = .gt ↔ e' < e ∨ e = e' ∧ m' < m := by
  rw [Ordering.then_eq_gt, Int.compare_eq_gt, Int.compare_eq_eq, Nat.compare_eq_gt]

private theorem then_compare_isGE_iff :
    ((compare e e').then (compare m m')).isGE = true ↔ ¬ (e < e' ∨ e' = e ∧ m < m') := by
  rw [Ordering.isGE_iff_ne_lt, then_compare_eq_lt_iff, eq_comm (a := e)]

private theorem then_compare_isLE_iff :
    ((compare e e').then (compare m m')).isLE = true ↔ ¬ (e' < e ∨ e' = e ∧ m' < m) := by
  rw [Ordering.isLE_iff_ne_gt, then_compare_eq_gt_iff, eq_comm (a := e)]

end

private theorem compare_sign : compare UnpackedFloat.Sign.negative .positive = .lt := rfl

private theorem compare_sign_swap : compare UnpackedFloat.Sign.positive .negative = .gt := rfl

private theorem compare_sign_self (s : UnpackedFloat.Sign) : compare s s = .eq := by cases s <;> rfl

/-- Comparing two doubles compares their places. -/
theorem unpacked_lt_iff (x y : UnpackedFloat) :
    x.lt y = true ↔ ∃ p q, place? x = some p ∧ place? y = some q ∧ p.Before q := by
  rw [UnpackedFloat.lt, beq_iff_eq]
  -- Constructors and signs settle on which side of zero both are; exponents and significands count
  -- only if that is the same side.
  rcases x with ⟨_ | _⟩ | _ | _ | ⟨_ | _, m, e, hm⟩ <;>
    rcases y with ⟨_ | _⟩ | _ | _ | ⟨_ | _, m', e', hm'⟩
  all_goals
    dsimp only [UnpackedFloat.compare, place?]
    simp [Place.Before, compare_sign, then_compare_eq_lt_iff, then_compare_eq_gt_iff]

private theorem unpacked_le_iff (x y : UnpackedFloat) :
    x.le y = true ↔ ∃ p q, place? x = some p ∧ place? y = some q ∧ ¬ q.Before p := by
  rw [UnpackedFloat.le]
  rcases x with ⟨_ | _⟩ | _ | _ | ⟨_ | _, m, e, hm⟩ <;>
    rcases y with ⟨_ | _⟩ | _ | _ | ⟨_ | _, m', e', hm'⟩
  all_goals
    dsimp only [UnpackedFloat.compare, place?]
    simp [Place.Before, compare_sign, compare_sign_swap, compare_sign_self,
      then_compare_isGE_iff, then_compare_isLE_iff]

private theorem lt_iff_unpacked (x y : Float) :
    x < y ↔ x.toModel.unpack.lt y.toModel.unpack = true := by
  change decide (x.toModel < y.toModel) = true ↔ _
  rw [decide_eq_true_eq]
  exact Iff.rfl

theorem float_lt_asymm {x y : Float} (h : x < y) : ¬ y < x := by
  rw [lt_iff_unpacked, unpacked_lt_iff] at h ⊢
  intro h'
  obtain ⟨p, q, hp, hq, hbefore⟩ := h
  obtain ⟨q', p', hq', hp', hbefore'⟩ := h'
  obtain rfl : p = p' := Option.some.inj (hp.symm.trans hp')
  obtain rfl : q = q' := Option.some.inj (hq.symm.trans hq')
  exact hbefore.asymm hbefore'

theorem float_lt_trans {x y z : Float} (h : x < y) (h' : y < z) : x < z := by
  rw [lt_iff_unpacked, unpacked_lt_iff] at h h' ⊢
  obtain ⟨p, q, hp, hq, hbefore⟩ := h
  obtain ⟨q', r, hq', hr, hbefore'⟩ := h'
  obtain rfl : q = q' := Option.some.inj (hq.symm.trans hq')
  exact ⟨p, r, hp, hr, hbefore.trans hbefore'⟩

private theorem isNaN_eq_false_iff (x : Float) :
    x.isNaN = false ↔ ∃ p, place? x.toModel.unpack = some p := by
  change x.toModel.unpack.isNaN = false ↔ _
  rcases x.toModel.unpack with ⟨_ | _⟩ | _ | _ | ⟨_ | _, m, e, hm⟩
  all_goals
    dsimp only [UnpackedFloat.isNaN, place?]
    simp

private theorem le_iff_unpacked (x y : Float) :
    x ≤ y ↔ x.toModel.unpack.le y.toModel.unpack = true := by
  change decide (x.toModel ≤ y.toModel) = true ↔ _
  rw [decide_eq_true_eq]
  exact Iff.rfl

/-- Numbers are all compared. -/
theorem float_not_lt_iff {x y : Float} (hx : x.isNaN = false) (hy : y.isNaN = false) :
    ¬ x < y ↔ y ≤ x := by
  obtain ⟨p, hp⟩ := (isNaN_eq_false_iff x).mp hx
  obtain ⟨q, hq⟩ := (isNaN_eq_false_iff y).mp hy
  rw [lt_iff_unpacked, le_iff_unpacked, unpacked_lt_iff, unpacked_le_iff]
  simp [hp, hq]

end PullReview.Number
