import PullReview.Python.Parse

/-!
# What readers take

A reader that succeeds has taken some tokens from the front of its tape, and the last solid one of
them is the last token behind it. `Steady` says so of a reader, and instances carry it through
everything that readers are put together with.
-/

namespace PullReview.Python

/-! ### Tapes -/

/-- The last solid token once more tokens are taken. -/
def lastSolid (last : Token) (taken : List Token) : Token :=
  taken.foldl (fun last t => if t.kind.isSolid then t else last) last

/-- Taking some tokens leads from a tape to another. -/
structure Tape.Takes (tape : Tape) (taken : List Token) (tape' : Tape) : Prop where
  ahead : tape.ahead = taken ++ tape'.ahead
  last : tape'.last = lastSolid tape.last taken

namespace Tape.Takes

theorem nil (tape : Tape) : tape.Takes [] tape := ⟨rfl, rfl⟩

theorem trans {tape middle tape' : Tape} {xs ys : List Token} (h : tape.Takes xs middle)
    (h' : middle.Takes ys tape') : tape.Takes (xs ++ ys) tape' := by
  refine ⟨?_, ?_⟩
  · rw [h.ahead, h'.ahead, List.append_assoc]
  · rw [h'.last, h.last, lastSolid, lastSolid, lastSolid, List.foldl_append]

end Tape.Takes

namespace Parse

variable {α β : Type}

/-- A reader that takes tokens from the front of the tape. -/
class Steady (p : Parse α) : Prop where
  takes : ∀ {source : Source} {tape : Tape} {a : α} {tape' : Tape},
    p source tape = some (a, tape') → ∃ taken, tape.Takes taken tape'

theorem bind_some {p : Parse α} {f : α → Parse β} {source : Source} {tape tape' : Tape} {b : β}
    (h : (p >>= f) source tape = some (b, tape')) :
    ∃ a middle, p source tape = some (a, middle) ∧ f a source middle = some (b, tape') := by
  change (p source tape).bind (fun r => f r.1 source r.2) = _ at h
  obtain ⟨⟨a, middle⟩, ha, h⟩ := Option.bind_eq_some_iff.mp h
  exact ⟨a, middle, ha, h⟩

theorem bind_of_some {p : Parse α} {f : α → Parse β} {source : Source} {tape middle : Tape} {a : α}
    (h : p source tape = some (a, middle)) : (p >>= f) source tape = f a source middle := by
  change (p source tape).bind (fun r => f r.1 source r.2) = _
  rw [h]
  rfl

theorem pure_some {a b : α} {source : Source} {tape tape' : Tape}
    (h : (pure a : Parse α) source tape = some (b, tape')) : a = b ∧ tape = tape' :=
  Prod.mk.inj (Option.some.inj h)

theorem get_some {source : Source} {tape tape' seen : Tape}
    (h : (get : Parse Tape) source tape = some (seen, tape')) : tape = seen ∧ tape = tape' :=
  Prod.mk.inj (Option.some.inj h)

theorem set_some {source : Source} {tape tape' new : Tape} {u : PUnit}
    (h : (set new : Parse PUnit) source tape = some (u, tape')) : new = tape' :=
  (Prod.mk.inj (Option.some.inj h)).2

/-! ### Combining readers -/

theorem Steady.bind {p : Parse α} {f : α → Parse β} (hp : Steady p) (hf : ∀ a, Steady (f a)) :
    Steady (p >>= f) where
  takes h := by
    obtain ⟨a, middle, ha, h⟩ := bind_some h
    obtain ⟨xs, hxs⟩ := hp.takes ha
    obtain ⟨ys, hys⟩ := (hf a).takes h
    exact ⟨xs ++ ys, hxs.trans hys⟩

/-- A reader that leaves the tape as it is. -/
theorem Steady.of_still {p : Parse α}
    (h : ∀ {source tape a tape'}, p source tape = some (a, tape') → tape = tape') : Steady p where
  takes hp := ⟨[], h hp ▸ .nil _⟩

instance steady_bind (p : Parse α) (f : α → Parse β) [hp : Steady p] [hf : ∀ a, Steady (f a)] :
    Steady (p >>= f) :=
  hp.bind hf

instance steady_map (p : Parse α) (f : α → β) [hp : Steady p] : Steady (f <$> p) where
  takes {source tape b tape'} h := by
    change (p source tape).bind (fun r => some (f r.1, r.2)) = _ at h
    obtain ⟨⟨a, middle⟩, ha, h⟩ := Option.bind_eq_some_iff.mp h
    obtain ⟨rfl, rfl⟩ := Prod.mk.inj (Option.some.inj h)
    exact hp.takes ha

instance steady_pure (a : α) : Steady (pure a : Parse α) := .of_still fun h => (pure_some h).2

instance steady_ite (c : Prop) [Decidable c] (p q : Parse α) [Steady p] [Steady q] :
    Steady (if c then p else q) := by
  split <;> infer_instance

instance steady_refuse : Steady (refuse : Parse α) := .of_still fun h => by cases h

instance steady_refuse_bind (f : α → Parse β) : Steady (refuse >>= f) := .of_still fun h => by
  obtain ⟨_, _, hrefuse, -⟩ := bind_some h
  cases hrefuse

instance steady_read : Steady (read : Parse Source) :=
  .of_still fun h => (Prod.mk.inj (Option.some.inj h)).2

instance steady_get : Steady (get : Parse Tape) := .of_still fun h => (get_some h).2

instance steady_orElse (p q : Parse α) [hp : Steady p] [hq : Steady q] : Steady (p <|> q) where
  takes {source tape a tape'} h := by
    change ((p source tape).orElse fun _ => q source tape) = _ at h
    cases hresult : p source tape with
    | some r =>
        rw [hresult] at h
        obtain rfl := Option.some.inj h
        exact hp.takes hresult
    | none =>
        rw [hresult] at h
        exact hq.takes h

/-! ### What a reader gives -/

/-- What holds of everything that a reader gives where only tokens of `tokens` are ahead. -/
def Yields (source : Source) (tokens : List Token) (p : Parse α) (Q : α → Prop) : Prop :=
  ∀ ⦃tape : Tape⦄ ⦃a : α⦄ ⦃tape' : Tape⦄, tape.ahead <:+ tokens →
    p source tape = some (a, tape') → Q a

namespace Yields

variable {source : Source} {tokens : List Token} {Q : α → Prop} {R : β → Prop}

theorem bind {p : Parse α} {f : α → Parse β} [hsteady : Steady p] (hp : Yields source tokens p Q)
    (hf : ∀ a, Q a → Yields source tokens (f a) R) : Yields source tokens (p >>= f) R := by
  intro tape b tape' hahead h
  obtain ⟨a, middle, ha, h⟩ := bind_some h
  obtain ⟨taken, htaken⟩ := hsteady.takes ha
  have hsuffix : middle.ahead <:+ tape.ahead := ⟨taken, htaken.ahead.symm⟩
  exact hf a (hp hahead ha) (hsuffix.trans hahead) h

theorem skip {p : Parse α} {f : α → Parse β} [Steady p]
    (hf : ∀ a, Yields source tokens (f a) R) : Yields source tokens (p >>= f) R :=
  bind (fun _ _ _ _ _ => trivial) fun a (_ : True) => hf a

theorem pure {a : α} (ha : Q a) : Yields source tokens (Pure.pure a) Q := by
  intro tape b tape' _ h
  exact (pure_some h).1 ▸ ha

theorem map {p : Parse α} {f : α → β} : Yields source tokens (f <$> p) fun b => ∃ a, b = f a := by
  intro tape b tape' _ h
  change (p source tape).bind (fun r => some (f r.1, r.2)) = _ at h
  obtain ⟨⟨a, _⟩, -, h⟩ := Option.bind_eq_some_iff.mp h
  exact ⟨a, (Prod.mk.inj (Option.some.inj h)).1.symm⟩

theorem refuse : Yields source tokens (Parse.refuse : Parse α) Q := by
  intro tape b tape' _ h
  cases h

theorem refuse_bind {f : α → Parse β} : Yields source tokens (Parse.refuse >>= f) R := by
  intro tape b tape' _ h
  obtain ⟨_, _, hrefuse, -⟩ := bind_some h
  cases hrefuse

theorem ite {c : Prop} [Decidable c] {p q : Parse α} (hp : c → Yields source tokens p Q)
    (hq : ¬ c → Yields source tokens q Q) : Yields source tokens (if c then p else q) Q := by
  split
  · exact hp ‹_›
  · exact hq ‹_›

/-- Two readers with one continuation. -/
theorem fork {c : Prop} [Decidable c] {p q : Parse α} {f : α → Parse β} [Steady p] [Steady q]
    (hp : Yields source tokens p Q) (hq : Yields source tokens q Q)
    (hf : ∀ a, Q a → Yields source tokens (f a) R) :
    Yields source tokens (if c then p >>= f else q >>= f) R :=
  ite (fun _ => bind hp hf) fun _ => bind hq hf

/-- What a reader gives where it is at. -/
theorem apply {p : Parse α} {tape tape' : Tape} {a : α} (hp : Yields source tape.ahead p Q)
    (h : p source tape = some (a, tape')) : Q a :=
  hp (List.suffix_refl _) h

theorem mono {Q' : α → Prop} {p : Parse α} (hp : Yields source tokens p Q)
    (h : ∀ a, Q a → Q' a) : Yields source tokens p Q' := by
  intro tape a tape' hahead ha
  exact h a (hp hahead ha)

end Yields

/-! ### Tokens -/

instance steady_dialect : Steady dialect := by
  unfold dialect
  infer_instance

instance steady_isStrict : Steady isStrict := by
  unfold isStrict
  infer_instance

instance steady_peekToken : Steady peekToken := by
  unfold peekToken
  refine steady_get.bind fun tape => ?_
  split <;> infer_instance

instance steady_peek : Steady peek := by
  unfold peek
  infer_instance

instance steady_peekSecond : Steady peekSecond := by
  unfold peekSecond
  refine steady_get.bind fun tape => ?_
  split <;> infer_instance

private theorem take_some {source : Source} {tape tape' : Tape} {t : Token}
    (h : take source tape = some (t, tape')) : tape.Takes [t] tape' := by
  obtain ⟨_, _, hget, h⟩ := bind_some h
  obtain ⟨rfl, rfl⟩ := get_some hget
  cases hahead : tape.ahead with
  | nil =>
      simp only [hahead] at h
      cases h
  | cons t' ahead =>
      simp only [hahead] at h
      obtain ⟨_, _, hmodify, h⟩ := bind_some h
      obtain ⟨rfl, rfl⟩ := pure_some h
      obtain ⟨-, rfl⟩ := Prod.mk.inj (Option.some.inj hmodify)
      exact ⟨hahead, rfl⟩

instance steady_take : Steady take where
  takes {_ _ t _} h := ⟨[t], take_some h⟩

/-! ### Looking ahead -/

theorem peekToken_some {source : Source} {tape tape' : Tape} {t : Token}
    (h : peekToken source tape = some (t, tape')) :
    tape = tape' ∧ ∃ rest, tape.ahead = t :: rest := by
  obtain ⟨_, _, hget, h⟩ := bind_some h
  obtain ⟨rfl, rfl⟩ := get_some hget
  cases hahead : tape.ahead with
  | nil =>
      simp only [hahead] at h
      cases h
  | cons t' rest =>
      simp only [hahead] at h
      obtain ⟨rfl, rfl⟩ := pure_some h
      exact ⟨rfl, rest, rfl⟩

theorem peek_some {source : Source} {tape tape' : Tape} {kind : TokenKind}
    (h : peek source tape = some (kind, tape')) :
    tape = tape' ∧ ∃ t rest, tape.ahead = t :: rest ∧ t.kind = kind := by
  obtain ⟨t, _, ht, h⟩ := bind_some h
  obtain ⟨rfl, rest, hahead⟩ := peekToken_some ht
  obtain ⟨rfl, rfl⟩ := pure_some h
  exact ⟨rfl, t, rest, hahead, rfl⟩

theorem peekSecond_still {source : Source} {tape tape' : Tape} {kind : TokenKind}
    (h : peekSecond source tape = some (kind, tape')) : tape = tape' := by
  obtain ⟨_, _, hget, h⟩ := bind_some h
  obtain ⟨rfl, rfl⟩ := get_some hget
  rcases hahead : tape.ahead with _ | ⟨first, _ | ⟨second, rest⟩⟩
  all_goals
    simp only [hahead] at h
    exact (pure_some h).2

theorem sees_some {isKind : TokenKind → Bool} {source : Source} {tape tape' : Tape} {b : Bool}
    (h : sees isKind source tape = some (b, tape')) :
    tape = tape' ∧ ∃ t rest, tape.ahead = t :: rest ∧ isKind t.kind = b := by
  obtain ⟨kind, _, hkind, h⟩ := bind_some h
  obtain ⟨rfl, t, rest, hahead, rfl⟩ := peek_some hkind
  obtain ⟨rfl, rfl⟩ := pure_some h
  exact ⟨rfl, t, rest, hahead, rfl⟩

theorem sees_of_ahead {isKind : TokenKind → Bool} {source : Source} {tape : Tape} {t : Token}
    {rest : List Token} (hahead : tape.ahead = t :: rest) :
    sees isKind source tape = some (isKind t.kind, tape) := by
  have hpeek : peekToken source tape = some (t, tape) := by
    rw [peekToken, bind_of_some (rfl : (get : Parse Tape) source tape = some (tape, tape)), hahead]
    rfl
  rw [sees, peek, bind_of_some (bind_of_some hpeek)]
  rfl

/-- Taking the token that was seen. -/
theorem take_of_ahead {source : Source} {tape tape' : Tape} {t t' : Token} {rest : List Token}
    (h : take source tape = some (t', tape')) (hahead : tape.ahead = t :: rest) :
    t' = t ∧ tape.Takes [t] tape' := by
  have htakes := take_some h
  obtain ⟨rfl, -⟩ := List.cons.inj (htakes.ahead.symm.trans hahead)
  exact ⟨rfl, htakes⟩

theorem expect_some {isKind : TokenKind → Bool} {source : Source} {tape tape' : Tape} {t : Token}
    (h : expect isKind source tape = some (t, tape')) :
    tape.Takes [t] tape' ∧ isKind t.kind = true := by
  obtain ⟨b, _, hsees, h⟩ := bind_some h
  obtain ⟨rfl, t', rest, hahead, hkind⟩ := sees_some hsees
  split at h
  · obtain ⟨rfl, htakes⟩ := take_of_ahead h hahead
    exact ⟨htakes, hkind.trans ‹_›⟩
  · cases h

/-- A token is taken if it is of the kind; otherwise the tape stays as it is. -/
theorem accept_some {isKind : TokenKind → Bool} {source : Source} {tape tape' : Tape} {b : Bool}
    (h : accept isKind source tape = some (b, tape')) : ∃ t rest, tape.ahead = t :: rest ∧
      isKind t.kind = b ∧ (b = true ∧ tape.Takes [t] tape' ∨ b = false ∧ tape = tape') := by
  obtain ⟨b', _, hsees, h⟩ := bind_some h
  obtain ⟨rfl, t, rest, hahead, rfl⟩ := sees_some hsees
  refine ⟨t, rest, hahead, ?_⟩
  split at h
  · obtain ⟨_, _, htake, h⟩ := bind_some h
    obtain ⟨rfl, rfl⟩ := pure_some h
    exact ⟨‹_›, .inl ⟨rfl, (take_of_ahead htake hahead).2⟩⟩
  · obtain ⟨rfl, rfl⟩ := pure_some h
    exact ⟨eq_false_of_ne_true ‹_›, .inr ⟨rfl, rfl⟩⟩

instance steady_lastToken : Steady lastToken := by
  unfold lastToken
  infer_instance

instance steady_remaining : Steady remaining := by
  unfold remaining
  infer_instance

instance steady_sees (isKind : TokenKind → Bool) : Steady (sees isKind) := by
  unfold sees
  infer_instance

instance steady_expect (isKind : TokenKind → Bool) : Steady (expect isKind) := by
  unfold expect
  infer_instance

instance steady_accept (isKind : TokenKind → Bool) : Steady (accept isKind) := by
  unfold accept
  infer_instance

instance steady_atOp (text : String) : Steady (atOp text) := steady_sees _

instance steady_atWord (text : String) : Steady (atWord text) := steady_sees _

instance steady_op (text : String) : Steady (op text) := steady_expect _

instance steady_word (text : String) : Steady (word text) := steady_expect _

instance steady_tryOp (text : String) : Steady (tryOp text) := steady_accept _

instance steady_tryWord (text : String) : Steady (tryWord text) := steady_accept _

instance steady_newline : Steady newline := by
  unfold newline
  refine steady_peek.bind fun t => ?_
  split <;> infer_instance

instance steady_identifier : Steady identifier := by
  unfold identifier
  refine steady_peek.bind fun t => ?_
  split <;> infer_instance

/-! ### Repetition -/

instance steady_manyBounded (p : Parse (Option α)) [hp : Steady p] (bound : Nat) :
    Steady (manyBounded p bound) := by
  induction bound with
  | zero => exact steady_pure []
  | succ bound ih =>
      refine hp.bind fun a => ?_
      split <;> infer_instance

instance steady_many (p : Parse (Option α)) [Steady p] : Steady (many p) := by
  unfold many
  infer_instance

theorem many_bounded {p : Parse (Option α)} {source : Source} {tape tape' : Tape} {as : List α}
    (h : many p source tape = some (as, tape')) :
    ∃ bound, manyBounded p (bound + 1) source tape = some (as, tape') := by
  obtain ⟨bound, _, hremaining, h⟩ := bind_some h
  obtain ⟨_, _, hget, hremaining⟩ := bind_some hremaining
  obtain ⟨rfl, rfl⟩ := get_some hget
  obtain ⟨rfl, rfl⟩ := pure_some hremaining
  exact ⟨_, h⟩

/-- Repetition ends at once or goes on behind the first value. -/
theorem manyBounded_some {p : Parse (Option α)} {bound : Nat} {source : Source} {tape tape' : Tape}
    {as : List α} (h : manyBounded p (bound + 1) source tape = some (as, tape')) :
    (as = [] ∧ p source tape = some (none, tape')) ∨ ∃ a rest middle, as = a :: rest ∧
      p source tape = some (some a, middle) ∧
      manyBounded p bound source middle = some (rest, tape') := by
  obtain ⟨o, middle, ho, h⟩ := bind_some h
  cases o with
  | none =>
      obtain ⟨rfl, rfl⟩ := pure_some h
      exact .inl ⟨rfl, ho⟩
  | some a =>
      obtain ⟨rest, _, hrest, h⟩ := bind_some h
      obtain ⟨rfl, rfl⟩ := pure_some h
      exact .inr ⟨a, rest, middle, rfl, ho, hrest⟩

/-- What holds of every value that is read holds of all values that are read one after another. -/
theorem Yields.manyBounded {source : Source} {tokens : List Token} {Q : α → Prop}
    {p : Parse (Option α)} [Steady p] (hp : Yields source tokens p fun o => ∀ a ∈ o, Q a)
    (bound : Nat) : Yields source tokens (manyBounded p bound) fun as => ∀ a ∈ as, Q a := by
  induction bound with
  | zero => exact .pure (List.forall_mem_nil _)
  | succ bound ih =>
      refine hp.bind fun o ho => ?_
      split
      · refine ih.bind fun as has => .pure ?_
        exact List.forall_mem_cons.mpr ⟨ho _ rfl, has⟩
      · exact .pure (List.forall_mem_nil _)

theorem Yields.many {source : Source} {tokens : List Token} {Q : α → Prop} {p : Parse (Option α)}
    [Steady p] (hp : Yields source tokens p fun o => ∀ a ∈ o, Q a) :
    Yields source tokens (many p) fun as => ∀ a ∈ as, Q a :=
  .skip fun n => hp.manyBounded (n + 1)

instance steady_leftBounded (step : α → Parse (Option α)) [hstep : ∀ a, Steady (step a)]
    (bound : Nat) (a : α) : Steady (leftBounded step bound a) := by
  induction bound generalizing a with
  | zero => exact steady_pure a
  | succ bound ih =>
      refine (hstep a).bind fun b => ?_
      split <;> infer_instance

instance steady_growLeft (step : α → Parse (Option α)) [∀ a, Steady (step a)] (a : α) :
    Steady (growLeft step a) := by
  unfold growLeft
  infer_instance

/-- What holds at first and of every value that a step gives holds at last. -/
theorem Yields.growLeft {source : Source} {tokens : List Token} {Q : α → Prop}
    {step : α → Parse (Option α)} [hsteady : ∀ a, Steady (step a)]
    (hstep : ∀ a, Yields source tokens (step a) fun o => ∀ b ∈ o, Q b) {a : α} (ha : Q a) :
    Yields source tokens (growLeft step a) Q := by
  have hbounded : ∀ bound a, Q a → Yields source tokens (leftBounded step bound a) Q := by
    intro bound
    induction bound with
    | zero => exact fun a ha => .pure ha
    | succ bound ih =>
        intro a ha
        refine (hstep a).bind fun o ho => ?_
        split
        · exact ih _ (ho _ rfl)
        · exact .pure ha
  exact .skip fun n => hbounded (n + 1) a ha

instance steady_commaBounded (p : Parse α) [hp : Steady p] (stop : TokenKind → Bool)
    (bound : Nat) : Steady (commaBounded p stop bound) := by
  induction bound with
  | zero => exact steady_pure _
  | succ bound ih =>
      unfold commaBounded
      infer_instance

instance steady_commaList (p : Parse α) [Steady p] (stop : TokenKind → Bool) :
    Steady (commaList p stop) := by
  unfold commaList
  infer_instance

instance steady_bracketed (p : Parse α) [Steady p] (closing : String) :
    Steady (bracketed p closing) := by
  unfold bracketed
  infer_instance

theorem Yields.commaBounded {source : Source} {tokens : List Token} {Q : α → Prop} {p : Parse α}
    [Steady p] (hp : Yields source tokens p Q) (stop : TokenKind → Bool) (bound : Nat) :
    Yields source tokens (commaBounded p stop bound) fun read => ∀ a ∈ read.1, Q a := by
  induction bound with
  | zero => exact .pure (List.forall_mem_nil _)
  | succ bound ih =>
      refine hp.bind fun a ha => .skip fun more => .ite (fun _ => .skip fun kind => ?_) fun _ => ?_
      · refine .ite (fun _ => .pure (List.forall_mem_singleton.mpr ha)) fun _ => ?_
        exact ih.bind fun rest hrest => .pure (List.forall_mem_cons.mpr ⟨ha, hrest⟩)
      · exact .pure (List.forall_mem_singleton.mpr ha)

/-- What holds of every element that is read holds of all elements between two brackets. -/
theorem Yields.bracketed {source : Source} {tokens : List Token} {Q : α → Prop} {p : Parse α}
    [Steady p] (hp : Yields source tokens p Q) (closing : String) :
    Yields source tokens (bracketed p closing) fun as => ∀ a ∈ as, Q a := by
  refine .skip fun closed => .ite (fun _ => .pure (List.forall_mem_nil _)) fun _ => ?_
  refine Yields.bind (Q := fun read => ∀ a ∈ read.1, Q a) ?_ fun read hread => .pure hread
  exact .skip fun n => hp.commaBounded (isOp closing) (n + 1)

instance steady_forIn (xs : List α) (b : β) (f : α → β → Parse (ForInStep β))
    [hf : ∀ a b, Steady (f a b)] : Steady (forIn xs b f) := by
  induction xs generalizing b with
  | nil => exact steady_pure b
  | cons a xs ih =>
      rw [List.forIn_cons]
      refine (hf a b).bind fun step => ?_
      split <;> infer_instance

instance steady_mapM (xs : List α) (f : α → Parse β) [hf : ∀ x, Steady (f x)] :
    Steady (xs.mapM f) := by
  induction xs with
  | nil => exact steady_pure _
  | cons x xs ih =>
      rw [List.mapM_cons]
      infer_instance

instance steady_slice (start stop : Nat) : Steady (slice start stop) := by
  unfold slice
  infer_instance

instance steady_written (p : Parse Expr) [Steady p] : Steady (written p) := by
  unfold written
  infer_instance

end Parse

end PullReview.Python
