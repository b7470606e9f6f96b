import PullReview.Proofs.Python.Rules

/-!
# Where decorators start

A decorator has the line of its mark and the line on which its expression starts once the round
brackets around it are taken away. An expression in brackets is only read where the tokens ahead
start with these brackets, so the second line is that of the first token behind them.
-/

namespace PullReview.Python

def Expr.isGroup : Expr → Bool
  | .group _ => true
  | _ => false

/-- An expression and the tokens ahead before and after it was read: for each round bracket around
it there is an opening one in front. -/
inductive Opened : Expr → List Token → List Token → Prop
  | group {e : Expr} {t : Token} {ahead rest : List Token} :
      Parse.isOp "(" t.kind = true → Opened e ahead rest → Opened (.group e) (t :: ahead) rest
  | other {e : Expr} {ahead rest : List Token} :
      e.isGroup = false → ahead ≠ [] → rest <:+ ahead → Opened e ahead rest

namespace Opened

variable {e : Expr} {ahead rest rest' : List Token}

theorem ne_nil (h : Opened e ahead rest) : ahead ≠ [] := by
  cases h with
  | group _ _ => exact List.cons_ne_nil _ _
  | other _ hne _ => exact hne

theorem mono (h : Opened e ahead rest) (hrest : rest' <:+ rest) : Opened e ahead rest' := by
  induction h with
  | group hop _ ih => exact .group hop (ih hrest)
  | other hgroup hne hsuffix => exact .other hgroup hne (hrest.trans hsuffix)

/-- The start of an expression is the first token behind its opening brackets. -/
theorem startLine_eq (h : Opened e ahead rest) : ∃ opening t more, ahead = opening ++ t :: more ∧
    (∀ b ∈ opening, Parse.isOp "(" b.kind = true) ∧ Parse.startLine e ahead = t.start.line ∧
    rest <:+ t :: more := by
  induction h with
  | @group e b ahead rest hop _ ih =>
      obtain ⟨opening, t, more, rfl, hopening, hline, hsuffix⟩ := ih
      exact ⟨b :: opening, t, more, rfl, List.forall_mem_cons.mpr ⟨hop, hopening⟩, hline, hsuffix⟩
  | @other e ahead rest hgroup hne hsuffix =>
      obtain ⟨t, more, rfl⟩ := List.exists_cons_of_ne_nil hne
      refine ⟨[], t, more, rfl, List.forall_mem_nil _, ?_, hsuffix⟩
      cases e with
      | group e => cases hgroup
      | _ => rfl

end Opened

namespace Parse

/-- A reader of expressions that needs the brackets around them. -/
def Opens (p : Parse Expr) : Prop :=
  ∀ ⦃source : Source⦄ ⦃tape : Tape⦄ ⦃e : Expr⦄ ⦃tape' : Tape⦄, p source tape = some (e, tape') →
    Opened e tape.ahead tape'.ahead

theorem suffix_of_some {α : Type} {p : Parse α} [hp : Steady p] {source : Source}
    {tape tape' : Tape} {a : α} (h : p source tape = some (a, tape')) :
    tape'.ahead <:+ tape.ahead := by
  obtain ⟨taken, htaken⟩ := hp.takes h
  exact ⟨taken, htaken.ahead.symm⟩

private theorem opened_of_some {p : Parse Expr} [Steady p] {source : Source} {tape tape' : Tape}
    {e : Expr} {t : Token} {rest : List Token} (h : p source tape = some (e, tape'))
    (hahead : tape.ahead = t :: rest) (he : e.isGroup = false) :
    Opened e tape.ahead tape'.ahead := by
  refine .other he ?_ (suffix_of_some h)
  rw [hahead]
  exact List.cons_ne_nil _ _

/-- What follows an expression either leaves it as it is or puts it into something other than round
brackets. -/
theorem Opens.bind {p : Parse Expr} {f : Expr → Parse Expr} (hp : Opens p)
    [hsteady : ∀ e, Steady (f e)]
    (hf : ∀ source tokens e, Yields source tokens (f e) fun e' => e' = e ∨ e'.isGroup = false)
    [Steady p] : Opens (p >>= f) := by
  intro source tape e' tape' h
  obtain ⟨e, middle, he, h⟩ := bind_some h
  have hopened := hp he
  have hsuffix := suffix_of_some h
  rcases hf source middle.ahead e (List.suffix_refl _) h with rfl | hgroup
  · exact hopened.mono hsuffix
  · exact .other hgroup hopened.ne_nil (hsuffix.trans (suffix_of_some he))

private theorem opens_refuse : Opens refuse := by
  intro source tape e tape' h
  cases h

/-- Looking at the next token first changes nothing. -/
theorem Opens.sees {isKind : TokenKind → Bool} {f : Bool → Parse Expr} (hf : ∀ b, Opens (f b)) :
    Opens (sees isKind >>= f) := by
  intro source tape e tape' h
  obtain ⟨b, _, hsees, h⟩ := bind_some h
  obtain ⟨rfl, -⟩ := sees_some hsees
  exact hf b h

/-- A reader that takes a token in front gives no brackets, one that does not needs them. -/
theorem Opens.accept {isKind : TokenKind → Bool} {f : Bool → Parse Expr}
    [Steady (accept isKind >>= f)]
    (htaken : ∀ source tokens, Yields source tokens (f true) fun e => e.isGroup = false)
    (hnot : Opens (f false)) : Opens (accept isKind >>= f) := by
  intro source tape e tape' h
  obtain ⟨b, middle, haccept, hrest⟩ := bind_some h
  obtain ⟨t, rest, hahead, -, ⟨rfl, -⟩ | ⟨rfl, rfl⟩⟩ := accept_some haccept
  · exact opened_of_some h hahead (htaken source middle.ahead (List.suffix_refl _) hrest)
  · exact hnot hrest

/-! ### Operators -/

private theorem opens_binaryLevel (ops : List (String × BinaryOp)) {next : Parse Expr} [Steady next]
    (hnext : Opens next) : Opens (binaryLevel ops next) := by
  refine hnext.bind fun source tokens left => ?_
  refine Yields.growLeft (fun a => ?_) (Or.inl rfl)
  refine .skip fun t => ?_
  split
  · split
    · refine .skip fun _ => .skip fun _ => .pure ?_
      exact fun b hb => Option.some.inj hb ▸ Or.inr rfl
    · refine .pure fun b hb => ?_
      cases hb
  · refine .pure fun b hb => ?_
    cases hb

/-- The readers of a knot need the brackets around what they read. -/
structure OpensKnot (k : Knot) : Prop where
  expression : Opens k.expression
  factor : Opens k.factor
  primary : Opens k.primary

section

variable {k : Knot} [SteadyKnot k]

set_option synthInstance.maxSize 4096

private theorem opens_bitwiseOr (hk : OpensKnot k) : Opens (bitwiseOr k) := by
  refine opens_binaryLevel _ (opens_binaryLevel _ (opens_binaryLevel _ ?_))
  exact opens_binaryLevel _ (opens_binaryLevel _ (opens_binaryLevel _ hk.factor))

private theorem opens_comparison (hk : OpensKnot k) : Opens (comparison k) := by
  refine (opens_bitwiseOr hk).bind fun source tokens first => .skip fun pairs => ?_
  exact .ite (fun _ => .pure (Or.inl rfl)) fun _ => .pure (Or.inr rfl)

private theorem isGroup_foldl_not (nots : List Unit) {e : Expr} (he : e.isGroup = false) :
    (nots.foldl (fun e _ => Expr.unary .not e) e).isGroup = false := by
  induction nots generalizing e with
  | nil => exact he
  | cons u nots ih => exact ih rfl

private theorem opens_inversion (hk : OpensKnot k) : Opens (inversion k) := by
  intro source tape e tape' hwhole
  obtain ⟨nots, middle, hnots, h⟩ := bind_some hwhole
  obtain ⟨inner, last, hinner, h⟩ := bind_some h
  obtain ⟨rfl, rfl⟩ := pure_some h
  obtain ⟨bound, hnots⟩ := many_bounded hnots
  obtain ⟨rfl, hnone⟩ | ⟨_, rest, next, rfl, hsome, hrest⟩ := manyBounded_some hnots
  · obtain ⟨b, _, haccept, hnone⟩ := bind_some hnone
    obtain ⟨-, -, -, -, ⟨rfl, -⟩ | ⟨rfl, rfl⟩⟩ := accept_some haccept
    · cases (pure_some hnone).1
    · obtain ⟨-, rfl⟩ := pure_some hnone
      exact opens_comparison hk hinner
  · obtain ⟨b, _, haccept, -⟩ := bind_some hsome
    obtain ⟨t, more, hahead, -, -⟩ := accept_some haccept
    exact opened_of_some hwhole hahead (isGroup_foldl_not rest rfl)

private theorem opens_boolLevel (o : BoolOp) (w : String) {next : Parse Expr} [Steady next]
    (hnext : Opens next) : Opens (boolLevel o w next) := by
  refine hnext.bind fun source tokens first => .skip fun others => ?_
  exact .ite (fun _ => .pure (Or.inl rfl)) fun _ => .pure (Or.inr rfl)

private theorem opens_disjunction (hk : OpensKnot k) : Opens (disjunction k) :=
  opens_boolLevel _ _ (opens_boolLevel _ _ (opens_inversion hk))

private theorem opens_lambda : Opens (lambda k) := by
  intro source tape e tape' h
  obtain ⟨t, _, hword, -⟩ := bind_some h
  refine opened_of_some h (expect_some hword).1.ahead ?_
  have hlambda : Yields source tape.ahead (lambda k) fun e => e.isGroup = false := by
    refine .skip fun _ => .skip fun _ => .skip fun _ => .skip fun _ => ?_
    exact .ite (fun _ => .refuse_bind) fun _ => .skip fun _ => .pure rfl
  exact hlambda (List.suffix_refl _) h

private theorem opens_expressionRule (hk : OpensKnot k) : Opens (expressionRule k) := by
  refine .sees fun isLambda => ?_
  split
  · exact opens_lambda
  · refine (opens_disjunction hk).bind fun source tokens body => .skip fun conditional => ?_
    refine .ite (fun _ => ?_) fun _ => .pure (Or.inl rfl)
    exact .skip fun _ => .skip fun _ => .skip fun _ => .pure (Or.inr rfl)

private theorem opens_namedExpression (hk : OpensKnot k) : Opens (namedExpression k) := by
  intro source tape e tape' hwhole
  obtain ⟨kind, _, hpeek, h⟩ := bind_some hwhole
  obtain ⟨rfl, t, rest, hahead, -⟩ := peek_some hpeek
  obtain ⟨second, _, hsecond, h⟩ := bind_some h
  obtain rfl := peekSecond_still hsecond
  split at h
  · obtain ⟨_, _, -, h⟩ := bind_some h
    obtain ⟨_, _, -, h⟩ := bind_some h
    obtain ⟨_, _, -, h⟩ := bind_some h
    obtain ⟨rfl, -⟩ := pure_some h
    exact opened_of_some hwhole hahead rfl
  · exact hk.expression h

private theorem opens_starNamed (hk : OpensKnot k) : Opens (starNamed k) :=
  .accept (fun _ _ => .skip fun _ => .pure rfl) (opens_namedExpression hk)

private theorem opens_factorRule (hk : OpensKnot k) : Opens (factorRule k) := by
  refine .accept (fun _ _ => .skip fun _ => .pure rfl) ?_
  refine .accept (fun _ _ => .skip fun _ => .pure rfl) ?_
  refine .accept (fun _ _ => .skip fun _ => .pure rfl) ?_
  refine .accept (fun _ _ => ?_) ?_
  · refine Yields.map.bind ?_
    rintro base ⟨value, rfl⟩
    exact .skip fun power => .ite (fun _ => .skip fun _ => .pure rfl) fun _ => .pure rfl
  · refine hk.primary.bind fun source tokens base => .skip fun power => ?_
    exact .ite (fun _ => .skip fun _ => .pure (Or.inr rfl)) fun _ => .pure (Or.inl rfl)

/-! ### Atoms -/

private theorem roundContent_some (hk : OpensKnot k) {source : Source} {tape tape' : Tape}
    {e : Expr} (h : roundContent k source tape = some (e, tape')) :
    (∃ inner, e = .group inner ∧ Opened inner tape.ahead tape'.ahead) ∨ e.isGroup = false := by
  obtain ⟨b, _, hclosed, h⟩ := bind_some h
  obtain ⟨t, rest, hahead, -, ⟨rfl, -⟩ | ⟨rfl, rfl⟩⟩ := accept_some hclosed
  · obtain ⟨rfl, -⟩ := pure_some h
    exact .inr rfl
  obtain ⟨yields, _, hyield, h⟩ := bind_some h
  obtain ⟨rfl, -⟩ := sees_some hyield
  split at h
  · obtain ⟨inner, _, hinner, h⟩ := bind_some h
    obtain ⟨_, _, hclose, h⟩ := bind_some h
    obtain ⟨rfl, rfl⟩ := pure_some h
    refine .inl ⟨inner, rfl, (opened_of_some hinner hahead ?_).mono (suffix_of_some hclose)⟩
    have hother : Yields source tape.ahead (yieldExpression k) fun e => e.isGroup = false := by
      refine .skip fun _ => .skip fun delegates => ?_
      refine .ite (fun _ => .skip fun _ => .pure rfl) fun _ => .skip fun t => ?_
      exact .ite (fun _ => .skip fun _ => .pure rfl) fun _ => .pure rfl
    exact hother (List.suffix_refl _) hinner
  obtain ⟨first, middle, hfirst, hrest⟩ := bind_some h
  have hcontent : e = .group first ∨ e.isGroup = false := by
    refine Yields.apply (Q := fun e => e = .group first ∨ e.isGroup = false) ?_ hrest
    refine .skip fun divided => .ite (fun _ => ?_) fun _ => .skip fun looped => ?_
    · exact .skip fun _ => .skip fun _ => .pure (Or.inr rfl)
    refine .ite (fun _ => ?_) fun _ => ?_
    · refine .ite (fun _ => .refuse_bind) fun _ => ?_
      exact .skip fun _ => .skip fun _ => .pure (Or.inr rfl)
    · exact .ite (fun _ => .refuse_bind) fun _ => .skip fun _ => .pure (Or.inl rfl)
  rcases hcontent with rfl | hother
  · exact .inl ⟨first, rfl, (opens_starNamed hk hfirst).mono (suffix_of_some hrest)⟩
  · exact .inr hother

variable {source : Source} {tokens : List Token}

private theorem squareContent_isGroup :
    Yields source tokens (squareContent k) fun e => e.isGroup = false := by
  refine .skip fun closed => .ite (fun _ => .pure rfl) fun _ => .skip fun first => ?_
  refine .skip fun divided => .ite (fun _ => ?_) fun _ => .skip fun looped => ?_
  · exact .skip fun _ => .skip fun _ => .pure rfl
  refine .ite (fun _ => ?_) fun _ => .skip fun _ => .pure rfl
  refine .ite (fun _ => .refuse_bind) fun _ => ?_
  exact .skip fun _ => .skip fun _ => .pure rfl

private theorem curlyContent_isGroup :
    Yields source tokens (curlyContent k) fun e => e.isGroup = false := by
  refine .skip fun closed => .ite (fun _ => .skip fun _ => .pure rfl) fun _ => ?_
  refine .skip fun unpacked => .ite (fun _ => ?_) fun _ => .skip fun first => ?_
  · exact .skip fun _ => .skip fun _ => .pure rfl
  refine .skip fun paired => .ite (fun _ => ?_) fun _ => .skip fun looped => ?_
  · refine .skip fun _ => .skip fun value => .skip fun looped => .ite (fun _ => ?_) fun _ => ?_
    · exact .skip fun _ => .skip fun _ => .pure rfl
    · refine .skip fun divided => .ite (fun _ => ?_) fun _ => ?_
      · exact .skip fun _ => .skip fun _ => .pure rfl
      · exact .skip fun _ => .skip fun _ => .pure rfl
  refine .ite (fun _ => ?_) fun _ => .skip fun divided => ?_
  · refine .ite (fun _ => .refuse_bind) fun _ => ?_
    exact .skip fun _ => .skip fun _ => .pure rfl
  · refine .ite (fun _ => ?_) fun _ => ?_
    · exact .skip fun _ => .skip fun _ => .pure rfl
    · exact .skip fun _ => .skip fun _ => .pure rfl

omit [SteadyKnot k] in
private theorem strings_isGroup : Yields source tokens (strings k) fun e => e.isGroup = false := by
  refine .skip fun d => .skip fun literals => .ite (fun _ => .refuse_bind) fun _ => ?_
  refine .ite (fun _ => .ite (fun _ => .refuse_bind) fun _ => ?_) fun _ => .skip fun pieces => ?_
  · dsimp only
    split
    · exact .pure rfl
    · exact .refuse_bind
  · refine .ite (fun _ => .pure rfl) fun _ => ?_
    dsimp only
    split
    · exact .pure rfl
    · exact .pure rfl

private theorem numberAtom_isGroup (text : String) :
    Yields source tokens (numberAtom text) fun e => e.isGroup = false := by
  unfold numberAtom
  split
  case h_4 => exact .refuse
  all_goals exact .pure rfl

/-- A reader of expressions that needs the brackets around what it reads here. -/
def OpensAt (source : Source) (tape : Tape) (p : Parse Expr) : Prop :=
  ∀ ⦃e : Expr⦄ ⦃tape' : Tape⦄, p source tape = some (e, tape') → Opened e tape.ahead tape'.ahead

private theorem OpensAt.of_yields {p : Parse Expr} [Steady p] {tape : Tape} {t : Token}
    {rest : List Token} (hahead : tape.ahead = t :: rest)
    (hp : Yields source tape.ahead p fun e => e.isGroup = false) : OpensAt source tape p := by
  intro e tape' h
  exact opened_of_some h hahead (hp.apply h)

private theorem opens_atom (hk : OpensKnot k) : Opens (atom k) := by
  intro source tape e tape' h
  obtain ⟨kind, _, hpeek, h⟩ := bind_some h
  obtain ⟨rfl, t, rest, hahead, rfl⟩ := peek_some hpeek
  refine (?_ : OpensAt source tape _) h
  split
  case h_4 => exact .of_yields hahead (.skip fun _ => .pure rfl)
  case h_5 text _ => exact .of_yields hahead (.skip fun _ => numberAtom_isGroup text)
  case h_6 => exact .of_yields hahead strings_isGroup
  case h_7 hkind =>
    intro e tape' hround
    obtain ⟨_, middle, htake, hcontent⟩ := bind_some hround
    rw [(take_of_ahead htake hahead).2.ahead]
    have hopen : isOp "(" t.kind = true := by
      rw [hkind]
      decide
    obtain ⟨inner, rfl, hinner⟩ | hother := roundContent_some hk hcontent
    · exact .group hopen hinner
    · refine .other hother (List.cons_ne_nil _ _) ?_
      exact (suffix_of_some hcontent).trans (List.suffix_cons _ _)
  case h_8 => exact .of_yields hahead (.skip fun _ => squareContent_isGroup)
  case h_10 =>
    exact .of_yields hahead (.ite (fun _ => .skip fun _ => curlyContent_isGroup) fun _ => .refuse)
  case h_11 => exact .of_yields hahead .refuse
  all_goals exact .of_yields hahead (.skip fun _ => .pure rfl)

private theorem opens_primaryRule (hk : OpensKnot k) : Opens (primaryRule k) := by
  intro source tape e tape' h
  obtain ⟨t, _, hpeek, h⟩ := bind_some h
  obtain ⟨rfl, -⟩ := peekToken_some hpeek
  have hatom : Opens (atom k >>= growLeft (trailer k t.start.line)) := by
    refine (opens_atom hk).bind fun source tokens e => Yields.growLeft (fun a => ?_) (Or.inl rfl)
    refine .skip fun dotted => .ite (fun _ => ?_) fun _ => .skip fun called => ?_
    · exact .skip fun _ => .pure fun b hb => Option.some.inj hb ▸ Or.inr rfl
    refine .ite (fun _ => ?_) fun _ => .skip fun indexed => .ite (fun _ => ?_) fun _ => ?_
    · exact .skip fun _ => .skip fun _ => .pure fun b hb => Option.some.inj hb ▸ Or.inr rfl
    · exact .skip fun _ => .skip fun _ => .pure fun b hb => Option.some.inj hb ▸ Or.inr rfl
    · exact .pure fun b hb => nomatch hb
  exact hatom h

end

theorem opensKnot_knot (n : Nat) : OpensKnot (knot n) := by
  induction n with
  | zero => exact ⟨opens_refuse, opens_refuse, opens_refuse⟩
  | succ n ih => exact ⟨opens_expressionRule ih, opens_factorRule ih, opens_primaryRule ih⟩

/-! ### Decorators -/

/-- A mark and the opening brackets behind it. -/
def IsOpening (opening : List Token) : Prop :=
  ∃ mark brackets, opening = mark :: brackets ∧ isOp "@" mark.kind = true ∧
    ∀ b ∈ brackets, isOp "(" b.kind = true

/-- A decorator starts with its mark, and its expression with the token behind the opening. -/
structure StartsAt (d : Decorator) (opening : List Token) (t : Token) : Prop where
  isOpening : IsOpening opening
  markLine : ∀ mark ∈ opening.head?, d.markLine = mark.start.line
  exprLine : d.exprLine = t.start.line

private theorem decorator_some {k : Knot} [SteadyKnot k] (hk : OpensKnot k) {source : Source}
    {tape tape' : Tape} {d : Decorator} (h : decorator k source tape = some (d, tape')) :
    ∃ opening t more, tape.ahead = opening ++ t :: more ∧ StartsAt d opening t ∧
      tape'.ahead <:+ t :: more := by
  obtain ⟨mark, _, hmark, h⟩ := bind_some h
  obtain ⟨htakes, hop⟩ := expect_some hmark
  obtain ⟨_, _, hget, h⟩ := bind_some h
  obtain ⟨rfl, rfl⟩ := get_some hget
  obtain ⟨expr, _, hexpr, h⟩ := bind_some h
  obtain ⟨_, _, hlast, h⟩ := bind_some h
  obtain ⟨_, _, hnewline, h⟩ := bind_some h
  obtain ⟨_, _, hslice, h⟩ := bind_some h
  obtain ⟨rfl, rfl⟩ := pure_some h
  have hbehind := ((suffix_of_some hslice).trans (suffix_of_some hnewline)).trans
    (suffix_of_some hlast)
  obtain ⟨brackets, t, more, hahead, hbrackets, hline, hmore⟩ :=
    (opens_namedExpression hk hexpr).startLine_eq
  refine ⟨mark :: brackets, t, more, ?_, ⟨?_, ?_, hline⟩, hbehind.trans hmore⟩
  · rw [htakes.ahead, hahead]
    rfl
  · exact ⟨mark, brackets, rfl, hop, hbrackets⟩
  · exact fun _ hmark => Option.some.inj hmark ▸ rfl

private theorem decorator_exprLine {k : Knot} [SteadyKnot k] (hk : OpensKnot k) {source : Source}
    {tokens : List Token} : Yields source tokens (decorator k) fun d =>
      ∃ t ∈ tokens, d.exprLine = t.start.line := by
  intro tape d tape' hahead h
  obtain ⟨opening, t, more, hopening, hstarts, -⟩ := decorator_some hk h
  have ht : t ∈ tape.ahead := by
    rw [hopening]
    exact List.mem_append_right _ List.mem_cons_self
  exact ⟨t, hahead.subset ht, hstarts.exprLine⟩

/-- The first decorator is the one that the tokens ahead start with, and the expressions of the
others start behind it. -/
theorem decorators_some {k : Knot} [SteadyKnot k] (hk : OpensKnot k) {source : Source}
    {tape tape' : Tape} {ds : List Decorator} (h : decorators k source tape = some (ds, tape')) :
    (ds = [] ∧ tape = tape') ∨ ∃ d others opening t more, ds = d :: others ∧
      tape.ahead = opening ++ t :: more ∧ StartsAt d opening t ∧ tape'.ahead <:+ t :: more ∧
      ∀ d' ∈ others, ∃ t' ∈ t :: more, d'.exprLine = t'.start.line := by
  obtain ⟨bound, h⟩ := many_bounded h
  obtain ⟨rfl, hnone⟩ | ⟨d, others, middle, rfl, hsome, hothers⟩ := manyBounded_some h
  · obtain ⟨marked, _, hsees, hnone⟩ := bind_some hnone
    obtain ⟨rfl, -⟩ := sees_some hsees
    split at hnone
    · obtain ⟨_, _, -, hnone⟩ := bind_some hnone
      cases (pure_some hnone).1
    · exact .inl ⟨rfl, (pure_some hnone).2⟩
  · obtain ⟨marked, _, hsees, hsome⟩ := bind_some hsome
    obtain ⟨rfl, -⟩ := sees_some hsees
    split at hsome
    · obtain ⟨d', _, hd, hsome⟩ := bind_some hsome
      obtain ⟨hd', rfl⟩ := pure_some hsome
      obtain rfl := Option.some.inj hd'
      obtain ⟨opening, t, more, hahead, hstarts, hmiddle⟩ := decorator_some hk hd
      refine .inr ⟨d', others, opening, t, more, rfl, hahead, hstarts, ?_, ?_⟩
      · exact (suffix_of_some hothers).trans hmiddle
      · refine Yields.manyBounded ?_ bound hmiddle hothers
        refine .skip fun marked => .ite (fun _ => ?_) fun _ => .pure nofun
        refine (decorator_exprLine hk).bind fun d hd => .pure ?_
        exact fun d' hd' => Option.some.inj hd' ▸ hd
    · cases (pure_some hsome).1

end Parse

end PullReview.Python
