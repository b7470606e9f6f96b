import PullReview.Proofs.Python.Decorators
import PullReview.Proofs.Python.Scan

/-!
# Where statements stand

Every definition and every assignment of a module, at whatever depth, is what the grammar reads from
a run of the tokens of the source. The lines of a statement go from the first token of that run to
its last solid one.
-/

namespace PullReview.Python

/-! ### Statements inside statements -/

/-- A statement stands in a body, at any depth. -/
inductive Within (s : Stmt) : List Stmt → Prop
  | here {body : List Stmt} : s ∈ body → Within s body
  | inFunction {head : FunctionHead} {inner body : List Stmt} :
      .function head inner ∈ body → Within s inner → Within s body
  | inClass {head : ClassHead} {inner body : List Stmt} :
      .class head inner ∈ body → Within s inner → Within s body
  | inClause {clauses : List Clause} {head : List Expr} {inner body : List Stmt} :
      .compound clauses ∈ body → .mk head inner ∈ clauses → Within s inner → Within s body

theorem Within.mono {s : Stmt} {body body' : List Stmt} (h : Within s body) (hle : body ⊆ body') :
    Within s body' := by
  cases h with
  | here hs => exact .here (hle hs)
  | inFunction hf hs => exact .inFunction (hle hf) hs
  | inClass hc hs => exact .inClass (hle hc) hs
  | inClause hc hm hs => exact .inClause (hle hc) hm hs

private theorem within_iff {s : Stmt} {body : List Stmt} :
    Within s body ↔ ∃ s' ∈ body, Within s [s'] := by
  refine ⟨fun h => ?_, fun ⟨s', hs', h⟩ => h.mono ?_⟩
  · cases h with
    | here hs => exact ⟨s, hs, .here (List.mem_singleton_self _)⟩
    | inFunction hf hs => exact ⟨_, hf, .inFunction (List.mem_singleton_self _) hs⟩
    | inClass hc hs => exact ⟨_, hc, .inClass (List.mem_singleton_self _) hs⟩
    | inClause hc hm hs => exact ⟨_, hc, .inClause (List.mem_singleton_self _) hm hs⟩
  · exact fun _ hx => List.mem_singleton.mp hx ▸ hs'

private theorem not_within_nil (s : Stmt) : ¬ Within s [] := by
  intro h
  obtain ⟨s', hs', -⟩ := within_iff.mp h
  cases hs'

/-- A property of all statements of a body, at any depth. -/
def Everywhere (P : Stmt → Prop) (body : List Stmt) : Prop := ∀ s, Within s body → P s

def Clause.body : Clause → List Stmt
  | .mk _ body => body

/-- Statements without statements inside. -/
def Stmt.isLeaf : Stmt → Bool
  | .simple _ | .assign _ _ _ | .annotate _ _ _ _ => true
  | .compound _ | .function _ _ | .class _ _ => false

namespace Everywhere

variable {P : Stmt → Prop}

private theorem iff_forall {body : List Stmt} :
    Everywhere P body ↔ ∀ s ∈ body, Everywhere P [s] := by
  refine ⟨fun h s hs t ht => h t (within_iff.mpr ⟨s, hs, ht⟩), fun h t ht => ?_⟩
  obtain ⟨s, hs, ht⟩ := within_iff.mp ht
  exact h s hs t ht

theorem cons_iff {s : Stmt} {rest : List Stmt} :
    Everywhere P (s :: rest) ↔ Everywhere P [s] ∧ Everywhere P rest := by
  rw [iff_forall, List.forall_mem_cons, ← iff_forall]

theorem flatten {groups : List (List Stmt)} (h : ∀ group ∈ groups, Everywhere P group) :
    Everywhere P groups.flatten := by
  refine iff_forall.mpr fun s hs => ?_
  obtain ⟨group, hgroup, hs⟩ := List.mem_flatten.mp hs
  exact iff_forall.mp (h group hgroup) s hs

private theorem leaf {s : Stmt} (hs : s.isLeaf = true) (h : P s) : Everywhere P [s] := by
  intro t ht
  cases ht with
  | here ht => exact List.mem_singleton.mp ht ▸ h
  | inFunction hf _ => cases List.mem_singleton.mp hf ▸ hs
  | inClass hc _ => cases List.mem_singleton.mp hc ▸ hs
  | inClause hc _ _ => cases List.mem_singleton.mp hc ▸ hs

theorem function {head : FunctionHead} {inner : List Stmt} (h : P (.function head inner))
    (hinner : Everywhere P inner) : Everywhere P [.function head inner] := by
  intro t ht
  cases ht with
  | here ht => exact List.mem_singleton.mp ht ▸ h
  | inFunction hf ht =>
      cases List.mem_singleton.mp hf
      exact hinner t ht
  | inClass hc _ => cases List.mem_singleton.mp hc
  | inClause hc _ _ => cases List.mem_singleton.mp hc

theorem «class» {head : ClassHead} {inner : List Stmt} (h : P (.class head inner))
    (hinner : Everywhere P inner) : Everywhere P [.class head inner] := by
  intro t ht
  cases ht with
  | here ht => exact List.mem_singleton.mp ht ▸ h
  | inFunction hf _ => cases List.mem_singleton.mp hf
  | inClass hc ht =>
      cases List.mem_singleton.mp hc
      exact hinner t ht
  | inClause hc _ _ => cases List.mem_singleton.mp hc

theorem compound {clauses : List Clause} (h : P (.compound clauses))
    (hclauses : ∀ c ∈ clauses, Everywhere P c.body) : Everywhere P [.compound clauses] := by
  intro t ht
  cases ht with
  | here ht => exact List.mem_singleton.mp ht ▸ h
  | inFunction hf _ => cases List.mem_singleton.mp hf
  | inClass hc _ => cases List.mem_singleton.mp hc
  | inClause hc hm ht =>
      cases List.mem_singleton.mp hc
      exact hclauses _ hm t ht

end Everywhere

/-! ### Runs of tokens -/

namespace Parse

/-- A function or a class with the decorators in front of it. -/
def definition (k : Knot) : Parse Stmt := do
  let ds ← decorators k
  if ← atWord "class" then classDef k ds else functionDef k ds

instance steady_definition (k : Knot) [SteadyKnot k] : Steady (definition k) := by
  unfold definition
  infer_instance

/-- A reader reads a run of the tokens of a source, all of it, as a value. -/
def ReadAs {α : Type} (source : Source) (tokens : List Token) (p : Parse α) (run : List Token)
    (a : α) : Prop :=
  ∃ before after last, tokens = before ++ (run ++ after) ∧
    p source ⟨run ++ after, last⟩ = some (a, ⟨after, lastSolid last run⟩)

private theorem readAs_of_some {α : Type} {p : Parse α} [hp : Steady p] {source : Source}
    {tokens : List Token} {tape tape' : Tape} {a : α} (hahead : tape.ahead <:+ tokens)
    (h : p source tape = some (a, tape')) : ∃ run, ReadAs source tokens p run a := by
  obtain ⟨run, hrun⟩ := hp.takes h
  obtain ⟨before, hbefore⟩ := hahead
  obtain ⟨ahead, last⟩ := tape
  obtain ⟨after, last'⟩ := tape'
  obtain rfl : ahead = run ++ after := hrun.ahead
  obtain rfl : last' = lastSolid last run := hrun.last
  exact ⟨run, before, after, last, hbefore.symm, h⟩

end Parse

/-- The lines that a definition or an assignment covers. -/
def Stmt.extent? : Stmt → Option Extent
  | .assign extent _ _ | .annotate extent _ _ _ => some extent
  | .function head _ => some head.extent
  | .class head _ => some head.extent
  | .simple _ | .compound _ => none

/-- The rule of the grammar for statements of a kind. -/
def Stmt.rule (k : Knot) : Stmt → Parse Stmt
  | .function _ _ | .class _ _ => Parse.definition k
  | _ => Parse.simpleStatement k

/-- A statement with lines is what its rule reads from a run of the tokens. -/
def Placed (source : Source) (tokens : List Token) (s : Stmt) : Prop :=
  s.extent?.isSome → ∃ n run, Parse.ReadAs source tokens (s.rule (Parse.knot n)) run s

/-- The lines of what is read go from the next token, which is taken, to the last solid one. -/
structure Spans (extent : Extent) (tape tape' : Tape) : Prop where
  first : ∃ t rest, tape.ahead = t :: rest ∧ extent.first = t.start.line
  last : extent.last = tape'.last.stop.line
  last_le_reach : extent.last ≤ extent.reach
  shorter : tape'.ahead.length < tape.ahead.length

namespace Parse

variable {k : Knot} {source : Source} {tape tape' : Tape}

/-! ### Definitions -/

private theorem lastToken_some {t : Token} (h : lastToken source tape = some (t, tape')) :
    tape.last = t ∧ tape = tape' := by
  obtain ⟨_, _, hget, h⟩ := bind_some h
  obtain ⟨rfl, rfl⟩ := get_some hget
  exact pure_some h

private theorem spans_of_some {t last : Token} {rest : List Token} {extent : Extent}
    (hahead : tape.ahead = t :: rest) (hfirst : extent.first = t.start.line)
    (hlast : lastToken source tape' = some (last, tape')) (hextent : extent.last = last.stop.line)
    (hreach : extent.last ≤ extent.reach) (hshorter : tape'.ahead.length < tape.ahead.length) :
    Spans extent tape tape' := by
  refine ⟨⟨t, rest, hahead, hfirst⟩, ?_, hreach, hshorter⟩
  rw [hextent, (lastToken_some hlast).1]

private theorem shorter_of_expect {α : Type} {isKind : TokenKind → Bool} {f : Token → Parse α}
    [hf : ∀ t, Steady (f t)] {a : α} (h : (expect isKind >>= f) source tape = some (a, tape')) :
    tape'.ahead.length < tape.ahead.length := by
  obtain ⟨t, middle, hexpect, h⟩ := bind_some h
  have hlength := (suffix_of_some h).length_le
  rw [(expect_some hexpect).1.ahead, List.length_append, List.length_singleton]
  omega

set_option synthInstance.maxSize 4096 in
private theorem functionDef_shorter [SteadyKnot k] {ds : List Decorator} {s : Stmt}
    (h : functionDef k ds source tape = some (s, tape')) :
    tape'.ahead.length < tape.ahead.length := by
  obtain ⟨t, _, hpeek, h⟩ := bind_some h
  obtain ⟨rfl, -⟩ := peekToken_some hpeek
  obtain ⟨_, middle, hasync, h⟩ := bind_some h
  have hmiddle := (suffix_of_some hasync).length_le
  exact Nat.lt_of_lt_of_le (shorter_of_expect h) hmiddle

private theorem classDef_shorter [SteadyKnot k] {ds : List Decorator} {s : Stmt}
    (h : classDef k ds source tape = some (s, tape')) :
    tape'.ahead.length < tape.ahead.length := by
  obtain ⟨t, _, hpeek, h⟩ := bind_some h
  obtain ⟨rfl, -⟩ := peekToken_some hpeek
  exact shorter_of_expect h

theorem functionDef_spans [SteadyKnot k] {ds : List Decorator} {s : Stmt}
    (h : functionDef k ds source tape = some (s, tape')) : ∃ head body, s = .function head body ∧
      head.decorators = ds ∧ Spans head.extent tape tape' := by
  have hshorter := functionDef_shorter h
  obtain ⟨t, _, hpeek, h⟩ := bind_some h
  obtain ⟨rfl, rest, hahead⟩ := peekToken_some hpeek
  obtain ⟨_, _, -, h⟩ := bind_some h
  obtain ⟨_, _, -, h⟩ := bind_some h
  obtain ⟨name, _, -, h⟩ := bind_some h
  obtain ⟨_, _, -, h⟩ := bind_some h
  obtain ⟨_, _, -, h⟩ := bind_some h
  obtain ⟨ps, _, -, h⟩ := bind_some h
  obtain ⟨_, _, -, h⟩ := bind_some h
  obtain ⟨returns, _, -, h⟩ := bind_some h
  obtain ⟨block, _, -, h⟩ := bind_some h
  obtain ⟨last, _, hlast, h⟩ := bind_some h
  obtain ⟨-, rfl⟩ := lastToken_some hlast
  obtain ⟨rfl, rfl⟩ := pure_some h
  exact ⟨_, _, rfl, rfl, spans_of_some hahead rfl hlast rfl (Nat.le_max_left _ _) hshorter⟩

theorem classDef_spans [SteadyKnot k] {ds : List Decorator} {s : Stmt}
    (h : classDef k ds source tape = some (s, tape')) : ∃ head body, s = .class head body ∧
      head.decorators = ds ∧ Spans head.extent tape tape' := by
  have hshorter := classDef_shorter h
  obtain ⟨t, _, hpeek, h⟩ := bind_some h
  obtain ⟨rfl, rest, hahead⟩ := peekToken_some hpeek
  obtain ⟨_, _, -, h⟩ := bind_some h
  obtain ⟨name, _, -, h⟩ := bind_some h
  obtain ⟨_, _, -, h⟩ := bind_some h
  obtain ⟨bases, _, -, h⟩ := bind_some h
  obtain ⟨block, _, -, h⟩ := bind_some h
  obtain ⟨last, _, hlast, h⟩ := bind_some h
  obtain ⟨-, rfl⟩ := lastToken_some hlast
  obtain ⟨rfl, rfl⟩ := pure_some h
  exact ⟨_, _, rfl, rfl, spans_of_some hahead rfl hlast rfl (Nat.le_max_left _ _) hshorter⟩

section

variable [SteadyKnot k] {tokens : List Token}

private theorem functionDef_yields {Q : List Param → Prop} {R : List Stmt → Prop}
    (ds : List Decorator) (hparams : Yields source tokens (params k) Q)
    (hblock : Yields source tokens k.block fun block => R block.body) :
    Yields source tokens (functionDef k ds) fun s =>
      ∃ head body, s = .function head body ∧ Q head.params ∧ R body := by
  refine .skip fun t => .skip fun _ => .skip fun _ => .skip fun name => .skip fun _ => ?_
  refine .skip fun _ => hparams.bind fun ps hps => .skip fun _ => .skip fun returns => ?_
  exact hblock.bind fun block hbody => .skip fun last => .pure ⟨_, _, rfl, hps, hbody⟩

private theorem classDef_yields {R : List Stmt → Prop} (ds : List Decorator)
    (hblock : Yields source tokens k.block fun block => R block.body) :
    Yields source tokens (classDef k ds) fun s => ∃ head body, s = .class head body ∧ R body := by
  refine .skip fun t => .skip fun _ => .skip fun name => .skip fun _ => .skip fun bases => ?_
  exact hblock.bind fun block hbody => .skip fun last => .pure ⟨_, _, rfl, hbody⟩

theorem definition_yields {Q : List Param → Prop} {R : List Stmt → Prop}
    (hparams : Yields source tokens (params k) Q)
    (hblock : Yields source tokens k.block fun block => R block.body) :
    Yields source tokens (definition k) fun s =>
      (∃ head body, s = .class head body ∧ R body) ∨
      ∃ head body, s = .function head body ∧ Q head.params ∧ R body := by
  refine .skip fun ds => .skip fun isClass => .ite (fun _ => ?_) fun _ => ?_
  · exact (classDef_yields ds hblock).mono fun s hs => .inl hs
  · exact (functionDef_yields ds hparams hblock).mono fun s hs => .inr hs

end

/-! ### Simple statements -/

/-- A reader of a statement that has no statements inside, starts on a line and ends with the last
solid token. -/
def Closes (first : Nat) (source : Source) (tape : Tape) (p : Parse Stmt) : Prop :=
  ∀ ⦃s : Stmt⦄ ⦃tape' : Tape⦄, p source tape = some (s, tape') →
    s.isLeaf = true ∧ ∀ extent ∈ s.extent?, extent.first = first ∧
      extent.last = tape'.last.stop.line ∧ extent.last ≤ extent.reach

namespace Closes

variable {α : Type} {first : Nat}

theorem skip {p : Parse α} {f : α → Parse Stmt}
    (hf : ∀ a middle, Closes first source middle (f a)) : Closes first source tape (p >>= f) := by
  intro s tape' h
  obtain ⟨a, middle, -, h⟩ := bind_some h
  exact hf a middle h

theorem simple (exprs : List Expr) : Closes first source tape (pure (.simple exprs)) := by
  intro s tape' h
  obtain ⟨rfl, rfl⟩ := pure_some h
  exact ⟨rfl, nofun⟩

theorem refuse : Closes first source tape Parse.refuse := by
  intro s tape' h
  cases h

theorem refuse_bind {f : α → Parse Stmt} : Closes first source tape (Parse.refuse >>= f) := by
  intro s tape' h
  obtain ⟨_, _, hrefuse, -⟩ := bind_some h
  cases hrefuse

theorem ite {c : Prop} [Decidable c] {p q : Parse Stmt} (hp : Closes first source tape p)
    (hq : Closes first source tape q) :
    Closes first source tape (if c then p else q) := by
  split
  · exact hp
  · exact hq

theorem extentFrom {g : Extent → Stmt}
    (hg : ∀ extent, (g extent).isLeaf = true ∧ (g extent).extent? = some extent) :
    Closes first source tape (extentFrom first >>= fun extent => pure (g extent)) := by
  intro s tape' h
  obtain ⟨extent, _, hextent, h⟩ := bind_some h
  obtain ⟨last, _, hlast, hextent⟩ := bind_some hextent
  obtain ⟨hsame, rfl⟩ := lastToken_some hlast
  obtain ⟨rfl, rfl⟩ := pure_some hextent
  obtain ⟨rfl, rfl⟩ := pure_some h
  refine ⟨(hg _).1, fun extent hextent => ?_⟩
  rw [(hg _).2] at hextent
  obtain rfl := Option.some.inj hextent
  exact ⟨rfl, by rw [hsame], Nat.le_refl _⟩

end Closes

private theorem closes_expressionStatement {t : Token} {rest : List Token}
    (hahead : tape.ahead = t :: rest) :
    Closes t.start.line source tape (expressionStatement k) := by
  intro s tape' h
  obtain ⟨t', _, hpeek, h⟩ := bind_some h
  obtain ⟨rfl, rest', hahead'⟩ := peekToken_some hpeek
  obtain ⟨rfl, -⟩ := List.cons.inj (hahead.symm.trans hahead')
  refine (?_ : Closes t.start.line source tape _) h
  refine .skip fun left _ => .skip fun assigns _ => .ite ?_ (.skip fun annotates _ => .ite ?_ ?_)
  · refine .skip fun more _ => ?_
    split
    · refine .skip fun strict _ => .ite .refuse_bind ?_
      exact .extentFrom fun extent => ⟨rfl, rfl⟩
    · exact .refuse
  · refine .skip fun strict _ => .ite .refuse_bind (.skip fun hint _ => .skip fun valued _ => ?_)
    refine .ite ?_ ?_
    · exact .skip fun _ _ => .extentFrom fun extent => ⟨rfl, rfl⟩
    · exact .skip fun _ _ => .extentFrom fun extent => ⟨rfl, rfl⟩
  · refine .skip fun augments _ => .ite (.skip fun strict _ => .ite .refuse_bind ?_) (.simple _)
    exact .skip fun _ _ => .skip fun _ _ => .simple _

private theorem assigned_shorter [SteadyKnot k] {t : Token} {rest : List Token} {values : List Expr}
    (hahead : tape.ahead = t :: rest) (ht : isOp "=" t.kind = true)
    (h : assigned k source tape = some (values, tape')) :
    tape'.ahead.length < tape.ahead.length := by
  obtain ⟨bound, h⟩ := many_bounded h
  obtain ⟨-, hnone⟩ | ⟨value, others, middle, -, hsome, hothers⟩ := manyBounded_some h
  · obtain ⟨more, _, haccept, hnone⟩ := bind_some hnone
    obtain ⟨t', rest', hahead', hkind, -⟩ := accept_some haccept
    obtain ⟨rfl, rfl⟩ := List.cons.inj (hahead.symm.trans hahead')
    obtain rfl : true = more := ht.symm.trans hkind
    obtain ⟨_, _, -, hnone⟩ := bind_some hnone
    cases (pure_some hnone).1
  · have hothers := (suffix_of_some hothers).length_le
    obtain ⟨more, _, haccept, hsome⟩ := bind_some hsome
    obtain ⟨t', rest', hahead', -, ⟨rfl, htakes⟩ | ⟨rfl, -⟩⟩ := accept_some haccept
    · have hvalue := (suffix_of_some hsome).length_le
      rw [htakes.ahead, List.length_append, List.length_singleton]
      omega
    · cases (pure_some hsome).1

set_option synthInstance.maxSize 4096 in
private theorem expressionStatement_shorter [SteadyKnot k] {s : Stmt} (hs : s.extent?.isSome = true)
    (h : expressionStatement k source tape = some (s, tape')) :
    tape'.ahead.length < tape.ahead.length := by
  obtain ⟨t, _, hpeek, h⟩ := bind_some h
  obtain ⟨rfl, -⟩ := peekToken_some hpeek
  obtain ⟨left, middle, hleft, h⟩ := bind_some h
  have hmiddle := (suffix_of_some hleft).length_le
  obtain ⟨assigns, _, hsees, h⟩ := bind_some h
  obtain ⟨rfl, t', rest, hahead, hkind⟩ := sees_some hsees
  split at h
  · obtain ⟨values, behind, hvalues, h⟩ := bind_some h
    have hshorter := assigned_shorter hahead (hkind.trans ‹_›) hvalues
    have hbehind : tape'.ahead <:+ behind.ahead := by
      refine @suffix_of_some _ _ ?_ _ _ _ _ h
      split <;> infer_instance
    have hlength := hbehind.length_le
    omega
  · obtain ⟨annotates, _, haccept, h⟩ := bind_some h
    obtain ⟨t'', rest', -, -, ⟨rfl, htakes⟩ | ⟨rfl, rfl⟩⟩ := accept_some haccept
    · rw [if_pos rfl] at h
      have hlength := (suffix_of_some h).length_le
      rw [htakes.ahead, List.length_append, List.length_singleton] at hmiddle
      omega
    · have hsimple : ∃ exprs, s = .simple exprs := by
        refine Yields.apply (Q := fun s => ∃ exprs, s = .simple exprs) ?_ h
        refine .skip fun augments => .ite (fun _ => ?_) fun _ => .pure ⟨_, rfl⟩
        refine .skip fun strict => .ite (fun _ => .refuse_bind) fun _ => ?_
        exact .skip fun _ => .skip fun _ => .pure ⟨_, rfl⟩
      obtain ⟨exprs, rfl⟩ := hsimple
      cases hs
private theorem atWord_peekSecond_some {α : Type} {w : String} {isKind : TokenKind → Bool}
    {p q : Parse α} {r : α × Tape}
    (h : (do if (← atWord w) && isKind (← peekSecond) then p else q) source tape = some r) :
    p source tape = some r ∨ q source tape = some r := by
  obtain ⟨next, _, hsees, h⟩ := bind_some h
  obtain ⟨rfl, -⟩ := sees_some hsees
  obtain ⟨second, _, hsecond, h⟩ := bind_some h
  obtain rfl := peekSecond_still hsecond
  split at h
  · exact .inl h
  · exact .inr h

private theorem looseStatement?_some [SteadyKnot k] {o : Option Stmt}
    (h : looseStatement? k source tape = some (o, tape')) :
    (o = none ∧ tape = tape') ∨ ∃ exprs, o = some (.simple exprs) := by
  obtain ⟨strict, _, hstrict, h⟩ := bind_some h
  obtain ⟨-, rfl⟩ : _ ∧ tape = _ := Prod.mk.inj (Option.some.inj hstrict)
  split at h
  · obtain ⟨rfl, rfl⟩ := pure_some h
    exact .inl ⟨rfl, rfl⟩
  rcases atWord_peekSecond_some h with h | h
  · refine .inr (Yields.apply (Q := fun o => ∃ exprs, o = some (.simple exprs)) ?_ h)
    exact .skip fun _ => .skip fun left => .skip fun _ => .skip fun right => .pure ⟨_, rfl⟩
  rcases atWord_peekSecond_some h with h | h
  · refine .inr (Yields.apply (Q := fun o => ∃ exprs, o = some (.simple exprs)) ?_ h)
    exact .skip fun _ => .skip fun operands => .pure ⟨_, rfl⟩
  rcases atWord_peekSecond_some h with h | h
  · refine .inr (Yields.apply (Q := fun o => ∃ exprs, o = some (.simple exprs)) ?_ h)
    exact .skip fun _ => .skip fun operands => .pure ⟨_, rfl⟩
  · obtain ⟨rfl, rfl⟩ := pure_some h
    exact .inl ⟨rfl, rfl⟩

private theorem simpleStatement_some [SteadyKnot k] {s : Stmt}
    (h : simpleStatement k source tape = some (s, tape')) :
    (∃ exprs, s = .simple exprs) ∨ expressionStatement k source tape = some (s, tape') := by
  obtain ⟨kind, _, hpeek, h⟩ := bind_some h
  obtain ⟨rfl, -⟩ := peek_some hpeek
  have hsimple {p : Parse Stmt}
      (hp : Yields source tape.ahead p fun s => ∃ exprs, s = .simple exprs)
      (h : p source tape = some (s, tape')) : (∃ exprs, s = .simple exprs) ∨
        expressionStatement k source tape = some (s, tape') := .inl (hp.apply h)
  revert h
  split
  case h_1 =>
    refine hsimple (.skip fun _ => .skip fun _ => .ite (fun _ => .pure ⟨_, rfl⟩) fun _ => ?_)
    exact .skip fun _ => .pure ⟨_, rfl⟩
  case h_4 =>
    refine hsimple (.skip fun _ => .skip fun _ => .ite (fun _ => .pure ⟨_, rfl⟩) fun _ => ?_)
    refine .skip fun strict => .ite (fun _ => ?_) fun _ => ?_
    all_goals
      refine .skip fun raised => .skip fun caused => .ite (fun _ => ?_) fun _ => .pure ⟨_, rfl⟩
      exact .skip fun _ => .pure ⟨_, rfl⟩
  case h_5 =>
    refine hsimple (.skip fun _ => .skip fun items => ?_)
    split
    refine .skip fun strict => .ite (fun _ => .refuse_bind) fun _ => .skip fun ended => ?_
    exact .ite (fun _ => .pure ⟨_, rfl⟩) fun _ => .refuse
  case h_6 =>
    refine hsimple (.skip fun _ => .skip fun test => .skip fun explained => .ite (fun _ => ?_) ?_)
    · exact .skip fun _ => .pure ⟨_, rfl⟩
    · exact fun _ => .pure ⟨_, rfl⟩
  case h_10 => exact hsimple (.skip fun _ => .skip fun _ => .pure ⟨_, rfl⟩)
  case h_11 => exact hsimple (.skip fun _ => .skip fun _ => .pure ⟨_, rfl⟩)
  case h_12 =>
    intro h
    obtain ⟨o, _, hloose, h⟩ := bind_some h
    obtain ⟨rfl, rfl⟩ | ⟨exprs, rfl⟩ := looseStatement?_some hloose
    · exact .inr h
    · exact .inl ⟨exprs, (pure_some h).1.symm⟩
  all_goals exact hsimple (.skip fun _ => .pure ⟨_, rfl⟩)

/-- A simple statement starts with the next token. -/
theorem simpleStatement_spans [SteadyKnot k] {s : Stmt}
    (h : simpleStatement k source tape = some (s, tape')) :
    s.isLeaf = true ∧ ∀ extent ∈ s.extent?, Spans extent tape tape' := by
  obtain ⟨exprs, rfl⟩ | h := simpleStatement_some h
  · exact ⟨rfl, nofun⟩
  · obtain ⟨t, _, hpeek, -⟩ := bind_some h
    obtain ⟨rfl, rest, hahead⟩ := peekToken_some hpeek
    obtain ⟨hleaf, hextents⟩ := closes_expressionStatement hahead h
    refine ⟨hleaf, fun extent hextent => ?_⟩
    obtain ⟨hfirst, hlast, hreach⟩ := hextents extent hextent
    have hsome : s.extent?.isSome = true := Option.isSome_iff_exists.mpr ⟨extent, hextent⟩
    exact ⟨⟨t, rest, hahead, hfirst⟩, hlast, hreach, expressionStatement_shorter hsome h⟩

/-! ### Definitions among statements -/

private theorem decorators_nil {t : Token} {rest : List Token} (hahead : tape.ahead = t :: rest)
    (ht : isOp "@" t.kind = false) : decorators k source tape = some ([], tape) := by
  have hnone : (do if ← atOp "@" then return some (← decorator k) else return none : Parse _)
      source tape = some (none, tape) := by
    rw [atOp, bind_of_some (sees_of_ahead hahead), ht]
    rfl
  rw [decorators, many]
  rw [bind_of_some (rfl : remaining source tape = some (tape.ahead.length, tape)), manyBounded]
  rw [bind_of_some hnone]
  rfl

private theorem eq_name_of_isWord {text : String} {kind : TokenKind} (h : isWord text kind = true) :
    kind = .name text := by
  cases kind with
  | name t => exact congrArg _ (eq_of_beq h)
  | _ => cases h

private theorem isOp_of_isWord {w : String} {kind : TokenKind} (h : isWord w kind = true)
    (text : String) : isOp text kind = false := by
  rw [eq_name_of_isWord h]
  rfl

private theorem definition_of_functionDef {r : Stmt × Tape}
    (h : functionDef k [] source tape = some r) : definition k source tape = some r := by
  have hwhole := h
  obtain ⟨t, _, hpeek, h⟩ := bind_some h
  obtain ⟨rfl, rest, hahead⟩ := peekToken_some hpeek
  obtain ⟨async, _, hasync, h⟩ := bind_some h
  obtain ⟨_, _, hdef, -⟩ := bind_some h
  have hkind : isWord "async" t.kind = true ∨ isWord "def" t.kind = true := by
    obtain ⟨t', rest', hahead', hword, hcases⟩ := accept_some hasync
    obtain ⟨rfl, rfl⟩ := List.cons.inj (hahead.symm.trans hahead')
    obtain ⟨rfl, -⟩ | ⟨rfl, rfl⟩ := hcases
    · exact .inl hword
    · obtain ⟨htakes, hword⟩ := expect_some hdef
      obtain ⟨rfl, -⟩ := List.cons.inj (hahead.symm.trans htakes.ahead)
      exact .inr hword
  have hop : isOp "@" t.kind = false :=
    hkind.elim (fun h => isOp_of_isWord h "@") fun h => isOp_of_isWord h "@"
  have hclass : isWord "class" t.kind = false := by
    rcases hkind with hkind | hkind
    · rw [eq_name_of_isWord hkind]
      decide
    · rw [eq_name_of_isWord hkind]
      decide
  rw [definition, bind_of_some (decorators_nil hahead hop), atWord,
    bind_of_some (sees_of_ahead hahead), hclass]
  exact hwhole

private theorem definition_of_classDef {r : Stmt × Tape} (h : classDef k [] source tape = some r) :
    definition k source tape = some r := by
  have hwhole := h
  obtain ⟨t, _, hpeek, h⟩ := bind_some h
  obtain ⟨rfl, rest, hahead⟩ := peekToken_some hpeek
  obtain ⟨_, _, hword, -⟩ := bind_some h
  obtain ⟨htakes, hkind⟩ := expect_some hword
  obtain ⟨rfl, -⟩ := List.cons.inj (hahead.symm.trans htakes.ahead)
  rw [definition, bind_of_some (decorators_nil hahead (isOp_of_isWord hkind "@")), atWord,
    bind_of_some (sees_of_ahead hahead), hkind]
  exact hwhole

private theorem definition_of_decorated {r : List Stmt × Tape}
    (h : (do
      let ds ← decorators k
      if ← atWord "class" then return [← classDef k ds] else return [← functionDef k ds])
      source tape = some r) : ∃ s, definition k source tape = some (s, r.2) ∧ r.1 = [s] := by
  obtain ⟨ds, _, hds, h⟩ := bind_some h
  obtain ⟨isClass, _, hclass, h⟩ := bind_some h
  rw [definition, bind_of_some hds, bind_of_some hclass]
  cases isClass with
  | true =>
      obtain ⟨s, _, hs, h⟩ := bind_some h
      obtain ⟨hgroup, rfl⟩ := pure_some h
      exact ⟨s, hs, hgroup.symm⟩
  | false =>
      obtain ⟨s, _, hs, h⟩ := bind_some h
      obtain ⟨hgroup, rfl⟩ := pure_some h
      exact ⟨s, hs, hgroup.symm⟩

private theorem compound_placed {tokens : List Token} {clauses : List Clause}
    (h : ∀ c ∈ clauses, Everywhere (Placed source tokens) c.body) :
    Everywhere (Placed source tokens) [.compound clauses] :=
  .compound nofun h

section

variable {n : Nat} {tokens : List Token}
  (hblock : Yields source tokens (knot n).block fun block =>
    Everywhere (Placed source tokens) block.body)

include hblock

private theorem definition_placed : Yields source tokens (definition (knot n)) fun s =>
    Everywhere (Placed source tokens) [s] := by
  intro tape s tape' hahead h
  obtain ⟨run, hrun⟩ := readAs_of_some hahead h
  have hparams : Yields source tokens (params (knot n)) fun _ => True := fun _ _ _ _ _ => trivial
  obtain ⟨head, body, rfl, hbody⟩ | ⟨head, body, rfl, -, hbody⟩ :=
    definition_yields hparams hblock hahead h
  · exact .class (fun _ => ⟨n, run, hrun⟩) hbody
  · exact .function (fun _ => ⟨n, run, hrun⟩) hbody

/-! ### Compound statements -/

private theorem clause_placed (head : List Expr) :
    Yields source tokens (clause (knot n) head) fun c => Everywhere (Placed source tokens) c.body :=
  hblock.bind fun _ hbody => .pure hbody

private theorem wordClause_placed (w : String) :
    Yields source tokens (wordClause (knot n) w) fun clauses =>
    ∀ c ∈ clauses, Everywhere (Placed source tokens) c.body := by
  refine .skip fun otherwise => .ite (fun _ => ?_) fun _ => .pure (List.forall_mem_nil _)
  exact (clause_placed hblock []).bind fun c hc => .pure (List.forall_mem_singleton.mpr hc)

private theorem ifStatement_placed : Yields source tokens (ifStatement (knot n)) fun s =>
    Everywhere (Placed source tokens) [s] := by
  refine .skip fun _ => .skip fun test => (clause_placed hblock _).bind fun first hfirst => ?_
  refine Yields.bind (Yields.many (Q := fun c => Everywhere (Placed source tokens) c.body) ?_)
    fun others hothers => ?_
  · refine .skip fun more => .ite (fun _ => .skip fun test => ?_) fun _ => .pure nofun
    refine (clause_placed hblock _).bind fun c hc => .pure fun c' hc' => ?_
    exact Option.some.inj hc' ▸ hc
  · refine (wordClause_placed hblock _).bind fun last hlast => .pure (compound_placed ?_)
    exact List.forall_mem_cons.mpr ⟨hfirst, List.forall_mem_append.mpr ⟨hothers, hlast⟩⟩

private theorem whileStatement_placed : Yields source tokens (whileStatement (knot n)) fun s =>
    Everywhere (Placed source tokens) [s] := by
  refine .skip fun _ => .skip fun test => (clause_placed hblock _).bind fun first hfirst => ?_
  refine (wordClause_placed hblock _).bind fun last hlast => .pure (compound_placed ?_)
  exact List.forall_mem_cons.mpr ⟨hfirst, hlast⟩

private theorem forStatement_placed : Yields source tokens (forStatement (knot n)) fun s =>
    Everywhere (Placed source tokens) [s] := by
  refine .skip fun _ => .skip fun target => .skip fun _ => .skip fun items => ?_
  refine (clause_placed hblock _).bind fun first hfirst => ?_
  refine (wordClause_placed hblock _).bind fun last hlast => .pure (compound_placed ?_)
  exact List.forall_mem_cons.mpr ⟨hfirst, hlast⟩

private theorem withStatement_placed : Yields source tokens (withStatement (knot n)) fun s =>
    Everywhere (Placed source tokens) [s] := by
  refine .skip fun _ => .skip fun head => (clause_placed hblock _).bind fun first hfirst => ?_
  exact .pure (compound_placed (List.forall_mem_singleton.mpr hfirst))

private theorem tryStatement_placed : Yields source tokens (tryStatement (knot n)) fun s =>
    Everywhere (Placed source tokens) [s] := by
  refine .skip fun _ => (clause_placed hblock _).bind fun first hfirst => ?_
  refine Yields.bind (Yields.many (Q := fun h => Everywhere (Placed source tokens) h.1.body) ?_)
    fun handlers hhandlers => .skip fun strict => .ite (fun _ => .refuse_bind) fun _ => ?_
  · refine .skip fun more => .ite (fun _ => .skip fun head => ?_) fun _ => .pure nofun
    refine (clause_placed hblock _).bind fun c hc => .pure fun c' hc' => ?_
    exact Option.some.inj hc' ▸ hc
  have hfinal {otherwise : List Clause}
      (hotherwise : ∀ c ∈ otherwise, Everywhere (Placed source tokens) c.body) :
      Yields source tokens (do
        let final ← wordClause (knot n) "finally"
        if handlers.isEmpty && final.isEmpty then refuse
        return .compound (first :: handlers.map (·.1) ++ otherwise ++ final)) fun s =>
          Everywhere (Placed source tokens) [s] := by
    refine (wordClause_placed hblock _).bind fun final hfinal => ?_
    refine .ite (fun _ => .refuse_bind) fun _ => .pure (compound_placed ?_)
    have hmap : ∀ c ∈ handlers.map (·.1), Everywhere (Placed source tokens) c.body :=
      List.forall_mem_map.mpr hhandlers
    intro c hc
    rcases List.mem_append.mp hc with hc | hc
    · rcases List.mem_append.mp hc with hc | hc
      · rcases List.mem_cons.mp hc with rfl | hc
        · exact hfirst
        · exact hmap c hc
      · exact hotherwise c hc
    · exact hfinal c hc
  refine .ite (fun _ => ?_) fun _ => ?_
  · refine Yields.bind (Q := (· = [])) (.pure rfl) fun otherwise hotherwise => hfinal ?_
    rw [hotherwise]
    exact List.forall_mem_nil _
  · exact (wordClause_placed hblock _).bind fun otherwise hotherwise => hfinal hotherwise

private theorem caseClause_placed : Yields source tokens (caseClause (knot n)) fun c =>
    Everywhere (Placed source tokens) c.body := by
  refine .skip fun _ => .skip fun values => .skip fun guarded => .ite (fun _ => ?_) fun _ => ?_
  · exact .skip fun _ => clause_placed hblock _
  · exact .skip fun _ => clause_placed hblock _

private theorem matchCases_placed (e : Expr) : Yields source tokens (matchCases (knot n) e) fun s =>
    Everywhere (Placed source tokens) [s] := by
  refine Yields.bind (Yields.many (Q := fun c => Everywhere (Placed source tokens) c.body) ?_)
    fun cases hcases => .skip fun t => ?_
  · refine .skip fun more => .ite (fun _ => ?_) fun _ => .pure nofun
    refine (caseClause_placed hblock).bind fun c hc => .pure fun c' hc' => ?_
    exact Option.some.inj hc' ▸ hc
  dsimp only
  split
  · refine .skip fun _ => .ite (fun _ => .refuse_bind) fun _ => .pure (compound_placed ?_)
    refine List.forall_mem_cons.mpr ⟨?_, hcases⟩
    exact fun s hs => absurd hs (not_within_nil s)
  · exact .refuse_bind

/-! ### Blocks -/

omit hblock in
private theorem simpleStatement_placed : Yields source tokens (simpleStatement (knot n)) fun s =>
    Everywhere (Placed source tokens) [s] := by
  intro tape s tape' hahead h
  obtain ⟨run, hrun⟩ := readAs_of_some hahead h
  have hleaf := (simpleStatement_spans h).1
  refine .leaf hleaf fun hextent => ⟨n, run, ?_⟩
  cases s with
  | simple exprs => cases hextent
  | assign extent targets value => exact hrun
  | annotate extent target hint value => exact hrun
  | compound clauses => cases hleaf
  | function head body => cases hleaf
  | «class» head body => cases hleaf

omit hblock in
private theorem simpleStatements_placed :
    Yields source tokens (simpleStatements (knot n)) fun body =>
    Everywhere (Placed source tokens) body := by
  refine simpleStatement_placed.bind fun first hfirst => ?_
  refine Yields.bind (Yields.many (Q := fun s => Everywhere (Placed source tokens) [s]) ?_)
    fun others hothers => .skip fun _ => .pure ?_
  · refine .skip fun divided => .ite (fun _ => .skip fun ended => ?_) fun _ => .pure nofun
    refine .ite (fun _ => .pure nofun) fun _ => simpleStatement_placed.bind fun s hs => .pure ?_
    exact fun s' hs' => Option.some.inj hs' ▸ hs
  · refine Everywhere.iff_forall.mpr fun s hs => ?_
    rcases List.mem_cons.mp hs with rfl | hs
    · exact hfirst
    · exact hothers s hs

private theorem statement_placed : Yields source tokens (statement (knot n)) fun body =>
    Everywhere (Placed source tokens) body := by
  have hfunction : Yields source tokens (functionDef (knot n) []) fun s =>
      Everywhere (Placed source tokens) [s] :=
    fun tape s tape' hahead h => definition_placed hblock hahead (definition_of_functionDef h)
  have hclass : Yields source tokens (classDef (knot n) []) fun s =>
      Everywhere (Placed source tokens) [s] :=
    fun tape s tape' hahead h => definition_placed hblock hahead (definition_of_classDef h)
  refine .skip fun t => ?_
  split
  case h_1 => exact hfunction.bind fun s hs => .pure hs
  case h_2 => exact hclass.bind fun s hs => .pure hs
  case h_3 =>
    intro tape body tape' hahead h
    obtain ⟨s, hs, rfl⟩ := definition_of_decorated h
    exact definition_placed hblock hahead hs
  case h_4 =>
    refine .skip fun t => ?_
    split
    · exact hfunction.bind fun s hs => .pure hs
    · exact .skip fun _ => (withStatement_placed hblock).bind fun s hs => .pure hs
    · exact .skip fun _ => (forStatement_placed hblock).bind fun s hs => .pure hs
    · exact .refuse
  case h_5 => exact (ifStatement_placed hblock).bind fun s hs => .pure hs
  case h_6 => exact (withStatement_placed hblock).bind fun s hs => .pure hs
  case h_7 => exact (forStatement_placed hblock).bind fun s hs => .pure hs
  case h_8 => exact (tryStatement_placed hblock).bind fun s hs => .pure hs
  case h_9 => exact (whileStatement_placed hblock).bind fun s hs => .pure hs
  case h_10 =>
    refine .skip fun e => ?_
    split
    · exact (matchCases_placed hblock _).bind fun s hs => .pure hs
    · exact simpleStatements_placed
  case h_11 => exact simpleStatements_placed

private theorem statements_placed : Yields source tokens (statements (knot n)) fun body =>
    Everywhere (Placed source tokens) body := by
  refine Yields.bind (Yields.many (Q := fun body => Everywhere (Placed source tokens) body) ?_)
    fun groups hgroups => .pure (.flatten hgroups)
  refine .skip fun t => .ite (fun _ => .pure nofun) fun _ => ?_
  refine (statement_placed hblock).bind fun body hbody => .pure fun body' hbody' => ?_
  exact Option.some.inj hbody' ▸ hbody

private theorem blockRule_placed : Yields source tokens (blockRule (knot n)) fun block =>
    Everywhere (Placed source tokens) block.body := by
  refine .skip fun _ => .skip fun t => ?_
  split
  · refine .skip fun _ => .skip fun t => ?_
    split
    · refine .skip fun _ => (statements_placed hblock).bind fun body hbody => .skip fun t => ?_
      dsimp only
      split
      · exact .skip fun _ => .skip fun last => .pure hbody
      · exact .refuse_bind
    · refine .skip fun strict => .ite (fun _ => .refuse) fun _ => .skip fun last => .pure ?_
      exact fun s hs => absurd hs (not_within_nil s)
  · exact simpleStatements_placed.bind fun body hbody => .skip fun last => .pure hbody

end

/-- The statements of every block are placed, at whatever depth the knot is tied. -/
theorem block_placed (source : Source) (tokens : List Token) (n : Nat) :
    Yields source tokens (knot n).block fun block =>
      Everywhere (Placed source tokens) block.body := by
  induction n with
  | zero => exact .refuse
  | succ n ih => exact blockRule_placed ih

private theorem moduleBody_placed (source : Source) (tokens : List Token) (n : Nat) :
    Yields source tokens (moduleBody (knot n)) fun body =>
      Everywhere (Placed source tokens) body := by
  refine (statements_placed (block_placed source tokens n)).bind fun body hbody => .skip fun t => ?_
  split
  · exact .pure hbody
  · exact .refuse

end Parse

/-- Every statement of a module is what the grammar reads from a run of its tokens. -/
theorem parseModule_placed {d : Dialect} {source : String} {body : List Stmt}
    (h : parseModule d source = some body) : ∃ tokens, scan d (sourceChars d source) = some tokens ∧
      Everywhere (Placed ⟨d, sourceChars d source⟩ tokens) body := by
  obtain ⟨tokens, htokens, h⟩ := Option.bind_eq_some_iff.mp h
  obtain ⟨⟨body', tape⟩, hbody, h⟩ := Option.bind_eq_some_iff.mp h
  obtain rfl := Option.some.inj h
  refine ⟨tokens, htokens, ?_⟩
  exact Parse.moduleBody_placed _ tokens _ (List.suffix_refl _) hbody

end PullReview.Python
