import PullReview.Extract
import PullReview.Proofs.Python.Statements
import PullReview.Proofs.Text.Cut

/-!
# The lines of definitions

The lines of a definition are counted in the source as its dialect cuts it. They hold all tokens
that the grammar reads the definition from, with one exception: in the strict dialect they start
behind the mark and the brackets with which the first decorator opens.
-/

namespace PullReview.Python

/-! ### Lines of a source -/

/-- A line ends at a line feed, alone or behind a carriage return, and in the strict dialect also at
a carriage return alone. -/
def endsLine (d : Dialect) (c : Char) : Bool := c == '\n' || (d == .strict && c == '\r')

def sourceLines (d : Dialect) (content : String) : List String := Text.cut (endsLine d) content

private theorem endsLine_tolerant : endsLine .tolerant = Text.isFeed := by
  funext c
  simp [endsLine, Text.isFeed]

theorem isLineBoundary_of_endsLine {d : Dialect} {c : Char} (h : endsLine d c = true) :
    Text.isLineBoundary c = true := by
  simp only [endsLine, Bool.or_eq_true, Bool.and_eq_true, beq_iff_eq] at h
  obtain rfl | ⟨-, rfl⟩ := h
  · decide
  · decide

private theorem cutFrom_unifyLineEnds (line cs : List Char) :
    Text.cutFrom (endsLine .strict) line cs = Text.cutFrom Text.isFeed line (unifyLineEnds cs) := by
  fun_induction unifyLineEnds cs generalizing line with
  | case1 => rfl
  | case2 rest ih => rw [Text.cutFrom, Text.cutFrom_cons (by decide), if_pos (by decide), ih]
  | case3 rest hpair ih =>
      rw [Text.cutFrom, if_pos (by decide), Text.cutFrom_cons (by decide), if_pos (by decide), ih]
      exact fun rest' _ hrest => hpair rest' hrest
  | case4 c rest hpair hreturn ih =>
      have hne : c ≠ '\r' := hreturn
      have hends : endsLine .strict c = Text.isFeed c := by simp [endsLine, Text.isFeed, hne]
      rw [Text.cutFrom_cons hreturn, Text.cutFrom_cons hreturn, hends, ih, ih]

private theorem return_notMem_unifyLineEnds (cs : List Char) : '\r' ∉ unifyLineEnds cs := by
  fun_induction unifyLineEnds cs with
  | case1 => simp
  | case2 rest ih => simpa using ih
  | case3 rest hpair ih => simpa using ih
  | case4 c rest hpair hreturn ih =>
      rw [List.mem_cons, not_or]
      exact ⟨fun hc => hreturn hc.symm, ih⟩

private theorem cutFrom_append_feed {line cs : List Char} (hreturn : '\r' ∉ cs)
    (hlast : cs.getLast? ≠ some '\n') (hne : line ≠ [] ∨ cs ≠ []) :
    Text.cutFrom Text.isFeed line (cs ++ ['\n']) = Text.cutFrom Text.isFeed line cs := by
  induction cs generalizing line with
  | nil =>
      have hline : line ≠ [] := hne.resolve_right fun h => h rfl
      simp [Text.cutFrom, Text.isFeed, hline]
  | cons c cs ih =>
      rw [List.mem_cons, not_or] at hreturn
      rw [List.cons_append, Text.cutFrom_cons (Ne.symm hreturn.1),
        Text.cutFrom_cons (Ne.symm hreturn.1)]
      have hrest : cs.getLast? ≠ some '\n' := by
        cases cs with
        | nil => simp
        | cons c' cs => simpa using hlast
      split
      · have hcs : cs ≠ [] := by
          rintro rfl
          simp_all [Text.isFeed]
        rw [ih hreturn.2 hrest (.inr hcs)]
      · exact ih hreturn.2 hrest (.inl (List.cons_ne_nil c line))

private theorem sourceLines_eq (d : Dialect) (content : String) : sourceLines d content =
    (Text.cutFrom Text.isFeed [] (sourceChars d content)).map String.ofList := by
  cases d with
  | tolerant => rw [sourceLines, Text.cut, endsLine_tolerant, sourceChars]
  | strict =>
      rw [sourceLines, Text.cut, cutFrom_unifyLineEnds]
      unfold sourceChars
      dsimp only
      split
      · rfl
      · rename_i hend
        simp only [Bool.or_eq_true, beq_iff_eq, List.isEmpty_iff, not_or] at hend
        rw [cutFrom_append_feed (return_notMem_unifyLineEnds _) hend.1 (.inr hend.2)]

private theorem return_notMem_sourceChars {d : Dialect} {content : String}
    (h : d = .tolerant → '\r' ∉ content.toList) : '\r' ∉ sourceChars d content := by
  cases d with
  | tolerant => exact h rfl
  | strict =>
      have hunified := return_notMem_unifyLineEnds content.toList
      unfold sourceChars
      dsimp only
      split
      · exact hunified
      · simp [hunified]

/-! ### Runs of tokens -/

private theorem lastSolid_append_singleton (last : Token) (run : List Token) (t : Token) :
    lastSolid last (run ++ [t]) = if t.kind.isSolid then t else lastSolid last run := by
  rw [lastSolid, List.foldl_append]
  rfl

section

variable {d : Dialect} {chars : List Char} {run : List Token}
  (hstands : ∀ t ∈ run, t.Stands d chars)
  (horder : run.Pairwise fun t later => t.stop.offset ≤ later.start.offset)

include hstands horder

private theorem stop_le_lastSolid (last : Token) {t : Token} (ht : t ∈ run)
    (hsolid : t.kind.isSolid = true) :
    lastSolid last run ∈ run ∧ t.stop.offset ≤ (lastSolid last run).stop.offset := by
  induction run using List.reverseRecOn with
  | nil => cases ht
  | append_singleton run t' ih =>
      rw [lastSolid_append_singleton]
      rw [List.forall_mem_append, List.forall_mem_singleton] at hstands
      rw [List.pairwise_append] at horder
      obtain ht | ht := List.mem_append.mp ht
      · split
        · have hbefore := horder.2.2 t ht t' List.mem_cons_self
          exact ⟨by simp, Nat.le_trans hbefore hstands.2.start_le_stop⟩
        · have hinner := ih hstands.1 horder.1 ht
          exact ⟨List.mem_append_left _ hinner.1, hinner.2⟩
      · obtain rfl := List.mem_singleton.mp ht
        rw [if_pos hsolid]
        exact ⟨by simp, Nat.le_refl _⟩

private theorem head_start_le {t : Token} {more : List Token} (hrun : run = t :: more) {t' : Token}
    (ht' : t' ∈ run) : t.start.offset ≤ t'.start.offset := by
  subst hrun
  obtain rfl | ht' := List.mem_cons.mp ht'
  · exact Nat.le_refl _
  · have hbefore := (List.pairwise_cons.mp horder).1 t' ht'
    exact Nat.le_trans (hstands t List.mem_cons_self).start_le_stop hbefore

end

private theorem Token.Stands.start_line_le {d : Dialect} {chars : List Char} {t t' : Token}
    (h : t.Stands d chars) (h' : t'.Stands d chars) (hle : t.start.offset ≤ t'.start.offset) :
    t.start.line ≤ t'.start.line := by
  rw [h.start_eq, h'.start_eq]
  exact markAt_line_mono chars hle

private theorem Token.Stands.stop_line_le {d : Dialect} {chars : List Char} {t t' : Token}
    (h : t.Stands d chars) (h' : t'.Stands d chars) (hle : t.stop.offset ≤ t'.stop.offset) :
    t.stop.line ≤ t'.stop.line := by
  rw [h.stop_eq, h'.stop_eq]
  exact markAt_line_mono chars hle

/-! ### Where definitions start -/

def Stmt.decorators : Stmt → List Decorator
  | .function head _ => head.decorators
  | .class head _ => head.decorators
  | _ => []

/-- Tokens that a definition is read from, and where its decorators and its own lines start among
them. -/
inductive Starts (s : Stmt) (extent : Extent) : List Token → Token → List Token → Prop
  | plain {t : Token} {more : List Token} (hnone : s.decorators = [])
      (hfirst : extent.first = t.start.line) : Starts s extent [] t more
  | decorated {d : Decorator} {others : List Decorator} {opening : List Token} {t : Token}
      {more : List Token} (hsome : s.decorators = d :: others)
      (hstarts : Parse.StartsAt d opening t)
      (hothers : ∀ d' ∈ others, ∃ t' ∈ t :: more, d'.exprLine = t'.start.line)
      (hfirst : ∃ t' ∈ t :: more, extent.first = t'.start.line) : Starts s extent opening t more

namespace Parse

variable {k : Knot} {source : Source} {tape tape' : Tape}

private theorem definition_some [SteadyKnot k] {s : Stmt}
    (h : definition k source tape = some (s, tape')) : ∃ extent middle, s.extent? = some extent ∧
      decorators k source tape = some (s.decorators, middle) ∧ Spans extent middle tape' := by
  obtain ⟨ds, middle, hds, h⟩ := bind_some h
  obtain ⟨isClass, _, hclass, h⟩ := bind_some h
  obtain ⟨rfl, -⟩ := sees_some hclass
  split at h
  · obtain ⟨head, body, rfl, rfl, hspans⟩ := classDef_spans h
    exact ⟨head.extent, middle, rfl, hds, hspans⟩
  · obtain ⟨head, body, rfl, rfl, hspans⟩ := functionDef_spans h
    exact ⟨head.extent, middle, rfl, hds, hspans⟩

private theorem definition_starts [SteadyKnot k] (hk : OpensKnot k) {s : Stmt}
    (h : definition k source tape = some (s, tape')) :
    ∃ extent opening t more, s.extent? = some extent ∧ tape.ahead = opening ++ t :: more ∧
      tape'.ahead.length < (t :: more).length ∧ Starts s extent opening t more ∧
      extent.last = tape'.last.stop.line ∧ extent.last ≤ extent.reach := by
  obtain ⟨extent, middle, hextent, hds, hspans⟩ := definition_some h
  obtain ⟨t₀, rest, hahead, hfirst⟩ := hspans.first
  have hshorter := hspans.shorter
  obtain ⟨hnone, rfl⟩ | ⟨d, others, opening, t, more, hsome, hopening, hstarts, hbehind, hothers⟩ :=
    decorators_some hk hds
  · refine ⟨extent, [], t₀, rest, hextent, hahead, ?_, .plain hnone hfirst, hspans.last,
      hspans.last_le_reach⟩
    rwa [hahead] at hshorter
  · have ht₀ : t₀ ∈ t :: more := hbehind.subset (hahead ▸ List.mem_cons_self)
    refine ⟨extent, opening, t, more, hextent, hopening, ?_,
      .decorated hsome hstarts hothers ⟨t₀, ht₀, hfirst⟩, hspans.last, hspans.last_le_reach⟩
    exact Nat.lt_of_lt_of_le hshorter hbehind.length_le

/-- A run that goes beyond an opening has the next token. -/
theorem run_eq {run after more : List Token} (opening : List Token) {t : Token}
    (h : run ++ after = opening ++ t :: more) (hshorter : after.length < (t :: more).length) :
    ∃ kept, run = opening ++ t :: kept ∧ more = kept ++ after := by
  obtain ⟨extra, -, hafter⟩ | ⟨kept, hrun, hkept⟩ := List.append_eq_append_iff.mp h
  · rw [hafter, List.length_append] at hshorter
    omega
  · cases kept with
    | nil =>
        rw [List.nil_append] at hkept
        rw [hkept] at hshorter
        exact absurd hshorter (Nat.lt_irrefl _)
    | cons t' kept =>
        obtain ⟨rfl, hmore⟩ := List.cons.inj hkept
        exact ⟨kept, hrun, hmore⟩

/-- A statement starts in a run of tokens, and its lines end with the last solid one. -/
def RunsTo (s : Stmt) (run after : List Token) (last : Token) : Prop :=
  ∃ extent opening t kept, s.extent? = some extent ∧ run = opening ++ t :: kept ∧
    Starts s extent opening t (kept ++ after) ∧ extent.last = last.stop.line ∧
    extent.last ≤ extent.reach

section

variable {s : Stmt} {run after : List Token} {last last' : Token}

private theorem definition_runsTo [SteadyKnot k] (hk : OpensKnot k)
    (h : definition k source ⟨run ++ after, last⟩ = some (s, ⟨after, last'⟩)) :
    RunsTo s run after last' := by
  obtain ⟨extent, opening, t, more, hextent, hahead, hshorter, hstarts, hlast, hreach⟩ :=
    definition_starts hk h
  obtain ⟨kept, hrun, rfl⟩ := run_eq opening hahead hshorter
  exact ⟨extent, opening, t, kept, hextent, hrun, hstarts, hlast, hreach⟩

private theorem simpleStatement_runsTo [SteadyKnot k] (hs : s.extent?.isSome = true)
    (h : simpleStatement k source ⟨run ++ after, last⟩ = some (s, ⟨after, last'⟩)) :
    RunsTo s run after last' := by
  obtain ⟨extent, hextent⟩ := Option.isSome_iff_exists.mp hs
  obtain ⟨hleaf, hspans⟩ := simpleStatement_spans h
  have hspan := hspans extent hextent
  have hnone : s.decorators = [] := by
    cases s with
    | function head body => cases hleaf
    | «class» head body => cases hleaf
    | _ => rfl
  obtain ⟨t, rest, hahead, hfirst⟩ := hspan.first
  have hshorter := hspan.shorter
  rw [hahead] at hshorter
  obtain ⟨kept, hrun, rfl⟩ := run_eq [] hahead hshorter
  exact ⟨extent, [], t, kept, hextent, hrun, .plain hnone hfirst, hspan.last, hspan.last_le_reach⟩

private theorem rule_runsTo {n : Nat} (hs : s.extent?.isSome = true)
    (h : s.rule (knot n) source ⟨run ++ after, last⟩ = some (s, ⟨after, last'⟩)) :
    RunsTo s run after last' := by
  cases s with
  | simple exprs => cases hs
  | compound clauses => cases hs
  | assign extent targets value => exact simpleStatement_runsTo hs h
  | annotate extent target hint value => exact simpleStatement_runsTo hs h
  | function head body => exact definition_runsTo (opensKnot_knot n) h
  | «class» head body => exact definition_runsTo (opensKnot_knot n) h

end

end Parse

end PullReview.Python

namespace PullReview.Extract

open Python

/-! ### The lines of a symbol -/

def firstLine (d : Dialect) (extent : Extent) (decorators : List Decorator) : Nat :=
  match d with
  | .strict => strictStart extent decorators
  | .tolerant => tolerantStart extent decorators

def lastLine (d : Dialect) (extent : Extent) : Nat :=
  match d with
  | .strict => extent.last
  | .tolerant => extent.reach

/-- The first and the last line of the symbol that a statement has, if it has one. -/
def stmtLines? (d : Dialect) : Stmt → Option (Nat × Nat)
  | .function head _ => some (firstLine d head.extent head.decorators, lastLine d head.extent)
  | .class head _ => some (firstLine d head.extent head.decorators, lastLine d head.extent)
  | .assign extent _ _ | .annotate extent _ _ _ => some (extent.first, extent.last)
  | .simple _ | .compound _ => none

private theorem strictStart_eq {extent : Extent} {d : Decorator} {others : List Decorator}
    (hfirst : d.exprLine ≤ extent.first) (hothers : ∀ d' ∈ others, d.exprLine ≤ d'.exprLine) :
    strictStart extent (d :: others) = d.exprLine := by
  have hfold : others.foldl (fun n d => min n d.exprLine) d.exprLine = d.exprLine := by
    induction others with
    | nil => rfl
    | cons d' others ih =>
        rw [List.forall_mem_cons] at hothers
        rw [List.foldl_cons, Nat.min_eq_left hothers.1]
        exact ih hothers.2
  rw [strictStart, List.foldl_cons, Nat.min_eq_right hfirst]
  exact hfold

section

variable {chars : List Char} {s : Stmt} {extent : Extent} {opening more : List Token} {t : Token}

private theorem firstLine_strict {d : Dialect} (hstands : ∀ t' ∈ t :: more, t'.Stands d chars)
    (horder : (t :: more).Pairwise fun t later => t.stop.offset ≤ later.start.offset)
    (h : Starts s extent opening t more) :
    firstLine .strict extent s.decorators = t.start.line := by
  have hline {t' : Token} (ht' : t' ∈ t :: more) : t.start.line ≤ t'.start.line :=
    (hstands t List.mem_cons_self).start_line_le (hstands t' ht')
      (head_start_le hstands horder rfl ht')
  cases h with
  | plain hnone hfirst =>
      rw [hnone]
      exact hfirst
  | @decorated d others _ _ _ hsome hstarts hothers hfirst =>
      obtain ⟨t₀, ht₀, hfirst⟩ := hfirst
      rw [hsome, ← hstarts.exprLine]
      apply strictStart_eq
      · rw [hstarts.exprLine, hfirst]
        exact hline ht₀
      · intro d' hd'
        obtain ⟨t', ht', hexpr⟩ := hothers d' hd'
        rw [hstarts.exprLine, hexpr]
        exact hline ht'

private theorem firstLine_tolerant (h : Starts s extent opening t more) (kept : List Token) :
    ∃ t' kept', opening ++ t :: kept = t' :: kept' ∧
      firstLine .tolerant extent s.decorators = t'.start.line := by
  cases h with
  | plain hnone hfirst =>
      refine ⟨t, kept, rfl, ?_⟩
      rw [hnone]
      exact hfirst
  | decorated hsome hstarts hothers hfirst =>
      obtain ⟨mark, brackets, rfl, -, -⟩ := hstarts.isOpening
      refine ⟨mark, brackets ++ t :: kept, rfl, ?_⟩
      rw [hsome]
      exact hstarts.markLine mark rfl

private theorem opening_of_starts (h : Starts s extent opening t more) :
    opening = [] ∨ Parse.IsOpening opening := by
  cases h with
  | plain hnone hfirst => exact .inl rfl
  | decorated hsome hstarts hothers hfirst => exact .inr hstarts.isOpening

end

/-! ### What the lines hold -/

/-- The characters of a source between two offsets. -/
def sourceText (d : Dialect) (content : String) (start stop : Nat) : List Char :=
  ((sourceChars d content).drop start).take (stop - start)

/-- A statement is read from an opening, a token and more. All but the opening lies on some lines of
the source; and there is an opening in the strict dialect only. The characters are in the text of
the lines, too, unless the tolerant dialect keeps carriage returns that the lines leave out. -/
structure Covers (d : Dialect) (content : String) (s : Stmt) (first last : Nat)
    (opening : List Token) (t : Token) (more : List Token) : Prop where
  read : ∃ tokens n, scan d (sourceChars d content) = some tokens ∧
    Parse.ReadAs ⟨d, sourceChars d content⟩ tokens (s.rule (Parse.knot n)) (opening ++ t :: more) s
  opening_eq : opening = [] ∨ d = .strict ∧ Parse.IsOpening opening
  first_eq : first = t.start.line
  lines : ∀ t' ∈ t :: more, first ≤ t'.start.line ∧ (t'.kind.isSolid = true → t'.stop.line ≤ last)
  text : (d = .tolerant → '\r' ∉ content.toList) → ∀ t' ∈ t :: more, t'.kind.isSolid = true →
    sourceText d content t.start.offset t'.stop.offset <:+:
      (PullReview.Text.excerpt (sourceLines d content) first last).toList ++ ['\n']

private theorem toList_excerpt_sourceLines (d : Dialect) (content : String) (first last : Nat) :
    (PullReview.Text.excerpt (sourceLines d content) first last).toList =
      ['\n'].intercalate (((PullReview.Text.cutFrom PullReview.Text.isFeed []
        (sourceChars d content)).drop (first - 1)).take (last - (first - 1))) := by
  rw [PullReview.Text.excerpt, String.toList_intercalate, sourceLines_eq, ← List.map_drop,
    ← List.map_take, List.map_map]
  have hid : String.toList ∘ String.ofList = id := funext fun _ => String.toList_ofList
  rw [hid, List.map_id]
  rfl

private theorem sourceText_infix {d : Dialect} {content : String} {t t' : Token} {last : Nat}
    (hreturn : '\r' ∉ sourceChars d content) (ht : t.Stands d (sourceChars d content))
    (ht' : t'.Stands d (sourceChars d content)) (hle : t.start.offset ≤ t'.stop.offset)
    (hlast : t'.stop.line ≤ last) :
    sourceText d content t.start.offset t'.stop.offset <:+:
      (PullReview.Text.excerpt (sourceLines d content) t.start.line last).toList ++ ['\n'] := by
  have hstart : t.start.line = 1 + ((sourceChars d content).take t.start.offset).count '\n' :=
    congrArg Mark.line ht.start_eq
  have hstop : t'.stop.line = 1 + ((sourceChars d content).take t'.stop.offset).count '\n' :=
    congrArg Mark.line ht'.stop_eq
  rw [toList_excerpt_sourceLines]
  apply PullReview.Text.infix_lines hreturn hle
  · omega
  · omega

private theorem stmtLines?_eq {d : Dialect} {s : Stmt} {first last : Nat} {extent : Extent}
    (h : stmtLines? d s = some (first, last)) (hextent : s.extent? = some extent) :
    first = firstLine d extent s.decorators ∧
      (extent.last ≤ extent.reach → extent.last ≤ last) := by
  cases s with
  | simple exprs => cases h
  | compound clauses => cases h
  | assign extent targets value =>
      cases h
      cases hextent
      exact ⟨by cases d <;> rfl, fun _ => Nat.le_refl _⟩
  | annotate extent target hint value =>
      cases h
      cases hextent
      exact ⟨by cases d <;> rfl, fun _ => Nat.le_refl _⟩
  | function head body =>
      cases h
      cases hextent
      exact ⟨rfl, fun hreach => by cases d <;> simp [lastLine, hreach]⟩
  | «class» head body =>
      cases h
      cases hextent
      exact ⟨rfl, fun hreach => by cases d <;> simp [lastLine, hreach]⟩

section

variable {d : Dialect} {content : String} {tokens : List Token}
  (htokens : scan d (sourceChars d content) = some tokens)

include htokens

private theorem stands_of_infix {run : List Token} (hrun : run <:+: tokens) :
    (∀ t ∈ run, t.Stands d (sourceChars d content)) ∧
      run.Pairwise fun t later => t.stop.offset ≤ later.start.offset :=
  ⟨fun _ ht => stands_of_scan htokens (hrun.subset ht),
    (pairwise_of_scan htokens).sublist hrun.sublist⟩

/-- Tokens that stand one behind the other lie on the lines from the first to the last of them. -/
theorem covers_of_run {s : Stmt} {n first last : Nat} {opening more : List Token} {t : Token}
    (hread : Parse.ReadAs ⟨d, sourceChars d content⟩ tokens (s.rule (Parse.knot n))
      (opening ++ t :: more) s)
    (hopening : opening = [] ∨ d = .strict ∧ Parse.IsOpening opening)
    (hfirst : first = t.start.line)
    (hlast : ∀ t' ∈ opening ++ t :: more, t'.kind.isSolid = true → t'.stop.line ≤ last) :
    Covers d content s first last opening t more := by
  obtain ⟨before, after, _, hsplit, -⟩ := id hread
  have hinfix : t :: more <:+: tokens := ⟨before ++ opening, after, by simp [hsplit]⟩
  obtain ⟨hstands, horder⟩ := stands_of_infix htokens hinfix
  have ht := hstands t List.mem_cons_self
  have hsolid : ∀ t' ∈ t :: more, t'.kind.isSolid = true → t'.stop.line ≤ last :=
    fun t' ht' => hlast t' (List.mem_append_right opening ht')
  constructor
  case read => exact ⟨tokens, n, htokens, hread⟩
  case opening_eq => exact hopening
  case first_eq => exact hfirst
  case lines =>
    intro t' ht'
    rw [hfirst]
    have hle := head_start_le hstands horder rfl ht'
    exact ⟨ht.start_line_le (hstands t' ht') hle, hsolid t' ht'⟩
  case text =>
    intro hreturn t' ht' hkind
    rw [hfirst]
    have hle := head_start_le hstands horder rfl ht'
    have hstop := (hstands t' ht').start_le_stop
    exact sourceText_infix (return_notMem_sourceChars hreturn) ht (hstands t' ht')
      (Nat.le_trans hle hstop) (hsolid t' ht' hkind)

/-- A statement that the grammar reads from a run of tokens covers its lines. -/
theorem covers_of_readAs {s : Stmt} {n first last : Nat} {run : List Token}
    (hlines : stmtLines? d s = some (first, last)) (hs : s.extent?.isSome = true)
    (hread : Parse.ReadAs ⟨d, sourceChars d content⟩ tokens (s.rule (Parse.knot n)) run s) :
    ∃ opening t more, Covers d content s first last opening t more := by
  obtain ⟨before, after, lastToken, hsplit, hrun⟩ := id hread
  obtain ⟨extent, opening, t, kept, hextent, rfl, hstarts, hlastLine, hreach⟩ :=
    Parse.rule_runsTo hs hrun
  obtain ⟨hfirst, hle⟩ := stmtLines?_eq hlines hextent
  have hsolid : ∀ t' ∈ opening ++ t :: kept, t'.kind.isSolid = true → t'.stop.line ≤ last := by
    have hinfix : opening ++ t :: kept <:+: tokens := ⟨before, after, by simp [hsplit]⟩
    obtain ⟨hstands, horder⟩ := stands_of_infix htokens hinfix
    intro t' ht' hkind
    obtain ⟨hmem, hstop⟩ := stop_le_lastSolid hstands horder lastToken ht' hkind
    have hline := (hstands t' ht').stop_line_le (hstands _ hmem) hstop
    have hextentLast := hle hreach
    omega
  cases d with
  | strict =>
      have hsuffix : t :: (kept ++ after) <:+: tokens :=
        ⟨before ++ opening, [], by simp [hsplit]⟩
      obtain ⟨hstands, horder⟩ := stands_of_infix htokens hsuffix
      have hopening : opening = [] ∨ Dialect.strict = .strict ∧ Parse.IsOpening opening :=
        (opening_of_starts hstarts).imp_right fun h => ⟨rfl, h⟩
      have hstart := hfirst.trans (firstLine_strict hstands horder hstarts)
      exact ⟨opening, t, kept, covers_of_run htokens hread hopening hstart hsolid⟩
  | tolerant =>
      obtain ⟨t', kept', hkept, hstart⟩ := firstLine_tolerant hstarts kept
      rw [hkept] at hread hsolid
      exact ⟨[], t', kept', covers_of_run htokens hread (.inl rfl) (hfirst.trans hstart) hsolid⟩

end

/-- Every definition of a module covers the lines of its symbol. -/
theorem covers_of_within {d : Dialect} {content : String} {body : List Stmt} {s : Stmt}
    {first last : Nat} (hbody : parseModule d content = some body) (hs : Within s body)
    (hlines : stmtLines? d s = some (first, last)) :
    ∃ opening t more, Covers d content s first last opening t more := by
  have hextent : s.extent?.isSome = true := by
    cases s <;> first | rfl | cases hlines
  obtain ⟨tokens, htokens, hplaced⟩ := parseModule_placed hbody
  obtain ⟨n, run, hread⟩ := hplaced s hs hextent
  exact covers_of_readAs htokens hlines hextent hread

/-- A decorated definition starts, for the strict extractor, where the expression of its first
decorator starts: all other expressions and the definition itself come later. -/
theorem strictStart_of_within {content : String} {body : List Stmt} {s : Stmt} {extent : Extent}
    {d : Decorator} {others : List Decorator} (hbody : parseModule .strict content = some body)
    (hs : Within s body) (hextent : s.extent? = some extent)
    (hdecorators : s.decorators = d :: others) :
    strictStart extent s.decorators = d.exprLine := by
  have hsome : s.extent?.isSome = true := by rw [hextent]; rfl
  obtain ⟨tokens, htokens, hplaced⟩ := parseModule_placed hbody
  obtain ⟨n, run, before, after, lastToken, hsplit, hrun⟩ := hplaced s hs hsome
  obtain ⟨_, opening, t, kept, hextent', rfl, hstarts, -, -⟩ := Parse.rule_runsTo hsome hrun
  obtain rfl := Option.some.inj (hextent.symm.trans hextent')
  have hsuffix : t :: (kept ++ after) <:+: tokens := ⟨before ++ opening, [], by simp [hsplit]⟩
  obtain ⟨hstands, horder⟩ := stands_of_infix htokens hsuffix
  have hfirst : strictStart extent s.decorators = t.start.line :=
    firstLine_strict hstands horder hstarts
  cases hstarts with
  | plain hnone _ =>
      rw [hnone] at hdecorators
      cases hdecorators
  | decorated hfirstMark hstartsAt _ _ =>
      obtain ⟨rfl, -⟩ := List.cons.inj (hdecorators.symm.trans hfirstMark)
      rw [hfirst, hstartsAt.exprLine]

end PullReview.Extract
