import PullReview.Proofs.Extract.Extent
import PullReview.Proofs.Extract.Origin
import PullReview.Proofs.Extract.Symbols

/-!
# The code of symbols

The code of a symbol is cut from the lines of the whole text by the numbers of its first and its
last line. The numbers count the lines of the source, which end at line ends only, but a text has
more line boundaries than that. So the code is the text of the symbol's lines as long as no other
boundary stands before their end; a separator in a text or a comment moves the code of everything
behind it.
-/

namespace PullReview.Extract

open Python

/-! ### From symbols to statements -/

/-- A symbol has the lines of a statement, and its code is what a list of lines has there. -/
def HasLines (lines : List String) (d : Dialect) (stmt : Stmt) (s : Symbol) : Prop :=
  ∃ first last : Nat, stmtLines? d stmt = some (first, last) ∧ s.startLine = first ∧
    s.endLine = last ∧ s.code = some (PullReview.Text.excerpt lines first last)

/-- A symbol belongs to a statement of a body, at any depth. -/
def IsFoundIn (text : Text) (d : Dialect) (body : List Stmt) (s : Symbol) : Prop :=
  ∃ stmt, Within stmt body ∧ HasLines text.lines d stmt s

section

variable {text : Text} {d : Dialect} {s : Symbol}

private theorem fieldSymbol_hasLines {stmt : Stmt} {name : String} {extent : Extent}
    {type : Option String} (h : stmtLines? d stmt = some (extent.first, extent.last)) :
    HasLines text.lines d stmt (fieldSymbol text name extent type) :=
  ⟨extent.first, extent.last, h, rfl, rfl, rfl⟩

private theorem strictFunction_hasLines {inClass : Bool} {head : FunctionHead}
    (h : strictFunction text inClass head = .ok s) (body : List Stmt) :
    HasLines text.lines .strict (.function head body) s := by
  obtain ⟨marks, -, h⟩ := bind_ok h
  obtain ⟨params, -, h⟩ := bind_ok h
  obtain ⟨returnType, -, h⟩ := bind_ok h
  obtain rfl := Except.ok.inj h
  exact ⟨_, _, rfl, rfl, rfl, rfl⟩

private theorem strictClass_hasLines {head : ClassHead} (h : strictClass text head = .ok s)
    (body : List Stmt) : HasLines text.lines .strict (.class head body) s := by
  obtain ⟨bases, -, h⟩ := bind_ok h
  obtain rfl := Except.ok.inj h
  exact ⟨_, _, rfl, rfl, rfl, rfl⟩

private theorem stmtLines?_of_strictName? {stmt : Stmt} {name : String} {extent : Extent}
    (h : strictName? stmt = some (name, extent)) :
    stmtLines? d stmt = some (extent.first, extent.last) := by
  unfold strictName? at h
  split at h
  case h_1 extent' target value =>
    split at h
    · cases h
      rfl
    · cases h
  case h_2 extent' target hint value =>
    split at h
    · cases h
      rfl
    · cases h
  case h_3 => cases h

private theorem strictConstant_hasLines {stmt : Stmt} {found : List Symbol}
    (h : strictConstant text stmt = .ok found) (hs : s ∈ found) :
    HasLines text.lines .strict stmt s := by
  rw [strictConstant_eq] at h
  split at h
  case h_2 =>
    cases h
    cases hs
  case h_1 name extent hname =>
    have hlines : stmtLines? .strict stmt = some (extent.first, extent.last) :=
      stmtLines?_of_strictName? hname
    cases hhint : renderHint (hint? stmt) with
    | error fault =>
        rw [hhint] at h
        cases h
    | ok type =>
        rw [hhint] at h
        cases h
        split at hs
        · obtain rfl := List.mem_singleton.mp hs
          exact fieldSymbol_hasLines hlines
        · cases hs

private theorem tolerantConstant_hasLines {stmt : Stmt} (hs : s ∈ tolerantConstant text stmt) :
    HasLines text.lines .tolerant stmt s := by
  unfold tolerantConstant at hs
  split at hs
  case h_1 =>
    split at hs
    · obtain rfl := List.mem_singleton.mp hs
      exact fieldSymbol_hasLines rfl
    · cases hs
  case h_2 =>
    split at hs
    · obtain rfl := List.mem_singleton.mp hs
      exact fieldSymbol_hasLines rfl
    · cases hs
  case h_3 => cases hs

private theorem MadeFrom.hasLines {stmt : Stmt} (h : MadeFrom text d stmt s) :
    HasLines text.lines d stmt s := by
  cases h with
  | strictFunction h => exact strictFunction_hasLines h _
  | strictClass h => exact strictClass_hasLines h _
  | strictConstant h hs => exact strictConstant_hasLines h hs
  | tolerantFunction => exact ⟨_, _, rfl, rfl, rfl, rfl⟩
  | tolerantClass => exact ⟨_, _, rfl, rfl, rfl, rfl⟩
  | tolerantConstant hs => exact tolerantConstant_hasLines hs

end

/-- Every symbol of a file belongs to a statement of its tree. -/
theorem isFoundIn_of_extract {d : Dialect} {path content : String} {e : Extracted} {s : Symbol}
    (h : extract d path content = .ok e) (hs : s ∈ e.symbols) :
    ∃ body, parseModule d content = some body ∧
      IsFoundIn ⟨path, PullReview.Text.lines content⟩ d body s := by
  obtain ⟨body, hbody, stmt, hstmt, hmade⟩ := isMadeIn_of_extract h hs
  exact ⟨body, hbody, stmt, hstmt, hmade.hasLines⟩

/-! ### Code and source -/

/-- The text of some lines of a source, as its dialect cuts it. -/
def linesText (d : Dialect) (content : String) (first last : Nat) : String :=
  PullReview.Text.excerpt (sourceLines d content) first last

/-- Up to a line nothing but the ends of its lines cuts a source. -/
def IsPlain (d : Dialect) (content : String) (last : Nat) : Prop :=
  ∀ l ∈ (sourceLines d content).take last, PullReview.Text.IsLine l

instance (d : Dialect) (content : String) (last : Nat) : Decidable (IsPlain d content last) :=
  List.decidableBAll _ _

private theorem take_lines {d : Dialect} {content : String} {last : Nat}
    (h : IsPlain d content last) :
    (PullReview.Text.lines content).take last = (sourceLines d content).take last := by
  rw [PullReview.Text.lines_eq_cut, sourceLines, PullReview.Text.cut, PullReview.Text.cut,
    ← List.map_take, ← List.map_take]
  apply congrArg (List.map String.ofList)
  apply PullReview.Text.take_cutFrom_of_subset fun c => isLineBoundary_of_endsLine
  intro l hl c hc
  have hmem : String.ofList l ∈ (sourceLines d content).take last := by
    rw [sourceLines, PullReview.Text.cut, ← List.map_take]
    exact List.mem_map_of_mem hl
  exact h _ hmem c (by simpa using hc)

private theorem excerpt_eq (lines : List String) (first last : Nat) :
    PullReview.Text.excerpt lines first last =
      "\n".intercalate ((lines.take last).drop (first - 1)) := by
  rw [PullReview.Text.excerpt, List.drop_take]

/-- In a plain source the lines of the text are the lines of the source. -/
theorem excerpt_lines {d : Dialect} {content : String} {last : Nat} (h : IsPlain d content last)
    (first : Nat) : PullReview.Text.excerpt (PullReview.Text.lines content) first last =
      linesText d content first last := by
  rw [linesText, excerpt_eq, excerpt_eq, take_lines h]

private theorem mem_intercalate_of_mem {c : Char} {l : List Char} {ls : List (List Char)}
    (hl : l ∈ ls) (hc : c ∈ l) : c ∈ ['\n'].intercalate ls := by
  induction ls with
  | nil => cases hl
  | cons l' ls ih =>
      cases ls with
      | nil => simpa [← List.mem_singleton.mp hl] using hc
      | cons l'' ls =>
          rw [List.intercalate_cons_cons, List.mem_append]
          obtain rfl | hl := List.mem_cons.mp hl
          · exact .inl (List.mem_append_left _ hc)
          · exact .inr (ih hl)

private theorem mem_of_mem_intercalate {c : Char} {ls : List (List Char)}
    (h : c ∈ ['\n'].intercalate ls) (hc : c ≠ '\n') : ∃ l ∈ ls, c ∈ l := by
  induction ls with
  | nil => cases h
  | cons l ls ih =>
      cases ls with
      | nil => exact ⟨l, by simpa using h⟩
      | cons l' ls =>
          rw [List.intercalate_cons_cons, List.mem_append, List.mem_append] at h
          obtain (h | h) | h := h
          · exact ⟨l, List.mem_cons_self, h⟩
          · exact absurd (List.mem_singleton.mp h) hc
          · obtain ⟨l'', hl'', h⟩ := ih h
            exact ⟨l'', List.mem_cons_of_mem _ hl'', h⟩

private theorem excerpt_lines_ne {d : Dialect} {content l : String} {first last : Nat}
    (hl : l ∈ ((sourceLines d content).take last).drop (first - 1))
    (hcut : ¬ PullReview.Text.IsLine l) :
    PullReview.Text.excerpt (PullReview.Text.lines content) first last ≠
      linesText d content first last := by
  obtain ⟨c, hc, hboundary⟩ : ∃ c ∈ l.toList, PullReview.Text.isLineBoundary c = true := by
    simpa [PullReview.Text.IsLine] using hcut
  have hfeed : c ≠ '\n' := by
    obtain ⟨cs, hcs, rfl⟩ := List.mem_map.mp (List.mem_of_mem_take (List.mem_of_mem_drop hl))
    rw [String.toList_ofList] at hc
    have hends := PullReview.Text.isBreak_of_mem_cutFrom hcs (by simp) c hc
    rintro rfl
    simp [endsLine] at hends
  have hsource : c ∈ (linesText d content first last).toList := by
    rw [linesText, excerpt_eq, String.toList_intercalate]
    exact mem_intercalate_of_mem (List.mem_map_of_mem hl) hc
  intro heq
  rw [← heq, excerpt_eq, String.toList_intercalate] at hsource
  obtain ⟨cs, hcs, hmem⟩ := mem_of_mem_intercalate hsource hfeed
  obtain ⟨line, hline, rfl⟩ := List.mem_map.mp hcs
  have hclean := PullReview.Text.isLine_of_mem_lines
    (List.mem_of_mem_take (List.mem_of_mem_drop hline)) c hmem
  rw [hboundary] at hclean
  cases hclean

/-- The code of a symbol is cut from a text whose lines end at every line boundary, by numbers that
count the lines of the source. It is the text of the symbol's lines if up to its last line the
source has no other boundary, and never if one of its lines has one. Those lines hold all tokens
that the definition is read from, the opening of a first decorator in the strict dialect apart. -/
theorem code_of_symbol {d : Dialect} {path content : String} {e : Extracted} {s : Symbol}
    (h : extract d path content = .ok e) (hs : s ∈ e.symbols) :
    ∃ first last : Nat, s.startLine = first ∧ s.endLine = last ∧
      s.code = some (PullReview.Text.excerpt (PullReview.Text.lines content) first last) ∧
      (IsPlain d content last → s.code = some (linesText d content first last)) ∧
      (∀ l ∈ ((sourceLines d content).take last).drop (first - 1), ¬ PullReview.Text.IsLine l →
        s.code ≠ some (linesText d content first last)) ∧
      (∃ body stmt opening t more, parseModule d content = some body ∧ Within stmt body ∧
        Covers d content stmt first last opening t more) ∧
      ∀ {d' : Dialect} {path' content' : String} {e' : Extracted} {s' : Symbol}
          {first' last' : Nat},
        extract d' path' content' = .ok e' → s' ∈ e'.symbols → s'.startLine = first' →
        s'.endLine = last' → IsPlain d content last → IsPlain d' content' last' →
        linesText d content first last ≠ linesText d' content' first' last' → s.code ≠ s'.code := by
  obtain ⟨body, hbody, stmt, hstmt, first, last, hlines, hfirst, hlast, hcode⟩ :=
    isFoundIn_of_extract h hs
  refine ⟨first, last, hfirst, hlast, hcode, fun hplain => ?_, fun l hl hcut heq => ?_, ?_, ?_⟩
  · rw [hcode, excerpt_lines hplain]
  · exact excerpt_lines_ne hl hcut (Option.some.inj (hcode.symm.trans heq))
  · obtain ⟨opening, t, more, hcovers⟩ := covers_of_within hbody hstmt hlines
    exact ⟨body, stmt, opening, t, more, hbody, hstmt, hcovers⟩
  · intro d' path' content' e' s' first' last' h' hs' hfirst' hlast' hplain hplain' hne heq
    obtain ⟨body', -, stmt', -, first'', last'', -, hfirst'', hlast'', hcode'⟩ :=
      isFoundIn_of_extract h' hs'
    obtain rfl : first'' = first' := Int.ofNat.inj (hfirst''.symm.trans hfirst')
    obtain rfl : last'' = last' := Int.ofNat.inj (hlast''.symm.trans hlast')
    rw [hcode, hcode', excerpt_lines hplain, excerpt_lines hplain'] at heq
    exact hne (Option.some.inj heq)

/-- The first and the last line of every symbol of a file, and its code. -/
def codes? (d : Dialect) (content : String) : Option (List (Int × Int × Option String)) :=
  match extract d "a.py" content with
  | .ok e => some (e.symbols.map fun s => (s.startLine, s.endLine, s.code))
  | .error _ => none

private theorem exists_symbol_of_codes? {d : Dialect} {content : String} {first last : Int}
    {code : Option String} {rest : List (Int × Int × Option String)}
    (h : codes? d content = some ((first, last, code) :: rest)) :
    ∃ e s, extract d "a.py" content = .ok e ∧ s ∈ e.symbols ∧ s.startLine = first ∧
      s.endLine = last ∧ s.code = code := by
  unfold codes? at h
  split at h
  case h_2 => cases h
  case h_1 e he =>
    obtain ⟨s, others, hsymbols, hs, -⟩ := List.map_eq_cons_iff.mp (Option.some.inj h)
    simp only [Prod.mk.injEq] at hs
    exact ⟨e, s, he, by simp [hsymbols], hs⟩

/-- A function behind a decorator in a plain source. -/
def decoratedSource : String := "@g(\n  1)\ndef f():\n    return 2\n"

theorem decorated_function_code : ∃ e s, extract .strict "a.py" decoratedSource = .ok e ∧
    s ∈ e.symbols ∧ IsPlain .strict decoratedSource 4 ∧
    s.code = some (linesText .strict decoratedSource 1 4) ∧
    linesText .strict decoratedSource 1 4 = "@g(\n  1)\ndef f():\n    return 2" := by
  have hcodes : codes? .strict decoratedSource =
      some [(1, 4, some "@g(\n  1)\ndef f():\n    return 2")] := by decide +kernel
  obtain ⟨e, s, he, hs, hfirst, hlast, -⟩ := exists_symbol_of_codes? hcodes
  have hplain : IsPlain .strict decoratedSource 4 := by decide +kernel
  obtain ⟨first, last, hfirst', hlast', -, hcode, -⟩ := code_of_symbol he hs
  obtain rfl : first = 1 := by omega
  obtain rfl : last = 4 := by omega
  exact ⟨e, s, he, hs, hplain, hcode hplain, by decide +kernel⟩

theorem code_misses_definition :
    (∀ d, codes? d "x = '\u2028'\ndef f(): pass\n" = some [(2, 2, some "'")] ∧
      linesText d "x = '\u2028'\ndef f(): pass\n" 2 2 = "def f(): pass") ∧
    codes? .strict "@(\n  g)\ndef f(): pass\n" = some [(2, 3, some "  g)\ndef f(): pass")] := by
  refine ⟨fun d => ?_, by decide +kernel⟩
  cases d <;> decide +kernel

end PullReview.Extract
