import PullReview.Python.Token.Scanner

/-!
# Where tokens stand

A scan reads its characters from the front, one after the other, so a mark tells how many characters
and line feeds are before it. The tokens of a source stand one behind the other, between marks of
that source, and its names are identifiers in the spelling of the dialect.
-/

namespace PullReview.Python

/-! ### Marks -/

/-- The mark behind the first characters of a text. -/
def markAt (chars : List Char) (offset : Nat) : Mark := ⟨offset, 1 + (chars.take offset).count '\n'⟩

theorem markAt_line_mono (chars : List Char) {m n : Nat} (h : m ≤ n) :
    (markAt chars m).line ≤ (markAt chars n).line :=
  Nat.add_le_add_left (List.Sublist.count_le _ (List.take_prefix_take_left h).sublist) 1

/-- A cursor that has read a text up to its mark. -/
def Cursor.At (chars : List Char) (c : Cursor) : Prop :=
  ∃ before, chars = before ++ c.rest ∧ c.mark = ⟨before.length, 1 + before.count '\n'⟩

namespace Cursor

variable {chars : List Char} {c : Cursor}

private theorem at_start (chars : List Char) : At chars ⟨chars, ⟨0, 1⟩⟩ := ⟨[], rfl, rfl⟩

private theorem At.mark_eq (h : c.At chars) : c.mark = markAt chars c.mark.offset := by
  obtain ⟨before, rfl, hmark⟩ := h
  rw [hmark, markAt, List.take_left]

private theorem At.offset_le (h : c.At chars) : c.mark.offset ≤ chars.length := by
  obtain ⟨before, rfl, hmark⟩ := h
  rw [hmark, List.length_append]
  exact Nat.le_add_right _ _

theorem At.next (h : c.At chars) : c.next.At chars := by
  obtain ⟨before, hchars, hmark⟩ := h
  unfold Cursor.next
  split
  case h_1 => exact ⟨before, hchars, hmark⟩
  case h_2 ch rest hrest =>
    refine ⟨before ++ [ch], ?_, ?_⟩
    · rw [hchars, hrest, List.append_assoc, List.singleton_append]
    · rw [hmark, List.length_append, List.count_append]
      by_cases hch : ch = '\n'
      · simp [hch, Nat.add_assoc]
      · simp [hch]

theorem At.skip (h : c.At chars) (n : Nat) : (c.skip n).At chars := by
  induction n generalizing c with
  | zero => exact h
  | succ n ih => exact ih h.next

private theorem offset_le_next (c : Cursor) : c.mark.offset ≤ c.next.mark.offset := by
  unfold Cursor.next
  split
  · exact Nat.le_refl _
  · exact Nat.le_succ _

private theorem offset_le_skip (c : Cursor) (n : Nat) : c.mark.offset ≤ (c.skip n).mark.offset := by
  induction n generalizing c with
  | zero => exact Nat.le_refl _
  | succ n ih => exact Nat.le_trans c.offset_le_next (ih c.next)

end Cursor

/-! ### Tokens in place -/

/-- A name is an identifier in the spelling of the dialect. -/
def TokenKind.Spelled (d : Dialect) : TokenKind → Prop
  | .name text => ∃ word, isIdentifier word = true ∧ text = spelling d (String.ofList word)
  | _ => True

/-- A token between two marks of a text. -/
structure Token.Stands (d : Dialect) (chars : List Char) (t : Token) : Prop where
  start_eq : t.start = markAt chars t.start.offset
  stop_eq : t.stop = markAt chars t.stop.offset
  start_le_stop : t.start.offset ≤ t.stop.offset
  spelled : t.kind.Spelled d

/-- Tokens, newest first, that stand one behind the other before an offset of a text. -/
inductive Laid (d : Dialect) (chars : List Char) : Nat → List Token → Prop
  | nil (stop : Nat) : Laid d chars stop []
  | cons {stop : Nat} {t : Token} {tokens : List Token} :
      t.Stands d chars → t.stop.offset ≤ stop → Laid d chars t.start.offset tokens →
      Laid d chars stop (t :: tokens)

variable {d : Dialect} {chars : List Char}

namespace Laid

variable {stop : Nat} {tokens : List Token}

theorem mono {stop' : Nat} (h : Laid d chars stop tokens) (hle : stop ≤ stop') :
    Laid d chars stop' tokens := by
  cases h with
  | nil => exact .nil _
  | cons ht hbefore hrest => exact .cons ht (Nat.le_trans hbefore hle) hrest

theorem attachComment (h : Laid d chars stop tokens) (comment : Comment) :
    Laid d chars stop (attachComment comment tokens) := by
  induction h with
  | nil => exact .nil _
  | @cons stop t tokens ht hbefore hrest ih =>
      unfold Python.attachComment
      split
      · exact .cons ⟨ht.start_eq, ht.stop_eq, ht.start_le_stop, ht.spelled⟩ hbefore hrest
      · exact .cons ht hbefore ih

private theorem stands (h : Laid d chars stop tokens) : ∀ t ∈ tokens, t.Stands d chars := by
  induction h with
  | nil => exact List.forall_mem_nil _
  | cons ht _ _ ih => exact List.forall_mem_cons.mpr ⟨ht, ih⟩

private theorem stop_le (h : Laid d chars stop tokens) : ∀ t ∈ tokens, t.stop.offset ≤ stop := by
  induction h with
  | nil => exact List.forall_mem_nil _
  | cons ht hbefore _ ih =>
      refine List.forall_mem_cons.mpr ⟨hbefore, fun t' ht' => ?_⟩
      exact Nat.le_trans (ih t' ht') (Nat.le_trans ht.start_le_stop hbefore)

private theorem pairwise (h : Laid d chars stop tokens) :
    tokens.Pairwise fun later t => t.stop.offset ≤ later.start.offset := by
  induction h with
  | nil => exact .nil
  | cons _ _ hrest ih => exact .cons hrest.stop_le ih

end Laid

/-- A scan whose cursor reads the text and whose tokens stand before it. -/
structure Scan.Sound (d : Dialect) (chars : List Char) (s : Scan) : Prop where
  cursor : s.cursor.At chars
  tokens : Laid d chars s.cursor.mark.offset s.tokens

namespace Scan.Sound

variable {s : Scan}

/-- Moving on keeps the tokens in place, whatever else changes. -/
theorem skip (h : s.Sound d chars) (n : Nat) {s' : Scan} (hcursor : s'.cursor = s.cursor.skip n)
    (htokens : s'.tokens = s.tokens) : s'.Sound d chars := by
  refine ⟨?_, ?_⟩
  · rw [hcursor]
    exact h.cursor.skip n
  · rw [hcursor, htokens]
    exact h.tokens.mono (s.cursor.offset_le_skip n)

/-- The characters that are moved over can be made a token. -/
theorem push (h : s.Sound d chars) (n : Nat) {s' : Scan} (hcursor : s'.cursor = s.cursor.skip n)
    {kind : TokenKind}
    (htokens : s'.tokens = ⟨kind, s.cursor.mark, (s.cursor.skip n).mark, []⟩ :: s.tokens)
    (hkind : kind.Spelled d) : s'.Sound d chars := by
  have hmoved := h.cursor.skip n
  refine ⟨?_, ?_⟩
  · rw [hcursor]
    exact hmoved
  · rw [hcursor, htokens]
    exact .cons ⟨h.cursor.mark_eq, hmoved.mark_eq, s.cursor.offset_le_skip n, hkind⟩
      (Nat.le_refl _) h.tokens

theorem pushLayout (h : s.Sound d chars) (kind : TokenKind) (hkind : kind.Spelled d) :
    (s.pushLayout kind).Sound d chars :=
  h.push 0 rfl rfl hkind

end Scan.Sound

/-! ### Layout -/

private theorem strictIndentation_skip {fuel : Nat} {i j : Indentation}
    (h : strictIndentation fuel i = some j) : ∃ n, j.cursor = i.cursor.skip n := by
  induction fuel generalizing i with
  | zero =>
      obtain rfl := Option.some.inj h
      exact ⟨0, rfl⟩
  | succ fuel ih =>
      unfold strictIndentation at h
      split at h
      case h_4 =>
        obtain ⟨n, hn⟩ := ih h
        exact ⟨n + 2, hn⟩
      case h_5 => cases h
      case h_6 =>
        obtain rfl := Option.some.inj h
        exact ⟨0, rfl⟩
      all_goals
        obtain ⟨n, hn⟩ := ih h
        exact ⟨n + 1, hn⟩

theorem Scan.Sound.closeBlocks {s : Scan} (h : s.Sound d chars) (width : Nat)
    (indents : List (Nat × Nat)) : (closeBlocks width indents s).Sound d chars := by
  induction indents generalizing s with
  | nil => exact h.skip 0 rfl rfl
  | cons top outer ih =>
      unfold Python.closeBlocks
      split
      · exact ih (h.pushLayout .dedent trivial)
      · exact h.skip 0 rfl rfl

theorem Scan.Sound.strictLayout {s s' : Scan} (h : s.Sound d chars)
    (hs : strictLayout s = some s') : s'.Sound d chars := by
  obtain ⟨i, hi, hs⟩ := Option.bind_eq_some_iff.mp hs
  obtain ⟨n, hn⟩ := strictIndentation_skip hi
  have hmoved : Scan.Sound d chars { s with
      cursor := i.cursor, atLineStart := false, lineIndent := i.column } := h.skip n hn rfl
  dsimp only at hs
  split at hs
  · obtain rfl := Option.some.inj hs
    exact hmoved.skip 0 rfl rfl
  · obtain rfl := Option.some.inj hs
    exact hmoved.skip 0 rfl rfl
  generalize (if i.continued == 0 then (i.column, i.alternate) else (i.continued, i.continued)) =
    measured at hs
  split at hs
  · obtain rfl := Option.some.inj hs
    exact hmoved
  split at hs
  · split at hs
    · obtain rfl := Option.some.inj hs
      exact hmoved
    · cases hs
  split at hs
  · split at hs
    · cases hs
    · obtain rfl := Option.some.inj hs
      refine Scan.Sound.pushLayout ?_ (.indent _) trivial
      exact hmoved.skip 0 rfl rfl
  · split at hs
    · obtain rfl := Option.some.inj hs
      exact hmoved.closeBlocks _ _
    · cases hs

theorem Scan.Sound.tolerantLayout {s : Scan} (h : s.Sound d chars) :
    (tolerantLayout s).Sound d chars := by
  unfold Python.tolerantLayout
  generalize (s.cursor.rest.takeWhile isTolerantBlank).length = blanks
  have hmoved : Scan.Sound d chars { s with
      cursor := s.cursor.skip blanks, atLineStart := false,
      lineIndent := tolerantIndentation 0 s.cursor.rest } := h.skip blanks rfl rfl
  dsimp only
  split
  case h_4 =>
    split
    · exact hmoved
    · split
      · refine Scan.Sound.pushLayout ?_ (.indent _) trivial
        exact hmoved.skip 0 rfl rfl
      · exact hmoved.closeBlocks _ _
  all_goals exact hmoved.skip 0 rfl rfl

/-! ### Steps -/

theorem Scan.Sound.scanOperator {s s' : Scan} (h : s.Sound d chars)
    (hs : scanOperator d s = some s') : s'.Sound d chars := by
  obtain ⟨text, -, hs⟩ := Option.bind_eq_some_iff.mp hs
  obtain ⟨brackets, -, hs⟩ := Option.bind_eq_some_iff.mp hs
  obtain rfl := Option.some.inj hs
  exact h.push text.length rfl rfl trivial

private theorem Cursor.skip_skip (c : Cursor) (m n : Nat) : (c.skip m).skip n = c.skip (m + n) := by
  induction m generalizing c with
  | zero => rw [Nat.zero_add, Cursor.skip]
  | succ m ih => rw [Nat.succ_add, Cursor.skip, Cursor.skip, ih]

theorem Scan.Sound.scanQuoted {s s' : Scan} {letters : List Char} (h : s.Sound d chars)
    (hs : scanQuoted d letters s = some s') : s'.Sound d chars := by
  obtain ⟨quote, -, hs⟩ := Option.bind_eq_some_iff.mp hs
  dsimp only at hs
  by_cases hnested : (d == .tolerant && letters.any fun c => "fFtT".toList.contains c) = true
  · rw [if_pos hnested] at hs
    obtain ⟨length, -, hs⟩ := Option.bind_eq_some_iff.mp hs
    obtain rfl := Option.some.inj hs
    rw [Cursor.skip_skip, Cursor.skip_skip]
    exact h.push _ rfl rfl trivial
  · rw [if_neg hnested] at hs
    obtain ⟨length, -, hs⟩ := Option.bind_eq_some_iff.mp hs
    obtain rfl := Option.some.inj hs
    rw [Cursor.skip_skip, Cursor.skip_skip]
    exact h.push _ rfl rfl trivial

theorem Scan.Sound.scanWord {s s' : Scan} (h : s.Sound d chars)
    (hs : scanWord d s = some s') : s'.Sound d chars := by
  unfold Python.scanWord at hs
  dsimp only at hs
  generalize s.cursor.rest.takeWhile (isNameChar d) = word at hs
  split at hs
  · split at hs
    · exact h.scanQuoted hs
    · obtain ⟨hword, hs⟩ := Option.ite_none_right_eq_some.mp hs
      obtain rfl := Option.some.inj hs
      exact h.push _ rfl rfl ⟨word, hword, rfl⟩
  · obtain ⟨hword, hs⟩ := Option.ite_none_right_eq_some.mp hs
    obtain rfl := Option.some.inj hs
    exact h.push _ rfl rfl ⟨word, hword, rfl⟩

theorem Scan.Sound.scanNumeral {s s' : Scan} (h : s.Sound d chars)
    (hs : scanNumeral d s = some s') : s'.Sound d chars := by
  cases d with
  | strict =>
      obtain ⟨length, -, hs⟩ := Option.bind_eq_some_iff.mp hs
      obtain rfl := Option.some.inj hs
      exact h.push length rfl rfl trivial
  | tolerant =>
      obtain rfl := Option.some.inj hs
      exact h.push (scanNumberLoosely s.cursor.rest) rfl rfl trivial

theorem Scan.Sound.scanComment {s : Scan} (h : s.Sound d chars) :
    (scanComment s).Sound d chars := by
  have hmoved : Scan.Sound d chars { s with
      cursor := s.cursor.skip (s.cursor.rest.takeWhile (· != '\n')).length } := h.skip _ rfl rfl
  exact ⟨hmoved.cursor, hmoved.tokens.attachComment _⟩

theorem Scan.Sound.scanLineEnd {s : Scan} (h : s.Sound d chars) :
    (scanLineEnd s).Sound d chars := by
  unfold Python.scanLineEnd
  dsimp only
  split
  · exact h.skip 1 rfl rfl
  · exact (h.pushLayout .newline trivial).skip 1 rfl rfl

theorem Scan.Sound.scanJoint {s s' : Scan} (h : s.Sound d chars)
    (hs : scanJoint d s = some s') : s'.Sound d chars := by
  unfold Python.scanJoint at hs
  split at hs
  case h_4 => cases hs
  all_goals
    obtain rfl := Option.some.inj hs
    exact h.skip _ rfl rfl

private theorem Scan.Sound.dedents {s : Scan} (h : s.Sound d chars) (indents : List (Nat × Nat)) :
    (indents.foldl (fun s _ => s.pushLayout .dedent) s).Sound d chars := by
  induction indents generalizing s with
  | nil => exact h
  | cons top outer ih => exact ih (h.pushLayout .dedent trivial)

theorem Scan.Sound.scanFinish {s s' : Scan} (h : s.Sound d chars)
    (hs : scanFinish d s = some s') : s'.Sound d chars := by
  unfold Python.scanFinish at hs
  split at hs
  · cases hs
  · obtain rfl := Option.some.inj hs
    refine Scan.Sound.pushLayout ?_ .finish trivial
    have hended (needsLineEnd : Bool) :
        (if needsLineEnd then s.pushLayout .newline else s).Sound d chars := by
      split
      · exact h.pushLayout .newline trivial
      · exact h
    exact Scan.Sound.skip (Scan.Sound.dedents (hended _) _) 0 rfl rfl

theorem Scan.Sound.scanToken {s s' : Scan} (h : s.Sound d chars)
    (hs : scanToken d s = some s') : s'.Sound d chars := by
  unfold Python.scanToken at hs
  split at hs
  · exact h.scanFinish hs
  split at hs
  · obtain rfl := Option.some.inj hs
    exact h.skip 1 rfl rfl
  split at hs
  · obtain rfl := Option.some.inj hs
    exact h.scanComment
  split at hs
  · obtain rfl := Option.some.inj hs
    exact h.scanLineEnd
  split at hs
  · exact h.scanJoint hs
  split at hs
  · exact h.scanWord hs
  split at hs
  · exact h.scanNumeral hs
  split at hs
  · exact h.scanQuoted hs
  · exact h.scanOperator hs

/-! ### Runs -/

theorem Scan.Sound.scanFrom {fuel : Nat} {s s' : Scan} (h : s.Sound d chars)
    (hs : scanFrom d fuel s = some s') : s'.Sound d chars := by
  induction fuel generalizing s with
  | zero => cases hs
  | succ fuel ih =>
      unfold Python.scanFrom at hs
      split at hs
      · obtain rfl := Option.some.inj hs
        exact h
      dsimp only at hs
      split at hs
      · cases hs
      · rename_i middle hmiddle
        refine ih ?_ hs
        split at hmiddle
        · split at hmiddle
          · exact h.strictLayout hmiddle
          · obtain rfl := Option.some.inj hmiddle
            exact h.tolerantLayout
        · exact h.scanToken hmiddle

section

variable {tokens : List Token} (h : scan d chars = some tokens)

include h

private theorem laid_of_scan : Laid d chars chars.length tokens.reverse := by
  obtain ⟨s, hs, rfl⟩ := Option.map_eq_some_iff.mp h
  have hsound : s.Sound d chars := Scan.Sound.scanFrom ⟨Cursor.at_start chars, .nil _⟩ hs
  rw [List.reverse_reverse]
  exact hsound.tokens.mono hsound.cursor.offset_le

theorem stands_of_scan {t : Token} (ht : t ∈ tokens) : t.Stands d chars :=
  (laid_of_scan h).stands t (List.mem_reverse.mpr ht)

/-- The tokens of a text stand in it one behind the other. -/
theorem pairwise_of_scan : tokens.Pairwise fun t later => t.stop.offset ≤ later.start.offset :=
  List.pairwise_reverse.mp (laid_of_scan h).pairwise

end

end PullReview.Python
