import PullReview.Json.Reader

/-!
# Why JSON cannot be read

A reader leaves an end of its text. A number is too long for it only if the text has a run of more
digits than the limit.
-/

namespace PullReview.Json

/-- A text has a run of so many digits, and they are over the limit. -/
def LongRun (n : Nat) (cs : List Char) : Prop :=
  Number.digitLimit < n ∧ ∃ run, run <:+: cs ∧ run.length = n ∧ ∀ c ∈ run, c.isDigit = true

theorem LongRun.of_infix {n : Nat} {part cs : List Char} (hpart : part <:+: cs)
    (h : LongRun n part) : LongRun n cs := by
  obtain ⟨hlimit, run, hrun, hlength, hdigits⟩ := h
  exact ⟨hlimit, run, hrun.trans hpart, hlength, hdigits⟩

/-- What a reader may do with a text: leave an end of it, or give up. -/
def Reads (cs : List Char) : Except ReadError (Json × List Char) → Prop
  | .ok r => r.2 <:+ cs
  | .error .malformed => True
  | .error (.tooManyDigits e) => LongRun e.count cs

private theorem Reads.of_suffix {rest cs : List Char} {r : Except ReadError (Json × List Char)}
    (hrest : rest <:+ cs) (h : Reads rest r) : Reads cs r := by
  match r, h with
  | .ok _, h => exact List.IsSuffix.trans h hrest
  | .error .malformed, _ => trivial
  | .error (.tooManyDigits _), h => exact LongRun.of_infix hrest.isInfix h

theorem Reads.bind {cs : List Char} {x : Except ReadError (Json × List Char)}
    {f : Json × List Char → Except ReadError (Json × List Char)} (hx : Reads cs x)
    (hf : ∀ r, r.2 <:+ cs → Reads cs (f r)) : Reads cs (x >>= f) := by
  match x, hx with
  | .ok r, hx => exact hf r hx
  | .error .malformed, _ => trivial
  | .error (.tooManyDigits _), hx => exact hx

private theorem skipBlanks_suffix (cs : List Char) : skipBlanks cs <:+ cs :=
  List.dropWhile_suffix _

private theorem suffix_of_skipBlanks {c : Char} {cs rest : List Char}
    (h : skipBlanks cs = c :: rest) : rest <:+ cs := by
  have hskip := skipBlanks_suffix cs
  rw [h] at hskip
  exact (List.suffix_cons c rest).trans hskip

private theorem readString_suffix {acc : List Char} {high : Option Nat} {cs s rest : List Char}
    (h : readString acc high cs = some (s, rest)) : rest <:+ cs := by
  have hcons {more : List Char} (front : List Char) (hmore : rest <:+ more) :
      rest <:+ front ++ more := hmore.trans (List.suffix_append front more)
  fun_induction readString acc high cs with
  | case1 | case2 | case8 | case12 => cases h
  | case3 _ a b c d _ _ _ _ _ ih | case4 _ a b c d _ _ _ _ _ _ ih
  | case5 _ a b c d _ _ _ _ _ _ ih | case6 _ a b c d _ _ _ _ ih
  | case7 _ a b c d _ _ _ _ ih => exact hcons ['\\', 'u', a, b, c, d] (ih h)
  | case9 _ c _ _ _ _ _ ih | case10 _ c _ _ _ _ ih => exact hcons ['\\', c] (ih h)
  | case11 _ _ c =>
      rw [← (Prod.mk.inj (Option.some.inj h)).2]
      exact List.suffix_cons c _
  | case13 _ _ c _ _ _ _ _ _ ih => exact hcons [c] (ih h)

private theorem readWord_suffix {cs : List Char} {r : Json × List Char} (h : readWord cs = some r) :
    r.2 <:+ cs := by
  obtain ⟨w, _, rfl⟩ := Option.map_eq_some_iff.mp h
  exact List.drop_suffix _ _

private theorem afterSign_suffix (cs : List Char) : afterSign cs <:+ cs := by
  rw [afterSign]
  split
  · exact List.drop_suffix 1 cs
  · exact List.suffix_rfl

private theorem afterFraction_suffix (cs : List Char) : afterFraction cs <:+ cs := by
  simp only [afterFraction]
  split
  · exact List.suffix_rfl
  · exact List.drop_suffix _ cs

private theorem afterExponent_suffix (cs : List Char) : afterExponent cs <:+ cs := by
  simp only [afterExponent]
  split
  · exact List.suffix_rfl
  · exact List.drop_suffix _ cs

private theorem wholeDigits_prefix (cs : List Char) :
    wholeDigits cs <+: cs.takeWhile Char.isDigit := by
  simp only [wholeDigits]
  split
  · exact List.take_prefix 1 _
  · exact List.prefix_rfl

/-- The limit of `read`. -/
private abbrev readLimit : Option Nat := some Number.digitLimit

private theorem reads_readNumber (cs : List Char) : Reads cs (readNumber readLimit cs) := by
  have hwhole := wholeDigits_prefix (afterSign cs)
  have hrest : afterExponent (afterFraction ((afterSign cs).drop
      (wholeDigits (afterSign cs)).length)) <:+ cs :=
    (afterExponent_suffix _).trans ((afterFraction_suffix _).trans
      ((List.drop_suffix _ _).trans (afterSign_suffix cs)))
  simp only [readNumber]
  split
  · trivial
  · split
    · exact hrest
    · split
      · rename_i hlimit
        have hrun : wholeDigits (afterSign cs) <:+: cs :=
          (hwhole.trans (List.takeWhile_prefix _)).isInfix.trans (afterSign_suffix cs).isInfix
        refine ⟨by simpa [Number.within] using hlimit, _, hrun, rfl, fun c hc => ?_⟩
        exact List.all_eq_true.mp List.all_takeWhile c (hwhole.subset hc)
      · exact hrest

section

-- each reader goes on with an end of its text, so its rest and its runs are those of the text
variable {bound : Nat}

private theorem reads_readValue_succ
    (hitems : ∀ acc cs, Reads cs (readItems readLimit bound acc cs))
    (hmembers : ∀ acc cs, Reads cs (readMembers readLimit bound acc cs)) (cs : List Char) :
    Reads cs (readValue readLimit (bound + 1) cs) := by
  unfold readValue
  split
  · rename_i rest
    split
    · rename_i hstring
      exact (readString_suffix hstring).trans (List.suffix_cons _ rest)
    · trivial
  · rename_i rest
    have hblanks := (skipBlanks_suffix rest).trans (List.suffix_cons '[' rest)
    split
    · rename_i hend
      exact (suffix_of_skipBlanks hend).trans (List.suffix_cons '[' rest)
    · exact (hitems [] (skipBlanks rest)).of_suffix hblanks
  · rename_i rest
    have hblanks := (skipBlanks_suffix rest).trans (List.suffix_cons '\x7b' rest)
    split
    · rename_i hend
      exact (suffix_of_skipBlanks hend).trans (List.suffix_cons '\x7b' rest)
    · exact (hmembers [] (skipBlanks rest)).of_suffix hblanks
  · split
    · rename_i hword
      exact readWord_suffix hword
    · exact reads_readNumber cs

private theorem reads_readItems_succ (hvalue : ∀ cs, Reads cs (readValue readLimit bound cs))
    (hitems : ∀ acc cs, Reads cs (readItems readLimit bound acc cs)) (acc : List Json)
    (cs : List Char) :
    Reads cs (readItems readLimit (bound + 1) acc cs) := by
  rw [readItems]
  refine (hvalue cs).bind fun r hr => ?_
  dsimp only
  split
  · rename_i rest hnext
    have hrest := (suffix_of_skipBlanks hnext).trans hr
    exact (hitems _ (skipBlanks rest)).of_suffix ((skipBlanks_suffix rest).trans hrest)
  · rename_i rest hend
    exact (suffix_of_skipBlanks hend).trans hr
  · trivial

private theorem reads_readMembers_succ (hvalue : ∀ cs, Reads cs (readValue readLimit bound cs))
    (hmembers : ∀ acc cs, Reads cs (readMembers readLimit bound acc cs))
    (acc : List (String × Json)) (cs : List Char) :
    Reads cs (readMembers readLimit (bound + 1) acc cs) := by
  unfold readMembers
  split
  · rename_i rest
    split
    · trivial
    · rename_i key rest₁ hkey
      have hrest₁ : rest₁ <:+ '"' :: rest :=
        (readString_suffix hkey).trans (List.suffix_cons _ rest)
      split
      · rename_i rest₂ hcolon
        have hrest₂ := (suffix_of_skipBlanks hcolon).trans hrest₁
        have hblanks := (skipBlanks_suffix rest₂).trans hrest₂
        refine ((hvalue (skipBlanks rest₂)).of_suffix hblanks).bind fun r hr => ?_
        dsimp only
        split
        · rename_i rest₃ hnext
          have hrest₃ := (suffix_of_skipBlanks hnext).trans hr
          exact (hmembers _ (skipBlanks rest₃)).of_suffix ((skipBlanks_suffix rest₃).trans hrest₃)
        · rename_i hend
          exact (suffix_of_skipBlanks hend).trans hr
        · trivial
      · trivial
  · trivial

end

private theorem reads_readValue (bound : Nat) : (∀ cs, Reads cs (readValue readLimit bound cs)) ∧
    (∀ acc cs, Reads cs (readItems readLimit bound acc cs)) ∧
    ∀ acc cs, Reads cs (readMembers readLimit bound acc cs) := by
  induction bound with
  | zero => exact ⟨fun _ => trivial, fun _ _ => trivial, fun _ _ => trivial⟩
  | succ bound ih =>
      obtain ⟨hvalue, hitems, hmembers⟩ := ih
      exact ⟨reads_readValue_succ hitems hmembers, reads_readItems_succ hvalue hitems,
        reads_readMembers_succ hvalue hmembers⟩

/-- A number in a text is too long to be read only if the text has a run of that many digits. -/
theorem longRun_of_read {text : String} {e : Number.TooManyDigits}
    (h : read text = .error (.tooManyDigits e)) : LongRun e.count text.toList := by
  have hvalue := (reads_readValue (text.toList.length + 1)).1 (skipBlanks text.toList)
  rw [read, readWithin] at h
  cases hread : readValue readLimit (text.toList.length + 1) (skipBlanks text.toList) with
  | ok r =>
      rw [hread] at h
      simp only [bind, Except.bind] at h
      split at h <;> cases h
  | error f =>
      rw [hread] at h hvalue
      cases h
      exact LongRun.of_infix (skipBlanks_suffix text.toList).isInfix hvalue

end PullReview.Json
