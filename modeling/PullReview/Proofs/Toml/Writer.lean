import PullReview.Proofs.Failure
import PullReview.Toml.Writer

/-!
# Line ends in a written configuration

No carriage return is ever written: in texts and keys it is escaped, and nothing else holds one. So
the reading of line ends leaves a written configuration as it is.
-/

namespace PullReview

/-! ### Quoted texts and numbers -/

namespace Text

private theorem return_notMem_append {a b : String} (ha : '\r' ∉ a.toList) (hb : '\r' ∉ b.toList) :
    '\r' ∉ (a ++ b).toList := by
  simp [ha, hb]

private theorem return_notMem_hexPadded (width n : Nat) : '\r' ∉ hexPadded width n := by
  have hdigit : ∀ m < 16, '\r' ≠ hexDigit m := by decide
  induction width generalizing n with
  | zero => simp [hexPadded]
  | succ width ih =>
      have hlast := hdigit (n % 16) (Nat.mod_lt n (by omega))
      simp [hexPadded, ih, hlast]

private theorem return_notMem_escapeCode (n : Nat) : '\r' ∉ escapeCode n := by
  rw [escapeCode]
  repeat' split
  all_goals simp [return_notMem_hexPadded]

private theorem return_notMem_quotedCode {quote : Char} (hquote : quote ≠ '\r') (n : Nat) :
    '\r' ∉ quotedCode quote n := by
  rw [quotedCode]
  split
  · simp [hquote.symm]
  · split
    · exact return_notMem_escapeCode n
    · rename_i hprintable
      simp only [Bool.or_eq_true, Bool.not_eq_true', not_or, Bool.not_eq_false] at hprintable
      intro hmem
      have hchar : '\r' = Char.ofNat n := List.mem_singleton.mp hmem
      have hcode : n = 13 := by
        have hvalid : n.isValidChar := by
          have h := hprintable.2
          simp only [isPrintableCode, Bool.and_eq_true, decide_eq_true_eq] at h
          exact h.1
        have hnat : 13 = (Char.ofNat n).toNat := congrArg Char.toNat hchar
        rw [Char.ofNat, dif_pos hvalid] at hnat
        exact hnat.symm
      subst hcode
      exact absurd hprintable.2 (by decide)

private theorem quoteFor_ne_return (codes : List Nat) : quoteFor codes ≠ '\r' := by
  rw [quoteFor]
  split <;> decide

private theorem return_notMem_quote (s : String) : '\r' ∉ (quote s).toList := by
  have hquote := quoteFor_ne_return (s.toList.map Char.toNat)
  have hbody := return_notMem_quotedCode hquote
  simp only [quote, quoteCodes, String.toList_ofList, List.cons_append, List.mem_cons,
    List.mem_append, List.mem_flatMap, List.not_mem_nil, or_false, not_or]
  exact ⟨hquote.symm, fun ⟨n, _, hn⟩ => hbody n hn, hquote.symm⟩

end Text

namespace Number

open Text (return_notMem_append)

private theorem return_notMem_toString (n : Nat) : '\r' ∉ (toString n).toList := by
  rw [Nat.toString_eq_ofList_toDigits, String.toList_ofList]
  intro hmem
  have hdigit := Nat.isDigit_of_mem_toDigits (by decide) (by decide) hmem
  exact absurd hdigit (by decide)

private theorem return_notMem_toString_int (n : Int) : '\r' ∉ (toString n).toList := by
  cases n with
  | ofNat n => exact return_notMem_toString n
  | negSucc n =>
      change '\r' ∉ ("-" ++ toString (n + 1)).toList
      exact return_notMem_append (by decide) (return_notMem_toString (n + 1))

private theorem return_notMem_zeroPad (width : Nat) {s : String} (h : '\r' ∉ s.toList) :
    '\r' ∉ (zeroPad width s).toList := by
  simp [zeroPad, h, List.mem_replicate]

private theorem return_notMem_pointed {ds : String} (h : '\r' ∉ ds.toList) (point : Int) :
    '\r' ∉ (pointed ds point).toList := by
  have hpad (width : Nat) := return_notMem_zeroPad width h
  have hzeros (width : Nat) : '\r' ∉ (zeroPad width "").toList :=
    return_notMem_zeroPad width (by simp)
  have htake (n : Nat) : '\r' ∉ ds.toList.take n := fun hmem => h (List.mem_of_mem_take hmem)
  have hdrop (n : Nat) : '\r' ∉ ds.toList.drop n := fun hmem => h (List.mem_of_mem_drop hmem)
  rw [pointed]
  split
  · simp [hpad]
  · dsimp only
    split
    · simp [h, hzeros]
    · simp [htake, hdrop]

private theorem return_notMem_scientific (width : Nat) {ds : String} (h : '\r' ∉ ds.toList)
    (point : Int) : '\r' ∉ (scientific width ds point).toList := by
  have hexponent := return_notMem_zeroPad width (return_notMem_toString (point - 1).natAbs)
  rw [scientific]
  refine return_notMem_append (return_notMem_append (return_notMem_append ?_ (by decide)) ?_)
    hexponent
  · split
    · rename_i d hd
      simpa [hd] using h
    · rename_i d rest _ hd
      rw [hd] at h
      simp only [List.mem_cons, not_or] at h
      simp [h.1, h.2]
    · decide
  · split <;> decide

private theorem return_notMem_plain (x : Float) : '\r' ∉ (plain x).toList := by
  rw [plain]
  split
  · decide
  · split <;> decide
  · split <;> decide
  · rename_i negative m e _ _
    have hdigits := return_notMem_toString (shortest m e).digits
    have hbody (point : Int) : '\r' ∉ (if (decide (point ≤ -4) || decide (16 < point)) = true then
        scientific 2 (toString (shortest m e).digits) point
        else pointed (toString (shortest m e).digits) point).toList := by
      split
      · exact return_notMem_scientific 2 hdigits point
      · exact return_notMem_pointed hdigits point
    exact return_notMem_append (by split <;> decide) (hbody _)

end Number

namespace Toml

/-! ### Texts and keys -/

private theorem mem_of_mem_escapeParts {cs part : List Char} {c : Char}
    (hpart : part ∈ escapeParts cs) (hc : c ∈ part) : c ∈ cs := by
  fun_induction escapeParts cs generalizing part with
  | case1 =>
      rw [List.mem_singleton.mp hpart] at hc
      cases hc
  | case2 rest ih =>
      rcases List.mem_cons.mp hpart with rfl | hpart
      · cases hc
      · simp [ih hpart hc]
  | case3 d rest _ first parts hparts ih =>
      rcases List.mem_cons.mp hpart with rfl | hpart
      · rcases List.mem_cons.mp hc with rfl | hc
        · simp
        · simp [ih (hparts ▸ List.mem_cons_self) hc]
      · simp [ih (hparts ▸ List.mem_cons_of_mem _ hpart) hc]
  | case4 d rest _ hparts ih =>
      rw [List.mem_singleton.mp hpart] at hc
      simp [List.mem_singleton.mp hc]

private theorem mem_of_mem_halveBackslashes {cs : List Char} {c : Char}
    (h : c ∈ halveBackslashes cs) : c ∈ cs := by
  fun_induction halveBackslashes cs with
  | case1 rest ih => rcases List.mem_cons.mp h with rfl | h <;> simp_all
  | case2 d rest _ ih => rcases List.mem_cons.mp h with rfl | h <;> simp_all
  | case3 => exact h

private theorem return_notMem_joint (part : List Char) : '\r' ∉ joint part := by
  rw [joint]
  repeat' split
  all_goals decide

private theorem return_notMem_joinParts {fuel : Nat} {parts : List (List Char)} {cs : List Char}
    (hparts : ∀ part ∈ parts, '\r' ∉ part) (h : joinParts fuel parts = .ok cs) : '\r' ∉ cs := by
  -- what is joined are halved parts, joints and the parts that follow
  have hhalve (part : List Char) (hpart : '\r' ∉ part) : '\r' ∉ halveBackslashes part :=
    fun hmem => hpart (mem_of_mem_halveBackslashes hmem)
  fun_induction joinParts fuel parts with
  | case1 => rw [← Except.ok.inj h]; simp
  | case2 fuel part => rw [← Except.ok.inj h]; exact hparts part (by simp)
  | case3 part rest => rw [← Except.ok.inj h]; exact hparts part (by simp)
  | case4 => cases h
  | case5 => cases h
  | case6 fuel next third rest part _ ih =>
      apply ih _ h
      intro p hp
      rcases List.mem_cons.mp hp with rfl | hp
      · have hnext := hhalve next (hparts next (by simp))
        have hthird := hparts third (by simp)
        simp [part, hnext, hthird, return_notMem_joint]
      · exact hparts p (by simp [hp])
  | case7 fuel first next rest _ _ part ih =>
      apply ih _ h
      intro p hp
      rcases List.mem_cons.mp hp with rfl | hp
      · have hfirst := hhalve first (hparts first (by simp))
        have hnext := hparts next (by simp)
        simp [part, hfirst, hnext, return_notMem_joint]
      · exact hparts p (by simp [hp])

private theorem return_notMem_escapeDouble {cs : List Char} (h : '\r' ∉ cs) :
    '\r' ∉ quotedBody.escapeDouble cs := by
  fun_induction quotedBody.escapeDouble cs <;> simp_all

private theorem return_notMem_quotedBody (s : String) : '\r' ∉ quotedBody s := by
  have hquote := Text.return_notMem_quote s
  have hbody : '\r' ∉ ((Text.quote s).toList.drop 1).dropLast :=
    fun hmem => hquote (List.mem_of_mem_drop (List.dropLast_subset _ hmem))
  rw [quotedBody]
  split
  · exact return_notMem_escapeDouble hbody
  · exact hbody

private theorem return_notMem_quoted {s text : String} (h : quoted s = .ok text) :
    '\r' ∉ text.toList := by
  obtain ⟨cs, hcs, h⟩ := bind_ok h
  have hparts : ∀ part ∈ escapeParts (quotedBody s), '\r' ∉ part :=
    fun part hpart hmem => return_notMem_quotedBody s (mem_of_mem_escapeParts hpart hmem)
  have hbody := return_notMem_joinParts hparts hcs
  rw [← Except.ok.inj h]
  simp [hbody]

private theorem return_notMem_keyText {key text : String} (h : keyText key = .ok text) :
    '\r' ∉ text.toList := by
  rw [keyText] at h
  split at h
  · rename_i hbare
    rw [← Except.ok.inj h]
    intro hmem
    simp only [isBareKey, Bool.and_eq_true, List.all_eq_true] at hbare
    exact absurd (hbare.2 _ hmem) (by decide)
  · exact return_notMem_quoted h

/-! ### Values -/

private theorem mem_of_mem_shortExponent {cs : List Char} {c : Char}
    (h : c ∈ floatText.shortExponent cs) : c ∈ cs := by
  fun_induction floatText.shortExponent cs with
  | case1 rest => simp only [List.mem_cons] at h ⊢; grind
  | case2 rest => simp only [List.mem_cons] at h ⊢; grind
  | case3 d rest _ _ ih => simp only [List.mem_cons] at h ⊢; exact h.imp_right ih
  | case4 => exact h

private theorem return_notMem_floatText (x : Float) : '\r' ∉ (floatText x).toList := by
  rw [floatText, String.toList_ofList]
  exact fun hmem => Number.return_notMem_plain x (mem_of_mem_shortExponent hmem)

private theorem return_notMem_padded (width n : Nat) : '\r' ∉ (padded width n).toList :=
  Number.return_notMem_zeroPad width (Number.return_notMem_toString n)

private theorem return_notMem_day (d : Day) : '\r' ∉ d.text.toList := by
  simp [Day.text, return_notMem_padded]

private theorem return_notMem_clock (c : Clock) : '\r' ∉ c.text.toList := by
  rw [Clock.text]
  split <;> simp [return_notMem_padded]

private theorem return_notMem_offsetText (minutes : Int) : '\r' ∉ (offsetText minutes).toList := by
  rw [offsetText]
  split <;> simp [return_notMem_padded]

private theorem return_notMem_moment (m : Moment) : '\r' ∉ m.text.toList := by
  have hday := return_notMem_day
  have hclock := return_notMem_clock
  unfold Moment.text
  split
  · simp [hday, hclock]
  · cases m with
    | date d => exact hday d
    | time c => exact hclock c
    | both d c offset =>
        cases offset with
        | none => simp [Moment.textWith, hday, hclock]
        | some minutes =>
            simp [Moment.textWith, hday, hclock, return_notMem_offsetText]

private theorem return_notMem_names {members : Members} {texts : List String}
    (h : names members = .ok texts) : ∀ t ∈ texts, '\r' ∉ t.toList := by
  induction members generalizing texts with
  | nil =>
      rw [names] at h
      rw [← Except.ok.inj h]
      simp
  | cons m rest ih =>
      rw [names] at h
      obtain ⟨text, htext, h⟩ := bind_ok h
      obtain ⟨texts, htexts, h⟩ := bind_ok h
      have hfirst := return_notMem_quoted htext
      have hrest := ih htexts
      rw [← Except.ok.inj h]
      simpa [hfirst] using hrest

mutual

private theorem return_notMem_value : ∀ (v : Value) {text : String}, value v = .ok text →
    '\r' ∉ text.toList
  | .null, _, h => by
      rw [value] at h
      rw [← Except.ok.inj h]
      decide
  | .bool b, _, h => by
      rw [value] at h
      rw [← Except.ok.inj h]
      cases b <;> decide
  | .int n, _, h => by
      rw [value] at h
      rw [← Except.ok.inj h]
      exact Number.return_notMem_toString_int n
  | .float x, _, h => by
      rw [value] at h
      rw [← Except.ok.inj h]
      exact return_notMem_floatText x
  | .str s, _, h => by
      rw [value] at h
      exact return_notMem_quoted h
  | .moment m, _, h => by
      rw [value] at h
      rw [← Except.ok.inj h]
      exact return_notMem_moment m
  | .arr items, _, h => by
      rw [value] at h
      obtain ⟨texts, htexts, h⟩ := bind_ok h
      have hall := return_notMem_values items htexts
      rw [← Except.ok.inj h]
      simpa using hall
  | .obj members, _, h => by
      rw [value] at h
      obtain ⟨texts, htexts, h⟩ := bind_ok h
      have hall := return_notMem_names htexts
      rw [← Except.ok.inj h]
      simpa using hall

private theorem return_notMem_values : ∀ (items : List Value) {texts : List String},
    values items = .ok texts → ∀ t ∈ texts, '\r' ∉ t.toList
  | [], _, h => by
      rw [values] at h
      rw [← Except.ok.inj h]
      simp
  | v :: rest, _, h => by
      rw [values] at h
      obtain ⟨text, htext, h⟩ := bind_ok h
      obtain ⟨texts, htexts, h⟩ := bind_ok h
      have hfirst := return_notMem_value v htext
      have hrest := return_notMem_values rest htexts
      rw [← Except.ok.inj h]
      simpa [hfirst] using hrest

end

/-! ### Tables -/

private theorem return_notMem_assignment {key : String} {v : Value} {text : String}
    (h : assignment key v = .ok text) : '\r' ∉ text.toList := by
  obtain ⟨k, hk, h⟩ := bind_ok h
  obtain ⟨written, hwritten, h⟩ := bind_ok h
  have hkey := return_notMem_keyText hk
  have hvalue := return_notMem_value v hwritten
  rw [← Except.ok.inj h]
  simp [hkey, hvalue]

private theorem return_notMem_plainLine {key : String} {v : Value} {text : String}
    (h : plainLine key v = .ok text) : '\r' ∉ text.toList := by
  have hempty (h : Except.ok "" = (Except.ok text : Except WriteFault String)) :
      '\r' ∉ text.toList := by
    rw [← Except.ok.inj h]
    simp
  cases v with
  | null | obj => exact hempty h
  | arr items =>
      rw [plainLine] at h
      split at h
      · exact hempty h
      · exact return_notMem_assignment h
  | bool | int | float | str | moment => exact return_notMem_assignment h

private theorem return_notMem_join_mapM {α : Type} {f : α → Except WriteFault String} {xs : List α}
    {texts : List String} (hf : ∀ x ∈ xs, ∀ {text}, f x = .ok text → '\r' ∉ text.toList)
    (h : xs.mapM f = .ok texts) : '\r' ∉ (String.join texts).toList := by
  rw [String.toList_join, List.mem_flatMap]
  rintro ⟨text, htext, hmem⟩
  obtain ⟨x, hx, hdone⟩ := mem_mapM_ok h text htext
  exact hf x hx hdone hmem

private theorem return_notMem_plainLines {members : Members} {text : String}
    (h : plainLines members = .ok text) : '\r' ∉ text.toList := by
  obtain ⟨lines, hlines, h⟩ := bind_ok h
  rw [← Except.ok.inj h]
  exact return_notMem_join_mapM (fun _ _ => return_notMem_plainLine) hlines

/-- No name of these tables holds a carriage return. -/
def Tables.NoReturn (tables : Tables) : Prop :=
  ∀ t ∈ tables, '\r' ∉ t.1.toList

private theorem noReturn_subtables {members : Members} {tables : Tables}
    (h : subtables members = .ok tables) : tables.NoReturn := by
  intro t ht
  obtain ⟨⟨key, v⟩, _, hdone⟩ := mem_filterMapM_ok h t ht
  cases v with
  | obj inner =>
      obtain ⟨k, hk, hdone⟩ := bind_ok hdone
      have hname := return_notMem_keyText hk
      cases hdone
      exact hname
  | null | bool | int | float | str | moment | arr => cases hdone

/-- Under a name without a carriage return, neither the text nor the names in it hold one. -/
def Body.NoReturn (body : Body) : Prop :=
  ∀ name members text inner, '\r' ∉ name.toList → body name members = .ok (text, inner) →
    '\r' ∉ text.toList ∧ Tables.NoReturn inner

private theorem noReturn_itemTable {body : Body} (hbody : body.NoReturn)
    {t : String × Members} (ht : '\r' ∉ t.1.toList) {text : String} {inner : Tables}
    (h : itemTable body t = .ok (text, inner)) : '\r' ∉ text.toList ∧ inner.NoReturn := by
  obtain ⟨⟨own, tables⟩, hown, h⟩ := bind_ok h
  obtain ⟨htext, htables⟩ := hbody _ _ _ _ ht hown
  cases h
  refine ⟨?_, htables⟩
  split
  · simp
  · simp [ht, htext]

private theorem return_notMem_itemTables {body : Body} (hbody : body.NoReturn) {depth : Nat}
    {tables : Tables} (htables : tables.NoReturn) {text : String}
    (h : itemTables body depth tables = .ok text) : '\r' ∉ text.toList := by
  induction depth generalizing tables text with
  | zero =>
      rw [itemTables] at h
      rw [← Except.ok.inj h]
      simp
  | succ depth ih =>
      rw [itemTables] at h
      obtain ⟨found, hfound, h⟩ := bind_ok h
      obtain ⟨deeper, hdeeper, h⟩ := bind_ok h
      have hitem : ∀ f ∈ found, '\r' ∉ f.1.toList ∧ Tables.NoReturn f.2 := by
        intro f hf
        obtain ⟨t, ht, hdone⟩ := mem_mapM_ok hfound f hf
        exact noReturn_itemTable hbody (htables t ht) hdone
      have hnext : Tables.NoReturn (found.flatMap (·.2)) := by
        intro t ht
        obtain ⟨f, hf, htf⟩ := List.mem_flatMap.mp ht
        exact (hitem f hf).2 t htf
      have hrest := ih hnext hdeeper
      rw [← Except.ok.inj h]
      refine Text.return_notMem_append ?_ hrest
      rw [String.toList_join, List.mem_flatMap]
      rintro ⟨line, hline, hmem⟩
      obtain ⟨f, hf, rfl⟩ := List.mem_map.mp hline
      exact (hitem f hf).1 hmem

private theorem return_notMem_tableItem {body : Body} (hbody : body.NoReturn) {depth : Nat}
    {name : String} (hname : '\r' ∉ name.toList) {item : Value} {text : String}
    (h : tableItem body depth name item = .ok text) : '\r' ∉ text.toList := by
  obtain ⟨⟨own, tables⟩, hown, h⟩ := bind_ok h
  obtain ⟨inner, hinner, h⟩ := bind_ok h
  have hitem : '\r' ∉ own.toList ∧ tables.NoReturn := by
    cases item with
    | obj members => exact hbody _ _ _ _ hname hown
    | null | bool | int | float | str | moment | arr =>
        cases hown
        exact ⟨by simp, by simp [Tables.NoReturn]⟩
  have htables := return_notMem_itemTables hbody hitem.2 hinner
  rw [← Except.ok.inj h]
  split <;> simp [hname, hitem.1, htables]

private theorem return_notMem_tableList {body : Body} (hbody : body.NoReturn) {depth : Nat}
    {above : String} (habove : '\r' ∉ above.toList) {key : String} {v : Value} {text : String}
    (h : tableList body depth above key v = .ok text) : '\r' ∉ text.toList := by
  have hempty (h : Except.ok "" = (Except.ok text : Except WriteFault String)) :
      '\r' ∉ text.toList := by
    rw [← Except.ok.inj h]
    simp
  cases v with
  | arr items =>
      rw [tableList] at h
      split at h
      · obtain ⟨k, hk, h⟩ := bind_ok h
        obtain ⟨texts, htexts, h⟩ := bind_ok h
        have hname := Text.return_notMem_append habove (return_notMem_keyText hk)
        rw [← Except.ok.inj h]
        exact return_notMem_join_mapM (fun _ _ => return_notMem_tableItem hbody hname) htexts
      · exact hempty h
  | null | bool | int | float | str | moment | obj => exact hempty h

private theorem noReturn_tableBody (depth : Nat) : Body.NoReturn (tableBody depth) := by
  induction depth with
  | zero =>
      intro name members text inner _ h
      rw [tableBody] at h
      cases h
      exact ⟨by simp, by simp [Tables.NoReturn]⟩
  | succ depth ih =>
      intro name members text inner hname h
      rw [tableBody] at h
      -- lists of tables are written by the body one level down, which is clean by induction
      obtain ⟨lists, hlists, h⟩ := bind_ok h
      obtain ⟨tables, htables, h⟩ := bind_ok h
      obtain ⟨plain, hplain, h⟩ := bind_ok h
      have habove : '\r' ∉ (if name == "" then "" else name ++ ".").toList := by
        split
        · simp
        · simp [hname]
      have hjoined := return_notMem_join_mapM (fun _ _ => return_notMem_tableList ih habove) hlists
      cases h
      refine ⟨Text.return_notMem_append (return_notMem_plainLines hplain) hjoined, ?_⟩
      intro t ht
      obtain ⟨u, hu, rfl⟩ := List.mem_map.mp ht
      exact Text.return_notMem_append habove (noReturn_subtables htables u hu)

private theorem noReturn_addTable {body : Body} (hbody : body.NoReturn) {text : String}
    {next : Tables} (htext : '\r' ∉ text.toList) (hnext : next.NoReturn) {t : String × Members}
    (ht : '\r' ∉ t.1.toList) {text' : String} {next' : Tables}
    (h : addTable body (text, next) t = .ok (text', next')) :
    '\r' ∉ text'.toList ∧ next'.NoReturn := by
  obtain ⟨⟨own, inner⟩, hown, h⟩ := bind_ok h
  obtain ⟨hownText, hinner⟩ := hbody _ _ _ _ ht hown
  cases h
  constructor
  · have hspaced : '\r' ∉
        (if text != "" && !text.endsWith "\n\n" then text ++ "\n" else text).toList := by
      split <;> simp [htext]
    split
    · simp only [String.toList_append, List.mem_append, not_or]
      exact ⟨⟨⟨⟨hspaced, by decide⟩, ht⟩, by decide⟩, hownText⟩
    · exact htext
  · intro u hu
    rcases List.mem_append.mp hu with hu | hu
    · exact hnext u hu
    · exact hinner u hu

private theorem noReturn_foldlM_addTable {body : Body} (hbody : body.NoReturn) {tables : Tables}
    (htables : tables.NoReturn) {text : String} {next : Tables} (htext : '\r' ∉ text.toList)
    (hnext : next.NoReturn) {text' : String} {next' : Tables}
    (h : tables.foldlM (addTable body) (text, next) = .ok (text', next')) :
    '\r' ∉ text'.toList ∧ next'.NoReturn := by
  induction tables generalizing text next with
  | nil =>
      rw [List.foldlM_nil] at h
      cases h
      exact ⟨htext, hnext⟩
  | cons t rest ih =>
      rw [List.foldlM_cons] at h
      obtain ⟨⟨text₁, next₁⟩, hstep, h⟩ := bind_ok h
      have hrest : Tables.NoReturn rest := fun u hu => htables u (List.mem_cons_of_mem _ hu)
      obtain ⟨htext₁, hnext₁⟩ :=
        noReturn_addTable hbody htext hnext (htables t List.mem_cons_self) hstep
      exact ih hrest htext₁ hnext₁ h

private theorem return_notMem_addLevels {body : Body} (hbody : body.NoReturn) {depth : Nat}
    {text text' : String} {tables : Tables} (htext : '\r' ∉ text.toList)
    (htables : tables.NoReturn) (h : addLevels body depth text tables = .ok text') :
    '\r' ∉ text'.toList := by
  induction depth generalizing text tables with
  | zero =>
      have hsame : text = text' := by
        cases tables with
        | nil => exact Except.ok.inj h
        | cons t rest => exact Except.ok.inj h
      exact hsame ▸ htext
  | succ depth ih =>
      cases tables with
      | nil => exact Except.ok.inj h ▸ htext
      | cons t rest =>
          rw [addLevels] at h
          · obtain ⟨⟨text₁, next⟩, hlevel, h⟩ := bind_ok h
            obtain ⟨htext₁, hnext⟩ :=
              noReturn_foldlM_addTable hbody htables htext (by simp [Tables.NoReturn]) hlevel
            exact ih htext₁ hnext h
          · simp

/-- A written configuration holds no carriage return. -/
theorem return_notMem_render {members : Members} {text : String}
    (h : render members = .ok text) : '\r' ∉ text.toList := by
  obtain ⟨⟨top, tables⟩, htop, h⟩ := bind_ok h
  have hbody := noReturn_tableBody (depth (.obj members))
  obtain ⟨htext, htables⟩ := hbody _ _ _ _ (by simp) htop
  exact return_notMem_addLevels hbody htext htables h

end Toml

end PullReview
