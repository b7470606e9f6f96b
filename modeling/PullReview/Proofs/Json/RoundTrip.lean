import PullReview.Json.Writer
import PullReview.Proofs.Json.Spelling

/-!
# Reading back what was written

A value without doubles whose objects have every name once is read back from its text, unless one of
its whole numbers has more digits than the limit. The text is in ASCII.
-/

namespace PullReview.Json

/-! ### Texts -/

private theorem isHex_hexDigit {n : Nat} (h : n < 16) : IsHex n (Text.hexDigit n) := by
  rw [Text.hexDigit]
  split
  · exact .inl ⟨‹_›, rfl⟩
  · exact .inr ⟨⟨by omega, h⟩, .inl rfl⟩

private theorem escapeUnit_eq (n : Nat) :
    escapeUnit n = ['\\', 'u', Text.hexDigit (n / 16 / 16 / 16 % 16),
      Text.hexDigit (n / 16 / 16 % 16), Text.hexDigit (n / 16 % 16), Text.hexDigit (n % 16)] := rfl

private theorem spellsUnit_escapeUnit {n : Nat} (h : n < 0x10000) :
    SpellsUnit n (escapeUnit n) := by
  rw [escapeUnit_eq, show n / 16 / 16 / 16 % 16 = n / 0x1000 by omega,
    show n / 16 / 16 % 16 = n / 0x100 % 16 by omega]
  exact .digits (isHex_hexDigit (by omega)) (isHex_hexDigit (by omega)) (isHex_hexDigit (by omega))
    (isHex_hexDigit (by omega))

private theorem spellsChar_escapeChar (c : Char) : SpellsChar c (escapeChar c) := by
  have hbounds := toNat_bounds c
  have hnamed {x letter : Char} (h : c = x) (hletter : (letter, x) ∈ escapes) :
      SpellsChar c ['\\', letter] := .escape (h ▸ hletter)
  have hchar {x : Char} (h : (c.toNat == x.toNat) = true) : c = x :=
    Char.toNat_inj.mp (eq_of_beq h)
  unfold escapeChar
  dsimp only
  split
  · exact hnamed (x := '"') (eq_of_beq ‹_›) (by decide)
  split
  · exact hnamed (x := '\\') (eq_of_beq ‹_›) (by decide)
  split
  · exact hnamed (x := '\n') (hchar ‹_›) (by decide)
  split
  · exact hnamed (x := '\r') (hchar ‹_›) (by decide)
  split
  · exact hnamed (x := '\t') (hchar ‹_›) (by decide)
  split
  · exact hnamed (x := '\x0c') (hchar ‹_›) (by decide)
  split
  · exact hnamed (x := '\x08') (hchar ‹_›) (by decide)
  split
  · rename_i hquote hslash _ _ _ _ _ h
    simp only [Bool.and_eq_true, decide_eq_true_eq] at h
    exact .plain h.1 (by simpa using hquote) (by simpa using hslash)
  split
  · rename_i h
    exact .unit (spellsUnit_escapeUnit h)
  · rename_i h
    exact .pair (spellsUnit_escapeUnit (by omega)) (spellsUnit_escapeUnit (by omega))
      ⟨by omega, by omega⟩ ⟨by omega, by omega⟩ (by omega)

private theorem spellsText_escaped (s : List Char) : SpellsText s (s.flatMap escapeChar) := by
  induction s with
  | nil => exact .nil
  | cons c s ih => exact .cons (spellsChar_escapeChar c) ih

private theorem readString_quoted (s acc tail : List Char) :
    readString acc none (s.flatMap escapeChar ++ '"' :: tail) = some (s.reverse ++ acc, tail) :=
  readString_of_spellsText (spellsText_escaped s) acc tail

/-! ### Whole numbers -/

/-- What may stand behind a value. -/
def Ends (rest : List Char) : Prop := ∀ c ∈ rest.head?, c = ',' ∨ c = ']' ∨ c = '\x7d'

def sign (n : Int) : List Char := if n < 0 then ['-'] else []

theorem toList_toString (n : Int) : (toString n).toList = sign n ++ digits n := by
  have hrepr (m : Nat) : m.repr.toList = Nat.toDigits 10 m := by
    rw [← Nat.toString_eq_repr, Nat.toString_eq_ofList_toDigits, String.toList_ofList]
  rw [Int.toString_eq_repr, Int.repr_eq_if, sign, digits]
  split
  · rename_i h
    rw [hrepr, if_neg (by omega), show n.toNat = n.natAbs by omega, List.nil_append]
  · rename_i h
    rw [String.toList_append, hrepr, if_pos (by omega), show (-n).toNat = n.natAbs by omega]
    rfl

theorem isDigit_of_mem_digits {n : Int} {c : Char} (h : c ∈ digits n) : c.isDigit = true :=
  Nat.isDigit_of_mem_toDigits (by decide) (by decide) h

private theorem digits_ne_nil (n : Int) : digits n ≠ [] := Nat.toDigits_ne_nil

private theorem head?_toDigits {n : Nat} (h : 0 < n) : (Nat.toDigits 10 n).head? ≠ some '0' := by
  induction n using Nat.strongRecOn with
  | ind n ih =>
      by_cases hn : n < 10
      · have hall : ∀ k : Fin 10, 0 < k.val → [k.val.digitChar].head? ≠ some '0' := by decide
        rw [Nat.toDigits_of_lt_base hn]
        exact hall ⟨n, hn⟩ h
      · have hrest := ih (n / 10) (by omega) (by omega)
        obtain ⟨c, cs, hcs⟩ :=
          List.exists_cons_of_ne_nil (Nat.toDigits_ne_nil (n := n / 10) (b := 10))
        rw [Nat.toDigits_of_base_le (by decide) (by omega), hcs]
        rwa [hcs] at hrest

private theorem not_isDigit_of_ends {rest : List Char} (hrest : Ends rest) :
    rest.takeWhile Char.isDigit = [] := by
  cases rest with
  | nil => rfl
  | cons c rest =>
      have hc : c.isDigit = false := by
        rcases hrest c rfl with rfl | rfl | rfl <;> decide
      simp [hc]

private theorem wholeDigits_append {rest : List Char} (hrest : Ends rest) (n : Int) :
    wholeDigits (digits n ++ rest) = digits n := by
  have htake : (digits n ++ rest).takeWhile Char.isDigit = digits n := by
    rw [List.takeWhile_append_of_pos fun c hc => isDigit_of_mem_digits hc,
      not_isDigit_of_ends hrest, List.append_nil]
  rw [wholeDigits, htake]
  by_cases hn : n.natAbs = 0
  · simp [digits, hn]
  · have hhead := head?_toDigits (Nat.pos_of_ne_zero hn)
    simp [digits, hhead]

theorem digitsValue_digits (n : Int) : digitsValue (digits n) = n.natAbs := by
  have hread := Nat.ofDigitChars_toDigits (b := 10) (n := n.natAbs) (by decide) (by decide)
  rw [Nat.ofDigitChars_eq_foldl] at hread
  rw [digitsValue, digits]
  simpa [Nat.mul_comm] using hread

theorem isNegative_toString (n : Int) (rest : List Char) :
    isNegative (sign n ++ (digits n ++ rest)) = decide (n < 0) := by
  obtain ⟨c, cs, hcs⟩ := List.exists_cons_of_ne_nil (digits_ne_nil n)
  have hc : c ≠ '-' := by
    rintro rfl
    have hdigit := isDigit_of_mem_digits (n := n) (hcs ▸ List.mem_cons_self)
    simp at hdigit
  by_cases hn : n < 0 <;> simp [isNegative, sign, hn, hcs, hc]

theorem afterSign_toString (n : Int) (rest : List Char) :
    afterSign (sign n ++ (digits n ++ rest)) = digits n ++ rest := by
  rw [afterSign, isNegative_toString]
  by_cases hn : n < 0 <;> simp [sign, hn]

private theorem after_of_ends {rest : List Char} (hrest : Ends rest) :
    fractionDigits rest = [] ∧ afterFraction rest = rest ∧ exponentDigits rest = [] ∧
      afterExponent rest = rest := by
  cases rest with
  | nil => exact ⟨rfl, rfl, rfl, rfl⟩
  | cons c rest => rcases hrest c rfl with rfl | rfl | rfl <;> exact ⟨rfl, rfl, rfl, rfl⟩

variable {limit : Option Nat}

private theorem readNumber_toString {rest : List Char} (hrest : Ends rest) (n : Int) :
    readNumber limit ((toString n).toList ++ rest) =
      if Number.within limit (digits n).length then .ok (.int n, rest)
      else .error (.tooManyDigits ⟨(digits n).length⟩) := by
  obtain ⟨hfraction, hafter, hexponent, hend⟩ := after_of_ends hrest
  have hvalue : (if n < 0 then -(n.natAbs : Int) else n.natAbs) = n := by omega
  rw [toList_toString, List.append_assoc]
  simp only [readNumber, afterSign_toString, isNegative_toString, wholeDigits_append hrest,
    List.drop_left, hfraction, hafter, hexponent, hend, digitsValue_digits]
  simp only [List.isEmpty_eq_false_iff.mpr (digits_ne_nil n), List.isEmpty_nil, Bool.not_true,
    Bool.or_self, Bool.false_eq_true, if_false, decide_eq_true_eq, hvalue]
  by_cases h : Number.within limit (digits n).length <;> simp [h]

/-! ### Values -/

mutual

/-- Without doubles, and with every name at most once in an object. -/
def isPlain : Json → Bool
  | .float _ => false
  | .arr items => plainItems items
  | .obj members => plainMembers members
  | .null | .bool _ | .int _ | .str _ => true

def plainItems : List Json → Bool
  | [] => true
  | j :: rest => isPlain j && plainItems rest

def plainMembers : List (String × Json) → Bool
  | [] => true
  | (key, j) :: rest => !rest.any (·.1 == key) && isPlain j && plainMembers rest

end

/-- A value that fits is read, and the rest of the text is left; any other has too many digits. -/
def ReadsBack (within : Bool) (value : Json × List Char) (x : Except ReadError (Json × List Char)) :
    Prop :=
  match within with
  | true => x = .ok value
  | false => ∃ e, x = .error (.tooManyDigits e)

theorem ReadsBack.bind {a b : Bool} {value value' : Json × List Char}
    {x : Except ReadError (Json × List Char)}
    {f : Json × List Char → Except ReadError (Json × List Char)} (hx : ReadsBack a value x)
    (hf : ReadsBack b value' (f value)) : ReadsBack (a && b) value' (x >>= f) := by
  cases a with
  | true =>
      obtain rfl : x = .ok value := hx
      exact hf
  | false =>
      obtain ⟨e, rfl⟩ : ∃ e, x = .error (.tooManyDigits e) := hx
      exact ⟨e, rfl⟩

private theorem begins_of_isDigit {c : Char} (h : c.isDigit = true) : Begins c := by
  have hne {x : Char} (hx : x.isDigit = false) : c ≠ x := by
    rintro rfl
    simp [hx] at h
  have hblank : c ≠ ' ' ∧ c ≠ '\t' ∧ c ≠ '\n' ∧ c ≠ '\r' :=
    ⟨hne (by decide), hne (by decide), hne (by decide), hne (by decide)⟩
  exact ⟨by simp [hblank], hne (by decide), hne (by decide)⟩

private theorem toString_head (n : Int) : ∃ c cs, (toString n).toList = c :: cs ∧
    (c.isDigit = true ∨ (c = '-' ∧ ∃ d ds, cs = d :: ds ∧ d.isDigit = true)) := by
  obtain ⟨d, ds, hds⟩ := List.exists_cons_of_ne_nil (digits_ne_nil n)
  have hd : d.isDigit = true := isDigit_of_mem_digits (n := n) (hds ▸ List.mem_cons_self)
  rw [toList_toString, hds, sign]
  split
  · exact ⟨'-', d :: ds, rfl, .inr ⟨rfl, d, ds, rfl, hd⟩⟩
  · exact ⟨d, ds, rfl, .inl hd⟩

private theorem readWord_toString (n : Int) (rest : List Char) :
    readWord ((toString n).toList ++ rest) = none := by
  obtain ⟨c, cs, hcs, hc⟩ := toString_head n
  rw [hcs, readWord, Option.map_eq_none_iff, List.find?_eq_none]
  have hne {x y : Char} (hx : x.isDigit = true) (hy : y.isDigit = false) : y ≠ x := by
    rintro rfl
    simp [hx] at hy
  rcases hc with hc | ⟨rfl, d, ds, rfl, hd⟩
  · simp [words, hne hc]
  · simp [words, hne hd]

private theorem readValue_toString (n : Int) (rest : List Char) (bound : Nat) :
    readValue limit (bound + 1) ((toString n).toList ++ rest) =
      readNumber limit ((toString n).toList ++ rest) := by
  have hword := readWord_toString n rest
  obtain ⟨c, cs, hcs, hc⟩ := toString_head n
  have hne {y : Char} (hy : y.isDigit = false) (hsign : y ≠ '-') : c ≠ y := by
    rintro rfl
    rcases hc with hc | ⟨rfl, _⟩
    · simp [hc] at hy
    · exact hsign rfl
  rw [hcs, List.cons_append] at hword ⊢
  rw [readValue, hword]
  all_goals exact fun _ h => hne (by decide) (by decide) (List.cons.inj h).1

private theorem toList_quoteText (s : String) :
    (quoteText s).toList = '"' :: (s.toList.flatMap escapeChar ++ ['"']) := by
  simp [quoteText]

private theorem toList_compact_arr (items : List Json) : (compact (.arr items)).toList =
    '[' :: ((", ".intercalate (compactItems items)).toList ++ [']']) := by
  rw [compact, String.toList_append, String.toList_append]
  rfl

private theorem toList_compact_obj (members : List (String × Json)) :
    (compact (.obj members)).toList =
    '\x7b' :: ((", ".intercalate (compactMembers members)).toList ++ ['\x7d']) := by
  rw [compact, String.toList_append, String.toList_append]
  rfl

private theorem compact_head {j : Json} (h : isPlain j = true) :
    ∃ c cs, (compact j).toList = c :: cs ∧ Begins c := by
  cases j with
  | float x => cases h
  | null => exact ⟨'n', ['u', 'l', 'l'], rfl, by decide, by decide, by decide⟩
  | bool b =>
      cases b with
      | true => exact ⟨'t', ['r', 'u', 'e'], rfl, by decide, by decide, by decide⟩
      | false => exact ⟨'f', ['a', 'l', 's', 'e'], rfl, by decide, by decide, by decide⟩
  | int n =>
      obtain ⟨c, cs, hcs, hc⟩ := toString_head n
      refine ⟨c, cs, hcs, ?_⟩
      rcases hc with hc | ⟨rfl, _⟩
      · exact begins_of_isDigit hc
      · exact ⟨by decide, by decide, by decide⟩
  | str s => exact ⟨'"', _, toList_quoteText s, by decide, by decide, by decide⟩
  | arr items => exact ⟨'[', _, toList_compact_arr items, by decide, by decide, by decide⟩
  | obj members => exact ⟨'\x7b', _, toList_compact_obj members, by decide, by decide, by decide⟩

private theorem toList_intercalate_comma (t : String) (ts : List String) :
    (", ".intercalate (t :: ts)).toList =
      t.toList ++ ts.flatMap fun t => ',' :: ' ' :: t.toList := by
  rw [String.toList_intercalate]
  induction ts generalizing t with
  | nil => simp
  | cons t' ts ih =>
      have hrest := ih t'
      rw [List.map_cons] at hrest
      rw [List.map_cons, List.map_cons, List.intercalate_cons_cons, hrest]
      simp

/-- A value is read back from its text, whatever may stand behind it. -/
def ValueReadsBack (limit : Option Nat) (j : Json) : Prop :=
  ∀ (bound : Nat) (rest : List Char), Ends rest → (compact j).toList.length < bound →
    ReadsBack (fits limit j) (j, rest) (readValue limit bound ((compact j).toList ++ rest))

/-- The items of a list are read back, up to the bracket behind them. -/
def ItemsReadBack (limit : Option Nat) (items : List Json) : Prop :=
  ∀ (bound : Nat) (acc : List Json) (rest : List Char),
    (", ".intercalate (compactItems items)).toList.length + 1 < bound →
    ReadsBack (fitsItems limit items) (.arr (acc.reverse ++ items), rest)
      (readItems limit bound acc ((", ".intercalate (compactItems items)).toList ++ ']' :: rest))

private theorem itemsReadBack_singleton {j : Json} (hvalue : ValueReadsBack limit j) :
    ItemsReadBack limit [j] := by
  intro bound acc rest hbound
  obtain ⟨bound, rfl⟩ : ∃ b, bound = b + 1 := ⟨bound - 1, by omega⟩
  rw [compactItems, compactItems, toList_intercalate_comma, List.flatMap_nil, List.append_nil] at *
  rw [readItems, fitsItems, fitsItems, ← List.reverse_cons]
  exact (hvalue bound (']' :: rest) (by simp [Ends]) (by omega)).bind rfl

private theorem skipBlanks_compact {j : Json} (h : isPlain j = true) (rest : List Char) :
    skipBlanks (' ' :: ((compact j).toList ++ rest)) = (compact j).toList ++ rest := by
  obtain ⟨c, cs, hcs, hc⟩ := compact_head h
  rw [hcs, List.cons_append]
  exact skipBlanks_of_begins hc (cs ++ rest)

private theorem itemsReadBack_cons {j j' : Json} {items : List Json} (hplain : isPlain j' = true)
    (hvalue : ValueReadsBack limit j) (hitems : ItemsReadBack limit (j' :: items)) :
    ItemsReadBack limit (j :: j' :: items) := by
  intro bound acc rest hbound
  obtain ⟨bound, rfl⟩ : ∃ b, bound = b + 1 := ⟨bound - 1, by omega⟩
  have hmore := hitems bound (j :: acc) rest
  simp only [compactItems, toList_intercalate_comma, List.flatMap_cons, List.length_append,
    List.length_cons, List.append_assoc, List.cons_append] at hbound hmore ⊢
  rw [readItems, fitsItems]
  refine (hvalue bound _ (by simp [Ends]) (by omega)).bind ?_
  change ReadsBack _ _ (readItems limit bound (j :: acc) (skipBlanks (' ' :: _)))
  rw [skipBlanks_compact hplain]
  have hlist : acc.reverse ++ j :: j' :: items = (j :: acc).reverse ++ j' :: items := by simp
  rw [hlist]
  exact hmore (by omega)

/-- The members of an object are read back behind those already there, up to the bracket. -/
def MembersReadBack (limit : Option Nat) (members : List (String × Json)) : Prop :=
  ∀ (bound : Nat) (acc : List (String × Json)) (rest : List Char),
    (∀ m ∈ members, acc.any (·.1 == m.1) = false) →
    (", ".intercalate (compactMembers members)).toList.length + 1 < bound →
    ReadsBack (fitsMembers limit members) (.obj (acc ++ members), rest)
      (readMembers limit bound acc
        ((", ".intercalate (compactMembers members)).toList ++ '\x7d' :: rest))

private theorem toList_member (key : String) (j : Json) :
    (quoteText key ++ ": " ++ compact j).toList =
    (quoteText key).toList ++ ':' :: ' ' :: (compact j).toList := by
  simp

private theorem skipBlanks_quoteText (s : String) (rest : List Char) :
    skipBlanks (' ' :: ((quoteText s).toList ++ rest)) = (quoteText s).toList ++ rest := by
  rw [toList_quoteText]
  rfl

private theorem readMembers_member {j : Json} (hplain : isPlain j = true) (bound : Nat)
    {acc : List (String × Json)} {key : String} (hkey : acc.any (·.1 == key) = false)
    (tail : List Char) :
    readMembers limit (bound + 1) acc
        ((quoteText key).toList ++ ':' :: ' ' :: ((compact j).toList ++ tail)) =
      readValue limit bound ((compact j).toList ++ tail) >>= fun r =>
        afterMember limit bound (acc ++ [(key, r.1)]) r.2 := by
  have hset (value : Json) : setMember acc key value = acc ++ [(key, value)] := by
    simp [setMember, hkey]
  have hcolon : skipBlanks (':' :: ' ' :: ((compact j).toList ++ tail)) =
      ':' :: ' ' :: ((compact j).toList ++ tail) := rfl
  rw [toList_quoteText, List.cons_append, List.append_assoc, List.singleton_append, readMembers,
    readString_quoted, List.append_nil]
  simp only [hcolon, skipBlanks_compact hplain, List.reverse_reverse, String.ofList_toList, hset]
  rfl

private theorem membersReadBack_singleton {j : Json} {key : String} (hplain : isPlain j = true)
    (hvalue : ValueReadsBack limit j) : MembersReadBack limit [(key, j)] := by
  intro bound acc rest hacc hbound
  obtain ⟨bound, rfl⟩ : ∃ b, bound = b + 1 := ⟨bound - 1, by omega⟩
  simp only [compactMembers, toList_intercalate_comma, List.flatMap_nil, toList_member,
    List.length_append, List.length_cons, List.append_assoc, List.cons_append,
    List.append_nil] at hbound ⊢
  rw [readMembers_member hplain bound (hacc _ List.mem_cons_self), fitsMembers, fitsMembers]
  exact (hvalue bound ('\x7d' :: rest) (by simp [Ends]) (by omega)).bind rfl

private theorem membersReadBack_cons {j : Json} {key : String} {m : String × Json}
    {members : List (String × Json)} (hplain : isPlain j = true)
    (hkey : (m :: members).any (·.1 == key) = false) (hvalue : ValueReadsBack limit j)
    (hmembers : MembersReadBack limit (m :: members)) :
    MembersReadBack limit ((key, j) :: m :: members) := by
  intro bound acc rest hacc hbound
  obtain ⟨bound, rfl⟩ : ∃ b, bound = b + 1 := ⟨bound - 1, by omega⟩
  obtain ⟨key', j'⟩ := m
  have hnew : ∀ m ∈ (key', j') :: members, (acc ++ [(key, j)]).any (·.1 == m.1) = false := by
    intro m hm
    rw [List.any_append, hacc m (List.mem_cons_of_mem _ hm), Bool.false_or]
    have hne : m.1 ≠ key := by simpa using List.any_eq_false.mp hkey m hm
    simp [Ne.symm hne]
  have hmore := hmembers bound (acc ++ [(key, j)]) rest hnew
  simp only [compactMembers, toList_intercalate_comma, List.flatMap_cons, toList_member,
    List.length_append, List.length_cons, List.append_assoc, List.cons_append,
    List.nil_append] at hbound hmore ⊢
  rw [readMembers_member hplain bound (hacc _ List.mem_cons_self), fitsMembers]
  refine (hvalue bound _ (by simp [Ends]) (by omega)).bind ?_
  change ReadsBack _ _ (readMembers limit bound (acc ++ [(key, j)]) (skipBlanks (' ' :: _)))
  rw [skipBlanks_quoteText]
  exact hmore (by omega)

private theorem valueReadsBack_scalar {j : Json} {word : List Char}
    (hword : (compact j).toList = word) (hfits : fits limit j = true)
    (hread : ∀ bound rest, readValue limit (bound + 1) (word ++ rest) = .ok (j, rest)) :
    ValueReadsBack limit j := by
  intro bound rest _ hbound
  obtain ⟨bound, rfl⟩ : ∃ b, bound = b + 1 := ⟨bound - 1, by omega⟩
  rw [hword, hfits]
  exact hread bound rest

private theorem valueReadsBack_int (n : Int) : ValueReadsBack limit (.int n) := by
  intro bound rest hrest hbound
  obtain ⟨bound, rfl⟩ : ∃ b, bound = b + 1 := ⟨bound - 1, by omega⟩
  change ReadsBack (Number.within limit _) _
    (readValue limit (bound + 1) ((toString n).toList ++ rest))
  rw [readValue_toString, readNumber_toString hrest]
  cases h : Number.within limit (digits n).length with
  | true => rfl
  | false => exact ⟨_, rfl⟩

private theorem valueReadsBack_str (s : String) : ValueReadsBack limit (.str s) := by
  refine valueReadsBack_scalar (toList_quoteText s) rfl fun bound rest => ?_
  rw [List.cons_append, List.append_assoc, List.singleton_append, readValue, readString_quoted]
  simp

private theorem valueReadsBack_arr {items : List Json} (hplain : plainItems items = true)
    (hitems : items ≠ [] → ItemsReadBack limit items) : ValueReadsBack limit (.arr items) := by
  cases items with
  | nil =>
      have htext : (compact (.arr [])).toList = ['[', ']'] := rfl
      exact valueReadsBack_scalar htext rfl fun _ _ => rfl
  | cons j items =>
      rw [plainItems, Bool.and_eq_true] at hplain
      intro bound rest hrest hbound
      obtain ⟨bound, rfl⟩ : ∃ b, bound = b + 1 := ⟨bound - 1, by omega⟩
      have hread := hitems (List.cons_ne_nil j items) bound [] rest
      obtain ⟨c, cs, hcs, hc⟩ := compact_head hplain.1
      simp only [toList_compact_arr, compactItems, toList_intercalate_comma, hcs,
        List.length_append, List.length_cons, List.length_nil, List.cons_append, List.append_assoc,
        List.nil_append, List.reverse_nil] at hbound hread ⊢
      rw [readValue_openList hc (skipBlanks_of_begins hc _), fits]
      exact hread (by omega)

private theorem valueReadsBack_obj {members : List (String × Json)}
    (hmembers : members ≠ [] → MembersReadBack limit members) :
    ValueReadsBack limit (.obj members) := by
  cases members with
  | nil =>
      have htext : (compact (.obj [])).toList = ['\x7b', '\x7d'] := rfl
      exact valueReadsBack_scalar htext rfl fun _ _ => rfl
  | cons m members =>
      obtain ⟨key, j⟩ := m
      intro bound rest hrest hbound
      obtain ⟨bound, rfl⟩ : ∃ b, bound = b + 1 := ⟨bound - 1, by omega⟩
      have hread := hmembers (List.cons_ne_nil (key, j) members) bound [] rest fun _ _ => rfl
      have hc : Begins '"' := ⟨by decide, by decide, by decide⟩
      simp only [toList_compact_obj, compactMembers, toList_intercalate_comma, toList_member,
        toList_quoteText, List.length_append, List.length_cons, List.length_nil, List.cons_append,
        List.append_assoc, List.nil_append] at hbound hread ⊢
      rw [readValue_openObject hc (skipBlanks_of_begins hc _), fits]
      exact hread (by omega)

mutual

private theorem readValue_compact : ∀ j : Json, isPlain j = true → ValueReadsBack limit j
  | .null, _ => valueReadsBack_scalar (show (compact .null).toList = ['n', 'u', 'l', 'l'] from rfl)
      rfl fun _ _ => rfl
  | .bool true, _ => valueReadsBack_scalar
      (show (compact (.bool true)).toList = ['t', 'r', 'u', 'e'] from rfl) rfl fun _ _ => rfl
  | .bool false, _ => valueReadsBack_scalar
      (show (compact (.bool false)).toList = ['f', 'a', 'l', 's', 'e'] from rfl) rfl fun _ _ => rfl
  | .int n, _ => valueReadsBack_int n
  | .str s, _ => valueReadsBack_str s
  | .arr items, h => valueReadsBack_arr h fun hne => readItems_compact items hne h
  | .obj members, h => valueReadsBack_obj fun hne => readMembers_compact members hne h

private theorem readItems_compact : ∀ items : List Json, items ≠ [] → plainItems items = true →
    ItemsReadBack limit items
  | [], hne, _ => (hne rfl).elim
  | j :: items, _, h => by
      rw [plainItems, Bool.and_eq_true] at h
      have hvalue := readValue_compact j h.1
      have hitems := readItems_compact items
      cases items with
      | nil => exact itemsReadBack_singleton hvalue
      | cons j' items =>
          have hplain := h.2
          rw [plainItems, Bool.and_eq_true] at hplain
          exact itemsReadBack_cons hplain.1 hvalue (hitems (List.cons_ne_nil j' items) h.2)

private theorem readMembers_compact : ∀ members : List (String × Json), members ≠ [] →
    plainMembers members = true → MembersReadBack limit members
  | [], hne, _ => (hne rfl).elim
  | (key, j) :: members, _, h => by
      simp only [plainMembers, Bool.and_eq_true, Bool.not_eq_true'] at h
      have hvalue := readValue_compact j h.1.2
      have hmembers := readMembers_compact members
      cases members with
      | nil => exact membersReadBack_singleton h.1.2 hvalue
      | cons m members =>
          exact membersReadBack_cons h.1.2 h.1.1 hvalue (hmembers (List.cons_ne_nil m members) h.2)

end

/-- A value is read back from its text, if its whole numbers are within the limit. -/
theorem read_compact {j : Json} (h : isPlain j = true) :
    (fits limit j = true → readWithin limit (compact j) = .ok j) ∧
      (fits limit j = false → ∃ e, readWithin limit (compact j) = .error (.tooManyDigits e)) := by
  have hvalue : ReadsBack (fits limit j) _ _ :=
    readValue_compact j h ((compact j).toList.length + 1) [] (by simp [Ends]) (by omega)
  obtain ⟨c, cs, hcs, hc⟩ := compact_head h
  have hskip : skipBlanks (compact j).toList = (compact j).toList := by
    rw [hcs]
    exact skipBlanks_of_begins hc cs
  rw [List.append_nil] at hvalue
  rw [readWithin]
  simp only [hskip]
  constructor
  · intro hfits
    rw [hfits] at hvalue
    rw [show readValue limit _ _ = _ from hvalue]
    rfl
  · intro hfits
    rw [hfits] at hvalue
    obtain ⟨e, he⟩ := hvalue
    rw [he]
    exact ⟨e, rfl⟩

/-! ### Spellings -/

private theorem areBlanks_nil : AreBlanks [] := by simp [AreBlanks]

private theorem areBlanks_blank : AreBlanks [' '] := by simp [AreBlanks]

theorem Spells.item {j : Json} {text before : List Char} (h : Spells j text)
    (hbefore : AreBlanks before) : SpellsItem j (before ++ text) := by
  simpa using SpellsItem.mk hbefore h areBlanks_nil

private theorem toList_intercalate_cons_cons (t t' : String) (ts : List String) :
    (", ".intercalate (t :: t' :: ts)).toList =
      t.toList ++ ',' :: ([' '] ++ (", ".intercalate (t' :: ts)).toList) := by
  simp

theorem spells_compact_str (s : String) : Spells (.str s) (compact (.str s)).toList := by
  change Spells (.str s) (quoteText s).toList
  rw [toList_quoteText]
  exact .text (spellsText_escaped s.toList)

private theorem spellsItems_compactItems {j : Json} {items : List Json} {before : List Char}
    (h : ∀ i ∈ j :: items, Spells i (compact i).toList) (hbefore : AreBlanks before) :
    SpellsItems (j :: items)
      (before ++ (", ".intercalate (compactItems (j :: items))).toList) := by
  induction items generalizing j before with
  | nil =>
      rw [compactItems, compactItems, toList_intercalate_comma, List.flatMap_nil, List.append_nil]
      exact .last ((h j List.mem_cons_self).item hbefore)
  | cons j' items ih =>
      rw [List.forall_mem_cons] at h
      have hrest := ih h.2 areBlanks_blank
      rw [compactItems] at hrest
      rw [compactItems, compactItems, toList_intercalate_cons_cons, ← List.append_assoc]
      exact .next (h.1.item hbefore) hrest

theorem spells_compact_arr {items : List Json} (h : ∀ i ∈ items, Spells i (compact i).toList) :
    Spells (.arr items) (compact (.arr items)).toList := by
  rw [toList_compact_arr]
  cases items with
  | nil => exact .noItems areBlanks_nil
  | cons j items => exact .items (spellsItems_compactItems h areBlanks_nil)

theorem Spells.member {key : String} {j : Json} {text before : List Char} (h : Spells j text)
    (hbefore : AreBlanks before) :
    SpellsMember (key, j) (before ++ ((quoteText key).toList ++ ':' :: ' ' :: text)) := by
  rw [toList_quoteText]
  simpa using SpellsMember.mk hbefore (spellsText_escaped key.toList) areBlanks_nil
    (h.item areBlanks_blank)

private theorem spellsMembers_compactMembers {m : String × Json} {members : List (String × Json)}
    {before : List Char} (h : ∀ i ∈ m :: members, Spells i.2 (compact i.2).toList)
    (hbefore : AreBlanks before) :
    SpellsMembers (m :: members)
      (before ++ (", ".intercalate (compactMembers (m :: members))).toList) := by
  induction members generalizing m before with
  | nil =>
      rw [compactMembers, compactMembers, toList_intercalate_comma, List.flatMap_nil,
        List.append_nil, toList_member]
      exact .last ((h m List.mem_cons_self).member hbefore)
  | cons m' members ih =>
      rw [List.forall_mem_cons] at h
      have hrest := ih h.2 areBlanks_blank
      rw [compactMembers] at hrest
      rw [compactMembers, compactMembers, toList_intercalate_cons_cons, ← List.append_assoc,
        toList_member]
      exact .next (h.1.member hbefore) hrest

theorem spells_compact_obj {members : List (String × Json)}
    (hnames : (members.map Prod.fst).Nodup)
    (h : ∀ i ∈ members, Spells i.2 (compact i.2).toList) :
    Spells (.obj members) (compact (.obj members)).toList := by
  rw [toList_compact_obj]
  cases members with
  | nil => exact .noMembers areBlanks_nil
  | cons m members => exact .members hnames (spellsMembers_compactMembers h areBlanks_nil)

/-! ### Characters -/

/-- Only characters of ASCII that print. -/
def IsAscii (cs : List Char) : Prop := ∀ c ∈ cs, 32 ≤ c.toNat ∧ c.toNat < 127

theorem IsAscii.append {cs ds : List Char} (hcs : IsAscii cs) (hds : IsAscii ds) :
    IsAscii (cs ++ ds) := fun c hc => (List.mem_append.mp hc).elim (hcs c) (hds c)

theorem IsAscii.cons {c : Char} {cs : List Char} (hc : 32 ≤ c.toNat ∧ c.toNat < 127)
    (hcs : IsAscii cs) : IsAscii (c :: cs) := List.forall_mem_cons.mpr ⟨hc, hcs⟩

private theorem isAscii_escapeUnit (n : Nat) : IsAscii (escapeUnit n) := by
  have hdigit (k : Nat) :
      32 ≤ (Text.hexDigit (k % 16)).toNat ∧ (Text.hexDigit (k % 16)).toNat < 127 := by
    have hall : ∀ k : Fin 16, 32 ≤ (Text.hexDigit k).toNat ∧ (Text.hexDigit k).toNat < 127 := by
      decide
    exact hall ⟨k % 16, Nat.mod_lt k (by decide)⟩
  rw [escapeUnit_eq]
  simp [IsAscii, hdigit]

private theorem isAscii_escapeChar (c : Char) : IsAscii (escapeChar c) := by
  unfold escapeChar
  dsimp only
  -- the characters with an escape of their own
  iterate 7
    split
    · simp [IsAscii]
  split
  · rename_i h
    simp only [Bool.and_eq_true, decide_eq_true_eq] at h
    exact List.forall_mem_singleton.mpr h
  split
  · exact isAscii_escapeUnit _
  · exact (isAscii_escapeUnit _).append (isAscii_escapeUnit _)

private theorem isAscii_quoteText (s : String) : IsAscii (quoteText s).toList := by
  rw [toList_quoteText]
  refine .cons (by decide) (.append (fun c hc => ?_) (by simp [IsAscii]))
  obtain ⟨x, _, hx⟩ := List.mem_flatMap.mp hc
  exact isAscii_escapeChar x c hx

private theorem isAscii_toString (n : Int) : IsAscii (toString n).toList := by
  rw [toList_toString]
  refine .append (fun c hc => ?_) (fun c hc => ?_)
  · obtain rfl : c = '-' := by
      rw [sign] at hc
      split at hc <;> simp_all
    decide
  · have hdigit := isDigit_of_mem_digits hc
    have hbounds : 48 ≤ c.toNat ∧ c.toNat ≤ 57 := by
      simpa [Char.isDigit, UInt32.le_iff_toNat_le] using hdigit
    omega

private theorem isAscii_intercalate {ts : List String} (h : ∀ t ∈ ts, IsAscii t.toList) :
    IsAscii (", ".intercalate ts).toList := by
  cases ts with
  | nil => simp [IsAscii]
  | cons t ts =>
      rw [List.forall_mem_cons] at h
      rw [toList_intercalate_comma]
      refine .append h.1 fun c hc => ?_
      obtain ⟨t', ht', hc⟩ := List.mem_flatMap.mp hc
      exact IsAscii.cons (by decide) (.cons (by decide) (h.2 t' ht')) c hc

mutual

/-- A text without doubles is in ASCII. -/
theorem isAscii_compact : ∀ j : Json, isPlain j = true → IsAscii (compact j).toList
  | .null, _ => by simp [compact, scalarText, IsAscii]
  | .bool true, _ => by simp [compact, scalarText, IsAscii]
  | .bool false, _ => by simp [compact, scalarText, IsAscii]
  | .int n, _ => isAscii_toString n
  | .str s, _ => isAscii_quoteText s
  | .arr items, h => by
      rw [toList_compact_arr]
      exact .cons (by decide) (.append (isAscii_intercalate (isAscii_compactItems items h))
        (by simp [IsAscii]))
  | .obj members, h => by
      rw [toList_compact_obj]
      exact .cons (by decide) (.append (isAscii_intercalate (isAscii_compactMembers members h))
        (by simp [IsAscii]))

private theorem isAscii_compactItems : ∀ items : List Json, plainItems items = true →
    ∀ t ∈ compactItems items, IsAscii t.toList
  | [], _ => by simp [compactItems]
  | j :: rest, h => by
      rw [plainItems, Bool.and_eq_true] at h
      rw [compactItems, List.forall_mem_cons]
      exact ⟨isAscii_compact j h.1, isAscii_compactItems rest h.2⟩

private theorem isAscii_compactMembers : ∀ members :
    List (String × Json), plainMembers members = true →
    ∀ t ∈ compactMembers members, IsAscii t.toList
  | [], _ => by simp [compactMembers]
  | (key, j) :: rest, h => by
      rw [plainMembers, Bool.and_eq_true, Bool.and_eq_true] at h
      rw [compactMembers, List.forall_mem_cons, toList_member]
      exact ⟨.append (isAscii_quoteText key) (.cons (by decide) (.cons (by decide)
        (isAscii_compact j h.1.2))), isAscii_compactMembers rest h.2⟩

end

end PullReview.Json
