import PullReview.Json.Reader

/-!
# Spellings of values

A value has many texts: a character may stand for itself or be escaped, and there may be blanks
around every item and every name. A value of texts, lists and objects is read from each of its
texts, and what follows the text is left.
-/

namespace PullReview.Json

/-! ### Characters -/

/-- A hexadecimal digit, in either case. -/
def IsHex (v : Nat) (c : Char) : Prop :=
  v < 10 ∧ c = Char.ofNat (48 + v) ∨
    (10 ≤ v ∧ v < 16) ∧ (c = Char.ofNat (87 + v) ∨ c = Char.ofNat (55 + v))

/-- A code unit in four digits. -/
inductive SpellsUnit (n : Nat) : List Char → Prop
  | digits {a b c d : Char} (ha : IsHex (n / 0x1000) a) (hb : IsHex (n / 0x100 % 16) b)
      (hc : IsHex (n / 16 % 16) c) (hd : IsHex (n % 16) d) : SpellsUnit n ['\\', 'u', a, b, c, d]

/-- The letters that stand for characters behind a backslash. -/
def escapes : List (Char × Char) :=
  [('"', '"'), ('\\', '\\'), ('/', '/'), ('b', '\x08'), ('f', '\x0c'), ('n', '\n'), ('r', '\r'),
    ('t', '\t')]

/-- The ways to write a character between quotes. -/
inductive SpellsChar (c : Char) : List Char → Prop
  | plain (hc : 32 ≤ c.toNat) (hquote : c ≠ '"') (hslash : c ≠ '\\') : SpellsChar c [c]
  | escape {letter : Char} (h : (letter, c) ∈ escapes) : SpellsChar c ['\\', letter]
  | unit {text : List Char} (h : SpellsUnit c.toNat text) : SpellsChar c text
  | pair {high low : Nat} {first second : List Char} (hfirst : SpellsUnit high first)
      (hsecond : SpellsUnit low second) (hhigh : 0xD800 ≤ high ∧ high ≤ 0xDBFF)
      (hlow : 0xDC00 ≤ low ∧ low ≤ 0xDFFF)
      (hc : c.toNat = 0x10000 + (high - 0xD800) * 0x400 + (low - 0xDC00)) :
      SpellsChar c (first ++ second)

private theorem hexValue?_of_isHex {v : Nat} {c : Char} (h : IsHex v c) : hexValue? c = some v := by
  have hdigit : ∀ k : Fin 10, hexValue? (Char.ofNat (48 + k)) = some k.val := by decide
  have hletter : ∀ k : Fin 6, hexValue? (Char.ofNat (87 + (10 + k))) = some (10 + k.val) ∧
      hexValue? (Char.ofNat (55 + (10 + k))) = some (10 + k.val) := by decide
  rcases h with ⟨hv, rfl⟩ | ⟨⟨hlow, hhigh⟩, h⟩
  · exact hdigit ⟨v, hv⟩
  · obtain ⟨k, rfl⟩ := Nat.exists_eq_add_of_le hlow
    have hk := hletter ⟨k, by omega⟩
    rcases h with rfl | rfl
    · exact hk.1
    · exact hk.2

private theorem unit?_of_spellsUnit {n : Nat} {text : List Char} (h : SpellsUnit n text) :
    ∃ a b c d, text = ['\\', 'u', a, b, c, d] ∧ unit? a b c d = some n := by
  obtain ⟨ha, hb, hc, hd⟩ := h
  refine ⟨_, _, _, _, rfl, ?_⟩
  simp only [unit?, hexValue?_of_isHex ha, hexValue?_of_isHex hb, hexValue?_of_isHex hc,
    hexValue?_of_isHex hd, Option.bind_eq_bind, Option.bind_some, Option.pure_def,
    Option.some.injEq]
  omega

private theorem readString_unit {acc text tail : List Char} {n : Nat} (h : SpellsUnit n text)
    (hhigh : isHighHalf n = false) :
    readString acc none (text ++ tail) = readString (unitChar n :: acc) none tail := by
  obtain ⟨a, b, c, d, rfl, hunit⟩ := unit?_of_spellsUnit h
  simp only [List.cons_append, List.nil_append]
  rw [readString, hunit]
  simp [hhigh]

private theorem readString_pair {acc first second tail : List Char} {high low : Nat}
    (hfirst : SpellsUnit high first) (hsecond : SpellsUnit low second)
    (hhigh : isHighHalf high = true) (hlow : isLowHalf low = true) :
    readString acc none (first ++ second ++ tail) =
      readString (joinHalves high low :: acc) none tail := by
  obtain ⟨a, b, c, d, rfl, hunit⟩ := unit?_of_spellsUnit hfirst
  obtain ⟨a', b', c', d', rfl, hunit'⟩ := unit?_of_spellsUnit hsecond
  simp only [List.cons_append, List.nil_append]
  rw [readString, hunit]
  simp only [hhigh, if_true]
  rw [readString, hunit']
  simp [hlow]

theorem toNat_bounds (c : Char) :
    c.toNat < 0xD800 ∨ (0xDFFF < c.toNat ∧ c.toNat < 0x110000) := c.valid

private theorem unitChar_toNat (c : Char) : unitChar c.toNat = c := by
  have hbounds := toNat_bounds c
  rw [unitChar, if_neg, Char.ofNat_toNat]
  simp
  omega

private theorem plainEscape?_of_mem {letter c : Char} (h : (letter, c) ∈ escapes) :
    plainEscape? letter = some c ∧ letter ≠ 'u' := by
  have hall : ∀ p ∈ escapes, plainEscape? p.1 = some p.2 ∧ p.1 ≠ 'u' := by decide
  exact hall (letter, c) h

private theorem readString_of_spellsChar {c : Char} {text : List Char} (h : SpellsChar c text)
    (acc tail : List Char) :
    readString acc none (text ++ tail) = readString (c :: acc) none tail := by
  cases h with
  | plain hc hquote hslash =>
      rw [List.singleton_append, readString]
      · simp [hquote, hslash, Nat.not_lt.mpr hc]
      · simp [hslash]
      · simp [hslash]
  | escape h =>
      obtain ⟨hletter, hu⟩ := plainEscape?_of_mem h
      rw [List.cons_append, List.singleton_append, readString, hletter]
      exact fun _ _ _ _ _ h _ => hu h
  | unit h =>
      have hbounds := toNat_bounds c
      rw [readString_unit h, unitChar_toNat]
      simp [isHighHalf]
      omega
  | pair hfirst hsecond hhigh hlow hc =>
      rw [readString_pair hfirst hsecond (by simp [isHighHalf, hhigh]) (by simp [isLowHalf, hlow]),
        joinHalves, ← hc, Char.ofNat_toNat]

/-- Characters written one after the other. -/
inductive SpellsText : List Char → List Char → Prop
  | nil : SpellsText [] []
  | cons {c : Char} {cs first rest : List Char} (hc : SpellsChar c first)
      (hcs : SpellsText cs rest) : SpellsText (c :: cs) (first ++ rest)

/-- A text is read up to the quote that closes it. -/
theorem readString_of_spellsText {cs text : List Char} (h : SpellsText cs text)
    (acc tail : List Char) :
    readString acc none (text ++ '"' :: tail) = some (cs.reverse ++ acc, tail) := by
  induction h generalizing acc with
  | nil => simp [readString]
  | cons hc hcs ih =>
      rw [List.append_assoc, readString_of_spellsChar hc, ih]
      simp

/-! ### Values -/

/-- Blanks that may stand between the parts of a value. -/
def AreBlanks (cs : List Char) : Prop := ∀ c ∈ cs, c = ' ' ∨ c = '\t' ∨ c = '\n' ∨ c = '\r'

mutual

/-- The ways to write a value of texts, lists and objects. An object has every name once. -/
inductive Spells : Json → List Char → Prop
  | text {s : String} {body : List Char} (h : SpellsText s.toList body) :
      Spells (.str s) ('"' :: (body ++ ['"']))
  | noItems {blanks : List Char} (h : AreBlanks blanks) :
      Spells (.arr []) ('[' :: (blanks ++ [']']))
  | items {items : List Json} {body : List Char} (h : SpellsItems items body) :
      Spells (.arr items) ('[' :: (body ++ [']']))
  | noMembers {blanks : List Char} (h : AreBlanks blanks) :
      Spells (.obj []) ('\x7b' :: (blanks ++ ['\x7d']))
  | members {members : List (String × Json)} {body : List Char}
      (hnames : (members.map Prod.fst).Nodup) (h : SpellsMembers members body) :
      Spells (.obj members) ('\x7b' :: (body ++ ['\x7d']))

/-- A value with blanks around it. -/
inductive SpellsItem : Json → List Char → Prop
  | mk {j : Json} {before text after : List Char} (hbefore : AreBlanks before) (h : Spells j text)
      (hafter : AreBlanks after) : SpellsItem j (before ++ text ++ after)

/-- Values with commas between them. -/
inductive SpellsItems : List Json → List Char → Prop
  | last {j : Json} {text : List Char} (h : SpellsItem j text) : SpellsItems [j] text
  | next {j : Json} {items : List Json} {text rest : List Char} (h : SpellsItem j text)
      (hrest : SpellsItems items rest) : SpellsItems (j :: items) (text ++ ',' :: rest)

/-- A name, a colon and a value, with blanks around them. -/
inductive SpellsMember : String × Json → List Char → Prop
  | mk {key : String} {j : Json} {before name between text : List Char} (hbefore : AreBlanks before)
      (hname : SpellsText key.toList name) (hbetween : AreBlanks between) (h : SpellsItem j text) :
      SpellsMember (key, j) (before ++ '"' :: (name ++ '"' :: (between ++ ':' :: text)))

/-- Members with commas between them. -/
inductive SpellsMembers : List (String × Json) → List Char → Prop
  | last {m : String × Json} {text : List Char} (h : SpellsMember m text) : SpellsMembers [m] text
  | next {m : String × Json} {members : List (String × Json)} {text rest : List Char}
      (h : SpellsMember m text) (hrest : SpellsMembers members rest) :
      SpellsMembers (m :: members) (text ++ ',' :: rest)

end

/-- A character that a value may begin with. -/
def Begins (c : Char) : Prop :=
  (c == ' ' || c == '\t' || c == '\n' || c == '\r') = false ∧ c ≠ ']' ∧ c ≠ '\x7d'

theorem skipBlanks_of_begins {c : Char} (hc : Begins c) (cs : List Char) :
    skipBlanks (c :: cs) = c :: cs :=
  List.dropWhile_cons_of_neg (by simp [hc.1])

private theorem skipBlanks_append {blanks : List Char} (h : AreBlanks blanks) (cs : List Char) :
    skipBlanks (blanks ++ cs) = skipBlanks cs := by
  rw [skipBlanks, List.dropWhile_append_of_pos]
  · rfl
  · intro c hc
    rcases h c hc with rfl | rfl | rfl | rfl <;> rfl

theorem Spells.head {j : Json} {text : List Char} (h : Spells j text) :
    ∃ c cs, text = c :: cs ∧ Begins c := by
  cases h with
  | text | noItems | items | noMembers | members =>
      exact ⟨_, _, rfl, by decide, by decide, by decide⟩

variable {limit : Option Nat}

theorem readValue_openList {c : Char} (hc : Begins c) {cs rest : List Char}
    (hrest : skipBlanks rest = c :: cs) (bound : Nat) :
    readValue limit (bound + 1) ('[' :: rest) = readItems limit bound [] (c :: cs) := by
  rw [readValue, hrest]
  split
  · rename_i h
    exact (hc.2.1 (List.cons.inj h).1).elim
  · rfl

theorem readValue_openObject {c : Char} (hc : Begins c) {cs rest : List Char}
    (hrest : skipBlanks rest = c :: cs) (bound : Nat) :
    readValue limit (bound + 1) ('\x7b' :: rest) = readMembers limit bound [] (c :: cs) := by
  rw [readValue, hrest]
  split
  · rename_i h
    exact (hc.2.2 (List.cons.inj h).1).elim
  · rfl

/-- What follows an item: the next one, or the end of the list. -/
def afterItem (limit : Option Nat) (bound : Nat) (acc : List Json) (rest : List Char) :
    Except ReadError (Json × List Char) :=
  match skipBlanks rest with
  | ',' :: rest => readItems limit bound acc (skipBlanks rest)
  | ']' :: rest => .ok (.arr acc.reverse, rest)
  | _ => .error .malformed

private theorem readItems_item {bound : Nat} {acc : List Json} {cs rest : List Char} {j : Json}
    (h : readValue limit bound cs = .ok (j, rest)) :
    readItems limit (bound + 1) acc cs = afterItem limit bound (j :: acc) rest := by
  rw [readItems, h]
  rfl

/-- What follows a member: the next one, or the end of the object. -/
def afterMember (limit : Option Nat) (bound : Nat) (acc : List (String × Json))
    (rest : List Char) : Except ReadError (Json × List Char) :=
  match skipBlanks rest with
  | ',' :: rest => readMembers limit bound acc (skipBlanks rest)
  | '\x7d' :: rest => .ok (.obj acc, rest)
  | _ => .error .malformed

/-- A value is read from its text, whatever follows. -/
def ReadAs (limit : Option Nat) (j : Json) (text : List Char) : Prop :=
  ∀ (bound : Nat) (rest : List Char), text.length < bound →
    readValue limit bound (text ++ rest) = .ok (j, rest)

/-- An item is read behind blanks, and the blanks behind it are left. -/
def ItemReadAs (limit : Option Nat) (j : Json) (text : List Char) : Prop :=
  ∀ (bound : Nat) (rest : List Char), text.length < bound →
    ∃ c cs after, skipBlanks (text ++ rest) = c :: cs ∧ Begins c ∧ AreBlanks after ∧
      readValue limit bound (c :: cs) = .ok (j, after ++ rest)

/-- Items are read behind those already there, up to the bracket. -/
def ItemsReadAs (limit : Option Nat) (items : List Json) (text : List Char) : Prop :=
  ∀ (bound : Nat) (acc : List Json) (rest : List Char), text.length + 1 < bound →
    ∃ c cs, skipBlanks (text ++ ']' :: rest) = c :: cs ∧ Begins c ∧
      readItems limit bound acc (c :: cs) = .ok (.arr (acc.reverse ++ items), rest)

/-- A member is read and goes last. -/
def MemberReadAs (limit : Option Nat) (m : String × Json) (text : List Char) : Prop :=
  ∀ (bound : Nat) (acc : List (String × Json)) (rest : List Char),
    acc.any (·.1 == m.1) = false → text.length < bound →
    ∃ cs after, skipBlanks (text ++ rest) = '"' :: cs ∧ AreBlanks after ∧
      readMembers limit (bound + 1) acc ('"' :: cs) =
        afterMember limit bound (acc ++ [m]) (after ++ rest)

/-- Members are read behind those already there, up to the bracket. -/
def MembersReadAs (limit : Option Nat) (members : List (String × Json)) (text : List Char) :
    Prop :=
  ∀ (bound : Nat) (acc : List (String × Json)) (rest : List Char),
    (∀ m ∈ members, acc.any (·.1 == m.1) = false) → (members.map Prod.fst).Nodup →
    text.length + 1 < bound →
    ∃ cs, skipBlanks (text ++ '\x7d' :: rest) = '"' :: cs ∧
      readMembers limit bound acc ('"' :: cs) = .ok (.obj (acc ++ members), rest)

private theorem readAs_text {s : String} {body : List Char} (h : SpellsText s.toList body) :
    ReadAs limit (.str s) ('"' :: (body ++ ['"'])) := by
  intro bound rest hbound
  obtain ⟨bound, rfl⟩ : ∃ b, bound = b + 1 := ⟨bound - 1, by omega⟩
  rw [List.cons_append, List.append_assoc, List.singleton_append, readValue,
    readString_of_spellsText h]
  simp

private theorem readAs_noItems {blanks : List Char} (h : AreBlanks blanks) :
    ReadAs limit (.arr []) ('[' :: (blanks ++ [']'])) := by
  intro bound rest hbound
  obtain ⟨bound, rfl⟩ : ∃ b, bound = b + 1 := ⟨bound - 1, by omega⟩
  rw [List.cons_append, List.append_assoc, readValue, skipBlanks_append h]
  rfl

private theorem readAs_items {items : List Json} {body : List Char}
    (h : ItemsReadAs limit items body) : ReadAs limit (.arr items) ('[' :: (body ++ [']'])) := by
  intro bound rest hbound
  obtain ⟨bound, rfl⟩ : ∃ b, bound = b + 1 := ⟨bound - 1, by omega⟩
  rw [List.length_cons, List.length_append, List.length_singleton] at hbound
  obtain ⟨c, cs, hskip, hc, hread⟩ := h bound [] rest (by omega)
  rw [List.cons_append, List.append_assoc, List.singleton_append, readValue_openList hc hskip,
    hread]
  rfl

private theorem readAs_noMembers {blanks : List Char} (h : AreBlanks blanks) :
    ReadAs limit (.obj []) ('\x7b' :: (blanks ++ ['\x7d'])) := by
  intro bound rest hbound
  obtain ⟨bound, rfl⟩ : ∃ b, bound = b + 1 := ⟨bound - 1, by omega⟩
  rw [List.cons_append, List.append_assoc, readValue, skipBlanks_append h]
  rfl

private theorem readAs_members {members : List (String × Json)} {body : List Char}
    (hnames : (members.map Prod.fst).Nodup) (h : MembersReadAs limit members body) :
    ReadAs limit (.obj members) ('\x7b' :: (body ++ ['\x7d'])) := by
  intro bound rest hbound
  obtain ⟨bound, rfl⟩ : ∃ b, bound = b + 1 := ⟨bound - 1, by omega⟩
  rw [List.length_cons, List.length_append, List.length_singleton] at hbound
  obtain ⟨cs, hskip, hread⟩ := h bound [] rest (fun _ _ => rfl) hnames (by omega)
  have hc : Begins '"' := ⟨by decide, by decide, by decide⟩
  rw [List.cons_append, List.append_assoc, List.singleton_append, readValue_openObject hc hskip,
    hread]
  rfl

private theorem itemReadAs_mk {j : Json} {before text after : List Char}
    (hbefore : AreBlanks before) (hhead : ∃ c cs, text = c :: cs ∧ Begins c)
    (h : ReadAs limit j text) (hafter : AreBlanks after) :
    ItemReadAs limit j (before ++ text ++ after) := by
  intro bound rest hbound
  obtain ⟨c, cs, rfl, hc⟩ := hhead
  rw [List.length_append, List.length_append] at hbound
  refine ⟨c, cs ++ (after ++ rest), after, ?_, hc, hafter, h bound (after ++ rest) (by omega)⟩
  rw [List.append_assoc, List.append_assoc, skipBlanks_append hbefore]
  exact skipBlanks_of_begins hc _

private theorem itemsReadAs_last {j : Json} {text : List Char} (h : ItemReadAs limit j text) :
    ItemsReadAs limit [j] text := by
  intro bound acc rest hbound
  obtain ⟨bound, rfl⟩ : ∃ b, bound = b + 1 := ⟨bound - 1, by omega⟩
  obtain ⟨c, cs, after, hskip, hc, hafter, hread⟩ := h bound (']' :: rest) (by omega)
  refine ⟨c, cs, hskip, hc, ?_⟩
  rw [readItems_item hread, afterItem, skipBlanks_append hafter, ← List.reverse_cons]
  rfl

private theorem itemsReadAs_next {j : Json} {items : List Json} {text rest : List Char}
    (h : ItemReadAs limit j text) (hrest : ItemsReadAs limit items rest) :
    ItemsReadAs limit (j :: items) (text ++ ',' :: rest) := by
  intro bound acc tail hbound
  obtain ⟨bound, rfl⟩ : ∃ b, bound = b + 1 := ⟨bound - 1, by omega⟩
  rw [List.length_append, List.length_cons] at hbound
  obtain ⟨c, cs, after, hskip, hc, hafter, hread⟩ :=
    h bound (',' :: (rest ++ ']' :: tail)) (by omega)
  obtain ⟨c', cs', hskip', _, hread'⟩ := hrest bound (j :: acc) tail (by omega)
  refine ⟨c, cs, ?_, hc, ?_⟩
  · rw [List.append_assoc, List.cons_append]
    exact hskip
  · rw [readItems_item hread, afterItem, skipBlanks_append hafter]
    change readItems limit bound (j :: acc) (skipBlanks (rest ++ ']' :: tail)) = _
    rw [hskip', hread']
    simp

private theorem memberReadAs_mk {key : String} {j : Json} {before name between text : List Char}
    (hbefore : AreBlanks before) (hname : SpellsText key.toList name)
    (hbetween : AreBlanks between) (h : ItemReadAs limit j text) :
    MemberReadAs limit (key, j) (before ++ '"' :: (name ++ '"' :: (between ++ ':' :: text))) := by
  intro bound acc rest hkey hbound
  simp only [List.length_append, List.length_cons] at hbound
  obtain ⟨c, cs, after, hskip, _, hafter, hread⟩ := h bound rest (by omega)
  refine ⟨name ++ '"' :: (between ++ ':' :: (text ++ rest)), after, ?_, hafter, ?_⟩
  · rw [List.append_assoc, skipBlanks_append hbefore]
    simp [skipBlanks]
  · have hset : setMember acc key j = acc ++ [(key, j)] := by
      rw [setMember, show acc.any (·.1 == key) = false from hkey]
      rfl
    have hcolon : skipBlanks (between ++ ':' :: (text ++ rest)) = ':' :: (text ++ rest) :=
      skipBlanks_append hbetween _
    rw [readMembers, readString_of_spellsText hname]
    simp only [hcolon, hskip, hread, List.append_nil, List.reverse_reverse, String.ofList_toList]
    rw [← hset]
    rfl

private theorem membersReadAs_last {m : String × Json} {text : List Char}
    (h : MemberReadAs limit m text) : MembersReadAs limit [m] text := by
  intro bound acc rest hacc _ hbound
  obtain ⟨bound, rfl⟩ : ∃ b, bound = b + 1 := ⟨bound - 1, by omega⟩
  obtain ⟨cs, after, hskip, hafter, hread⟩ :=
    h bound acc ('\x7d' :: rest) (hacc m List.mem_cons_self) (by omega)
  refine ⟨cs, hskip, ?_⟩
  rw [hread, afterMember, skipBlanks_append hafter]
  rfl

private theorem membersReadAs_next {m : String × Json} {members : List (String × Json)}
    {text rest : List Char} (h : MemberReadAs limit m text)
    (hrest : MembersReadAs limit members rest) :
    MembersReadAs limit (m :: members) (text ++ ',' :: rest) := by
  intro bound acc tail hacc hnames hbound
  obtain ⟨bound, rfl⟩ : ∃ b, bound = b + 1 := ⟨bound - 1, by omega⟩
  rw [List.length_append, List.length_cons] at hbound
  rw [List.forall_mem_cons] at hacc
  rw [List.map_cons, List.nodup_cons] at hnames
  have hacc' : ∀ m' ∈ members, (acc ++ [m]).any (·.1 == m'.1) = false := by
    intro m' hm'
    have hne : m.1 ≠ m'.1 := fun heq => hnames.1 (heq ▸ List.mem_map_of_mem hm')
    simp [hacc.2 m' hm', hne]
  obtain ⟨cs, after, hskip, hafter, hread⟩ :=
    h bound acc (',' :: (rest ++ '\x7d' :: tail)) hacc.1 (by omega)
  obtain ⟨cs', hskip', hread'⟩ := hrest bound (acc ++ [m]) tail hacc' hnames.2 (by omega)
  refine ⟨cs, ?_, ?_⟩
  · rw [List.append_assoc, List.cons_append]
    exact hskip
  · rw [hread, afterMember, skipBlanks_append hafter]
    change readMembers limit bound (acc ++ [m]) (skipBlanks (rest ++ '\x7d' :: tail)) = _
    rw [hskip', hread', List.append_assoc]
    rfl

mutual

private theorem Spells.readAs : ∀ {j : Json} {text : List Char}, Spells j text → ReadAs limit j text
  | _, _, .text h => readAs_text h
  | _, _, .noItems h => readAs_noItems h
  | _, _, .items h => readAs_items h.readAs
  | _, _, .noMembers h => readAs_noMembers h
  | _, _, .members hnames h => readAs_members hnames h.readAs

private theorem SpellsItem.readAs : ∀ {j : Json} {text : List Char},
    SpellsItem j text → ItemReadAs limit j text
  | _, _, .mk hbefore h hafter => itemReadAs_mk hbefore h.head h.readAs hafter

private theorem SpellsItems.readAs : ∀ {items : List Json} {text : List Char},
    SpellsItems items text → ItemsReadAs limit items text
  | _, _, .last h => itemsReadAs_last h.readAs
  | _, _, .next h hrest => itemsReadAs_next h.readAs hrest.readAs

private theorem SpellsMember.readAs : ∀ {m : String × Json} {text : List Char},
    SpellsMember m text → MemberReadAs limit m text
  | _, _, .mk hbefore hname hbetween h => memberReadAs_mk hbefore hname hbetween h.readAs

private theorem SpellsMembers.readAs : ∀ {members : List (String × Json)} {text : List Char},
    SpellsMembers members text → MembersReadAs limit members text
  | _, _, .last h => membersReadAs_last h.readAs
  | _, _, .next h hrest => membersReadAs_next h.readAs hrest.readAs

end

/-- A value is read from any of its texts. -/
theorem read_of_spells {j : Json} {text : List Char} (h : Spells j text) :
    read (String.ofList text) = .ok j := by
  obtain ⟨c, cs, hcs, hc⟩ := h.head
  have hskip : skipBlanks text = text := by
    rw [hcs]
    exact skipBlanks_of_begins hc cs
  have hread : ReadAs (some Number.digitLimit) j text := h.readAs
  have hread := hread (text.length + 1) [] (by omega)
  rw [List.append_nil] at hread
  rw [read, readWithin, String.toList_ofList, hskip, hread]
  rfl

end PullReview.Json
