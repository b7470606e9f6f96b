import PullReview.FileTree

/-!
# Reading what was written

The bytes of a text decode to the text: each character is found again at the front of its bytes,
whatever follows. No other bytes decode to it, since a character is found only where all its bytes
stand. A text without carriage returns is also left alone by the reading of line ends.
-/

namespace PullReview.Text.Utf8

private theorem toList_loop (bytes : ByteArray) (i : Nat) (before : List UInt8) :
    ByteArray.toList.loop bytes i before = before.reverse ++ bytes.data.toList.drop i := by
  fun_induction ByteArray.toList.loop bytes i before with
  | case1 i before h ih =>
      have hlength : i < bytes.data.toList.length := by simpa using h
      rw [ih, List.drop_eq_getElem_cons hlength]
      simp [ByteArray.get!, h]
  | case2 i before h =>
      rw [List.drop_eq_nil_of_le (by simpa using Nat.le_of_not_lt h), List.append_nil]

private theorem toList_toByteArray (bytes : List UInt8) : bytes.toByteArray.toList = bytes := by
  rw [ByteArray.toList, toList_loop]
  simp

private theorem toList_toUTF8 (s : String) :
    s.toUTF8.toList = s.toList.flatMap String.utf8EncodeChar := by
  have hbytes : (String.ofList s.toList).toUTF8.toList =
      s.toList.flatMap String.utf8EncodeChar := by
    rw [String.toUTF8_eq_toByteArray, String.toByteArray_ofList, List.utf8Encode,
      toList_toByteArray]
  rwa [String.ofList_toList] at hbytes

/-! ### One character -/

/-- The bytes of the character with a given number. -/
def bytesOf (v : Nat) : List Nat :=
  if v ≤ 0x7F then [v]
  else if v ≤ 0x7FF then [v / 64 + 192, v % 64 + 128]
  else if v ≤ 0xFFFF then [v / 4096 + 224, v / 64 % 64 + 128, v % 64 + 128]
  else [v / 262144 + 240, v / 4096 % 64 + 128, v / 64 % 64 + 128, v % 64 + 128]

private theorem map_utf8EncodeChar (c : Char) :
    (String.utf8EncodeChar c).map UInt8.toNat = bytesOf c.toNat := by
  have hvalid : c.toNat < 0xD800 ∨ 0xDFFF < c.toNat ∧ c.toNat < 0x110000 := c.valid
  have hval : c.val.toNat = c.toNat := rfl
  rw [String.utf8EncodeChar, hval, bytesOf]
  generalize c.toNat = v at hvalid
  split
  · simp
    omega
  · split
    · simp
      omega
    · split
      · simp
        omega
      · simp
        omega

private theorem isContinuation_low (n : Nat) : isContinuation (n % 64 + 128) = true := by
  simp only [isContinuation, Bool.and_eq_true, decide_eq_true_eq]
  omega

private theorem itemAt_of_isSecond {lead length low b : Nat} {rest : List Nat}
    (hlength : lengthOf lead = length + 2) (hlow : 1 <<< (5 - length) = low)
    (hsecond : isSecond lead b = true) :
    itemAt lead (b :: rest) = finish (lead % low) 1 (length + 1) (b :: rest) := by
  rw [itemAt, hlength, ← hlow]
  simp only [hsecond, if_true]
  rw [show 7 - (length + 2) = 5 - length by omega]
  rfl

private theorem isSecond_iff {lead b : Nat} : isSecond lead b = true ↔
    (0x80 ≤ b ∧ b ≤ 0xBF) ∧ (lead = 0xE0 → 0xA0 ≤ b) ∧ (lead = 0xED → b < 0xA0) ∧
      (lead = 0xF0 → 0x90 ≤ b) ∧ (lead = 0xF4 → b < 0x90) := by
  simp only [isSecond, isContinuation, Bool.and_eq_true, decide_eq_true_eq, Bool.not_eq_true',
    Bool.and_eq_false_imp, beq_iff_eq, decide_eq_false_iff_not, Nat.not_lt, Nat.not_le, and_assoc]

private theorem isSecond_low {lead n : Nat} (hE0 : lead = 0xE0 → 32 ≤ n % 64)
    (hED : lead = 0xED → n % 64 < 32) (hF0 : lead = 0xF0 → 16 ≤ n % 64)
    (hF4 : lead = 0xF4 → n % 64 < 16) : isSecond lead (n % 64 + 128) = true := by
  rw [isSecond_iff]
  omega

private theorem finish_low (value taken missing n : Nat) (rest : List Nat) :
    finish value taken (missing + 1) ((n % 64 + 128) :: rest) =
      finish (value * 64 + n % 64) (taken + 1) missing rest := by
  rw [finish, if_pos (isContinuation_low n), Nat.add_sub_cancel]

private theorem itemAt_two {v : Nat} (rest : List Nat) (hlow : 0x80 ≤ v) (hhigh : v < 0x800) :
    itemAt (v / 64 + 192) ((v % 64 + 128) :: rest) = .char (Char.ofNat v) 2 := by
  have hlength : lengthOf (v / 64 + 192) = 2 := by
    simp only [lengthOf]
    repeat' split
    all_goals omega
  have hsecond : isSecond (v / 64 + 192) (v % 64 + 128) = true := by
    apply isSecond_low <;> omega
  have hvalue : (v / 64 + 192) % 32 * 64 + v % 64 = v := by omega
  have hbits : 1 <<< (5 - 0) = 32 := rfl
  rw [itemAt_of_isSecond hlength hbits hsecond, finish_low, hvalue]
  rfl

private theorem itemAt_three {v : Nat} (rest : List Nat) (hlow : 0x800 ≤ v) (hhigh : v < 0x10000)
    (hvalid : v < 0xD800 ∨ 0xDFFF < v) :
    itemAt (v / 4096 + 224) ((v / 64 % 64 + 128) :: (v % 64 + 128) :: rest) =
      .char (Char.ofNat v) 3 := by
  have hlength : lengthOf (v / 4096 + 224) = 3 := by
    simp only [lengthOf]
    repeat' split
    all_goals omega
  have hsecond : isSecond (v / 4096 + 224) (v / 64 % 64 + 128) = true := by
    apply isSecond_low <;> omega
  have hvalue : ((v / 4096 + 224) % 16 * 64 + v / 64 % 64) * 64 + v % 64 = v := by omega
  have hbits : 1 <<< (5 - 1) = 16 := rfl
  rw [itemAt_of_isSecond hlength hbits hsecond, finish_low, finish_low, hvalue]
  rfl

private theorem itemAt_four {v : Nat} (rest : List Nat) (hlow : 0x10000 ≤ v)
    (hhigh : v < 0x110000) :
    itemAt (v / 262144 + 240)
        ((v / 4096 % 64 + 128) :: (v / 64 % 64 + 128) :: (v % 64 + 128) :: rest) =
      .char (Char.ofNat v) 4 := by
  have hlength : lengthOf (v / 262144 + 240) = 4 := by
    simp only [lengthOf]
    repeat' split
    all_goals omega
  have hsecond : isSecond (v / 262144 + 240) (v / 4096 % 64 + 128) = true := by
    apply isSecond_low <;> omega
  have hvalue : (((v / 262144 + 240) % 8 * 64 + v / 4096 % 64) * 64 + v / 64 % 64) * 64 +
      v % 64 = v := by omega
  have hbits : 1 <<< (5 - 2) = 8 := rfl
  rw [itemAt_of_isSecond hlength hbits hsecond, finish_low, finish_low, finish_low, hvalue]
  rfl

private theorem itemAt_utf8EncodeChar (c : Char) (rest : List Nat) :
    ∃ lead more, (String.utf8EncodeChar c).map UInt8.toNat = lead :: more ∧
      itemAt lead (more ++ rest) = .char c (more.length + 1) := by
  have hvalid : c.toNat < 0xD800 ∨ 0xDFFF < c.toNat ∧ c.toNat < 0x110000 := c.valid
  have hchar : Char.ofNat c.toNat = c := Char.ofNat_toNat c
  rw [map_utf8EncodeChar, bytesOf]
  generalize c.toNat = v at hvalid hchar
  subst hchar
  split
  · refine ⟨v, [], rfl, ?_⟩
    have hlength : lengthOf v = 1 := if_pos (by omega)
    simp [itemAt, hlength]
  · split
    · exact ⟨_, _, rfl, itemAt_two rest (by omega) (by omega)⟩
    · split
      · exact ⟨_, _, rfl, itemAt_three rest (by omega) (by omega) (by omega)⟩
      · exact ⟨_, _, rfl, itemAt_four rest (by omega) (by omega)⟩

private theorem finish_succ_eq_char {value taken missing size : Nat} {rest : List Nat} {c : Char}
    (h : finish value taken (missing + 1) rest = .char c size) :
    ∃ b more, rest = b :: more ∧ 0x80 ≤ b ∧ b ≤ 0xBF ∧
      finish (value * 64 + (b - 0x80)) (taken + 1) missing more = .char c size := by
  cases rest with
  | nil => cases h
  | cons b more =>
      rw [finish] at h
      split at h
      · rename_i hb
        simp only [isContinuation, Bool.and_eq_true, decide_eq_true_eq] at hb
        exact ⟨b, more, rfl, hb.1, hb.2, h⟩
      · cases h

private theorem toNat_ofNat {v : Nat} (h : v < 0xD800 ∨ 0xDFFF < v ∧ v < 0x110000) :
    (Char.ofNat v).toNat = v := by
  rw [Char.ofNat, dif_pos h]
  rfl

private theorem lengthOf_cases (lead : Nat) : lengthOf lead = 0 ∨ lengthOf lead = 1 ∧ lead < 0x80 ∨
    lengthOf lead = 2 ∧ 0xC2 ≤ lead ∧ lead < 0xE0 ∨ lengthOf lead = 3 ∧ 0xE0 ≤ lead ∧ lead < 0xF0 ∨
    lengthOf lead = 4 ∧ 0xF0 ≤ lead ∧ lead < 0xF5 := by
  simp only [lengthOf]
  repeat' split
  all_goals omega

private theorem finish_of_itemAt {lead length size : Nat} {rest : List Nat} {c : Char}
    (hlength : lengthOf lead = length + 2) (h : itemAt lead rest = .char c size) :
    ∃ b more, rest = b :: more ∧ isSecond lead b = true ∧
      finish (lead % (1 <<< (5 - length)) * 64 + (b - 0x80)) 2 length more = .char c size := by
  rw [itemAt, hlength] at h
  cases rest with
  | nil => cases h
  | cons b more =>
      simp only [Nat.reduceSubDiff] at h
      split at h
      · rename_i hb
        obtain ⟨_, _, heq, _, _, hfinish⟩ := finish_succ_eq_char h
        cases heq
        exact ⟨b, more, rfl, hb, hfinish⟩
      · cases h

private theorem eq_bytesOf_of_itemAt {lead size : Nat} {rest : List Nat} {c : Char}
    (h : itemAt lead rest = .char c size) :
    lead :: rest = bytesOf c.toNat ++ rest.drop (size - 1) := by
  rcases lengthOf_cases lead with hnone | ⟨hone, hlead⟩ | ⟨htwo, hlow, hhigh⟩ |
    ⟨hthree, hlow, hhigh⟩ | ⟨hfour, hlow, hhigh⟩
  · rw [itemAt, hnone] at h
    cases h
  · rw [itemAt, hone] at h
    obtain ⟨rfl, rfl⟩ := Item.char.inj h
    rw [toNat_ofNat (by omega), bytesOf, if_pos (by omega)]
    rfl
  · obtain ⟨b, more, rfl, hsecond, hlast⟩ := finish_of_itemAt htwo h
    obtain ⟨rfl, rfl⟩ := Item.char.inj hlast
    have hb := isSecond_iff.mp hsecond
    rw [show 1 <<< (5 - 0) = 32 from rfl, toNat_ofNat (by omega), bytesOf, if_neg (by omega),
      if_pos (by omega)]
    simp
    omega
  · obtain ⟨b, more, rfl, hsecond, hfinish⟩ := finish_of_itemAt hthree h
    obtain ⟨b₂, more₂, rfl, hb₂, hb₂', hlast⟩ := finish_succ_eq_char hfinish
    obtain ⟨rfl, rfl⟩ := Item.char.inj hlast
    have hb := isSecond_iff.mp hsecond
    rw [show 1 <<< (5 - 1) = 16 from rfl, toNat_ofNat (by omega), bytesOf, if_neg (by omega),
      if_neg (by omega), if_pos (by omega)]
    simp
    omega
  · obtain ⟨b, more, rfl, hsecond, hfinish⟩ := finish_of_itemAt hfour h
    obtain ⟨b₂, more₂, rfl, hb₂, hb₂', hfinish⟩ := finish_succ_eq_char hfinish
    obtain ⟨b₃, more₃, rfl, hb₃, hb₃', hlast⟩ := finish_succ_eq_char hfinish
    obtain ⟨rfl, rfl⟩ := Item.char.inj hlast
    have hb := isSecond_iff.mp hsecond
    rw [show 1 <<< (5 - 2) = 8 from rfl, toNat_ofNat (by omega), bytesOf, if_neg (by omega),
      if_neg (by omega), if_neg (by omega)]
    simp
    omega

/-! ### Texts -/

private theorem items_utf8EncodeChar (cs : List Char) (position fuel : Nat)
    (hfuel : (cs.flatMap String.utf8EncodeChar).length ≤ fuel) :
    (items position fuel ((cs.flatMap String.utf8EncodeChar).map UInt8.toNat)).map Prod.snd =
      cs.map fun c => .char c (String.utf8EncodeChar c).length := by
  induction cs generalizing position fuel with
  | nil => cases fuel <;> rfl
  | cons c cs ih =>
      obtain ⟨lead, more, hbytes, hitem⟩ :=
        itemAt_utf8EncodeChar c ((cs.flatMap String.utf8EncodeChar).map UInt8.toNat)
      have hlength : (String.utf8EncodeChar c).length = more.length + 1 := by
        simpa using congrArg List.length hbytes
      rw [List.flatMap_cons, List.length_append, hlength] at hfuel
      cases fuel with
      | zero => omega
      | succ fuel =>
          rw [List.flatMap_cons, List.map_append, hbytes, List.cons_append, items, hitem]
          simp only [List.map_cons, Nat.add_sub_cancel, List.drop_left, hlength]
          rw [ih _ fuel (by omega)]

private theorem fault?_of_char {bytes : List UInt8} {i : Nat × Item} {c : Char} {size : Nat}
    (h : i.2 = .char c size) : fault? bytes i = none := by
  obtain ⟨position, item⟩ := i
  subst h
  rfl

private theorem filterMap_char {found : List (Nat × Item)} {cs : List Char} {size : Char → Nat}
    (h : found.map Prod.snd = cs.map fun c => .char c (size c)) :
    found.filterMap (fun i =>
      match i.2 with
      | .char c _ => some c
      | .fault _ _ => none) = cs := by
  induction found generalizing cs with
  | nil => exact (List.map_eq_nil_iff.mp h.symm).symm
  | cons i found ih =>
      cases cs with
      | nil => cases h
      | cons c cs =>
          obtain ⟨hi, hfound⟩ := List.cons.inj h
          rw [List.filterMap_cons, hi, ih hfound]

/-- The bytes of a text are the text. -/
theorem decode_toUTF8 (s : String) : decode s.toUTF8.toList = .ok s := by
  have hitems : (allItems s.toUTF8.toList).map Prod.snd =
      s.toList.map fun c => .char c (String.utf8EncodeChar c).length := by
    rw [allItems, toList_toUTF8]
    exact items_utf8EncodeChar s.toList 0 _ (Nat.le_refl _)
  have hfaults : (allItems s.toUTF8.toList).findSome? (fault? s.toUTF8.toList) = none := by
    rw [List.findSome?_eq_none_iff]
    intro i hi
    have hitem : i.2 ∈ (allItems s.toUTF8.toList).map Prod.snd := List.mem_map_of_mem hi
    rw [hitems] at hitem
    obtain ⟨c, _, hc⟩ := List.mem_map.mp hitem
    exact fault?_of_char hc.symm
  have hchars : decodeLossy s.toUTF8.toList = s :=
    (congrArg String.ofList (filterMap_char hitems)).trans String.ofList_toList
  rw [decode, hfaults, hchars]

private theorem eq_flatMap_of_items {position fuel : Nat} {bytes : List Nat}
    (hfuel : bytes.length ≤ fuel)
    (hitems : ∀ i ∈ items position fuel bytes, ∃ c size, i.2 = .char c size) :
    bytes = ((items position fuel bytes).filterMap fun i =>
      match i.2 with
      | .char c _ => some c
      | .fault _ _ => none).flatMap fun c => bytesOf c.toNat := by
  induction fuel generalizing position bytes with
  | zero => simpa [items] using hfuel
  | succ fuel ih =>
      cases bytes with
      | nil => rfl
      | cons b rest =>
          rw [items] at hitems ⊢
          rw [List.forall_mem_cons] at hitems
          obtain ⟨⟨c, size, hitem⟩, hrest⟩ := hitems
          have hlength : (rest.drop (size - 1)).length ≤ fuel := by
            rw [List.length_drop]
            rw [List.length_cons] at hfuel
            omega
          simp only at hitem hrest
          rw [hitem] at hrest ⊢
          simp only [List.filterMap_cons, List.flatMap_cons]
          rw [← ih hlength hrest]
          exact eq_bytesOf_of_itemAt hitem

private theorem exists_char_of_fault? {bytes : List UInt8} {i : Nat × Item}
    (h : fault? bytes i = none) : ∃ c size, i.2 = .char c size := by
  obtain ⟨position, item⟩ := i
  cases item with
  | char c size => exact ⟨c, size, rfl⟩
  | fault kind size => cases h

/-- Only the bytes of a text decode to it. -/
theorem eq_toUTF8_of_decode {bytes : List UInt8} {s : String} (h : decode bytes = .ok s) :
    bytes = s.toUTF8.toList := by
  rw [decode] at h
  split at h
  · cases h
  · rename_i hfaults
    have hitems : ∀ i ∈ allItems bytes, ∃ c size, i.2 = .char c size :=
      fun i hi => exists_char_of_fault? (List.findSome?_eq_none_iff.mp hfaults i hi)
    have hbytes := eq_flatMap_of_items (by simp) hitems
    rw [← Except.ok.inj h, toList_toUTF8, decodeLossy, String.toList_ofList]
    simp only [← map_utf8EncodeChar] at hbytes
    rw [← List.map_flatMap] at hbytes
    exact List.map_inj_right (fun _ _ => UInt8.toNat_inj.mp) |>.mp hbytes

theorem decode_ok_iff {bytes : List UInt8} {s : String} :
    decode bytes = .ok s ↔ bytes = s.toUTF8.toList := by
  constructor
  · exact eq_toUTF8_of_decode
  · rintro rfl
    exact decode_toUTF8 s

theorem plainNewlines_of_notMem {cs : List Char} (h : '\r' ∉ cs) : plainNewlines cs = cs := by
  fun_induction plainNewlines cs with
  | case1 => rfl
  | case2 rest ih => simp at h
  | case3 rest hrest ih => simp at h
  | case4 c rest hcr hc ih => rw [ih fun hmem => h (by simp [hmem])]

theorem decodeText_toUTF8 {s : String} (h : '\r' ∉ s.toList) :
    FileTree.decodeText s.toUTF8.toList = .ok s := by
  rw [FileTree.decodeText, decode_toUTF8]
  simp only [bind, Except.bind]
  rw [plainNewlines_of_notMem h, String.ofList_toList]
  rfl

end PullReview.Text.Utf8
