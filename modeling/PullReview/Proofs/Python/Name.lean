import Mathlib.Data.List.Perm.Basic
import PullReview.Proofs.Python.Statements

/-!
# The characters of names

The strict dialect reads a name in its compatibility form, in which characters are replaced,
reordered and composed. The form of a name is a name again: it is not empty, and it holds letters,
digits, underscores and characters outside ASCII only, so no bracket, comma, colon or blank. The
names of definitions, and in the strict dialect those of parameters, are of this kind.
-/

namespace PullReview.Python

open Text.Compatibility

/-- Texts that are not empty and hold characters of names only. -/
structure IsName (cs : List Char) : Prop where
  ne_nil : cs ≠ []
  chars : ∀ c ∈ cs, isNameChar .strict c = true

private theorem isNameChar_of_le {c : Char} (h : 128 ≤ c.toNat) : isNameChar .strict c = true := by
  simp [isNameChar, h]

private theorem isNameChar_of_continue {c : Char} (h : Text.isIdentifierContinue c = true) :
    isNameChar .strict c = true := by
  simp only [Text.isIdentifierContinue, Bool.or_eq_true, Bool.and_eq_true] at h
  simp only [isNameChar, Bool.or_eq_true]
  exact h.imp_right And.left

private theorem isNameChar_of_start {c : Char} (h : Text.isIdentifierStart c = true) :
    isNameChar .strict c = true := by
  simp only [Text.isIdentifierStart, Bool.or_eq_true, Bool.and_eq_true] at h
  simp only [isNameChar, Char.isAlphanum, Bool.or_eq_true]
  exact h.imp (Or.imp_left Or.inl) And.left

private theorem isName_of_isIdentifier {word : List Char} (h : isIdentifier word = true) :
    IsName word := by
  cases word with
  | nil => simp [isIdentifier] at h
  | cons c rest =>
      simp only [isIdentifier, Bool.and_eq_true, List.all_eq_true] at h
      refine ⟨List.cons_ne_nil c rest, List.forall_mem_cons.mpr ⟨isNameChar_of_start h.1, ?_⟩⟩
      exact fun c' hc' => isNameChar_of_continue (h.2 c' hc')

/-! ### Syllables -/

private theorem isNameChar_ofNat {n : Nat} (hle : 128 ≤ n) (hlt : n < 0xD800) :
    isNameChar .strict (Char.ofNat n) = true := by
  have hvalid : n.isValidChar := .inl hlt
  apply isNameChar_of_le
  rw [Char.ofNat, dif_pos hvalid]
  exact hle

private theorem isName_expandSyllable? {c : Char} {cs : List Char}
    (h : expandSyllable? c = some cs) : IsName cs := by
  unfold expandSyllable? at h
  dsimp only at h
  split at h
  case isFalse => simp at h
  case isTrue hbounds =>
    simp only [Bool.and_eq_true, decide_eq_true_eq] at hbounds
    have hindex : c.toNat - syllableBase < 11172 := by omega
    generalize c.toNat - syllableBase = i at h hindex
    obtain rfl := Option.some.inj h
    refine ⟨by simp, List.forall_mem_append.mpr ⟨?_, ?_⟩⟩
    · refine List.forall_mem_cons.mpr ⟨?_, List.forall_mem_singleton.mpr ?_⟩
      · exact isNameChar_ofNat (by unfold leadBase; omega) (by unfold leadBase; omega)
      · exact isNameChar_ofNat (by unfold vowelBase; omega) (by unfold vowelBase; omega)
    · split
      · exact List.forall_mem_nil _
      · refine List.forall_mem_singleton.mpr ?_
        exact isNameChar_ofNat (by unfold tailBase; omega) (by unfold tailBase; omega)

private theorem isNameChar_composeSyllable? {a b c : Char} (h : composeSyllable? a b = some c) :
    isNameChar .strict c = true := by
  unfold composeSyllable? at h
  dsimp only at h
  split at h
  case isTrue hbounds =>
    simp only [Bool.and_eq_true, decide_eq_true_eq] at hbounds
    obtain rfl := Option.some.inj h
    unfold leadBase vowelBase at hbounds
    exact isNameChar_ofNat (by unfold syllableBase; omega)
      (by unfold syllableBase leadBase vowelBase; omega)
  case isFalse =>
    split at h
    case isTrue hbounds =>
      simp only [Bool.and_eq_true, decide_eq_true_eq, beq_iff_eq] at hbounds
      obtain rfl := Option.some.inj h
      unfold syllableBase tailBase at hbounds
      exact isNameChar_ofNat (by omega) (by unfold tailBase; omega)
    case isFalse => simp at h

/-! ### The tables -/

/-- An entry of a table: a character and at least one that stands for it. -/
structure IsEntry (word : List Char) : Prop where
  length : 2 ≤ word.length
  chars : ∀ c ∈ word, isNameChar .strict c = true

/-- Whether a line is made of entries with blanks between them, if some characters of the first one
were read before. The numbers are compared as they are, so that a whole table can be checked. -/
def isEntryLine : Nat → List Char → Bool
  | read, [] => Nat.ble 2 read
  | read, c :: rest =>
      bif Nat.beq c.toNat 0x20 then Nat.ble 2 read && isEntryLine 0 rest
      else (Nat.ble 128 c.toNat || isNameChar .strict c) && isEntryLine (read + 1) rest

private theorem isEntry_of_isEntryLine {read : Nat} {line : List Char}
    (h : isEntryLine read line = true) :
    ∃ first others, Path.splitAt ' ' line = first :: others ∧ 2 ≤ read + first.length ∧
      (∀ c ∈ first, isNameChar .strict c = true) ∧ ∀ word ∈ others, IsEntry word := by
  induction line generalizing read with
  | nil => exact ⟨[], [], rfl, Nat.le_of_ble_eq_true h, by simp, by simp⟩
  | cons c rest ih =>
      rw [isEntryLine] at h
      cases hblank : Nat.beq c.toNat 0x20 with
      | true =>
          have hc : c = ' ' := Char.toNat_inj.mp (Nat.eq_of_beq_eq_true hblank)
          simp only [hblank, cond_true, Bool.and_eq_true] at h
          obtain ⟨first, others, hsplit, hlength, hchars, hothers⟩ := ih h.2
          refine ⟨[], first :: others, ?_, Nat.le_of_ble_eq_true h.1, by simp, ?_⟩
          · simp [Path.splitAt, hc, hsplit]
          · exact List.forall_mem_cons.mpr ⟨⟨by simpa using hlength, hchars⟩, hothers⟩
      | false =>
          have hc : c ≠ ' ' := by
            rintro rfl
            cases hblank
          simp only [hblank, cond_false, Bool.and_eq_true, Bool.or_eq_true] at h
          obtain ⟨first, others, hsplit, hlength, hchars, hothers⟩ := ih h.2
          have hchar : isNameChar .strict c = true :=
            h.1.elim (fun hle => isNameChar_of_le (Nat.le_of_ble_eq_true hle)) id
          refine ⟨c :: first, others, ?_, ?_, List.forall_mem_cons.mpr ⟨hchar, hchars⟩, hothers⟩
          · simp [Path.splitAt, hc, hsplit]
          · rw [List.length_cons]
            omega

-- The lines are checked one at a time, each as the list of characters that its literal stands for.
set_option maxRecDepth 3000 in
private theorem isEntryLine_expansionTable :
    ∀ line ∈ expansionTable, ∃ cs, line = String.ofList cs ∧ isEntryLine 0 cs = true := by
  unfold expansionTable
  repeat' first | exact List.forall_mem_nil _ | refine List.forall_mem_cons.mpr ⟨?_, ?_⟩
  all_goals exact ⟨_, rfl, by decide +kernel⟩

set_option maxRecDepth 3000 in
private theorem isEntryLine_compositionTable :
    ∀ line ∈ compositionTable, ∃ cs, line = String.ofList cs ∧ isEntryLine 0 cs = true := by
  unfold compositionTable
  repeat' first | exact List.forall_mem_nil _ | refine List.forall_mem_cons.mpr ⟨?_, ?_⟩
  all_goals exact ⟨_, rfl, by decide +kernel⟩

private theorem isEntry_of_mem_words {table : List String} {word : List Char}
    (h : ∀ line ∈ table, ∃ cs, line = String.ofList cs ∧ isEntryLine 0 cs = true)
    (hword : word ∈ words table) : IsEntry word := by
  obtain ⟨line, hline, hword⟩ := List.mem_flatMap.mp hword
  obtain ⟨cs, rfl, hcs⟩ := h line hline
  obtain ⟨first, others, hsplit, hlength, hchars, hothers⟩ := isEntry_of_isEntryLine hcs
  rw [String.toList_ofList, hsplit] at hword
  obtain rfl | hword := List.mem_cons.mp hword
  · exact ⟨by simpa using hlength, hchars⟩
  · exact hothers word hword

/-! ### The form -/

private theorem isName_expand {c : Char} (h : isNameChar .strict c = true) :
    IsName (expand (words expansionTable) c) := by
  unfold expand
  split
  case h_1 cs hcs => exact isName_expandSyllable? hcs
  case h_2 =>
    cases hfind : (words expansionTable).find? fun w => w.head? == some c with
    | none => exact ⟨by simp, by simpa using h⟩
    | some word =>
        have hentry :=
          isEntry_of_mem_words isEntryLine_expansionTable (List.mem_of_find?_eq_some hfind)
        have hne : word.drop 1 ≠ [] := by
          have hlength := hentry.length
          intro hnil
          rw [List.drop_eq_nil_iff] at hnil
          omega
        exact ⟨hne, fun c' hc' => hentry.chars c' (List.mem_of_mem_drop hc')⟩

private theorem isNameChar_composed? {a b c : Char}
    (h : composed? (words compositionTable) a b = some c) : isNameChar .strict c = true := by
  unfold composed? at h
  split at h
  case h_1 c' hc' =>
    obtain rfl := Option.some.inj h
    exact isNameChar_composeSyllable? hc'
  case h_2 =>
    obtain ⟨word, hfind, hhead⟩ := Option.bind_eq_some_iff.mp h
    have hentry :=
      isEntry_of_mem_words isEntryLine_compositionTable (List.mem_of_find?_eq_some hfind)
    exact hentry.chars c (List.mem_of_head? hhead)

private theorem insertMark_perm (c : Char) (cls : Nat) (done : List Char) :
    (insertMark c cls done).Perm (c :: done) := by
  induction done with
  | nil => exact .refl _
  | cons d rest ih =>
      unfold insertMark
      split
      · exact (ih.cons d).trans (.swap c d rest)
      · exact .refl _

private theorem orderMarks_perm (cs : List Char) : (orderMarks cs).Perm cs := by
  -- What is done so far and what is left are together the characters given.
  have hfold (done : List Char) :
      (cs.foldl (fun done c =>
        let cls := markClass c
        if cls == 0 then c :: done else insertMark c cls done) done).Perm (cs ++ done) := by
    induction cs generalizing done with
    | nil => exact .refl _
    | cons c rest ih =>
        refine (ih _).trans ?_
        refine List.Perm.trans ?_ List.perm_middle
        refine List.Perm.append_left rest ?_
        dsimp only
        split
        · exact .refl _
        · exact insertMark_perm c _ done
  exact (List.reverse_perm _).trans (by simpa using hfold [])

private theorem isName_composeFrom (start : Char) (marks rest : List Char)
    (h : ∀ c ∈ start :: marks ++ rest, isNameChar .strict c = true) :
    IsName (composeFrom (words compositionTable) start marks rest) := by
  fun_induction composeFrom (words compositionTable) start marks rest with
  | case1 start marks => exact ⟨by simp, by simpa using h⟩
  | case2 start marks c rest cls blocked composed hcomposed ih =>
      have hplain : isNameChar .strict composed = true := by
        split at hcomposed
        · simp at hcomposed
        · exact isNameChar_composed? hcomposed
      exact ih (by grind)
  | case3 start marks c rest cls blocked hcomposed hcls ih =>
      have hrest := ih (by grind)
      exact ⟨by simp, List.forall_mem_append.mpr ⟨by grind, hrest.chars⟩⟩
  | case4 start marks c rest cls blocked hcomposed hcls ih => exact ih (by grind)

private theorem isName_compose {cs : List Char} (h : IsName cs) : IsName (compose cs) := by
  cases cs with
  | nil => exact absurd rfl h.ne_nil
  | cons c rest => exact isName_composeFrom c [] rest h.chars

private theorem isName_flatMap_expand {cs : List Char} (h : IsName cs) :
    IsName (cs.flatMap (expand (words expansionTable))) := by
  refine ⟨?_, fun c hc => ?_⟩
  · obtain ⟨c, hc⟩ := List.exists_mem_of_ne_nil cs h.ne_nil
    intro hnil
    exact (isName_expand (h.chars c hc)).ne_nil (List.flatMap_eq_nil_iff.mp hnil c hc)
  · obtain ⟨c', hc', hc⟩ := List.mem_flatMap.mp hc
    exact (isName_expand (h.chars c' hc')).chars c hc

private theorem isName_form {name : String} (h : IsName name.toList) :
    IsName (form name).toList := by
  unfold form
  split
  · exact h
  · rw [String.toList_ofList]
    have hexpanded := isName_flatMap_expand h
    have hperm := orderMarks_perm (name.toList.flatMap (expand (words expansionTable)))
    refine isName_compose ⟨?_, fun c hc => hexpanded.chars c (hperm.mem_iff.mp hc)⟩
    intro hnil
    rw [hnil] at hperm
    exact hexpanded.ne_nil hperm.nil_eq.symm

private theorem isName_of_spelled {d : Dialect} {text : String}
    (h : (TokenKind.name text).Spelled d) : IsName text.toList := by
  obtain ⟨word, hword, rfl⟩ := h
  have hname : IsName (String.ofList word).toList := by simpa using isName_of_isIdentifier hword
  cases d with
  | strict => exact isName_form hname
  | tolerant => exact hname

/-! ### Parameters and definitions -/

/-- Entries with a name; the bare marks have none. -/
def ParamRole.isNamed : ParamRole → Bool
  | .plain | .varPositional | .varKeyword => true
  | .slash | .star | .pattern => false

/-- The name of a definition. -/
def Stmt.definedName? : Stmt → Option String
  | .function head _ => some head.name
  | .class head _ => some head.name
  | _ => none

namespace Parse

variable {source : Source} {tokens : List Token}

private theorem peek_yields :
    Yields source tokens peek fun kind => ∃ t ∈ tokens, t.kind = kind := by
  intro tape kind tape' hahead h
  obtain ⟨-, t, rest, hnext, hkind⟩ := peek_some h
  exact ⟨t, hahead.subset (hnext ▸ List.mem_cons_self), hkind⟩

private theorem identifier_yields : Yields source tokens identifier fun name =>
    ∃ t ∈ tokens, t.kind = .name name := by
  refine peek_yields.bind fun kind hkind => ?_
  split
  · exact .ite (fun _ => .refuse) fun _ => .skip fun _ => .pure hkind
  · exact .refuse

private theorem starredName_yields (start : Nat) :
    Yields source tokens (starredName start) fun named => ∃ t ∈ tokens, t.kind = .name named.1 :=
  identifier_yields.bind fun _ hname => .skip fun _ => .skip fun _ => .pure hname

private theorem param_yields (k : Knot) [SteadyKnot k] : Yields source tokens (param k) fun p =>
    p.role.isNamed = true → ∃ t ∈ tokens, t.kind = .name p.name := by
  refine .skip fun t => .skip fun slash => .ite (fun _ => .pure nofun) fun _ =>
    .skip fun stars => ?_
  refine .ite (fun _ => ?_) fun _ => .skip fun star =>
    .ite (fun _ => .skip fun next => ?_) fun _ => ?_
  · refine (starredName_yields _).bind fun named hnamed => .skip fun hint => .pure ?_
    exact fun _ => hnamed
  · refine .ite (fun _ => ?_) fun _ => .pure nofun
    refine (starredName_yields _).bind fun named hnamed => .skip fun hint => .pure ?_
    exact fun _ => hnamed
  · have hpattern : Yields source tokens (k.primary >>= fun _ => pure (ParamRole.pattern, ""))
        fun named => named.1.isNamed = true → ∃ t ∈ tokens, t.kind = .name named.2 :=
      .skip fun _ => .pure nofun
    have hplain : Yields source tokens (identifier >>= fun name => pure (ParamRole.plain, name))
        fun named => named.1.isNamed = true → ∃ t ∈ tokens, t.kind = .name named.2 :=
      identifier_yields.bind fun _ hname => .pure fun _ => hname
    have hdefault (p : Parse (Option Expr)) : Yields source tokens p fun _ => True :=
      fun _ _ _ _ _ => trivial
    refine .skip fun d => .skip fun bracket => .fork hpattern hplain fun named hnamed => ?_
    exact .skip fun hint => .skip fun assigned => .fork (hdefault _) (hdefault _) fun _ _ =>
      .pure hnamed

private theorem params_yields (k : Knot) [SteadyKnot k] : Yields source tokens (params k) fun ps =>
    ∀ p ∈ ps, p.role.isNamed = true → ∃ t ∈ tokens, t.kind = .name p.name := by
  refine ((param_yields k).bracketed ")").bind fun ps hps => .skip fun strict => ?_
  exact .ite (fun _ => .refuse_bind) fun _ => .pure hps

private theorem definition_named (k : Knot) [SteadyKnot k] :
    Yields source tokens (definition k) fun s =>
    ∀ name ∈ s.definedName?, ∃ t ∈ tokens, t.kind = .name name := by
  have hfound {name name' : String} (hname : ∃ t ∈ tokens, t.kind = .name name)
      (hsame : name' ∈ some name) : ∃ t ∈ tokens, t.kind = .name name' :=
    Option.some.inj hsame ▸ hname
  refine .skip fun ds => .skip fun isClass => .ite (fun _ => ?_) fun _ => ?_
  · refine .skip fun first => .skip fun _ => identifier_yields.bind fun name hname => ?_
    refine .skip fun _ => .skip fun bases => .skip fun block => .skip fun last => ?_
    exact .pure fun _ => hfound hname
  · refine .skip fun first => .skip fun _ => .skip fun _ => ?_
    refine identifier_yields.bind fun name hname => .skip fun _ => .skip fun _ => ?_
    refine .skip fun ps => .skip fun _ => .skip fun returns => .skip fun block => ?_
    exact .skip fun last => .pure fun _ => hfound hname

end Parse

/-- The strict dialect reads parameters with names only, whatever their spelling. -/
theorem isName_param {source : String} {body inner : List Stmt} {head : FunctionHead} {p : Param}
    (h : parseModule .strict source = some body) (hs : Within (.function head inner) body)
    (hp : p ∈ head.params) (hnamed : p.role.isNamed = true) : IsName p.name.toList := by
  obtain ⟨tokens, htokens, hplaced⟩ := parseModule_placed h
  obtain ⟨n, run, before, after, last, hsplit, hrun⟩ := hplaced _ hs rfl
  have hblock : Parse.Yields ⟨.strict, sourceChars .strict source⟩ tokens (Parse.knot n).block
      fun _ => True := fun _ _ _ _ _ => trivial
  have hread := Parse.definition_yields (R := fun _ => True) (Parse.params_yields (Parse.knot n))
    hblock ⟨before, hsplit.symm⟩ hrun
  obtain ⟨_, _, hclass, -⟩ | ⟨_, _, hfunction, hnames, -⟩ := hread
  · cases hclass
  · cases hfunction
    obtain ⟨t, ht, hkind⟩ := hnames p hp hnamed
    exact isName_of_spelled (hkind ▸ (stands_of_scan htokens ht).spelled)

/-- Both dialects read definitions with names only. -/
theorem isName_definedName {d : Dialect} {source : String} {body : List Stmt} {s : Stmt}
    {name : String} (h : parseModule d source = some body) (hs : Within s body)
    (hname : s.definedName? = some name) : IsName name.toList := by
  obtain ⟨tokens, htokens, hplaced⟩ := parseModule_placed h
  have hdefinition : s.extent?.isSome = true ∧ ∀ k, s.rule k = Parse.definition k := by
    cases s with
    | function head inner => exact ⟨rfl, fun _ => rfl⟩
    | «class» head inner => exact ⟨rfl, fun _ => rfl⟩
    | simple _ | assign _ _ _ | annotate _ _ _ _ | compound _ => cases hname
  obtain ⟨n, run, before, after, last, hsplit, hrun⟩ := hplaced _ hs hdefinition.1
  rw [hdefinition.2] at hrun
  obtain ⟨t, ht, hkind⟩ :=
    Parse.definition_named (Parse.knot n) ⟨before, hsplit.symm⟩ hrun name hname
  exact isName_of_spelled (hkind ▸ (stands_of_scan htokens ht).spelled)

end PullReview.Python
