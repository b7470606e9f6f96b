import PullReview.Proofs.Breaking
import PullReview.Proofs.Failure
import PullReview.Proofs.Python.Name
import PullReview.Extract

/-!
# What a signature tells of a calling convention

The convention of a parameter list gives each parameter a name, a kind and whether it may be left
out. A signature writes names, stars and defaults, and it leaves out the bare slash and the bare
star. So it tells the convention of the list without those marks, and no more: two functions of one
name that differ in their bare marks only have one signature, and any other difference shows.
-/

namespace PullReview.Extract

open Python

/-! ### Calling conventions -/

inductive ParamKind where
  | positionalOnly | positionalOrKeyword | varPositional | keywordOnly | varKeyword
  deriving DecidableEq, Repr

structure CallParam where
  name : String
  kind : ParamKind
  optional : Bool
  deriving DecidableEq, Repr

/-- The kind of a parameter without stars: names only behind a star, positions only before a
slash. -/
def plainKind (starBefore slashBehind : Bool) : ParamKind :=
  if starBefore then .keywordOnly
  else if slashBehind then .positionalOnly
  else .positionalOrKeyword

def conventionFrom (starBefore : Bool) : List Param → List CallParam
  | [] => []
  | p :: rest =>
      match p.role with
      | .plain =>
          ⟨p.name, plainKind starBefore (rest.any (·.role == .slash)), p.default.isSome⟩ ::
            conventionFrom starBefore rest
      | .varPositional => ⟨p.name, .varPositional, false⟩ :: conventionFrom true rest
      | .varKeyword => ⟨p.name, .varKeyword, false⟩ :: conventionFrom starBefore rest
      | .star => conventionFrom true rest
      | .slash | .pattern => conventionFrom starBefore rest

/-- The parameters that a list declares, in order. -/
def convention (params : List Param) : List CallParam := conventionFrom false params

/-- A parameter list without its bare marks. -/
def unmarked (params : List Param) : List Param := params.filter (·.role.isNamed)

private theorem unmarked_of_named {params : List Param} (h : ∀ p ∈ params, p.role.isNamed = true) :
    unmarked params = params :=
  List.filter_eq_self.mpr h

private theorem isNamed_of_mem_unmarked {params : List Param} :
    ∀ p ∈ unmarked params, p.role.isNamed = true :=
  fun _ hp => (List.mem_filter.mp hp).2

/-! ### What is written of a parameter -/

/-- The stars and the name of a parameter, and whether it may be left out. -/
structure Entry where
  stars : String
  name : String
  optional : Bool
  deriving DecidableEq, Repr

def ParamKind.stars : ParamKind → String
  | .varPositional => "*"
  | .varKeyword => "**"
  | .positionalOnly | .positionalOrKeyword | .keywordOnly => ""

def CallParam.entry (c : CallParam) : Entry := ⟨c.kind.stars, c.name, c.optional⟩

def roleStars : ParamRole → String
  | .varPositional => "*"
  | .varKeyword => "**"
  | .plain | .slash | .star | .pattern => ""

def paramEntry (p : Param) : Entry :=
  ⟨roleStars p.role, p.name, p.role == .plain && p.default.isSome⟩

private theorem stars_plainKind (starBefore slashBehind : Bool) :
    (plainKind starBefore slashBehind).stars = "" := by
  cases starBefore <;> cases slashBehind <;> rfl

private theorem map_entry_conventionFrom (starBefore : Bool) (params : List Param) :
    (conventionFrom starBefore params).map CallParam.entry = (unmarked params).map paramEntry := by
  induction params generalizing starBefore with
  | nil => rfl
  | cons p rest ih =>
      obtain ⟨role, name, source, hint, default⟩ := p
      cases role with
      | plain =>
          have hentry : CallParam.entry ⟨name, plainKind starBefore (rest.any (·.role == .slash)),
              default.isSome⟩ = paramEntry ⟨.plain, name, source, hint, default⟩ := by
            simp [CallParam.entry, paramEntry, stars_plainKind, roleStars]
          exact congr (congrArg List.cons hentry) (ih starBefore)
      | slash => exact ih starBefore
      | star => exact ih true
      | varPositional => exact congrArg (_ :: ·) (ih true)
      | varKeyword => exact congrArg (_ :: ·) (ih starBefore)
      | pattern => exact ih starBefore

/-- The convention of a list without bare marks, from what is written of it. -/
def readFrom (starBefore : Bool) : List Entry → List CallParam
  | [] => []
  | e :: rest =>
      if e.stars = "" then
        ⟨e.name, plainKind starBefore false, e.optional⟩ :: readFrom starBefore rest
      else if e.stars = "*" then ⟨e.name, .varPositional, e.optional⟩ :: readFrom true rest
      else ⟨e.name, .varKeyword, e.optional⟩ :: readFrom starBefore rest

private theorem conventionFrom_eq_readFrom (starBefore : Bool) {params : List Param}
    (h : ∀ p ∈ params, p.role.isNamed = true) :
    conventionFrom starBefore params = readFrom starBefore (params.map paramEntry) := by
  induction params generalizing starBefore with
  | nil => rfl
  | cons p rest ih =>
      obtain ⟨role, name, source, hint, default⟩ := p
      rw [List.forall_mem_cons] at h
      have hslash : rest.any (·.role == .slash) = false := by
        rw [List.any_eq_false]
        intro q hq hrole
        have hnamed := h.2 q hq
        rw [beq_iff_eq.mp hrole] at hnamed
        cases hnamed
      cases role with
      | plain => simp [conventionFrom, readFrom, paramEntry, roleStars, hslash, ih starBefore h.2]
      | varPositional => simp [conventionFrom, readFrom, paramEntry, roleStars, ih true h.2]
      | varKeyword => simp [conventionFrom, readFrom, paramEntry, roleStars, ih starBefore h.2]
      | slash => cases h.1
      | star => cases h.1
      | pattern => cases h.1

private theorem convention_unmarked_eq_iff (params params' : List Param) :
    convention (unmarked params) = convention (unmarked params') ↔
      (unmarked params).map paramEntry = (unmarked params').map paramEntry := by
  constructor
  · intro h
    have hentries := congrArg (List.map CallParam.entry) h
    unfold convention at hentries
    rw [map_entry_conventionFrom, map_entry_conventionFrom] at hentries
    rwa [unmarked_of_named isNamed_of_mem_unmarked, unmarked_of_named isNamed_of_mem_unmarked]
      at hentries
  · intro h
    unfold convention
    rw [conventionFrom_eq_readFrom false isNamed_of_mem_unmarked,
      conventionFrom_eq_readFrom false isNamed_of_mem_unmarked, h]

/-! ### Texts -/

private theorem append_cons_inj {α : Type} {c : α} {a b t u : List α} (ha : c ∉ a) (hb : c ∉ b)
    (h : a ++ c :: t = b ++ c :: u) : a = b ∧ t = u := by
  induction a generalizing b with
  | nil =>
      cases b with
      | nil => exact ⟨rfl, (List.cons.inj h).2⟩
      | cons y b => exact absurd ((List.cons.inj h).1 ▸ List.mem_cons_self) hb
  | cons x a ih =>
      cases b with
      | nil => exact absurd ((List.cons.inj h).1 ▸ List.mem_cons_self) ha
      | cons y b =>
          have hcons := List.cons.inj h
          have hrest := ih (fun hc => ha (List.mem_cons_of_mem x hc))
            (fun hc => hb (List.mem_cons_of_mem y hc)) hcons.2
          exact ⟨by rw [hcons.1, hrest.1], hrest.2⟩

private theorem intercalate_ne_nil {part : List Char} (rest : List (List Char)) (h : part ≠ []) :
    [',', ' '].intercalate (part :: rest) ≠ [] := by
  cases rest with
  | nil => simpa using h
  | cons part' rest => simp [List.intercalate_cons_cons]

/-- Parts that are not empty and have no commas are told by the text that joins them. -/
theorem intercalate_inj {parts parts' : List (List Char)}
    (h : ∀ part ∈ parts, part ≠ [] ∧ ',' ∉ part) (h' : ∀ part ∈ parts', part ≠ [] ∧ ',' ∉ part)
    (heq : [',', ' '].intercalate parts = [',', ' '].intercalate parts') : parts = parts' := by
  induction parts generalizing parts' with
  | nil =>
      cases parts' with
      | nil => rfl
      | cons b rest' => exact absurd heq.symm (intercalate_ne_nil rest' (h' b (by simp)).1)
  | cons a rest ih =>
      cases parts' with
      | nil => exact absurd heq (intercalate_ne_nil rest (h a (by simp)).1)
      | cons b rest' =>
          rw [List.forall_mem_cons] at h h'
          cases rest with
          | nil =>
              cases rest' with
              | nil => simpa using heq
              | cons b' rest' =>
                  rw [List.intercalate_singleton, List.intercalate_cons_cons] at heq
                  exact absurd (by simp [heq]) h.1.2
          | cons a' rest =>
              cases rest' with
              | nil =>
                  rw [List.intercalate_singleton, List.intercalate_cons_cons] at heq
                  exact absurd (by simp [← heq]) h'.1.2
              | cons b' rest' =>
                  rw [List.intercalate_cons_cons, List.intercalate_cons_cons, List.append_assoc,
                    List.append_assoc] at heq
                  have hsplit := append_cons_inj h.1.2 h'.1.2 heq
                  have hrest := ih h.2 h'.2 (List.cons.inj hsplit.2).2
                  rw [hsplit.1, hrest]

private theorem notMem_intercalate {c : Char} {parts : List (List Char)}
    (h : ∀ part ∈ parts, c ∉ part) (hc : c ∉ [',', ' ']) : c ∉ [',', ' '].intercalate parts := by
  induction parts with
  | nil => simp
  | cons part rest ih =>
      rw [List.forall_mem_cons] at h
      cases rest with
      | nil => simpa using h.1
      | cons part' rest =>
          rw [List.intercalate_cons_cons, List.mem_append, List.mem_append, not_or, not_or]
          exact ⟨⟨h.1, hc⟩, ih h.2⟩

private theorem eq_of_map_eq {α β : Type} {f : α → β} {xs ys : List α}
    (h : ∀ x ∈ xs, ∀ y ∈ ys, f x = f y → x = y) (hmap : xs.map f = ys.map f) : xs = ys := by
  induction xs generalizing ys with
  | nil => exact (List.map_eq_nil_iff.mp hmap.symm).symm
  | cons x xs ih =>
      cases ys with
      | nil => cases hmap
      | cons y ys =>
          have hcons := List.cons.inj hmap
          have hrest := ih (fun x' hx' y' hy' => h x' (List.mem_cons_of_mem x hx') y'
            (List.mem_cons_of_mem y hy')) hcons.2
          rw [hrest, h x List.mem_cons_self y List.mem_cons_self hcons.1]

/-! ### Signatures -/

def Entry.parameter (e : Entry) : Parameter := ⟨e.stars ++ e.name, "", e.optional⟩

def Entry.text (e : Entry) : List Char :=
  e.stars.toList ++ e.name.toList ++ if e.optional then " = ...".toList else []

private theorem toList_render_parameter (e : Entry) : e.parameter.render.toList = e.text := by
  cases h : e.optional <;> simp [Entry.parameter, Parameter.render, Entry.text, h]

/-- An entry whose name the strict dialect reads. -/
structure Entry.Valid (e : Entry) : Prop where
  stars : ∀ c ∈ e.stars.toList, c = '*'
  name : IsName e.name.toList

private theorem paramEntry_valid {p : Param} (h : IsName p.name.toList) : (paramEntry p).Valid := by
  refine ⟨?_, h⟩
  cases hrole : p.role <;> simp [paramEntry, roleStars, hrole]

namespace Entry.Valid

variable {e e' : Entry}

private theorem isNameChar_or_mem (h : e.Valid) :
    ∀ c ∈ e.text, isNameChar .strict c = true ∨ c ∈ ['*', ' ', '=', '.'] := by
  intro c hc
  unfold text at hc
  rw [List.mem_append, List.mem_append] at hc
  obtain (hc | hc) | hc := hc
  · simp [h.stars c hc]
  · exact .inl (h.name.chars c hc)
  · right
    split at hc
    · have hmarks : " = ...".toList.all (['*', ' ', '=', '.'].contains ·) = true := by decide
      exact List.contains_iff_mem.mp (List.all_eq_true.mp hmarks c hc)
    · cases hc

private theorem text_ne_nil (h : e.Valid) : e.text ≠ [] := by
  have hname := h.name.ne_nil
  simp [text, hname]

private theorem notMem_text (h : e.Valid) {c : Char} (hname : isNameChar .strict c = false)
    (hmark : c ∉ ['*', ' ', '=', '.']) : c ∉ e.text := by
  intro hc
  obtain hc | hc := h.isNameChar_or_mem c hc
  · rw [hname] at hc
    cases hc
  · exact hmark hc

private theorem takeWhile_text (h : e.Valid) :
    e.text.takeWhile (· != ' ') = e.stars.toList ++ e.name.toList := by
  have hlabel : ∀ c ∈ e.stars.toList ++ e.name.toList, (c != ' ') = true := by
    intro c hc
    rw [bne_iff_ne]
    rintro rfl
    obtain hc | hc := List.mem_append.mp hc
    · cases h.stars ' ' hc
    · cases h.name.chars ' ' hc
  unfold text
  rw [List.takeWhile_append_of_pos hlabel]
  cases e.optional <;> simp

private theorem filter_star (h : e.Valid) :
    (e.stars.toList ++ e.name.toList).filter (· == '*') = e.stars.toList := by
  have hstars : e.stars.toList.filter (· == '*') = e.stars.toList :=
    List.filter_eq_self.mpr fun c hc => beq_iff_eq.mpr (h.stars c hc)
  have hname : e.name.toList.filter (· == '*') = [] := by
    rw [List.filter_eq_nil_iff]
    intro c hc hstar
    rw [beq_iff_eq] at hstar
    subst hstar
    cases h.name.chars '*' hc
  rw [List.filter_append, hstars, hname, List.append_nil]

private theorem text_inj (h : e.Valid) (h' : e'.Valid) (heq : e.text = e'.text) : e = e' := by
  have hlabel : e.stars.toList ++ e.name.toList = e'.stars.toList ++ e'.name.toList := by
    rw [← h.takeWhile_text, ← h'.takeWhile_text, heq]
  have hstars : e.stars.toList = e'.stars.toList := by
    rw [← h.filter_star, ← h'.filter_star, hlabel]
  have hname : e.name.toList = e'.name.toList := by
    rw [hstars] at hlabel
    exact List.append_cancel_left hlabel
  have hoptional : e.optional = e'.optional := by
    unfold text at heq
    rw [hlabel] at heq
    have hmark := List.append_cancel_left heq
    cases ho : e.optional <;> cases ho' : e'.optional <;> simp [ho, ho'] at hmark ⊢
  rw [String.toList_inj] at hstars hname
  cases e
  simp_all

end Entry.Valid

private theorem strictParam_of_unannotated {p : Param} (h : p.hint = none) :
    strictParam p = .ok (if p.role.isNamed then [(paramEntry p).parameter] else []) := by
  obtain ⟨role, name, source, hint, default⟩ := p
  obtain rfl : hint = none := h
  cases role <;> simp [strictParam, renderHint, paramEntry, roleStars, Entry.parameter,
    ParamRole.isNamed, ok_bind, pure, Except.pure]

private theorem flatMap_parameter (params : List Param) :
    (params.flatMap fun p => if p.role.isNamed then [(paramEntry p).parameter] else []) =
      ((unmarked params).map paramEntry).map Entry.parameter := by
  unfold unmarked
  induction params with
  | nil => rfl
  | cons p rest ih => cases hnamed : p.role.isNamed <;> simp [hnamed, ih]

private theorem strictParams_of_unannotated {params : List Param}
    (h : ∀ p ∈ params, p.hint = none) :
    strictParams params = .ok (((unmarked params).map paramEntry).map Entry.parameter) := by
  have hgather : gather strictParam params = .ok _ :=
    gather_ok fun p hp => strictParam_of_unannotated (h p hp)
  rw [← flatMap_parameter]
  exact hgather

private theorem toList_formatSignature (name : String) (entries : List Entry)
    (returnType : Option String) :
    ∃ rest, (formatSignature name (entries.map Entry.parameter) returnType).toList =
      name.toList ++ '(' :: ([',', ' '].intercalate (entries.map Entry.text) ++ ')' :: rest) := by
  have hentries : String.toList ∘ Parameter.render ∘ Entry.parameter = Entry.text :=
    funext toList_render_parameter
  unfold formatSignature
  cases returnType with
  | none => exact ⟨[], by simp [hentries]⟩
  | some t =>
      by_cases ht : t = ""
      · exact ⟨[], by simp [hentries, ht]⟩
      · exact ⟨" -> ".toList ++ t.toList, by simp [hentries, ht]⟩

private theorem formatSignature_ne_empty (name : String) (entries : List Entry)
    (returnType : Option String) :
    formatSignature name (entries.map Entry.parameter) returnType ≠ "" := by
  obtain ⟨rest, hrest⟩ := toList_formatSignature name entries returnType
  intro hempty
  simp [hempty] at hrest

/-- Signatures of one name tell their entries, whatever types they return. -/
theorem formatSignature_inj {name : String} {entries entries' : List Entry}
    {returnType returnType' : Option String} (h : ∀ e ∈ entries, e.Valid)
    (h' : ∀ e ∈ entries', e.Valid)
    (heq : formatSignature name (entries.map Entry.parameter) returnType =
      formatSignature name (entries'.map Entry.parameter) returnType') : entries = entries' := by
  obtain ⟨rest, hrest⟩ := toList_formatSignature name entries returnType
  obtain ⟨rest', hrest'⟩ := toList_formatSignature name entries' returnType'
  rw [heq, hrest'] at hrest
  have hbrackets := (List.cons.inj (List.append_cancel_left hrest)).2
  have hclosing {es : List Entry} (hes : ∀ e ∈ es, e.Valid) :
      ')' ∉ [',', ' '].intercalate (es.map Entry.text) := by
    apply notMem_intercalate _ (by decide)
    simp only [List.forall_mem_map]
    exact fun e he => (hes e he).notMem_text rfl (by decide)
  have hparts {es : List Entry} (hes : ∀ e ∈ es, e.Valid) :
      ∀ part ∈ es.map Entry.text, part ≠ [] ∧ ',' ∉ part := by
    simp only [List.forall_mem_map]
    exact fun e he => ⟨(hes e he).text_ne_nil, (hes e he).notMem_text rfl (by decide)⟩
  have htexts := intercalate_inj (hparts h') (hparts h)
    (append_cons_inj (hclosing h') (hclosing h) hbrackets).1
  exact eq_of_map_eq (fun e he e' he' => (h e he).text_inj (h' e' he')) htexts.symm

/-! ### Functions of a module -/

/-- A module has a function at its top level, no parameter of it is annotated, and this is its
symbol. -/
structure Defines (path source : String) (head : FunctionHead) (s : Symbol) : Prop where
  defined : ∃ body inner, parseModule .strict source = some body ∧ .function head inner ∈ body
  unannotated : ∀ p ∈ head.params, p.hint = none
  symbol : strictFunction ⟨path, PullReview.Text.lines source⟩ false head = .ok s

namespace Defines

variable {path path' source source' : String} {head head' : FunctionHead} {s s' : Symbol}

def entries (head : FunctionHead) : List Entry := (unmarked head.params).map paramEntry

theorem valid (h : Defines path source head s) : ∀ e ∈ entries head, e.Valid := by
  obtain ⟨body, inner, hbody, hfunction⟩ := h.defined
  unfold entries
  rw [List.forall_mem_map]
  intro p hp
  apply paramEntry_valid
  exact isName_param hbody (.here hfunction) (List.mem_of_mem_filter hp)
    (isNamed_of_mem_unmarked p hp)

private theorem symbol_eq (h : Defines path source head s) :
    s.name = head.name ∧ s.kind = "function" ∧ s.signature =
      some (formatSignature head.name ((entries head).map Entry.parameter) s.returnType) := by
  obtain ⟨marks, -, hs⟩ := bind_ok h.symbol
  obtain ⟨params, hparams, hs⟩ := bind_ok hs
  obtain ⟨returnType, -, hs⟩ := bind_ok hs
  rw [strictParams_of_unannotated h.unannotated] at hparams
  obtain rfl := Except.ok.inj hparams
  obtain rfl := Except.ok.inj hs
  have hall : ∀ (isStatic : Bool) (params : List Parameter),
      dropReceiver false isStatic params = params := by
    intro isStatic params
    cases params <;> rfl
  refine ⟨rfl, rfl, ?_⟩
  simp only [hall, entries]

private theorem signature_eq_iff (h : Defines path source head s)
    (h' : Defines path' source' head' s') (hname : head.name = head'.name) :
    (s.signature = s'.signature → entries head = entries head') ∧
      (s.returnType = s'.returnType → entries head = entries head' →
        s.signature = s'.signature) := by
  obtain ⟨-, -, hs⟩ := h.symbol_eq
  obtain ⟨-, -, hs'⟩ := h'.symbol_eq
  rw [hs, hs', hname]
  constructor
  · intro heq
    exact formatSignature_inj h.valid h'.valid (Option.some.inj heq)
  · intro hreturn hentries
    rw [hreturn, hentries]

private theorem breaks (h : Defines path source head s) (h' : Defines path' source' head' s')
    {ix : Index} (hindex : ix.symbol? s'.name = some s) (hne : s.signature ≠ s'.signature) :
    Breaking.Breaks ix s' .signature := by
  have hs := h.symbol_eq
  have hs' := h'.symbol_eq
  refine ⟨by simp [hs'.2.1], s, hindex, ?_⟩
  unfold Breaking.Differs
  rw [hs.2.2, hs'.2.2] at hne ⊢
  exact ⟨formatSignature_ne_empty _ _ _, formatSignature_ne_empty _ _ _, fun heq => hne (heq ▸ rfl)⟩

end Defines

private theorem exists_record {ix : Index} {symbols : List Symbol}
    {changed : List (String × List Symbol)} {s : Symbol} {kind : ChangeKind} (hs : s ∈ symbols)
    (hkind : kind ∈ Breaking.checks) (h : Breaking.Breaks ix s kind) :
    ∃ r ∈ Breaking.detect ix symbols changed, r.symbol = s ∧ r.kind = kind := by
  have hmem : (s, kind) ∈ (Breaking.symbolChanges ix s).map Breaking.subject := by
    rw [Breaking.map_subject_symbolChanges, List.mem_map]
    exact ⟨kind, List.mem_filter.mpr ⟨hkind, decide_eq_true h⟩, rfl⟩
  obtain ⟨r, hr, hsubject⟩ := List.mem_map.mp hmem
  refine ⟨r, List.mem_append_left _ (List.mem_flatMap.mpr ⟨s, hs, hr⟩), ?_⟩
  exact Prod.mk.inj hsubject

/-- Two functions of one name have one signature only if their parameters have the same names, stars
and defaults in the same order, and the same kinds once the bare marks are taken away; any other
change is recorded. If they return the same, that is all a signature tells. -/
theorem signature_tells_convention {path path' source source' : String}
    {head head' : FunctionHead} {old new : Symbol} (hold : Defines path source head old)
    (hnew : Defines path' source' head' new) (hname : head.name = head'.name) :
    (old.signature = new.signature →
      (convention head.params).map CallParam.entry = (convention head'.params).map CallParam.entry ∧
      convention (unmarked head.params) = convention (unmarked head'.params) ∧
      ((∀ p ∈ head.params ++ head'.params, p.role.isNamed = true) →
        convention head.params = convention head'.params)) ∧
    (old.returnType = new.returnType →
      convention (unmarked head.params) = convention (unmarked head'.params) →
      old.signature = new.signature) ∧
    ∀ (ix : Index) (symbols : List Symbol) (changed : List (String × List Symbol)),
      ix.symbol? new.name = some old → new ∈ symbols →
      convention (unmarked head.params) ≠ convention (unmarked head'.params) →
      ∃ r ∈ Breaking.detect ix symbols changed, r.symbol = new ∧ r.kind = .signature := by
  have hentries := convention_unmarked_eq_iff head.params head'.params
  have hsignature := hold.signature_eq_iff hnew hname
  refine ⟨fun heq => ?_, fun hreturn hconvention => ?_, ?_⟩
  · have hwritten := hsignature.1 heq
    refine ⟨?_, hentries.mpr hwritten, fun hnamed => ?_⟩
    · unfold convention
      rw [map_entry_conventionFrom, map_entry_conventionFrom]
      exact hwritten
    · rw [List.forall_mem_append] at hnamed
      have hconvention := hentries.mpr hwritten
      rwa [unmarked_of_named hnamed.1, unmarked_of_named hnamed.2] at hconvention
  · exact hsignature.2 hreturn (hentries.mp hconvention)
  · intro ix symbols changed hindex hmem hne
    apply exists_record hmem (by decide)
    apply hold.breaks hnew hindex
    exact fun heq => hne (hentries.mpr (hsignature.1 heq))

/-- The first function of a module and its symbol, if no parameter is annotated. -/
def firstFunction? (path source : String) : Option (FunctionHead × Symbol) :=
  match parseModule .strict source with
  | some (.function head _ :: _) =>
      if head.params.all (·.hint.isNone) then
        match strictFunction ⟨path, PullReview.Text.lines source⟩ false head with
        | .ok s => some (head, s)
        | .error _ => none
      else none
  | _ => none

private theorem defines_of_firstFunction? {path source : String} {found : FunctionHead × Symbol}
    (h : firstFunction? path source = some found) : Defines path source found.1 found.2 := by
  unfold firstFunction? at h
  split at h
  case h_2 => cases h
  case h_1 head inner rest hbody =>
    split at h
    case isFalse => cases h
    case isTrue hhints =>
      split at h
      case h_2 => cases h
      case h_1 s hs =>
        obtain rfl := Option.some.inj h
        refine ⟨⟨_, inner, hbody, List.mem_cons_self⟩, fun p hp => ?_, hs⟩
        exact Option.isNone_iff_eq_none.mp (List.all_eq_true.mp hhints p hp)

/-- What the first function of a module is called, its signature and its convention. -/
def firstConvention? (source : String) : Option (String × Option String × List CallParam) :=
  (firstFunction? "a.py" source).map fun found =>
    (found.2.name, found.2.signature, convention found.1.params)

private theorem exists_defines {source name : String} {signature : Option String}
    {params : List CallParam} (h : firstConvention? source = some (name, signature, params)) :
    ∃ head s, Defines "a.py" source head s ∧ head.name = name ∧ s.signature = signature ∧
      convention head.params = params := by
  obtain ⟨⟨head, s⟩, hfound, heq⟩ := Option.map_eq_some_iff.mp h
  have hdefines := defines_of_firstFunction? hfound
  simp only [Prod.mk.injEq] at heq
  exact ⟨head, s, hdefines, hdefines.symbol_eq.1 ▸ heq.1, heq.2⟩

theorem lost_default_recorded : ∃ head head' old new,
    Defines "a.py" "def f(a, b=1, *args, c, **kw): pass\n" head old ∧
      Defines "a.py" "def f(a, b, *args, c, **kw): pass\n" head' new ∧ head.name = head'.name ∧
      convention (unmarked head.params) ≠ convention (unmarked head'.params) ∧
      ∃ r ∈ Breaking.detect (({} : Index).add "a.py" [old] []) [new] [],
        r.symbol = new ∧ r.kind = .signature := by
  have hfirst : firstConvention? "def f(a, b=1, *args, c, **kw): pass\n" =
      some ("f", some "f(a, b = ..., *args, c, **kw)",
        [⟨"a", .positionalOrKeyword, false⟩, ⟨"b", .positionalOrKeyword, true⟩,
          ⟨"args", .varPositional, false⟩, ⟨"c", .keywordOnly, false⟩,
          ⟨"kw", .varKeyword, false⟩]) := by decide +kernel
  have hsecond : firstConvention? "def f(a, b, *args, c, **kw): pass\n" =
      some ("f", some "f(a, b, *args, c, **kw)",
        [⟨"a", .positionalOrKeyword, false⟩, ⟨"b", .positionalOrKeyword, false⟩,
          ⟨"args", .varPositional, false⟩, ⟨"c", .keywordOnly, false⟩,
          ⟨"kw", .varKeyword, false⟩]) := by decide +kernel
  obtain ⟨head, old, hold, hname, -, hparams⟩ := exists_defines hfirst
  obtain ⟨head', new, hnew, hname', -, hparams'⟩ := exists_defines hsecond
  have hnames : head.name = head'.name := hname.trans hname'.symm
  have hne : convention (unmarked head.params) ≠ convention (unmarked head'.params) := by
    intro heq
    have hentries := (convention_unmarked_eq_iff _ _).mp heq
    rw [← map_entry_conventionFrom false, ← map_entry_conventionFrom false] at hentries
    unfold convention at hparams hparams'
    rw [hparams, hparams'] at hentries
    revert hentries
    decide
  have hindex : (({} : Index).add "a.py" [old] []).symbol? new.name = some old := by
    rw [hnew.symbol_eq.1, ← hnames, ← hold.symbol_eq.1]
    simp [Index.add, Index.symbol?, Table.get?_insert]
  refine ⟨head, head', old, new, hold, hnew, hnames, hne, ?_⟩
  exact (signature_tells_convention hold hnew hnames).2.2 _ [new] [] hindex (by simp) hne

theorem bare_marks_unseen : ∃ slash plain star s s' s'',
    Defines "a.py" "def f(a, /): pass\n" slash s ∧ Defines "a.py" "def f(a): pass\n" plain s' ∧
      Defines "a.py" "def f(*, a): pass\n" star s'' ∧
      slash.name = plain.name ∧ plain.name = star.name ∧
      s.signature = s'.signature ∧ s'.signature = s''.signature ∧
      [convention slash.params, convention plain.params, convention star.params].Nodup := by
  have hslash : firstConvention? "def f(a, /): pass\n" =
      some ("f", some "f(a)", [⟨"a", .positionalOnly, false⟩]) := by decide +kernel
  have hplain : firstConvention? "def f(a): pass\n" =
      some ("f", some "f(a)", [⟨"a", .positionalOrKeyword, false⟩]) := by decide +kernel
  have hstar : firstConvention? "def f(*, a): pass\n" =
      some ("f", some "f(a)", [⟨"a", .keywordOnly, false⟩]) := by decide +kernel
  obtain ⟨slash, s, hs, hname, hsignature, hparams⟩ := exists_defines hslash
  obtain ⟨plain, s', hs', hname', hsignature', hparams'⟩ := exists_defines hplain
  obtain ⟨star, s'', hs'', hname'', hsignature'', hparams''⟩ := exists_defines hstar
  refine ⟨slash, plain, star, s, s', s'', hs, hs', hs'', hname.trans hname'.symm,
    hname'.trans hname''.symm, hsignature.trans hsignature'.symm,
    hsignature'.trans hsignature''.symm, ?_⟩
  rw [hparams, hparams', hparams'']
  decide

end PullReview.Extract
