import PullReview.Proofs.Extract.Extent
import PullReview.Proofs.Extract.Visit

/-!
# What the two extractors read alike

The extractors take the lines and the kind of a definition, and the constants of a module, from
different parts of the tree. These come out the same where both dialects have the same definitions
and these are plainly written: the expression of the first decorator starts on the line of its mark,
no comment belongs to the end of a block, bases are names with points and subscripts, and a constant
is the only target of its statement and stands without brackets.
-/

namespace PullReview

namespace Python

/-! ### Plain writing of names -/

def Expr.name? : Expr → Option String
  | .name id => some id
  | _ => none

mutual

/-- The text of a name with points and subscripts, a blank only behind each comma. Only a subscript
may have several items. -/
def Expr.plainText? (asIndex : Bool) : Expr → Option String
  | .name id => some id
  | .attribute value attr => (value.plainText? false).map (· ++ "." ++ attr)
  | .subscript value index => do
      let text ← value.plainText? false
      return text ++ "[" ++ (← index.plainText? true) ++ "]"
  | .tuple items =>
      if asIndex && 2 ≤ items.length then (plainTexts? items).map (", ".intercalate ·) else none
  | _ => none

def plainTexts? : List Expr → Option (List String)
  | [] => some []
  | e :: rest => do return (← e.plainText? false) :: (← plainTexts? rest)

end

private theorem endsInDigit_of_plainText? {e : Expr} {text : String}
    (h : e.plainText? false = some text) : endsInDigit e = false := by
  cases e with
  | name id => rfl
  | «attribute» value attr => rfl
  | subscript value index => rfl
  | tuple items => rfl
  | _ => simp [Expr.plainText?] at h

private theorem length_plainTexts? {items : List Expr} {texts : List String}
    (h : plainTexts? items = some texts) : texts.length = items.length := by
  induction items generalizing texts with
  | nil =>
      rw [plainTexts?] at h
      rw [← Option.some.inj h]
      rfl
  | cons e rest ih =>
      simp only [plainTexts?, Option.bind_eq_bind, Option.bind_eq_some_iff, Option.pure_def,
        Option.some.injEq] at h
      obtain ⟨text, _, texts', hrest, rfl⟩ := h
      rw [List.length_cons, List.length_cons, ih hrest]

private theorem tupleText_of_length {texts : List String} (h : 2 ≤ texts.length) :
    tupleText texts = ", ".intercalate texts := by
  match texts, h with
  | _ :: _ :: _, _ => rfl

mutual

private theorem renderAt_of_plainText? :
    ∀ (asIndex : Bool) (asked : Nat) (e : Expr) (text : String),
    (asIndex = true → asked = indexStrength e) → e.plainText? asIndex = some text →
      e.renderAt false asked = .ok text
  | _, _, .name id, text, _, h => by
      rw [Expr.plainText?] at h
      rw [Expr.renderAt, Option.some.inj h]
  | _, _, .attribute value attr, text, _, h => by
      rw [Expr.plainText?] at h
      obtain ⟨v, hv, rfl⟩ := Option.map_eq_some_iff.mp h
      rw [Expr.renderAt, renderAt_of_plainText? false _ value v (by simp) hv,
        endsInDigit_of_plainText? hv]
      rfl
  | _, _, .subscript value index, text, _, h => by
      simp only [Expr.plainText?, Option.bind_eq_bind, Option.bind_eq_some_iff, Option.pure_def,
        Option.some.injEq] at h
      obtain ⟨v, hv, i, hi, rfl⟩ := h
      rw [Expr.renderAt, renderAt_of_plainText? false _ value v (by simp) hv,
        renderAt_of_plainText? true _ index i (fun _ => rfl) hi]
      simp [enclose, bind, Except.bind, pure, Except.pure, String.append_assoc]
  | asIndex, asked, .tuple items, text, hasked, h => by
      rw [Expr.plainText?] at h
      split at h
      · rename_i hindex
        simp only [Bool.and_eq_true, decide_eq_true_eq] at hindex
        obtain ⟨texts, htexts, rfl⟩ := Option.map_eq_some_iff.mp h
        have hlength := length_plainTexts? htexts
        have hne : items.isEmpty = false := by
          cases items with
          | nil => simp at hindex
          | cons => rfl
        rw [Expr.renderAt, renderAll_of_plainTexts? _ items texts htexts, hasked hindex.1, hne]
        change Except.ok (tupleText texts) = _
        rw [tupleText_of_length (by omega)]
      · cases h
  | _, _, .constant _, _, _, h | _, _, .int _, _, _, h | _, _, .float _, _, _, h
  | _, _, .imaginary _, _, _, h | _, _, .text _ _, _, _, h | _, _, .bytes _, _, _, h
  | _, _, .formatted _, _, _, h | _, _, .group _, _, _, h | _, _, .call _ _ _, _, _, h
  | _, _, .await _, _, _, h | _, _, .yield _, _, _, h | _, _, .yieldFrom _, _, _, h
  | _, _, .unary _ _, _, _, h | _, _, .binary _ _ _, _, _, h | _, _, .bool _ _, _, _, h
  | _, _, .compare _ _ _, _, _, h | _, _, .conditional _ _ _, _, _, h | _, _, .lambda _ _, _, _, h
  | _, _, .list _, _, _, h | _, _, .set _, _, _, h | _, _, .dict _, _, _, h
  | _, _, .comprehension _ _ _, _, _, h | _, _, .dictComprehension _ _ _, _, _, h
  | _, _, .starred _, _, _, h | _, _, .slice _ _ _, _, _, h | _, _, .named _ _, _, _, h => by
      simp [Expr.plainText?] at h

private theorem renderAll_of_plainTexts? :
    ∀ (asked : Nat) (items : List Expr) (texts : List String),
    plainTexts? items = some texts → renderAll false asked items = .ok texts
  | _, [], texts, h => by
      rw [plainTexts?] at h
      rw [renderAll, Option.some.inj h]
  | asked, e :: rest, texts, h => by
      simp only [plainTexts?, Option.bind_eq_bind, Option.bind_eq_some_iff, Option.pure_def,
        Option.some.injEq] at h
      obtain ⟨text, htext, texts', hrest, rfl⟩ := h
      rw [renderAll, renderAt_of_plainText? false _ e text (by simp) htext,
        renderAll_of_plainTexts? _ rest texts' hrest]
      rfl

end

/-- The targets of an assignment. -/
def Stmt.targets : Stmt → List Expr
  | .assign _ targets _ => targets
  | .annotate _ target _ _ => [target]
  | _ => []

end Python

namespace Extract

open Python

/-- What a symbol is called, what it is, and the lines it covers. -/
def outline (s : Symbol) : String × String × Int × Int := (s.name, s.kind, s.startLine, s.endLine)

/-! ### Definitions that are the same in two trees -/

/-- What counts of a base: whether it has a name, and its text. -/
def baseShape (b : Base) : Bool × String :=
  match b.argument with
  | .keyword _ _ => (true, b.source)
  | _ => (false, b.source)

/-- What counts of a target: whether it stands in brackets, and the name in them. -/
def targetShape (e : Expr) : Bool × Option String := (e.isGroup, e.ungroup.name?)

def isDefinition : Stmt → Bool
  | .function _ _ | .class _ _ => true
  | _ => false

/-- Two heads have the same lines, and decorators with their marks on the same lines. -/
def sameLines (extent : Extent) (decorators : List Decorator) (extent' : Extent)
    (decorators' : List Decorator) : Bool :=
  extent == extent' && decorators.map (·.markLine) == decorators'.map (·.markLine)

mutual

/-- The definitions that stand directly in a statement are the same in two readings of it. -/
def same : Stmt → Stmt → Bool
  | .function head body, s' =>
      match s' with
      | .function head' body' =>
          head.name == head'.name &&
            sameLines head.extent head.decorators head'.extent head'.decorators &&
            sameBody body body'
      | _ => false
  | .class head body, s' =>
      match s' with
      | .class head' body' =>
          head.name == head'.name &&
            sameLines head.extent head.decorators head'.extent head'.decorators &&
            head.bases.map baseShape == head'.bases.map baseShape && sameBody body body'
      | _ => false
  | _, s' => !isDefinition s'

def sameBody : List Stmt → List Stmt → Bool
  | [], body' => body'.isEmpty
  | s :: rest, body' =>
      match body' with
      | s' :: rest' => same s s' && sameBody rest rest'
      | [] => false

end

/-- The statements of two modules have the same lines and targets, and the same definitions. -/
def sameModule : List Stmt → List Stmt → Bool
  | [], body' => body'.isEmpty
  | s :: rest, body' =>
      match body' with
      | s' :: rest' =>
          s.extent? == s'.extent? && s.targets.map targetShape == s'.targets.map targetShape &&
            same s s' && sameModule rest rest'
      | [] => false

/-! ### Definitions that are plainly written -/

/-- The first decorator's expression starts on the line of its mark, and no comment behind the last
token belongs to the block. -/
def plainLines (extent : Extent) (decorators : List Decorator) : Bool :=
  decorators.head?.all (fun d => d.exprLine == d.markLine) && extent.reach == extent.last

/-- A base is a name with points and subscripts, or an argument with a name. -/
def plainBase (b : Base) : Bool :=
  match b.argument with
  | .positional e => e.plainText? false == some b.source
  | .keyword _ _ => true
  | _ => false

mutual

def plain : Stmt → Bool
  | .function head body => plainLines head.extent head.decorators && plainBody body
  | .class head body =>
      plainLines head.extent head.decorators && head.bases.all plainBase && plainBody body
  | _ => true

def plainBody : List Stmt → Bool
  | [] => true
  | s :: rest => plain s && plainBody rest

end

def namesConstant (e : Expr) : Bool := e.ungroup.name?.any isConstantName

/-- A constant is the only target of its statement and stands without brackets. -/
def plainTargets : List Expr → Bool
  | [target] => !(target.isGroup && namesConstant target)
  | targets => targets.head?.all (!namesConstant ·)

def plainModule (body : List Stmt) : Bool :=
  body.all (fun s => plainTargets s.targets) && plainBody body

/-! ### Lines -/

/-- The strict start of a decorated statement is that of its first decorator's expression. -/
def StartsAtFirst (s : Stmt) : Prop :=
  ∀ extent d others, s.extent? = some extent → s.decorators = d :: others →
    strictStart extent s.decorators = d.exprLine

theorem everywhere_startsAtFirst {content : String} {body : List Stmt}
    (h : parseModule .strict content = some body) : Everywhere StartsAtFirst body :=
  fun _ hs _ _ _ hextent hdecorators => strictStart_of_within h hs hextent hdecorators

/-- Both extractors give a plainly written definition the same lines. -/
theorem lines_of_same {s : Stmt} {extent extent' : Extent} {decorators' : List Decorator}
    (hextent : s.extent? = some extent) (hstarts : StartsAtFirst s)
    (hsame : sameLines extent s.decorators extent' decorators' = true)
    (hplain : plainLines extent s.decorators = true) :
    strictStart extent s.decorators = tolerantStart extent' decorators' ∧
      extent.last = extent'.reach := by
  simp only [sameLines, Bool.and_eq_true, beq_iff_eq] at hsame
  simp only [plainLines, Bool.and_eq_true, beq_iff_eq] at hplain
  obtain ⟨rfl, hmarks⟩ := hsame
  obtain ⟨hfirst, hreach⟩ := hplain
  refine ⟨?_, hreach.symm⟩
  cases hds : s.decorators with
  | nil =>
      rw [hds, List.map_nil] at hmarks
      rw [List.map_eq_nil_iff.mp hmarks.symm]
      rfl
  | cons d others =>
      rw [hds, List.map_cons] at hmarks
      obtain ⟨d', others', rfl, hmark, -⟩ := List.map_eq_cons_iff.mp hmarks.symm
      have hstart := hstarts extent d others hextent hds
      rw [hds] at hstart hfirst
      have hline : d.exprLine = d.markLine := by simpa using hfirst
      rw [hstart, hline, tolerantStart, hmark]

/-! ### Kinds -/

theorem tolerantBases_eq (bases : List Base) :
    tolerantBases bases =
      (bases.map baseShape).filterMap fun shape => if shape.1 then none else some shape.2 := by
  rw [tolerantBases, List.filterMap_map]
  congr 1
  funext b
  obtain ⟨argument, source⟩ := b
  cases argument <;> rfl

private theorem tolerantBases_cons (b : Base) (bases : List Base) :
    tolerantBases (b :: bases) = tolerantBases [b] ++ tolerantBases bases := by
  rw [tolerantBases, tolerantBases, tolerantBases, ← List.filterMap_append]
  rfl

private theorem strictBase_of_plain {b : Base} (h : plainBase b = true) :
    strictBase b = .ok (tolerantBases [b]) := by
  rw [plainBase] at h
  cases harg : b.argument with
  | positional e =>
      rw [harg] at h
      have hrender : e.render = .ok b.source :=
        renderAt_of_plainText? false Strength.test e b.source (by simp) (beq_iff_eq.mp h)
      simp [strictBase, harg, render, hrender, tolerantBases, Except.map]
  | keyword name e => simp [strictBase, harg, tolerantBases]
  | starred e | doubleStarred e =>
      rw [harg] at h
      cases h

/-- The canonical form of plainly written bases is their text. -/
theorem strictBases_of_plain {bases : List Base} (h : bases.all plainBase = true) :
    strictBases bases = .ok (tolerantBases bases) := by
  induction bases with
  | nil => rfl
  | cons b bases ih =>
      rw [List.all_cons, Bool.and_eq_true] at h
      have hrest := ih h.2
      rw [strictBases] at hrest ⊢
      obtain ⟨names, hnames, hflat⟩ := bind_ok hrest
      rw [List.mapM_cons, strictBase_of_plain h.1, ok_bind, hnames, ok_bind,
        tolerantBases_cons b bases, ← Except.ok.inj hflat]
      rfl

/-! ### Constants -/

/-- The name that a statement binds for the strict extractor: it has one target. -/
def strictName? : Stmt → Option (String × Extent)
  | .assign extent [target] _ | .annotate extent target _ _ =>
      match target.ungroup with
      | .name id => some (id, extent)
      | _ => none
  | _ => none

/-- The name that a statement binds for the tolerant extractor: the first target, without
brackets. -/
def tolerantName? : Stmt → Option (String × Extent)
  | .assign extent (.name id :: _) _ | .annotate extent (.name id) _ _ => some (id, extent)
  | _ => none

/-- The outline of the constant that a bound name is, if it is one. -/
def constants (bound : Option (String × Extent)) : List (String × String × Int × Int) :=
  (bound.filter (isConstantName ·.1)).toList.map fun b => (b.1, "field", b.2.first, b.2.last)

private theorem constants_name (id : String) (extent : Extent) :
    constants (some (id, extent)) =
      if isConstantName id then [(id, "field", (extent.first : Int), (extent.last : Int))]
      else [] := by
  by_cases h : isConstantName id = true <;> simp [constants, Option.filter, h]

theorem strictConstant_outline {text : Text} {s : Stmt} {found : List Symbol}
    (h : strictConstant text s = .ok found) : found.map outline = constants (strictName? s) := by
  revert h
  fun_cases strictConstant text s with
  | case1 extent target value id hid =>
      intro h
      rw [← Except.ok.inj h, strictName?]
      simp only [hid, constants_name]
      split <;> rfl
  | case2 extent target value hother =>
      intro h
      rw [← Except.ok.inj h, strictName?]
      split
      · exact absurd ‹_› (hother _)
      · rfl
  | case3 extent target hint value id hid =>
      intro h
      obtain ⟨type, _, h⟩ := bind_ok h
      rw [← Except.ok.inj h, strictName?]
      simp only [hid, constants_name]
      split <;> rfl
  | case4 extent target hint value hother =>
      intro h
      rw [← Except.ok.inj h, strictName?]
      split
      · exact absurd ‹_› (hother _)
      · rfl
  | case5 _ hassign hannotate =>
      intro h
      rw [← Except.ok.inj h, strictName?]
      · rfl
      · exact hassign
      · exact hannotate

theorem tolerantConstant_outline (text : Text) (s : Stmt) :
    (tolerantConstant text s).map outline = constants (tolerantName? s) := by
  fun_cases tolerantConstant text s with
  | case1 extent id others value h | case3 extent id hint value h =>
      rw [tolerantName?, constants_name, if_pos h]
      rfl
  | case2 extent id others value h | case4 extent id hint value h =>
      rw [tolerantName?, constants_name, if_neg h]
      rfl
  | case5 _ hassign hannotate =>
      rw [tolerantName?]
      · rfl
      · exact hassign
      · exact hannotate

def soleName? : List Expr → Option String
  | [target] => target.ungroup.name?
  | _ => none

private theorem strictName?_eq (s : Stmt) :
    strictName? s = (soleName? s.targets).bind fun id => s.extent?.map (id, ·) := by
  have hone (extent : Extent) (target : Expr) :
      (match target.ungroup with
        | .name id => some (id, extent)
        | _ => none) = target.ungroup.name?.bind fun id => some (id, extent) := by
    cases target.ungroup <;> rfl
  cases s with
  | assign extent targets value =>
      match targets with
      | [] | _ :: _ :: _ => rfl
      | [target] => exact hone extent target
  | annotate extent target hint value => exact hone extent target
  | _ => rfl

private theorem tolerantName?_eq (s : Stmt) :
    tolerantName? s =
      (s.targets.head?.bind Expr.name?).bind fun id => s.extent?.map (id, ·) := by
  cases s with
  | assign extent targets value =>
      match targets with
      | [] => rfl
      | target :: _ => cases target <;> rfl
  | annotate extent target hint value => cases target <;> rfl
  | _ => rfl

private theorem constants_bind (name : Option String) (extent? : Option Extent) :
    constants (name.bind fun id => extent?.map (id, ·)) =
      ((name.filter isConstantName).bind fun id => extent?.map fun extent =>
        (id, "field", (extent.first : Int), (extent.last : Int))).toList := by
  cases name with
  | none => rfl
  | some id =>
      cases extent? with
      | none => cases h : isConstantName id <;> simp [constants, Option.filter, h]
      | some extent => cases h : isConstantName id <;> simp [constants, Option.filter, h]

private theorem name?_of_not_isGroup {e : Expr} (h : e.isGroup = false) :
    e.name? = e.ungroup.name? := by
  cases e with
  | group inner => cases h
  | _ => rfl

private theorem ungroup_name? {e : Expr} {id : String} (h : e.name? = some id) :
    e.ungroup.name? = some id := by
  cases e with
  | name id' => exact h
  | _ => cases h

private theorem filter_ungroup_name? {e : Expr} (h : namesConstant e = false) :
    e.ungroup.name?.filter isConstantName = none := by
  rw [namesConstant] at h
  cases hid : e.ungroup.name? with
  | none => rfl
  | some id =>
      rw [hid, Option.any_some] at h
      simp [Option.filter, h]

private theorem filter_name? {e : Expr} (h : namesConstant e = false) :
    e.name?.filter isConstantName = none := by
  cases hid : e.name? with
  | none => rfl
  | some id =>
      have hnone := filter_ungroup_name? h
      rwa [ungroup_name? hid] at hnone

/-- Of a single target the strict extractor takes the name in its brackets, the tolerant one takes
the first target as it stands: for constants that are plainly written this is the same. -/
theorem filter_name_of_same {targets targets' : List Expr}
    (hsame : targets.map targetShape = targets'.map targetShape)
    (hplain : plainTargets targets = true) :
    (soleName? targets).filter isConstantName =
      (targets'.head?.bind Expr.name?).filter isConstantName := by
  cases targets with
  | nil =>
      rw [List.map_eq_nil_iff.mp hsame.symm]
      rfl
  | cons e rest =>
      obtain ⟨e', rest', rfl, hshape, -⟩ := List.map_eq_cons_iff.mp hsame.symm
      obtain ⟨hgroup, hname⟩ := Prod.mk.inj hshape
      have hconstant : namesConstant e' = namesConstant e := by
        rw [namesConstant, namesConstant, hname]
      change _ = e'.name?.filter isConstantName
      cases hnames : namesConstant e with
      | false =>
          rw [filter_name? (hconstant.trans hnames)]
          cases rest with
          | nil => exact filter_ungroup_name? hnames
          | cons => rfl
      | true =>
          cases rest with
          | nil =>
              have hbare : e.isGroup = false := by simpa [plainTargets, hnames] using hplain
              rw [name?_of_not_isGroup (hgroup.trans hbare), hname]
              rfl
          | cons => simp [plainTargets, hnames] at hplain

/-- Both extractors find the same constant in a plainly written statement. -/
theorem constants_of_same {s s' : Stmt} (hextent : s.extent? = s'.extent?)
    (htargets : s.targets.map targetShape = s'.targets.map targetShape)
    (hplain : plainTargets s.targets = true) :
    constants (strictName? s) = constants (tolerantName? s') := by
  rw [strictName?_eq, tolerantName?_eq, constants_bind, constants_bind, hextent,
    filter_name_of_same htargets hplain]

end Extract

end PullReview
