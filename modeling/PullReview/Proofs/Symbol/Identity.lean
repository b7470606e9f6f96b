import PullReview.Extract.Reader
import PullReview.Proofs.Duplicate.Across
import PullReview.Proofs.Embedding.Store
import PullReview.Proofs.Extract.Origin
import PullReview.Proofs.Json.RoundTrip

/-!
# The identity of declarations

The id of a symbol is its file, its name, its kind and its first line with colons in between. No
colon is marked as part of a text, and a file may hold any number of them. But there is none in a
number, and none in the names and kinds of extracted symbols. So an id can be taken apart from its
end, and two symbols have the same id exactly if they are the same declaration.
-/

namespace PullReview

private theorem eq_nil_of_separator_eq {α : Type} {c : α} {u v more : List α} (hu : c ∉ u)
    (h : c :: u = more ++ c :: v) : more = [] := by
  cases more with
  | nil => rfl
  | cons _ more =>
      refine absurd ?_ hu
      rw [(List.cons.inj h).2]
      simp

private theorem append_separator_inj {α : Type} {c : α} {xs ys u v : List α} (hu : c ∉ u)
    (hv : c ∉ v) : xs ++ c :: u = ys ++ c :: v ↔ xs = ys ∧ u = v := by
  constructor
  · intro h
    obtain ⟨more, rfl, hmore⟩ | ⟨more, rfl, hmore⟩ := List.append_eq_append_iff.mp h
    · obtain rfl := eq_nil_of_separator_eq hu hmore
      exact ⟨(List.append_nil xs).symm, (List.cons.inj hmore).2⟩
    · obtain rfl := eq_nil_of_separator_eq hv hmore
      exact ⟨List.append_nil ys, (List.cons.inj hmore).2.symm⟩
  · rintro ⟨rfl, rfl⟩
    rfl

private theorem colon_notMem_toString (n : Int) : ':' ∉ (toString n).toList := by
  rw [Json.toList_toString, List.mem_append]
  rintro (h | h)
  · unfold Json.sign at h
    split at h <;> simp at h
  · exact absurd (Json.isDigit_of_mem_digits h) (by decide)

private theorem toString_int_inj {m n : Int} : toString m = toString n ↔ m = n := by
  refine ⟨fun h => ?_, congrArg toString⟩
  have htext : Json.sign m ++ (Json.digits m ++ []) = Json.sign n ++ (Json.digits n ++ []) := by
    rw [List.append_nil, List.append_nil, ← Json.toList_toString, ← Json.toList_toString, h]
  have hsign : m < 0 ↔ n < 0 := by
    rw [← decide_eq_decide, ← Json.isNegative_toString m [], htext, Json.isNegative_toString]
  have hdigits : Json.digits m ++ [] = Json.digits n ++ [] := by
    rw [← Json.afterSign_toString m [], htext, Json.afterSign_toString]
  have hsize : m.natAbs = n.natAbs := by
    rw [List.append_nil, List.append_nil] at hdigits
    rw [← Json.digitsValue_digits m, hdigits, Json.digitsValue_digits]
  omega

namespace Symbol

/-- What tells a declaration from all others: its file, its name, its kind and its first line. -/
def declaration (s : Symbol) : String × String × String × Int :=
  (s.file, s.name, s.kind, s.startLine)

/-- Neither the name nor the kind holds a colon; the file may. -/
structure IsColonFree (s : Symbol) : Prop where
  name : ':' ∉ s.name.toList
  kind : ':' ∉ s.kind.toList

private theorem toList_id (s : Symbol) :
    s.id.toList = (((s.file.toList ++ ':' :: s.name.toList) ++ ':' :: s.kind.toList) ++
      ':' :: (toString s.startLine).toList) := by
  simp only [Symbol.id, String.toList_append, List.append_assoc]
  rfl

private theorem id_eq_iff {a b : Symbol} (ha : a.IsColonFree) (hb : b.IsColonFree) :
    a.id = b.id ↔ a.declaration = b.declaration := by
  rw [← String.toList_inj, toList_id, toList_id,
    append_separator_inj (colon_notMem_toString _) (colon_notMem_toString _),
    append_separator_inj ha.kind hb.kind, append_separator_inj ha.name hb.name,
    String.toList_inj, String.toList_inj, String.toList_inj, String.toList_inj, toString_int_inj]
  simp only [declaration, Prod.mk.injEq, and_assoc]

end Symbol

/-! ### Extracted symbols -/

namespace Extract

open Python

private theorem colon_notMem_of_isName {cs : List Char} (h : IsName cs) : ':' ∉ cs := by
  intro hc
  exact absurd (h.chars ':' hc) (by decide)

private theorem colon_notMem_of_isConstantName {name : String} (h : isConstantName name = true) :
    ':' ∉ name.toList := by
  unfold isConstantName at h
  split at h
  · cases h
  · rename_i c rest hname
    rw [Bool.and_eq_true, List.all_eq_true] at h
    rw [hname, List.mem_cons]
    rintro (rfl | hc)
    · exact absurd h.1 (by decide)
    · exact absurd (h.2 ':' hc) (by decide)

private theorem colon_notMem_of_mem_kinds {kind : String} (h : kind ∈ kinds) :
    ':' ∉ kind.toList := by
  have hall : kinds.all (fun k => !k.toList.contains ':') = true := by decide
  simpa using List.all_eq_true.mp hall kind h

private theorem isColonFree_of_extract {d : Dialect} {path content : String} {e : Extracted}
    {s : Symbol} (h : extract d path content = .ok e) (hs : s ∈ e.symbols) : s.IsColonFree := by
  obtain ⟨body, hbody, stmt, hstmt, hmade⟩ := isMadeIn_of_extract h hs
  obtain ⟨hname, hkind⟩ := hmade.named
  refine ⟨?_, colon_notMem_of_mem_kinds hkind⟩
  obtain hname | hname := hname
  · exact colon_notMem_of_isName (isName_definedName hbody hstmt hname)
  · exact colon_notMem_of_isConstantName hname

private theorem Reader.isColonFree_of_extract {r : Reader} {path content : String} {e : Extracted}
    {s : Symbol} (h : r.extract path content = .ok e) (hs : s ∈ e.symbols) : s.IsColonFree := by
  unfold Reader.extract at h
  split at h
  · exact Extract.isColonFree_of_extract h hs
  · cases h
    cases hs

end Extract

/-! ### Ids in use -/

/-- The two declarations of a match. -/
def DuplicateMatch.declarations (x : DuplicateMatch) :
    (String × String × String × Int) × (String × String × String × Int) :=
  (x.first.declaration, x.second.declaration)

structure DuplicateMatch.IsColonFree (x : DuplicateMatch) : Prop where
  first : x.first.IsColonFree
  second : x.second.IsColonFree

namespace Duplicate.Detector

private theorem samePair_iff {x y : DuplicateMatch} (hx : x.IsColonFree) (hy : y.IsColonFree) :
    SamePair x y ↔ x.declarations = y.declarations := by
  rw [SamePair, Symbol.id_eq_iff hx.first hy.first, Symbol.id_eq_iff hx.second hy.second]
  exact Iff.of_eq (Prod.mk.injEq _ _ _ _).symm

/-- One more match is reported unless there was one of the same declarations before. -/
theorem distinctMatches_concat {ms : List DuplicateMatch} {x : DuplicateMatch}
    (hms : ∀ y ∈ ms, y.IsColonFree) (hx : x.IsColonFree) :
    distinctMatches (ms ++ [x]) =
      if x.declarations ∈ ms.map DuplicateMatch.declarations then distinctMatches ms
      else distinctMatches ms ++ [x] := by
  have hkept : distinctMatches ms = ms.foldl keepNew [] := rfl
  have hstep : distinctMatches (ms ++ [x]) = keepNew (distinctMatches ms) x :=
    List.foldl_concat _ _ _ _
  rw [hstep]
  rcases keepNew_cases (distinctMatches ms) x with ⟨hkeep, k, hk, hsame⟩ | ⟨hkeep, hnew⟩
  · have hmem : k ∈ ms := (mem_foldl_keepNew (hkept ▸ hk)).resolve_left List.not_mem_nil
    rw [hkeep, if_pos]
    exact List.mem_map.mpr ⟨k, hmem, (samePair_iff (hms k hmem) hx).mp hsame⟩
  · rw [hkeep, if_neg]
    intro hold
    obtain ⟨y, hy, hdeclarations⟩ := List.mem_map.mp hold
    have hyx := (samePair_iff (hms y hy) hx).mpr hdeclarations
    have hmem : (∃ k ∈ ([] : List DuplicateMatch), SamePair k y) ∨ y ∈ ms := .inr hy
    obtain ⟨k, hk, hky⟩ := exists_mem_foldl_keepNew hmem
    exact hnew k hk ⟨hky.1.trans hyx.1, hky.2.trans hyx.2⟩

theorem isIndexed_iff_declaration {d : Detector} {s : Symbol} (hs : s.IsColonFree)
    (hfile : ∀ t ∈ d.index.fileSymbols s.file, t.IsColonFree) :
    d.isIndexed s = true ↔ ∃ t ∈ d.index.fileSymbols s.file, t.declaration = s.declaration := by
  rw [isIndexed, List.any_eq_true]
  refine exists_congr fun t => and_congr_right fun ht => ?_
  rw [beq_iff_eq, Symbol.id_eq_iff (hfile t ht) hs]

end Duplicate.Detector

namespace Embedding.Store

/-- A batch takes the place of the rows of its own declarations, and of no others. -/
theorem rows_write_declarations {store : Store} {old batch : List Entry}
    (hold : ∀ e ∈ old, e.1.IsColonFree) (hbatch : ∀ e ∈ batch, e.1.IsColonFree)
    (hrows : store.rows = old.map Entry.row) (hwrite : (store.write batch).1.isOk = true) :
    (store.write batch).2.rows =
      (old.filter (fun e => e.1.declaration ∉ batch.map (·.1.declaration)) ++ batch).map
        Entry.row := by
  rw [rows_write hwrite, hrows, List.filter_map, List.map_append]
  congr 2
  apply List.filter_congr
  intro e he
  have hsame : batch.any (fun b => b.1.id == e.1.id) =
      decide (e.1.declaration ∈ batch.map (·.1.declaration)) := by
    rw [Bool.eq_iff_iff, List.any_eq_true, decide_eq_true_eq, List.mem_map]
    refine exists_congr fun b => and_congr_right fun hb => ?_
    rw [beq_iff_eq, Symbol.id_eq_iff (hbatch b hb) (hold e he)]
  change (!batch.any fun b => b.1.id == e.1.id) = _
  rw [hsame, decide_not]

end Embedding.Store

open Duplicate (Detector)

open PullReview.Embedding (Entry Store)

/-- No reader gives a symbol with a colon in its name or its kind. Symbols without one have the same
id exactly if they are the same declaration, whatever their files and lines. So the matches that are
left out as repeated are those with the declarations of an earlier one; a batch replaces the rows of
its own declarations only; and a symbol counts as indexed exactly if its declaration is. -/
theorem id_tells_declarations :
    (∀ (r : Extract.Reader) (path content : String) (e : Extract.Extracted),
      r.extract path content = .ok e → ∀ s ∈ e.symbols, s.IsColonFree) ∧
    (∀ a b : Symbol, a.IsColonFree → b.IsColonFree →
      (a.id = b.id ↔ a.file = b.file ∧ a.name = b.name ∧ a.kind = b.kind ∧
        a.startLine = b.startLine)) ∧
    (∀ (ms : List DuplicateMatch) (x : DuplicateMatch), (∀ y ∈ ms, y.IsColonFree) →
      x.IsColonFree → Detector.distinctMatches (ms ++ [x]) =
        if x.declarations ∈ ms.map DuplicateMatch.declarations then Detector.distinctMatches ms
        else Detector.distinctMatches ms ++ [x]) ∧
    (∀ (store : Store) (old batch : List Entry), (∀ e ∈ old ++ batch, e.1.IsColonFree) →
      store.rows = old.map Entry.row → (store.write batch).1.isOk = true →
      (store.write batch).2.rows =
        (old.filter (fun e => e.1.declaration ∉ batch.map (·.1.declaration)) ++ batch).map
          Entry.row) ∧
    ∀ (d : Detector) (s : Symbol), s.IsColonFree →
      (∀ t ∈ d.index.fileSymbols s.file, t.IsColonFree) →
      (d.isIndexed s = true ↔ ∃ t ∈ d.index.fileSymbols s.file, t.declaration = s.declaration) := by
  refine ⟨fun r path content e h s hs => ?_, fun a b ha hb => ?_, fun ms x hms hx => ?_,
    fun store old batch hfree hrows hwrite => ?_, fun d s hs hfile => ?_⟩
  · exact Extract.Reader.isColonFree_of_extract h hs
  · rw [Symbol.id_eq_iff ha hb]
    simp only [Symbol.declaration, Prod.mk.injEq]
  · exact Detector.distinctMatches_concat hms hx
  · obtain ⟨hold, hbatch⟩ := List.forall_mem_append.mp hfree
    exact Store.rows_write_declarations hold hbatch hrows hwrite
  · exact Detector.isIndexed_iff_declaration hs hfile

/-- A function of one name in any file and line. -/
def functionAt (file : String) (line : Int) : Symbol where
  name := "f"
  kind := "function"
  file := file
  startLine := line
  endLine := line

private theorem functionAt_isColonFree (file : String) (line : Int) :
    (functionAt file line).IsColonFree := by
  have hname : ':' ∉ "f".toList := by decide
  have hkind : ':' ∉ "function".toList := by decide
  exact ⟨hname, hkind⟩

def matchOf (first second : Symbol) (similarity : Float) : DuplicateMatch where
  first := first
  second := second
  similarity := similarity
  kind := .similar
  reason := ""

private theorem matchOf_isColonFree (file file' : String) (line line' : Int) (similarity : Float) :
    (matchOf (functionAt file line) (functionAt file' line') similarity).IsColonFree :=
  ⟨functionAt_isColonFree file line, functionAt_isColonFree file' line'⟩

/-- Only the function in another line is indexed. -/
def otherLineIndexed : Detector where
  index := ({} : Index).add "a.py" [functionAt "a.py" (-11)] []

/-- The constant that a file of one line defines. -/
def lineConstant : Symbol where
  name := "A"
  kind := "field"
  file := "a:b.py"
  startLine := 1
  endLine := 1
  visibility := some "public"
  isStatic := true
  isConstant := true
  code := some "A = 1"

theorem path_like_id_told :
    let outer := functionAt "a.py" (-1)
    let inner := functionAt "a.py:f:function:-1" (-1)
    Extract.Reader.strict.extract "a:b.py" "A = 1" = .ok ⟨[lineConstant], []⟩ ∧
    lineConstant.IsColonFree ∧ inner.file = outer.id ∧ inner.id ≠ outer.id ∧
    Detector.distinctMatches [matchOf outer inner 0.5, matchOf inner outer 0.5] =
      [matchOf outer inner 0.5, matchOf inner outer 0.5] ∧
    Detector.distinctMatches [matchOf outer inner 0.5, matchOf outer inner 0.75] =
      [matchOf outer inner 0.5] ∧
    (Store.write ⟨some (1, [Entry.row (outer, [1.0]), Entry.row (inner, [1.0])])⟩
        [(outer, [0.5])]).2.rows = [Entry.row (inner, [1.0]), Entry.row (outer, [0.5])] ∧
    otherLineIndexed.isIndexed outer = false := by
  intro outer inner
  obtain ⟨hread, hids, hmatches, hrows, hindexed⟩ := id_tells_declarations
  have hextract : Extract.Reader.strict.extract "a:b.py" "A = 1" = .ok ⟨[lineConstant], []⟩ := by
    decide +kernel
  have houter : outer.IsColonFree := functionAt_isColonFree _ _
  have hinner : inner.IsColonFree := functionAt_isColonFree _ _
  refine ⟨hextract, hread _ _ _ _ hextract lineConstant (List.mem_singleton_self _), by decide,
    fun h => ?_, ?_, ?_, ?_, ?_⟩
  · exact absurd ((hids inner outer hinner houter).mp h).1 (by decide)
  · have hsecond := hmatches [matchOf outer inner 0.5] (matchOf inner outer 0.5)
      (by simpa using matchOf_isColonFree _ _ _ _ _) (matchOf_isColonFree _ _ _ _ _)
    rwa [if_neg (by decide)] at hsecond
  · have hsecond := hmatches [matchOf outer inner 0.5] (matchOf outer inner 0.75)
      (by simpa using matchOf_isColonFree _ _ _ _ _) (matchOf_isColonFree _ _ _ _ _)
    rwa [if_pos (by decide)] at hsecond
  · have hwritten := hrows ⟨some (1, [Entry.row (outer, [1.0]), Entry.row (inner, [1.0])])⟩
      [(outer, [1.0]), (inner, [1.0])] [(outer, [0.5])]
      (by simp [houter, hinner]) rfl rfl
    rwa [List.filter_cons_of_neg (by decide), List.filter_cons_of_pos (by decide)] at hwritten
  · have hfile : ∀ t ∈ otherLineIndexed.index.fileSymbols "a.py", t = functionAt "a.py" (-11) :=
      fun t ht => List.mem_singleton.mp ht
    rw [← Bool.not_eq_true, hindexed otherLineIndexed outer houter fun t ht =>
      hfile t ht ▸ functionAt_isColonFree _ _]
    rintro ⟨t, ht, hsame⟩
    rw [hfile t ht] at hsame
    exact absurd hsame (by decide)

end PullReview
