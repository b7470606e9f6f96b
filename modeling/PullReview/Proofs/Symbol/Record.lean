import PullReview.Proofs.Failure
import PullReview.Proofs.Json.RoundTrip
import PullReview.Symbol.Record

/-!
# Symbols read back from their records

A record gives back the symbol it was made of, and so does its text. There is a text unless a line
number has more digits than the limit.
-/

namespace PullReview

private theorem Parameter.ofJson_toJson (p : Parameter) : Parameter.ofJson p.toJson = .ok p := rfl

namespace Symbol

open Json

/-! ### Records -/

private theorem elements_arr (items : List Json) : elements (.arr items) = .ok items := by
  cases items <;> rfl

private theorem mapM_ofJson_toJson (params : List Parameter) :
    (params.map Parameter.toJson).mapM Parameter.ofJson = .ok params := by
  induction params with
  | nil => rfl
  | cons p rest ih =>
      rw [List.map_cons, List.mapM_cons, Parameter.ofJson_toJson, ih]
      rfl

private theorem text?_ofOption (o : Option String) : (Json.ofOption .str o).text? = o := by
  cases o <;> rfl

private theorem text_strings (xs : List String) : (xs.map Json.str).map Json.text = xs := by
  rw [List.map_map]
  exact List.map_id xs

/-- A record gives back the symbol it was made of. -/
theorem ofJson_toJson (s : Symbol) : ofJson s.toJson = .ok s := by
  have hparameters : elements (s.toJson.field "parameters") =
      .ok (s.parameters.map Parameter.toJson) := elements_arr _
  have hbases : elements (s.toJson.field "implements") = .ok (s.otherBases.map Json.str) :=
    elements_arr _
  have hmembers : checkMembers "CodeSymbol" memberNames requiredNames s.toJson.members = .ok () :=
    rfl
  rw [ofJson, hparameters, ok_bind, mapM_ofJson_toJson, ok_bind, hbases, ok_bind, hmembers, ok_bind]
  have hsignature : (s.toJson.field "signature").text? = s.signature := text?_ofOption _
  have hreturn : (s.toJson.field "return_type").text? = s.returnType := text?_ofOption _
  have hvisibility : (s.toJson.field "visibility").text? = s.visibility := text?_ofOption _
  have hbase : (s.toJson.field "extends").text? = s.base := text?_ofOption _
  have hcode : (s.toJson.field "code").text? = s.code := text?_ofOption _
  rw [hsignature, hreturn, hvisibility, hbase, hcode, text_strings]
  rfl

/-! ### Texts -/

private theorem ofOption_plain (o : Option String) : isPlain (Json.ofOption .str o) = true ∧
    ∀ limit, fits limit (Json.ofOption .str o) = true := by
  cases o <;> exact ⟨rfl, fun _ => rfl⟩

private theorem strings_plain (xs : List String) :
    isPlain (Json.strings xs) = true ∧ ∀ limit, fits limit (Json.strings xs) = true := by
  induction xs with
  | nil => exact ⟨rfl, fun _ => rfl⟩
  | cons x xs ih => exact ih

private theorem parameters_plain (params : List Parameter) :
    plainItems (params.map Parameter.toJson) = true ∧
      ∀ limit, fitsItems limit (params.map Parameter.toJson) = true := by
  induction params with
  | nil => exact ⟨rfl, fun _ => rfl⟩
  | cons p params ih => exact ih

variable {limit : Option Nat}

private theorem isPlain_toJson (s : Symbol) : isPlain s.toJson = true := by
  simp [toJson, isPlain, plainMembers, ofOption_plain, strings_plain, parameters_plain]

private theorem fits_toJson (s : Symbol) : fits limit s.toJson =
    (Number.within limit (digits s.startLine).length &&
      Number.within limit (digits s.endLine).length) := by
  simp [toJson, fits, fitsMembers, ofOption_plain, strings_plain, parameters_plain]

theorem exists_record?_iff {s : Symbol} : (∃ text, s.record? limit = some text) ↔
    ∀ n ∈ limit, (digits s.startLine).length ≤ n ∧ (digits s.endLine).length ≤ n := by
  rw [record?, writeWithin, fits_toJson]
  cases limit <;> simp [Number.within]

theorem record?_eq_some {s : Symbol} {text : String} (h : s.record? limit = some text) :
    fits limit s.toJson = true ∧ text = s.toJson.compact := by
  rw [record?, writeWithin] at h
  split at h
  · rename_i hfits
    exact ⟨hfits, (Option.some.inj h).symm⟩
  · cases h

/-- The text of a record is in ASCII, and gives back the symbol. -/
theorem ofRecord?_of_record? {s : Symbol} {text : String} (h : s.record? limit = some text) :
    IsAscii text.toList ∧ ofRecord? limit text = some s := by
  obtain ⟨hfits, rfl⟩ := record?_eq_some h
  refine ⟨isAscii_compact s.toJson s.isPlain_toJson, ?_⟩
  rw [ofRecord?, (read_compact s.isPlain_toJson).1 hfits]
  exact congrArg Except.toOption s.ofJson_toJson

end Symbol

end PullReview
