import Mathlib.Data.List.Forall2
import Mathlib.Data.List.TakeWhile
import PullReview.LanguageModel.Reply
import PullReview.Proofs.Json.RoundTrip
import PullReview.Proofs.Table

/-!
# Lists in replies

Fences and blanks around a reply hold no brackets, so they make no difference to the list that is
found in it. Predictions are read back from every text of their list, with any words around it that
hold no brackets, whatever the predictions say.
-/

namespace PullReview.LanguageModel

open Text (isBlank)

/-! ### Texts around a list -/

def NoBrackets (cs : List Char) : Prop := ∀ c ∈ cs, c ≠ '[' ∧ c ≠ ']'

instance (cs : List Char) : Decidable (NoBrackets cs) :=
  List.decidableBAll (fun c => c ≠ '[' ∧ c ≠ ']') cs

theorem NoBrackets.append {cs ds : List Char} (hcs : NoBrackets cs) (hds : NoBrackets ds) :
    NoBrackets (cs ++ ds) := fun c hc => (List.mem_append.mp hc).elim (hcs c) (hds c)

theorem NoBrackets.reverse {cs : List Char} (h : NoBrackets cs) : NoBrackets cs.reverse :=
  fun c hc => h c (List.mem_reverse.mp hc)

private theorem noBrackets_blanks {cs : List Char} (h : ∀ c ∈ cs, isBlank c = true) :
    NoBrackets cs := by
  intro c hc
  have hblank := h c hc
  constructor <;> (rintro rfl; cases hblank)

/-- The characters from the first opening bracket to the last closing one. -/
def bracketedChars (cs : List Char) : List Char :=
  ((cs.dropWhile (· != '[')).reverse.dropWhile (· != ']')).reverse

private theorem bracketed?_eq (text : String) : bracketed? text =
    if (bracketedChars text.toList).isEmpty then none
    else some (String.ofList (bracketedChars text.toList)) := rfl

/-- The second text is the first with something around it that holds no brackets. -/
def Surrounds (cs ds : List Char) : Prop :=
  ∃ before after, NoBrackets before ∧ NoBrackets after ∧ ds = before ++ cs ++ after

theorem Surrounds.trans {cs ds es : List Char} (h : Surrounds cs ds) (h' : Surrounds ds es) :
    Surrounds cs es := by
  obtain ⟨before, after, hbefore, hafter, rfl⟩ := h
  obtain ⟨before', after', hbefore', hafter', rfl⟩ := h'
  exact ⟨before' ++ before, after ++ after', hbefore'.append hbefore, hafter.append hafter',
    by simp⟩

theorem Surrounds.refl (cs : List Char) : Surrounds cs cs :=
  ⟨[], [], by simp [NoBrackets], by simp [NoBrackets], by simp⟩

private theorem Surrounds.of_front {front : List Char} (h : NoBrackets front) (cs : List Char) :
    Surrounds cs (front ++ cs) :=
  ⟨front, [], h, by simp [NoBrackets], by simp⟩

theorem Surrounds.reverse {cs ds : List Char} (h : Surrounds cs ds) :
    Surrounds cs.reverse ds.reverse := by
  obtain ⟨before, after, hbefore, hafter, rfl⟩ := h
  exact ⟨after.reverse, before.reverse, hafter.reverse, hbefore.reverse, by simp⟩

private theorem Surrounds.bracketedChars_eq {cs ds : List Char} (h : Surrounds cs ds) :
    bracketedChars ds = bracketedChars cs := by
  obtain ⟨before, after, hbefore, hafter, rfl⟩ := h
  have hbefore' : ∀ c ∈ before, (c != '[') = true := fun c hc => by simpa using (hbefore c hc).1
  have hafter' : ∀ c ∈ after, (c != '[') = true := fun c hc => by simpa using (hafter c hc).1
  have hend : ∀ c ∈ after.reverse, (c != ']') = true :=
    fun c hc => by simpa using (hafter.reverse c hc).2
  rw [bracketedChars, bracketedChars, List.append_assoc, List.dropWhile_append_of_pos hbefore',
    List.dropWhile_append]
  split
  · rename_i hempty
    rw [List.isEmpty_iff.mp hempty, List.dropWhile_eq_nil_iff.mpr hafter']
  · rw [List.reverse_append, List.dropWhile_append_of_pos hend]

/-! ### Fences -/

private theorem surrounds_dropBlanks (cs : List Char) : Surrounds (cs.dropWhile isBlank) cs := by
  have hfront : NoBrackets (cs.takeWhile isBlank) :=
    noBrackets_blanks fun c hc => List.mem_takeWhile_imp hc
  have h := Surrounds.of_front hfront (cs.dropWhile isBlank)
  rwa [List.takeWhile_append_dropWhile] at h

private theorem surrounds_strip (text : String) :
    Surrounds (Text.strip text).toList text.toList := by
  rw [Text.strip, String.toList_ofList, Text.stripBy]
  have hend := (surrounds_dropBlanks (text.toList.dropWhile isBlank).reverse).reverse
  rw [List.reverse_reverse] at hend
  exact hend.trans (surrounds_dropBlanks text.toList)

private theorem surrounds_drop_fence {cs : List Char} (h : fence.isPrefixOf cs = true) :
    Surrounds (cs.drop fence.length) cs := by
  obtain ⟨rest, rfl⟩ := List.isPrefixOf_iff_prefix.mp h
  rw [List.drop_left]
  have hfence : NoBrackets fence := by decide
  exact .of_front hfence rest

private theorem afterWord?_eq_some {word : List (List Char)} {cs rest : List Char}
    (h : afterWord? word cs = some rest) :
    ∃ front, cs = front ++ rest ∧ ∀ c ∈ front, ∃ forms ∈ word, c ∈ forms := by
  fun_induction afterWord? word cs with
  | case1 cs =>
      obtain rfl := Option.some.inj h
      exact ⟨[], rfl, by simp⟩
  | case2 => cases h
  | case3 forms word c cs hc ih =>
      obtain ⟨front, rfl, hfront⟩ := ih h
      refine ⟨c :: front, rfl, List.forall_mem_cons.mpr ⟨⟨forms, by simp, by simpa using hc⟩, ?_⟩⟩
      intro d hd
      obtain ⟨forms', hforms', hmem⟩ := hfront d hd
      exact ⟨forms', by simp [hforms'], hmem⟩
  | case4 => cases h

private theorem surrounds_afterWord (cs : List Char) :
    Surrounds ((afterWord? fenceWord cs).getD cs) cs := by
  cases hword : afterWord? fenceWord cs with
  | none => exact .refl cs
  | some rest =>
      obtain ⟨front, rfl, hfront⟩ := afterWord?_eq_some hword
      have hletters : ∀ forms ∈ fenceWord, NoBrackets forms := by decide
      refine .of_front (fun c hc => ?_) rest
      obtain ⟨forms, hforms, hmem⟩ := hfront c hc
      exact hletters forms hforms c hmem

private theorem surrounds_withoutOpening (cs : List Char) : Surrounds (withoutOpening cs) cs := by
  rw [withoutOpening]
  split
  · rename_i hfence
    exact ((surrounds_dropBlanks _).trans (surrounds_afterWord _)).trans
      (surrounds_drop_fence hfence)
  · exact .refl cs

private theorem surrounds_withoutClosing (cs : List Char) : Surrounds (withoutClosing cs) cs := by
  rw [withoutClosing]
  split
  · rename_i hfence
    have h := ((surrounds_dropBlanks _).trans (surrounds_drop_fence hfence)).reverse
    rwa [List.reverse_reverse] at h
  · exact .refl cs

/-- The list in a reply is the same without fences. -/
theorem bracketed?_unfenced (reply : String) : bracketed? (unfenced reply) = bracketed? reply := by
  have h : Surrounds (unfenced reply).toList reply.toList := by
    rw [unfenced, String.toList_ofList]
    exact ((surrounds_withoutClosing _).trans (surrounds_withoutOpening _)).trans
      (surrounds_strip reply)
  rw [bracketed?_eq, bracketed?_eq, h.bracketedChars_eq]

theorem predictions_eq (reply : String) : predictions reply = listed (bracketed? reply) :=
  congrArg listed (bracketed?_unfenced reply)

/-! ### Predictions in a reply -/

/-- The members that the prompt asks for. -/
def promptedMembers (p : Prediction) : List (String × Json) :=
  [("scenario", .str p.scenario), ("probability", .str p.probability.word),
    ("impact", .str p.impact), ("affectedFiles", .strings p.affectedFiles),
    ("mitigation", .str p.mitigation)]

/-- An object with the members that are asked for, in any order. -/
def IsReply (p : Prediction) (j : Json) : Prop :=
  ∃ members, j = .obj members ∧ members.Perm (promptedMembers p)

/-- A prediction that can stand in a reply. -/
def IsComplete (p : Prediction) : Prop :=
  p.scenario ≠ "" ∧ p.probability ∈ [Level.high, .medium, .low]

instance (p : Prediction) : Decidable (IsComplete p) :=
  inferInstanceAs (Decidable (p.scenario ≠ "" ∧ p.probability ∈ [Level.high, .medium, .low]))

private theorem nodup_promptedMembers (p : Prediction) :
    ((promptedMembers p).map Prod.fst).Nodup := by
  change ["scenario", "probability", "impact", "affectedFiles", "mitigation"].Nodup
  decide

private theorem probability_word {l : Level} (h : l ∈ [Level.high, .medium, .low]) :
    probability (some (.str l.word)) = l := by
  have hall : ∀ l ∈ [Level.high, .medium, .low], probability (some (.str l.word)) = l := by
    decide
  exact hall l h

private theorem map_display_str (files : List String) :
    (files.map Json.str).map Json.display = files := by
  rw [List.map_map]
  exact List.map_id files

private theorem predictionOf?_of_isReply {p : Prediction} {j : Json} (hp : IsComplete p)
    (h : IsReply p j) : predictionOf? j = some p := by
  obtain ⟨members, rfl, hperm⟩ := h
  have hnodup : (members.map Prod.fst).Nodup :=
    (hperm.map Prod.fst).nodup_iff.mpr (nodup_promptedMembers p)
  have hget (key : String) : (Json.obj members).get? key = (promptedMembers p).lookup key :=
    Table.lookup_of_perm hperm hnodup key
  have hscenario : (Json.obj members).get? "scenario" = some (.str p.scenario) := hget _
  have hprobability : (Json.obj members).get? "probability" = some (.str p.probability.word) :=
    hget _
  have himpact : (Json.obj members).get? "impact" = some (.str p.impact) := hget _
  have hmitigation : (Json.obj members).get? "mitigation" = some (.str p.mitigation) := hget _
  have hfiles : affectedFiles (.obj members) = p.affectedFiles := by
    have hfirst : (Json.obj members).get? "affectedFiles" = some (.strings p.affectedFiles) :=
      hget _
    have hsecond : (Json.obj members).get? "affected_files" = none := hget _
    rw [affectedFiles, Json.field, Json.field, hfirst, hsecond]
    cases p.affectedFiles with
    | nil => rfl
    | cons file files => exact map_display_str (file :: files)
  have hfilled : (Json.str p.scenario).isTruthy = true := by simpa [Json.isTruthy] using hp.1
  rw [predictionOf?, Json.field, hscenario, hprobability, himpact, hmitigation, hfiles,
    probability_word hp.2]
  simp only [Option.getD_some, hfilled, if_true]
  rfl

private theorem filterMap_predictionOf? {ps : List Prediction} {items : List Json}
    (hps : ∀ p ∈ ps, IsComplete p) (h : List.Forall₂ IsReply ps items) :
    items.filterMap predictionOf? = ps := by
  induction h with
  | nil => rfl
  | cons hfirst hrest ih =>
      rw [List.forall_mem_cons] at hps
      rw [List.filterMap_cons, predictionOf?_of_isReply hps.1 hfirst, ih hps.2]

private theorem bracketedChars_of_spells {items : List Json} {text : List Char}
    (h : Json.Spells (.arr items) text) : bracketedChars text = text ∧ text ≠ [] := by
  obtain ⟨body, rfl⟩ : ∃ body, text = '[' :: (body ++ [']']) := by
    cases h with
    | noItems h => exact ⟨_, rfl⟩
    | items h => exact ⟨_, rfl⟩
  simp [bracketedChars]

private theorem predictions_of_spells {ps : List Prediction} {items : List Json}
    {before text after : List Char} (hps : ∀ p ∈ ps, IsComplete p)
    (hitems : List.Forall₂ IsReply ps items) (htext : Json.Spells (.arr items) text)
    (hbefore : NoBrackets before) (hafter : NoBrackets after) :
    predictions (String.ofList (before ++ text ++ after)) = .ok (some ps) := by
  obtain ⟨hlist, hne⟩ := bracketedChars_of_spells htext
  have hfound : bracketed? (String.ofList (before ++ text ++ after)) =
      some (String.ofList text) := by
    have hsurrounds : Surrounds text (before ++ text ++ after) :=
      ⟨before, after, hbefore, hafter, rfl⟩
    rw [bracketed?_eq, String.toList_ofList, hsurrounds.bracketedChars_eq, hlist, if_neg]
    simpa using hne
  rw [predictions_eq, hfound, listed.eq_def]
  simp only [Json.read_of_spells htext, filterMap_predictionOf? hps hitems]

/-- The list of predictions as it is asked for. -/
def promptedList (ps : List Prediction) : Json := .arr (ps.map fun p => .obj (promptedMembers p))

private theorem spells_promptedList (ps : List Prediction) :
    Json.Spells (promptedList ps) (promptedList ps).compact.toList := by
  apply Json.spells_compact_arr
  rw [List.forall_mem_map]
  intro p _
  apply Json.spells_compact_obj (nodup_promptedMembers p)
  have hfiles :
      Json.Spells (.strings p.affectedFiles) (Json.strings p.affectedFiles).compact.toList :=
    Json.spells_compact_arr (List.forall_mem_map.mpr fun file _ => Json.spells_compact_str file)
  simp only [promptedMembers, List.forall_mem_cons]
  exact ⟨Json.spells_compact_str _, Json.spells_compact_str _, Json.spells_compact_str _, hfiles,
    Json.spells_compact_str _, by simp⟩

/-- Complete predictions are read back from every text of their list, and so from the one that is
written, if no brackets stand around it. -/
theorem predictions_read_back {ps : List Prediction} {before after : String}
    (hps : ∀ p ∈ ps, IsComplete p) (hbefore : NoBrackets before.toList)
    (hafter : NoBrackets after.toList) :
    (∀ items text, List.Forall₂ IsReply ps items → Json.Spells (.arr items) text →
      predictions (before ++ String.ofList text ++ after) = .ok (some ps)) ∧
    predictions (before ++ (promptedList ps).compact ++ after) = .ok (some ps) := by
  have hread {items : List Json} {text : List Char} (hitems : List.Forall₂ IsReply ps items)
      (htext : Json.Spells (.arr items) text) :
      predictions (before ++ String.ofList text ++ after) = .ok (some ps) := by
    have hreply : before ++ String.ofList text ++ after =
        String.ofList (before.toList ++ text ++ after.toList) := by
      rw [String.ofList_append, String.ofList_append, String.ofList_toList, String.ofList_toList]
    rw [hreply]
    exact predictions_of_spells hps hitems htext hbefore hafter
  refine ⟨fun items text => hread, ?_⟩
  have hprompted : List.Forall₂ IsReply ps (ps.map fun p => .obj (promptedMembers p)) := by
    rw [List.forall₂_map_right_iff, List.forall₂_same]
    exact fun p _ => ⟨promptedMembers p, rfl, .refl _⟩
  have hcompact := hread hprompted (spells_promptedList ps)
  rwa [String.ofList_toList] at hcompact

/-- Predictions with brackets, quotes and fences in their words. -/
def bracketPredictions : List Prediction :=
  [⟨"a[0] ] ```", .low, "say \"é\"\n", ["[x].py", "```json"], "][\\"⟩, ⟨"b", .high, "", [], ""⟩]

theorem bracketPredictions_read_back :
    (∀ p ∈ bracketPredictions, IsComplete p) ∧
      predictions ("Here:\n```json\n" ++ (promptedList bracketPredictions).compact ++ "\n```") =
        .ok (some bracketPredictions) := by
  have hcomplete : ∀ p ∈ bracketPredictions, IsComplete p := by decide
  exact ⟨hcomplete, (predictions_read_back hcomplete (by decide) (by decide)).2⟩

end PullReview.LanguageModel
