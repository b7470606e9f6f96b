import PullReview.LanguageModel
import PullReview.Proofs.Failure
import PullReview.Proofs.Json.Reader
import PullReview.Proofs.LanguageModel.Reply

/-!
# When a language model answers

A client gives a text or nothing unless the reply is no text, has a number that is too long, has a
form that is not expected, or the connection breaks off. Predictions fail for the same reasons and
for a list with such a number in the answer. Every prediction that is made has a scenario and one of
three probabilities.
-/

namespace PullReview

/-! ### Values that are displayed -/

private theorem Number.plain_ne_empty (x : Float) : plain x ≠ "" := by
  have hpointed (ds : String) (point : Int) : pointed ds point ≠ "" := by
    rw [pointed]
    split
    · simp
    · dsimp only
      split <;> simp
  have hscientific (ds : String) (point : Int) : scientific 2 ds point ≠ "" := by
    simp [scientific]
  rw [plain]
  split
  · decide
  · split <;> decide
  · split <;> decide
  · dsimp only
    rw [ne_eq, String.append_eq_empty_iff, not_and]
    intro _
    split
    · exact hscientific _ _
    · exact hpointed _ _

private theorem Number.toString_ne_empty (n : Int) : toString n ≠ "" := by
  have hnat (m : Nat) : toString m ≠ "" := by
    intro hempty
    have hdigits := congrArg String.toList hempty
    rw [Nat.toString_eq_ofList_toDigits, String.toList_ofList, String.toList_empty] at hdigits
    exact Nat.toDigits_ne_nil hdigits
  cases n with
  | ofNat m => exact hnat m
  | negSucc m =>
      change "-" ++ toString (m + 1) ≠ ""
      simp

private theorem Json.display_ne_empty {j : Json} (h : j.isTruthy = true) : j.display ≠ "" := by
  cases j with
  | null => cases h
  | bool b =>
      cases b with
      | false => cases h
      | true => decide
  | int n => exact Number.toString_ne_empty n
  | float x => exact Number.plain_ne_empty x
  | str s => simpa [isTruthy, display] using h
  | arr items => simp [display, displayInner]
  | obj members => simp [display, displayInner]

namespace LanguageModel

/-! ### Predictions in an answer -/

private theorem probability_mem (j : Option Json) :
    probability j ∈ [Level.high, .medium, .low] := by
  cases j with
  | none => simp [probability]
  | some j =>
      simp only [probability]
      cases Level.ofWord (Text.lower j.display) <;> simp

private theorem predictionOf?_sound {item : Json} {p : Prediction}
    (h : predictionOf? item = some p) :
    p.scenario ≠ "" ∧ p.probability ∈ [Level.high, .medium, .low] := by
  rw [predictionOf?.eq_def] at h
  split at h
  · split at h
    · rename_i htruthy
      rw [← Option.some.inj h]
      exact ⟨Json.display_ne_empty htruthy, probability_mem _⟩
    · cases h
  · cases h

/-- A text whose list, if it has one, holds no number that is too long. -/
def ListReadable (text : String) : Prop :=
  ∀ list, bracketed? text = some list → ∀ e, Json.read list ≠ .error (.tooManyDigits e)

private theorem predictions_ok_iff (text : String) :
    (∃ r, predictions text = .ok r) ↔ ListReadable text := by
  rw [predictions_eq, listed.eq_def]
  cases hlist : bracketed? text with
  | none => simp [ListReadable, hlist]
  | some list =>
      simp only [ListReadable, hlist, Option.some.injEq, forall_eq']
      cases hread : Json.read list with
      | ok j => cases j <;> simp
      | error f => cases f <;> simp

private theorem predictions_sound {text : String} {ps : List Prediction}
    (h : predictions text = .ok (some ps)) :
    ∀ p ∈ ps, p.scenario ≠ "" ∧ p.probability ∈ [Level.high, .medium, .low] := by
  intro p hp
  rw [predictions_eq, listed.eq_def] at h
  split at h
  · cases h
  · split at h
    · rw [← Option.some.inj (Except.ok.inj h)] at hp
      obtain ⟨item, _, hitem⟩ := List.mem_filterMap.mp hp
      exact predictionOf?_sound hitem
    · cases h
    · cases h
    · cases h

/-- An answer in which predictions can be looked for: nothing, or a text. -/
def Readable (answer : Json) : Prop :=
  answer.isTruthy = false ∨ ∃ text, answer = .str text ∧ ListReadable text

private theorem predictionsIn_ok_iff (answer : Json) :
    (∃ r, predictionsIn answer = .ok r) ↔ Readable answer := by
  cases htruthy : answer.isTruthy with
  | false => simp [predictionsIn, Readable, htruthy]
  | true =>
      cases answer with
      | str text =>
          simp only [predictionsIn, htruthy, Readable, Bool.not_true, Bool.false_eq_true, if_false,
            mapError_eq_ok_iff, predictions_ok_iff]
          simp
      | null | bool | int | float | arr | obj => simp [predictionsIn, Readable, htruthy]

private theorem predictionsIn_sound {answer : Json} {ps : List Prediction}
    (h : predictionsIn answer = .ok (some ps)) :
    ∀ p ∈ ps, p.scenario ≠ "" ∧ p.probability ∈ [Level.high, .medium, .low] := by
  cases htruthy : answer.isTruthy with
  | false =>
      simp only [predictionsIn, htruthy] at h
      cases h
  | true =>
      cases answer with
      | str text =>
          simp only [predictionsIn, htruthy, Bool.not_true, Bool.false_eq_true, if_false,
            mapError_eq_ok_iff] at h
          exact predictions_sound h
      | null | bool | int | float | arr | obj =>
          simp only [predictionsIn, htruthy] at h
          cases h

/-! ### Answers of a client -/

namespace Client

/-- A reply that a provider can use, with an answer in it that is as expected, or none. -/
def UsableReply (p : Provider) (expected : Json → Prop) (bytes : List UInt8) : Prop :=
  ∃ text, Text.Utf8.decode bytes = .ok text ∧
    (Json.read text = .error .malformed ∨ ∃ reply, Json.read text = .ok reply ∧
      (reply.isTruthy = false ∨ (p = .ollama → ∃ members, reply = .obj members) ∧
        ∀ j, follow (answerPath p) reply = some j → expected j))

/-- What becomes of a request is no fault. -/
def Delivered (p : Provider) (expected : Json → Prop) : Delivery → Prop
  | .answered bytes => UsableReply p expected bytes
  | .unreachable | .timedOut | .rejected => True
  | .reset => False

/-- A client is not asked, or its address is known and what becomes of the request is no fault. -/
def Served (c : Client) (send : Request → Delivery) (prompt : String) (expected : Json → Prop) :
    Prop :=
  c.provider ≠ .ollama ∧ c.apiKey = "" ∨
    hasScheme c.address = true ∧
      Delivered c.provider expected (send ⟨plainUrl c.address, c.headers, c.payload prompt⟩)

private theorem answerIn_ok_iff {expected : Json → Prop} (hnull : expected .null) (p : Provider)
    (reply : Json) : (∃ j, answerIn p reply = .ok j ∧ expected j) ↔
      reply.isTruthy = false ∨ (p = .ollama → ∃ members, reply = .obj members) ∧
        ∀ j, follow (answerPath p) reply = some j → expected j := by
  have hfound (found : Option Json) :
      expected (found.getD .null) ↔ ∀ j, found = some j → expected j := by
    cases found <;> simp [hnull]
  cases htruthy : reply.isTruthy with
  | false => simp [answerIn, htruthy, hnull]
  | true =>
      cases p with
      | ollama =>
          cases reply with
          | obj members => simp [answerIn, htruthy, hfound]
          | null | bool | int | float | str | arr => simp [answerIn, htruthy]
      | openAI | anthropic | gemini => simp [answerIn, htruthy, hfound]

private theorem reply_ok_iff {expected : Json → Prop} (hnull : expected .null) (p : Provider)
    (bytes : List UInt8) : (∃ j, (readReply bytes >>= answerIn p) = .ok j ∧ expected j) ↔
      UsableReply p expected bytes := by
  rw [readReply, UsableReply]
  cases Text.Utf8.decode bytes with
  | error f => simp [bind, Except.bind]
  | ok text =>
      simp only [Except.ok.injEq, exists_eq_left']
      cases hread : Json.read text with
      | ok reply =>
          simp only [Except.ok.injEq, exists_eq_left', reduceCtorEq, false_or]
          exact answerIn_ok_iff hnull p reply
      | error f =>
          cases f with
          | malformed =>
              simp only [true_or, iff_true]
              exact ⟨.null, rfl, hnull⟩
          | tooManyDigits e => simp [bind, Except.bind]

/-- A client answers as expected exactly if it is served. -/
theorem generate_ok_iff {expected : Json → Prop} (hnull : expected .null) (c : Client)
    (send : Request → Delivery) (prompt : String) :
    (∃ j, c.generate send prompt = .ok j ∧ expected j) ↔ c.Served send prompt expected := by
  have hanswer (d : Delivery) :
      (∃ j, c.answer d = .ok j ∧ expected j) ↔ Delivered c.provider expected d := by
    cases d with
    | answered bytes => exact reply_ok_iff hnull c.provider bytes
    | unreachable | timedOut | rejected => simp [answer, Delivered, hnull]
    | reset => simp [answer, Delivered]
  -- without a key no request is sent, and the answer is null
  by_cases hkey : c.provider ≠ .ollama ∧ c.apiKey = ""
  · have hrequest : c.request prompt = .ok none := by simp [request, hkey]
    have hgenerate : c.generate send prompt = .ok .null := by
      rw [generate, hrequest]
      rfl
    simp [hgenerate, hnull, Served, hkey]
  · have hasked : (c.provider != .ollama && c.apiKey == "") = false := by simpa using hkey
    rw [generate, request, hasked, Served]
    cases hscheme : hasScheme c.address with
    | false => simp [hkey, bind, Except.bind]
    | true =>
        simp only [hkey, false_or, true_and]
        exact hanswer _

end Client

/-! ### Predictions of a client -/

def TextOrNull (j : Json) : Prop := j = .null ∨ ∃ text, j = .str text

private theorem predict_ok_iff (ask : String → Except Fault Json) (changed : List Symbol)
    (areas : List ImpactedArea) (features : List ImpactedFeature) :
    (∃ r, predict ask changed areas features = .ok r) ↔
      ∃ j, ask (prompt changed areas features) = .ok j ∧ Readable j := by
  rw [predict]
  cases ask (prompt changed areas features) with
  | error f => simp [bind, Except.bind]
  | ok j =>
      simp only [Except.ok.injEq, exists_eq_left', ← predictionsIn_ok_iff]
      exact Iff.rfl

private theorem predict_sound {ask : String → Except Fault Json} {changed : List Symbol}
    {areas : List ImpactedArea} {features : List ImpactedFeature} {ps : List Prediction}
    (h : predict ask changed areas features = .ok (some ps)) :
    ∀ p ∈ ps, p.scenario ≠ "" ∧ p.probability ∈ [Level.high, .medium, .low] := by
  obtain ⟨j, _, h⟩ := bind_ok h
  exact predictionsIn_sound h

/-- A client gives a text or nothing, and predictions are made or not, exactly if the client is
served. Every prediction has a scenario and one of three probabilities. A number is too long only
if the text has a run of digits over the limit. -/
theorem answers_iff_served (c : Client) (send : Request → Delivery) (changed : List Symbol)
    (areas : List ImpactedArea) (features : List ImpactedFeature) :
    ((∃ j, c.generate send (prompt changed areas features) = .ok j ∧ TextOrNull j) ↔
      c.Served send (prompt changed areas features) TextOrNull) ∧
    ((∃ r, predict (c.generate send) changed areas features = .ok r) ↔
      c.Served send (prompt changed areas features) Readable) ∧
    (∀ ps, predict (c.generate send) changed areas features = .ok (some ps) →
      ∀ p ∈ ps, p.scenario ≠ "" ∧ p.probability ∈ [Level.high, .medium, .low]) ∧
    ∀ text e, Json.read text = .error (.tooManyDigits e) → Json.LongRun e.count text.toList := by
  refine ⟨Client.generate_ok_iff (.inl rfl) c send _, ?_, fun _ h => predict_sound h,
    fun _ _ h => Json.longRun_of_read h⟩
  rw [predict_ok_iff]
  exact Client.generate_ok_iff (.inl rfl) c send _

/-- The local client, with the same reply to every prompt. -/
def localAnswer (bytes : List UInt8) : String → Except Fault Json :=
  (Client.create none none none none).generate fun _ => .answered bytes

def scenarioReply : String := "\x7b\"response\": \"[\x7b\\\"scenario\\\": \\\"x\\\"\x7d]\"\x7d"

theorem local_client_predicts :
    ∃ ps, predict (localAnswer scenarioReply.toUTF8.toList) [] [] [] = .ok (some ps) ∧ ps ≠ [] ∧
      ∀ p ∈ ps, p.scenario ≠ "" ∧ p.probability ∈ [Level.high, .medium, .low] := by
  have hsome : ((predict (localAnswer scenarioReply.toUTF8.toList) [] [] []).toOption.bind id).map
      List.length = some 1 := by decide +kernel
  obtain ⟨_, _, hsound, _⟩ := answers_iff_served (Client.create none none none none)
    (fun _ => .answered scenarioReply.toUTF8.toList) [] [] []
  cases hpredict : predict (localAnswer scenarioReply.toUTF8.toList) [] [] [] with
  | error f =>
      rw [hpredict] at hsome
      cases hsome
  | ok r =>
      rw [hpredict] at hsome
      cases r with
      | none => cases hsome
      | some ps =>
          refine ⟨ps, rfl, ?_, hsound ps hpredict⟩
          rintro rfl
          cases hsome

theorem replies_local_client_cannot_use :
    (localAnswer [0xff] "").toOption = none ∧
    (localAnswer "[1]".toUTF8.toList "").toOption = none ∧
    (localAnswer "\x7b\"response\": 5\x7d".toUTF8.toList "").toOption = some (.int 5) ∧
    (predict (localAnswer [0xff]) [] [] []).toOption = none ∧
    (predict (localAnswer "[1]".toUTF8.toList) [] [] []).toOption = none ∧
    (predict (localAnswer "\x7b\"response\": 5\x7d".toUTF8.toList) [] [] []).toOption = none := by
  decide +kernel

end LanguageModel

end PullReview
