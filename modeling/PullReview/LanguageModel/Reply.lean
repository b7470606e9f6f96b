import PullReview.Impact.Prediction
import PullReview.Json.Display
import PullReview.Json.Reader
import PullReview.Symbol.Record
import PullReview.Text.Blank
import PullReview.Text.Case

/-!
# Prompts and replies

A model is asked for predictions in words and is expected to reply with a list of objects. The
list is taken from the first opening to the last closing bracket of the reply, whatever else it
says and whether or not it stands between the fences of a block of code.
-/

namespace PullReview.LanguageModel

/-- Lines under a caption, or a stand-in if there are none. -/
def block (caption : String) (lines : List String) (none : String) : String :=
  let body := "\n".intercalate lines
  caption ++ ":\n" ++ (if body == "" then none else body) ++ "\n\n"

/-- So many impacted call sites are mentioned. -/
def mentionedSites : Nat := 20

def symbolLine (s : Symbol) : String :=
  "- " ++ s.name ++ " (" ++ s.kind ++ ") in " ++ s.location ++ " - " ++
    (match s.signature with
      | some t => if t == "" then "N/A" else t
      | none => "N/A")

def prompt (changed : List Symbol) (areas : List ImpactedArea) (features : List ImpactedFeature) :
    String :=
  "You are a senior software architect reviewing a pull request for breakage.\n\n" ++
  block "Changed symbols" (changed.map symbolLine) "- None" ++
  block "Impacted call sites"
    ((areas.take mentionedSites).map fun a =>
      "- " ++ a.method ++ "() in " ++ a.file ++ ":" ++ toString a.line ++ " calls " ++
        a.callSite.callee)
    "- None detected" ++
  block "Impacted features"
    (features.map fun f =>
      "- " ++ f.name ++ ": " ++ toString f.files.length ++ " file(s), " ++
        toString f.areas.length ++ " call site(s)")
    "- None detected" ++
  "Predict what could break. Return ONLY a JSON array of objects with keys " ++
  "\"scenario\", \"probability\" (high|medium|low), \"impact\", " ++
  "\"affectedFiles\" (list of paths) and \"mitigation\". " ++
  "Return [] if no significant breakage is expected."

/-- The mark above and below a block of code. -/
def fence : List Char := ['\x60', '\x60', '\x60']

/-- The letters of the word behind a fence, each with all its forms. -/
def fenceWord : List (List Char) := [['j', 'J'], ['s', 'S', 'ſ'], ['o', 'O'], ['n', 'N']]

/-- What follows a word at the front of a text. -/
def afterWord? : List (List Char) → List Char → Option (List Char)
  | [], cs => some cs
  | _ :: _, [] => none
  | forms :: word, c :: cs => if forms.contains c then afterWord? word cs else none

/-- A text without the fence it begins with, the word behind it and the blanks behind both. -/
def withoutOpening (cs : List Char) : List Char :=
  if fence.isPrefixOf cs then
    let rest := cs.drop fence.length
    ((afterWord? fenceWord rest).getD rest).dropWhile Text.isBlank
  else cs

/-- A text without the fence it ends with and the blanks in front of that. -/
def withoutClosing (cs : List Char) : List Char :=
  if fence.isPrefixOf cs.reverse then
    ((cs.reverse.drop fence.length).dropWhile Text.isBlank).reverse
  else cs

def unfenced (reply : String) : String :=
  String.ofList (withoutClosing (withoutOpening (Text.strip reply).toList))

/-- The part of a text from its first opening bracket to its last closing one. -/
def bracketed? (text : String) : Option String :=
  let body := text.toList.dropWhile (· != '[')
  let list := (body.reverse.dropWhile (· != ']')).reverse
  if list.isEmpty then none else some (String.ofList list)

def probability (j : Option Json) : Level :=
  match j with
  | none => .medium
  | some j =>
      match Level.ofWord (Text.lower j.display) with
      | .other _ => .medium
      | level => level

def displayed (j : Option Json) : String := (j.map Json.display).getD ""

/-- The files of a prediction, under either of two names; anything but a list counts as none. -/
def affectedFiles (item : Json) : List String :=
  let first := item.field "affectedFiles"
  match if first.isTruthy then first else item.field "affected_files" with
  | .arr files => files.map Json.display
  | _ => []

/-- The prediction in an object; one without a scenario is passed over. -/
def predictionOf? (item : Json) : Option Prediction :=
  match item with
  | .obj _ =>
      if (item.field "scenario").isTruthy then
        some
          { scenario := (item.field "scenario").display
            probability := probability (item.get? "probability")
            impact := displayed (item.get? "impact")
            affectedFiles := affectedFiles item
            mitigation := displayed (item.get? "mitigation") }
      else none
  | _ => none

/-- The predictions in a list, none if there is no list to be read. A number that is too long to be
read at all is a fault. -/
def listed (list : Option String) : Except Number.TooManyDigits (Option (List Prediction)) :=
  match list with
  | none => .ok none
  | some text =>
      match Json.read text with
      | .ok (.arr items) => .ok (some (items.filterMap predictionOf?))
      | .ok _ => .ok none
      | .error .malformed => .ok none
      | .error (.tooManyDigits e) => .error e

/-- The predictions in a reply. -/
def predictions (reply : String) : Except Number.TooManyDigits (Option (List Prediction)) :=
  listed (bracketed? (unfenced reply))

end PullReview.LanguageModel
