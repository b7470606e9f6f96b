import PullReview.Json.Reader
import PullReview.Symbol.Record
import PullReview.Text.Blank
import PullReview.Text.Case
import PullReview.Text.Quoted
import PullReview.Text.Search
import PullReview.Text.Utf8

/-!
# Providers of language models

A client sends a prompt to its provider and finds the answer in the reply. A reply that does not
come, or is no JSON, is no answer; the other things that can go wrong are faults.
-/

namespace PullReview.LanguageModel

inductive Provider where
  | ollama
  | openAI
  | anthropic
  | gemini
  deriving DecidableEq, Repr

/-- The provider of a name in any letter case; one that is not known is the local one. -/
def Provider.ofName (name : String) : Provider :=
  let name := Text.lower name
  if name == "openai" then .openAI
  else if name == "anthropic" then .anthropic
  else if name == "gemini" then .gemini
  else .ollama

def localModel : String := "qwen2.5-coder:7b"

def localEndpoint : String := "http://127.0.0.1:11434/api/generate"

/-- The model a provider uses in place of the local default. -/
def Provider.defaultModel : Provider → String
  | .ollama => localModel
  | .openAI => "gpt-4"
  | .anthropic => "claude-3-5-sonnet-20241022"
  | .gemini => "gemini-2.0-flash"

structure Client where
  providerName : String
  provider : Provider
  model : String
  endpoint : String
  apiKey : String
  deriving DecidableEq, Repr

namespace Client

/-- Only the local provider, and one that speaks the same protocol, can be elsewhere. -/
def endpointOf (provider : Provider) (model endpoint : String) : String :=
  match provider with
  | .ollama => endpoint
  | .openAI =>
      if Text.occursIn "/chat/completions" endpoint then endpoint
      else "https://api.openai.com/v1/chat/completions"
  | .anthropic => "https://api.anthropic.com/v1/messages"
  | .gemini =>
      "https://generativelanguage.googleapis.com/v1beta/models/" ++ model ++ ":generateContent"

/-- A client from what is given; empty parts count as not given. -/
def create (providerName model apiKey endpoint : Option String) : Client :=
  let given (t : Option String) (other : String) : String := (t.filter (· != "")).getD other
  let providerName := given providerName "ollama"
  let provider := Provider.ofName providerName
  let model := given model localModel
  let model := if model == localModel then provider.defaultModel else model
  { providerName := providerName
    provider := provider
    model := model
    endpoint := endpointOf provider model (given endpoint localEndpoint)
    apiKey := given apiKey "" }

end Client

structure Request where
  url : String
  headers : List (String × String)
  payload : Json

/-- Seconds until a request is given up. -/
def Request.timeout : Nat := 30

/-- What becomes of a request. -/
inductive Delivery where
  | answered (bytes : List UInt8)
  | unreachable
  | timedOut
  | rejected
  | reset
  deriving DecidableEq, Repr

inductive Fault where
  | unknownUrl (url : String)
  | reset
  | undecodable (fault : Text.Utf8.Fault)
  | tooManyDigits (fault : Number.TooManyDigits)
  | notAnObject (type : String)
  | notText (type : String)
  deriving DecidableEq, Repr

def Fault.message : Fault → String
  | unknownUrl url => "unknown url type: " ++ Text.quote url
  | reset => "reset by peer"
  | undecodable f => f.message
  | tooManyDigits f => f.message
  | notAnObject t => "'" ++ t ++ "' object has no attribute 'get'"
  | notText t => "'" ++ t ++ "' object has no attribute 'strip'"

/-! ### Addresses -/

/-- An address without the brackets and the label it may be wrapped in. -/
def unwrapped (url : String) : List Char :=
  let cs := Text.stripBy Text.isBlank url.toList
  let cs :=
    if cs.head? == some '<' && cs.getLast? == some '>' then
      Text.stripBy Text.isBlank ((cs.drop 1).dropLast)
    else cs
  if "URL:".toList.isPrefixOf cs then Text.stripBy Text.isBlank (cs.drop 4) else cs

/-- An address in the form it is sent to; an empty fragment is dropped. -/
def plainUrl (url : String) : String :=
  let cs := unwrapped url
  String.ofList (if cs.getLast? == some '#' then cs.dropLast else cs)

/-- The part of an address before its last hash mark. -/
def withoutFragment (cs : List Char) : List Char :=
  if cs.contains '#' then ((cs.reverse.dropWhile (· != '#')).drop 1).reverse else cs

def hasScheme (url : String) : Bool :=
  let cs := withoutFragment (unwrapped url)
  let name := cs.takeWhile fun c => c != '/' && c != ':'
  !name.isEmpty && cs[name.length]? == some ':'

/-! ### Requests and answers -/

namespace Client

def chat (prompt : String) : Json :=
  .arr [.obj [("role", .str "user"), ("content", .str prompt)]]

def payload (c : Client) (prompt : String) : Json :=
  match c.provider with
  | .ollama =>
      .obj [("model", .str c.model), ("prompt", .str prompt), ("stream", .bool false),
        ("options", .obj [("temperature", .float 0.1)])]
  | .openAI | .anthropic =>
      .obj [("model", .str c.model), ("messages", chat prompt), ("temperature", .float 0.1),
        ("max_tokens", .int 1024)]
  | .gemini =>
      .obj [("contents", .arr [.obj [("parts", .arr [.obj [("text", .str prompt)]])]]),
        ("generationConfig", .obj [("temperature", .float 0.1), ("maxOutputTokens", .int 1024)])]

/-- The headers by name, in alphabetical order. -/
def headers (c : Client) : List (String × String) :=
  let contentType := ("Content-type", "application/json")
  match c.provider with
  | .ollama | .gemini => [contentType]
  | .openAI => [("Authorization", "Bearer " ++ c.apiKey), contentType]
  | .anthropic =>
      [("Anthropic-version", "2023-06-01"), contentType, ("X-api-key", c.apiKey)]

def address (c : Client) : String :=
  if c.provider == .gemini then c.endpoint ++ "?key=" ++ c.apiKey else c.endpoint

/-- The request for a prompt; without a key only the local provider is asked. -/
def request (c : Client) (prompt : String) : Except Fault (Option Request) :=
  if c.provider != .ollama && c.apiKey == "" then .ok none
  else if hasScheme c.address then .ok (some ⟨plainUrl c.address, c.headers, c.payload prompt⟩)
  else .error (.unknownUrl (plainUrl c.address))

inductive Step where
  | member (name : String)
  | first

/-- Where the answer stands in a reply. -/
def answerPath : Provider → List Step
  | .ollama => [.member "response"]
  | .openAI => [.member "choices", .first, .member "message", .member "content"]
  | .anthropic => [.member "content", .first, .member "text"]
  | .gemini =>
      [.member "candidates", .first, .member "content", .member "parts", .first, .member "text"]

def follow : List Step → Json → Option Json
  | [], j => some j
  | .member name :: path, j => (j.get? name).bind (follow path)
  | .first :: path, .arr (item :: _) => follow path item
  | .first :: path, .str s => s.toList.head?.bind fun c => follow path (.str (String.ofList [c]))
  | .first :: _, _ => none

/-- The answer in a reply, null if there is none. -/
def answerIn (provider : Provider) (reply : Json) : Except Fault Json :=
  if !reply.isTruthy then .ok .null
  else
    match provider, reply with
    | .ollama, .obj _ => .ok ((follow (answerPath .ollama) reply).getD .null)
    | .ollama, j => .error (.notAnObject j.typeWord)
    | p, j => .ok ((follow (answerPath p) j).getD .null)

def readReply (bytes : List UInt8) : Except Fault Json :=
  match Text.Utf8.decode bytes with
  | .error f => .error (.undecodable f)
  | .ok text =>
      match Json.read text with
      | .ok j => .ok j
      | .error .malformed => .ok .null
      | .error (.tooManyDigits f) => .error (.tooManyDigits f)

/-- The answer that a delivery brings. -/
def answer (c : Client) : Delivery → Except Fault Json
  | .answered bytes => do answerIn c.provider (← readReply bytes)
  | .unreachable | .timedOut | .rejected => .ok .null
  | .reset => .error .reset

/-- Asks for an answer to a prompt; `send` says what becomes of a request. -/
def generate (c : Client) (send : Request → Delivery) (prompt : String) : Except Fault Json := do
  match ← c.request prompt with
  | none => return .null
  | some r => c.answer (send r)

end Client

end PullReview.LanguageModel
