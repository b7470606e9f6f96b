import PullReview.Embedding.Digest
import PullReview.Embedding.Vector
import PullReview.Symbol
import PullReview.Text.Blank
import PullReview.Text.Case

/-!
# Embeddings

A symbol is written out as a text and the text becomes a vector. The model that needs nothing else
counts the words of the text into buckets by their digests, up or down by a bit of the digest.
-/

namespace PullReview

namespace Embedding

/-! ### The text of a symbol -/

/-- So many characters of the code enter the text. -/
def previewLength : Nat := 200

def parameterText (p : Parameter) : String := Text.strip (p.type ++ " " ++ p.name)

def preview (code : String) : String :=
  Text.strip (Text.squeeze (String.ofList (code.toList.take previewLength)))

def symbolText (s : Symbol) : String :=
  let filled (t : Option String) (f : String → String) : List String :=
    ((t.filter (· != "")).map f).toList
  " ".intercalate
    ([s.kind, s.name] ++ filled s.signature id ++ filled s.returnType ("returns " ++ ·) ++
      (if s.parameters.isEmpty then []
        else ["parameters: " ++ ", ".intercalate (s.parameters.map parameterText)]) ++
      filled s.code fun c => "code: " ++ preview c)

/-! ### Hashed words -/

def startsWord (c : Char) : Bool := c.isAlpha || c == '_'

def inWord (c : Char) : Bool := c.isAlphanum || c == '_'

/-- The words of a text, made of ASCII letters, digits and underscores; `word` is the one being
read, reversed. -/
def wordsFrom (word : List Char) : List Char → List String
  | [] => if word.isEmpty then [] else [String.ofList word.reverse]
  | c :: rest =>
      if word.isEmpty then if startsWord c then wordsFrom [c] rest else wordsFrom [] rest
      else if inWord c then wordsFrom (c :: word) rest
      else String.ofList word.reverse :: wordsFrom [] rest

/-- The bucket of a word, out of `size`, and the direction it counts in. -/
def bucket (size : Nat) (word : String) : Nat × Int :=
  let d := Digest.digest word.toUTF8.toList
  let n := (List.range 4).foldl (fun n i => n * 256 + Digest.byteAt d i) 0
  (n % size, if Digest.byteAt d 4 % 2 == 0 then 1 else -1)

def counts (size : Nat) (words : List String) : List Int :=
  words.foldl
    (fun v w =>
      let b := bucket size w
      v.modify b.1 (· + b.2))
    (List.replicate size 0)

/-- A text with words cannot be counted into no buckets. -/
inductive HashFault where
  | noBuckets
  | negativeSize
  deriving DecidableEq, Repr

def HashFault.message : HashFault → String
  | noBuckets => "integer modulo by zero"
  | negativeSize => "list index out of range"

/-- The vector of a text in a model with `size` buckets. -/
def hashed (size : Int) (text : String) : Except HashFault (List Float) :=
  let words := wordsFrom [] (Text.lower text).toList
  if words.isEmpty || 0 < size then
    .ok (unit ((counts size.toNat words).map Float.ofInt))
  else .error (if size == 0 then .noBuckets else .negativeSize)

/-! ### Models -/

/-- What is known of a model: only the hashing one needs no weights. -/
structure ModelInfo where
  key : String
  title : String
  size : Nat
  neural : Bool
  deriving DecidableEq, Repr

def defaultSize : Nat := 256

def models : List ModelInfo :=
  [⟨"jina-code", "Jina Embeddings v2 Code", 768, true⟩, ⟨"bge-base", "BGE Base EN v1.5", 768, true⟩,
    ⟨"minilm", "MiniLM L6 v2", 384, true⟩, ⟨"hash", "Hash Embedding", defaultSize, false⟩]

def modelInfo? (key : String) : Option ModelInfo := models.find? (·.key == key)

inductive Model where
  | hashing (size : Nat)
  | neural (info : ModelInfo)
  deriving DecidableEq, Repr

namespace Model

def key : Model → String
  | hashing _ => "hash"
  | neural info => info.key

def size : Model → Nat
  | hashing n => n
  | neural info => info.size

/-- The model of a key. A key that is not known, or whose model cannot be run, gives the hashing
model. -/
def select (canRunNeural : Bool) (key : String) : Model :=
  match modelInfo? key with
  | some info => if info.neural && canRunNeural then neural info else hashing defaultSize
  | none => hashing defaultSize

/-- The neural model of a key. -/
def neural? (key : String) : Option Model :=
  ((modelInfo? key).filter (·.neural)).map neural

def notNeural (key : String) : String := "'" ++ key ++ "' is not a transformer embedding model"

/-- Neural models need a library that is not part of the program. -/
def unavailable : String := "No module named 'torch'"

end Model

end Embedding

/-- Something that turns texts into vectors and may fail at it. -/
structure Embedder where
  key : String
  embed : String → Option (List Float)

namespace Embedder

def hashing (size : Int) : Embedder where
  key := "hash"
  embed text := (Embedding.hashed size text).toOption

/-- The vector of a symbol; an empty one is no vector. -/
def embedSymbol (e : Embedder) (s : Symbol) : Option (List Float) :=
  match e.embed (Embedding.symbolText s) with
  | some (x :: v) => some (Embedding.unit (x :: v))
  | _ => none

/-- The symbols that have a vector, with their vectors. -/
def embedAll (e : Embedder) (symbols : List Symbol) : List (Symbol × List Float) :=
  symbols.filterMap fun s => (e.embedSymbol s).map fun v => (s, v)

end Embedder

end PullReview
