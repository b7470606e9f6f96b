import PullReview.FileTree
import PullReview.Json.Writer
import PullReview.LanguageModel.Provider
import PullReview.Toml.Reader
import PullReview.Toml.Writer

/-!
# Configuration

The configuration file has a section for the language model, one for the embedding model and one
for the analysis. A file that is missing counts as empty, and so does one that breaks the rules of
its notation; any other failure to read it is passed on. Saving one section writes the whole file
again and leaves the other sections as they are.

All of this is the same for every notation. The one in use is `toml`.
-/

namespace PullReview.Config

/-- The sections of a file by name, and the members of a section. -/
abbrev Members := Toml.Members

/-! ### Notations -/

/-- Why a text gives no sections: it breaks the rules, or the reader fails in its own way. -/
inductive ReadFault (ρ : Type) where
  | malformed
  | failed (fault : ρ)

/-- A notation for configurations. -/
structure Format (ρ ω : Type) where
  read : String → Except (ReadFault ρ) Members
  write : Members → Except ω String

/-- What is wrong with a file or a section. -/
inductive FaultOf (ρ ω : Type) where
  | undecodable (fault : Text.Utf8.Fault)
  | unreadable (fault : ρ)
  | notIterable (type : String)
  | noPair (position : Nat)
  | pairLength (position length : Nat)
  | unhashable (type : String)
  | noMembers (type : String)
  | unwritable (fault : ω)

abbrev Result (ρ ω : Type) := Except (FaultOf ρ ω)

/-- The notation in use, whose reader has no failures of its own. -/
def toml : Format Empty Toml.WriteFault where
  read text := (Toml.read? text).elim (.error .malformed) .ok
  write := Toml.render

abbrev Fault := FaultOf Empty Toml.WriteFault

def Fault.message : Fault → String
  | .undecodable f => f.message
  | .unreadable f => f.elim
  | .notIterable t => "'" ++ t ++ "' object is not iterable"
  | .noPair i =>
      "cannot convert dictionary update sequence element #" ++ toString i ++ " to a sequence"
  | .pairLength i n =>
      "dictionary update sequence element #" ++ toString i ++ " has length " ++ toString n ++
        "; 2 is required"
  | .unhashable t => "unhashable type: '" ++ t ++ "'"
  | .noMembers t => "'" ++ t ++ "' object has no attribute 'items'"
  | .unwritable f => f.message

variable {ρ ω : Type}

/-! ### Files -/

def fileName : String := "config.toml"

/-- What became of a save, which says whether it was possible, and the tree after it. -/
abbrev SavedOf (ρ ω : Type) := Result ρ ω Bool × FileTree

abbrev Saved := SavedOf Empty Toml.WriteFault

namespace Format

/-- The sections of a text, none if it breaks the rules. -/
def sectionsOf (f : Format ρ ω) (text : String) : Result ρ ω Members :=
  match f.read text with
  | .ok sections => .ok sections
  | .error .malformed => .ok []
  | .error (.failed e) => .error (.unreadable e)

/-- All sections of the file in a home directory. -/
def load (f : Format ρ ω) (home : List String) (t : FileTree) : Result ρ ω Members :=
  match t.read (home ++ [fileName]) with
  | .error _ => .ok []
  | .ok bytes =>
      match FileTree.decodeText bytes with
      | .error e => .error (.undecodable e)
      | .ok text => f.sectionsOf text

/-- Writes all sections. -/
def store (f : Format ρ ω) (home : List String) (t : FileTree) (sections : Members) :
    SavedOf ρ ω :=
  match t.makeDirectories home with
  | (.error _, made) => (.ok false, made)
  | (.ok (), made) =>
      match f.write sections with
      | .error e => (.error (.unwritable e), made)
      | .ok text =>
          match made.write (home ++ [fileName]) text.toUTF8.toList with
          | .error _ => (.ok false, made)
          | .ok written => (.ok true, written)

/-- Saves one section. -/
def save (f : Format ρ ω) (home : List String) (t : FileTree) (name : String)
    (members : Members) : SavedOf ρ ω :=
  match f.load home t with
  | .error e => (.error e, t)
  | .ok sections => f.store home t (Json.setMember sections name (.obj members))

end Format

/-! ### Sections -/

/-- The parts of a value that can stand for a pair. -/
def parts? : Toml.Value → Option (List Toml.Value)
  | .arr items => some items
  | .str s => some (s.toList.map fun c => .str (String.singleton c))
  | .obj members => some (members.map fun m => .str m.1)
  | _ => none

/-- A key in the notation of objects. -/
def keyOf : Toml.Value → Result ρ ω String
  | .str s => .ok s
  | .arr _ => .error (.unhashable "list")
  | .obj _ => .error (.unhashable "dict")
  | .moment m => .ok m.text
  | v => .ok v.toJson.compact

def addPair (members : Members) (item : Nat × Toml.Value) : Result ρ ω Members :=
  match parts? item.2 with
  | none => .error (.noPair item.1)
  | some [key, value] => do return Json.setMember members (← keyOf key) value
  | some parts => .error (.pairLength item.1 parts.length)

/-- A value as the members of a section: those of a table, or a list of pairs. -/
def asMembers (v : Toml.Value) : Result ρ ω Members :=
  match v with
  | .obj members => .ok members
  | v =>
      match parts? v with
      | some items => (items.zipIdx.map fun i => (i.2, i.1)).foldlM addPair []
      | none => .error (.notIterable v.typeWord)

/-- What is used of a provider that has no section. -/
def providerDefaults (provider : String) : Members :=
  let remote (p : LanguageModel.Provider) : Members :=
    [("provider", .str provider), ("model", .str p.defaultModel), ("api_key", .str "")]
  match provider with
  | "openai" => remote .openAI
  | "anthropic" => remote .anthropic
  | "gemini" => remote .gemini
  | _ =>
      [("provider", .str "ollama"), ("model", .str LanguageModel.localModel),
        ("endpoint", .str LanguageModel.localEndpoint)]

def modelSection : String := "llm"

def embeddingSection : String := "embeddings"

def analysisSection : String := "analysis"

/-- The settings of the analysis. -/
def analysisKeys : List String :=
  ["within_pr_threshold", "cross_repo_threshold", "vector_threshold", "exact_threshold",
    "vector_top_k", "batch_size", "max_chain_depth"]

def known (members : Members) : Members := members.filter fun m => analysisKeys.contains m.1

/-- The language model of a file, or the local one. -/
def languageModel (sections : Members) : Result ρ ω Members :=
  match (sections.lookup modelSection).filter Toml.Value.isTruthy with
  | some v => asMembers v
  | none => .ok (providerDefaults "ollama")

/-- The members of a section, none if it is missing. -/
def membersOf (sections : Members) (name : String) : Result ρ ω Members :=
  asMembers ((sections.lookup name).getD (.obj []))

def embedding (sections : Members) : Result ρ ω Members :=
  membersOf sections embeddingSection

/-- The settings of the analysis; others are passed over. -/
def analysis (sections : Members) : Result ρ ω Members :=
  match (sections.lookup analysisSection).getD (.obj []) with
  | .obj members => .ok (known members)
  | v => .error (.noMembers v.typeWord)

/-- The section of a language model. An empty key or endpoint is left out. -/
def modelMembers (provider model apiKey endpoint : String) : Members :=
  [("provider", .str provider), ("model", .str model)] ++
    (if apiKey == "" then [] else [("api_key", .str apiKey)]) ++
    (if endpoint == "" then [] else [("endpoint", .str endpoint)])

/-- Adds the known settings to those of the file. -/
def overlay (old new : Members) : Members :=
  (known new).foldl (fun ms m => Json.setMember ms m.1 m.2) old

/-! ### Saves -/

namespace Format

def saveLanguageModel (f : Format ρ ω) (home : List String) (t : FileTree)
    (provider model apiKey endpoint : String) : SavedOf ρ ω :=
  f.save home t modelSection (modelMembers provider model apiKey endpoint)

def saveEmbedding (f : Format ρ ω) (home : List String) (t : FileTree) (model : String) :
    SavedOf ρ ω :=
  f.save home t embeddingSection [("model", .str model)]

def saveAnalysis (f : Format ρ ω) (home : List String) (t : FileTree) (settings : Members) :
    SavedOf ρ ω :=
  match (f.load home t).bind (membersOf · analysisSection) with
  | .error e => (.error e, t)
  | .ok old => f.save home t analysisSection (overlay old settings)

end Format

def load : List String → FileTree → Except Fault Members := toml.load

def saveLanguageModel : List String → FileTree → String → String → String → String → Saved :=
  toml.saveLanguageModel

def saveEmbedding : List String → FileTree → String → Saved := toml.saveEmbedding

def saveAnalysis : List String → FileTree → Members → Saved := toml.saveAnalysis

end PullReview.Config
