import PullReview.Command
import PullReview.Config.Values
import PullReview.Impact.Summary
import PullReview.Json.Display
import PullReview.LanguageModel
import PullReview.Project
import PullReview.Report.Display
import PullReview.Report.Record
import PullReview.Repository.Indexing
import PullReview.Review.Changes

/-!
# Running commands

A command reads and changes a file tree and writes two streams of text. It ends with an exit code, a
complaint about its arguments, or a failure. What it knows of the world outside, such as the answers
of a language model, comes in as data.
-/

namespace PullReview.Command

/-- What a run is given. The settings in use are those of the configuration at the start. -/
structure Environment where
  home : List String
  workingDirectory : List String := []
  now : String := ""
  send : LanguageModel.Request → LanguageModel.Delivery := fun _ => .unreachable
  values : Config.Values := {}

/-- A failure that no command expects. -/
inductive Failure where
  | file (error : FileError) (path : List String)
  | config (fault : Config.Fault)
  | undecodable (fault : Text.Utf8.Fault)
  | digits (fault : Number.TooManyDigits)
  | review (fault : Review.Fault)
  | notWhole (fault : Number.NotWhole)
  | keyNotText (type : String)

def Failure.message : Failure → String
  | file e path => e.message path
  | config f => f.message
  | undecodable f => f.message
  | digits f => f.message
  | review f => f.message
  | notWhole f => f.message
  | keyNotText "dict" => "unhashable type: 'slice'"
  | keyNotText "list" => "can only concatenate list (not \"str\") to list"
  | keyNotText t => "'" ++ t ++ "' object is not subscriptable"

inductive Ending where
  | exit (code : Nat)
  | usage (error : UsageError)
  | failure (failure : Failure)

/-- The files, and what was written so far. -/
structure Session where
  tree : FileTree
  out : String := ""
  err : String := ""

/-- What was written and changed before an early end stays. -/
abbrev Run := ExceptT Ending (StateM Session)

private def echo (line : String) : Run Unit :=
  modify fun s => { s with out := s.out ++ line ++ "\n" }

private def echoError (line : String) : Run Unit :=
  modify fun s => { s with err := s.err ++ line ++ "\n" }

private def orFail {ε α : Type} (failure : ε → Failure) : Except ε α → Run α
  | .ok a => pure a
  | .error e => throw (.failure (failure e))

private def exitIf (condition : Bool) (code : Nat) : Run Unit :=
  if condition then throw (.exit code) else pure ()

private def refuse {α : Type} (message : String) : Run α := throw (.usage (.refused message))

/-- Changes the tree, or fails at a path. -/
private def changeTree {α : Type} (f : FileTree → FileTree.Outcome α) : Run α := do
  let (answer, t) := f (← get).tree
  modify fun s => { s with tree := t }
  orFail (fun e => .file e.1 e.2) answer

/-! ### Paths -/

/-- The components of a path from the root. -/
def Environment.components (env : Environment) (path : String) : List String :=
  if Path.isAbsolute path then Path.components path
  else env.workingDirectory ++ Path.components path

/-- A path without two dots in it. -/
def Environment.resolve (env : Environment) (path : String) : List String :=
  Path.destination (env.components path)

private def pathText (path : List String) : String := "/" ++ "/".intercalate path

def Environment.memory (env : Environment) : List String := env.home ++ ["memory"]

def Environment.places (env : Environment) (t : FileTree) : Places where
  isDirectory path := t.isDirectory (env.components path)
  isFile path := t.isFile (env.components path)

/-! ### Indexing -/

/-- An index with what came out of building it. -/
structure Built where
  run : Indexing.Run
  embedder : Option Embedder := none
  store : Option Embedding.Store := none

private def ensureMemory (env : Environment) : Run Unit :=
  changeTree fun t => t.makeDirectories env.memory

/-- An empty text counts as not given. -/
private def given (t : Option String) (other : String) : String := (t.filter (· != "")).getD other

private def storeName : String := "lancedb"

/-- Opens the store of a project, unless something stands in its place. -/
private def openStore (project : List String) : Run Bool := do
  let (answer, t) := (← get).tree.makeDirectories (project ++ [storeName])
  modify fun s => { s with tree := t }
  return answer.isOk

/-- Keeps the rows of a store. -/
private def keepStore (project : List String) (key : String) (store : Embedding.Store) :
    Run Unit :=
  modify fun s =>
    let path := project ++ [storeName, Embedding.Shelf.tableName key ++ ".json"]
    match s.tree.write path store.toJson.compact.toUTF8.toList with
    | .ok t => { s with tree := t }
    | .error _ => s

private def indexTree (env : Environment) (root : List String) (embedder : Option Embedder) :
    Run Indexing.Run := do
  let settings : Indexing.Settings :=
    { batchSize := env.values.batchSize, embedder := embedder, hasStore := embedder.isSome }
  return Indexing.run settings (.ofTree (← get).tree root) none {}

/-- Indexes a directory. With vectors, the embeddings go to the store of a project; if it cannot be
opened there are none. -/
private def build (env : Environment) (root : List String) (name : String) (vectors : Bool)
    (model : String) : Run Built := do
  if !vectors then return { run := ← indexTree env root none }
  ensureMemory env
  let project := Project.directory env.memory name
  changeTree fun t => Project.create env.memory t name
  if !(← openStore project) then return { run := ← indexTree env root none }
  let embedder := Embedder.hashing (Embedding.Model.select false model).size
  let run ← indexTree env root (some embedder)
  let store := run.commands.foldl Indexing.StoreCommand.run {}
  keepStore project embedder.key store
  return { run := run, embedder := some embedder, store := some store }

private def runIndex (env : Environment) (path : String) (name : Option String) (vectors : Bool)
    (model : Option String) : Run Unit := do
  let root := env.resolve path
  let name := given name (Project.nameOfPath (pathText root))
  let built ← build env root name vectors (given model env.values.embeddingModel.text)
  match built.embedder with
  | some e =>
      changeTree fun t =>
        Project.setRecord env.memory t name (.obj
          [("project_name", .str name), ("source_path", .str (pathText root)),
            ("embedding_model", .str e.key), ("indexed_at", .str env.now)])
  | none => pure ()
  let p := built.run.progress
  echo ("Indexed '" ++ pathText root ++ "' as project '" ++ name ++ "'.")
  echo ("Files: " ++ toString p.processedFiles ++ "/" ++ toString p.totalFiles ++ " | Symbols: " ++
    toString built.run.index.symbols.length ++ " | Edges: " ++
    toString built.run.index.calls.length ++ " | Embeddings: " ++ toString p.generatedEmbeddings ++
    " | Errors: " ++ toString p.errors)
  p.failedFiles.forM fun path => echoError ("  failed: " ++ path)

/-! ### Reviewing -/

private def client (env : Environment) : LanguageModel.Client :=
  let v := env.values
  .create v.provider.text? v.model.text? v.apiKey.text? v.endpoint.text?

private def runReview (env : Environment) (base head : String) (o : ReviewOptions) :
    Run Unit := do
  let root := env.resolve base
  let name := given o.name (Project.nameOfPath (pathText root))
  let built ← build env root name o.vectors env.values.embeddingModel.text
  let errors := built.run.progress.errors
  if errors != 0 then
    echoError ("Warning: " ++ toString errors ++ " file(s) could not be indexed.")
  let settings : Review.Settings :=
    { embedder := built.embedder
      store := built.store.map .ofStore
      predictor :=
        if o.useModel then some (LanguageModel.predictor ((client env).generate env.send)) else none
      limits := env.values.limits
      depth := env.values.depth }
  let t := (← get).tree
  let files := Review.changedFiles (.ofTree t root) (.ofTree t (env.resolve head))
  let report ← orFail .review (Review.run built.run.index settings files)
  if o.asJson then echo report.toJson.indented
  else
    modify fun s => { s with out := s.out ++ report.display }
    if o.summary then
      echo ""
      echo (report.impact.summary 10)
  exitIf (o.failOnBreaking && report.breaking.any (·.severity == .high)) 1

private def runMapLine (env : Environment) (patch : String) (line : Int) : Run Unit := do
  let path := env.components patch
  let bytes ← orFail (.file · path) ((← get).tree.read path)
  let text ← orFail .undecodable (FileTree.decodeText bytes)
  match ← orFail .digits (Diff.shownLine? text line) with
  | some n => echo (toString n)
  | none =>
      echoError ("Line " ++ toString line ++ " is not part of the diff.")
      throw (.exit 1)

/-! ### Projects -/

private def runListProjects (env : Environment) : Run Unit := do
  ensureMemory env
  let names := Project.names env.memory (← get).tree
  if names.isEmpty then echo "No projects indexed yet." else names.forM echo

private def runDeleteProject (env : Environment) (name : String) : Run Unit := do
  ensureMemory env
  if ← changeTree fun t => Project.delete env.memory t name then
    echo ("Deleted project '" ++ name ++ "'.")
  else refuse ("Project '" ++ name ++ "' not found.")

/-! ### Configuration -/

/-- Saves a part of the configuration. -/
private def saveConfig (f : FileTree → Config.Saved) : Run Unit := do
  let (answer, t) := f (← get).tree
  modify fun s => { s with tree := t }
  let saved ← orFail .config answer
  if !saved then
    echoError "Failed to save configuration."
    throw (.exit 1)

private def choices (words : List String) : String := ". Choose from: " ++ ", ".intercalate words

def providers : List String := ["ollama", "openai", "anthropic", "gemini"]

private def runSetModel (env : Environment) (provider : String)
    (model apiKey endpoint : Option String) : Run Unit := do
  let provider := Text.strip (Text.lower provider)
  if !providers.contains provider then
    refuse ("Unknown provider '" ++ provider ++ "'" ++ choices providers)
  let default (key : String) : String :=
    (((Config.providerDefaults provider).lookup key).map Toml.Value.text).getD ""
  let model := given model (default "model")
  let apiKey := apiKey.getD ""
  if provider != "ollama" && apiKey == "" then
    echoError ("Warning: no API key given for " ++ provider ++ ".")
  saveConfig fun t =>
    Config.saveLanguageModel env.home t provider model apiKey (given endpoint (default "endpoint"))
  echo ("LLM set to " ++ provider ++ " (" ++ model ++ ").")

private def runSetEmbedding (env : Environment) (model : String) : Run Unit := do
  let key := Text.strip (Text.lower model)
  match Embedding.modelInfo? key with
  | none =>
      refuse ("Unknown model '" ++ key ++ "'" ++ choices (Embedding.models.map (·.key)))
  | some info =>
      saveConfig fun t => Config.saveEmbedding env.home t key
      echo ("Embedding model set to: " ++ key ++ " (" ++ info.title ++ ", dim " ++
        toString info.size ++ ")")
      if key != "hash" then
        echo "Re-index your project after changing: reviewgraph index <path>"

private def wholeKeys : List String := ["vector_top_k", "batch_size", "max_chain_depth"]

private def runSetThreshold (env : Environment) (key : String) (value : Float) : Run Unit := do
  if !Config.analysisKeys.contains key then
    refuse ("Unknown key '" ++ key ++ "'" ++ choices Config.analysisKeys)
  let stored ←
    if wholeKeys.contains key then Json.int <$> orFail .notWhole (Number.truncate value)
    else pure (.float value)
  saveConfig fun t => Config.saveAnalysis env.home t [(key, stored)]
  echo (key ++ " = " ++ stored.display ++ " (applies from the next run)")

/-- The start of a key, which is not shown in full. -/
private def maskedKey : Toml.Value → Except Failure String
  | .str s => .ok (if s == "" then "(not set)" else (s.take 8).toString ++ "****")
  | v => if v.isTruthy then .error (.keyNotText v.typeWord) else .ok "(not set)"

private def runShowModel (env : Environment) : Run Unit := do
  let sections ← orFail .config (Config.load env.home (← get).tree)
  let members ← orFail .config (Config.languageModel sections)
  let text (key other : String) : String := ((members.lookup key).map Toml.Value.text).getD other
  echo ("Provider  " ++ text "provider" "ollama")
  echo ("Model     " ++ text "model" "")
  match (members.lookup "endpoint").filter Toml.Value.isTruthy with
  | some v => echo ("Endpoint  " ++ v.text)
  | none => pure ()
  let key ← orFail id (maskedKey ((members.lookup "api_key").getD (.str "")))
  echo ("API Key   " ++ key)
  echo ("Config    " ++ pathText (env.home ++ [Config.fileName]))

/-! ### All commands -/

def helpText : String :=
  "Usage: reviewgraph [OPTIONS] COMMAND [ARGS]...\n\nCommands: index, review, map-line, " ++
    "list-projects, delete-project, set-llm, set-embedding, set-threshold, show-llm"

def perform (env : Environment) : Command → Run Unit
  | .version => echo "ReviewGraph CLI v0.1.0"
  | .help => echo helpText
  | .index path name vectors model => runIndex env path name vectors model
  | .review base head options => runReview env base head options
  | .mapLine patch line => runMapLine env patch line
  | .listProjects => runListProjects env
  | .deleteProject name => runDeleteProject env name
  | .setModel provider model apiKey endpoint => runSetModel env provider model apiKey endpoint
  | .setEmbedding model => runSetEmbedding env model
  | .setThreshold key value => runSetThreshold env key value
  | .showModel => runShowModel env

/-- Runs the command that arguments stand for. -/
def run (env : Environment) (t : FileTree) (args : List String) : Ending × Session :=
  match parse (env.places t) args with
  | .error e => (.usage e, { tree := t })
  | .ok c =>
      match (perform env c).run.run { tree := t } with
      | (.ok (), s) => (.exit 0, s)
      | (.error ending, s) => (ending, s)

end PullReview.Command
