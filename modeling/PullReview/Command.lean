import PullReview.Command.Arguments
import PullReview.Number.Reading

/-!
# Commands

The commands of the program and how they are written. The arguments of a command are looked at in
the order they are declared in, and superfluous ones last.
-/

namespace PullReview

structure ReviewOptions where
  asJson : Bool := false
  vectors : Bool := false
  name : Option String := none
  useModel : Bool := false
  summary : Bool := false
  failOnBreaking : Bool := false
  deriving DecidableEq, Repr

inductive Command where
  | version
  | help
  | index (path : String) (name : Option String) (vectors : Bool) (model : Option String)
  | review (base head : String) (options : ReviewOptions)
  | mapLine (patch : String) (line : Int)
  | listProjects
  | deleteProject (name : String)
  | setModel (provider : String) (model apiKey endpoint : Option String)
  | setEmbedding (model : String)
  | setThreshold (key : String) (value : Float)
  | showModel
  deriving Repr

namespace Command

/-- Which paths are there. -/
structure Places where
  isDirectory : String → Bool
  isFile : String → Bool

private def helpSpec : OptionSpec := { name := "help", on := ["--help"] }

private def vectorsSpec : OptionSpec :=
  { name := "vectors", on := ["--vectors"], off := ["--no-vectors"] }

private def nameSpec : OptionSpec := { name := "name", value := ["--name", "-n"] }

def programOptions : List OptionSpec :=
  [{ name := "version", on := ["--version", "-v"] }, { name := "verbose", on := ["--verbose"] },
    helpSpec]

def indexOptions : List OptionSpec :=
  [nameSpec, vectorsSpec, { name := "model", value := ["--embedding-model"] }, helpSpec]

def reviewOptions : List OptionSpec :=
  [{ name := "json", on := ["--json"] }, vectorsSpec, nameSpec,
    { name := "llm", on := ["--llm"], off := ["--no-llm"] },
    { name := "summary", on := ["--summary"] },
    { name := "fail", on := ["--fail-on-breaking"] }, helpSpec]

def modelOptions : List OptionSpec :=
  [{ name := "model", value := ["--model", "-m"] },
    { name := "key", value := ["--api-key", "-k"] },
    { name := "endpoint", value := ["--endpoint", "-e"] }, helpSpec]

/-- The next argument, if it is acceptable. -/
private def argument {α : Type} (name : String) (read : String → Option α) :
    StateT (List String) (Except UsageError) α := fun args =>
  match args with
  | [] => .error (.parameterMissing name)
  | arg :: rest =>
      match read arg with
      | some a => .ok (a, rest)
      | none => .error (.parameterInvalid name)

private def place (isThere : String → Bool) (path : String) : Option String :=
  if path != "" && isThere path then some path else none

private def whole? (s : String) : Option Int := ((Number.parseWhole s).toOption).getD none

/-- A command with its options and arguments. -/
private def command (specs : List OptionSpec) (args : List String)
    (build : Parsed → StateT (List String) (Except UsageError) Command) :
    Except UsageError Command := do
  let p ← scan specs true none args
  if (p.setting? "help").isSome then return .help
  let (c, rest) ← (build p).run p.positional
  if rest.isEmpty then return c else .error (.unexpected rest)

private def named (places : Places) (name : String) (args : List String) :
    Except UsageError Command :=
  match name with
  | "index" => command indexOptions args fun p => do
      let path ← argument "PROJECT_PATH" (place places.isDirectory)
      return .index path (p.text? "name") (p.isOn "vectors" true) (p.text? "model")
  | "review" => command reviewOptions args fun p => do
      let base ← argument "BASE" (place places.isDirectory)
      let head ← argument "HEAD" (place places.isDirectory)
      return .review base head
        { asJson := p.isOn "json" false
          vectors := p.isOn "vectors" false
          name := p.text? "name"
          useModel := p.isOn "llm" false
          summary := p.isOn "summary" false
          failOnBreaking := p.isOn "fail" false }
  | "map-line" => command [helpSpec] args fun _ => do
      let patch ← argument "PATCH_FILE" (place places.isFile)
      return .mapLine patch (← argument "LINE" whole?)
  | "list-projects" => command [helpSpec] args fun _ => return .listProjects
  | "delete-project" => command [helpSpec] args fun _ => do
      return .deleteProject (← argument "PROJECT_NAME" some)
  | "set-llm" => command modelOptions args fun p => do
      return .setModel (← argument "PROVIDER" some) (p.text? "model") (p.text? "key")
        (p.text? "endpoint")
  | "set-embedding" => command [helpSpec] args fun _ => do
      return .setEmbedding (← argument "MODEL" some)
  | "set-threshold" => command [helpSpec] args fun _ => do
      let key ← argument "KEY" some
      return .setThreshold key (← argument "VALUE" Number.parseDouble?)
  | "show-llm" => command [helpSpec] args fun _ => return .showModel
  | _ => .error (.noSuchCommand name)

/-- The command that arguments stand for. -/
def parse (places : Places) (args : List String) : Except UsageError Command := do
  let p ← scan programOptions false none args
  match p.given.find? fun g => g.1 != "verbose" with
  | some ("version", _) => return .version
  | some _ => return .help
  | none =>
      match p.positional with
      | [] => if args.isEmpty then return .help else .error .commandMissing
      | name :: rest => named places name rest

end Command

end PullReview
