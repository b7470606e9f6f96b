/-!
# Command line arguments

Options have long spellings or are a dash and a letter. A value follows its option, or is attached:
to a long one by an equals sign, to a letter directly. Letters may share a dash. Two dashes end the
options.
-/

namespace PullReview.Command

/-- What is wrong with the arguments. A refused value comes with a message of its own. -/
inductive UsageError where
  | noSuchOption (name : String)
  | valueMissing (name : String)
  | valueUnwanted (name : String)
  | parameterMissing (name : String)
  | parameterInvalid (name : String)
  | refused (message : String)
  | unexpected (arguments : List String)
  | commandMissing
  | noSuchCommand (name : String)
  deriving DecidableEq, Repr

def UsageError.message : UsageError → String
  | noSuchOption n => "No such option: " ++ n
  | valueMissing n => "Option '" ++ n ++ "' requires an argument."
  | valueUnwanted n => "Option '" ++ n ++ "' does not take a value."
  | parameterMissing n => "Missing argument '" ++ n ++ "'."
  | parameterInvalid n => "Invalid value for '" ++ n ++ "'."
  | refused m => "Invalid value: " ++ m
  | unexpected args =>
      "Got unexpected extra argument" ++ (if args.length == 1 then "" else "s") ++ " (" ++
        " ".intercalate args ++ ")"
  | commandMissing => "Missing command."
  | noSuchCommand n => "No such command '" ++ n ++ "'."

/-- What an option is set to. -/
inductive Setting where
  | on
  | off
  | text (value : String)
  deriving DecidableEq, Repr

/-- An option by its name, and the spellings that switch it on, switch it off, or set a value. -/
structure OptionSpec where
  name : String
  on : List String := []
  off : List String := []
  value : List String := []

/-- The options given, in order, and the other arguments. -/
structure Parsed where
  given : List (String × Setting) := []
  positional : List String := []
  deriving DecidableEq, Repr

namespace Parsed

/-- The setting given last counts. -/
def setting? (p : Parsed) (name : String) : Option Setting := p.given.reverse.lookup name

def isOn (p : Parsed) (name : String) (other : Bool) : Bool :=
  match p.setting? name with
  | some .on => true
  | some .off => false
  | _ => other

def text? (p : Parsed) (name : String) : Option String :=
  match p.setting? name with
  | some (.text s) => some s
  | _ => none

end Parsed

/-- What a spelling means: a setting, or that a value has to follow. -/
private def meaning? (specs : List OptionSpec) (spelling : String) :
    Option (String × Option Setting) :=
  specs.findSome? fun s =>
    if s.on.contains spelling then some (s.name, some .on)
    else if s.off.contains spelling then some (s.name, some .off)
    else if s.value.contains spelling then some (s.name, none)
    else none

/-- The settings of one argument, and the option that waits for a value. -/
structure Taken where
  given : List (String × Setting)
  pending : Option (String × String) := none

/-- Options of one letter that share a dash. -/
private def takeLetters (specs : List OptionSpec) : List Char → Except UsageError Taken
  | [] => .ok ⟨[], none⟩
  | c :: rest =>
      let spelling := String.ofList ['-', c]
      match meaning? specs spelling with
      | none => .error (.noSuchOption spelling)
      | some (name, some setting) => do
          let taken ← takeLetters specs rest
          return { taken with given := (name, setting) :: taken.given }
      | some (name, none) =>
          if rest.isEmpty then .ok ⟨[], some (name, spelling)⟩
          else .ok ⟨[(name, .text (String.ofList rest))], none⟩

private def isLetterOption (spelling : List Char) : Bool :=
  match spelling with
  | ['-', c] => c != '-'
  | _ => false

/-- One argument that starts with a dash. -/
private def takeOption (specs : List OptionSpec) (arg : String) : Except UsageError Taken :=
  let cs := arg.toList
  let long := cs.takeWhile (· != '=')
  let attached := if cs.contains '=' then some (String.ofList (cs.drop (long.length + 1))) else none
  let spelling := String.ofList long
  let found := if isLetterOption long then none else meaning? specs spelling
  match found, attached with
  | some (name, some setting), none => .ok ⟨[(name, setting)], none⟩
  | some (_, some _), some _ => .error (.valueUnwanted spelling)
  | some (name, none), some value => .ok ⟨[(name, .text value)], none⟩
  | some (name, none), none => .ok ⟨[], some (name, spelling)⟩
  | none, _ =>
      if arg.startsWith "--" then .error (.noSuchOption spelling) else takeLetters specs (cs.drop 1)

/-- Sorts arguments into options and others. Unless options may stand anywhere, the first other
argument ends them. The option that waits for a value is pending. -/
def scan (specs : List OptionSpec) (anywhere : Bool) (pending : Option (String × String)) :
    List String → Except UsageError Parsed
  | [] =>
      match pending with
      | some (_, spelling) => .error (.valueMissing spelling)
      | none => .ok {}
  | arg :: rest =>
      match pending with
      | some (name, _) => do
          let p ← scan specs anywhere none rest
          return { p with given := (name, .text arg) :: p.given }
      | none =>
          if arg == "--" then .ok { positional := rest }
          else if arg.startsWith "-" && arg != "-" then do
            let taken ← takeOption specs arg
            let p ← scan specs anywhere taken.pending rest
            return { p with given := taken.given ++ p.given }
          else if anywhere then do
            let p ← scan specs anywhere none rest
            return { p with positional := arg :: p.positional }
          else .ok { positional := arg :: rest }

end PullReview.Command
