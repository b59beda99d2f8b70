import MeshDestination.Idl.Derived
import MeshDestination.Yaml.Printer

/-!
# The command line

One command writes the service profile that an interface definition gives rise to.
-/

namespace MeshDestination

/-! ## Rendering definitions -/

/-- Why a definition has no profile. -/
inductive RenderError where
  /-- The bytes are no text. -/
  | notText
  /-- The definition cannot be read from where it is. -/
  | unreadable (reason : String)
  | malformed (e : Idl.ParseError)

/-- What lies behind an error. -/
def RenderError.cause : RenderError → String
  | .notText => "stream did not contain valid UTF-8"
  | .unreadable reason => reason
  | .malformed e => e.message

/-- The wording of an error. -/
def RenderError.message (e : RenderError) : String :=
  match e with
  | .notText | .unreadable _ => "failed to read definition: " ++ e.cause
  | .malformed _ => "failed to parse definition: " ++ e.cause

/-- The profile of a service as its definition, given in bytes, gives rise to it. -/
def renderDefinition (definition : List UInt8) (service : ServiceRef) (clusterDomain : String) :
    Except RenderError String :=
  match String.fromUTF8? ⟨definition.toArray⟩ with
  | none => .error .notText
  | some text =>
    match Idl.parse text with
    | .error e => .error (.malformed e)
    | .ok ds =>
      .ok (Yaml.document (Idl.profileDocument (Idl.derivedProfile ds service clusterDomain)))

/-! ## Arguments -/

/-- The command to derive a profile. -/
structure ProfileCommand where
  /-- The file that holds the definition. -/
  definition : String
  ns : String
  clusterDomain : String
  service : String
  deriving DecidableEq

/-- The options of the command. -/
inductive CommandOption where
  | definition
  | ns
  | clusterDomain
  deriving DecidableEq

/-- The long name of an option. -/
def CommandOption.longName : CommandOption → String
  | .definition => "--proto"
  | .ns => "--namespace"
  | .clusterDomain => "--cluster-domain"

/-- The option of a long name. -/
def CommandOption.ofLongName? (name : List Char) : Option CommandOption :=
  [CommandOption.definition, .ns, .clusterDomain].find? fun o => o.longName.toList == name

/-- Arguments that have been read. -/
structure CommandArgs where
  options : List (CommandOption × String) := []
  positionals : List String := []

/-- Adds an option, which may be given once. The file of the definition needs a name. -/
def CommandArgs.addOption (a : CommandArgs) (o : CommandOption) (value : String) :
    Option CommandArgs :=
  if (a.options.lookup o).isSome || (o = .definition && value.isEmpty) then none
  else some { a with options := (o, value) :: a.options }

/-- Adds an argument that is no option. -/
def CommandArgs.addPositional (a : CommandArgs) (value : String) : CommandArgs :=
  { a with positionals := a.positionals ++ [value] }

/-- How one argument is to be taken. -/
inductive ArgumentForm where
  | positional (value : String)
  /-- An option with its value. -/
  | valued (o : CommandOption) (value : String)
  /-- An option whose value is the next argument. -/
  | pending (o : CommandOption)
  /-- All that follows is no option. -/
  | terminator
  | unknown

/-- The form of an argument. -/
def argumentForm (s : String) : ArgumentForm :=
  match s.toList with
  | ['-', '-'] => .terminator
  | '-' :: '-' :: r =>
    let name := '-' :: '-' :: r.takeWhile (· != '=')
    match CommandOption.ofLongName? name, r.dropWhile (· != '=') with
    | some o, '=' :: value => .valued o (String.ofList value)
    | some o, _ => .pending o
    | none, _ => .unknown
  | ['-', 'n'] => .pending .ns
  | '-' :: 'n' :: '=' :: value => .valued .ns (String.ofList value)
  | '-' :: 'n' :: value => .valued .ns (String.ofList value)
  | ['-'] => .positional s
  | '-' :: _ => .unknown
  | _ => .positional s

/-- Reads arguments. The value of an option cannot look like an option. -/
def readArguments (a : CommandArgs) : List String → Option CommandArgs
  | [] => some a
  | [s] =>
    match argumentForm s with
    | .positional v => some (a.addPositional v)
    | .valued o v => a.addOption o v
    | .terminator => some a
    | .pending _ | .unknown => none
  | s :: v :: r =>
    match argumentForm s with
    | .positional p => readArguments (a.addPositional p) (v :: r)
    | .valued o value => (a.addOption o value).bind fun a => readArguments a (v :: r)
    | .terminator => some { a with positionals := a.positionals ++ v :: r }
    | .unknown => none
    | .pending o =>
      match argumentForm v with
      | .positional value => (a.addOption o value).bind fun a => readArguments a r
      | _ => none

/-- Reads the command from its arguments. -/
def ProfileCommand.ofArguments? (args : List String) : Option ProfileCommand := do
  let a ← readArguments {} args
  let definition ← a.options.lookup .definition
  match a.positionals with
  | [service] => some {
      definition
      ns := (a.options.lookup .ns).getD "default"
      clusterDomain := (a.options.lookup .clusterDomain).getD "cluster.local"
      service }
  | _ => none

/-! ## Running -/

/-- Why a file has no content. -/
inductive FileError where
  | missing
  /-- A part of its path before the last is no directory. -/
  | notInDirectory
  | denied
  /-- It is a directory, which can be opened but not read. -/
  | isDirectory
  deriving DecidableEq

/-- Whether a file can be opened all the same. -/
def FileError.isOpened (e : FileError) : Bool := e == .isDirectory

/-- The wording of the reason. -/
def FileError.message : FileError → String
  | .missing => "No such file or directory (os error 2)"
  | .notInDirectory => "Not a directory (os error 20)"
  | .denied => "Permission denied (os error 13)"
  | .isDirectory => "Is a directory (os error 21)"

/-- What a command leaves behind. -/
structure CommandResult where
  code : UInt8
  stdout : String := ""
  stderr : String := ""
  deriving DecidableEq

/-- The report of a failure and of what lies behind it. -/
def failureReport (message cause : String) : String :=
  "Error: " ++ message ++ "\n\nCaused by:\n    " ++ cause ++ "\n"

/-- Runs the command, given what its file holds. -/
def ProfileCommand.run (c : ProfileCommand) (content : Except FileError (List UInt8)) :
    CommandResult :=
  let report (e : RenderError) : CommandResult :=
    { code := 1, stderr := failureReport e.message e.cause }
  match content with
  | .error e =>
    if e.isOpened then report (.unreadable e.message)
    else { code := 1, stderr := failureReport ("failed to open " ++ c.definition) e.message }
  | .ok bytes =>
    match renderDefinition bytes ⟨c.ns, c.service⟩ c.clusterDomain with
    | .ok text => { code := 0, stdout := text }
    | .error e => report e

/-- How the command is used. -/
def usage : String :=
  "Usage: destination profile [OPTIONS] --proto <PROTO> <SERVICE>\n"

/-- What is left behind by arguments that are no command. -/
def usageError : CommandResult := { code := 2, stderr := usage }

end MeshDestination
