import DeclScope.Analyzer
import DeclScope.CommandLine.Options
import DeclScope.DotEnv
import DeclScope.Observer.Instrument

/-!
# The command

The command parses one source and prints the class definitions in it as JSON, in the order in which
they are reported.  A failing parse prints none of them: standard output stays empty, and standard
error ends with a report that gives the failure and its causes.  On request the cursors of the
top-level walk are described on standard error.

Settings come from the environment, completed by a file `.env` in the working directory or in one
above it.

How a command line is understood, how the environment is completed, how a value is written as JSON
and how a failure is reported are not matters of the command.  It takes them from a toolkit.
-/

namespace DeclScope.CommandLine

/-- The environment of the command. -/
structure Environment where
  assigned : DotEnv.Variables
  /-- What lies at `.env` in the directories above the working directory, the nearest first. -/
  above : List PathStatus := []

/-- Variables are an environment where nothing lies above. -/
instance : Coe DotEnv.Variables Environment := ⟨fun assigned => { assigned }⟩

/-- What the command finds around it. -/
structure World where
  arguments : List String
  environment : Environment
  files : Files
  stdin : Stream
  frontEnd : FrontEnd

/-- What the command leaves behind. -/
structure Outcome where
  code : Nat
  stdout : String
  /-- What stands on standard error; for a command line that cannot be understood, anything. -/
  stderr? : Option String
deriving DecidableEq, Inhabited

/-- The name under which definitions are collected. -/
def collectorId : ObserverId := "collector"

/-- The name under which cursors are described. -/
def dumperId : ObserverId := "dumper"

/-- The states in which the observers start. -/
def initialStore : Store Instrument :=
  ⟨.inert, [(collectorId, .collector []), (dumperId, .dumper .all {} 0)]⟩

/-- The subscribers: a collector, and a dumper on request. -/
def registry (dump : Bool) : Registry :=
  ⟨.expander :: (if dump then [.observer dumperId] else []), [collectorId]⟩

/-- What the command takes from elsewhere. -/
structure Toolkit where
  /-- What a command line asks for. -/
  understand : List String → Request
  /-- The variables of an environment, completed by an environment file.  What lies at the place of
  the file in the working directory and in each one above it is given. -/
  complete : DotEnv.Variables → List PathStatus → DotEnv.Variables
  /-- The text of a value. -/
  write : Json.Layout → Json → String
  /-- The report on a failure, given what failed and the causes. -/
  report : String → List String → String

/-- The settings: the environment, completed by the file `.env`. -/
def settings (toolkit : Toolkit) (world : World) : Config :=
  .ofEnvironment <| DotEnv.lookup <|
    toolkit.complete world.environment.assigned (world.files ".env" :: world.environment.above)

/-- What is parsed. -/
def inputOf (world : World) (options : Options) : Input where
  path? := options.file?
  stream? := if options.file?.isSome then none else some world.stdin
  arguments := options.frontEndArguments

/-- The run that a command line asks for. -/
def runOf (toolkit : Toolkit) (world : World) (options : Options) : Run Instrument :=
  (Analyzer.mk (settings toolkit world) (registry options.dump)).parse Instrument.behaviour
    world.frontEnd world.files [] (inputOf world options) initialStore

/-- The definitions that were collected. -/
def collected (store : Store Instrument) : List ClassDefinition :=
  match store.get collectorId with
  | .collector definitions => definitions
  | _ => []

/-- The descriptions that were written. -/
def dumped (store : Store Instrument) : String :=
  match store.get dumperId with
  | .dumper _ sink _ => sink.text
  | _ => ""

/-- The layout of the definitions on standard output. -/
def Options.layout (options : Options) : Json.Layout :=
  if options.compact then .compact else .indented

/-- Run the command with options that are understood. -/
def runWith (toolkit : Toolkit) (world : World) (options : Options) : Outcome :=
  let run := runOf toolkit world options
  let document (definition : ClassDefinition) :=
    toolkit.write options.layout definition.toJson ++ "\n"
  match run.outcome with
  | .ok () => ⟨0, String.join ((collected run.store).map document), some (dumped run.store)⟩
  | .error error => ⟨1, "", some (dumped run.store ++ toolkit.report "parse failed" error.causes)⟩

/-- Run the command with a toolkit. -/
def runUsing (toolkit : Toolkit) (world : World) : Outcome :=
  match toolkit.understand world.arguments with
  | .run options => runWith toolkit world options
  | .help => ⟨0, helpText, some ""⟩
  | .version => ⟨0, versionText, some ""⟩
  | .misuse => ⟨2, "", none⟩

/-- A text with blanks in front of every line but the first. -/
def hang (blanks text : String) : String :=
  String.ofList <| text.toList.flatMap fun char =>
    if char = '\n' then char :: blanks.toList else [char]

/-- The causes of a failure; several are numbered. -/
def causeLines : List String → List String
  | [cause] => ["    " ++ hang "    " cause]
  | causes => causes.zipIdx.map fun (cause, index) =>
    String.ofList (index.repr.toList.leftpad 5 ' ') ++ ": " ++ hang "       " cause

/-- The report on a failure. -/
def failureReport (failure : String) (causes : List String) : String :=
  "Error: " ++ failure ++ "\n\nCaused by:\n" ++ "\n".intercalate (causeLines causes) ++ "\n"

/-- The toolkit of this library. -/
def Toolkit.standard : Toolkit where
  understand := Request.ofArguments
  complete := DotEnv.complete
  write := Json.write
  report := failureReport

/-- Run the command. -/
def run (world : World) : Outcome := runUsing .standard world

end DeclScope.CommandLine
