/-!
# Command line options

The arguments of the command line are read from left to right.  A request for help or for the
version is granted as soon as it is met; an argument that cannot be understood ends the reading
just as directly.  Everything after a bare `--` is for the front end.

A source is given by a file or by asking for standard input, and exactly one of the two is wanted.
-/

namespace DeclScope.CommandLine

/-- What the command line asks for. -/
structure Options where
  file? : Option String := none
  stdin : Bool := false
  /-- Whether every top-level cursor is described on standard error. -/
  dump : Bool := false
  /-- Whether each definition is written on one line. -/
  compact : Bool := false
  /-- Whether log records are written as JSON. -/
  logJson : Bool := false
  frontEndArguments : List String := []
deriving DecidableEq, Inhabited

/-- What the reading of a command line leads to. -/
inductive Request where
  | run (options : Options)
  | help
  | version
  /-- The command line cannot be understood. -/
  | misuse
deriving DecidableEq, Inhabited

/-- Set an option that may be given once. -/
def once (already : Bool) (options : Options) : Except Request Options :=
  if already then .error .misuse else .ok options

/-- Read one argument before `--`.  One that begins with a dash is an option; a dash alone is a
file. -/
def Options.read (options : Options) (argument : String) : Except Request Options :=
  match argument.toList with
  | '-' :: '-' :: _ =>
    if argument = "--stdin" then once options.stdin { options with stdin := true }
    else if argument = "--dump" then once options.dump { options with dump := true }
    else if argument = "--compact" then once options.compact { options with compact := true }
    else if argument = "--log-json" then once options.logJson { options with logJson := true }
    else if argument = "--help" then .error .help
    else if argument = "--version" then .error .version
    else .error .misuse
  | '-' :: 'h' :: _ => .error .help
  | '-' :: 'V' :: _ => .error .version
  | '-' :: _ :: _ => .error .misuse
  | [] => .error .misuse
  | _ => once options.file?.isSome { options with file? := some argument }

/-- Read arguments on top of options. -/
def Options.readAll (options : Options) : List String → Except Request Options
  | [] => .ok options
  | argument :: rest =>
    if argument = "--" then .ok { options with frontEndArguments := rest }
    else match options.read argument with
      | .ok options => options.readAll rest
      | .error request => .error request

/-- What a command line asks for. -/
def Request.ofArguments (arguments : List String) : Request :=
  match Options.readAll {} arguments with
  | .ok options => if options.file?.isSome == options.stdin then .misuse else .run options
  | .error request => request

/-- The text of the version. -/
def versionText : String := "clanalyze 0.1.0\n"

/-- The text of the help. -/
def helpText : String := String.join
  ["Report class definitions in C and C++ sources\n\n",
    "Usage: clanalyze [OPTIONS] [FILE] [-- <FRONTEND_ARGS>...]\n\n",
    "Arguments:\n",
    "  [FILE]              Source file to parse\n",
    "  [FRONTEND_ARGS]...  Arguments for the front end, such as `-x c` or `-std=c++17`\n\n",
    "Options:\n",
    "      --stdin     Read the source from standard input\n",
    "      --dump      Dump every top-level cursor to stderr\n",
    "      --compact   Print one JSON document per line\n",
    "      --log-json  Write logs as JSON lines\n",
    "  -h, --help      Print help\n",
    "  -V, --version   Print version\n"]

end DeclScope.CommandLine
