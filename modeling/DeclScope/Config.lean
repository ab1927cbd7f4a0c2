import DeclScope.Json
import DeclScope.Language
import DeclScope.Text.Quoted

/-!
# Configuration

Three settings guide a parse: the language to assume when nothing else decides it, the name given to
sources that come from a stream, and whether a tree with syntax errors is refused.  They can be read
from variables of the environment or from JSON, where all three have to be present.
-/

namespace DeclScope

/-- The settings of a parse. -/
structure Config where
  /-- The language assumed when neither arguments nor file name decide it. -/
  defaultLanguage : Language := .cpp
  /-- The name given to a source that is read from a stream. -/
  streamFilename : String := "INPUT.C"
  /-- Whether a tree with syntax errors is a failure. -/
  rejectSyntaxErrors : Bool := false
deriving DecidableEq, Inhabited

namespace Config

/-- The settings that hold when nothing is said. -/
def standard : Config := {}

/-- The variables of the environment that hold settings. -/
def variableNames : List String :=
  ["CLANALYZE_DEFAULT_LANGUAGE", "CLANALYZE_STREAM_FILENAME", "CLANALYZE_REJECT_SYNTAX_ERRORS"]

/-- The settings in an environment.  A language that is not understood counts as unset; syntax
errors are refused for `1`, `true` and `yes` in any letter case, without blanks around them. -/
def ofEnvironment (lookup : String → Option String) : Config where
  defaultLanguage := ((lookup "CLANALYZE_DEFAULT_LANGUAGE").bind Language.ofName?).getD .cpp
  streamFilename := (lookup "CLANALYZE_STREAM_FILENAME").getD "INPUT.C"
  rejectSyntaxErrors :=
    (lookup "CLANALYZE_REJECT_SYNTAX_ERRORS").any fun value =>
      Text.lower value ∈ ["1", "true", "yes"]

/-- The settings as JSON. -/
def toJson (config : Config) : Json :=
  .obj [("default_language", .str config.defaultLanguage.name),
    ("stream_filename", .str config.streamFilename),
    ("reject_syntax_errors", .bool config.rejectSyntaxErrors)]

/-- Settings from JSON: an object with all three members, or a list of the three values. -/
def ofJson? (value : Json) : Option Config :=
  match value.record? ["default_language", "stream_filename", "reject_syntax_errors"] with
  | some [language, filename, reject] => do
    let language ← Language.ofJson? language
    let filename ← filename.text?
    let reject ← reject.bool?
    return ⟨language, filename, reject⟩
  | _ => none

end Config

/-- The name of a language in written-out values. -/
def Language.constructorName : Language → String
  | .c => "C"
  | .cpp => "Cpp"

/-- The settings written out as a record. -/
def Config.describe (config : Config) : String :=
  Text.record "ParserConfig"
    [("default_language", config.defaultLanguage.constructorName),
      ("stream_filename", Text.quoted config.streamFilename),
      ("reject_syntax_errors", Text.truth config.rejectSyntaxErrors)]

end DeclScope
