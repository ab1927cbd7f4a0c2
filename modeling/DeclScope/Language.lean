import DeclScope.Json
import DeclScope.Text.Blank
import DeclScope.Text.Path

/-!
# The language of a source

A source is read as C or as C++.  Three things can decide which, in this order: the arguments given
to the front end, the extension of the file name, and a default.

Among the arguments an explicit choice (`-x`, `--language`) beats the hint of a standard (`-std=`),
wherever the two stand.  Of several choices of one sort the last that is understood counts; one that
is not understood changes nothing.  The extension `.h` is left open on purpose.
-/

namespace DeclScope

/-- The languages of the C family. -/
inductive Language where
  | c
  | cpp
deriving DecidableEq, Inhabited

/-- What one or two neighbouring arguments say about the language. -/
inductive LanguageDirective where
  /-- An explicit choice with the given value. -/
  | explicit (value : String)
  /-- The name of a standard. -/
  | standard (value : String)
deriving DecidableEq, Inhabited

namespace Language

/-- The short name, also the one that is printed. -/
def name : Language → String
  | .c => "c"
  | .cpp => "cpp"

/-- The language with exactly this short name. -/
def ofShortName? (text : String) : Option Language :=
  if text = "c" then some .c else if text = "cpp" then some .cpp else none

/-- The language that a value chooses by its short name. -/
def ofJson? (value : Json) : Option Language :=
  value.choice?.bind ofShortName?

/-- The language that a user means: blanks around the name and letter case do not matter. -/
def ofName? (text : String) : Option Language :=
  let name := Text.lower (Text.trim text)
  if name ∈ ["c", "c-header"] then some .c
  else if name ∈ ["c++", "cpp", "cxx", "c++-header"] then some .cpp
  else none

/-- The language that the extension of a path stands for.  Letter case matters: `.C` is C++. -/
def ofExtension? (path : String) : Option Language :=
  (Path.extension? path).bind fun extension =>
    if extension = "c" then some .c
    else if extension ∈ ["C", "cc", "cpp", "cxx", "c++", "hpp", "hh", "hxx", "h++"] then some .cpp
    else none

/-- The language that the name of a standard belongs to. -/
def ofStandard? (standard : String) : Option Language :=
  if Text.begins "c++" standard || Text.begins "gnu++" standard then some .cpp
  else if Text.begins "c" standard || Text.begins "gnu" standard ||
      Text.begins "iso9899" standard then some .c
  else none

end Language

namespace LanguageDirective

/-- What a single argument says, when its value is part of it. -/
def ofArgument? (argument : String) : Option LanguageDirective :=
  ((Text.after? "--language=" argument).map .explicit)
    |>.or ((Text.after? "-x" argument).map .explicit)
    |>.or ((Text.after? "-std=" argument).map .standard)

/-- The directives of an argument list, from left to right.  A bare `-x` or `--language` takes the
next argument as its value, whatever that looks like, and says nothing when it comes last. -/
def scan : List String → List LanguageDirective
  | [] => []
  | [argument] =>
    if argument = "-x" ∨ argument = "--language" then [] else (ofArgument? argument).toList
  | argument :: value :: rest =>
    if argument = "-x" ∨ argument = "--language" then .explicit value :: scan rest
    else (ofArgument? argument).toList ++ scan (value :: rest)

end LanguageDirective

namespace Language

/-- The explicit choice and the standard that hold after a directive, given those before it. -/
def heed (chosen : Option Language × Option Language) :
    LanguageDirective → Option Language × Option Language
  | .explicit value => ((ofName? value).or chosen.1, chosen.2)
  | .standard value => (chosen.1, (ofStandard? value).or chosen.2)

/-- The language that an argument list asks for. -/
def ofArguments? (arguments : List String) : Option Language :=
  let (explicit, standard) := (LanguageDirective.scan arguments).foldl heed (none, none)
  explicit.or standard

/-- The language of a source: by its arguments, else by its name, else the default. -/
def detect (filename : String) (arguments : List String) (fallback : Language) : Language :=
  ((ofArguments? arguments).or (ofExtension? filename)).getD fallback

end Language

end DeclScope
