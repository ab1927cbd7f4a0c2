import DeclScope.Config
import DeclScope.Error
import DeclScope.Location
import DeclScope.Log
import DeclScope.Tree.Node

/-!
# Translation units

A translation unit is one source with its syntax tree.  The tree comes from a *front end*, a grammar
for each language; here a front end is any function from language and source to a tree.

Syntax errors are the nodes where the grammar gave up or invented something.  The search for them
goes down only where the tree is marked as damaged, and lists them in preorder.
-/

namespace DeclScope

/-- A grammar for each language. -/
abbrev FrontEnd := Language → Source → Tree

namespace Tree

mutual

/-- The nodes where the grammar gave up or invented something, in preorder. -/
def faults : Tree → List Label
  | node label children =>
    (if label.kind = .error ∨ label.missing then [label] else []) ++
      if label.damaged then faultsAll children else []

/-- The faulty nodes of several trees. -/
def faultsAll : List Tree → List Label
  | [] => []
  | tree :: rest => tree.faults ++ faultsAll rest

end

end Tree

/-- One parsed source. -/
structure TranslationUnit where
  filename : String
  language : Language
  source : Source
  /-- The arguments that the front end was given. -/
  arguments : List String
  tree : Tree
deriving Inhabited

namespace TranslationUnit

/-- The root of the tree. -/
def root (unit : TranslationUnit) : Node := .root unit.tree

/-- The source text of a node. -/
def text (unit : TranslationUnit) (node : Node) : String :=
  unit.source.slice node.start node.stop

/-- The place of an offset. -/
def location (unit : TranslationUnit) (offset : Nat) : Location :=
  .ofOffset unit.filename unit.source offset

/-- What is said of a faulty node. -/
def faultMessage (unit : TranslationUnit) (fault : Label) : String :=
  let position := unit.source.position fault.start
  "Parse error at line " ++ (position.row + 1).repr ++ ", column " ++ (position.column + 1).repr

/-- The syntax errors of the tree, in preorder. -/
def syntaxErrors (unit : TranslationUnit) : List String :=
  unit.tree.faults.map unit.faultMessage

/-- Parse a source.  Syntax errors are a failure or a warning, as the settings say. -/
def parse (frontEnd : FrontEnd) (filename : String) (source : Source) (arguments : List String)
    (config : Config) : List LogRecord × Except Error TranslationUnit :=
  let language := Language.detect filename arguments config.defaultLanguage
  let unit : TranslationUnit :=
    ⟨filename, language, source, arguments, frontEnd language source⟩
  let selected : LogRecord :=
    ⟨.debug, "Selected front-end language",
      [("filename", filename), ("language", language.name),
        ("args", Text.quotedList arguments)]⟩
  match unit.syntaxErrors with
  | [] => ([selected], .ok unit)
  | first :: rest =>
    let count := (rest.length + 1).repr
    if config.rejectSyntaxErrors then
      ([selected], .error (.frontEnd filename (count ++ " syntax errors, first: " ++ first)))
    else
      ([selected, ⟨.warn, "Translation unit contains syntax errors",
        [("filename", filename), ("errors", count), ("first", first)]⟩], .ok unit)

/-- The unit written out as a record. -/
def describe (unit : TranslationUnit) : String :=
  Text.record "TranslationUnit"
    [("filename", Text.quoted unit.filename), ("language", unit.language.constructorName),
      ("args", Text.quotedList unit.arguments), ("bytes", unit.source.byteSize.repr)]

end TranslationUnit

end DeclScope
