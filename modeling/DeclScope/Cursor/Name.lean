import DeclScope.Cursor.Basic

/-!
# Names of cursors

The *spelling* of a cursor is the plain name that it declares, empty when it declares none; the
whole unit is spelled by its file name.  The *display name* of a function adds the types of its
parameters, each being the text of the parameter with the parameter's own name cut out.
-/

namespace DeclScope.Cursor

/-- The node that holds the name. -/
def nameNode? (cursor : Cursor) : Option Node :=
  match cursor.declarator? with
  | some declarator => declarator.declaredName?
  | none =>
    match cursor.node.kind with
    | .functionDefinition | .parameter .plain | .parameter .optional =>
      (cursor.node.childIn? .declarator).bind Node.declaredName?
    | .record _ | .enumSpecifier => (cursor.node.childIn? .name).bind Node.declaredName?
    | .namespaceDefinition | .enumerator => cursor.node.childIn? .name
    | .name .type => some cursor.node
    | _ => none

/-- The plain name, empty when there is none. -/
def spelling (cursor : Cursor) : String :=
  if cursor.kind = .translationUnit then cursor.unit.filename
  else (cursor.nameNode?.map cursor.unit.text).getD ""

/-- Where the name stands; without a name, where the cursor starts. -/
def location (cursor : Cursor) : Location :=
  cursor.unit.location (cursor.nameNode?.getD cursor.node).start

/-- The function declarator of a cursor. -/
def function? (cursor : Cursor) : Option Node :=
  (cursor.declarator?.or (cursor.node.childIn? .declarator)).bind Node.functionDeclarator?

/-- A text without the bytes between two offsets; the whole text if they do not cut characters. -/
def cutOut (text : List Char) (start stop : Nat) : List Char :=
  match Text.takeBytes? start text, Text.dropBytes? stop text with
  | some before, some behind => before ++ behind
  | _, _ => text

/-- The text of a parameter without its name, squeezed. -/
def parameterText (unit : TranslationUnit) (parameter : Node) : String :=
  let text := unit.text parameter
  let name? := (parameter.childIn? .declarator).bind Node.declaredName?
  Text.squeeze <| match name? with
    | some name =>
      String.ofList <|
        cutOut text.toList (name.start - parameter.start) (name.stop - parameter.start)
    | none => text

/-- The texts of the parameters without their names. -/
def parameterTexts (cursor : Cursor) : List String :=
  ((cursor.function?.map Node.parameters).getD []).map (parameterText cursor.unit)

/-- The name, with the parameter types behind that of a function. -/
def displayName (cursor : Cursor) : String :=
  if cursor.kind.isFunction then
    cursor.spelling ++ "(" ++ ", ".intercalate cursor.parameterTexts ++ ")"
  else cursor.spelling

/-- The cursor written out as a record. -/
def describe (cursor : Cursor) : String :=
  Text.record "Cursor"
    [("kind", cursor.kind.constructorName),
      ("spelling", Text.quoted cursor.spelling),
      ("location", Text.quoted cursor.location.describe)]

end DeclScope.Cursor
