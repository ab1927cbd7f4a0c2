import DeclScope.Cursor.Type
import Mathlib.Tactic.Common

/-!
# The flat record of a type

Every type has a flat record, in which its parts stand where the record has a place for them.  What
can be asked of the record is what can be asked of the type, and each step in which a record is read
off a declaration is the step in which the type is read.  So the record that a declaration, a
specifier or a cursor gives is that of the type it gives.
-/

namespace DeclScope

namespace CType

mutual

/-- The flat record of a type. -/
def toRecord : CType → TypeRecord
  | named kind name quals => { TypeRecord.leaf kind name with quals }
  | pointer quals pointee => { TypeRecord.wrap .pointer pointee.toRecord with quals }
  | reference .lvalue pointee => .wrap .lvalueReference pointee.toRecord
  | reference .rvalue pointee => .wrap .rvalueReference pointee.toRecord
  | array (some name) element =>
    { TypeRecord.wrap .constantArray element.toRecord with name, arraySize? := Size.read? name }
  | array none element => .wrap .incompleteArray element.toRecord
  | function result parameters =>
    { TypeRecord.wrap .function result.toRecord with parameters := toRecords parameters }
  | synonym name target => .synonym name target.toRecord

/-- The flat records of several types. -/
def toRecords : List CType → List TypeRecord
  | [] => []
  | type :: rest => type.toRecord :: toRecords rest

end

/-- The records of several types are the records of each. -/
theorem toRecords_eq_map (types : List CType) : toRecords types = types.map toRecord := by
  induction types with
  | nil => rfl
  | cons type rest inductionHypothesis => rw [toRecords, inductionHypothesis, List.map_cons]

/-- What can be asked of a record is what can be asked of the type. -/
structure Answers (type : CType) (record : TypeRecord) : Prop where
  kind : record.kind = type.kind
  quals : record.quals = type.quals
  arraySize : record.arraySize? = type.arraySize?
  pointee : record.pointee? = type.pointee?.map toRecord
  elementType : record.elementType? = type.elementType?.map toRecord
  resultType : record.resultType? = type.resultType?.map toRecord
  parameters : record.parameters = type.parameterTypes.map toRecord

/-- The record of a type answers for it. -/
theorem answers_toRecord (type : CType) : type.Answers type.toRecord := by
  cases type with
  | named kind name quals =>
    constructor
    case pointee | elementType | resultType => cases kind <;> rfl
    all_goals rfl
  | pointer quals pointee => constructor <;> rfl
  | reference form pointee => cases form <;> constructor <;> rfl
  | array size? element => cases size? <;> constructor <;> rfl
  | function result parameters =>
    constructor
    case parameters => exact toRecords_eq_map parameters
    all_goals rfl
  | synonym name target => constructor <;> rfl

end CType

/-! ### Reading a declaration -/

namespace TypeRecord

/-- The qualifiers among the children of a node are added to those of the type. -/
theorem qualifiedBy_eq (source : Source) (node : Node) (type : TypeRecord) :
    type.qualifiedBy source node =
      { type with quals := CType.qualifiersOf source node type.quals } := by
  rw [qualifiedBy, CType.qualifiersOf]
  generalize node.namedChildren.filter (·.kind == .typeQualifier) = children
  induction children generalizing type with
  | nil => cases type with | mk => rfl
  | cons child children inductionHypothesis =>
    rw [List.foldl_cons, inductionHypothesis, List.foldl_cons]
    simp only [qualify]

/-- The record that a declaration names, with the qualifiers of the declaration. -/
theorem qualifiedBy_ofSpecifier (source : Source) (declaration specifier : Node) :
    (ofSpecifier source specifier).qualifiedBy source declaration =
      (CType.qualified source declaration (CType.ofSpecifier source specifier)).toRecord := by
  rw [qualifiedBy_eq]
  rfl

/-- One part of a declarator wraps the record of a type as it wraps the type. -/
theorem wrapPart_toRecord (source : Source) (part : Node) (parameters : List CType) (type : CType) :
    type.toRecord.wrapPart source part (parameters.map CType.toRecord) =
      (CType.wrap source part parameters type).toRecord := by
  unfold wrapPart CType.wrap
  generalize part.kind = kind
  cases kind with
  | declarator shape abstract =>
    cases shape with
    | pointer => exact qualifiedBy_eq source part _
    | reference => cases CType.referenceForm part <;> rfl
    | array => cases part.childIn? .size <;> rfl
    | function => rw [CType.toRecord, CType.toRecords_eq_map]
    | _ => rfl
  | _ => rfl

mutual

/-- A declarator derives from the record of a type the record of the type that it derives. -/
theorem derive_toRecord (source : Source) (type : CType) (part : Node) :
    derive source type.toRecord part = (CType.derive source type part).toRecord := by
  have taken : ((CType.typedParameters part).map fun parameter =>
      ofDeclaration source parameter (parameter.childIn? .declarator)) =
      ((CType.typedParameters part).map (CType.parameterType source)).map CType.toRecord := by
    rw [List.map_map]
    apply List.map_congr_left
    intro parameter listed
    have smaller := declaratorSize_lt listed
    rw [Function.comp_apply, CType.parameterType_eq, ofDeclaration_eq]
  rw [derive_eq, CType.derive_eq, taken]
  simp only [wrapPart_toRecord]
  cases found : CType.nextPart? part with
  | none => rfl
  | some next =>
    have smaller := CType.size_lt_of_nextPart? found
    exact derive_toRecord source _ next
termination_by 2 * part.tree.size

/-- The record of a declaration is that of its type. -/
theorem ofDeclaration_eq (source : Source) (declaration : Node) (declarator? : Option Node) :
    ofDeclaration source declaration declarator? =
      (CType.ofDeclaration source declaration declarator?).toRecord := by
  rw [ofDeclaration]
  cases found : declaration.childIn? .type with
  | none =>
    have missing : CType.base? source declaration = none := by
      rw [CType.base?, found, Option.map_none]
    simp only [CType.ofDeclaration, missing]
    rfl
  | some specifier =>
    have isBase : CType.base? source declaration =
        some (CType.qualified source declaration (CType.ofSpecifier source specifier)) := by
      rw [CType.base?, found, Option.map_some]
    rw [CType.ofDeclaration_of_base? isBase]
    cases declarator? with
    | none => exact qualifiedBy_ofSpecifier source declaration specifier
    | some declarator =>
      dsimp only
      rw [qualifiedBy_ofSpecifier, derive_toRecord]
      rfl
termination_by 2 * (declarator?.map (·.tree.size)).getD 0 + 1

end

end TypeRecord

/-- The record of a cursor's type. -/
theorem Cursor.typeRecord_eq (cursor : Cursor) : cursor.typeRecord = cursor.type.toRecord := by
  unfold typeRecord type
  cases cursor.typeSource with
  | synonym => simp only [CType.toRecord, TypeRecord.ofDeclaration_eq]
  | declaration declarator? => exact TypeRecord.ofDeclaration_eq _ _ _
  | specifier node => rfl
  | nowhere => rfl

end DeclScope
