import ShaderInterface.Binary.Stream
import ShaderInterface.DataType

/-!
# Questions that reflection asks

Reflection knows a module only through a fixed set of questions. Whoever can answer them can be
reflected, however the module was read. A question that has no answer fails with a text.
-/

namespace ShaderInterface

/-- The categories of resources that a shader's interface has. -/
inductive ResourceKind where
  | uniformBuffer
  | storageBuffer
  | pushConstant
  | sampledImage
  | storageImage
  /-- An input of the stage that is defined by the user. -/
  | stageInput
  deriving DecidableEq

/-- The words for a category. -/
def ResourceKind.text : ResourceKind → String
  | .uniformBuffer => "uniform buffer"
  | .storageBuffer => "storage buffer"
  | .pushConstant => "push constant block"
  | .sampledImage => "sampled image"
  | .storageImage => "storage image"
  | .stageInput => "stage input"

/-- A variable that belongs to a category. -/
structure Resource where
  /-- The variable; the decorations of the resource are on it. -/
  id : Ident
  /-- The type of the variable's object, arrays included. -/
  typeId : Ident
  /-- The type inside the arrays. -/
  baseTypeId : Ident
  /-- May be empty. -/
  name : String
  deriving DecidableEq

/-- The shape of a type. -/
structure TypeInfo where
  base : BaseType
  /-- The number of components, 1 for whatever is no vector. -/
  width : UInt32
  /-- The number of columns, 1 for whatever is no matrix. -/
  columns : UInt32
  /-- The dimensions, the outermost first, `none` where the length is not fixed. -/
  array : List (Option UInt32)
  /-- The type inside the arrays. -/
  baseTypeId : Ident
  /-- Of an image, the type that sampling it gives. -/
  imageType : Option Ident
  deriving DecidableEq

namespace TypeInfo

/-- The outermost dimension. It is 1 where there is none, where it is not fixed and where it is
zero. -/
def arrayLength (info : TypeInfo) : UInt32 :=
  match info.array with
  | some length :: _ => if length = 0 then 1 else length
  | _ => 1

/-- The data type of one array element. -/
def dataType (info : TypeInfo) : DataType :=
  DataType.classify info.base info.width info.columns

end TypeInfo

/-- What reflection needs to know of an entry point. -/
structure EntryPointInfo where
  name : String
  model : ExecutionModel
  deriving DecidableEq

/-- A question that could not be answered, with the text that says why. -/
structure ProviderError where
  text : String
  deriving DecidableEq

/-- An answer or the reason why there is none. -/
abbrev Answer (α : Type) := Except ProviderError α

/-- The answers about one module. -/
structure Introspection where
  version : Version
  /-- In the order of declaration. -/
  entryPoints : Answer (List EntryPointInfo)
  resources : ResourceKind → Answer (List Resource)
  typeInfo : Ident → Answer TypeInfo
  /-- The member types of a struct in the order of declaration. -/
  memberTypes : Ident → Answer (List Ident)
  hasDecoration : Ident → Decoration → Answer Bool
  /-- The first parameter of a decoration. -/
  decoration : Ident → Decoration → Answer (Option UInt32)
  /-- The first parameter of a decoration on a struct member. -/
  memberDecoration : Ident → UInt32 → Decoration → Answer (Option UInt32)
  name : Ident → Option String
  memberName : Ident → UInt32 → Option String
  declaredStructSize : Ident → Answer UInt32
  declaredMemberSize : Ident → UInt32 → Answer UInt32

end ShaderInterface
