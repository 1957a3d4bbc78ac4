import ShaderInterface.Module.Basic
import ShaderInterface.Module.Error

/-!
# Questions about a module

Look-ups by identifier, and the one walk that all questions about arrays share: the arrays wrapped
around an element type, the outermost first.
-/

namespace ShaderInterface.Module

variable (module : Module)

/-- The first entry point with the given name. -/
def entryPoint? (name : String) : Option EntryPoint :=
  module.entryPoints.find? (·.name = name)

/-- The declaration of a type. -/
def type? (id : Ident) : Option TypeDecl :=
  module.types.get? id

/-- The declaration of a type that must be declared. -/
def typeOf (id : Ident) : Except ModuleError TypeDecl :=
  match module.type? id with
  | some decl => .ok decl
  | none => .error (.undefinedType id)

/-- The value of an integer constant. -/
def constant? (id : Ident) : Option UInt64 :=
  module.constants.get? id

/-- The first variable with the given identifier. -/
def var? (id : Ident) : Option Variable :=
  module.vars.find? (·.id = id)

/-- The debug name of an identifier. -/
def name? (id : Ident) : Option String :=
  module.names.get? id

/-- The debug name of a struct member. -/
def memberName? (id : Ident) (member : UInt32) : Option String :=
  module.memberNames.get? (id, member)

/-- The integer parameters of a decoration on an identifier. -/
def decoration? (id : Ident) (decoration : Decoration) : Option (List UInt32) :=
  module.decorations.get? (id, decoration)

/-- The identifier carries the decoration. -/
def hasDecoration (id : Ident) (decoration : Decoration) : Bool :=
  (module.decoration? id decoration).isSome

/-- The integer parameters of a decoration on a struct member. -/
def memberDecoration? (id : Ident) (member : UInt32) (decoration : Decoration) :
    Option (List UInt32) :=
  module.memberDecorations.get? (id, member, decoration)

/-- The struct member carries the decoration. -/
def hasMemberDecoration (id : Ident) (member : UInt32) (decoration : Decoration) : Bool :=
  (module.memberDecoration? id member decoration).isSome

/-- The first parameter of a decoration on an identifier. -/
def decorationValue? (id : Ident) (decoration : Decoration) : Option UInt32 :=
  (module.decoration? id decoration).bind List.head?

/-- The first parameter of a decoration on a struct member. -/
def memberDecorationValue? (id : Ident) (member : UInt32) (decoration : Decoration) :
    Option UInt32 :=
  (module.memberDecoration? id member decoration).bind List.head?

/-- The length of a sized array, and `none` for any other type. -/
def arrayLength (id : Ident) : Except ModuleError (Option UInt32) :=
  match module.type? id with
  | some (.array _ length) =>
      match module.constant? length with
      | none => .error (.undefinedLength length)
      | some value =>
          if value.toNat < UInt32.size then .ok (some value.toUInt32)
          else .error (.lengthTooLarge value id)
  | _ => .ok none

/-- The type of the elements, if the type is an array. -/
def element? (id : Ident) : Option Ident :=
  match module.type? id with
  | some (.array element _) => some element
  | some (.runtimeArray element) => some element
  | _ => none

/-- The arrays around a type, the outermost first, and the type inside them. At most `bound` of
them are taken off. -/
def unwrapUpTo : Nat → Ident → List Ident × Ident
  | 0, id => ([], id)
  | bound + 1, id =>
      match module.element? id with
      | none => ([], id)
      | some element =>
          let (wrappers, inner) := unwrapUpTo bound element
          (id :: wrappers, inner)

/-- The arrays around a type and the type inside them. Arrays that do not contain themselves are
no more than the types there are. -/
def unwrap (id : Ident) : List Ident × Ident :=
  module.unwrapUpTo module.types.size id

/-- The arrays around a type, the outermost first. -/
def arrayWrappers (id : Ident) : List Ident :=
  (module.unwrap id).1

/-- The type inside all arrays. -/
def elementType (id : Ident) : Ident :=
  (module.unwrap id).2

/-- The dimensions of a type, the outermost first. An array without a fixed length has none to
report. -/
def arrayDims (id : Ident) : Except ModuleError (List (Option UInt32)) :=
  (module.arrayWrappers id).mapM module.arrayLength

/-- The member types of a struct in the order of declaration. -/
def structMembers (id : Ident) : Except ModuleError (List Ident) := do
  match ← module.typeOf id with
  | .struct members => return members
  | _ => .error (.notStruct id)

/-- The type of the objects that a variable points to. -/
def pointee (var : Variable) : Except ModuleError Ident := do
  match ← module.typeOf var.type with
  | .pointer _ pointee => return pointee
  | _ => .error (.notPointer var.id)

end ShaderInterface.Module
