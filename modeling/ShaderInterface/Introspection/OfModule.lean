import ShaderInterface.Introspection.Basic
import ShaderInterface.Module.Layout

/-!
# A module's answers

The answers of a module to the questions of reflection. Arrays are looked through: what a resource
or a shape is depends on the type inside them.
-/

namespace ShaderInterface

/-- An error of a module as the reason for a missing answer. -/
def ProviderError.ofModuleError (error : ModuleError) : ProviderError :=
  ⟨error.message⟩

namespace Module

/-- A result of a module as an answer. -/
def answer {α : Type} (result : Except ModuleError α) : Answer α :=
  result.mapError ProviderError.ofModuleError

variable (module : Module)

/-- The declaration of a type that a shape refers to. -/
def requiredType (id : Ident) : Except ModuleError TypeDecl :=
  match module.type? id with
  | some decl => .ok decl
  | none => .error (.undefined id)

/-- The base type of a scalar. -/
def scalarBase (id : Ident) : Except ModuleError BaseType := do
  match ← module.requiredType id with
  | .bool => return .bool
  | .int width signed => return BaseType.ofInt width signed
  | .float width => return BaseType.ofFloat width
  | _ => return .unknown

/-- The base type and the number of components of a vector or scalar. -/
def vectorShape (id : Ident) : Except ModuleError (BaseType × UInt32) := do
  match ← module.requiredType id with
  | .vector component count => return (← module.scalarBase component, count)
  | _ => return (← module.scalarBase id, 1)

/-- The type that sampling a sampled image gives. -/
def sampledTypeOf (image : Ident) : Option Ident :=
  match module.type? image with
  | some (.image sampledType _ _) => some sampledType
  | _ => none

/-- The shape of a type. -/
def typeInfo (id : Ident) : Except ModuleError TypeInfo := do
  let array ← module.arrayDims id
  let inner := module.elementType id
  let shape (base : BaseType) (width columns : UInt32) (imageType : Option Ident) : TypeInfo :=
    { base, width, columns, array, baseTypeId := inner, imageType }
  match ← module.requiredType inner with
  | .bool | .int .. | .float _ => return shape (← module.scalarBase inner) 1 1 none
  | .vector component count => return shape (← module.scalarBase component) count 1 none
  | .matrix column count =>
      let (base, width) ← module.vectorShape column
      return shape base width count none
  | .image sampledType _ _ => return shape .image 1 1 (some sampledType)
  | .sampledImage image => return shape .sampledImage 1 1 (module.sampledTypeOf image)
  | .sampler => return shape .sampler 1 1 none
  | .struct _ => return shape .struct 1 1 none
  | .void => return shape .void 1 1 none
  | _ => return shape .unknown 1 1 none

/-- The members of a struct as indices. -/
def memberIndices (members : List Ident) : List UInt32 :=
  (List.range members.length).map Nat.toUInt32

/-- The type is a struct that is laid out as a buffer. -/
def isBufferBlock (id : Ident) : Bool :=
  match module.type? id with
  | some (.struct _) =>
      module.hasDecoration id Decoration.block || module.hasDecoration id Decoration.bufferBlock
  | _ => false

/-- The variable stands for a value of the pipeline and not of the user: it is decorated so
itself, or it is a struct with such a member. -/
def isBuiltIn (var type : Ident) : Bool :=
  module.hasDecoration var Decoration.builtIn ||
    match module.type? type with
    | some (.struct members) =>
        (memberIndices members).any (module.hasMemberDecoration type · Decoration.builtIn)
    | _ => false

/-- The variable belongs to the category; `inner` is its type inside the arrays. -/
def belongs (kind : ResourceKind) (var : Variable) (inner : Ident) : Bool :=
  match kind with
  | .uniformBuffer =>
      var.storageClass = StorageClass.uniform && module.hasDecoration inner Decoration.block
  | .storageBuffer =>
      var.storageClass = StorageClass.storageBuffer ||
        (var.storageClass = StorageClass.uniform &&
          module.hasDecoration inner Decoration.bufferBlock)
  | .pushConstant => var.storageClass = StorageClass.pushConstant
  | .sampledImage =>
      var.storageClass = StorageClass.uniformConstant &&
        match module.type? inner with
        | some (.sampledImage _) => true
        | _ => false
  | .storageImage =>
      var.storageClass = StorageClass.uniformConstant &&
        match module.type? inner with
        | some (.image _ dim sampled) => sampled = 2 && dim ≠ Dim.subpassData
        | _ => false
  | .stageInput =>
      var.storageClass = StorageClass.input && module.hasDecoration var.id Decoration.location &&
        !module.isBuiltIn var.id inner

/-- The name of a resource. A buffer is called by its block, a push constant block by its variable,
each by the other where that has no name. -/
def resourceName (kind : ResourceKind) (var inner : Ident) : String :=
  let name := match kind with
    | .uniformBuffer | .storageBuffer =>
        if module.isBufferBlock inner then (module.name? inner).or (module.name? var)
        else module.name? var
    | .pushConstant => (module.name? var).or (module.name? inner)
    | _ => module.name? var
  name.getD ""

/-- The variables, each with the type of its object. -/
def placedVariables : Except ModuleError (List (Variable × Ident)) :=
  module.vars.mapM fun var => return (var, ← module.pointee var)

/-- The variable as a resource of the category, if it belongs to it. -/
def resource? (kind : ResourceKind) (var : Variable) (typeId : Ident) : Option Resource :=
  let inner := module.elementType typeId
  if module.belongs kind var inner then
    some {
      id := var.id
      typeId
      baseTypeId := inner
      name := module.resourceName kind var.id inner }
  else none

/-- The resources of a category in the order of declaration. The type of every variable must be a
pointer, also of those in no category. -/
def resources (kind : ResourceKind) : Except ModuleError (List Resource) := do
  return (← module.placedVariables).filterMap fun (var, typeId) => module.resource? kind var typeId

/-- The object of a variable is a struct all of whose members carry the decoration. Compilers
write the access of a block so. -/
def allMembersDecorated (id : Ident) (decoration : Decoration) : Except ModuleError Bool :=
  match module.var? id with
  | none => return false
  | some var => do
      let type := module.elementType (← module.pointee var)
      match module.type? type with
      | some (.struct members) =>
          return !members.isEmpty &&
            (memberIndices members).all (module.hasMemberDecoration type · decoration)
      | _ => return false

/-- The identifier carries the decoration, or, where the decoration is about access, all members of
its object do. -/
def carries (id : Ident) (decoration : Decoration) : Except ModuleError Bool :=
  if module.hasDecoration id decoration then return true
  else if decoration = Decoration.nonReadable || decoration = Decoration.nonWritable then
    module.allMembersDecorated id decoration
  else return false

/-- The answers of a module. -/
def introspection : Introspection where
  version := module.version
  entryPoints := .ok (module.entryPoints.map fun entry => ⟨entry.name, entry.model⟩)
  resources kind := answer (module.resources kind)
  typeInfo id := answer (module.typeInfo id)
  memberTypes id := answer (module.structMembers id)
  hasDecoration id decoration := answer (module.carries id decoration)
  decoration id decoration := .ok (module.decorationValue? id decoration)
  memberDecoration id member decoration :=
    .ok (module.memberDecorationValue? id member decoration)
  name := module.name?
  memberName := module.memberName?
  declaredStructSize id := answer (module.declaredStructSize id)
  declaredMemberSize id member := answer (module.declaredMemberSize id member)

end Module

end ShaderInterface
