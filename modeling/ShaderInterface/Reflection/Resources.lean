import ShaderInterface.Reflection.Block

/-!
# The resources of a shader

One list for each category, in the order in which the module names the resources; only the stage
inputs are ordered by location. Each list can be made on its own.
-/

namespace ShaderInterface

/-- How a resource is called in messages. -/
def Resource.describe (resource : Resource) (kind : ResourceKind) : String :=
  s!"{kind.text} {label (some resource.name) resource.id}"

/-- A resource that is a block, with its layout. -/
structure Block where
  resource : Resource
  layout : BlockLayout

namespace Reflector

open Reflecting

variable (reflector : Reflector)

/-- The first parameter of a decoration of a resource, 0 if there is none. -/
def decorationOf (kind : ResourceKind) (resource : Resource) (decoration : Decoration) :
    Reflecting UInt32 :=
  return (← ask (resource.describe kind)
    (reflector.module.decoration resource.id decoration)).getD 0

/-- Where a resource is bound. -/
def slotOf (kind : ResourceKind) (resource : Resource) : Reflecting Slot := do
  let set ← reflector.decorationOf kind resource Decoration.descriptorSet
  let binding ← reflector.decorationOf kind resource Decoration.binding
  return { set, binding }

/-- The shape of a resource's type. -/
def typeInfoOf (kind : ResourceKind) (resource : Resource) (type : Ident) :
    Reflecting TypeInfo :=
  ask (resource.describe kind) (reflector.module.typeInfo type)

/-- The resources of a category. -/
def listed (kind : ResourceKind) : Reflecting (List Resource) :=
  ask s!"{kind.text} list" (reflector.module.resources kind)

/-- The resource as a block. One that is no struct is passed over with a note. -/
def block? (kind : ResourceKind) (resource : Resource) : Reflecting (Option Block) := do
  let info ← reflector.typeInfoOf kind resource resource.typeId
  if info.base = .struct then
    let layout ← reflector.layout resource.baseTypeId
    return some { resource, layout }
  else
    note .debug s!"skipping {resource.describe kind}: not backed by a struct"
    return none

/-- The blocks of a category. -/
def blocks (kind : ResourceKind) : Reflecting (List Block) := do
  return (← (← reflector.listed kind).mapM (reflector.block? kind)).filterMap id

/-- A block as a uniform buffer. -/
def uniformBuffer (block : Block) : Reflecting UniformBuffer := do
  let slot ← reflector.slotOf .uniformBuffer block.resource
  return {
    name := block.resource.name
    slot
    members := block.layout.members
    size := block.layout.size }

/-- The uniform buffers. All blocks are laid out before the first one's slot is looked up. -/
def uniformBuffers : Reflecting (List UniformBuffer) := do
  (← reflector.blocks .uniformBuffer).mapM reflector.uniformBuffer

/-- How a storage buffer may be used. One that is marked as not written is read-only, whether or
not it is also marked as not read. -/
def accessOf (resource : Resource) : Reflecting Access := do
  let context := resource.describe .storageBuffer
  let nonReadable ← ask context
    (reflector.module.hasDecoration resource.id Decoration.nonReadable)
  let nonWritable ← ask context
    (reflector.module.hasDecoration resource.id Decoration.nonWritable)
  return if nonWritable then .readOnly else if nonReadable then .writeOnly else .readWrite

/-- A block as a storage buffer. -/
def storageBuffer (block : Block) : Reflecting StorageBuffer := do
  let slot ← reflector.slotOf .storageBuffer block.resource
  let access ← reflector.accessOf block.resource
  return {
    variableName := (reflector.module.name block.resource.id).getD ""
    typeName := (reflector.module.name block.resource.baseTypeId).getD ""
    slot
    size := block.layout.size
    access
    members := block.layout.members.map BufferMember.toStorage }

/-- The storage buffers. All blocks are laid out before the first one's slot is looked up. -/
def storageBuffers : Reflecting (List StorageBuffer) := do
  (← reflector.blocks .storageBuffer).mapM reflector.storageBuffer

/-- A block as a push constant block, which is bound nowhere. -/
def pushConstant (block : Block) : PushConstantBlock where
  name := block.resource.name
  members := block.layout.members
  size := block.layout.size

/-- The push constant blocks. -/
def pushConstants : Reflecting (List PushConstantBlock) := do
  return (← reflector.blocks .pushConstant).map pushConstant

/-- The data type of what sampling an image of the given shape gives. -/
def imageDataType (kind : ResourceKind) (resource : Resource) (info : TypeInfo) :
    Reflecting DataType :=
  match info.imageType with
  | none => return .unknown
  | some type => do
      let sampled ← reflector.typeInfoOf kind resource type
      return DataType.classify sampled.base sampled.width 1

/-- A resource as an image. -/
def image (kind : ResourceKind) (resource : Resource) : Reflecting ImageBinding := do
  let slot ← reflector.slotOf kind resource
  let info ← reflector.typeInfoOf kind resource resource.typeId
  let dataType ← reflector.imageDataType kind resource info
  return { name := resource.name, slot, dataType }

/-- The images of a category. -/
def images (kind : ResourceKind) : Reflecting (List ImageBinding) := do
  (← reflector.listed kind).mapM (reflector.image kind)

/-- The images that are sampled. -/
def sampledImages : Reflecting (List ImageBinding) :=
  reflector.images .sampledImage

/-- The images that are loaded and stored. -/
def storageImages : Reflecting (List ImageBinding) :=
  reflector.images .storageImage

/-- A resource as a stage input. -/
def stageInput (resource : Resource) : Reflecting StageInput := do
  let location ← reflector.decorationOf .stageInput resource Decoration.location
  let info ← reflector.typeInfoOf .stageInput resource resource.typeId
  return {
    name := resource.name
    location
    dataType := info.dataType
    arraySize := info.arrayLength }

/-- The inputs of the stage by location. Inputs of one location stay in the module's order. -/
def stageInputs : Reflecting (List StageInput) := do
  let inputs ← (← reflector.listed .stageInput).mapM reflector.stageInput
  return inputs.mergeSort fun first second => first.location ≤ second.location

end Reflector

end ShaderInterface
