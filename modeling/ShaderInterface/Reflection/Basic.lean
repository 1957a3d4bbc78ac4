import ShaderInterface.Binary.Stream
import ShaderInterface.DataType

/-!
# The interface of a shader

What is reported about one shader: its entry point, the blocks and images that are bound to it and
the inputs of its stage.
-/

namespace ShaderInterface

/-- Where a resource is bound. -/
structure Slot where
  set : UInt32
  binding : UInt32
  deriving DecidableEq

/-- One member of a block. -/
structure BufferMember where
  name : String
  dataType : DataType
  offset : UInt32
  /-- The declared size, strides included. -/
  size : UInt32
  /-- The outermost dimension, 1 if the member is no array. -/
  arrayLength : UInt32
  deriving DecidableEq

/-- One member of a storage block. -/
structure StorageMember extends BufferMember where
  /-- The outermost dimension, 1 if there is none or its length is not fixed. -/
  arraySize : UInt32
  deriving DecidableEq

/-- A member as a member of a storage block. -/
def BufferMember.toStorage (member : BufferMember) : StorageMember :=
  { member with arraySize := member.arrayLength }

/-- The members of a struct, one level deep, and its declared size. -/
structure BlockLayout where
  members : List BufferMember
  size : UInt32
  deriving DecidableEq

/-- A block that all invocations of a shader read. -/
structure UniformBuffer where
  name : String
  slot : Slot
  members : List BufferMember
  /-- The declared size of the block, padding included. -/
  size : UInt32
  deriving DecidableEq

/-- How a shader may use a storage buffer. -/
inductive Access where
  | readOnly
  | writeOnly
  | readWrite
  deriving DecidableEq

/-- The word for an access. -/
def Access.text : Access → String
  | .readOnly => "readonly"
  | .writeOnly => "writeonly"
  | .readWrite => "read-write"

/-- A block that a shader may read and write. -/
structure StorageBuffer where
  variableName : String
  typeName : String
  slot : Slot
  size : UInt32
  access : Access
  members : List StorageMember
  deriving DecidableEq

/-- A small block that is passed with the command and bound to no slot. -/
structure PushConstantBlock where
  name : String
  members : List BufferMember
  size : UInt32
  deriving DecidableEq

/-- A sampled or a storage image. -/
structure ImageBinding where
  name : String
  slot : Slot
  /-- The data type of one component that sampling or loading gives. -/
  dataType : DataType
  deriving DecidableEq

/-- A user-defined input of the stage. -/
structure StageInput where
  name : String
  location : UInt32
  dataType : DataType
  arraySize : UInt32
  deriving DecidableEq

/-- Everything that is reported about one shader. -/
structure Reflection where
  entryPoint : String
  /-- `none` without an entry point or where its model is no pipeline stage. -/
  stage : Option Stage := none
  version : Version
  /-- The module itself. -/
  code : List UInt8
  uniformBuffers : List UniformBuffer := []
  storageBuffers : List StorageBuffer := []
  pushConstants : List PushConstantBlock := []
  sampledImages : List ImageBinding := []
  storageImages : List ImageBinding := []
  stageInputs : List StageInput := []
  deriving DecidableEq

/-- What a caller may choose about a reflection. -/
structure ReflectOptions where
  /-- The name of the entry point of a module that has none. -/
  missingEntryPoint : String := "none"
  /-- The name of members that have none. -/
  unnamed : String := "unnamed"
  /-- Whether the inputs of the stage are collected. -/
  stageInputs : Bool := true
  deriving DecidableEq

/-- Why a module could not be reflected. -/
inductive ReflectError where
  /-- The bytes are not a whole number of words. -/
  | malformedInput (length : Nat)
  /-- The module could not be read. -/
  | parse (text : String)
  /-- A question about the module failed; `context` names what was being looked at. -/
  | query (context text : String)
  deriving DecidableEq

/-- The words in which an error is reported. -/
def ReflectError.message : ReflectError → String
  | .malformedInput length => s!"malformed input: {length} bytes is not a whole number of words"
  | .parse text => s!"failed to parse module: {text}"
  | .query context text => s!"{context}: {text}"

end ShaderInterface
