import ShaderInterface.Binary.Stream
import ShaderInterface.Table

/-!
# Modules

A module keeps of its instructions what describes the interface of a shader: entry points, types,
integer constants, variables, names and decorations. Function bodies leave no trace.
-/

namespace ShaderInterface

/-- A declared type. Types refer to each other by identifier. -/
inductive TypeDecl where
  | void
  | bool
  | int (width : UInt32) (signed : Bool)
  | float (width : UInt32)
  | vector (component : Ident) (count : UInt32)
  | matrix (column : Ident) (count : UInt32)
  /-- `sampled` is 1 for an image that is sampled and 2 for one that is only loaded and stored. -/
  | image (sampledType : Ident) (dim : Dim) (sampled : UInt32)
  | sampledImage (image : Ident)
  | sampler
  /-- `length` is a constant. -/
  | array (element length : Ident)
  | runtimeArray (element : Ident)
  | struct (members : List Ident)
  | pointer (storageClass : StorageClass) (pointee : Ident)
  | function
  /-- A type that has no part in an interface, such as an event or a queue. -/
  | other
  deriving DecidableEq

/-- A variable of the module. -/
structure Variable where
  id : Ident := 0
  /-- The pointer type of the variable. -/
  type : Ident := 0
  storageClass : StorageClass := StorageClass.uniformConstant
  deriving DecidableEq

namespace Variable

/-- The variable passes values between stages. -/
def isInterface (var : Variable) : Bool :=
  var.storageClass = StorageClass.input || var.storageClass = StorageClass.output

end Variable

/-- A function at which a stage starts. -/
structure EntryPoint where
  model : ExecutionModel := ExecutionModel.vertex
  function : Ident := 0
  name : String := ""
  /-- The interface variables that the entry point declares. -/
  interface : List Ident := []
  deriving DecidableEq

/-- What a module says about its interface. -/
structure Module where
  version : Version := ⟨0, 0⟩
  /-- In the order of declaration. -/
  entryPoints : List EntryPoint := []
  types : Table Ident TypeDecl := .empty
  /-- Integer constants; a constant that can be specialised has its default value. -/
  constants : Table Ident UInt64 := .empty
  /-- In the order of declaration. -/
  vars : List Variable := []
  names : Table Ident String := .empty
  memberNames : Table (Ident × UInt32) String := .empty
  /-- The integer parameters of the decorations on identifiers. -/
  decorations : Table (Ident × Decoration) (List UInt32) := .empty
  /-- The integer parameters of the decorations on struct members. -/
  memberDecorations : Table (Ident × UInt32 × Decoration) (List UInt32) := .empty

namespace Module

/-- The module that declares nothing. -/
def empty : Module :=
  {}

instance : Inhabited Module :=
  ⟨empty⟩

end Module

end ShaderInterface
