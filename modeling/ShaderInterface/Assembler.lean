import ShaderInterface.Binary.Stream
import ShaderInterface.Binary.Text

/-!
# Assembling small modules

An assembler writes modules word by word. It hands out identifiers in ascending order, keeps the
instructions of each section in the order in which they were asked for, and checks nothing: types
have to be declared before they are used.
-/

namespace ShaderInterface

/-- An instruction as its opcode and the words behind it. -/
structure RawInstruction where
  opcode : Opcode
  operands : List UInt32

namespace RawInstruction

/-- The words of an instruction. The upper half of the first one counts them. -/
def words (inst : RawInstruction) : List UInt32 :=
  UInt32.ofNat ((inst.operands.length + 1) * 65536 + inst.opcode.number) :: inst.operands

end RawInstruction

/-- A module under construction. -/
structure Assembler where
  /-- The next identifier that is free. -/
  nextId : Ident
  preamble : List RawInstruction
  annotations : List RawInstruction
  globals : List RawInstruction
  functions : List RawInstruction

/-- What an assembler can be asked to write. -/
inductive AssemblerStep where
  | allocId
  | entryPoint (model : ExecutionModel) (function : Ident) (name : String) (interface : List Ident)
  | name (target : Ident) (text : String)
  | memberName (target : Ident) (member : UInt32) (text : String)
  | decorate (target : Ident) (decoration : Decoration) (params : List UInt32)
  | memberDecorate (target : Ident) (member : UInt32) (decoration : Decoration)
      (params : List UInt32)
  | typeVoid
  | typeBool
  | typeInt (width : UInt32) (signed : Bool)
  | typeFloat (width : UInt32)
  | typeVector (component : Ident) (count : UInt32)
  | typeMatrix (column : Ident) (count : UInt32)
  | typeImage (sampledType : Ident) (dim : Dim) (sampled : UInt32) (format : ImageFormat)
  | typeSampler
  | typeSampledImage (image : Ident)
  | typeArray (element length : Ident)
  | typeRuntimeArray (element : Ident)
  | typeStruct (members : List Ident)
  | typePointer (storageClass : StorageClass) (pointee : Ident)
  | constant32 (type : Ident) (value : UInt32)
  | constant64 (type : Ident) (value : UInt64)
  | specConstant32 (type : Ident) (value : UInt32)
  | specConstantBool (type : Ident) (value : Bool)
  | var (pointer : Ident) (storageClass : StorageClass)
  /-- An empty function without parameters or result. -/
  | function

namespace Assembler

/-- The version that assembled modules declare, as its word in the header. -/
def versionWord : UInt32 := 0x00010000

/-- The capability to run shaders. -/
def shaderCapability : UInt32 := 1

/-- Pointers have no address. -/
def logicalAddressing : UInt32 := 0

/-- The memory model of the shading language. -/
def shadingMemoryModel : UInt32 := 1

/-- The assembler of a module without declarations. -/
def new : Assembler where
  nextId := 1
  preamble :=
    [⟨.capability, [shaderCapability]⟩, ⟨.memoryModel, [logicalAddressing, shadingMemoryModel]⟩]
  annotations := []
  globals := []
  functions := []

instance : Inhabited Assembler :=
  ⟨new⟩

/-- Take the next free identifier. -/
def alloc (asm : Assembler) : Ident × Assembler :=
  (asm.nextId, { asm with nextId := asm.nextId + 1 })

/-- Write an instruction into the section of capabilities and entry points. -/
def addPreamble (asm : Assembler) (op : Opcode) (operands : List UInt32) : Assembler :=
  { asm with preamble := asm.preamble ++ [⟨op, operands⟩] }

/-- Write an instruction into the section of names and decorations. -/
def addAnnotation (asm : Assembler) (op : Opcode) (operands : List UInt32) : Assembler :=
  { asm with annotations := asm.annotations ++ [⟨op, operands⟩] }

/-- Write an instruction into the section of types, constants and variables. -/
def addGlobal (asm : Assembler) (op : Opcode) (operands : List UInt32) : Assembler :=
  { asm with globals := asm.globals ++ [⟨op, operands⟩] }

/-- Write a function into the section of function bodies. -/
def addFunction (asm : Assembler) (body : List RawInstruction) : Assembler :=
  { asm with functions := asm.functions ++ body }

/-- Declare a type under a new identifier. -/
def declareType (asm : Assembler) (op : Opcode) (operands : List UInt32) : Ident × Assembler :=
  let (id, asm) := asm.alloc
  (id, asm.addGlobal op (id :: operands))

/-- Define a value of the given type under a new identifier. -/
def define (asm : Assembler) (op : Opcode) (type : Ident) (operands : List UInt32) :
    Ident × Assembler :=
  let (id, asm) := asm.alloc
  (id, asm.addGlobal op (type :: id :: operands))

/-- Write an empty function without parameters or result, and the types it needs. -/
def emptyFunction (asm : Assembler) : Ident × Assembler :=
  let (void, asm) := asm.declareType .typeVoid []
  let (type, asm) := asm.declareType .typeFunction [void]
  let (id, asm) := asm.alloc
  let (label, asm) := asm.alloc
  (id, asm.addFunction
    [⟨.function, [void, id, 0, type]⟩, ⟨.label, [label]⟩, ⟨.ret, []⟩, ⟨.functionEnd, []⟩])

/-- The two words of a 64-bit number, the low one first. -/
def words64 (value : UInt64) : List UInt32 :=
  [UInt32.ofNat value.toNat, UInt32.ofNat (value.toNat / UInt32.size)]

/-- A step that defines an identifier answers with it. -/
def defining (result : Ident × Assembler) : Option Ident × Assembler :=
  (some result.1, result.2)

/-- Carry out one step. -/
def step (asm : Assembler) : AssemblerStep → Option Ident × Assembler
  | .allocId => defining asm.alloc
  | .entryPoint model function name interface =>
      (none, asm.addPreamble .entryPoint
        (model.number :: function :: Text.toWords name ++ interface))
  | .name target text => (none, asm.addAnnotation .name (target :: Text.toWords text))
  | .memberName target member text =>
      (none, asm.addAnnotation .memberName (target :: member :: Text.toWords text))
  | .decorate target decoration params =>
      (none, asm.addAnnotation .decorate (target :: decoration.number :: params))
  | .memberDecorate target member decoration params =>
      (none, asm.addAnnotation .memberDecorate (target :: member :: decoration.number :: params))
  | .typeVoid => defining (asm.declareType .typeVoid [])
  | .typeBool => defining (asm.declareType .typeBool [])
  | .typeInt width signed => defining (asm.declareType .typeInt [width, if signed then 1 else 0])
  | .typeFloat width => defining (asm.declareType .typeFloat [width])
  | .typeVector component count => defining (asm.declareType .typeVector [component, count])
  | .typeMatrix column count => defining (asm.declareType .typeMatrix [column, count])
  | .typeImage sampledType dim sampled format =>
      defining (asm.declareType .typeImage
        [sampledType, dim.number, 0, 0, 0, sampled, format.number])
  | .typeSampler => defining (asm.declareType .typeSampler [])
  | .typeSampledImage image => defining (asm.declareType .typeSampledImage [image])
  | .typeArray element length => defining (asm.declareType .typeArray [element, length])
  | .typeRuntimeArray element => defining (asm.declareType .typeRuntimeArray [element])
  | .typeStruct members => defining (asm.declareType .typeStruct members)
  | .typePointer storageClass pointee =>
      defining (asm.declareType .typePointer [storageClass.number, pointee])
  | .constant32 type value => defining (asm.define .constant type [value])
  | .constant64 type value => defining (asm.define .constant type (words64 value))
  | .specConstant32 type value => defining (asm.define .specConstant type [value])
  | .specConstantBool type value =>
      defining (asm.define (if value then .specConstantTrue else .specConstantFalse) type [])
  | .var pointer storageClass => defining (asm.define .var pointer [storageClass.number])
  | .function => defining asm.emptyFunction

/-- The assembler after a sequence of steps. -/
def run (asm : Assembler) (steps : List AssemblerStep) : Assembler :=
  steps.foldl (fun asm step => (asm.step step).2) asm

/-- The instructions in the order in which the module has them. -/
def instructions (asm : Assembler) : List RawInstruction :=
  asm.preamble ++ asm.annotations ++ asm.globals ++ asm.functions

/-- The words of the module. The header declares that all identifiers are below the next free
one. -/
def assemble (asm : Assembler) : List UInt32 :=
  [Stream.magic, versionWord, 0, asm.nextId, 0] ++ asm.instructions.flatMap RawInstruction.words

end Assembler

end ShaderInterface
