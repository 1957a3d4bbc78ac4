import ShaderInterface.Log
import ShaderInterface.Module.Basic
import ShaderInterface.Module.Error

/-!
# Collecting a module from instructions

The instructions are taken in order, each adding what it declares. A later name, constant or
decoration replaces an earlier one of the same key; a type may be declared only once.
-/

namespace ShaderInterface

/-- A step that takes operands from the front of a list. -/
abbrev OperandReader := StateT (List Operand) (Except ModuleError)

namespace OperandReader

/-- Take the next operand, which must have the form that `get?` accepts. -/
def take {α : Type} (op : Opcode) (expected : String) (get? : Operand → Option α) :
    OperandReader α
  | [] => .error (.wrongOperand op expected)
  | operand :: rest =>
      match get? operand with
      | some value => .ok (value, rest)
      | none => .error (.wrongOperand op expected)

/-- Take a reference. -/
def ref (op : Opcode) : OperandReader Ident :=
  take op "IdRef" Operand.ref?

/-- Take an integer of one word. -/
def int32 (op : Opcode) : OperandReader UInt32 :=
  take op "LiteralInt32" Operand.int32?

/-- Take a string. -/
def string (op : Opcode) : OperandReader String :=
  take op "LiteralString" Operand.text?

/-- Take a value of a vocabulary. -/
def enumerant (op : Opcode) (enumeration : Enumeration) :
    OperandReader (Enumerant enumeration) :=
  take op enumeration.name (Operand.enumerant? enumeration)

/-- Take all operands that are left, which must be references. -/
def refs (op : Opcode) : OperandReader (List Ident) :=
  fun operands => do
    let ids ← operands.mapM fun operand =>
      match operand.ref? with
      | some id => .ok id
      | none => .error (.wrongOperand op "IdRef")
    return (ids, [])

/-- Take all operands that are left and keep the integers of one word. Parameters of other forms
only show that there is a decoration. -/
def literals : OperandReader (List UInt32) :=
  fun operands => .ok (operands.filterMap Operand.int32?, [])

end OperandReader

namespace Instruction

/-- The identifier that the instruction defines. -/
def requiredResult (inst : Instruction) : Except ModuleError Ident :=
  match inst.resultId with
  | some id => .ok id
  | none => .error (.missingResult inst.opcode)

/-- Read the operands from the first one on. -/
def reading {α : Type} (inst : Instruction) (reader : OperandReader α) : Except ModuleError α :=
  (reader.run inst.operands).map Prod.fst

end Instruction

namespace OperandReader

/-- Take the operands of a type declaration. A forward pointer announces a declaration and is none
itself. -/
def typeDecl (op : Opcode) : OperandReader (Option TypeDecl) := do
  match op with
  | .typeVoid => return some .void
  | .typeBool => return some .bool
  | .typeInt =>
      let width ← int32 op
      let signedness ← int32 op
      return some (.int width (signedness ≠ 0))
  | .typeFloat => return some (.float (← int32 op))
  | .typeVector =>
      let component ← ref op
      let count ← int32 op
      return some (.vector component count)
  | .typeMatrix =>
      let column ← ref op
      let count ← int32 op
      return some (.matrix column count)
  | .typeImage =>
      let sampledType ← ref op
      let dim ← enumerant op .dim
      let _depth ← int32 op
      let _arrayed ← int32 op
      let _multisampled ← int32 op
      let sampled ← int32 op
      return some (.image sampledType dim sampled)
  | .typeSampler => return some .sampler
  | .typeSampledImage => return some (.sampledImage (← ref op))
  | .typeArray =>
      let element ← ref op
      let length ← ref op
      return some (.array element length)
  | .typeRuntimeArray => return some (.runtimeArray (← ref op))
  | .typeStruct => return some (.struct (← refs op))
  | .typePointer =>
      let storageClass ← enumerant op .storageClass
      let pointee ← ref op
      return some (.pointer storageClass pointee)
  | .typeFunction => return some .function
  | .typeForwardPointer => return none
  | _ => return some .other

/-- Take the operands of an entry point. -/
def entryPoint (op : Opcode) : OperandReader EntryPoint := do
  let model ← enumerant op .executionModel
  let function ← ref op
  let name ← string op
  let interface ← refs op
  return { model, function, name, interface }

end OperandReader

namespace Module

open OperandReader

/-- Add an entry point behind those declared before. -/
def addEntryPoint (module : Module) (inst : Instruction) : Except ModuleError Module := do
  let entryPoint ← inst.reading (entryPoint inst.opcode)
  return { module with entryPoints := module.entryPoints ++ [entryPoint] }

/-- Record the debug name of an identifier. -/
def addName (module : Module) (inst : Instruction) : Except ModuleError Module := do
  let (target, name) ← inst.reading (return (← ref inst.opcode, ← string inst.opcode))
  return { module with names := module.names.insert target name }

/-- Record the debug name of a struct member. -/
def addMemberName (module : Module) (inst : Instruction) : Except ModuleError Module := do
  let (target, member, name) ← inst.reading
    (return (← ref inst.opcode, ← int32 inst.opcode, ← string inst.opcode))
  return { module with memberNames := module.memberNames.insert (target, member) name }

/-- Record a decoration on an identifier. -/
def addDecoration (module : Module) (inst : Instruction) : Except ModuleError Module := do
  let (target, decoration, params) ← inst.reading
    (return (← ref inst.opcode, ← enumerant inst.opcode .decoration, ← literals))
  return { module with decorations := module.decorations.insert (target, decoration) params }

/-- Record a decoration on a struct member. -/
def addMemberDecoration (module : Module) (inst : Instruction) : Except ModuleError Module := do
  let (target, member, decoration, params) ← inst.reading
    (return (← ref inst.opcode, ← int32 inst.opcode, ← enumerant inst.opcode .decoration,
      ← literals))
  return { module with
    memberDecorations := module.memberDecorations.insert (target, member, decoration) params }

/-- The value of an integer constant's operands. Other constants are never lengths, so they have
none. -/
def constantValue? : List Operand → Option UInt64
  | .int32 value :: _ => some value.toUInt64
  | .int64 value :: _ => some value
  | _ => none

/-- Record the value that a constant's instruction gives to its result, if it gives one. -/
def addConstant (module : Module) (inst : Instruction) (value : Option UInt64) :
    Except ModuleError Module := do
  let id ← inst.requiredResult
  match value with
  | some value => return { module with constants := module.constants.insert id value }
  | none => return module

/-- Add a variable behind those declared before. Variables of functions are no part of the
interface. -/
def addVariable (module : Module) (inst : Instruction) : Except ModuleError Module := do
  let id ← inst.requiredResult
  let storageClass ← inst.reading (enumerant inst.opcode .storageClass)
  if storageClass = StorageClass.function then return module
  match inst.resultType with
  | some type => return { module with vars := module.vars ++ [{ id, type, storageClass }] }
  | none => .error (.wrongOperand inst.opcode "type")

/-- Add a type under an identifier that no type has yet. -/
def addType (module : Module) (inst : Instruction) : Except ModuleError Module := do
  let id ← inst.requiredResult
  match ← inst.reading (typeDecl inst.opcode) with
  | none => return module
  | some decl =>
      if module.types.contains id then .error (.redefinedType id)
      else return { module with types := module.types.insert id decl }

/-- Add what one instruction declares. -/
def add (module : Module) (inst : Instruction) : Except ModuleError Module :=
  match inst.opcode with
  | .entryPoint => module.addEntryPoint inst
  | .name => module.addName inst
  | .memberName => module.addMemberName inst
  | .decorate => module.addDecoration inst
  | .memberDecorate => module.addMemberDecoration inst
  | .constant | .specConstant => module.addConstant inst (constantValue? inst.operands)
  | .specConstantTrue => module.addConstant inst (some 1)
  | .specConstantFalse => module.addConstant inst (some 0)
  | .var => module.addVariable inst
  | .typeVoid | .typeBool | .typeInt | .typeFloat | .typeVector | .typeMatrix | .typeImage
  | .typeSampler | .typeSampledImage | .typeArray | .typeRuntimeArray | .typeStruct
  | .typePointer | .typeFunction | .typeOpaque | .typeEvent | .typeDeviceEvent
  | .typeReserveId | .typeQueue | .typePipe | .typeForwardPointer => module.addType inst
  | _ => .ok module

/-- The module that a sequence of instructions declares. -/
def ofInstructions (version : Version) (insts : List Instruction) : Except ModuleError Module :=
  insts.foldlM add { version }

/-- The module in a decoded stream. -/
def ofStream (stream : Stream) : Except ModuleError Module :=
  ofInstructions (.ofWord stream.versionWord) stream.instructions

/-- What a reader is told about a module. -/
def summary (module : Module) : String :=
  s!"raised SPIR-V {module.version} module: {module.entryPoints.length} entry points, " ++
    s!"{module.types.size} types, {module.vars.length} variables"

end Module

namespace Decoder

variable (decoder : Decoder)

/-- The module in a sequence of words. -/
def readWords (words : List UInt32) : ExceptT ModuleError Logged Module := do
  Logged.note .trace s!"parse_words(len: {words.length})"
  match decoder.decode words with
  | .error text => throw (.undecodable text)
  | .ok stream =>
      match Module.ofStream stream with
      | .error error => throw error
      | .ok module =>
          Logged.note .debug module.summary
          return module

/-- The module in a sequence of bytes, the lowest byte of each word first. -/
def readBytes (bytes : List UInt8) : ExceptT ModuleError Logged Module :=
  match Word.pack? bytes with
  | some words => decoder.readWords words
  | none => throw (.unevenBytes bytes.length)

end Decoder

end ShaderInterface
