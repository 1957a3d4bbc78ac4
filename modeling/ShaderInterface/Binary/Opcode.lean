/-!
# Opcodes

Every instruction starts with an opcode. Those that say something about the interface of a shader,
and those that small modules cannot do without, have names here. All others are told apart by their
numbers.
-/

namespace ShaderInterface

/-- The numbers of the opcodes that have names here. -/
def Opcode.namedNumbers : List Nat :=
  [5, 6, 14, 15, 17, 19, 20, 21, 22, 23, 24, 25, 26, 27, 28, 29, 30, 31, 32, 33, 34, 35, 36, 37, 38,
    39, 43, 48, 49, 50, 54, 56, 59, 71, 72, 248, 253]

/-- The opcode of an instruction. -/
inductive Opcode where
  | name
  | memberName
  | memoryModel
  | entryPoint
  | capability
  | typeVoid
  | typeBool
  | typeInt
  | typeFloat
  | typeVector
  | typeMatrix
  | typeImage
  | typeSampler
  | typeSampledImage
  | typeArray
  | typeRuntimeArray
  | typeStruct
  | typeOpaque
  | typePointer
  | typeFunction
  | typeEvent
  | typeDeviceEvent
  | typeReserveId
  | typeQueue
  | typePipe
  | typeForwardPointer
  | constant
  | specConstantTrue
  | specConstantFalse
  | specConstant
  | function
  | functionEnd
  | var
  | decorate
  | memberDecorate
  | label
  | ret
  /-- Any other opcode, with its number and the name under which messages would report it. -/
  | other (number : UInt16) (mnemonic : String) (hother : number.toNat ∉ Opcode.namedNumbers)
  deriving DecidableEq

namespace Opcode

/-- The number that stands for the opcode in a module, and its name in messages. -/
def info : Opcode → Nat × String
  | .name => (5, "OpName")
  | .memberName => (6, "OpMemberName")
  | .memoryModel => (14, "OpMemoryModel")
  | .entryPoint => (15, "OpEntryPoint")
  | .capability => (17, "OpCapability")
  | .typeVoid => (19, "OpTypeVoid")
  | .typeBool => (20, "OpTypeBool")
  | .typeInt => (21, "OpTypeInt")
  | .typeFloat => (22, "OpTypeFloat")
  | .typeVector => (23, "OpTypeVector")
  | .typeMatrix => (24, "OpTypeMatrix")
  | .typeImage => (25, "OpTypeImage")
  | .typeSampler => (26, "OpTypeSampler")
  | .typeSampledImage => (27, "OpTypeSampledImage")
  | .typeArray => (28, "OpTypeArray")
  | .typeRuntimeArray => (29, "OpTypeRuntimeArray")
  | .typeStruct => (30, "OpTypeStruct")
  | .typeOpaque => (31, "OpTypeOpaque")
  | .typePointer => (32, "OpTypePointer")
  | .typeFunction => (33, "OpTypeFunction")
  | .typeEvent => (34, "OpTypeEvent")
  | .typeDeviceEvent => (35, "OpTypeDeviceEvent")
  | .typeReserveId => (36, "OpTypeReserveId")
  | .typeQueue => (37, "OpTypeQueue")
  | .typePipe => (38, "OpTypePipe")
  | .typeForwardPointer => (39, "OpTypeForwardPointer")
  | .constant => (43, "OpConstant")
  | .specConstantTrue => (48, "OpSpecConstantTrue")
  | .specConstantFalse => (49, "OpSpecConstantFalse")
  | .specConstant => (50, "OpSpecConstant")
  | .function => (54, "OpFunction")
  | .functionEnd => (56, "OpFunctionEnd")
  | .var => (59, "OpVariable")
  | .decorate => (71, "OpDecorate")
  | .memberDecorate => (72, "OpMemberDecorate")
  | .label => (248, "OpLabel")
  | .ret => (253, "OpReturn")
  | .other number mnemonic _ => (number.toNat, mnemonic)

/-- The number that stands for the opcode in a module. -/
def number (op : Opcode) : Nat :=
  op.info.1

/-- The name under which messages report the opcode. -/
def mnemonic (op : Opcode) : String :=
  op.info.2

/-- The opcodes that have names here, in the order of their numbers. -/
def named : List Opcode :=
  [.name, .memberName, .memoryModel, .entryPoint, .capability, .typeVoid, .typeBool, .typeInt,
    .typeFloat, .typeVector, .typeMatrix, .typeImage, .typeSampler, .typeSampledImage, .typeArray,
    .typeRuntimeArray, .typeStruct, .typeOpaque, .typePointer, .typeFunction, .typeEvent,
    .typeDeviceEvent, .typeReserveId, .typeQueue, .typePipe, .typeForwardPointer, .constant,
    .specConstantTrue, .specConstantFalse, .specConstant, .function, .functionEnd, .var, .decorate,
    .memberDecorate, .label, .ret]

/-- The numbers that no other opcode may have are those of the opcodes with names. -/
theorem map_number_named : named.map number = namedNumbers :=
  rfl

/-- A number fits the lower half of a word. -/
theorem number_lt (op : Opcode) : op.number < 65536 := by
  cases op with
  | other number => exact number.toNat_lt
  | _ => decide

end Opcode

end ShaderInterface
