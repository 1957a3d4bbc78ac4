import ShaderInterface.Binary.Enumerant
import ShaderInterface.Binary.Opcode

/-!
# The grammar of instructions

An opcode fixes which operands follow, and in which order. The grammar is given here for the opcodes
that have names. What may stand behind others is for whoever decodes them to say.
-/

namespace ShaderInterface

/-- What an operand is and how many words say it. -/
inductive OperandKind where
  /-- The type of the instruction's result. -/
  | resultType
  /-- The identifier that the instruction defines. -/
  | result
  /-- A reference to an identifier. -/
  | id
  /-- An integer of one word. -/
  | literal
  /-- A string. -/
  | text
  /-- The number of an instruction in an imported set. -/
  | extInst
  /-- A number whose width and form the result type decides. -/
  | number
  /-- An opcode followed by the identifiers it takes. -/
  | specOp
  /-- A reference followed by an integer of one word. -/
  | idLiteralPair
  /-- A value of a vocabulary followed by the parameters it takes. -/
  | enumerant (enumeration : Enumeration)
  deriving DecidableEq

/-- How often an operand is given. -/
inductive Occurrence where
  | one
  | optional
  | repeated
  deriving DecidableEq

/-- One operand of an instruction's grammar. -/
structure OperandSpec where
  kind : OperandKind
  occurrence : Occurrence
  deriving DecidableEq

namespace OperandSpec

/-- An operand that is always there. -/
def one (kind : OperandKind) : OperandSpec := ⟨kind, .one⟩

/-- An operand that may be left out. -/
def optional (kind : OperandKind) : OperandSpec := ⟨kind, .optional⟩

/-- An operand that is given any number of times, to the end of the instruction. -/
def repeated (kind : OperandKind) : OperandSpec := ⟨kind, .repeated⟩

end OperandSpec

/-- The operands that follow an opcode with a name, in order. -/
def Opcode.operands? : Opcode → Option (List OperandSpec)
  | .name => some [.one .id, .one .text]
  | .memberName => some [.one .id, .one .literal, .one .text]
  | .memoryModel => some [.one (.enumerant .addressingModel), .one (.enumerant .memoryModel)]
  | .entryPoint =>
      some [.one (.enumerant .executionModel), .one .id, .one .text, .repeated .id]
  | .capability => some [.one (.enumerant .capability)]
  | .typeVoid | .typeBool | .typeSampler | .typeEvent | .typeDeviceEvent | .typeReserveId
  | .typeQueue | .label => some [.one .result]
  | .typeInt => some [.one .result, .one .literal, .one .literal]
  | .typeFloat => some [.one .result, .one .literal]
  | .typeVector | .typeMatrix => some [.one .result, .one .id, .one .literal]
  | .typeImage => some [.one .result, .one .id, .one (.enumerant .dim), .one .literal,
      .one .literal, .one .literal, .one .literal, .one (.enumerant .imageFormat),
      .optional (.enumerant .accessQualifier)]
  | .typeSampledImage | .typeRuntimeArray => some [.one .result, .one .id]
  | .typeArray => some [.one .result, .one .id, .one .id]
  | .typeStruct => some [.one .result, .repeated .id]
  | .typeOpaque => some [.one .result, .one .text]
  | .typePointer => some [.one .result, .one (.enumerant .storageClass), .one .id]
  | .typeFunction => some [.one .result, .one .id, .repeated .id]
  | .typePipe => some [.one .result, .one (.enumerant .accessQualifier)]
  | .typeForwardPointer => some [.one .id, .one (.enumerant .storageClass)]
  | .constant | .specConstant => some [.one .resultType, .one .result, .one .number]
  | .specConstantTrue | .specConstantFalse => some [.one .resultType, .one .result]
  | .function =>
      some [.one .resultType, .one .result, .one (.enumerant .functionControl), .one .id]
  | .functionEnd | .ret => some []
  | .var => some [.one .resultType, .one .result, .one (.enumerant .storageClass), .optional .id]
  | .decorate => some [.one .id, .one (.enumerant .decoration)]
  | .memberDecorate => some [.one .id, .one .literal, .one (.enumerant .decoration)]
  | .other .. => none

end ShaderInterface
