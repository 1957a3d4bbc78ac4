import ShaderInterface.Binary.Enumerant
import ShaderInterface.Utf8

/-!
# Decoding faults

A word sequence that is no module is refused with the place where decoding stopped: the offset in
bytes from the start of the module and, inside an instruction, its number counted from one.
-/

namespace ShaderInterface

/-- Why an operand could not be read. -/
inductive OperandFault where
  /-- The instruction's words are used up. -/
  | limitReached (offset : Nat)
  /-- The module ends before the instruction does. -/
  | streamExpected (offset : Nat)
  /-- The vocabulary does not know the number at the offset. -/
  | unknown (enumeration : Enumeration) (offset : Nat) (number : UInt32)
  /-- The string that starts at the offset is no text. -/
  | malformedText (offset : Nat) (cause : Utf8.Malformed)
  deriving DecidableEq

/-- The words in which an operand's fault is reported. -/
def OperandFault.message : OperandFault → String
  | .limitReached offset => s!"LimitReached({offset})"
  | .streamExpected offset => s!"StreamExpected({offset})"
  | .unknown enumeration offset number => s!"{enumeration.name}Unknown({offset}, {number})"
  | .malformedText offset cause => s!"DecodeStringFailed({offset}, \"{cause.message}\")"

/-- Why a word sequence is no module. -/
inductive Fault where
  /-- The words end inside the header. -/
  | headerIncomplete (offset : Nat)
  /-- The first word is the magic number with its bytes reversed. -/
  | reversedBytes
  /-- The first word is not the magic number. -/
  | wrongMagic
  /-- An instruction claims to be zero words long. -/
  | zeroLength (offset number : Nat)
  | unknownOpcode (offset number opcode : Nat)
  /-- A required operand is missing. -/
  | operandExpected (offset number : Nat)
  /-- The instruction has words that its operands do not use. -/
  | operandExceeded (offset number : Nat)
  | operand (cause : OperandFault)
  /-- The type of a constant is a number type of unsupported width. -/
  | unsupportedNumber (offset number : Nat)
  /-- A constant's operation is no understood opcode. -/
  | unknownOperation (offset number : Nat)
  deriving DecidableEq

/-- The words in which a fault is reported. -/
def Fault.message : Fault → String
  | .headerIncomplete offset =>
      s!"HeaderIncomplete({(OperandFault.streamExpected offset).message})"
  | .reversedBytes => "EndiannessUnsupported"
  | .wrongMagic => "HeaderIncorrect"
  | .zeroLength offset number => s!"WordCountZero({offset}, {number})"
  | .unknownOpcode offset number opcode => s!"OpcodeUnknown({offset}, {number}, {opcode})"
  | .operandExpected offset number => s!"OperandExpected({offset}, {number})"
  | .operandExceeded offset number => s!"OperandExceeded({offset}, {number})"
  | .operand cause => s!"OperandError({cause.message})"
  | .unsupportedNumber offset number => s!"TypeUnsupported({offset}, {number})"
  | .unknownOperation offset number => s!"SpecConstantOpIntegerIncorrect({offset}, {number})"

end ShaderInterface
