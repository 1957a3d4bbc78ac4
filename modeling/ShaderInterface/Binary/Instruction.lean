import ShaderInterface.Binary.Enumerant
import ShaderInterface.Binary.Opcode

/-!
# Decoded instructions

An instruction is an opcode, the type and identifier of its result where its grammar has them, and
its other operands in order. Operands carry what they mean, not the words that said it.
-/

namespace ShaderInterface

/-- The number by which a module refers to a type, constant, variable or function. -/
abbrev Ident := UInt32

/-- One decoded operand. -/
inductive Operand where
  | ref (target : Ident)
  | int32 (value : UInt32)
  | int64 (value : UInt64)
  | float32 (bits : UInt32)
  | float64 (bits : UInt64)
  | string (text : String)
  | extInst (number : UInt32)
  | opcode (op : Opcode)
  | enumerant (enumeration : Enumeration) (value : Enumerant enumeration)
  /-- Anything else, as its words. -/
  | other (words : List UInt32)
  deriving DecidableEq

namespace Operand

/-- The identifier that the operand refers to, if it is a reference. -/
def ref? : Operand → Option Ident
  | .ref target => some target
  | _ => none

/-- The value of an integer of one word. -/
def int32? : Operand → Option UInt32
  | .int32 value => some value
  | _ => none

/-- The text of a string. -/
def text? : Operand → Option String
  | .string text => some text
  | _ => none

/-- The value that the operand has in the given vocabulary. -/
def enumerant? (enumeration : Enumeration) : Operand → Option (Enumerant enumeration)
  | .enumerant own value => if h : own = enumeration then some (h ▸ value) else none
  | _ => none

@[simp] theorem enumerant?_enumerant {enumeration : Enumeration} (value : Enumerant enumeration) :
    enumerant? enumeration (.enumerant enumeration value) = some value := by
  simp [enumerant?]

end Operand

/-- One decoded instruction. -/
structure Instruction where
  opcode : Opcode
  resultType : Option Ident := none
  resultId : Option Ident := none
  operands : List Operand := []
  deriving DecidableEq

end ShaderInterface
