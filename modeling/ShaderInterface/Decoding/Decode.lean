import ShaderInterface.Binary.Chunk
import ShaderInterface.Binary.Instruction
import ShaderInterface.Decoding.Cursor
import ShaderInterface.Decoding.Instructions
import ShaderInterface.Table

/-!
# Decoding one instruction

The operands are read in the order of the grammar until the instruction's words are used up. Words
that the operands leave over make the instruction invalid, whatever else is wrong with it.
-/

namespace ShaderInterface

/-- The opcode declares a type. -/
def Opcode.isType (op : Opcode) : Bool :=
  (19 ≤ op.number && op.number ≤ 39) || op.number = 322 || op.number = 327

/-- The form of the numbers of a numeric type. -/
inductive NumberForm where
  | int (width : UInt32)
  | float (width : UInt32)
  deriving DecidableEq

/-- What is known about the numbers of each identifier: of a numeric type, how its constants are
written, and of a value, the same as of its type. -/
abbrev NumberForms := Table Ident NumberForm

namespace NumberForms

/-- The form that an instruction gives to its result. Numeric types have their own, any other
instruction hands on the form of its result type. -/
def formOf? (forms : NumberForms) (inst : Instruction) : Option NumberForm :=
  match inst.opcode, inst.operands with
  | .typeInt, .int32 width :: _ => some (.int width)
  | .typeFloat, .int32 width :: _ => some (.float width)
  | op, _ => if op.isType then none else inst.resultType.bind forms.get?

/-- Record what an instruction says about its result. -/
def record (forms : NumberForms) (inst : Instruction) : NumberForms :=
  match inst.resultId, forms.formOf? inst with
  | some id, some form => forms.insert id form
  | _, _ => forms

end NumberForms

/-- What reading an operand may depend on besides the words. -/
structure DecodeContext where
  /-- The number of the instruction in the module. -/
  index : Nat
  /-- What is known about the identifiers defined before. -/
  forms : NumberForms

namespace Reader

/-- Read a number in the form that its type has. Of a type without a recorded form it is one
word. -/
def number (context : DecodeContext) (resultType : Option Ident) : Reader Operand := do
  match resultType.bind context.forms.get? with
  | none => return .int32 (← word)
  | some (.int width) =>
      if width = 32 then return .int32 (← word)
      else if width = 64 then return .int64 (← doubleWord)
      else throw (.unsupportedNumber (← get).offset context.index)
  | some (.float width) =>
      if width = 32 then return .float32 (← word)
      else if width = 64 then return .float64 (← doubleWord)
      else throw (.unsupportedNumber (← get).offset context.index)

/-- Read a number of references. -/
def refs : Nat → Reader (List Operand)
  | 0 => return []
  | count + 1 => return .ref (← word) :: (← refs count)

/-- Read the opcode in the lower half of a word and the references that it takes. -/
def operation (context : DecodeContext) : Reader (List Operand) := do
  let first ← word
  match OpcodeEntry.find? (first.toNat % 65536) with
  | some entry => return .opcode entry.opcode :: (← refs entry.referenceCount)
  | none => throw (.unknownOperation (← get).offset context.index)

/-- Read what one operand of the grammar stands for, without the parameters of its value. The
result's type and identifier are no operands. -/
def atom (context : DecodeContext) (resultType : Option Ident) :
    OperandKind → Reader (List Operand)
  | .resultType | .result => return []
  | .id => return [.ref (← word)]
  | .literal => return [.int32 (← word)]
  | .text => return [.string (← string)]
  | .extInst => return [.extInst (← word)]
  | .number => return [← number context resultType]
  | .specOp => operation context
  | .idLiteralPair => return [.ref (← word), .int32 (← word)]
  | .enumerant enumeration => return [.enumerant enumeration (← enumerant enumeration)]

/-- Read what several operands stand for. -/
def atoms (context : DecodeContext) (resultType : Option Ident) :
    List OperandKind → Reader (List Operand)
  | [] => return []
  | kind :: kinds => return (← atom context resultType kind) ++ (← atoms context resultType kinds)

/-- Read what one operand of the grammar stands for, the parameters of its value included. -/
def operand (context : DecodeContext) (resultType : Option Ident) :
    OperandKind → Reader (List Operand)
  | .enumerant enumeration => do
      let value ← enumerant enumeration
      let parameters ← atoms context resultType (enumeration.parameters value.number)
      return .enumerant enumeration value :: parameters
  | kind => atom context resultType kind

/-- Read one operand of the grammar into the instruction. -/
def field (context : DecodeContext) (inst : Instruction) : OperandKind → Reader Instruction
  | .resultType => return { inst with resultType := some (← word) }
  | .result => return { inst with resultId := some (← word) }
  | kind => return { inst with
      operands := inst.operands ++ (← operand context inst.resultType kind) }

/-- Read an operand over and over until the words are used up, at most `bound` times. -/
def fieldsUpTo (context : DecodeContext) (kind : OperandKind) :
    Nat → Instruction → Reader Instruction
  | 0, inst => return inst
  | bound + 1, inst => do
      if (← get).remaining = 0 then return inst
      else fieldsUpTo context kind bound (← field context inst kind)

/-- Read the operands of a grammar. A required operand must have words left; an optional or
repeated one for which none are left ends the instruction. A repeated operand takes at least one
word each time, so the words left bound its repetitions. -/
def fields (context : DecodeContext) : List OperandSpec → Instruction → Reader Instruction
  | [], inst => return inst
  | spec :: specs, inst => do
      let cursor ← get
      if cursor.remaining = 0 then
        match spec.occurrence with
        | .one => throw (.operandExpected cursor.offset context.index)
        | .optional | .repeated => return inst
      else
        match spec.occurrence with
        | .one | .optional => fields context specs (← field context inst spec.kind)
        | .repeated =>
            fields context specs (← fieldsUpTo context spec.kind cursor.remaining inst)

/-- Read the operands of an opcode. -/
def instruction (context : DecodeContext) (entry : OpcodeEntry) : Reader Instruction :=
  fields context entry.operands { opcode := entry.opcode }

end Reader

namespace Chunk

/-- Decode an instruction whose first word stands at `offset`. Words left over are reported before
any other fault of the operands. -/
def decode (chunk : Chunk) (context : DecodeContext) (offset : Nat) : Except Fault Instruction :=
  if chunk.length = 0 then .error (.zeroLength offset context.index)
  else
    match OpcodeEntry.find? chunk.opcodeNumber with
    | none => .error (.unknownOpcode offset context.index chunk.opcodeNumber)
    | some entry =>
        let (result, cursor) :=
          (Reader.instruction context entry).run.run ⟨chunk.rest, chunk.missing, offset + 4⟩
        if cursor.remaining = 0 then result
        else .error (.operandExceeded cursor.offset context.index)

end Chunk

end ShaderInterface
