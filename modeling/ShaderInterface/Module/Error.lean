import ShaderInterface.Binary.Instruction

/-!
# Module errors

Each cause belongs to one kind and has one description. The message names both.
-/

namespace ShaderInterface

/-- The kinds of errors that reading or asking a module can end in. -/
inductive ErrorKind where
  /-- The input is no valid module. -/
  | invalidModule
  /-- The module uses something that is not supported. -/
  | unsupportedModule
  /-- An identifier is used that nothing defines. -/
  | undefinedId
  /-- A type that is no struct was asked about its members. -/
  | notAStruct
  | memberOutOfRange
  /-- A size or length does not fit in 32 bits. -/
  | limitExceeded
  deriving DecidableEq

/-- The words for a kind of error. -/
def ErrorKind.text : ErrorKind → String
  | .invalidModule => "invalid module"
  | .unsupportedModule => "unsupported module"
  | .undefinedId => "undefined id"
  | .notAStruct => "not a struct"
  | .memberOutOfRange => "member index out of range"
  | .limitExceeded => "limit exceeded"

/-- Why a module could not be read or a question about it has no answer. -/
inductive ModuleError where
  /-- The words say nothing, for the reason in the text. -/
  | undecodable (text : String)
  /-- The bytes are not a whole number of words. -/
  | unevenBytes (length : Nat)
  /-- An instruction that defines something has no result. -/
  | missingResult (op : Opcode)
  /-- An operand is absent or of another form than the instruction needs. -/
  | wrongOperand (op : Opcode) (expected : String)
  | redefinedType (id : Ident)
  /-- The type of a variable is no pointer. -/
  | notPointer (id : Ident)
  /-- A type refers to itself without a pointer in between, so it has no size. -/
  | cyclicType (id : Ident)
  | undefinedType (id : Ident)
  | undefinedLength (id : Ident)
  | undefined (id : Ident)
  | notStruct (id : Ident)
  | noMember (id : Ident) (member : UInt32)
  | lengthTooLarge (length : UInt64) (array : Ident)
  | sizeTooLarge (id : Ident)
  /-- Objects of the type cannot be in a buffer. -/
  | unsized (id : Ident)
  deriving DecidableEq

namespace ModuleError

/-- The kind that a cause belongs to. -/
def kind : ModuleError → ErrorKind
  | .undecodable _ | .unevenBytes _ | .missingResult _ | .wrongOperand .. | .redefinedType _
  | .notPointer _ | .cyclicType _ => .invalidModule
  | .undefinedType _ | .undefinedLength _ | .undefined _ => .undefinedId
  | .notStruct _ => .notAStruct
  | .noMember .. => .memberOutOfRange
  | .lengthTooLarge .. | .sizeTooLarge _ => .limitExceeded
  | .unsized _ => .unsupportedModule

/-- What exactly is wrong. -/
def detail : ModuleError → String
  | .undecodable text => text
  | .unevenBytes length => s!"byte length {length} is not a multiple of 4"
  | .missingResult op => s!"{op.mnemonic}: missing result id"
  | .wrongOperand op expected => s!"{op.mnemonic}: expected {expected} operand"
  | .redefinedType id => s!"type %{id} defined twice"
  | .notPointer id => s!"variable %{id} is not a pointer"
  | .cyclicType id => s!"type %{id} contains itself"
  | .undefinedType id => s!"type %{id}"
  | .undefinedLength id => s!"array length constant %{id}"
  | .undefined id => s!"%{id}"
  | .notStruct id => s!"%{id}"
  | .noMember id member => s!"%{id} has no member {member}"
  | .lengthTooLarge length array => s!"length {length} of array %{array}"
  | .sizeTooLarge id => s!"size of %{id} overflows 32 bits"
  | .unsized id => s!"type %{id} has no size in a buffer"

/-- The words in which an error is reported. -/
def message (error : ModuleError) : String :=
  s!"{error.kind.text}: {error.detail}"

end ModuleError

end ShaderInterface
