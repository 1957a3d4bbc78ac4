import ShaderInterface.Binary.Grammar

/-!
# The instructions that the tabulated decoder knows

The decoder finds the operands of an instruction in a table, under the number of its opcode: those
that have names, and others that occur in the functions and debug sections of modules.
-/

namespace ShaderInterface

/-- An opcode and the operands that follow it, in order. -/
structure OpcodeEntry where
  opcode : Opcode
  operands : List OperandSpec

namespace OpcodeEntry

/-- The opcodes that have names. -/
def named : List OpcodeEntry :=
  Opcode.named.filterMap fun op => op.operands?.map fun operands => ⟨op, operands⟩

/-- Opcodes without names. -/
def others : List OpcodeEntry :=
  [⟨.other 0 "OpNop" (by decide), []⟩,
    ⟨.other 1 "OpUndef" (by decide), [.one .resultType, .one .result]⟩,
    ⟨.other 2 "OpSourceContinued" (by decide), [.one .text]⟩,
    ⟨.other 3 "OpSource" (by decide),
      [.one (.enumerant .sourceLanguage), .one .literal, .optional .id, .optional .text]⟩,
    ⟨.other 4 "OpSourceExtension" (by decide), [.one .text]⟩,
    ⟨.other 7 "OpString" (by decide), [.one .result, .one .text]⟩,
    ⟨.other 8 "OpLine" (by decide), [.one .id, .one .literal, .one .literal]⟩,
    ⟨.other 10 "OpExtension" (by decide), [.one .text]⟩,
    ⟨.other 11 "OpExtInstImport" (by decide), [.one .result, .one .text]⟩,
    ⟨.other 12 "OpExtInst" (by decide),
      [.one .resultType, .one .result, .one .id, .one .extInst, .repeated .id]⟩,
    ⟨.other 16 "OpExecutionMode" (by decide), [.one .id, .one (.enumerant .executionMode)]⟩,
    ⟨.other 41 "OpConstantTrue" (by decide), [.one .resultType, .one .result]⟩,
    ⟨.other 42 "OpConstantFalse" (by decide), [.one .resultType, .one .result]⟩,
    ⟨.other 44 "OpConstantComposite" (by decide), [.one .resultType, .one .result, .repeated .id]⟩,
    ⟨.other 46 "OpConstantNull" (by decide), [.one .resultType, .one .result]⟩,
    ⟨.other 51 "OpSpecConstantComposite" (by decide),
      [.one .resultType, .one .result, .repeated .id]⟩,
    ⟨.other 52 "OpSpecConstantOp" (by decide), [.one .resultType, .one .result, .one .specOp]⟩,
    ⟨.other 55 "OpFunctionParameter" (by decide), [.one .resultType, .one .result]⟩,
    ⟨.other 57 "OpFunctionCall" (by decide),
      [.one .resultType, .one .result, .one .id, .repeated .id]⟩,
    ⟨.other 61 "OpLoad" (by decide),
      [.one .resultType, .one .result, .one .id, .optional (.enumerant .memoryAccess)]⟩,
    ⟨.other 62 "OpStore" (by decide), [.one .id, .one .id, .optional (.enumerant .memoryAccess)]⟩,
    ⟨.other 65 "OpAccessChain" (by decide),
      [.one .resultType, .one .result, .one .id, .repeated .id]⟩,
    ⟨.other 73 "OpDecorationGroup" (by decide), [.one .result]⟩,
    ⟨.other 74 "OpGroupDecorate" (by decide), [.one .id, .repeated .id]⟩,
    ⟨.other 75 "OpGroupMemberDecorate" (by decide), [.one .id, .repeated .idLiteralPair]⟩,
    ⟨.other 128 "OpIAdd" (by decide), [.one .resultType, .one .result, .one .id, .one .id]⟩,
    ⟨.other 132 "OpIMul" (by decide), [.one .resultType, .one .result, .one .id, .one .id]⟩,
    ⟨.other 249 "OpBranch" (by decide), [.one .id]⟩,
    ⟨.other 317 "OpNoLine" (by decide), []⟩,
    ⟨.other 322 "OpTypePipeStorage" (by decide), [.one .result]⟩,
    ⟨.other 327 "OpTypeNamedBarrier" (by decide), [.one .result]⟩,
    ⟨.other 330 "OpModuleProcessed" (by decide), [.one .text]⟩,
    ⟨.other 332 "OpDecorateId" (by decide), [.one .id, .one (.enumerant .decoration)]⟩,
    ⟨.other 5632 "OpDecorateString" (by decide), [.one .id, .one (.enumerant .decoration)]⟩,
    ⟨.other 5633 "OpMemberDecorateString" (by decide),
      [.one .id, .one .literal, .one (.enumerant .decoration)]⟩]

/-- The entry of the opcode with the given number, if it is in the table. -/
def find? (number : Nat) : Option OpcodeEntry :=
  (named ++ others).find? (·.opcode.number = number)

/-- How many references the operands name, each counted once however often it may occur. -/
def referenceCount (entry : OpcodeEntry) : Nat :=
  entry.operands.countP (·.kind = .id)

/-- Whatever has a name is in the table. -/
theorem find?_number {op : Opcode} {operands : List OperandSpec}
    (hoperands : op.operands? = some operands) : find? op.number = some ⟨op, operands⟩ := by
  cases op with
  | other => cases hoperands
  | _ =>
      cases hoperands
      rfl

end OpcodeEntry

end ShaderInterface
