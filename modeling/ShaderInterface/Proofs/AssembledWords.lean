import Mathlib.Data.List.Forall2
import ShaderInterface.Binary.Chunk
import ShaderInterface.Proofs.AssembledIdentifiers

/-!
# The words of an assembled module

What is assembled is a header and the words of the instructions that were asked for, section by
section. Whoever divides the words by the lengths in front of the instructions finds exactly these
instructions. The identifiers that were handed out are all different and below the bound in the
header.
-/

namespace ShaderInterface

/-- The words of a chunk are those of the instruction, and none are missing. -/
structure Chunk.Holds (chunk : Chunk) (inst : Instruction) : Prop where
  opcode : chunk.opcodeNumber = inst.opcode.number
  length : chunk.length = chunk.rest.length + 1
  operands : chunk.rest = inst.raw.operands
  whole : chunk.missing = 0

namespace RawInstruction

/-- The instruction as a stream divides it. -/
def chunk (raw : RawInstruction) : Chunk :=
  ⟨UInt32.ofNat ((raw.operands.length + 1) * 65536 + raw.opcode.number), raw.operands, 0⟩

theorem holds_chunk {inst : Instruction} (hshort : inst.raw.Short) :
    inst.raw.chunk.Holds inst where
  opcode := first_mod hshort
  length := first_div hshort
  operands := rfl
  whole := rfl

end RawInstruction

/-- Short instructions are divided as they were put together. -/
theorem Stream.chunks_words {raws : List RawInstruction} (hshort : ∀ raw ∈ raws, raw.Short) :
    chunks (raws.flatMap RawInstruction.words) = raws.map RawInstruction.chunk := by
  induction raws with
  | nil => rfl
  | cons raw rest ih =>
      have hfirst := RawInstruction.first_div (hshort raw List.mem_cons_self)
      rw [List.flatMap_cons, List.map_cons,
        ← ih fun later hlater => hshort later (List.mem_cons_of_mem _ hlater)]
      exact chunks_cons_append hfirst _

namespace Assembler

/-- The words behind the header are divided into the instructions that the calls stand for, and no
words are left over. -/
theorem chunks_instructions {steps : List AssemblerStep}
    (hshort : ∀ inst ∈ (new.run steps).instructions, inst.Short) :
    List.Forall₂ Chunk.Holds
        (Stream.chunks ((new.run steps).instructions.flatMap RawInstruction.words))
        (decoded (new.calls steps)) ∧
      (Stream.chunks ((new.run steps).instructions.flatMap RawInstruction.words)).flatMap
          (fun chunk => chunk.first :: chunk.rest) =
        (new.run steps).instructions.flatMap RawInstruction.words := by
  rw [Stream.chunks_words hshort]
  constructor
  · rw [instructions_run] at hshort ⊢
    rw [List.map_map, List.forall₂_map_left_iff, List.forall₂_same]
    intro inst hinst
    exact RawInstruction.holds_chunk (hshort _ (List.mem_map_of_mem hinst))
  · rw [List.flatMap_map]
    rfl

/-- The header of an assembled module bounds the identifiers that were handed out, which are all
different. Behind it the lengths of the instructions divide the words into what the calls stand for:
the capability and the memory model, the entry points, names and decorations, types, constants and
variables, and function bodies, each in the order of the calls. -/
theorem assemble_divided {steps : List AssemblerStep} (hfew : idCount steps < 4294967295)
    (hshort : ∀ inst ∈ (new.run steps).instructions, inst.Short) :
    ∃ bound body, (new.run steps).assemble = [Stream.magic, versionWord, 0, bound, 0] ++ body ∧
      (answers steps).Nodup ∧ (∀ id ∈ answers steps, 0 < id ∧ id < bound) ∧
      List.Forall₂ Chunk.Holds (Stream.chunks body)
        (header ++ (new.calls steps).flatMap AssemblerCall.preamble ++
          (new.calls steps).flatMap AssemblerCall.annotations ++
          (new.calls steps).flatMap AssemblerCall.globals ++
          (new.calls steps).flatMap AssemblerCall.functions) ∧
      (Stream.chunks body).flatMap (fun chunk => chunk.first :: chunk.rest) = body := by
  obtain ⟨hascending, hbelow⟩ := answers_ascending hfew
  refine ⟨(new.run steps).nextId, _, rfl, ?_, hbelow, chunks_instructions hshort⟩
  exact hascending.imp UInt32.ne_of_lt

/-- Names, a function with its entry point and an unused identifier, asked for out of order. -/
def interleaved : List AssemblerStep :=
  [.name 4 "main", .typeFloat 32, .function, .allocId,
    .entryPoint ExecutionModel.vertex 4 "main" [], .typeVector 1 4, .decorate 6 Decoration.block []]

theorem assemble_divided_interleaved : idCount interleaved < 4294967295 ∧
    (∀ inst ∈ (new.run interleaved).instructions, inst.Short) ∧
    answers interleaved = [1, 4, 6, 7] ∧
    (Stream.chunks ((new.run interleaved).assemble.drop 5)).map Chunk.opcodeNumber =
      [17, 14, 15, 5, 71, 22, 19, 33, 23, 54, 248, 253, 56] ∧
    ∃ bound body, (new.run interleaved).assemble =
        [Stream.magic, versionWord, 0, bound, 0] ++ body ∧
      (answers interleaved).Nodup ∧ (∀ id ∈ answers interleaved, 0 < id ∧ id < bound) ∧
      List.Forall₂ Chunk.Holds (Stream.chunks body) (decoded (new.calls interleaved)) ∧
      (Stream.chunks body).flatMap (fun chunk => chunk.first :: chunk.rest) = body := by
  have hfew : idCount interleaved < 4294967295 := by decide
  have hshort : ∀ inst ∈ (new.run interleaved).instructions, inst.Short := by
    unfold RawInstruction.Short
    decide +kernel
  exact ⟨hfew, hshort, by decide, by decide +kernel, assemble_divided hfew hshort⟩

end Assembler

end ShaderInterface
