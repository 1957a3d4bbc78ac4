import ShaderInterface.Word

/-!
# Dividing words into instructions

Behind the header a module is a sequence of instructions, each as long as the upper half of its
first word announces.
-/

namespace ShaderInterface

/-- The words of one instruction as the module divides them: the first one, which holds the length
and the opcode, and those after it, of which some may be missing. -/
structure Chunk where
  first : UInt32
  rest : List UInt32
  missing : Nat

namespace Chunk

/-- The length in words that the first word announces. -/
def length (chunk : Chunk) : Nat :=
  chunk.first.toNat / 65536

/-- The number of the opcode in the first word. -/
def opcodeNumber (chunk : Chunk) : Nat :=
  chunk.first.toNat % 65536

end Chunk

namespace Stream

/-- Divide words into instructions, leaving out the first `skipped` ones. -/
def chunksAfter : Nat → List UInt32 → List Chunk
  | _, [] => []
  | skipped + 1, _ :: words => chunksAfter skipped words
  | 0, first :: words =>
      let count := first.toNat / 65536 - 1
      let rest := words.take count
      ⟨first, rest, count - rest.length⟩ :: chunksAfter count words

/-- Divide words into instructions. -/
def chunks (words : List UInt32) : List Chunk :=
  chunksAfter 0 words

/-- Skipping words is dropping them. -/
theorem chunksAfter_eq_chunks_drop (skipped : Nat) (words : List UInt32) :
    chunksAfter skipped words = chunks (words.drop skipped) := by
  induction words generalizing skipped with
  | nil => cases skipped <;> rfl
  | cons first rest ih =>
      cases skipped with
      | zero => rfl
      | succ skipped => exact ih skipped

/-- Words as long as the first of them says are divided off. -/
theorem chunks_cons_append {first : UInt32} {words : List UInt32}
    (hlength : first.toNat / 65536 = words.length + 1) (rest : List UInt32) :
    chunks (first :: (words ++ rest)) = ⟨first, words, 0⟩ :: chunks rest := by
  have hcount : first.toNat / 65536 - 1 = words.length := by omega
  simp only [chunks, chunksAfter, hcount, List.take_left, Nat.sub_self]
  rw [chunksAfter_eq_chunks_drop, List.drop_left]
  rfl

end Stream

end ShaderInterface
