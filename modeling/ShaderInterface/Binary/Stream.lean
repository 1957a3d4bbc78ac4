import ShaderInterface.Binary.Instruction
import ShaderInterface.Word

/-!
# Decoded modules and who decodes them

A decoded module is what its header says and a sequence of instructions. How words are decoded is
not fixed here: a decoder either returns what the words say or a text that tells why they say
nothing.
-/

namespace ShaderInterface

/-- The version that a module declares. -/
structure Version where
  major : UInt8
  minor : UInt8
  deriving DecidableEq

namespace Version

/-- The version in the second word of a header. -/
def ofWord (word : UInt32) : Version :=
  ⟨Word.byte word 2, Word.byte word 1⟩

instance : ToString Version where
  toString version := s!"{version.major}.{version.minor}"

end Version

/-- A decoded module. Of its header only the version counts. -/
structure Stream where
  versionWord : UInt32
  instructions : List Instruction

/-- The first word of every module. -/
def Stream.magic : UInt32 := 0x07230203

/-- Something that decodes words. -/
structure Decoder where
  decode : List UInt32 → Except String Stream

end ShaderInterface
