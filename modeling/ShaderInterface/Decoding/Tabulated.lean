import ShaderInterface.Binary.Stream
import ShaderInterface.Decoding.Decode

/-!
# A decoder with tables

Words are divided into instructions first; each is then decoded with what the ones before it say
about number types. The decoder knows the instructions and values of its tables and no others.
-/

namespace ShaderInterface

namespace Stream

/-- The magic number of a module whose bytes are in the other order. -/
def reversedMagic : UInt32 := 0x03022307

/-- The number of words in a header. -/
def headerLength : Nat := 5

/-- Decode instructions in order, the first of which is number `index` and starts at `offset`. -/
def decodeChunks (forms : NumberForms) (index offset : Nat) :
    List Chunk → Except Fault (List Instruction)
  | [] => .ok []
  | chunk :: rest => do
      let inst ← chunk.decode ⟨index, forms⟩ offset
      let insts ← decodeChunks (forms.record inst) (index + 1) (offset + 4 * chunk.length) rest
      return inst :: insts

/-- Decode a module. The header must be whole before its first word is looked at; of its words
only the magic number and the version count. -/
def ofWords : List UInt32 → Except Fault Stream
  | first :: version :: _ :: _ :: _ :: body =>
      if first = reversedMagic then .error .reversedBytes
      else if first ≠ magic then .error .wrongMagic
      else do
        let instructions ← decodeChunks .empty 1 (4 * headerLength) (chunks body)
        return ⟨version, instructions⟩
  | words => .error (.headerIncomplete (4 * words.length))

end Stream

/-- The decoder that knows what its tables hold. -/
def Decoder.tabulated : Decoder where
  decode words := (Stream.ofWords words).mapError Fault.message

end ShaderInterface
