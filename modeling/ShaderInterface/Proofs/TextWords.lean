import ShaderInterface.Binary.Text

/-!
# The words of a text

A text is written as its bytes, followed by one to four zeros that fill the last word. The bytes of
a text without the null character are not zero, so the zeros are not part of it.
-/

namespace ShaderInterface

/-- The null character, which ends a string in a word stream, is not in the text. -/
def Text.NulFree (text : String) : Prop :=
  Char.ofNat 0 ∉ text.toList

namespace Utf8

theorem encode_eq_flatMap (text : String) :
    encode text = text.toList.flatMap String.utf8EncodeChar := by
  have hbytes : text.toUTF8 = (text.toList.flatMap String.utf8EncodeChar).toByteArray := by
    rw [String.toUTF8_eq_toByteArray, ← String.utf8Encode_toList, List.utf8Encode]
  rw [encode, hbytes, List.data_toByteArray]

theorem ne_zero_of_mem_utf8EncodeChar {char : Char} {byte : UInt8} (hchar : char ≠ Char.ofNat 0)
    (hbyte : byte ∈ String.utf8EncodeChar char) : byte ≠ 0 := by
  have hval : char.val.toNat ≠ 0 := by
    intro hzero
    exact hchar (Char.ext (UInt32.toNat_inj.mp hzero))
  -- every byte is a number between 1 and 255
  have hbound : ∃ n, 0 < n ∧ n < 256 ∧ byte = UInt8.ofNat n := by
    unfold String.utf8EncodeChar at hbyte
    dsimp only at hbyte
    split at hbyte
    next hshort =>
      exact ⟨_, Nat.pos_of_ne_zero hval, by omega, List.mem_singleton.mp hbyte⟩
    next =>
      split at hbyte
      all_goals try split at hbyte
      all_goals
        simp only [List.mem_cons, List.not_mem_nil, or_false] at hbyte
        rcases hbyte with rfl | rfl | rfl | rfl <;> exact ⟨_, by omega, by omega, rfl⟩
  obtain ⟨n, hpos, hlt, rfl⟩ := hbound
  intro hzero
  have hmod := congrArg UInt8.toNat hzero
  rw [UInt8.toNat_ofNat_of_lt' hlt] at hmod
  exact absurd hmod (by simpa using Nat.ne_of_gt hpos)

theorem ne_zero_of_mem_encode {text : String} (hnul : Text.NulFree text) {byte : UInt8}
    (hbyte : byte ∈ encode text) : byte ≠ 0 := by
  rw [encode_eq_flatMap] at hbyte
  obtain ⟨char, hchar, hbyte⟩ := List.mem_flatMap.mp hbyte
  refine ne_zero_of_mem_utf8EncodeChar ?_ hbyte
  rintro rfl
  exact hnul hchar

end Utf8

namespace Word

theorem length_pack (data : List UInt8) : (pack data).length = (data.length + 3) / 4 := by
  fun_induction pack data with
  | case5 a b c d rest ih =>
      simp only [List.length_cons, ih]
      omega
  | _ => simp

/-- Packing adds zeros, which unpacking keeps. -/
theorem unpack_pack_eq_append (data : List UInt8) :
    ∃ count, unpack (pack data) = data ++ List.replicate count 0 := by
  fun_induction pack data with
  | case1 => exact ⟨0, rfl⟩
  | case2 a => exact ⟨3, by simp [unpack, List.replicate]⟩
  | case3 a b => exact ⟨2, by simp [unpack, List.replicate]⟩
  | case4 a b c => exact ⟨1, by simp [unpack, List.replicate]⟩
  | case5 a b c d rest ih =>
      obtain ⟨count, hcount⟩ := ih
      refine ⟨count, ?_⟩
      simp only [unpack, List.flatMap_cons, bytes_ofBytes] at hcount ⊢
      simp [hcount]

end Word

namespace Text

/-- A text ends with a zero, and with as many more as its last word has room for. -/
theorem exists_unpack_toWords (text : String) : ∃ count, 1 ≤ count ∧ count ≤ 4 ∧
    Word.unpack (toWords text) = Utf8.encode text ++ List.replicate count 0 := by
  obtain ⟨count, hunpack⟩ := Word.unpack_pack_eq_append (Utf8.encode text ++ [0])
  have hlength := congrArg List.length hunpack
  simp only [Word.length_unpack, Word.length_pack, List.length_append, List.length_singleton,
    List.length_replicate] at hlength
  refine ⟨count + 1, by omega, by omega, ?_⟩
  rw [toWords, hunpack, List.append_assoc]
  rfl

/-- Bytes and zeros that are whole words are those of the text. -/
theorem eq_toWords_of_unpack {text : String} {words : List UInt32} {zeros : Nat} (hpos : 1 ≤ zeros)
    (hle : zeros ≤ 4) (hwords : Word.unpack words = Utf8.encode text ++ List.replicate zeros 0) :
    words = toWords text := by
  obtain ⟨count, hcountPos, hcountLe, hunpack⟩ := exists_unpack_toWords text
  have hsame : zeros = count := by
    have hlength := congrArg List.length hwords
    have hlengthText := congrArg List.length hunpack
    simp only [Word.length_unpack, List.length_append, List.length_replicate]
      at hlength hlengthText
    omega
  subst hsame
  rw [← Word.pack_unpack words, hwords, ← hunpack, Word.pack_unpack]

end Text

end ShaderInterface
