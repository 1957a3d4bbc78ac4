import ShaderInterface.Proofs.TextWords

/-!
# Where a text ends in a word stream

The words of a text are its bytes and between one and four zeros. A text without the null character
has no zero byte of its own, so whoever reads up to the first zero has the text, and the next word
after that zero is the first one that is not part of it.
-/

namespace ShaderInterface

namespace Word

theorem unpack_append (words more : List UInt32) :
    unpack (words ++ more) = unpack words ++ unpack more :=
  List.flatMap_append

end Word

namespace Utf8

theorem length_encode (text : String) : (encode text).length = text.utf8ByteSize := by
  rw [encode, Array.length_toList]
  rfl

theorem encode_injective : Function.Injective encode := by
  intro text other hbytes
  have hread := decode_encode other
  rw [← hbytes, decode_encode] at hread
  exact Except.ok.inj hread

end Utf8

namespace Text

/-- The bytes before the first zero. -/
def bytesBeforeZero (words : List UInt32) : List UInt8 :=
  (Word.unpack words).takeWhile (· ≠ 0)

/-- The words after the one that has the first zero byte. -/
def wordsAfterZero (words : List UInt32) : List UInt32 :=
  (words.dropWhile (0 ∉ Word.bytes ·)).tail

variable {text other : String}

theorem length_toWords (text : String) : (toWords text).length = text.utf8ByteSize / 4 + 1 := by
  rw [toWords, Word.length_pack, List.length_append, List.length_singleton, Utf8.length_encode]
  omega

theorem bytesBeforeZero_toWords_append (hnul : NulFree text) (rest : List UInt32) :
    bytesBeforeZero (toWords text ++ rest) = Utf8.encode text := by
  obtain ⟨count, hpos, -, hunpack⟩ := exists_unpack_toWords text
  obtain ⟨more, rfl⟩ := Nat.exists_eq_add_of_le' hpos
  have htext : ∀ byte ∈ Utf8.encode text, decide (byte ≠ 0) = true :=
    fun byte hbyte => decide_eq_true (Utf8.ne_zero_of_mem_encode hnul hbyte)
  rw [bytesBeforeZero, Word.unpack_append, hunpack, List.append_assoc,
    List.takeWhile_append_of_pos htext, List.replicate_succ]
  simp

/-- Behind bytes that are not zero the first zero is the one that was added. -/
theorem wordsAfterZero_pack_append {data : List UInt8} (hdata : ∀ byte ∈ data, byte ≠ 0)
    (rest : List UInt32) : wordsAfterZero (Word.pack (data ++ [0]) ++ rest) = rest := by
  induction data using Word.pack.induct with
  | case1 => simp [Word.pack, wordsAfterZero]
  | case2 a => simp [Word.pack, wordsAfterZero]
  | case3 a b => simp [Word.pack, wordsAfterZero]
  | case4 a b c => simp [Word.pack, wordsAfterZero]
  | case5 a b c d tail ih =>
      have hfirst : 0 ∉ Word.bytes (Word.ofBytes a b c d) := by
        rw [Word.bytes_ofBytes]
        intro hzero
        exact hdata 0 (List.mem_append_left tail hzero) rfl
      have htail := ih fun byte hbyte => hdata byte (by simp [hbyte])
      rw [wordsAfterZero] at htail ⊢
      simp only [List.cons_append, Word.pack, List.dropWhile_cons, hfirst, not_false_eq_true,
        decide_true, if_true, htail]

theorem wordsAfterZero_toWords_append (hnul : NulFree text) (rest : List UInt32) :
    wordsAfterZero (toWords text ++ rest) = rest :=
  wordsAfterZero_pack_append (fun _ hbyte => Utf8.ne_zero_of_mem_encode hnul hbyte) rest

/-- Of two word streams that start with texts and are the same, the texts are the same. -/
theorem eq_of_toWords_append_eq (hnul : NulFree text) (hother : NulFree other)
    {rest rest' : List UInt32} (hwords : toWords text ++ rest = toWords other ++ rest') :
    text = other ∧ rest = rest' := by
  constructor
  · apply Utf8.encode_injective
    rw [← bytesBeforeZero_toWords_append hnul rest, hwords,
      bytesBeforeZero_toWords_append hother rest']
  · rw [← wordsAfterZero_toWords_append hnul rest, hwords,
      wordsAfterZero_toWords_append hother rest']

/-- The words of a text are its bytes and one to four zeros, so a text without the null character
ends at the first zero, whatever words follow it. -/
theorem toWords_endsAtZero (text : String) :
    (toWords text).length = text.utf8ByteSize / 4 + 1 ∧
      (∃ count, 1 ≤ count ∧ count ≤ 4 ∧
        Word.unpack (toWords text) = Utf8.encode text ++ List.replicate count 0) ∧
      (NulFree text → ∀ rest,
        bytesBeforeZero (toWords text ++ rest) = Utf8.encode text ∧
          Utf8.decode (bytesBeforeZero (toWords text ++ rest)) = .ok text ∧
          wordsAfterZero (toWords text ++ rest) = rest) ∧
      (NulFree text → ∀ other rest rest', NulFree other →
        toWords text ++ rest = toWords other ++ rest' → text = other ∧ rest = rest') := by
  refine ⟨length_toWords text, exists_unpack_toWords text, ?_, ?_⟩
  · intro hnul rest
    have hbytes := bytesBeforeZero_toWords_append hnul rest
    refine ⟨hbytes, ?_, wordsAfterZero_toWords_append hnul rest⟩
    rw [hbytes, Utf8.decode_encode]
  · intro hnul other rest rest' hother hwords
    exact eq_of_toWords_append_eq hnul hother hwords

/-- Four bytes of two characters fill a word, so the zeros have a word of their own. -/
theorem toWords_endsAtZero_fullWord :
    NulFree "a€" ∧ NulFree "a" ∧ (toWords "a€").length = 2 ∧
      Word.unpack (toWords "a€") = [0x61, 0xE2, 0x82, 0xAC, 0, 0, 0, 0] ∧
      bytesBeforeZero (toWords "a€" ++ [7, 0]) = [0x61, 0xE2, 0x82, 0xAC] ∧
      wordsAfterZero (toWords "a€" ++ [7, 0]) = [7, 0] ∧
      ∀ rest rest', toWords "a€" ++ rest ≠ toWords "a" ++ rest' := by
  have hnul : NulFree "a€" := by
    unfold NulFree
    decide
  have hshort : NulFree "a" := by
    unfold NulFree
    decide
  obtain ⟨hlength, -, hreads, hinjective⟩ := toWords_endsAtZero "a€"
  obtain ⟨hbytes, -, hrest⟩ := hreads hnul [7, 0]
  refine ⟨hnul, hshort, hlength, by decide +kernel, ?_, hrest, ?_⟩
  · rw [hbytes]
    decide +kernel
  · intro rest rest' hwords
    have hsame := (hinjective hnul "a" rest rest' hshort hwords).1
    simp at hsame

end Text

end ShaderInterface
