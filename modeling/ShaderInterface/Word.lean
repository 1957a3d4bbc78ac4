/-!
# Words and bytes

A module is a sequence of 32-bit words, stored as bytes with the lowest byte of each word first.
Packing and unpacking are inverse to each other on whole words.
-/

namespace ShaderInterface.Word

/-- The word whose bytes are `a`, `b`, `c` and `d`, the lowest first. -/
def ofBytes (a b c d : UInt8) : UInt32 :=
  UInt32.ofNat (a.toNat + 256 * (b.toNat + 256 * (c.toNat + 256 * d.toNat)))

/-- Byte `k` of a word, counted from the lowest. -/
def byte (word : UInt32) (k : Nat) : UInt8 :=
  UInt8.ofNat (word.toNat >>> (8 * k))

/-- The four bytes of a word, the lowest first. -/
def bytes (word : UInt32) : List UInt8 :=
  [byte word 0, byte word 1, byte word 2, byte word 3]

/-- The bytes of a word sequence. -/
def unpack (words : List UInt32) : List UInt8 :=
  words.flatMap bytes

/-- The words of a byte sequence. Bytes that do not fill a last word are completed with zeros. -/
def pack : List UInt8 → List UInt32
  | [] => []
  | [a] => [ofBytes a 0 0 0]
  | [a, b] => [ofBytes a b 0 0]
  | [a, b, c] => [ofBytes a b c 0]
  | a :: b :: c :: d :: rest => ofBytes a b c d :: pack rest

/-- The words of a byte sequence that is a whole number of words long. -/
def pack? (bytes : List UInt8) : Option (List UInt32) :=
  if bytes.length % 4 = 0 then some (pack bytes) else none

@[simp] theorem ofBytes_byte (word : UInt32) :
    ofBytes (byte word 0) (byte word 1) (byte word 2) (byte word 3) = word := by
  have hword := word.toNat_lt
  apply UInt32.toNat_inj.mp
  simp only [ofBytes, byte, UInt32.toNat_ofNat', UInt8.toNat_ofNat']
  omega

@[simp] theorem bytes_ofBytes (a b c d : UInt8) : bytes (ofBytes a b c d) = [a, b, c, d] := by
  have ha := a.toNat_lt
  have hb := b.toNat_lt
  have hc := c.toNat_lt
  have hd := d.toNat_lt
  simp only [bytes, List.cons.injEq, and_true]
  refine ⟨?_, ?_, ?_, ?_⟩ <;>
    · apply UInt8.toNat_inj.mp
      simp only [ofBytes, byte, UInt32.toNat_ofNat', UInt8.toNat_ofNat']
      omega

@[simp] theorem length_unpack (words : List UInt32) : (unpack words).length = 4 * words.length := by
  induction words with
  | nil => rfl
  | cons word rest ih =>
      simp only [unpack, List.flatMap_cons, List.length_append, List.length_cons] at ih ⊢
      simp only [ih, bytes, List.length_cons, List.length_nil]
      omega

@[simp] theorem pack_unpack (words : List UInt32) : pack (unpack words) = words := by
  induction words with
  | nil => rfl
  | cons word rest ih =>
      simp only [unpack, List.flatMap_cons, bytes, List.cons_append, List.nil_append] at ih ⊢
      simp only [pack, ofBytes_byte, ih]

/-- Whole words lose nothing: their bytes are the bytes they were packed from. -/
theorem unpack_pack (data : List UInt8) (hwhole : data.length % 4 = 0) :
    unpack (pack data) = data := by
  fun_induction pack data with
  | case1 => rfl
  | case2 => simp at hwhole
  | case3 => simp at hwhole
  | case4 => simp at hwhole
  | case5 a b c d rest ih =>
      have hrest : rest.length % 4 = 0 := by
        simp only [List.length_cons] at hwhole
        omega
      simp only [unpack, List.flatMap_cons, bytes_ofBytes] at ih ⊢
      simp [ih hrest]

theorem pack?_unpack (words : List UInt32) : pack? (unpack words) = some words := by
  have hwhole : (unpack words).length % 4 = 0 := by
    rw [length_unpack, Nat.mul_mod_right]
  rw [pack?, if_pos hwhole, pack_unpack]

/-- Bytes that are a whole number of words are those of some words. -/
theorem exists_eq_unpack {data : List UInt8} (hwhole : data.length % 4 = 0) :
    ∃ words, data = unpack words ∧ words.length = data.length / 4 := by
  have hdata := unpack_pack data hwhole
  refine ⟨pack data, hdata.symm, ?_⟩
  have hlength := length_unpack (pack data)
  rw [hdata] at hlength
  omega

end ShaderInterface.Word
