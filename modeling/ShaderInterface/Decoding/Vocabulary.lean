import ShaderInterface.Binary.Grammar

/-!
# The values that the tabulated decoder knows

Tables of the values of each vocabulary and of the operands that some of them are followed by: a
binding decoration by the binding number, an aligned memory access by the alignment.
-/

namespace ShaderInterface

namespace Enumeration

/-- The known numbers of a vocabulary as inclusive ranges in ascending order. -/
def ranges : Enumeration → List (Nat × Nat)
  | .capability =>
      [(0, 15), (17, 25), (27, 68), (4423, 4423), (4427, 4427), (4431, 4431), (4433, 4437),
        (4439, 4439), (4441, 4442), (4445, 4445), (4447, 4450), (4464, 4468), (5008, 5010),
        (5013, 5013), (5015, 5015), (5249, 5249), (5251, 5251), (5254, 5255), (5259, 5260),
        (5265, 5266), (5282, 5282), (5284, 5284), (5288, 5288), (5291, 5291), (5297, 5297),
        (5301, 5312), (5340, 5340), (5345, 5347), (5350, 5350), (5357, 5357), (5568, 5570),
        (5579, 5579), (5696, 5698)]
  | .sourceLanguage => [(0, 5)]
  | .executionModel => [(0, 6), (5267, 5268), (5313, 5318)]
  | .addressingModel => [(0, 2), (5348, 5348)]
  | .memoryModel => [(0, 3)]
  | .executionMode =>
      [(0, 12), (14, 31), (33, 39), (4446, 4446), (4459, 4463), (5027, 5027), (5269, 5270),
        (5289, 5290), (5298, 5298)]
  | .storageClass =>
      [(0, 12), (5328, 5329), (5338, 5339), (5342, 5343), (5349, 5349)]
  | .dim => [(0, 6)]
  | .imageFormat => [(0, 39)]
  | .accessQualifier => [(0, 2)]
  | .linkageType => [(0, 1)]
  | .functionParameterAttribute => [(0, 7)]
  | .fpRoundingMode => [(0, 3)]
  | .decoration =>
      [(0, 11), (13, 47), (4469, 4470), (4999, 4999), (5248, 5248), (5250, 5250), (5252, 5252),
        (5256, 5256), (5271, 5273), (5285, 5285), (5300, 5300), (5355, 5356), (5634, 5635)]
  | .builtIn =>
      [(0, 1), (3, 20), (22, 34), (36, 43), (4416, 4420), (4424, 4426), (4438, 4438),
        (4440, 4440), (4992, 4998), (5014, 5014), (5253, 5253), (5257, 5258), (5261, 5262),
        (5264, 5264), (5274, 5281), (5286, 5287), (5292, 5293), (5319, 5327), (5330, 5333),
        (5351, 5351)]
  | .memoryAccess => [(0, 63)]
  | .functionControl => [(0, 15)]
  | .fpFastMathMode => [(0, 31)]

/-- The vocabulary has a value with this number. -/
def knows (enumeration : Enumeration) (number : UInt32) : Bool :=
  enumeration.ranges.any fun (low, high) => low ≤ number.toNat && number.toNat ≤ high

/-- The parameters of a decoration. -/
def decorationParameters (number : Nat) : List OperandKind :=
  match number with
  | 1 | 6 | 7 | 29 | 30 | 31 | 32 | 33 | 34 | 35 | 36 | 37 | 43 | 44 | 45 | 5256 => [.literal]
  | 27 | 46 | 47 | 5634 => [.id]
  | 11 => [.enumerant .builtIn]
  | 38 => [.enumerant .functionParameterAttribute]
  | 39 => [.enumerant .fpRoundingMode]
  | 40 => [.enumerant .fpFastMathMode]
  | 41 => [.text, .enumerant .linkageType]
  | 5635 => [.text]
  | _ => []

/-- The parameters of an execution mode. -/
def executionModeParameters (number : Nat) : List OperandKind :=
  match number with
  | 0 | 26 | 30 | 35 | 36 | 4459 | 4460 | 4461 | 4462 | 4463 | 5270 => [.literal]
  | 17 | 18 => [.literal, .literal, .literal]
  | 37 | 39 => [.id]
  | 38 => [.id, .id, .id]
  | _ => []

/-- The parameters of a set of memory access flags: an alignment, and the scopes in which a
written object becomes available and a read one visible. -/
def memoryAccessParameters (flags : Nat) : List OperandKind :=
  (if flags.testBit 1 then [.literal] else []) ++
    (if flags.testBit 3 then [.id] else []) ++ (if flags.testBit 4 then [.id] else [])

/-- The parameters that follow a value of the vocabulary. Parameters have none themselves. -/
def parameters (enumeration : Enumeration) (number : UInt32) : List OperandKind :=
  match enumeration with
  | .decoration => decorationParameters number.toNat
  | .executionMode => executionModeParameters number.toNat
  | .memoryAccess => memoryAccessParameters number.toNat
  | _ => []

theorem parameters_eq_nil {enumeration : Enumeration} (hnone : enumeration.hasParameters = false)
    (number : UInt32) : enumeration.parameters number = [] := by
  cases enumeration <;> first | rfl | cases hnone

end Enumeration

namespace Enumerant

variable {enumeration : Enumeration}

/-- The value with the given number, if the vocabulary knows it. -/
def ofNumber? (enumeration : Enumeration) (number : UInt32) : Option (Enumerant enumeration) :=
  if enumeration.knows number then some ⟨number⟩ else none

/-- Every value of the vocabulary, in ascending order. -/
def all (enumeration : Enumeration) : List (Enumerant enumeration) :=
  enumeration.ranges.flatMap fun (low, high) =>
    (List.range' low (high + 1 - low)).filterMap fun number => ofNumber? enumeration number.toUInt32

theorem ofNumber?_number {value : Enumerant enumeration}
    (hknown : enumeration.knows value.number = true) :
    ofNumber? enumeration value.number = some value := by
  rw [ofNumber?, if_pos hknown]

end Enumerant

end ShaderInterface
