import ShaderInterface.Proofs.Correspondence
import ShaderInterface.Proofs.Shapes
import ShaderInterface.Proofs.TypeGraph

/-!
# Layouts of arrays

Whoever asks for the layout of an array of structs is told about the struct. The arrays are gone
after the first question, and nothing that is asked, answered or noted later shows that there were
any. Only the lengths of the arrays have to be known, or that first question has no answer.
-/

namespace ShaderInterface.Module

open Reflecting

variable {module : Module} {id : Ident} {info : TypeInfo}

theorem arrayDims_of_not_array (helement : module.element? id = none) :
    module.arrayDims id = .ok [] := by
  rw [arrayDims, arrayWrappers_of_not_array helement]
  rfl

/-- Types with the same type inside their arrays have the same shape, but for their dimensions. -/
theorem typeInfo_of_elementType_eq {other : Ident} {dims : List (Option UInt32)}
    (hinfo : module.typeInfo id = .ok info) (hdims : module.arrayDims other = .ok dims)
    (hinner : module.elementType other = module.elementType id) :
    module.typeInfo other = .ok { info with array := dims } := by
  obtain ⟨array, -, hinfo⟩ := bind_eq_ok.mp hinfo
  obtain ⟨decl, hdecl, hinfo⟩ := bind_eq_ok.mp hinfo
  rw [typeInfo, hinner]
  refine bind_eq_ok.mpr ⟨dims, hdims, bind_eq_ok.mpr ⟨decl, hdecl, ?_⟩⟩
  cases decl with
  | bool | int | float | vector | matrix =>
      obtain ⟨shape, hshape, hinfo⟩ := bind_eq_ok.mp hinfo
      cases hinfo
      exact bind_eq_ok.mpr ⟨shape, hshape, rfl⟩
  | _ =>
      cases hinfo
      rfl

/-- Laying out arrays of a struct is laying out the struct: it has the same result, fails with the
same error and makes the same notes, whatever arrays there are. This holds of any type whose shape
is known, also of one without a struct inside. -/
theorem layout_elementType (hacyclic : module.ArrayAcyclicFrom id)
    (hinfo : module.typeInfo id = .ok info) (options : ReflectOptions) :
    (module.reflector options).layout (module.elementType id) =
      (module.reflector options).layout id := by
  have houter : (module.reflector options).module.typeInfo id = .ok info :=
    congrArg answer hinfo
  have hinner : (module.reflector options).module.typeInfo (module.elementType id) =
      .ok { info with array := [] } :=
    congrArg answer (typeInfo_of_elementType_eq hinfo
      (arrayDims_of_not_array hacyclic.element?_elementType) hacyclic.elementType_elementType)
  rw [Reflector.layout, Reflector.layout, houter, hinner, ask_ok, ask_ok, pure_bind, pure_bind]

/-- Arrays of arrays, with and without a length, of a struct of two members and of a number. -/
def arrayedStructs : Module where
  types := .ofRows [(1, .float 32), (3, .vector 1 4), (4, .struct [1, 3]), (5, .array 4 2),
    (6, .runtimeArray 5), (7, .array 6 2), (8, .runtimeArray 1)]
  constants := .ofRows [(2, 3)]
  names := .ofRows [(4, "Light"), (7, "Lights")]
  memberDecorations := .ofRows [((4, 1, Decoration.offset), [16])]

theorem layout_elementType_arrayedStructs :
    arrayedStructs.Acyclic ∧ arrayedStructs.elementType 7 = 4 ∧
      arrayedStructs.typeInfo 7 = .ok ⟨.struct, 1, 1, [some 3, none, some 3], 4, none⟩ ∧
      (arrayedStructs.reflector {}).layout 4 = (arrayedStructs.reflector {}).layout 7 ∧
      ((arrayedStructs.reflector {}).layout 7).outcome =
        .ok ⟨[⟨"unnamed", .float, 0, 4, 1⟩, ⟨"unnamed", .vec4, 16, 16, 1⟩], 32⟩ ∧
      (arrayedStructs.reflector {}).layout 1 = (arrayedStructs.reflector {}).layout 8 ∧
      ((arrayedStructs.reflector {}).layout 8).outcome =
        .error (.query "struct %1" "not a struct: %1") := by
  have hacyclic : arrayedStructs.Acyclic := acyclic_of_rows rfl
  have hlights : arrayedStructs.typeInfo 7 =
      .ok ⟨.struct, 1, 1, [some 3, none, some 3], 4, none⟩ := by
    decide +kernel
  have hnumbers : arrayedStructs.typeInfo 8 = .ok ⟨.float32, 1, 1, [none], 1, none⟩ := by
    decide +kernel
  refine ⟨hacyclic, rfl, hlights, ?_, ?_, ?_, ?_⟩
  · exact layout_elementType (hacyclic.arrayAcyclic.arrayAcyclicFrom 7) hlights {}
  · decide +kernel
  · exact layout_elementType (hacyclic.arrayAcyclic.arrayAcyclicFrom 8) hnumbers {}
  · decide +kernel

end ShaderInterface.Module
