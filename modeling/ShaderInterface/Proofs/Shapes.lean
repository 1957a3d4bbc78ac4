import ShaderInterface.Introspection.OfModule
import ShaderInterface.Proofs.Except

/-!
# Shapes

A shape is the shape of what is inside all arrays, and it is that of a struct only if a struct is
declared there. The base type of a resource is found inside the same arrays. This holds of all that
a module gives, whatever else is in the module.
-/

namespace ShaderInterface

namespace BaseType

theorem ofInt_ne_struct (width : UInt32) (signed : Bool) : ofInt width signed ≠ .struct := by
  unfold ofInt
  split <;> simp

theorem ofFloat_ne_struct (width : UInt32) : ofFloat width ≠ .struct := by
  unfold ofFloat
  split <;> simp

end BaseType

namespace Module

variable {module : Module} {id : Ident}

theorem type?_of_requiredType {decl : TypeDecl} (hdecl : module.requiredType id = .ok decl) :
    module.type? id = some decl := by
  unfold requiredType at hdecl
  split at hdecl
  next found htype =>
    cases hdecl
    exact htype
  next => simp at hdecl

theorem requiredType_of_type? {decl : TypeDecl} (htype : module.type? id = some decl) :
    module.requiredType id = .ok decl := by
  simp only [requiredType, htype]

theorem ne_struct_of_scalarBase {base : BaseType} (hbase : module.scalarBase id = .ok base) :
    base ≠ .struct := by
  obtain ⟨decl, -, hbase⟩ := bind_eq_ok.mp hbase
  cases decl with
  | int width signed =>
      cases hbase
      exact BaseType.ofInt_ne_struct width signed
  | float width =>
      cases hbase
      exact BaseType.ofFloat_ne_struct width
  | _ =>
      cases hbase
      simp

theorem ne_struct_of_vectorShape {shape : BaseType × UInt32}
    (hshape : module.vectorShape id = .ok shape) : shape.1 ≠ .struct := by
  obtain ⟨decl, -, hshape⟩ := bind_eq_ok.mp hshape
  cases decl with
  | _ =>
      obtain ⟨base, hbase, hshape⟩ := bind_eq_ok.mp hshape
      cases hshape
      exact ne_struct_of_scalarBase hbase

/-- A shape looks through the same arrays as a resource, and is that of a struct only if there is
a struct inside them. -/
theorem of_typeInfo {info : TypeInfo} (hinfo : module.typeInfo id = .ok info) :
    info.baseTypeId = module.elementType id ∧
      (info.base = .struct →
        ∃ members, module.type? (module.elementType id) = some (.struct members)) := by
  obtain ⟨array, -, hinfo⟩ := bind_eq_ok.mp hinfo
  obtain ⟨decl, hdecl, hinfo⟩ := bind_eq_ok.mp hinfo
  have htype := type?_of_requiredType hdecl
  cases decl with
  | bool | int | float | vector =>
      obtain ⟨base, hbase, hinfo⟩ := bind_eq_ok.mp hinfo
      cases hinfo
      exact ⟨rfl, fun hstruct => absurd hstruct (ne_struct_of_scalarBase hbase)⟩
  | matrix =>
      obtain ⟨shape, hshape, hinfo⟩ := bind_eq_ok.mp hinfo
      cases hinfo
      exact ⟨rfl, fun hstruct => absurd hstruct (ne_struct_of_vectorShape hshape)⟩
  | struct members =>
      cases hinfo
      exact ⟨rfl, fun _ => ⟨members, htype⟩⟩
  | _ =>
      cases hinfo
      exact ⟨rfl, by simp⟩

theorem typeIds_of_resource? {kind : ResourceKind} {var : Variable} {type : Ident}
    {resource : Resource} (hfound : module.resource? kind var type = some resource) :
    resource.typeId = type ∧ resource.baseTypeId = module.elementType type := by
  simp only [resource?] at hfound
  split at hfound
  next =>
    cases hfound
    exact ⟨rfl, rfl⟩
  next => simp at hfound

/-- What is inside the arrays of a resource is known from its type. -/
theorem baseTypeId_of_mem_resources {kind : ResourceKind} {resources : List Resource}
    {resource : Resource} (hresources : module.resources kind = .ok resources)
    (hmem : resource ∈ resources) :
    resource.baseTypeId = module.elementType resource.typeId := by
  obtain ⟨placed, -, hresources⟩ := bind_eq_ok.mp hresources
  cases hresources
  obtain ⟨⟨var, type⟩, -, hfound⟩ := List.mem_filterMap.mp hmem
  obtain ⟨htypeId, hbaseTypeId⟩ := typeIds_of_resource? hfound
  rw [hbaseTypeId, htypeId]

end Module

end ShaderInterface
