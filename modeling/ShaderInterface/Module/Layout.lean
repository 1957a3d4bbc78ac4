import ShaderInterface.Module.Query

/-!
# Declared sizes

The size of a type in a buffer follows the offsets and strides that decorate it, so padding counts
as the shader sees it. A struct reaches to the end of its last member. Sizes are computed without
wrapping; one that needs more than 32 bits is an error.
-/

namespace ShaderInterface.Module

/-- The size as a word, if it fits in one. -/
def fits (size : Nat) (id : Ident) : Except ModuleError UInt32 :=
  if size < UInt32.size then .ok size.toUInt32 else .error (.sizeTooLarge id)

variable (module : Module)

/-- The number of components of a vector; any other type counts as one. -/
def componentCount (id : Ident) : Except ModuleError UInt32 := do
  match ← module.typeOf id with
  | .vector _ count => return count
  | _ => return 1

section

variable (size : Ident → Except ModuleError UInt32)

/-- The size of a struct member, given the sizes of types. A matrix with a stride is as long as its
rows or columns, whichever are stored one after the other. -/
def memberSizeBy (id : Ident) (member : UInt32) : Except ModuleError UInt32 := do
  let members ← module.structMembers id
  match members[member.toNat]? with
  | none => .error (.noMember id member)
  | some type =>
      match ← module.typeOf type with
      | .matrix column count =>
          match module.memberDecorationValue? id member Decoration.matrixStride with
          | none => size type
          | some stride =>
              let vectors ←
                if module.hasMemberDecoration id member Decoration.rowMajor then
                  module.componentCount column
                else pure count
              fits (stride.toNat * vectors.toNat) type
      | _ => size type

/-- The size of a struct, given the sizes of types. It depends on the last member alone. -/
def structSizeBy (id : Ident) : Except ModuleError UInt32 := do
  let members ← module.structMembers id
  if members.isEmpty then return 0
  let last := (members.length - 1).toUInt32
  let offset := (module.memberDecorationValue? id last Decoration.offset).getD 0
  let lastSize ← module.memberSizeBy size id last
  fits (offset.toNat + lastSize.toNat) id

/-- The distance between the elements of an array, given the sizes of types. -/
def arrayStrideBy (array element : Ident) : Except ModuleError UInt32 :=
  match module.decorationValue? array Decoration.arrayStride with
  | some stride => .ok stride
  | none => size element

/-- The size of a type, given the sizes of the types in it. A pointer is an address, and an array
without a fixed length takes no room. -/
def sizeBy (id : Ident) : Except ModuleError UInt32 := do
  match ← module.typeOf id with
  | .bool => return 4
  | .int width _ => return width / 8
  | .float width => return width / 8
  | .vector component count => fits ((← size component).toNat * count.toNat) id
  | .matrix column count => fits ((← size column).toNat * count.toNat) id
  | .array element _ =>
      let length := (← module.arrayLength id).getD 0
      fits ((← module.arrayStrideBy size id element).toNat * length.toNat) id
  | .runtimeArray _ => return 0
  | .struct _ => module.structSizeBy size id
  | .pointer .. => return 8
  | _ => .error (.unsized id)

end

/-- The size of a type in which types are nested less than `bound` deep. -/
def sizeWithin : Nat → Ident → Except ModuleError UInt32
  | 0, id => .error (.cyclicType id)
  | bound + 1, id => module.sizeBy (sizeWithin bound) id

/-- The size of a type outside of any struct. Types that do not contain themselves are nested no
deeper than there are types. -/
def declaredSize (id : Ident) : Except ModuleError UInt32 :=
  module.sizeWithin (module.types.size + 1) id

/-- The size of a struct: the offset of its last member plus that member's size. -/
def declaredStructSize (id : Ident) : Except ModuleError UInt32 :=
  module.structSizeBy module.declaredSize id

/-- The size of a struct member, padding between rows, columns and elements included. -/
def declaredMemberSize (id : Ident) (member : UInt32) : Except ModuleError UInt32 :=
  module.memberSizeBy module.declaredSize id member

end ShaderInterface.Module
