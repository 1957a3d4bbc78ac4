import ShaderInterface.Binary.Enumerant

/-!
# Data types and stages

The interface of a shader is described in the words of a shading language: a base type and a shape
become a data type such as `vec4`, an execution model becomes a stage of the pipeline. Shapes and
models without such a word stay unnamed.
-/

namespace ShaderInterface

/-- What is left of a type without its arrays, rows and columns. -/
inductive BaseType where
  | unknown
  | void
  | bool
  | int8
  | uint8
  | int16
  | uint16
  | int32
  | uint32
  | int64
  | uint64
  | float16
  | float32
  | float64
  | struct
  | image
  | sampledImage
  | sampler
  deriving DecidableEq

namespace BaseType

/-- The integers of the given width and signedness. -/
def ofInt (width : UInt32) (signed : Bool) : BaseType :=
  match width.toNat, signed with
  | 8, true => .int8
  | 8, false => .uint8
  | 16, true => .int16
  | 16, false => .uint16
  | 32, true => .int32
  | 32, false => .uint32
  | 64, true => .int64
  | 64, false => .uint64
  | _, _ => .unknown

/-- The floating-point numbers of the given width. -/
def ofFloat (width : UInt32) : BaseType :=
  match width.toNat with
  | 16 => .float16
  | 32 => .float32
  | 64 => .float64
  | _ => .unknown

end BaseType

/-- The types for which a shading language has a word. -/
inductive DataType where
  | unknown
  | float
  | vec2
  | vec3
  | vec4
  | int
  | ivec2
  | ivec3
  | ivec4
  | uint
  | uvec2
  | uvec3
  | uvec4
  | bool
  | mat2
  | mat3
  | mat4
  deriving DecidableEq

namespace DataType

/-- The word for a data type. -/
def text : DataType → String
  | .unknown => "unknown"
  | .float => "float"
  | .vec2 => "vec2"
  | .vec3 => "vec3"
  | .vec4 => "vec4"
  | .int => "int"
  | .ivec2 => "ivec2"
  | .ivec3 => "ivec3"
  | .ivec4 => "ivec4"
  | .uint => "uint"
  | .uvec2 => "uvec2"
  | .uvec3 => "uvec3"
  | .uvec4 => "uvec4"
  | .bool => "bool"
  | .mat2 => "mat2"
  | .mat3 => "mat3"
  | .mat4 => "mat4"

/-- The data type of a scalar or of a vector with `width` components. -/
def ofVector (base : BaseType) (width : UInt32) : DataType :=
  match base, width.toNat with
  | .float32, 1 => .float
  | .float32, 2 => .vec2
  | .float32, 3 => .vec3
  | .float32, 4 => .vec4
  | .int32, 1 => .int
  | .int32, 2 => .ivec2
  | .int32, 3 => .ivec3
  | .int32, 4 => .ivec4
  | .uint32, 1 => .uint
  | .uint32, 2 => .uvec2
  | .uint32, 3 => .uvec3
  | .uint32, 4 => .uvec4
  | .bool, 1 => .bool
  | _, _ => .unknown

/-- The data type of a square matrix, if there is a word for it. -/
def ofSquare? (base : BaseType) (size : UInt32) : Option DataType :=
  match base, size.toNat with
  | .float32, 2 => some .mat2
  | .float32, 3 => some .mat3
  | .float32, 4 => some .mat4
  | _, _ => none

/-- The data type of a shape: `width` components in each of `columns` columns, both 1 for a scalar.
A matrix for which there is no word is described by its column. -/
def classify (base : BaseType) (width columns : UInt32) : DataType :=
  if width = columns then (ofSquare? base columns).getD (ofVector base width)
  else ofVector base width

end DataType

/-- The stages of the graphics and compute pipelines. -/
inductive Stage where
  | vertex
  | tessControl
  | tessEval
  | geometry
  | fragment
  | compute
  deriving DecidableEq

namespace Stage

/-- The words for a stage. -/
def text : Stage → String
  | .vertex => "vertex"
  | .tessControl => "tessellation control"
  | .tessEval => "tessellation evaluation"
  | .geometry => "geometry"
  | .fragment => "fragment"
  | .compute => "compute"

/-- The stage that an execution model belongs to, if it is one of these pipelines. -/
def ofModel? (model : ExecutionModel) : Option Stage :=
  match model.number.toNat with
  | 0 => some .vertex
  | 1 => some .tessControl
  | 2 => some .tessEval
  | 3 => some .geometry
  | 4 => some .fragment
  | 5 => some .compute
  | _ => none

end Stage

end ShaderInterface
