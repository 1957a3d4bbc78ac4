import ShaderInterface.Module.Collect
import ShaderInterface.Proofs.Except

/-!
# What instructions declare

Every instruction declares at most one fact about a module, which can be read off its opcode, its
result and its operands. Adding an instruction to a module records this fact and nothing else.
-/

namespace ShaderInterface

/-- Something that a single instruction declares. -/
inductive Fact where
  | entryPoint (entry : EntryPoint)
  | type (id : Ident) (decl : TypeDecl)
  | constant (id : Ident) (value : UInt64)
  | var (var : Variable)
  | name (id : Ident) (text : String)
  | memberName (id : Ident) (member : UInt32) (text : String)
  | decoration (id : Ident) (decoration : Decoration) (params : List UInt32)
  | memberDecoration (id : Ident) (member : UInt32) (decoration : Decoration)
      (params : List UInt32)

/-- The opcode declares a type under its result. -/
def Opcode.declaresType (op : Opcode) : Bool :=
  19 ≤ op.number && op.number ≤ 38

/-- All opcodes that declare types have names. -/
@[simp] theorem Opcode.declaresType_other (number : UInt16) (mnemonic : String)
    (hother : number.toNat ∉ Opcode.namedNumbers) :
    (Opcode.other number mnemonic hother).declaresType = false := by
  apply Bool.eq_false_iff.mpr
  intro htype
  obtain ⟨hlow, hhigh⟩ : 19 ≤ number.toNat ∧ number.toNat ≤ 38 := by
    simp only [declaresType, Bool.and_eq_true, decide_eq_true_eq] at htype
    exact htype
  simp only [namedNumbers, List.mem_cons, List.not_mem_nil, or_false] at hother
  omega

/-- The opcodes whose instructions declare facts of a kind. -/
def Fact.DeclaredBy : Fact → Opcode → Prop
  | .entryPoint _, op => op = .entryPoint
  | .type .., op => op.declaresType = true
  | .constant .., op =>
      op = .constant ∨ op = .specConstant ∨ op = .specConstantTrue ∨ op = .specConstantFalse
  | .var _, op => op = .var
  | .name .., op => op = .name
  | .memberName .., op => op = .memberName
  | .decoration .., op => op = .decorate
  | .memberDecoration .., op => op = .memberDecorate

/-- The type that an opcode declares with the given operands. -/
def TypeDecl.ofOperands? : Opcode → List Operand → Option TypeDecl
  | .typeVoid, _ => some .void
  | .typeBool, _ => some .bool
  | .typeInt, .int32 width :: .int32 signedness :: _ => some (.int width (signedness ≠ 0))
  | .typeFloat, .int32 width :: _ => some (.float width)
  | .typeVector, .ref component :: .int32 count :: _ => some (.vector component count)
  | .typeMatrix, .ref column :: .int32 count :: _ => some (.matrix column count)
  | .typeImage, .ref sampledType :: .enumerant .dim dim :: .int32 _ :: .int32 _ :: .int32 _ ::
      .int32 sampled :: _ => some (.image sampledType dim sampled)
  | .typeSampler, _ => some .sampler
  | .typeSampledImage, .ref sampled :: _ => some (.sampledImage sampled)
  | .typeArray, .ref element :: .ref length :: _ => some (.array element length)
  | .typeRuntimeArray, .ref element :: _ => some (.runtimeArray element)
  | .typeStruct, members => (members.mapM Operand.ref?).map .struct
  | .typePointer, .enumerant .storageClass storageClass :: .ref pointee :: _ =>
      some (.pointer storageClass pointee)
  | .typeFunction, _ => some .function
  | .typeOpaque, _ | .typeEvent, _ | .typeDeviceEvent, _ | .typeReserveId, _ | .typeQueue, _
  | .typePipe, _ => some .other
  | _, _ => none

theorem mapM_ref?_map_ref (ids : List Ident) :
    (ids.map Operand.ref).mapM Operand.ref? = some ids := by
  induction ids with
  | nil => rfl
  | cons id rest ih => rw [List.map_cons, List.mapM_cons, ih]; rfl

namespace Instruction

/-- The fact that an instruction declares. Variables of functions and constants other than
integers declare none. -/
def fact? (inst : Instruction) : Option Fact :=
  match inst.opcode with
  | .entryPoint =>
      match inst.operands with
      | .enumerant .executionModel model :: .ref function :: .string name :: interface =>
          (interface.mapM Operand.ref?).map fun interface =>
            .entryPoint { model, function, name, interface }
      | _ => none
  | .name =>
      match inst.operands with
      | .ref target :: .string text :: _ => some (.name target text)
      | _ => none
  | .memberName =>
      match inst.operands with
      | .ref target :: .int32 member :: .string text :: _ => some (.memberName target member text)
      | _ => none
  | .decorate =>
      match inst.operands with
      | .ref target :: .enumerant .decoration decoration :: params =>
          some (.decoration target decoration (params.filterMap Operand.int32?))
      | _ => none
  | .memberDecorate =>
      match inst.operands with
      | .ref target :: .int32 member :: .enumerant .decoration decoration :: params =>
          some (.memberDecoration target member decoration (params.filterMap Operand.int32?))
      | _ => none
  | .constant | .specConstant =>
      inst.resultId.bind fun id => (Module.constantValue? inst.operands).map (.constant id)
  | .specConstantTrue => inst.resultId.map fun id => .constant id 1
  | .specConstantFalse => inst.resultId.map fun id => .constant id 0
  | .var =>
      match inst.resultId, inst.resultType, inst.operands with
      | some id, some type, .enumerant .storageClass storageClass :: _ =>
          if storageClass = StorageClass.function then none
          else some (.var { id, type, storageClass })
      | _, _, _ => none
  | op => inst.resultId.bind fun id => (TypeDecl.ofOperands? op inst.operands).map (.type id)

/-- The instruction has its form and declares nothing. -/
def Silent (inst : Instruction) : Prop :=
  match inst.opcode with
  | .entryPoint | .name | .memberName | .decorate | .memberDecorate | .specConstantTrue
  | .specConstantFalse => False
  | .constant | .specConstant =>
      inst.resultId.isSome ∧ Module.constantValue? inst.operands = none
  | .var => inst.resultId.isSome ∧
      inst.operands.head? = some (.enumerant .storageClass StorageClass.function)
  | .typeForwardPointer => inst.resultId.isSome
  | op => op.declaresType = false

theorem declaredBy_of_fact? {inst : Instruction} {fact : Fact} (hfact : inst.fact? = some fact) :
    fact.DeclaredBy inst.opcode := by
  obtain ⟨op, resultType, resultId, operands⟩ := inst
  unfold fact? at hfact
  dsimp only at hfact ⊢
  split at hfact
  case h_1 =>
    split at hfact
    next =>
      obtain ⟨_, -, rfl⟩ := Option.map_eq_some_iff.mp hfact
      rfl
    next => cases hfact
  case h_2 | h_3 | h_4 | h_5 => split at hfact <;> cases hfact; rfl
  case h_6 | h_7 =>
    obtain ⟨id, -, hvalue⟩ := Option.bind_eq_some_iff.mp hfact
    obtain ⟨value, -, rfl⟩ := Option.map_eq_some_iff.mp hvalue
    simp [Fact.DeclaredBy]
  case h_8 | h_9 =>
    obtain ⟨id, -, rfl⟩ := Option.map_eq_some_iff.mp hfact
    simp [Fact.DeclaredBy]
  case h_10 =>
    split at hfact
    next =>
      split at hfact <;> cases hfact
      rfl
    next => cases hfact
  case h_11 =>
    obtain ⟨id, -, hdecl⟩ := Option.bind_eq_some_iff.mp hfact
    obtain ⟨decl, hdecl, rfl⟩ := Option.map_eq_some_iff.mp hdecl
    cases op <;> first | rfl | cases hdecl

theorem fact?_of_declaresType {inst : Instruction} (htype : inst.opcode.declaresType = true) :
    inst.fact? = inst.resultId.bind fun id =>
      (TypeDecl.ofOperands? inst.opcode inst.operands).map (.type id) := by
  obtain ⟨op, resultType, resultId, operands⟩ := inst
  cases op <;> first | rfl | cases htype

theorem not_silent_of_declaresType {inst : Instruction}
    (htype : inst.opcode.declaresType = true) : ¬ inst.Silent := by
  obtain ⟨op, resultType, resultId, operands⟩ := inst
  have hop : op.declaresType = true := htype
  cases op <;> first
    | exact absurd hop (by decide)
    | exact fun hsilent => Bool.noConfusion (hop.symm.trans hsilent)

/-- What has no part in a module declares no fact. -/
theorem Silent.fact?_eq_none {inst : Instruction} (hsilent : inst.Silent) :
    inst.fact? = none := by
  obtain ⟨op, resultType, resultId, operands⟩ := inst
  cases op
  case constant | specConstant =>
    obtain ⟨hid, hvalue⟩ := hsilent
    obtain ⟨id, rfl⟩ := Option.isSome_iff_exists.mp hid
    simp only [fact?, Option.bind_some]
    rw [hvalue, Option.map_none]
  case var =>
    obtain ⟨hid, hclass⟩ := hsilent
    obtain ⟨id, rfl⟩ := Option.isSome_iff_exists.mp hid
    obtain ⟨rest, rfl⟩ := List.head?_eq_some_iff.mp hclass
    cases resultType <;> rfl
  all_goals first
    | exact hsilent.elim
    | exact absurd (show true = false from hsilent) nofun
    | cases resultId <;> rfl

theorem fact?_eq_type_iff {inst : Instruction} {id : Ident} {decl : TypeDecl} :
    inst.fact? = some (.type id decl) ↔ inst.opcode.declaresType = true ∧
      inst.resultId = some id ∧ TypeDecl.ofOperands? inst.opcode inst.operands = some decl := by
  constructor
  · intro hsome
    have htype : inst.opcode.declaresType = true := declaredBy_of_fact? hsome
    rw [fact?_of_declaresType htype] at hsome
    obtain ⟨read, hid, hdecl⟩ := Option.bind_eq_some_iff.mp hsome
    obtain ⟨decl', hdecl, heq⟩ := Option.map_eq_some_iff.mp hdecl
    cases heq
    exact ⟨htype, hid, hdecl⟩
  · rintro ⟨htype, hid, hdecl⟩
    rw [fact?_of_declaresType htype, hid, hdecl]
    rfl

end Instruction

namespace OperandReader

variable {α β : Type} {op : Opcode}

theorem run_bind (reader : OperandReader α) (next : α → OperandReader β)
    (operands : List Operand) :
    (reader >>= next) operands = reader operands >>= fun result => next result.1 result.2 := rfl

theorem run_pure (value : α) (operands : List Operand) :
    (pure value : OperandReader α) operands = .ok (value, operands) := rfl

theorem mapM_eq_of_ref? (error : ModuleError) {read : Operand → Except ModuleError Ident}
    (hread : ∀ operand, read operand = operand.ref?.elim (.error error) .ok)
    (operands : List Operand) :
    operands.mapM read = (operands.mapM Operand.ref?).elim (.error error) .ok := by
  induction operands with
  | nil => rfl
  | cons operand rest ih =>
      rw [List.mapM_cons, List.mapM_cons, ih, hread]
      cases operand.ref? with
      | none => rfl
      | some id => cases rest.mapM Operand.ref? <;> rfl

theorem take_eq_ok {expected : String} {get? : Operand → Option α} {make : α → Operand}
    (hget : ∀ operand value, get? operand = some value ↔ operand = make value)
    {operands rest : List Operand} {value : α} :
    take op expected get? operands = .ok (value, rest) ↔ operands = make value :: rest := by
  cases operands with
  | nil => simp [take]
  | cons operand tail =>
      rw [List.cons.injEq, ← hget, take]
      cases get? operand <;> simp

theorem ref_eq_ok {operands rest : List Operand} {id : Ident} :
    ref op operands = .ok (id, rest) ↔ operands = .ref id :: rest :=
  take_eq_ok fun operand id => by cases operand <;> simp [Operand.ref?]

theorem int32_eq_ok {operands rest : List Operand} {value : UInt32} :
    int32 op operands = .ok (value, rest) ↔ operands = .int32 value :: rest :=
  take_eq_ok fun operand value => by cases operand <;> simp [Operand.int32?]

theorem string_eq_ok {operands rest : List Operand} {text : String} :
    string op operands = .ok (text, rest) ↔ operands = .string text :: rest :=
  take_eq_ok fun operand text => by cases operand <;> simp [Operand.text?]

theorem enumerant_eq_ok {enumeration : Enumeration} {operands rest : List Operand}
    {value : Enumerant enumeration} :
    enumerant op enumeration operands = .ok (value, rest) ↔
      operands = .enumerant enumeration value :: rest := by
  apply take_eq_ok
  intro operand value
  cases operand with
  | enumerant read =>
      by_cases hsame : read = enumeration
      · subst hsame
        simp
      · simp [Operand.enumerant?, hsame]
  | _ => simp [Operand.enumerant?]

theorem refs_eq_ok {operands rest : List Operand} {ids : List Ident} :
    refs op operands = .ok (ids, rest) ↔ operands.mapM Operand.ref? = some ids ∧ rest = [] := by
  have hrun : refs op operands =
      (operands.mapM Operand.ref?).elim (.error (.wrongOperand op "IdRef"))
        fun ids => .ok (ids, []) := by
    unfold refs
    rw [mapM_eq_of_ref? (.wrongOperand op "IdRef")
      fun operand => by cases operand.ref? <;> rfl]
    cases operands.mapM Operand.ref? <;> rfl
  rw [hrun]
  cases operands.mapM Operand.ref? <;> simp [eq_comm]

theorem literals_eq_ok {operands rest : List Operand} {params : List UInt32} :
    literals operands = .ok (params, rest) ↔
      operands.filterMap Operand.int32? = params ∧ rest = [] := by
  simp [literals, eq_comm]

/-- Reading the operands of a type gives the type they declare. -/
theorem typeDecl_eq_ok (hop : op.declaresType = true) {operands : List Operand}
    {decl? : Option TypeDecl} :
    (∃ rest, typeDecl op operands = .ok (decl?, rest)) ↔
      ∃ decl, decl? = some decl ∧ TypeDecl.ofOperands? op operands = some decl := by
  constructor
  · rintro ⟨rest, hread⟩
    cases op
    case typeStruct =>
      obtain ⟨⟨ids, rest⟩, hrefs, hdecl⟩ := bind_eq_ok.mp hread
      cases hdecl
      refine ⟨.struct ids, rfl, ?_⟩
      rw [TypeDecl.ofOperands?, (refs_eq_ok.mp hrefs).1, Option.map_some]
    all_goals
      simp only [typeDecl, run_bind, run_pure, bind_eq_ok, Prod.exists, int32_eq_ok, ref_eq_ok,
        enumerant_eq_ok, Except.ok.injEq, Prod.mk.injEq] at hread
    case typeInt =>
      obtain ⟨width, _, rfl, signedness, _, rfl, rfl, -⟩ := hread
      exact ⟨_, rfl, rfl⟩
    case typeFloat =>
      obtain ⟨width, _, rfl, rfl, -⟩ := hread
      exact ⟨_, rfl, rfl⟩
    case typeVector =>
      obtain ⟨component, _, rfl, count, _, rfl, rfl, -⟩ := hread
      exact ⟨_, rfl, rfl⟩
    case typeMatrix =>
      obtain ⟨column, _, rfl, count, _, rfl, rfl, -⟩ := hread
      exact ⟨_, rfl, rfl⟩
    case typeImage =>
      obtain ⟨sampledType, _, rfl, dim, _, rfl, _, _, rfl, _, _, rfl, _, _, rfl, sampled, _, rfl,
        rfl, -⟩ := hread
      exact ⟨_, rfl, rfl⟩
    case typeSampledImage =>
      obtain ⟨sampled, _, rfl, rfl, -⟩ := hread
      exact ⟨_, rfl, rfl⟩
    case typeArray =>
      obtain ⟨element, _, rfl, length, _, rfl, rfl, -⟩ := hread
      exact ⟨_, rfl, rfl⟩
    case typeRuntimeArray =>
      obtain ⟨element, _, rfl, rfl, -⟩ := hread
      exact ⟨_, rfl, rfl⟩
    case typePointer =>
      obtain ⟨storageClass, _, rfl, pointee, _, rfl, rfl, -⟩ := hread
      exact ⟨_, rfl, rfl⟩
    -- the others read no operand
    all_goals
      obtain ⟨rfl, -⟩ := hread
      first
      | exact ⟨_, rfl, rfl⟩
      | exact absurd hop (by decide)
      | exact absurd hop (by rw [Opcode.declaresType_other]; exact nofun)
  · rintro ⟨decl, rfl, hdecl⟩
    by_cases hstruct : op = .typeStruct
    · subst hstruct
      obtain ⟨ids, hids, rfl⟩ := Option.map_eq_some_iff.mp hdecl
      exact ⟨[], bind_eq_ok.mpr ⟨(ids, []), refs_eq_ok.mpr ⟨hids, rfl⟩, rfl⟩⟩
    · unfold TypeDecl.ofOperands? at hdecl
      split at hdecl <;> first
        | exact absurd rfl hstruct
        | cases hdecl
      all_goals exact ⟨_, rfl⟩

end OperandReader

theorem Instruction.reading_eq_ok {α : Type} {inst : Instruction} {reader : OperandReader α}
    {value : α} :
    inst.reading reader = .ok value ↔ ∃ rest, reader inst.operands = .ok (value, rest) := by
  unfold Instruction.reading StateT.run
  rcases reader inst.operands with _ | ⟨read, rest⟩ <;> simp [Except.map]

theorem Instruction.requiredResult_eq_ok {inst : Instruction} {id : Ident} :
    inst.requiredResult = .ok id ↔ inst.resultId = some id := by
  unfold Instruction.requiredResult
  cases inst.resultId <;> simp

namespace Module

/-- The module with one more fact. -/
def record (module : Module) : Fact → Module
  | .entryPoint entry => { module with entryPoints := module.entryPoints ++ [entry] }
  | .type id decl => { module with types := module.types.insert id decl }
  | .constant id value => { module with constants := module.constants.insert id value }
  | .var var => { module with vars := module.vars ++ [var] }
  | .name id text => { module with names := module.names.insert id text }
  | .memberName id member text =>
      { module with memberNames := module.memberNames.insert (id, member) text }
  | .decoration id decoration params =>
      { module with decorations := module.decorations.insert (id, decoration) params }
  | .memberDecoration id member decoration params =>
      { module with
        memberDecorations := module.memberDecorations.insert (id, member, decoration) params }

/-- The fact does not declare a type again. -/
def Admits (module : Module) : Fact → Prop
  | .type id _ => module.types.contains id = false
  | _ => True

/-- The result is the module with what the instruction declares. -/
def Adds (module : Module) (inst : Instruction) (result : Module) : Prop :=
  (∃ fact, inst.fact? = some fact ∧ module.Admits fact ∧ result = module.record fact) ∨
    (inst.Silent ∧ result = module)

section Add

open OperandReader

variable {module result : Module} {inst : Instruction}

theorem adds_iff_of_not_silent (hsilent : ¬ inst.Silent) :
    module.Adds inst result ↔
      ∃ fact, inst.fact? = some fact ∧ module.Admits fact ∧ result = module.record fact := by
  simp only [Adds, hsilent, false_and, or_false]

theorem addEntryPoint_eq_ok (hop : inst.opcode = .entryPoint) :
    module.addEntryPoint inst = .ok result ↔ module.Adds inst result := by
  obtain ⟨op, resultType, resultId, operands⟩ := inst
  subst hop
  simp only [addEntryPoint, bind_eq_ok, Instruction.reading_eq_ok, entryPoint, run_bind, run_pure,
    Prod.exists, enumerant_eq_ok, ref_eq_ok, string_eq_ok, refs_eq_ok, pure_eq_ok,
    Except.ok.injEq, Prod.mk.injEq]
  rw [adds_iff_of_not_silent (by exact not_false)]
  constructor
  · rintro ⟨_, ⟨_, model, _, rfl, function, _, rfl, name, interface, rfl, ids, _, ⟨hids, -⟩,
      rfl, -⟩, rfl⟩
    refine ⟨.entryPoint ⟨model, function, name, ids⟩, ?_, trivial, rfl⟩
    simp only [Instruction.fact?, hids, Option.map_some]
  · rintro ⟨fact, hfact, -, rfl⟩
    simp only [Instruction.fact?] at hfact
    split at hfact
    next =>
      obtain ⟨ids, hids, rfl⟩ := Option.map_eq_some_iff.mp hfact
      exact ⟨_, ⟨_, _, _, rfl, _, _, rfl, _, _, rfl, _, _, ⟨hids, rfl⟩, rfl, rfl⟩, rfl⟩
    next => cases hfact

theorem addName_eq_ok (hop : inst.opcode = .name) :
    module.addName inst = .ok result ↔ module.Adds inst result := by
  obtain ⟨op, resultType, resultId, operands⟩ := inst
  subst hop
  simp only [addName, bind_eq_ok, Instruction.reading_eq_ok, run_bind, run_pure, Prod.exists,
    ref_eq_ok, string_eq_ok, pure_eq_ok, Except.ok.injEq, Prod.mk.injEq]
  rw [adds_iff_of_not_silent (by exact not_false)]
  constructor
  · rintro ⟨_, _, ⟨_, target, _, rfl, text, _, rfl, ⟨rfl, rfl⟩, -⟩, rfl⟩
    exact ⟨.name target text, rfl, trivial, rfl⟩
  · rintro ⟨fact, hfact, -, rfl⟩
    simp only [Instruction.fact?] at hfact
    split at hfact
    next =>
      cases hfact
      exact ⟨_, _, ⟨_, _, _, rfl, _, _, rfl, ⟨rfl, rfl⟩, rfl⟩, rfl⟩
    next => cases hfact

theorem addMemberName_eq_ok (hop : inst.opcode = .memberName) :
    module.addMemberName inst = .ok result ↔ module.Adds inst result := by
  obtain ⟨op, resultType, resultId, operands⟩ := inst
  subst hop
  simp only [addMemberName, bind_eq_ok, Instruction.reading_eq_ok, run_bind, run_pure, Prod.exists,
    ref_eq_ok, int32_eq_ok, string_eq_ok, pure_eq_ok, Except.ok.injEq, Prod.mk.injEq]
  rw [adds_iff_of_not_silent (by exact not_false)]
  constructor
  · rintro ⟨_, _, _, ⟨_, target, _, rfl, member, _, rfl, text, _, rfl, ⟨rfl, rfl, rfl⟩, -⟩, rfl⟩
    exact ⟨.memberName target member text, rfl, trivial, rfl⟩
  · rintro ⟨fact, hfact, -, rfl⟩
    simp only [Instruction.fact?] at hfact
    split at hfact
    next =>
      cases hfact
      exact ⟨_, _, _, ⟨_, _, _, rfl, _, _, rfl, _, _, rfl, ⟨rfl, rfl, rfl⟩, rfl⟩, rfl⟩
    next => cases hfact

theorem addDecoration_eq_ok (hop : inst.opcode = .decorate) :
    module.addDecoration inst = .ok result ↔ module.Adds inst result := by
  obtain ⟨op, resultType, resultId, operands⟩ := inst
  subst hop
  simp only [addDecoration, bind_eq_ok, Instruction.reading_eq_ok, run_bind, run_pure, Prod.exists,
    ref_eq_ok, enumerant_eq_ok, literals_eq_ok, pure_eq_ok, Except.ok.injEq, Prod.mk.injEq]
  rw [adds_iff_of_not_silent (by exact not_false)]
  constructor
  · rintro ⟨_, _, _, ⟨_, target, _, rfl, decoration, _, rfl, params, _, ⟨rfl, -⟩, ⟨rfl, rfl, rfl⟩,
      -⟩, rfl⟩
    exact ⟨.decoration target decoration _, rfl, trivial, rfl⟩
  · rintro ⟨fact, hfact, -, rfl⟩
    simp only [Instruction.fact?] at hfact
    split at hfact
    next =>
      cases hfact
      exact ⟨_, _, _, ⟨_, _, _, rfl, _, _, rfl, _, _, ⟨rfl, rfl⟩, ⟨rfl, rfl, rfl⟩, rfl⟩, rfl⟩
    next => cases hfact

theorem addMemberDecoration_eq_ok (hop : inst.opcode = .memberDecorate) :
    module.addMemberDecoration inst = .ok result ↔ module.Adds inst result := by
  obtain ⟨op, resultType, resultId, operands⟩ := inst
  subst hop
  simp only [addMemberDecoration, bind_eq_ok, Instruction.reading_eq_ok, run_bind, run_pure,
    Prod.exists, ref_eq_ok, int32_eq_ok, enumerant_eq_ok, literals_eq_ok, pure_eq_ok,
    Except.ok.injEq, Prod.mk.injEq]
  rw [adds_iff_of_not_silent (by exact not_false)]
  constructor
  · rintro ⟨_, _, _, _, ⟨_, target, _, rfl, member, _, rfl, decoration, _, rfl, params, _, ⟨rfl, -⟩,
      ⟨rfl, rfl, rfl, rfl⟩, -⟩, rfl⟩
    exact ⟨.memberDecoration target member decoration _, rfl, trivial, rfl⟩
  · rintro ⟨fact, hfact, -, rfl⟩
    simp only [Instruction.fact?] at hfact
    split at hfact
    next =>
      cases hfact
      exact ⟨_, _, _, _, ⟨_, _, _, rfl, _, _, rfl, _, _, rfl, _, _, ⟨rfl, rfl⟩,
        ⟨rfl, rfl, rfl, rfl⟩, rfl⟩, rfl⟩
    next => cases hfact

/-- Adding a constant records its value, if it has one. -/
theorem addConstant_eq_ok {value : Option UInt64} :
    module.addConstant inst value = .ok result ↔
      ∃ id, inst.resultId = some id ∧
        result = value.elim module fun value => module.record (.constant id value) := by
  simp only [addConstant, bind_eq_ok, Instruction.requiredResult_eq_ok]
  cases value <;> simp [record, eq_comm]

theorem addLiteral_eq_ok (hop : inst.opcode = .constant ∨ inst.opcode = .specConstant) :
    module.addConstant inst (constantValue? inst.operands) = .ok result ↔
      module.Adds inst result := by
  obtain ⟨op, resultType, resultId, operands⟩ := inst
  have hfact : Instruction.fact? ⟨op, resultType, resultId, operands⟩ =
      resultId.bind fun id => (constantValue? operands).map (.constant id) := by
    obtain rfl | rfl := hop <;> rfl
  have hsilent : Instruction.Silent ⟨op, resultType, resultId, operands⟩ ↔
      resultId.isSome ∧ constantValue? operands = none := by
    obtain rfl | rfl := hop <;> rfl
  rw [addConstant_eq_ok, Adds, hfact, hsilent]
  cases resultId with
  | none => simp
  | some id => cases constantValue? operands <;> simp [Admits]

theorem addTruth_eq_ok {value : UInt64} (hfact : inst.fact? = inst.resultId.map (.constant · value))
    (hsilent : ¬ inst.Silent) :
    module.addConstant inst (some value) = .ok result ↔ module.Adds inst result := by
  rw [addConstant_eq_ok, adds_iff_of_not_silent hsilent, hfact]
  cases inst.resultId <;> simp [Admits]

theorem addVariable_eq_ok (hop : inst.opcode = .var) :
    module.addVariable inst = .ok result ↔ module.Adds inst result := by
  obtain ⟨op, resultType, resultId, operands⟩ := inst
  subst hop
  simp only [addVariable, bind_eq_ok, Instruction.reading_eq_ok, Instruction.requiredResult_eq_ok,
    enumerant_eq_ok]
  constructor
  · rintro ⟨id, rfl, storageClass, ⟨rest, rfl⟩, hadd⟩
    by_cases hclass : storageClass = StorageClass.function
    -- a variable of a function belongs to its body, not to the module
    · subst hclass
      cases hadd
      exact .inr ⟨⟨rfl, rfl⟩, rfl⟩
    · rw [if_neg hclass] at hadd
      cases resultType with
      | none => cases hadd
      | some type =>
          cases hadd
          refine .inl ⟨.var ⟨id, type, storageClass⟩, ?_, trivial, rfl⟩
          simp only [Instruction.fact?, if_neg hclass]
  · rintro (⟨fact, hfact, -, rfl⟩ | ⟨⟨hid, hclass⟩, rfl⟩)
    · simp only [Instruction.fact?] at hfact
      split at hfact
      next id type storageClass rest =>
        split at hfact
        next => cases hfact
        next hclass =>
          cases hfact
          exact ⟨id, rfl, storageClass, ⟨rest, rfl⟩, if_neg hclass⟩
      next => cases hfact
    · obtain ⟨id, rfl⟩ := Option.isSome_iff_exists.mp hid
      obtain ⟨rest, rfl⟩ := List.head?_eq_some_iff.mp hclass
      exact ⟨id, rfl, StorageClass.function, ⟨rest, rfl⟩, if_pos rfl⟩

theorem addType_eq_ok (hop : inst.opcode.declaresType = true) :
    module.addType inst = .ok result ↔ module.Adds inst result := by
  simp only [addType, bind_eq_ok, Instruction.reading_eq_ok, Instruction.requiredResult_eq_ok,
    typeDecl_eq_ok hop, adds_iff_of_not_silent (Instruction.not_silent_of_declaresType hop)]
  constructor
  · rintro ⟨id, hid, _, ⟨decl, rfl, hdecl⟩, hadd⟩
    refine ⟨.type id decl, Instruction.fact?_eq_type_iff.mpr ⟨hop, hid, hdecl⟩, ?_⟩
    cases hnew : module.types.contains id with
    | true => simp [hnew] at hadd
    | false =>
        simp only [hnew, Bool.false_eq_true, if_false, pure_eq_ok, Except.ok.injEq] at hadd
        exact ⟨hnew, hadd.symm⟩
  · rintro ⟨fact, hsome, hadmits, rfl⟩
    rw [Instruction.fact?_of_declaresType hop] at hsome
    obtain ⟨id, hid, hsome⟩ := Option.bind_eq_some_iff.mp hsome
    obtain ⟨decl, hdecl, rfl⟩ := Option.map_eq_some_iff.mp hsome
    refine ⟨id, hid, some decl, ⟨decl, rfl, hdecl⟩, ?_⟩
    simp only [show module.types.contains id = false from hadmits, Bool.false_eq_true, if_false]
    rfl

theorem ok_eq_ok_of_inert (hfact : inst.fact? = none) (hsilent : inst.Silent) :
    Except.ok (ε := ModuleError) module = .ok result ↔ module.Adds inst result := by
  simp [Adds, hfact, hsilent, eq_comm]

/-- A forward pointer announces a type and is none itself. -/
theorem addForwardPointer_eq_ok (hop : inst.opcode = .typeForwardPointer) :
    module.addType inst = .ok result ↔ module.Adds inst result := by
  obtain ⟨op, resultType, resultId, operands⟩ := inst
  subst hop
  cases resultId with
  | none => exact ⟨nofun, by rintro (⟨_, hfact, -⟩ | ⟨hid, -⟩) <;> contradiction⟩
  | some id =>
      change Except.ok module = Except.ok result ↔ _
      exact ok_eq_ok_of_inert rfl rfl

/-- Adding an instruction to a module succeeds exactly if it declares a fact that the module admits,
which is then recorded, or declares nothing at all. -/
theorem add_eq_ok : module.add inst = .ok result ↔ module.Adds inst result := by
  unfold add
  split
  case h_1 hop => exact addEntryPoint_eq_ok hop
  case h_2 hop => exact addName_eq_ok hop
  case h_3 hop => exact addMemberName_eq_ok hop
  case h_4 hop => exact addDecoration_eq_ok hop
  case h_5 hop => exact addMemberDecoration_eq_ok hop
  case h_6 hop => exact addLiteral_eq_ok (.inl hop)
  case h_7 hop => exact addLiteral_eq_ok (.inr hop)
  case h_8 hop =>
    exact addTruth_eq_ok (by simp only [Instruction.fact?, hop]) (by simp [Instruction.Silent, hop])
  case h_9 hop =>
    exact addTruth_eq_ok (by simp only [Instruction.fact?, hop]) (by simp [Instruction.Silent, hop])
  case h_10 hop => exact addVariable_eq_ok hop
  case h_31 hop => exact addForwardPointer_eq_ok hop
  -- the opcodes that no handler takes leave no trace
  case h_32 =>
    obtain ⟨op, resultType, resultId, operands⟩ := inst
    cases op <;> first
      | exact absurd rfl ‹_›
      | exact ok_eq_ok_of_inert (by cases resultId <;> rfl) rfl
      | exact ok_eq_ok_of_inert (by cases resultId <;> rfl) (Opcode.declaresType_other _ _ _)
  -- the handlers left all declare a type
  all_goals exact addType_eq_ok (by simp only [‹inst.opcode = _›]; decide)

end Add

end Module

end ShaderInterface
