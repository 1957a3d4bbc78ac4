import Mathlib.Data.List.Induction
import ShaderInterface.Module.Query
import ShaderInterface.Proofs.Facts

/-!
# What a collected module answers

A collected module holds the facts of its instructions: lists in the order of declaration, the one
declaration of each type, and of everything else what was said last.
-/

namespace ShaderInterface

/-! ## The last word -/

section LastSays

variable {σ α : Type}

/-- The last item that tells anything tells the value. -/
def LastSays (items : List σ) (tells : σ → α → Prop) (value : α) : Prop :=
  ∃ before item after, items = before ++ item :: after ∧ tells item value ∧
    ∀ later ∈ after, ∀ other, ¬ tells later other

/-- An answer is what was said last, and there is none if nothing was. -/
def Told (items : List σ) (tells : σ → α → Prop) : Option α → Prop
  | some value => LastSays items tells value
  | none => ∀ item ∈ items, ∀ value, ¬ tells item value

theorem Told.append_silent {items : List σ} {item : σ} {tells : σ → α → Prop} {answer : Option α}
    (htold : Told items tells answer) (hsilent : ∀ value, ¬ tells item value) :
    Told (items ++ [item]) tells answer := by
  have hlast (rest : List σ) (hrest : ∀ later ∈ rest, ∀ value, ¬ tells later value) :
      ∀ later ∈ rest ++ [item], ∀ value, ¬ tells later value := by
    intro later hlater
    rcases List.mem_append.mp hlater with hlater | hlater
    · exact hrest later hlater
    · cases List.mem_singleton.mp hlater
      exact hsilent
  cases answer with
  | none => exact hlast items htold
  | some value =>
      obtain ⟨before, said, after, rfl, hsaid, hafter⟩ := htold
      exact ⟨before, said, after ++ [item], by simp, hsaid, hlast after hafter⟩

/-- The last of the things that are said is the answer. -/
theorem told_getLast? {tells : σ → α → Prop} {tells? : σ → Option α}
    (htells : ∀ item value, tells item value ↔ tells? item = some value) (items : List σ) :
    Told items tells (items.filterMap tells?).getLast? := by
  induction items using List.reverseRecOn with
  | nil => exact fun item hitem => absurd hitem List.not_mem_nil
  | append_singleton items item ih =>
      rw [List.filterMap_append]
      cases hsaid : tells? item with
      | none =>
          rw [List.filterMap_cons_none hsaid, List.filterMap_nil, List.append_nil]
          refine ih.append_silent fun value hvalue => ?_
          rw [htells, hsaid] at hvalue
          cases hvalue
      | some value =>
          rw [List.filterMap_cons_some hsaid, List.filterMap_nil, List.getLast?_concat]
          exact ⟨items, item, [], rfl, (htells item value).mpr hsaid, by simp⟩

end LastSays

/-! ## What a fact tells -/

namespace Fact

/-- The type that the fact declares, if it declares one. -/
def typeId? : Fact → Option Ident
  | .type id _ => some id
  | _ => none

def entryPoint? : Fact → Option EntryPoint
  | .entryPoint entry => some entry
  | _ => none

def var? : Fact → Option Variable
  | .var declared => some declared
  | _ => none

def typeOf? (id : Ident) : Fact → Option TypeDecl
  | .type target decl => if target = id then some decl else none
  | _ => none

def valueOf? (id : Ident) : Fact → Option UInt64
  | .constant target value => if target = id then some value else none
  | _ => none

def nameOf? (id : Ident) : Fact → Option String
  | .name target text => if target = id then some text else none
  | _ => none

def memberNameOf? (id : Ident) (member : UInt32) : Fact → Option String
  | .memberName target place text => if (target, place) = (id, member) then some text else none
  | _ => none

def paramsOf? (id : Ident) (decoration : Decoration) : Fact → Option (List UInt32)
  | .decoration target property params =>
      if (target, property) = (id, decoration) then some params else none
  | _ => none

def memberParamsOf? (id : Ident) (member : UInt32) (decoration : Decoration) :
    Fact → Option (List UInt32)
  | .memberDecoration target place property params =>
      if (target, place, property) = (id, member, decoration) then some params else none
  | _ => none

section Tells

variable (id : Ident) (member : UInt32) (decoration : Decoration) (fact : Fact)

theorem typeOf?_eq_some (decl : TypeDecl) :
    fact.typeOf? id = some decl ↔ fact = .type id decl := by
  cases fact <;> simp [typeOf?]

theorem valueOf?_eq_some (value : UInt64) :
    fact.valueOf? id = some value ↔ fact = .constant id value := by
  cases fact <;> simp [valueOf?]

theorem nameOf?_eq_some (text : String) : fact.nameOf? id = some text ↔ fact = .name id text := by
  cases fact <;> simp [nameOf?]

theorem memberNameOf?_eq_some (text : String) :
    fact.memberNameOf? id member = some text ↔ fact = .memberName id member text := by
  cases fact <;> simp [memberNameOf?, and_assoc]

theorem paramsOf?_eq_some (params : List UInt32) :
    fact.paramsOf? id decoration = some params ↔ fact = .decoration id decoration params := by
  cases fact <;> simp [paramsOf?, and_assoc]

theorem memberParamsOf?_eq_some (params : List UInt32) :
    fact.memberParamsOf? id member decoration = some params ↔
      fact = .memberDecoration id member decoration params := by
  cases fact <;> simp [memberParamsOf?, and_assoc]

end Tells

end Fact

namespace Instruction

variable {inst : Instruction}

/-- The instruction declares a variable outside functions. -/
def declaresVar (inst : Instruction) : Bool :=
  inst.opcode = .var &&
    inst.operands.head? ≠ some (.enumerant .storageClass StorageClass.function)

theorem exists_fact?_of_not_silent (hformed : inst.fact? = none → inst.Silent)
    (hsilent : ¬ inst.Silent) : ∃ fact, inst.fact? = some fact := by
  refine Option.ne_none_iff_exists'.mp fun hnone => ?_
  exact hsilent (hformed hnone)

theorem exists_type_of_declaresType (hformed : inst.fact? = none → inst.Silent)
    (htype : inst.opcode.declaresType = true) :
    ∃ id decl, inst.resultId = some id ∧ inst.fact? = some (.type id decl) := by
  obtain ⟨fact, hfact⟩ := exists_fact?_of_not_silent hformed (not_silent_of_declaresType htype)
  rw [fact?_of_declaresType htype] at hfact
  obtain ⟨id, hid, htyped⟩ := Option.bind_eq_some_iff.mp hfact
  obtain ⟨decl, hdecl, rfl⟩ := Option.map_eq_some_iff.mp htyped
  exact ⟨id, decl, hid, fact?_eq_type_iff.mpr ⟨htype, hid, hdecl⟩⟩

theorem opcode_eq_entryPoint_iff (hformed : inst.fact? = none → inst.Silent) :
    inst.opcode = .entryPoint ↔ ∃ entry, inst.fact? = some (.entryPoint entry) := by
  constructor
  · intro hop
    obtain ⟨fact, hfact⟩ := exists_fact?_of_not_silent hformed (by simp [Silent, hop])
    have hkind := declaredBy_of_fact? hfact
    rw [hop] at hkind
    cases fact with
    | entryPoint entry => exact ⟨entry, hfact⟩
    | _ => simp [Fact.DeclaredBy, Opcode.declaresType, Opcode.number, Opcode.info] at hkind
  · rintro ⟨entry, hfact⟩
    exact declaredBy_of_fact? hfact

theorem declaresVar_iff (hformed : inst.fact? = none → inst.Silent) :
    inst.declaresVar = true ↔ ∃ var, inst.fact? = some (.var var) := by
  constructor
  · intro hvar
    obtain ⟨hop, hclass⟩ : inst.opcode = .var ∧
        inst.operands.head? ≠ some (.enumerant .storageClass StorageClass.function) := by
      simpa [declaresVar] using hvar
    obtain ⟨fact, hfact⟩ := exists_fact?_of_not_silent hformed (by simp [Silent, hop, hclass])
    have hkind := declaredBy_of_fact? hfact
    rw [hop] at hkind
    cases fact with
    | var var => exact ⟨var, hfact⟩
    | _ => simp [Fact.DeclaredBy, Opcode.declaresType, Opcode.number, Opcode.info] at hkind
  · rintro ⟨var, hfact⟩
    have hop : inst.opcode = .var := declaredBy_of_fact? hfact
    simp only [fact?, hop] at hfact
    split at hfact
    next _ _ hoperands =>
      split at hfact
      next => cases hfact
      next hclass => simp [declaresVar, hop, hoperands, hclass]
    next => cases hfact

end Instruction

namespace Instruction

variable {α : Type}

/-- The instruction declares the value in a place. -/
def Declares (declares : α → Fact) (inst : Instruction) (value : α) : Prop :=
  inst.fact? = some (declares value)

/-- What the instruction's fact tells. -/
def said? (tells? : Fact → Option α) (inst : Instruction) : Option α :=
  inst.fact?.bind tells?

theorem said?_eq_some {inst : Instruction} {tells? : Fact → Option α} {declared : Fact}
    {value : α} (htells : ∀ fact, tells? fact = some value ↔ fact = declared) :
    inst.said? tells? = some value ↔ inst.fact? = some declared := by
  rw [said?, Option.bind_eq_some_iff]
  constructor
  · rintro ⟨fact, hfact, hvalue⟩
    rwa [(htells fact).mp hvalue] at hfact
  · exact fun hfact => ⟨declared, hfact, (htells declared).mpr rfl⟩

theorem filterMap_said? (tells? : Fact → Option α) (insts : List Instruction) :
    insts.filterMap (said? tells?) = (insts.filterMap fact?).filterMap tells? := by
  rw [List.filterMap_filterMap]
  rfl

end Instruction

namespace Module

/-- The module with the facts that the instructions declare. -/
def recordAll (module : Module) (insts : List Instruction) : Module :=
  (insts.filterMap Instruction.fact?).foldl record module

@[simp] theorem recordAll_nil (module : Module) : module.recordAll [] = module := rfl

theorem recordAll_append_singleton (module : Module) (insts : List Instruction)
    (inst : Instruction) : module.recordAll (insts ++ [inst]) =
      inst.fact?.elim (module.recordAll insts) (module.recordAll insts).record := by
  unfold recordAll
  rw [List.filterMap_append, List.foldl_append]
  cases hfact : inst.fact? <;> simp [hfact]

/-- A look-up answers with what the newest fact tells that tells anything. -/
structure Tracks {α : Type} (lookup : Module → Option α) (tells? : Fact → Option α) : Prop where
  fresh : ∀ version, lookup { version } = none
  recorded : ∀ (module : Module) fact,
    lookup (module.record fact) = (tells? fact).or (lookup module)

/-- A list has an element for each fact that tells one, in their order. -/
structure Gathers {α : Type} (list : Module → List α) (tells? : Fact → Option α) : Prop where
  fresh : ∀ version, list { version } = []
  recorded : ∀ (module : Module) fact,
    list (module.record fact) = list module ++ (tells? fact).toList

section Run

variable {α : Type} {tells? : Fact → Option α} (version : Version) (insts : List Instruction)

theorem Tracks.recordAll {lookup : Module → Option α} (htracks : Tracks lookup tells?) :
    lookup (recordAll { version } insts) =
      (insts.filterMap (Instruction.said? tells?)).getLast? := by
  -- the newest fact decides, so the induction takes the last instruction off
  induction insts using List.reverseRecOn with
  | nil => exact htracks.fresh version
  | append_singleton insts inst ih =>
      rw [recordAll_append_singleton, List.filterMap_append]
      cases hfact : inst.fact? with
      | none => simp [ih, Instruction.said?, hfact]
      | some fact =>
          rw [Option.elim_some, htracks.recorded, ih]
          cases htells : tells? fact <;> simp [Instruction.said?, hfact, htells]

theorem Gathers.recordAll {list : Module → List α} (hgathers : Gathers list tells?) :
    list (recordAll { version } insts) = insts.filterMap (Instruction.said? tells?) := by
  induction insts using List.reverseRecOn with
  | nil => exact hgathers.fresh version
  | append_singleton insts inst ih =>
      rw [recordAll_append_singleton, List.filterMap_append]
      cases hfact : inst.fact? with
      | none => simp [ih, Instruction.said?, hfact]
      | some fact =>
          rw [Option.elim_some, hgathers.recorded, ih]
          cases htells : tells? fact <;> simp [Instruction.said?, hfact, htells]

end Run

theorem gathers_entryPoints : Gathers entryPoints Fact.entryPoint? where
  fresh _ := rfl
  recorded _ fact := by cases fact <;> simp [record, Fact.entryPoint?]

theorem gathers_vars : Gathers vars Fact.var? where
  fresh _ := rfl
  recorded _ fact := by cases fact <;> simp [record, Fact.var?]

section Tables

variable (id : Ident) (member : UInt32) (decoration : Decoration)

theorem tracks_type : Tracks (·.type? id) (Fact.typeOf? id) where
  fresh _ := rfl
  recorded module fact := by
    cases fact with
    | type target decl =>
        refine (Table.get?_insert module.types target id decl).trans ?_
        rw [Fact.typeOf?]
        split <;> rfl
    | _ => rfl

theorem tracks_constant : Tracks (·.constant? id) (Fact.valueOf? id) where
  fresh _ := rfl
  recorded module fact := by
    cases fact with
    | constant target value =>
        refine (Table.get?_insert module.constants target id value).trans ?_
        rw [Fact.valueOf?]
        split <;> rfl
    | _ => rfl

theorem tracks_name : Tracks (·.name? id) (Fact.nameOf? id) where
  fresh _ := rfl
  recorded module fact := by
    cases fact with
    | name target text =>
        refine (Table.get?_insert module.names target id text).trans ?_
        rw [Fact.nameOf?]
        split <;> rfl
    | _ => rfl

theorem tracks_memberName :
    Tracks (·.memberName? id member) (Fact.memberNameOf? id member) where
  fresh _ := rfl
  recorded module fact := by
    cases fact with
    | memberName target place text =>
        refine (Table.get?_insert module.memberNames (target, place) (id, member) text).trans ?_
        rw [Fact.memberNameOf?]
        split <;> rfl
    | _ => rfl

theorem tracks_decoration :
    Tracks (·.decoration? id decoration) (Fact.paramsOf? id decoration) where
  fresh _ := rfl
  recorded module fact := by
    cases fact with
    | decoration target property params =>
        refine (Table.get?_insert module.decorations (target, property) (id, decoration)
          params).trans ?_
        rw [Fact.paramsOf?]
        split <;> rfl
    | _ => rfl

theorem tracks_memberDecoration : Tracks (·.memberDecoration? id member decoration)
    (Fact.memberParamsOf? id member decoration) where
  fresh _ := rfl
  recorded module fact := by
    cases fact with
    | memberDecoration target place property params =>
        refine (Table.get?_insert module.memberDecorations (target, place, property)
          (id, member, decoration) params).trans ?_
        rw [Fact.memberParamsOf?]
        split <;> rfl
    | _ => rfl

end Tables

/-! ## Which instructions are accepted -/

/-- Every instruction has its form, and no type is declared twice. -/
structure Accepted (insts : List Instruction) : Prop where
  formed : ∀ inst ∈ insts, inst.fact? = none → inst.Silent
  distinct : (insts.filterMap (Instruction.said? Fact.typeId?)).Nodup

theorem Accepted.nil : Accepted [] :=
  ⟨by simp, .nil⟩

theorem accepted_append_singleton {insts : List Instruction} {inst : Instruction} :
    Accepted (insts ++ [inst]) ↔ Accepted insts ∧ (inst.fact? = none → inst.Silent) ∧
      ∀ id ∈ inst.said? Fact.typeId?, id ∉ insts.filterMap (Instruction.said? Fact.typeId?) := by
  have hids : (insts ++ [inst]).filterMap (Instruction.said? Fact.typeId?) =
      insts.filterMap (Instruction.said? Fact.typeId?) ++ (inst.said? Fact.typeId?).toList := by
    rw [List.filterMap_append]
    cases htype : inst.said? Fact.typeId? <;> simp [htype]
  constructor
  · rintro ⟨hformed, hdistinct⟩
    rw [hids] at hdistinct
    obtain ⟨hbefore, -, hnew⟩ := List.nodup_append.mp hdistinct
    refine ⟨⟨fun before hmem => hformed before (List.mem_append_left _ hmem), hbefore⟩,
      hformed inst (by simp), fun id hid hmem => ?_⟩
    exact hnew id hmem id (Option.mem_toList.mpr hid) rfl
  · rintro ⟨⟨hformed, hdistinct⟩, hlast, hnew⟩
    refine ⟨fun before hmem => ?_, ?_⟩
    · rcases List.mem_append.mp hmem with hmem | hmem
      · exact hformed before hmem
      · cases List.mem_singleton.mp hmem
        exact hlast
    · rw [hids]
      refine List.nodup_append.mpr ⟨hdistinct, ?_, ?_⟩
      · cases inst.said? Fact.typeId? <;> simp
      · rintro id hmem _ hid rfl
        exact hnew id (Option.mem_toList.mp hid) hmem

theorem said?_typeId?_iff {inst : Instruction} {id : Ident} :
    inst.said? Fact.typeId? = some id ↔ ∃ decl, inst.fact? = some (.type id decl) := by
  rw [Instruction.said?]
  rcases inst.fact? with _ | fact
  · simp
  · cases fact <;> simp [Fact.typeId?]

theorem said?_typeOf?_iff {inst : Instruction} {id : Ident} {decl : TypeDecl} :
    inst.said? (Fact.typeOf? id) = some decl ↔ inst.fact? = some (.type id decl) :=
  Instruction.said?_eq_some (fun fact => Fact.typeOf?_eq_some id fact decl)

/-- A type can be declared exactly if no instruction before did so. -/
theorem admits_recordAll {version : Version} {insts : List Instruction} {fact : Fact} :
    (recordAll { version } insts).Admits fact ↔
      ∀ id ∈ fact.typeId?, id ∉ insts.filterMap (Instruction.said? Fact.typeId?) := by
  cases fact with
  | type id decl =>
      have hnone : (recordAll { version } insts).type? id = none ↔
          ∀ inst ∈ insts, ∀ said, inst.fact? ≠ some (.type id said) := by
        rw [(tracks_type id).recordAll version insts, List.getLast?_eq_none_iff,
          List.filterMap_eq_nil_iff]
        refine forall₂_congr fun inst hinst => ?_
        rw [Option.eq_none_iff_forall_ne_some]
        exact forall_congr' fun said => not_congr said?_typeOf?_iff
      change ((recordAll { version } insts).type? id).isSome = false ↔ _
      rw [Option.isSome_eq_false_iff, Option.isNone_iff_eq_none, hnone]
      simp [Fact.typeId?, said?_typeId?_iff]
  | _ => simp [Admits, Fact.typeId?]

theorem ofInstructions_append_singleton (version : Version) (insts : List Instruction)
    (inst : Instruction) : ofInstructions version (insts ++ [inst]) =
      ofInstructions version insts >>= fun before => before.add inst := by
  simp only [ofInstructions, List.foldlM_append, List.foldlM_cons, List.foldlM_nil, bind_pure]

/-- Collecting succeeds exactly for accepted instructions, and gives the module with what they
declare. -/
theorem ofInstructions_eq_ok {version : Version} {insts : List Instruction} {module : Module} :
    ofInstructions version insts = .ok module ↔
      Accepted insts ∧ module = recordAll { version } insts := by
  -- the module collected so far decides whether the last instruction is accepted
  induction insts using List.reverseRecOn generalizing module with
  | nil => simp [ofInstructions, Accepted.nil, eq_comm]
  | append_singleton insts inst ih =>
      rw [ofInstructions_append_singleton, bind_eq_ok, recordAll_append_singleton,
        accepted_append_singleton]
      constructor
      · rintro ⟨before, hbefore, hadd⟩
        obtain ⟨haccepted, rfl⟩ := ih.mp hbefore
        rcases add_eq_ok.mp hadd with ⟨fact, hfact, hadmits, rfl⟩ | ⟨hsilent, rfl⟩
        · rw [Instruction.said?, hfact, Option.bind_some, Option.elim_some]
          exact ⟨⟨haccepted, by simp, admits_recordAll.mp hadmits⟩, rfl⟩
        · rw [Instruction.said?, hsilent.fact?_eq_none, Option.bind_none, Option.elim_none]
          exact ⟨⟨haccepted, fun _ => hsilent, by simp⟩, rfl⟩
      · rintro ⟨⟨haccepted, hlast, hnew⟩, rfl⟩
        refine ⟨_, ih.mpr ⟨haccepted, rfl⟩, add_eq_ok.mpr ?_⟩
        cases hfact : inst.fact? with
        | none => exact .inr ⟨hlast hfact, rfl⟩
        | some fact =>
            rw [Instruction.said?, hfact, Option.bind_some] at hnew
            exact .inl ⟨fact, hfact, admits_recordAll.mpr hnew, rfl⟩

/-- Reading words is having them decoded and collecting what they declare. -/
theorem value_readWords (decoder : Decoder) (words : List UInt32) :
    (decoder.readWords words).run.value =
      match decoder.decode words with
      | .error text => .error (.undecodable text)
      | .ok stream => ofStream stream := by
  change (match decoder.decode words with
    | .error text => _
    | .ok stream => _ : ExceptT ModuleError Logged Module).run.value = _
  cases decoder.decode words with
  | error text => rfl
  | ok stream =>
      dsimp only
      cases ofStream stream <;> rfl

/-! ## All answers -/

/-- The instructions that declare facts of a kind, in their order. -/
theorem map_fact?_filter {α : Type} {insts : List Instruction} {declaring : Instruction → Bool}
    {tells? : Fact → Option α} {declares : α → Fact}
    (htells : ∀ fact value, tells? fact = some value ↔ fact = declares value)
    (hdeclaring : ∀ inst ∈ insts,
      declaring inst = true ↔ ∃ value, inst.fact? = some (declares value)) :
    (insts.filter declaring).map Instruction.fact? =
      (insts.filterMap (Instruction.said? tells?)).map fun value => some (declares value) := by
  induction insts with
  | nil => rfl
  | cons inst rest ih =>
      have hrest := ih fun later hlater => hdeclaring later (List.mem_cons_of_mem _ hlater)
      have hinst := hdeclaring inst List.mem_cons_self
      cases hsaid : inst.said? tells? with
      | none =>
          have hquiet : declaring inst ≠ true := by
            rw [Ne, hinst]
            rintro ⟨value, hvalue⟩
            rw [Instruction.said?, hvalue, Option.bind_some, (htells _ value).mpr rfl] at hsaid
            cases hsaid
          rw [List.filter_cons_of_neg hquiet, List.filterMap_cons_none hsaid, hrest]
      | some value =>
          obtain ⟨fact, hfact, hvalue⟩ := Option.bind_eq_some_iff.mp hsaid
          obtain rfl := (htells fact value).mp hvalue
          rw [List.filter_cons_of_pos (hinst.mpr ⟨value, hfact⟩),
            List.filterMap_cons_some hsaid, List.map_cons, List.map_cons, hrest, hfact]

theorem map_fact?_entryPoints (version : Version) {insts : List Instruction}
    (haccepted : Accepted insts) :
    (insts.filter (·.opcode = .entryPoint)).map Instruction.fact? =
      (recordAll { version } insts).entryPoints.map fun entry => some (.entryPoint entry) := by
  rw [gathers_entryPoints.recordAll]
  refine map_fact?_filter (fun fact entry => ?_) fun inst hinst => ?_
  · cases fact <;> simp [Fact.entryPoint?]
  · rw [decide_eq_true_iff]
    exact Instruction.opcode_eq_entryPoint_iff (haccepted.formed inst hinst)

theorem map_fact?_vars (version : Version) {insts : List Instruction}
    (haccepted : Accepted insts) :
    (insts.filter Instruction.declaresVar).map Instruction.fact? =
      (recordAll { version } insts).vars.map fun var => some (.var var) := by
  rw [gathers_vars.recordAll]
  refine map_fact?_filter (fun fact var => ?_) fun inst hinst => ?_
  · cases fact <;> simp [Fact.var?]
  · exact Instruction.declaresVar_iff (haccepted.formed inst hinst)

theorem type?_recordAll_iff (version : Version) {insts : List Instruction}
    (haccepted : Accepted insts) {id : Ident} {decl : TypeDecl} :
    (recordAll { version } insts).type? id = some decl ↔
      ∃ inst ∈ insts, inst.fact? = some (.type id decl) := by
  rw [(tracks_type id).recordAll version insts]
  constructor
  · intro hlast
    obtain ⟨inst, hinst, hsaid⟩ := List.mem_filterMap.mp (List.mem_of_getLast? hlast)
    exact ⟨inst, hinst, said?_typeOf?_iff.mp hsaid⟩
  · rintro ⟨inst, hinst, hfact⟩
    obtain ⟨before, after, rfl⟩ := List.append_of_mem hinst
    -- no later instruction declares the type again
    have hid : inst.said? Fact.typeId? = some id := said?_typeId?_iff.mpr ⟨decl, hfact⟩
    have hdistinct := haccepted.distinct
    rw [List.filterMap_append, List.filterMap_cons_some hid] at hdistinct
    have hnew := (List.nodup_cons.mp (List.nodup_append.mp hdistinct).2.1).1
    have hafter : after.filterMap (Instruction.said? (Fact.typeOf? id)) = [] := by
      refine List.filterMap_eq_nil_iff.mpr fun later hlater => ?_
      refine Option.eq_none_iff_forall_ne_some.mpr fun said hsaid => hnew ?_
      exact List.mem_filterMap.mpr
        ⟨later, hlater, said?_typeId?_iff.mpr ⟨said, said?_typeOf?_iff.mp hsaid⟩⟩
    rw [List.filterMap_append, List.filterMap_cons_some (said?_typeOf?_iff.mpr hfact), hafter,
      List.getLast?_concat]

theorem version_recordAll (module : Module) (insts : List Instruction) :
    (module.recordAll insts).version = module.version := by
  induction insts using List.reverseRecOn with
  | nil => rfl
  | append_singleton insts inst ih =>
      rw [recordAll_append_singleton]
      rcases inst.fact? with _ | fact
      · exact ih
      · cases fact <;> exact ih

/-- A look-up is told what instructions declare in its place. -/
theorem Tracks.told {α : Type} {lookup : Module → Option α} {tells? : Fact → Option α}
    {declares : α → Fact} (htracks : Tracks lookup tells?)
    (htells : ∀ fact value, tells? fact = some value ↔ fact = declares value)
    (version : Version) (insts : List Instruction) :
    Told insts (Instruction.Declares declares) (lookup (Module.recordAll { version } insts)) := by
  rw [htracks.recordAll]
  refine told_getLast? (fun inst value => ?_) insts
  exact (Instruction.said?_eq_some fun fact => htells fact value).symm

/-- What a module answers if it was collected from these instructions behind this version word. -/
structure Answers (module : Module) (word : UInt32) (insts : List Instruction) : Prop where
  major : module.version.major.toNat = word.toNat / 65536 % 256
  minor : module.version.minor.toNat = word.toNat / 256 % 256
  entryPoints : (insts.filter (·.opcode = .entryPoint)).map Instruction.fact? =
    module.entryPoints.map fun entry => some (.entryPoint entry)
  vars : (insts.filter Instruction.declaresVar).map Instruction.fact? =
    module.vars.map fun var => some (.var var)
  typedOnce : insts.Pairwise fun inst later => inst.opcode.declaresType = true →
    later.opcode.declaresType = true → inst.resultId ≠ later.resultId
  typed : ∀ id decl, module.type? id = some decl ↔ ∃ inst ∈ insts,
    inst.opcode.declaresType = true ∧ inst.resultId = some id ∧
      TypeDecl.ofOperands? inst.opcode inst.operands = some decl
  untyped : ∀ id, module.type? id = none ↔
    ∀ inst ∈ insts, inst.opcode.declaresType = true → inst.resultId ≠ some id
  constant : ∀ id, Told insts (Instruction.Declares (.constant id)) (module.constant? id)
  name : ∀ id, Told insts (Instruction.Declares (.name id)) (module.name? id)
  memberName : ∀ id member,
    Told insts (Instruction.Declares (.memberName id member)) (module.memberName? id member)
  decoration : ∀ id decoration, Told insts (Instruction.Declares (.decoration id decoration))
    (module.decoration? id decoration)
  memberDecoration : ∀ id member decoration,
    Told insts (Instruction.Declares (.memberDecoration id member decoration))
      (module.memberDecoration? id member decoration)
  /-- Only instructions without a part in the interface declare nothing. -/
  silent : ∀ inst ∈ insts, inst.fact? = none ↔ inst.Silent
  /-- Such an instruction may as well be left out. -/
  inert : ∀ before inst after, insts = before ++ inst :: after → inst.fact? = none →
    ofStream ⟨word, before ++ after⟩ = .ok module

/-- Instructions that declare nothing can be left out. -/
theorem ofInstructions_of_inert {version : Version} {before after : List Instruction}
    {inst : Instruction} {module : Module} (hinert : inst.fact? = none)
    (hmodule : ofInstructions version (before ++ inst :: after) = .ok module) :
    ofInstructions version (before ++ after) = .ok module := by
  obtain ⟨⟨hformed, hdistinct⟩, rfl⟩ := ofInstructions_eq_ok.mp hmodule
  have hkept : (before ++ after).Sublist (before ++ inst :: after) :=
    (List.Sublist.refl before).append (List.sublist_cons_self inst after)
  refine ofInstructions_eq_ok.mpr ⟨⟨fun kept hmem => ?_, hdistinct.sublist (hkept.filterMap _)⟩, ?_⟩
  · exact hformed kept (hkept.subset hmem)
  · simp [recordAll, hinert]

/-- A collected module answers every question as its instructions say. -/
theorem ofStream_answers {word : UInt32} {insts : List Instruction} {module : Module}
    (hmodule : ofStream ⟨word, insts⟩ = .ok module) : module.Answers word insts := by
  obtain ⟨haccepted, rfl⟩ := ofInstructions_eq_ok.mp hmodule
  have hformed := haccepted.formed
  have htyped (id : Ident) (decl : TypeDecl) :
      (recordAll { version := .ofWord word } insts).type? id = some decl ↔
        ∃ inst ∈ insts, inst.fact? = some (.type id decl) :=
    type?_recordAll_iff (.ofWord word) haccepted
  constructor
  case major =>
    rw [version_recordAll]
    simp [Version.ofWord, Word.byte, Nat.shiftRight_eq_div_pow]
  case minor =>
    rw [version_recordAll]
    simp [Version.ofWord, Word.byte, Nat.shiftRight_eq_div_pow]
  case entryPoints => exact map_fact?_entryPoints _ haccepted
  case vars => exact map_fact?_vars _ haccepted
  case typedOnce =>
    refine (List.pairwise_filterMap.mp haccepted.distinct).imp_of_mem
      fun hinst hlater hdistinct htype htypeLater hsame => ?_
    obtain ⟨id, decl, hid, hfact⟩ :=
      Instruction.exists_type_of_declaresType (hformed _ hinst) htype
    obtain ⟨other, said, hother, hsaid⟩ :=
      Instruction.exists_type_of_declaresType (hformed _ hlater) htypeLater
    rw [hid, hother, Option.some.injEq] at hsame
    exact hdistinct id (said?_typeId?_iff.mpr ⟨decl, hfact⟩) other
      (said?_typeId?_iff.mpr ⟨said, hsaid⟩) hsame
  case typed =>
    intro id decl
    simp only [htyped, Instruction.fact?_eq_type_iff]
  case untyped =>
    intro id
    constructor
    · intro hnone inst hinst htype hid
      obtain ⟨other, decl, hother, hfact⟩ :=
        Instruction.exists_type_of_declaresType (hformed inst hinst) htype
      rw [hid, Option.some.injEq] at hother
      subst hother
      rw [(htyped id decl).mpr ⟨inst, hinst, hfact⟩] at hnone
      cases hnone
    · intro hnew
      refine Option.eq_none_iff_forall_ne_some.mpr fun decl hdecl => ?_
      obtain ⟨inst, hinst, hfact⟩ := (htyped id decl).mp hdecl
      obtain ⟨htype, hid, -⟩ := Instruction.fact?_eq_type_iff.mp hfact
      exact hnew inst hinst htype hid
  case constant =>
    exact fun id => (tracks_constant id).told (Fact.valueOf?_eq_some id) _ insts
  case name => exact fun id => (tracks_name id).told (Fact.nameOf?_eq_some id) _ insts
  case memberName =>
    exact fun id member =>
      (tracks_memberName id member).told (Fact.memberNameOf?_eq_some id member) _ insts
  case decoration =>
    exact fun id decoration =>
      (tracks_decoration id decoration).told (Fact.paramsOf?_eq_some id decoration) _ insts
  case memberDecoration =>
    exact fun id member decoration => (tracks_memberDecoration id member decoration).told
      (Fact.memberParamsOf?_eq_some id member decoration) _ insts
  case silent => exact fun inst hinst => ⟨hformed inst hinst, Instruction.Silent.fact?_eq_none⟩
  case inert =>
    rintro before inst after rfl hinert
    exact ofInstructions_of_inert hinert hmodule

/-- A renamed type, a float constant under the identifier of an integer constant, and variables
inside and outside of functions. -/
def renamedType : List Instruction :=
  [ { opcode := .name, operands := [.ref 1, .string "first"] },
    { opcode := .name, operands := [.ref 1, .string "last"] },
    { opcode := .typeInt, resultId := some 1, operands := [.int32 32, .int32 0] },
    { opcode := .constant, resultType := some 1, resultId := some 2, operands := [.int32 7] },
    { opcode := .constant, resultType := some 1, resultId := some 2, operands := [.float32 0] },
    { opcode := .var, resultType := some 3, resultId := some 4,
      operands := [.enumerant .storageClass StorageClass.uniform] },
    { opcode := .var, resultType := some 3, resultId := some 5,
      operands := [.enumerant .storageClass StorageClass.function] } ]

theorem ofStream_answers_renamedType :
    ∃ module, ofStream ⟨0x00010300, renamedType⟩ = .ok module ∧
      module.Answers 0x00010300 renamedType :=
  ⟨_, rfl, ofStream_answers rfl⟩

end Module

end ShaderInterface
