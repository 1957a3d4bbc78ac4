import Mathlib.Data.List.Pairwise
import ShaderInterface.Proofs.Assembled

/-!
# The identifiers of an assembled module

An assembler hands out identifiers in ascending order, so what it is asked to define has results of
its own, and each later one is another.
-/

namespace ShaderInterface

namespace AssemblerStep

/-- How many identifiers the step takes. -/
def idCount : AssemblerStep → Nat
  | .entryPoint .. | .name .. | .memberName .. | .decorate .. | .memberDecorate .. => 0
  | .function => 4
  | _ => 1

end AssemblerStep

namespace Assembler

/-- How many identifiers the steps take. -/
def idCount (steps : List AssemblerStep) : Nat :=
  steps.foldl (fun count step => count + step.idCount) 0

theorem idCount_append_singleton (steps : List AssemblerStep) (step : AssemblerStep) :
    idCount (steps ++ [step]) = idCount steps + step.idCount := by
  rw [idCount, List.foldl_append]
  rfl

theorem toNat_nextId_step {asm : Assembler} {step : AssemblerStep}
    (hbound : asm.nextId.toNat + step.idCount < 4294967296) :
    (asm.step step).2.nextId.toNat = asm.nextId.toNat + step.idCount := by
  cases step with
  | entryPoint | name | memberName | decorate | memberDecorate => rfl
  | function =>
      change (asm.nextId + 1 + 1 + 1 + 1).toNat = asm.nextId.toNat + 4
      change asm.nextId.toNat + 4 < 4294967296 at hbound
      simp only [UInt32.toNat_add, UInt32.toNat_one]
      omega
  | _ =>
      change (asm.nextId + 1).toNat = asm.nextId.toNat + 1
      change asm.nextId.toNat + 1 < 4294967296 at hbound
      simp only [UInt32.toNat_add, UInt32.toNat_one]
      omega

theorem toNat_nextId_run {steps : List AssemblerStep}
    (hfew : idCount steps < 4294967295) :
    (new.run steps).nextId.toNat = 1 + idCount steps := by
  induction steps using List.reverseRecOn with
  | nil => rfl
  | append_singleton steps step ih =>
      rw [idCount_append_singleton] at hfew ⊢
      have hrun := ih (by omega)
      rw [run_append_singleton, toNat_nextId_step (by omega), hrun]
      omega

end Assembler

/-- The instructions have results of their own, which are numbered below the bound. -/
structure Numbered (bound : Nat) (insts : List Instruction) : Prop where
  below : ∀ inst ∈ insts, ∃ id, inst.resultId = some id ∧ id.toNat < bound
  distinct : insts.Pairwise fun inst later => inst.resultId ≠ later.resultId

namespace Numbered

variable {bound : Nat} {insts more : List Instruction}

theorem append {count : Nat} (hinsts : Numbered bound insts)
    (hmore : ∀ inst ∈ more, ∃ id, inst.resultId = some id ∧ bound ≤ id.toNat ∧
      id.toNat < bound + count)
    (hdistinct : more.Pairwise fun inst later => inst.resultId ≠ later.resultId) :
    Numbered (bound + count) (insts ++ more) := by
  constructor
  · intro inst hinst
    rcases List.mem_append.mp hinst with hinst | hinst
    · obtain ⟨id, hid, hlt⟩ := hinsts.below inst hinst
      exact ⟨id, hid, by omega⟩
    · obtain ⟨id, hid, -, hlt⟩ := hmore inst hinst
      exact ⟨id, hid, hlt⟩
  · refine List.pairwise_append.mpr ⟨hinsts.distinct, hdistinct, fun inst hinst later hlater => ?_⟩
    obtain ⟨id, hid, hlt⟩ := hinsts.below inst hinst
    obtain ⟨other, hother, hle, -⟩ := hmore later hlater
    rw [hid, hother]
    rintro heq
    cases heq
    omega

theorem mono {other : Nat} (hinsts : Numbered bound insts) (hle : bound ≤ other) :
    Numbered other insts := by
  refine ⟨fun inst hinst => ?_, hinsts.distinct⟩
  obtain ⟨id, hid, hlt⟩ := hinsts.below inst hinst
  exact ⟨id, hid, by omega⟩

theorem append_singleton {inst : Instruction} {id : Ident} (hinsts : Numbered id.toNat insts)
    (hid : inst.resultId = some id) : Numbered (id.toNat + 1) (insts ++ [inst]) := by
  refine hinsts.append (fun later hlater => ?_) (List.pairwise_singleton _ _)
  obtain rfl := List.mem_singleton.mp hlater
  exact ⟨id, hid, Nat.le_refl _, Nat.lt_succ_self _⟩

theorem eq_of_resultId (hinsts : Numbered bound insts) {inst later : Instruction}
    (hinst : inst ∈ insts) (hlater : later ∈ insts) (hid : inst.resultId = later.resultId) :
    inst = later := by
  have hsymm : Std.Symm fun inst later : Instruction => inst.resultId ≠ later.resultId :=
    ⟨fun _ _ hne => hne.symm⟩
  by_contra hne
  exact hinsts.distinct.forall hinst hlater hne hid

end Numbered

theorem numbered_step {asm : Assembler} {step : AssemblerStep} {insts : List Instruction}
    (hnumbered : Numbered asm.nextId.toNat insts)
    (hbound : asm.nextId.toNat + step.idCount < 4294967296) :
    Numbered (asm.step step).2.nextId.toNat
      (insts ++ AssemblerCall.globals (step, (asm.step step).1)) := by
  rw [Assembler.toNat_nextId_step hbound]
  cases step with
  | allocId | entryPoint | name | memberName | decorate | memberDecorate =>
      exact (List.append_nil insts).symm ▸ hnumbered.mono (Nat.le_add_right _ _)
  | function =>
      have hnext : (asm.nextId + 1).toNat = asm.nextId.toNat + 1 := by
        change asm.nextId.toNat + 4 < 4294967296 at hbound
        simp only [UInt32.toNat_add, UInt32.toNat_one]
        omega
      have hfirst : Numbered (asm.nextId + 1).toNat
          (insts ++ [Instruction.declaring .typeVoid asm.nextId []]) :=
        hnext ▸ hnumbered.append_singleton rfl
      have hboth : Numbered (asm.nextId.toNat + 4)
          (insts ++ [Instruction.declaring .typeVoid asm.nextId []] ++
            [Instruction.declaring .typeFunction (asm.nextId + 1) [.ref asm.nextId]]) :=
        (hfirst.append_singleton rfl).mono (by omega)
      rw [AssemblerCall.globals_function, List.append_cons]
      exact hboth
  | _ => exact hnumbered.append_singleton rfl

namespace Assembler

theorem numbered_run {steps : List AssemblerStep} (hfew : idCount steps < 65536) :
    Numbered (new.run steps).nextId.toNat
      ((new.calls steps).flatMap AssemblerCall.globals) := by
  induction steps using List.reverseRecOn with
  | nil => exact ⟨by simp [calls], .nil⟩
  | append_singleton steps step ih =>
      rw [idCount_append_singleton] at hfew
      have hbefore := ih (by omega)
      rw [run_append_singleton, flatMap_calls_append_singleton]
      refine numbered_step hbefore ?_
      rw [toNat_nextId_run (by omega)]
      omega

/-- The identifiers that were handed out, in the order of the calls. -/
def answers (steps : List AssemblerStep) : List Ident :=
  (new.calls steps).filterMap Prod.snd

theorem answers_append_singleton (steps : List AssemblerStep) (step : AssemblerStep) :
    answers (steps ++ [step]) =
      answers steps ++ ((new.run steps).step step).1.toList := by
  rw [answers, calls_append_singleton, List.filterMap_append]
  cases ((new.run steps).step step).1 <;> simp [answers]

/-- A step answers with an identifier that was free before and is not free any more. -/
theorem answer_step {asm : Assembler} {step : AssemblerStep} {id : Ident}
    (hbound : asm.nextId.toNat + step.idCount < 4294967296)
    (hanswer : (asm.step step).1 = some id) :
    asm.nextId ≤ id ∧ id < (asm.step step).2.nextId := by
  rw [UInt32.le_iff_toNat_le, UInt32.lt_iff_toNat_lt, toNat_nextId_step hbound]
  cases step with
  | entryPoint | name | memberName | decorate | memberDecorate => cases hanswer
  | function =>
      cases hanswer
      change asm.nextId.toNat + 4 < 4294967296 at hbound
      change asm.nextId.toNat ≤ (asm.nextId + 1 + 1).toNat ∧
        (asm.nextId + 1 + 1).toNat < asm.nextId.toNat + 4
      simp only [UInt32.toNat_add, UInt32.toNat_one]
      omega
  | _ =>
      cases hanswer
      exact ⟨Nat.le_refl _, Nat.lt_succ_self _⟩

/-- Identifiers are handed out in ascending order, from 1 to below the next free one. -/
theorem answers_ascending {steps : List AssemblerStep} (hfew : idCount steps < 4294967295) :
    (answers steps).Pairwise (· < ·) ∧
      ∀ id ∈ answers steps, 0 < id ∧ id < (new.run steps).nextId := by
  induction steps using List.reverseRecOn with
  | nil => exact ⟨.nil, by simp [answers, calls]⟩
  | append_singleton steps step ih =>
      rw [idCount_append_singleton] at hfew
      obtain ⟨hascending, hbefore⟩ := ih (by omega)
      have hnext : (new.run steps).nextId.toNat = 1 + idCount steps :=
        toNat_nextId_run (by omega)
      have hbound : (new.run steps).nextId.toNat + step.idCount < 4294967296 := by omega
      have hgrows : (new.run steps).nextId ≤ ((new.run steps).step step).2.nextId := by
        rw [UInt32.le_iff_toNat_le, toNat_nextId_step hbound]
        omega
      have hanswer : ∀ id ∈ ((new.run steps).step step).1.toList,
          (new.run steps).nextId ≤ id ∧ id < ((new.run steps).step step).2.nextId :=
        fun id hid => answer_step hbound (Option.mem_toList.mp hid)
      have hpositive : 0 < (new.run steps).nextId := by
        rw [UInt32.lt_iff_toNat_lt, hnext]
        exact Nat.lt_add_right _ Nat.one_pos
      rw [answers_append_singleton, run_append_singleton]
      constructor
      · refine List.pairwise_append.mpr ⟨hascending, ?_, fun id hid later hlater => ?_⟩
        · cases ((new.run steps).step step).1 <;> simp
        · exact UInt32.lt_of_lt_of_le (hbefore id hid).2 (hanswer later hlater).1
      · intro id hid
        rcases List.mem_append.mp hid with hid | hid
        · exact ⟨(hbefore id hid).1, UInt32.lt_of_lt_of_le (hbefore id hid).2 hgrows⟩
        · obtain ⟨hle, hlt⟩ := hanswer id hid
          exact ⟨UInt32.lt_of_lt_of_le hpositive hle, hlt⟩

end Assembler

end ShaderInterface
