import ShaderInterface.Proofs.BlockContents

/-!
# What a reflection notes

A reflection that succeeds has noted what its steps noted, one after the other. Most steps only ask
the module and note nothing; laying out a struct notes one thing once it is done.
-/

namespace ShaderInterface

namespace Reflecting

variable {α β : Type}

/-- The messages that a reflection notes, also if it fails in the end. -/
def notes (x : Reflecting α) : List Entry :=
  x.run.log

/-- Nothing is noted, however the reflection ends. -/
def Silent (x : Reflecting α) : Prop :=
  x.notes = []

/-- Nothing is noted but what is allowed, however the reflection ends. -/
def NotesOnly (allowed : Entry → Prop) (x : Reflecting α) : Prop :=
  ∀ entry ∈ x.notes, allowed entry

@[simp] theorem notes_pure (a : α) : (pure a : Reflecting α).notes = [] := rfl

@[simp] theorem notes_note (level : Level) (text : String) :
    (note level text).notes = [⟨level, text⟩] := rfl

/-- After a step that fails nothing more is noted. -/
theorem notes_bind (x : Reflecting α) (next : α → Reflecting β) :
    (x >>= next).notes = x.notes ++
      match x.outcome with
      | .ok a => (next a).notes
      | .error _ => [] := by
  simp only [notes, outcome, ExceptT.run_bind, Logged.log_bind]
  cases x.run.value <;> rfl

theorem notes_bind_of_ok {x : Reflecting α} {a : α} (hx : x.outcome = .ok a)
    (next : α → Reflecting β) : (x >>= next).notes = x.notes ++ (next a).notes := by
  rw [notes_bind, hx]

namespace NotesOnly

variable {allowed : Entry → Prop} {x : Reflecting α}

theorem bind {next : α → Reflecting β} (hx : NotesOnly allowed x)
    (hnext : ∀ a, NotesOnly allowed (next a)) : NotesOnly allowed (x >>= next) := by
  intro entry hentry
  rw [notes_bind, List.mem_append] at hentry
  rcases hentry with hfirst | hrest
  · exact hx entry hfirst
  · cases houtcome : x.outcome with
    | ok a =>
        rw [houtcome] at hrest
        exact hnext a entry hrest
    | error error =>
        rw [houtcome] at hrest
        contradiction

theorem mapM {f : α → Reflecting β} (hstep : ∀ a, NotesOnly allowed (f a)) (as : List α) :
    NotesOnly allowed (as.mapM f) := by
  induction as with
  | nil => exact List.forall_mem_nil allowed
  | cons a as ih =>
      rw [List.mapM_cons]
      apply (hstep a).bind
      intro b
      apply ih.bind
      intro bs
      exact List.forall_mem_nil allowed

end NotesOnly

theorem silent_iff_notesOnly {x : Reflecting α} : Silent x ↔ NotesOnly (fun _ => False) x :=
  List.eq_nil_iff_forall_not_mem

theorem silent_pure (a : α) : Silent (pure a : Reflecting α) := rfl

theorem silent_ask (context : String) (answer : Answer α) : Silent (ask context answer) := by
  cases answer <;> rfl

namespace Silent

variable {x : Reflecting α}

theorem notesOnly (hsilent : Silent x) (allowed : Entry → Prop) : NotesOnly allowed x := by
  intro entry hentry
  exact (silent_iff_notesOnly.mp hsilent entry hentry).elim

/-- Where the first step notes nothing, what is noted comes from what follows. -/
theorem notes_bind_of_ok (hsilent : Silent x) {a : α} (hx : x.outcome = .ok a)
    (next : α → Reflecting β) : (x >>= next).notes = (next a).notes := by
  rw [Reflecting.notes_bind_of_ok hx, show x.notes = [] from hsilent, List.nil_append]

theorem bind {next : α → Reflecting β} (hx : Silent x) (hnext : ∀ a, Silent (next a)) :
    Silent (x >>= next) := by
  apply silent_iff_notesOnly.mpr
  exact (silent_iff_notesOnly.mp hx).bind fun a => silent_iff_notesOnly.mp (hnext a)

theorem mapM {f : α → Reflecting β} (hstep : ∀ a, Silent (f a)) (as : List α) :
    Silent (as.mapM f) := by
  apply silent_iff_notesOnly.mpr
  exact NotesOnly.mapM (fun a => silent_iff_notesOnly.mp (hstep a)) as

end Silent

/-- If each step that succeeds makes one note, so does each element of a list. -/
theorem forall₂_notes_of_mapM {f : α → Reflecting β} {relation : α → Entry → Prop}
    (hstep : ∀ a b, (f a).outcome = .ok b → ∃ entry, relation a entry ∧ (f a).notes = [entry])
    {as : List α} {bs : List β} (hall : (as.mapM f).outcome = .ok bs) :
    List.Forall₂ relation as (as.mapM f).notes := by
  induction as generalizing bs with
  | nil => exact .nil
  | cons a as ih =>
      rw [List.mapM_cons, outcome_bind] at hall
      obtain ⟨b, hb, hrest⟩ := bind_eq_ok.mp hall
      rw [outcome_bind] at hrest
      obtain ⟨rest, hrest, -⟩ := bind_eq_ok.mp hrest
      obtain ⟨entry, hentry, hnotes⟩ := hstep a b hb
      rw [List.mapM_cons, notes_bind_of_ok hb, hnotes, notes_bind_of_ok hrest, notes_pure,
        List.append_nil]
      exact .cons hentry (ih hrest)

end Reflecting

namespace Reflector

open Reflecting

variable (reflector : Reflector)

theorem silent_membersFrom (id : Ident) (structLabel : String) (first : Nat)
    (types : List Ident) : Silent (reflector.membersFrom id structLabel first types) := by
  induction types generalizing first with
  | nil => exact silent_pure []
  | cons type types ih =>
      have hmember : Silent (reflector.member id structLabel first.toUInt32 type) :=
        (silent_ask _ _).bind fun info => (silent_ask _ _).bind fun offset =>
          (silent_ask _ _).bind fun size => silent_pure _
      exact hmember.bind fun member => (ih (first + 1)).bind fun rest => silent_pure _

theorem silent_slotOf (kind : ResourceKind) (resource : Resource) :
    Silent (reflector.slotOf kind resource) :=
  ((silent_ask _ _).bind fun _ => silent_pure _).bind fun _ =>
    ((silent_ask _ _).bind fun _ => silent_pure _).bind fun _ => silent_pure _

theorem silent_accessOf (resource : Resource) : Silent (reflector.accessOf resource) :=
  (silent_ask _ _).bind fun _ => (silent_ask _ _).bind fun _ => silent_pure _

variable {reflector}

/-- Laying out a struct makes one note, when all is known about it. -/
theorem notes_layout {type : Ident} {layout : BlockLayout}
    (hlayout : (reflector.layout type).outcome = .ok layout) :
    ∃ text, (reflector.layout type).notes = [⟨.trace, text⟩] := by
  unfold Reflector.layout at hlayout ⊢
  rw [outcome_bind] at hlayout
  obtain ⟨info, hinfo, hlayout⟩ := bind_eq_ok.mp hlayout
  rw [outcome_bind] at hlayout
  obtain ⟨types, htypes, hlayout⟩ := bind_eq_ok.mp hlayout
  rw [outcome_bind] at hlayout
  obtain ⟨members, hmembers, hlayout⟩ := bind_eq_ok.mp hlayout
  rw [outcome_bind] at hlayout
  obtain ⟨size, hsize, -⟩ := bind_eq_ok.mp hlayout
  rw [(silent_ask _ _).notes_bind_of_ok hinfo, (silent_ask _ _).notes_bind_of_ok htypes,
    (reflector.silent_membersFrom _ _ _ _).notes_bind_of_ok hmembers,
    (silent_ask _ _).notes_bind_of_ok hsize]
  exact ⟨_, rfl⟩

end Reflector

end ShaderInterface
