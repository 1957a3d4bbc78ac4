import Mathlib.Data.List.Forall2
import ShaderInterface.Proofs.Except
import ShaderInterface.Reflection.Block

/-!
# Computations that end alike

Two computations end alike if both give related values or both fail with related errors. This
relation goes through sequencing, so two runs of one program end alike as soon as each of their
steps does. What a reflection notes is left out of the comparison.
-/

namespace ShaderInterface

/-- Both computations give values related by `R`, or both fail with errors related by `E`. -/
inductive Alike {ε ε' α β : Type} (E : ε → ε' → Prop) (R : α → β → Prop) :
    Except ε α → Except ε' β → Prop
  | ok {a : α} {b : β} (hvalue : R a b) : Alike E R (.ok a) (.ok b)
  | error {e : ε} {e' : ε'} (herror : E e e') : Alike E R (.error e) (.error e')

namespace Alike

variable {ε ε' α β γ δ : Type} {E : ε → ε' → Prop} {R : α → β → Prop} {S : γ → δ → Prop}
  {x : Except ε α} {y : Except ε' β}

theorem imp {E' : ε → ε' → Prop} {R' : α → β → Prop} (halike : Alike E R x y)
    (herrors : ∀ e e', E e e' → E' e e') (hvalues : ∀ a b, R a b → R' a b) : Alike E' R' x y := by
  cases halike with
  | ok hvalue => exact .ok (hvalues _ _ hvalue)
  | error herror => exact .error (herrors _ _ herror)

theorem mono {R' : α → β → Prop} (halike : Alike E R x y) (himp : ∀ a b, R a b → R' a b) :
    Alike E R' x y :=
  halike.imp (fun _ _ herror => herror) himp

/-- The continuations need to agree only on values that the first steps really give. -/
theorem bind {next : α → Except ε γ} {next' : β → Except ε' δ} (halike : Alike E R x y)
    (hnext : ∀ a b, x = .ok a → y = .ok b → R a b → Alike E S (next a) (next' b)) :
    Alike E S (x >>= next) (y >>= next') := by
  cases halike with
  | ok hvalue => exact hnext _ _ rfl rfl hvalue
  | error herror => exact .error herror

theorem mapError {ζ ζ' : Type} {F : ζ → ζ' → Prop} {f : ε → ζ} {g : ε' → ζ'}
    (halike : Alike E R x y) (himp : ∀ e e', E e e' → F (f e) (g e')) :
    Alike F R (x.mapError f) (y.mapError g) := by
  cases halike with
  | ok hvalue => exact .ok hvalue
  | error herror => exact .error (himp _ _ herror)

theorem mapM {f : α → Except ε γ} {g : β → Except ε' δ} {xs : List α} {ys : List β}
    (hlists : List.Forall₂ R xs ys) (hstep : ∀ a b, R a b → Alike E S (f a) (g b)) :
    Alike E (List.Forall₂ S) (xs.mapM f) (ys.mapM g) := by
  induction hlists with
  | nil => exact .ok .nil
  | cons hhead _ ih =>
      simp only [List.mapM_cons]
      refine (hstep _ _ hhead).bind fun c d _ _ hvalue => ?_
      exact ih.bind fun cs ds _ _ hvalues => .ok (.cons hvalue hvalues)

/-- The values in a list that is given come from the elements of the other list in order. -/
theorem forall₂_of_mapM {f : α → Except ε γ} {xs : List α} {zs : List γ}
    (hlist : xs.mapM f = .ok zs) : List.Forall₂ (fun a c => f a = .ok c) xs zs := by
  induction xs generalizing zs with
  | nil =>
      cases hlist
      exact .nil
  | cons a as ih =>
      rw [List.mapM_cons] at hlist
      obtain ⟨c, hc, hlist⟩ := bind_eq_ok.mp hlist
      obtain ⟨cs, hcs, hlist⟩ := bind_eq_ok.mp hlist
      cases hlist
      exact .cons hc (ih hcs)

/-- A list is given when each of its values is. -/
theorem mapM_of_forall₂ {f : α → Except ε γ} {xs : List α} {zs : List γ}
    (hall : List.Forall₂ (fun a c => f a = .ok c) xs zs) : xs.mapM f = .ok zs := by
  induction hall with
  | nil => rfl
  | cons hvalue _ ih => rw [List.mapM_cons, hvalue, ok_bind, ih, ok_bind, pure_eq_ok]

theorem mapM_eq_ok_iff {f : α → Except ε γ} {xs : List α} {zs : List γ} :
    xs.mapM f = .ok zs ↔ List.Forall₂ (fun a c => f a = .ok c) xs zs :=
  ⟨forall₂_of_mapM, mapM_of_forall₂⟩

/-- If equal values and equal errors are compared, computations that end alike end in the same
way. -/
theorem eq {x y : Except ε α} (halike : Alike (· = ·) (· = ·) x y) : x = y := by
  cases halike with
  | ok hvalue => rw [hvalue]
  | error herror => rw [herror]

/-- If equal values are compared, computations that end alike give the same value. -/
theorem ok_iff {y : Except ε' α} (halike : Alike E (· = ·) x y) (a : α) :
    x = .ok a ↔ y = .ok a := by
  cases halike with
  | ok hvalue => rw [hvalue, Except.ok.injEq, Except.ok.injEq]
  | error => simp

/-- Where no errors are related, computations that end alike give a value. -/
theorem exists_ok (halike : Alike E R x y) (hnone : ∀ e e', ¬ E e e') : ∃ a, x = .ok a := by
  cases halike with
  | ok => exact ⟨_, rfl⟩
  | error herror => exact absurd herror (hnone _ _)

/-- A computation that succeeds ends like itself. -/
theorem of_gives {E : ε → ε → Prop} {P : α → Prop} {R : α → α → Prop} (hgives : Gives P x)
    (himp : ∀ a, P a → R a a) : Alike E R x x := by
  obtain ⟨a, rfl, hvalue⟩ := hgives
  exact .ok (himp a hvalue)

end Alike

namespace Reflecting

variable {α β : Type}

/-- How a reflection ends, without what it noted. -/
def outcome (x : Reflecting α) : Except ReflectError α :=
  x.run.value

@[simp] theorem outcome_pure (a : α) : (pure a : Reflecting α).outcome = .ok a := rfl

@[simp] theorem outcome_bind (x : Reflecting α) (next : α → Reflecting β) :
    (x >>= next).outcome = x.outcome >>= fun a => (next a).outcome := by
  simp only [outcome, ExceptT.run_bind, Logged.value_bind]
  cases x.run.value <;> rfl

@[simp] theorem outcome_note (level : Level) (text : String) :
    (note level text).outcome = .ok () := rfl

@[simp] theorem outcome_ask (context : String) (answer : Answer α) :
    (ask context answer).outcome = answer.mapError fun error => .query context error.text := by
  cases answer <;> rfl

theorem outcome_ask_eq_ok {context : String} {answer : Answer α} {a : α} :
    (ask context answer).outcome = .ok a ↔ answer = .ok a := by
  rw [outcome_ask]
  cases answer <;> simp [Except.mapError]

@[simp] theorem outcome_mapM (f : α → Reflecting β) (xs : List α) :
    (xs.mapM f).outcome = xs.mapM fun a => (f a).outcome := by
  induction xs with
  | nil => rfl
  | cons a as ih =>
      simp only [List.mapM_cons, outcome_bind, outcome_pure, ih]
      rfl

/-- Notes alone do not fail. -/
@[simp] theorem outcome_forM_note (level : Level) (texts : List String) :
    (texts.forM (note level)).outcome = .ok () := by
  induction texts with
  | nil => rfl
  | cons text texts ih =>
      have hsteps : (text :: texts).forM (note level) =
          (do note level text; texts.forM (note level)) := rfl
      rw [hsteps, outcome_bind, outcome_note, ok_bind, ih]

end Reflecting

end ShaderInterface
