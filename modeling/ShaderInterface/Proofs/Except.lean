/-!
# Sequencing computations that can fail

One law for each way in which a step can end, and what a successful sequence says of its steps.
-/

namespace ShaderInterface

variable {ε α β : Type}

@[simp] theorem pure_eq_ok (value : α) : (pure value : Except ε α) = .ok value := rfl

@[simp] theorem ok_bind (value : α) (next : α → Except ε β) :
    (Except.ok value >>= next) = next value := rfl

@[simp] theorem error_bind (error : ε) (next : α → Except ε β) :
    (Except.error error >>= next) = .error error := rfl

theorem bind_eq_ok {step : Except ε α} {next : α → Except ε β} {result : β} :
    (step >>= next) = .ok result ↔ ∃ value, step = .ok value ∧ next value = .ok result := by
  cases step <;> simp

/-- Going through a list ends with the first element that fails. -/
theorem mapM_eq_error {f : α → Except ε β} {before after : List α} {a : α} {error : ε}
    (hbefore : ∀ b ∈ before, ∃ value, f b = .ok value) (ha : f a = .error error) :
    (before ++ a :: after).mapM f = .error error := by
  induction before with
  | nil => rw [List.nil_append, List.mapM_cons, ha, error_bind]
  | cons b before ih =>
      obtain ⟨value, hvalue⟩ := hbefore b List.mem_cons_self
      rw [List.cons_append, List.mapM_cons, hvalue, ok_bind,
        ih fun c hc => hbefore c (List.mem_cons_of_mem _ hc), error_bind]

/-- A list whose elements cannot be gone through has a first one that fails, and its error is the
one of the list. -/
theorem mapM_eq_error_iff {f : α → Except ε β} {as : List α} {error : ε} :
    as.mapM f = .error error ↔ ∃ before a after, as = before ++ a :: after ∧
      (∀ b ∈ before, ∃ value, f b = .ok value) ∧ f a = .error error := by
  constructor
  · intro hlist
    induction as with
    | nil => cases hlist
    | cons a as ih =>
        rw [List.mapM_cons] at hlist
        cases hfirst : f a with
        | error cause =>
            rw [hfirst, error_bind] at hlist
            cases hlist
            exact ⟨[], a, as, rfl, by simp, hfirst⟩
        | ok value =>
            rw [hfirst, ok_bind] at hlist
            cases hrest : as.mapM f with
            | ok values => simp [hrest] at hlist
            | error cause =>
                rw [hrest, error_bind] at hlist
                cases hlist
                obtain ⟨before, b, after, rfl, hbefore, hb⟩ := ih hrest
                refine ⟨a :: before, b, after, rfl, ?_, hb⟩
                exact List.forall_mem_cons.mpr ⟨⟨value, hfirst⟩, hbefore⟩
  · rintro ⟨before, a, after, rfl, hbefore, ha⟩
    exact mapM_eq_error hbefore ha

/-! ## Computations that succeed -/

/-- The computation gives a value, and the value is as described. -/
def Gives (P : α → Prop) (x : Except ε α) : Prop :=
  ∃ a, x = .ok a ∧ P a

namespace Gives

variable {P : α → Prop} {Q : β → Prop} {x : Except ε α}

theorem ok {a : α} (hvalue : P a) : Gives P (.ok a : Except ε α) :=
  ⟨a, rfl, hvalue⟩

theorem mono {P' : α → Prop} (hgives : Gives P x) (himp : ∀ a, P a → P' a) : Gives P' x := by
  obtain ⟨a, hx, hvalue⟩ := hgives
  exact ⟨a, hx, himp a hvalue⟩

theorem bind {next : α → Except ε β} (hgives : Gives P x) (hnext : ∀ a, P a → Gives Q (next a)) :
    Gives Q (x >>= next) := by
  obtain ⟨a, rfl, hvalue⟩ := hgives
  exact hnext a hvalue

/-- Every value in the list that is given comes from an element of the other list. -/
theorem mapM {R : α → β → Prop} {f : α → Except ε β} {as : List α}
    (hstep : ∀ a ∈ as, Gives (R a) (f a)) :
    Gives (fun bs => ∀ b ∈ bs, ∃ a ∈ as, R a b) (as.mapM f) := by
  induction as with
  | nil => exact .ok (by simp)
  | cons a as ih =>
      rw [List.mapM_cons]
      refine (hstep a (List.mem_cons_self ..)).bind fun b hb => ?_
      refine (ih fun a ha => hstep a (List.mem_cons_of_mem _ ha)).bind fun bs hbs => .ok ?_
      intro c hc
      rcases List.mem_cons.mp hc with rfl | hc
      · exact ⟨a, List.mem_cons_self .., hb⟩
      · obtain ⟨a', ha', hc'⟩ := hbs c hc
        exact ⟨a', List.mem_cons_of_mem _ ha', hc'⟩

end Gives

/-! ## Computations that fail only in some ways -/

/-- If the computation fails, the error is as described. -/
def FailsOnly (P : ε → Prop) (x : Except ε α) : Prop :=
  ∀ error, x = .error error → P error

namespace FailsOnly

variable {P : ε → Prop} {x : Except ε α}

theorem ok (a : α) : FailsOnly P (.ok a) := by
  intro error herror
  cases herror

theorem error {e : ε} (he : P e) : FailsOnly P (.error e : Except ε α) := by
  intro error herror
  cases herror
  exact he

/-- What follows need fail only so after values that the first step really gives. -/
theorem bind {next : α → Except ε β} (hx : FailsOnly P x)
    (hnext : ∀ a, x = .ok a → FailsOnly P (next a)) : FailsOnly P (x >>= next) := by
  cases x with
  | ok a => exact hnext a rfl
  | error e => exact .error (hx e rfl)

theorem mapM {f : α → Except ε β} {as : List α} (hstep : ∀ a, FailsOnly P (f a)) :
    FailsOnly P (as.mapM f) := by
  induction as with
  | nil => exact .ok []
  | cons a as ih =>
      rw [List.mapM_cons]
      refine (hstep a).bind fun b _ => ?_
      exact ih.bind fun bs _ => .ok (b :: bs)

end FailsOnly

/-! ## Computations that fail -/

/-- The computation ends in an error, whichever it is. -/
def Fails (x : Except ε α) : Prop :=
  ∃ error, x = .error error

namespace Fails

@[simp] theorem error (e : ε) : Fails (.error e : Except ε α) :=
  ⟨e, rfl⟩

@[simp] theorem not_ok (a : α) : ¬ Fails (.ok a : Except ε α) :=
  nofun

theorem not_iff {x : Except ε α} : ¬ Fails x ↔ ∃ a, x = .ok a := by
  cases x with
  | ok a => simp
  | error e => simp

/-- A sequence fails in its first step, or in what follows after a value of it. -/
theorem bind_iff {x : Except ε α} {next : α → Except ε β} :
    Fails (x >>= next) ↔ Fails x ∨ ∃ a, x = .ok a ∧ Fails (next a) := by
  cases x with
  | ok a => simp
  | error e => simp

theorem bind_pure_iff {x : Except ε α} {f : α → β} :
    Fails (x >>= fun a => pure (f a)) ↔ Fails x := by
  simp only [bind_iff, pure_eq_ok, not_ok, and_false, exists_false, or_false]

/-- Going through a list fails if and only if one of its elements does. -/
theorem mapM_iff {f : α → Except ε β} {as : List α} :
    Fails (as.mapM f) ↔ ∃ a ∈ as, Fails (f a) := by
  induction as with
  | nil => simp
  | cons a as ih =>
      simp only [List.mapM_cons, bind_iff, List.mem_cons, exists_eq_or_imp, ih]
      cases f a <;> simp

end Fails

end ShaderInterface
