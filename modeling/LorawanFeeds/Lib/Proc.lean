import Mathlib.Logic.Basic

/-!
# Procedures over a state

A procedure changes a state and then returns a value or stops with a fault; what it has changed
before a fault stays changed. `Ends` is its weakest precondition, with one condition for each
way to end. Each operation has one rule, so that a proof follows the procedure.
-/
namespace LorawanFeeds.Lib

/-- A computation that returns has gone through all its parts. -/
theorem except_bind_eq_ok {ε α β : Type} {x : Except ε α} {f : α → Except ε β} {b : β} :
    (x >>= f) = .ok b ↔ ∃ a, x = .ok a ∧ f a = .ok b := by
  cases x <;> simp [bind, Except.bind]

def Proc (σ ε α : Type) := σ → Except ε α × σ

namespace Proc

variable {σ ε α β : Type}

protected def bind (x : Proc σ ε α) (f : α → Proc σ ε β) : Proc σ ε β := fun s =>
  match x s with
  | (.ok a, s') => f a s'
  | (.error e, s') => (.error e, s')

instance : Monad (Proc σ ε) where
  pure a s := (.ok a, s)
  bind := Proc.bind

def get : Proc σ ε σ := fun s => (.ok s, s)

def modify (f : σ → σ) : Proc σ ε Unit := fun s => (.ok (), f s)

def raise (e : ε) : Proc σ ε α := fun s => (.error e, s)

def ofExcept (x : Except ε α) : Proc σ ε α := fun s => (x, s)

/-- `if (c) x;`. -/
def when (c : Prop) [Decidable c] (x : Proc σ ε Unit) : Proc σ ε Unit := if c then x else pure ()

/-- A `catch` clause for the faults that `caught` selects. -/
def tryCatch (x : Proc σ ε α) (caught : ε → Bool) (handler : Proc σ ε α) : Proc σ ε α := fun s =>
  match x s with
  | (.ok a, s') => (.ok a, s')
  -- The handler goes on in the state that the body has left.
  | (.error e, s') => if caught e then handler s' else (.error e, s')

/-- A procedure on a part of the state: `enter` makes its state, and `leave` takes it back. -/
def within {τ : Type} (enter : τ → σ) (leave : σ → τ) (x : Proc σ ε α) : Proc τ ε α := fun t =>
  let (result, s) := x (enter t)
  (result, leave s)

/-- A procedure on a part of the state; the rest stays. -/
def onPart {τ : Type} (part : τ → σ) (update : τ → σ → τ) (x : Proc σ ε α) : Proc τ ε α := fun t =>
  let (result, s) := x (part t)
  (result, update t s)

/-- The faults of a procedure as faults of another kind. -/
def mapFault {ε' : Type} (f : ε → ε') (x : Proc σ ε α) : Proc σ ε' α := fun s =>
  let (result, s') := x s
  (result.mapError f, s')

@[simp] theorem pure_apply (a : α) (s : σ) : (pure a : Proc σ ε α) s = (.ok a, s) := rfl

@[simp] theorem get_apply (s : σ) : (get : Proc σ ε σ) s = (.ok s, s) := rfl

@[simp] theorem modify_apply (f : σ → σ) (s : σ) : (modify f : Proc σ ε Unit) s = (.ok (), f s) :=
  rfl

@[simp] theorem raise_apply (e : ε) (s : σ) : (raise e : Proc σ ε α) s = (.error e, s) := rfl

theorem when_pos {c : Prop} [Decidable c] {x : Proc σ ε Unit} (holds : c) : when c x = x :=
  if_pos holds

theorem when_neg {c : Prop} [Decidable c] {x : Proc σ ε Unit} (fails : ¬ c) : when c x = pure () :=
  if_neg fails

theorem bind_apply (x : Proc σ ε α) (f : α → Proc σ ε β) (s : σ) :
    (x >>= f) s = match x s with
      | (.ok a, s') => f a s'
      | (.error e, s') => (.error e, s') := rfl

theorem bind_assoc {γ : Type} (x : Proc σ ε α) (f : α → Proc σ ε β) (g : β → Proc σ ε γ) :
    x >>= f >>= g = x >>= fun a => f a >>= g := by
  funext s
  simp only [bind_apply]
  cases x s with
  | mk result t => cases result <;> rfl

/-- A procedure that returns has gone through all its parts. -/
theorem bind_eq_ok {x : Proc σ ε α} {f : α → Proc σ ε β} {s s' : σ} {b : β} :
    (x >>= f) s = (.ok b, s') ↔ ∃ a t, x s = (.ok a, t) ∧ f a t = (.ok b, s') := by
  rw [bind_apply]
  constructor
  · intro returned
    split at returned
    next a t first => exact ⟨a, t, first, returned⟩
    next => cases returned
  · rintro ⟨a, t, first, second⟩
    rw [first]
    exact second

/-- How the procedure ends: `ok` if it returns, `stop` if it stops with a fault. -/
def Ends (x : Proc σ ε α) (s : σ) (ok : α → σ → Prop) (stop : ε → σ → Prop) : Prop :=
  match x s with
  | (.ok a, s') => ok a s'
  | (.error e, s') => stop e s'

section

variable {s : σ} {ok : α → σ → Prop} {stop : ε → σ → Prop}

theorem ends_pure {a : α} (h : ok a s) : Ends (pure a) s ok stop := h

theorem ends_get {ok : σ → σ → Prop} (h : ok s s) : Ends get s ok stop := h

theorem ends_modify {f : σ → σ} {ok : Unit → σ → Prop} (h : ok () (f s)) :
    Ends (modify f) s ok stop := h

theorem ends_raise {e : ε} (h : stop e s) : Ends (raise e) s ok stop := h

theorem ends_ofExcept {x : Except ε α} (returns : ∀ a, x = .ok a → ok a s)
    (throws : ∀ e, x = .error e → stop e s) : Ends (ofExcept x) s ok stop := by
  cases x with
  | ok a => exact returns a rfl
  | error e => exact throws e rfl

theorem ends_bind {x : Proc σ ε β} {f : β → Proc σ ε α}
    (h : Ends x s (fun b t => Ends (f b) t ok stop) stop) : Ends (x >>= f) s ok stop := by
  rw [Ends] at h
  rw [Ends, bind_apply]
  split at h <;> exact h

theorem ends_when {c : Prop} [Decidable c] {x : Proc σ ε Unit} {ok : Unit → σ → Prop}
    (yes : c → Ends x s ok stop) (no : ¬ c → ok () s) : Ends (when c x) s ok stop := by
  rw [when]
  split
  next holds => exact yes holds
  next fails => exact no fails

theorem ends_tryCatch {x handler : Proc σ ε α} {caught : ε → Bool}
    (h : Ends x s ok fun e t => if caught e then Ends handler t ok stop else stop e t) :
    Ends (tryCatch x caught handler) s ok stop := by
  rw [Ends] at h
  rw [Ends, tryCatch]
  split at h
  next => exact h
  next e t _ =>
    by_cases this : caught e = true
    · rw [if_pos this, Ends] at h
      simp only [this, if_true]
      exact h
    · rw [if_neg this] at h
      simp only [this]
      exact h

theorem ends_within {τ : Type} {enter : τ → σ} {leave : σ → τ} {x : Proc σ ε α} {t : τ}
    {ok : α → τ → Prop} {stop : ε → τ → Prop}
    (h : Ends x (enter t) (fun a s => ok a (leave s)) fun e s => stop e (leave s)) :
    Ends (within enter leave x) t ok stop := by
  rw [Ends] at h
  simp only [Ends, within]
  split at h
  next ran => simpa only [ran] using h
  next ran => simpa only [ran] using h

theorem ends_onPart {τ : Type} {part : τ → σ} {update : τ → σ → τ} {x : Proc σ ε α} {t : τ}
    {ok : α → τ → Prop} {stop : ε → τ → Prop}
    (h : Ends x (part t) (fun a s => ok a (update t s)) fun e s => stop e (update t s)) :
    Ends (onPart part update x) t ok stop := by
  rw [Ends] at h
  simp only [Ends, onPart]
  split at h
  next ran => simpa only [ran] using h
  next ran => simpa only [ran] using h

theorem ends_mapFault {ε' : Type} {f : ε' → ε} {x : Proc σ ε' α}
    (h : Ends x s ok fun e t => stop (f e) t) : Ends (mapFault f x) s ok stop := by
  rw [Ends] at h
  rw [Ends, mapFault]
  split at h
  next ran =>
    simp only [ran]
    exact h
  next ran =>
    simp only [ran]
    exact h

theorem Ends.imp {x : Proc σ ε α} {ok' : α → σ → Prop} {stop' : ε → σ → Prop}
    (h : Ends x s ok stop) (returns : ∀ a t, ok a t → ok' a t)
    (stops : ∀ e t, stop e t → stop' e t) : Ends x s ok' stop' := by
  rw [Ends] at h ⊢
  split at h
  · exact returns _ _ h
  · exact stops _ _ h

theorem Ends.and {x : Proc σ ε α} {ok' : α → σ → Prop} {stop' : ε → σ → Prop}
    (first : Ends x s ok stop) (second : Ends x s ok' stop') :
    Ends x s (fun a t => ok a t ∧ ok' a t) fun e t => stop e t ∧ stop' e t := by
  rw [Ends] at first second ⊢
  generalize x s = ended at first second
  obtain ⟨result, t⟩ := ended
  cases result with
  | ok a => exact ⟨first, second⟩
  | error e => exact ⟨first, second⟩

theorem Ends.of_eq_ok {x : Proc σ ε α} {a : α} {t : σ} (h : Ends x s ok stop)
    (returned : x s = (.ok a, t)) : ok a t := by
  rwa [Ends, returned] at h

theorem Ends.of_eq_error {x : Proc σ ε α} {e : ε} {t : σ} (h : Ends x s ok stop)
    (stopped : x s = (.error e, t)) : stop e t := by
  rwa [Ends, stopped] at h

/-- A procedure ends as it does when it is run. -/
theorem ends_run (x : Proc σ ε α) :
    Ends x s (fun a t => x s = (.ok a, t)) fun e t => x s = (.error e, t) := by
  rw [Ends]
  split <;> assumption

/-- A procedure that does not stop returns. -/
theorem Ends.returns {x : Proc σ ε α} (h : Ends x s ok fun _ _ => False) :
    ∃ a t, x s = (.ok a, t) ∧ ok a t := by
  rw [Ends] at h
  split at h
  next a t returned => exact ⟨a, t, returned, h⟩
  next => exact h.elim

/-- What holds however the procedure ends. -/
theorem Ends.snd {x : Proc σ ε α} {P : σ → Prop} (h : Ends x s (fun _ t => P t) fun _ t => P t) :
    P (x s).2 := by
  rw [Ends] at h
  split at h <;> rename_i eq <;> rw [eq] <;> exact h

end

-- The rules are meant to be used, not the definition: unfolding it would run the procedure.
attribute [irreducible] Ends

/-! ### Results that do not depend on the state -/

/-- The procedure ends with the same result in every state. -/
def Gives (x : Proc σ ε α) (result : Except ε α) : Prop := ∀ s, (x s).1 = result

theorem gives_pure (a : α) : Gives (pure a : Proc σ ε α) (.ok a) := fun _ => rfl

theorem gives_ofExcept (x : Except ε α) : Gives (ofExcept x : Proc σ ε α) x := fun _ => rfl

theorem gives_bind {x : Proc σ ε α} {f : α → Proc σ ε β} {result : Except ε α}
    {next : α → Except ε β} (first : Gives x result)
    (rest : ∀ a, result = .ok a → Gives (f a) (next a)) : Gives (x >>= f) (result >>= next) := by
  intro s
  have here := first s
  rw [bind_apply]
  split
  next a t ran =>
    rw [ran] at here
    subst here
    exact rest a rfl t
  next e t ran =>
    rw [ran] at here
    subst here
    rfl

/-- A procedure without a value that always returns. -/
theorem gives_of_ends {x : Proc σ ε Unit}
    (returns : ∀ s, Ends x s (fun _ _ => True) fun _ _ => False) : Gives x (.ok ()) := by
  intro s
  obtain ⟨_, _, ran, _⟩ := (returns s).returns
  rw [ran]

/-- The result of a procedure that always gives the same, with the state it leaves. -/
theorem Gives.ends {x : Proc σ ε α} {result : Except ε α} (gives : Gives x result) (s : σ) :
    Ends x s (fun a _ => result = .ok a) fun e _ => result = .error e := by
  refine (ends_run x).imp ?_ ?_
  · intro a t ran
    rw [← gives s, ran]
  · intro e t ran
    rw [← gives s, ran]

/-! ### Values that do not depend on the state -/

/-- Whatever the state, the procedure returns only values in `P`. -/
def Yields (x : Proc σ ε α) (P : α → Prop) : Prop :=
  ∀ s, Ends x s (fun a _ => P a) fun _ _ => True

section

variable {P : α → Prop} {Q : β → Prop}

theorem Yields.of_eq_ok {x : Proc σ ε α} {s t : σ} {a : α} (yields : Yields x P)
    (returned : x s = (.ok a, t)) : P a :=
  (yields s).of_eq_ok returned

theorem yields_true (x : Proc σ ε α) : Yields x fun _ => True := fun _ =>
  (ends_run x).imp (fun _ _ _ => trivial) fun _ _ _ => trivial

theorem yields_pure {a : α} (h : P a) : Yields (pure a : Proc σ ε α) P := fun _ => ends_pure h

theorem yields_raise (e : ε) : Yields (raise e : Proc σ ε α) P := fun _ => ends_raise trivial

theorem yields_ofExcept {x : Except ε α} (returns : ∀ a, x = .ok a → P a) :
    Yields (ofExcept x : Proc σ ε α) P := fun _ => ends_ofExcept returns fun _ _ => trivial

theorem yields_bind {x : Proc σ ε α} {f : α → Proc σ ε β} (first : Yields x P)
    (rest : ∀ a, P a → Yields (f a) Q) : Yields (x >>= f) Q := fun s =>
  ends_bind ((first s).imp (fun a t here => rest a here t) fun _ _ => id)

/-- What is returned does not depend on what comes before. -/
theorem yields_then {x : Proc σ ε α} {f : α → Proc σ ε β} (rest : ∀ a, Yields (f a) Q) :
    Yields (x >>= f) Q :=
  yields_bind (yields_true x) fun a _ => rest a

theorem yields_ite {c : Prop} [Decidable c] {x y : Proc σ ε α} (yes : Yields x P)
    (no : Yields y P) : Yields (if c then x else y) P := by
  split
  · exact yes
  · exact no

theorem yields_tryCatch {x handler : Proc σ ε α} {caught : ε → Bool} (body : Yields x P)
    (clause : Yields handler P) : Yields (tryCatch x caught handler) P := by
  intro s
  apply ends_tryCatch
  refine (body s).imp (fun _ _ => id) fun e t _ => ?_
  split
  · exact clause t
  · trivial

theorem yields_mapFault {ε' : Type} {f : ε' → ε} {x : Proc σ ε' α} (yields : Yields x P) :
    Yields (mapFault f x) P := fun s => ends_mapFault (yields s)

theorem yields_within {τ : Type} {enter : τ → σ} {leave : σ → τ} {x : Proc σ ε α}
    (yields : Yields x P) : Yields (within enter leave x) P := fun _ => ends_within (yields _)

theorem yields_onPart {τ : Type} {part : τ → σ} {update : τ → σ → τ} {x : Proc σ ε α}
    (yields : Yields x P) : Yields (onPart part update x) P := fun _ => ends_onPart (yields _)

end

end Proc
end LorawanFeeds.Lib
