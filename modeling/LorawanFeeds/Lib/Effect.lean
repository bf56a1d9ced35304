import Mathlib.Logic.Basic

/-!
# Computations with a record of events

A handler of an event-driven program causes events in order and then either returns a value
or stops with a fault. Events caused before a fault stay caused. `Sat` is the weakest
precondition of such a computation: all its events satisfy `P`, and it returns a value in `Q`
or stops with a fault in `E`. Each operation has one rule, an equivalence, so that simplifying
with the rules computes the exact condition under which a handler behaves.
-/
namespace LorawanFeeds.Lib

structure Eff (ω ε α : Type) where
  events : List ω
  result : Except ε α

namespace Eff

variable {ω ε α β δ : Type}

protected def bind (x : Eff ω ε α) (f : α → Eff ω ε β) : Eff ω ε β :=
  match x.result with
  | .ok a => ⟨x.events ++ (f a).events, (f a).result⟩
  -- What was caused before the fault stays caused.
  | .error e => ⟨x.events, .error e⟩

instance : Monad (Eff ω ε) where
  pure a := ⟨[], .ok a⟩
  bind := Eff.bind

def emit (e : ω) : Eff ω ε Unit := ⟨[e], .ok ()⟩

def raise (e : ε) : Eff ω ε α := ⟨[], .error e⟩

def ofExcept (x : Except δ α) (fault : δ → ε) : Eff ω ε α :=
  match x with
  | .ok a => pure a
  | .error d => raise (fault d)

/-- A `catch` clause: the faults that `caught` selects are handled, all others pass. -/
def tryCatch (x : Eff ω ε α) (caught : ε → Option δ) (handler : δ → Eff ω ε α) : Eff ω ε α :=
  match x.result with
  | .ok _ => x
  | .error e =>
    match caught e with
    -- The handler goes on behind the events of the body.
    | some d => ⟨x.events ++ (handler d).events, (handler d).result⟩
    | none => x

/-- `if (c) x;`. -/
def when (c : Prop) [Decidable c] (x : Eff ω ε Unit) : Eff ω ε Unit := if c then x else pure ()

theorem pure_def (a : α) : (pure a : Eff ω ε α) = ⟨[], .ok a⟩ := rfl

@[simp] theorem events_pure (a : α) : (pure a : Eff ω ε α).events = [] := rfl

@[simp] theorem result_pure (a : α) : (pure a : Eff ω ε α).result = .ok a := rfl

@[simp] theorem events_raise (e : ε) : (raise e : Eff ω ε α).events = [] := rfl

@[simp] theorem result_raise (e : ε) : (raise e : Eff ω ε α).result = .error e := rfl

@[simp] theorem pure_bind (a : α) (f : α → Eff ω ε β) : pure a >>= f = f a := by
  change Eff.bind _ _ = _
  simp [Eff.bind]

@[simp] theorem raise_bind (e : ε) (f : α → Eff ω ε β) : (raise e >>= f) = raise e := rfl

/-- Sequencing after a computation that returned. -/
theorem bind_of_ok {x : Eff ω ε α} {a : α} (returned : x.result = .ok a) (f : α → Eff ω ε β) :
    x >>= f = ⟨x.events ++ (f a).events, (f a).result⟩ := by
  change Eff.bind _ _ = _
  simp [Eff.bind, returned]

/-- A sequence that returned: both parts returned. -/
theorem bind_eq_ok {x : Eff ω ε α} {f : α → Eff ω ε β} {b : β}
    (returned : (x >>= f).result = .ok b) :
    ∃ a, x.result = .ok a ∧ (f a).result = .ok b ∧ (x >>= f).events = x.events ++ (f a).events := by
  cases first : x.result with
  | error e =>
    change (Eff.bind x f).result = _ at returned
    simp [Eff.bind, first] at returned
  | ok a =>
    rw [bind_of_ok first] at returned ⊢
    exact ⟨a, rfl, returned, rfl⟩

theorem bind_assoc (x : Eff ω ε α) (f : α → Eff ω ε β) (g : β → Eff ω ε δ) :
    x >>= f >>= g = x >>= fun a => f a >>= g := by
  change Eff.bind (Eff.bind x f) g = Eff.bind x fun a => Eff.bind (f a) g
  simp only [Eff.bind]
  cases x.result with
  | error e => rfl
  | ok a => cases after : (f a).result <;> simp [after]

theorem emit_bind (e : ω) (f : Unit → Eff ω ε β) :
    (emit e >>= f) = ⟨e :: (f ()).events, (f ()).result⟩ := bind_of_ok rfl f

@[simp] theorem ofExcept_ok (a : α) (fault : δ → ε) :
    (ofExcept (.ok a) fault : Eff ω ε α) = pure a := rfl

@[simp] theorem ofExcept_error (d : δ) (fault : δ → ε) :
    (ofExcept (.error d) fault : Eff ω ε α) = raise (fault d) := rfl

theorem bind_of_error {x : Eff ω ε α} {e : ε} (stopped : x.result = .error e) (f : α → Eff ω ε β) :
    x >>= f = ⟨x.events, .error e⟩ := by
  change Eff.bind _ _ = _
  simp [Eff.bind, stopped]

theorem tryCatch_of_ok {x : Eff ω ε α} {a : α} (returned : x.result = .ok a)
    (caught : ε → Option δ) (handler : δ → Eff ω ε α) : tryCatch x caught handler = x := by
  simp [tryCatch, returned]

/-- What follows a computation that returned is all that the clause can still catch. -/
theorem tryCatch_bind_of_ok {x : Eff ω ε α} {a : α} (returned : x.result = .ok a)
    (f : α → Eff ω ε β) (caught : ε → Option δ) (handler : δ → Eff ω ε β) :
    tryCatch (x >>= f) caught handler = x >>= fun a => tryCatch (f a) caught handler := by
  rw [bind_of_ok returned, bind_of_ok returned]
  simp only [tryCatch]
  cases after : (f a).result with
  | ok b => simp [after]
  | error e => cases selected : caught e <;> simp [after, selected]

theorem tryCatch_of_error {x : Eff ω ε α} {e : ε} (stopped : x.result = .error e)
    (caught : ε → Option δ) (handler : δ → Eff ω ε α) :
    tryCatch x caught handler =
      match caught e with
      | some d => ⟨x.events ++ (handler d).events, (handler d).result⟩
      | none => x := by
  simp [tryCatch, stopped]

/-! ### The rules -/

def Sat (P : ω → Prop) (Q : α → Prop) (E : ε → Prop) (x : Eff ω ε α) : Prop :=
  (∀ e ∈ x.events, P e) ∧
    match x.result with
    | .ok a => Q a
    | .error e => E e

variable {P : ω → Prop} {Q : α → Prop} {R : β → Prop} {E : ε → Prop}

@[simp] theorem sat_pure (a : α) : Sat P Q E (pure a : Eff ω ε α) ↔ Q a := by
  simp [Sat]

@[simp] theorem sat_bind (x : Eff ω ε α) (f : α → Eff ω ε β) :
    Sat P R E (x >>= f) ↔ Sat P (fun a => Sat P R E (f a)) E x := by
  change Sat P R E (Eff.bind x f) ↔ _
  simp only [Sat, Eff.bind]
  cases x.result with
  | error e => simp
  | ok a =>
    -- The events of both parts, and the end of the second one.
    simp only [List.mem_append]
    constructor
    · rintro ⟨all, after⟩
      exact ⟨fun e member => all e (.inl member), fun e member => all e (.inr member), after⟩
    · rintro ⟨first, second, after⟩
      exact ⟨fun e member => member.elim (first e) (second e), after⟩

@[simp] theorem sat_emit (e : ω) (Q : Unit → Prop) :
    Sat P Q E (emit e : Eff ω ε Unit) ↔ P e ∧ Q () := by
  simp [Sat, emit]

@[simp] theorem sat_raise (e : ε) : Sat P Q E (raise e : Eff ω ε α) ↔ E e := by
  simp [Sat, raise]

@[simp] theorem sat_when (c : Prop) [Decidable c] (x : Eff ω ε Unit) (Q : Unit → Prop) :
    Sat P Q E (when c x) ↔ if c then Sat P Q E x else Q () := by
  rw [when]
  split <;> simp

/-- Behind a `catch` clause a caught fault is as good as what the handler makes of it. -/
theorem sat_tryCatch (x : Eff ω ε α) (caught : ε → Option δ) (handler : δ → Eff ω ε α) :
    Sat P Q E (tryCatch x caught handler) ↔
      Sat P Q (fun e => match caught e with
        | some d => Sat P Q E (handler d)
        | none => E e) x := by
  simp only [Sat, tryCatch]
  cases returned : x.result with
  | ok a => simp [returned]
  | error e =>
    cases selected : caught e with
    | none => simp [returned, selected]
    | some d =>
      -- A caught fault: the handler decides how it ends.
      simp only [selected, List.mem_append]
      constructor
      · rintro ⟨all, after⟩
        exact ⟨fun e member => all e (.inl member), fun e member => all e (.inr member), after⟩
      · rintro ⟨first, second, after⟩
        exact ⟨fun e member => member.elim (first e) (second e), after⟩

theorem sat_congr {x : Eff ω ε α} {Q' : α → Prop} {E' : ε → Prop} (returned : ∀ a, Q a ↔ Q' a)
    (stopped : ∀ e, E e ↔ E' e) : Sat P Q E x ↔ Sat P Q' E' x := by
  simp only [Sat]
  cases x.result with
  | ok a => simp only [returned]
  | error e => simp only [stopped]

/-! ### Events alone -/

/-- All events satisfy `P`, however the computation ends. -/
def Emits (P : ω → Prop) (x : Eff ω ε α) : Prop := ∀ e ∈ x.events, P e

@[simp] theorem emits_pure (a : α) : Emits P (pure a : Eff ω ε α) := by simp [Emits]

@[simp] theorem emits_raise (e : ε) : Emits P (raise e : Eff ω ε α) := by simp [Emits, raise]

@[simp] theorem emits_emit (e : ω) : Emits P (emit e : Eff ω ε Unit) ↔ P e := by
  simp [Emits, emit]

@[simp] theorem emits_bind (x : Eff ω ε α) (f : α → Eff ω ε β) :
    Emits P (x >>= f) ↔ Emits P x ∧ ∀ a, x.result = .ok a → Emits P (f a) := by
  change Emits P (Eff.bind x f) ↔ _
  simp only [Emits, Eff.bind]
  cases x.result with
  | error e => simp
  | ok a =>
    -- Only a value that is returned starts the second part.
    simp only [List.mem_append, Except.ok.injEq, forall_eq']
    constructor
    · intro all
      exact ⟨fun e member => all e (.inl member), fun e member => all e (.inr member)⟩
    · rintro ⟨first, second⟩ e member
      exact member.elim (first e) (second e)

@[simp] theorem emits_ofExcept (x : Except δ α) (fault : δ → ε) :
    Emits P (ofExcept x fault : Eff ω ε α) := by
  cases x <;> simp

@[simp] theorem emits_when (c : Prop) [Decidable c] (x : Eff ω ε Unit) :
    Emits P (when c x) ↔ (c → Emits P x) := by
  rw [when]
  split <;> simp_all

theorem events_bind_pure (x : Eff ω ε α) (f : α → β) : (x >>= fun a => pure (f a)).events = x.events := by
  change (Eff.bind x _).events = _
  rw [Eff.bind]
  cases x.result <;> simp

theorem emits_tryCatch (x : Eff ω ε α) (caught : ε → Option δ) (handler : δ → Eff ω ε α)
    (body : Emits P x) (handled : ∀ d, Emits P (handler d)) :
    Emits P (tryCatch x caught handler) := by
  rw [tryCatch]
  split
  · exact body
  · split
    · intro e member
      exact (List.mem_append.mp member).elim (body e) (handled _ e)
    · exact body

/-! ### Observing some of the events -/

variable {γ : Type}

/-- The same computation, seen through the events that `view` selects. -/
def observe (view : ω → Option γ) (x : Eff ω ε α) : Eff γ ε α :=
  ⟨x.events.filterMap view, x.result⟩

@[simp] theorem events_observe (view : ω → Option γ) (x : Eff ω ε α) :
    (x.observe view).events = x.events.filterMap view := rfl

@[simp] theorem result_observe (view : ω → Option γ) (x : Eff ω ε α) :
    (x.observe view).result = x.result := rfl

@[simp] theorem observe_pure (view : ω → Option γ) (a : α) :
    (pure a : Eff ω ε α).observe view = pure a := rfl

@[simp] theorem observe_raise (view : ω → Option γ) (e : ε) :
    (raise e : Eff ω ε α).observe view = raise e := rfl

@[simp] theorem observe_ofExcept (view : ω → Option γ) (x : Except δ α) (fault : δ → ε) :
    (ofExcept x fault : Eff ω ε α).observe view = ofExcept x fault := by
  cases x <;> rfl

@[simp] theorem observe_bind (view : ω → Option γ) (x : Eff ω ε α) (f : α → Eff ω ε β) :
    (x >>= f).observe view = x.observe view >>= fun a => (f a).observe view := by
  change (Eff.bind x f).observe view = Eff.bind (x.observe view) _
  simp only [Eff.bind]
  cases returned : x.result <;> simp [observe, returned]

theorem observe_emit_of_some {view : ω → Option γ} {e : ω} {g : γ} (seen : view e = some g) :
    (emit e : Eff ω ε Unit).observe view = emit g := by
  simp [observe, emit, seen]

theorem observe_emit_of_none {view : ω → Option γ} {e : ω} (hidden : view e = none) :
    (emit e : Eff ω ε Unit).observe view = pure () := by
  simp [observe, emit, hidden, pure_def]

theorem observe_tryCatch (view : ω → Option γ) (x : Eff ω ε α) (caught : ε → Option δ)
    (handler : δ → Eff ω ε α) :
    (tryCatch x caught handler).observe view =
      tryCatch (x.observe view) caught fun d => (handler d).observe view := by
  simp only [tryCatch]
  cases returned : x.result with
  | ok a => simp [returned]
  | error e => cases selected : caught e <;> simp [returned, selected, observe]

end Eff
end LorawanFeeds.Lib
