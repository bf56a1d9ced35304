import Mathlib.Data.List.Basic

/-!
# Runs of an event-driven system

A system is a total step function: everything its environment may choose is part of the
event, and an event that means nothing in a state leaves it as it is. What the environment
promises, and any further condition on a schedule, is a predicate on the state an event meets.
-/
namespace LorawanFeeds.Lib

variable {σ ε : Type}

/-- The state a sequence of events leads to. -/
def run (step : σ → ε → σ) (s : σ) (events : List ε) : σ := events.foldl step s

@[simp] theorem run_nil (step : σ → ε → σ) (s : σ) : run step s [] = s := rfl

@[simp] theorem run_cons (step : σ → ε → σ) (s : σ) (e : ε) (events : List ε) :
    run step s (e :: events) = run step (step s e) events := rfl

theorem run_append (step : σ → ε → σ) (s : σ) (first later : List ε) :
    run step s (first ++ later) = run step (run step s first) later := List.foldl_append

/-- Every event of the run is allowed in the state it meets. -/
def Guarded (step : σ → ε → σ) (allowed : σ → ε → Prop) : σ → List ε → Prop
  | _, [] => True
  | s, e :: events => allowed s e ∧ Guarded step allowed (step s e) events

instance Guarded.decidable (step : σ → ε → σ) (allowed : σ → ε → Prop)
    [dec : ∀ s e, Decidable (allowed s e)] :
    ∀ s events, Decidable (Guarded step allowed s events)
  | _, [] => inferInstanceAs (Decidable True)
  | s, e :: events =>
    have := Guarded.decidable step allowed (step s e) events
    inferInstanceAs (Decidable (allowed s e ∧ Guarded step allowed (step s e) events))

theorem guarded_append {step : σ → ε → σ} {allowed : σ → ε → Prop} {s : σ} {first later : List ε} :
    Guarded step allowed s (first ++ later) ↔
      Guarded step allowed s first ∧ Guarded step allowed (run step s first) later := by
  induction first generalizing s with
  | nil => simp [Guarded]
  | cons e first ih => rw [List.cons_append, Guarded, Guarded, ih, run_cons, and_assoc]

/-- What holds at the start and is kept by every step holds after every run. -/
theorem run_invariant (step : σ → ε → σ) (Inv : σ → Prop)
    (preserved : ∀ s e, Inv s → Inv (step s e))
    (s : σ) (initial : Inv s) (events : List ε) : Inv (run step s events) := by
  induction events generalizing s with
  | nil => exact initial
  | cons e events ih => exact ih (step s e) (preserved s e initial)

/-- The same for a schedule: a step has to keep the invariant only where it is allowed. -/
theorem guarded_invariant (step : σ → ε → σ) (allowed : σ → ε → Prop) (Inv : σ → Prop)
    (preserved : ∀ s e, Inv s → allowed s e → Inv (step s e))
    (s : σ) (initial : Inv s) (events : List ε) (guarded : Guarded step allowed s events) :
    Inv (run step s events) := by
  induction events generalizing s with
  | nil => exact initial
  | cons e events ih => exact ih (step s e) (preserved s e initial guarded.1) guarded.2

/-- What a system has to meet throughout holds at the end of a run exactly if every event is allowed,
where a single step breaks it only by an event that is not, and what is broken stays so. -/
theorem run_iff_guarded {step : σ → ε → σ} {allowed : σ → ε → Prop} {Inv Ok : σ → Prop}
    (stays : ∀ s e, Ok (step s e) → Ok s)
    (breaks : ∀ s e, Inv s → Ok s → (Ok (step s e) ↔ allowed s e))
    (preserved : ∀ s e, Inv s → allowed s e → Inv (step s e))
    (s : σ) (initial : Inv s) (sound : Ok s) (events : List ε) :
    Ok (run step s events) ↔ Guarded step allowed s events := by
  have earlier (s : σ) (events : List ε) : Ok (run step s events) → Ok s := by
    induction events generalizing s with
    | nil => exact id
    | cons e events ih => exact fun ok => stays s e (ih (step s e) ok)
  induction events generalizing s with
  | nil => exact ⟨fun _ => trivial, fun _ => sound⟩
  | cons e events ih =>
    rw [run_cons, Guarded]
    constructor
    · intro ok
      have good := (breaks s e initial sound).mp (earlier _ events ok)
      exact ⟨good, (ih _ (preserved s e initial good) (earlier _ events ok)).mp ok⟩
    · rintro ⟨good, guarded⟩
      exact (ih _ (preserved s e initial good) ((breaks s e initial sound).mpr good)).mpr guarded

/-- A condition that always holds. -/
theorem guarded_of_forall {step : σ → ε → σ} {allowed : σ → ε → Prop}
    (always : ∀ s e, allowed s e) (s : σ) (events : List ε) : Guarded step allowed s events := by
  induction events generalizing s with
  | nil => trivial
  | cons e events ih => exact ⟨always s e, ih (step s e)⟩

/-- A condition on the events alone can be made part of that on the schedule. -/
theorem Guarded.and_forall {step : σ → ε → σ} {allowed : σ → ε → Prop} {good : ε → Prop} (s : σ)
    (events : List ε) (guarded : Guarded step allowed s events) (each : ∀ e ∈ events, good e) :
    Guarded step (fun s e => good e ∧ allowed s e) s events := by
  induction events generalizing s with
  | nil => trivial
  | cons e events ih =>
    exact ⟨⟨each e (.head _), guarded.1⟩,
      ih (step s e) guarded.2 fun e member => each e (.tail _ member)⟩

end LorawanFeeds.Lib
