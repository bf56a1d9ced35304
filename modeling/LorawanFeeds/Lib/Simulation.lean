import LorawanFeeds.Lib.Run

/-!
# Two systems that answer alike

A system that answers each event is compared with another one, by a relation between their states.
Where every step keeps the relation and gives the same answer on both sides, whole runs do.
-/
namespace LorawanFeeds.Lib

variable {σ τ ε ρ : Type}

/-- The answers to a sequence of events. -/
def answers (step : σ → ε → σ) (answer : σ → ε → ρ) : σ → List ε → List ρ
  | _, [] => []
  | s, e :: events => answer s e :: answers step answer (step s e) events

/-- One event, on both sides. -/
structure Simulates (step : σ → ε → σ) (answer : σ → ε → ρ) (step' : τ → ε → τ)
    (answer' : τ → ε → ρ) (R : σ → τ → Prop) : Prop where
  related : ∀ s t e, R s t → R (step s e) (step' t e)
  same : ∀ s t e, R s t → answer s e = answer' t e

theorem Simulates.run {step : σ → ε → σ} {answer : σ → ε → ρ} {step' : τ → ε → τ}
    {answer' : τ → ε → ρ} {R : σ → τ → Prop} (simulates : Simulates step answer step' answer' R)
    {s : σ} {t : τ} (start : R s t) (events : List ε) :
    R (Lib.run step s events) (Lib.run step' t events) ∧
      answers step answer s events = answers step' answer' t events := by
  induction events generalizing s t with
  | nil => exact ⟨start, rfl⟩
  | cons e events ih =>
    obtain ⟨related, same⟩ := ih (simulates.related s t e start)
    refine ⟨related, ?_⟩
    rw [answers, answers, same, simulates.same s t e start]

end LorawanFeeds.Lib
