import LorawanFeeds.Lib.Run

/-!
# Loops around `poll`

A round asks the kernel about a list of descriptors and then handles one after the other. The
rest of the round is part of the state, so that what happens between two descriptors (another
thread, a descriptor closed before its turn) can be spoken of. What the kernel reports for a
descriptor, and what a call on it returns, is the environment's choice when its turn comes.
-/
namespace LorawanFeeds.Lib

/-- What is reported for a descriptor. -/
inductive Ready where
  | quiet
  /-- Any of `POLLERR`, `POLLHUP` and `POLLNVAL`. -/
  | hangUp
  /-- `POLLIN`, with what `accept` returns if it is called, and what `read` gives if that is
  called: nothing at the end of the stream, or at an error. -/
  | readable (accepted : Int) (chunk : List UInt8)
  deriving DecidableEq, Repr

/-- How the loop over the descriptors goes on behind one of them. -/
inductive Flow (σ ρ : Type) where
  | next (s : σ)
  /-- A `break`: the rest of the round is skipped. -/
  | stop (s : σ)
  | leave (reason : ρ) (s : σ)
  deriving DecidableEq, Repr

def Flow.state {σ ρ : Type} : Flow σ ρ → σ
  | .next s | .stop s | .leave _ s => s

structure PollProgram (σ ε ρ : Type) where
  polled : σ → List Int
  /-- What is noted when a round begins. -/
  begins : σ → σ := id
  /-- The thread of the loop waits for another one. -/
  blocked : σ → Bool := fun _ => false
  body : σ → Int → Ready → Flow σ ρ
  /-- What stands behind the loop. -/
  cleanup : ρ → σ → σ
  /-- The reason for which the loop is left if `poll` fails. -/
  pollError : ρ
  /-- What other threads do meanwhile. -/
  other : σ → ε → σ

structure PollLoop (σ ρ : Type) where
  state : σ
  /-- The descriptors whose turn has not come in this round. -/
  pending : List Int := []
  /-- Why the loop has been left. -/
  left : Option ρ := none
  deriving DecidableEq, Repr

inductive PollEvent (ε : Type) where
  | poll
  /-- `poll` fails, or the condition of the loop does. -/
  | pollFails
  /-- The turn of the next descriptor. -/
  | ready (r : Ready)
  | other (e : ε)
  deriving DecidableEq, Repr

namespace PollProgram

variable {σ ε ρ : Type} (prog : PollProgram σ ε ρ)

/-- A loop that has been left, or whose thread waits, does nothing. -/
def step (l : PollLoop σ ρ) : PollEvent ε → PollLoop σ ρ
  | .poll =>
    match l.left, prog.blocked l.state, l.pending with
    | none, false, [] => { state := prog.begins l.state, pending := prog.polled l.state }
    | _, _, _ => l
  | .pollFails =>
    match l.left, prog.blocked l.state, l.pending with
    | none, false, [] =>
      { state := prog.cleanup prog.pollError l.state, left := some prog.pollError }
    | _, _, _ => l
  | .ready r =>
    match l.left, prog.blocked l.state, l.pending with
    | none, false, fd :: rest =>
      match prog.body l.state fd r with
      | .next s => { state := s, pending := rest }
      | .stop s => { state := s }
      | .leave reason s => { state := prog.cleanup reason s, left := some reason }
    | _, _, _ => l
  | .other e => { l with state := prog.other l.state e }

variable {prog}

/-- The turn of the next descriptor. -/
theorem step_ready {l : PollLoop σ ρ} {fd : Int} {rest : List Int} (running : l.left = none)
    (awake : prog.blocked l.state = false) (turn : l.pending = fd :: rest) (r : Ready) :
    prog.step l (.ready r) =
      match prog.body l.state fd r with
      | .next s => { state := s, pending := rest }
      | .stop s => { state := s }
      | .leave reason s => { state := prog.cleanup reason s, left := some reason } := by
  simp only [step, running, awake, turn]

/-- What the turn that comes and all other parts of the program keep is kept by the step. -/
theorem step_keeps {Inv : σ → Prop} {l : PollLoop σ ρ} {e : PollEvent ε} (kept : Inv l.state)
    (body : ∀ fd r, e = .ready r → l.left = none → fd ∈ l.pending.head? →
      Inv (prog.body l.state fd r).state)
    (cleanup : ∀ reason s, Inv s → Inv (prog.cleanup reason s))
    (other : ∀ s e, Inv s → Inv (prog.other s e)) (begins : ∀ s, Inv s → Inv (prog.begins s)) :
    Inv (prog.step l e).state := by
  cases e with
  | poll =>
    rw [step]
    split
    · exact begins _ kept
    · exact kept
  | pollFails =>
    rw [step]
    split
    · exact cleanup _ _ kept
    · exact kept
  | ready r =>
    rw [step]
    split
    next fd rest running _ turn =>
      have turned := body fd r rfl running (by rw [turn]; rfl)
      split
      next s flow => rwa [flow] at turned
      next s flow => rwa [flow] at turned
      next reason s flow =>
        rw [flow] at turned
        exact cleanup reason s turned
    · exact kept
  | other e => exact other l.state e kept

/-- What every part of the program keeps. -/
structure Keeps (prog : PollProgram σ ε ρ) (Inv : σ → Prop) : Prop where
  body : ∀ s fd r, Inv s → Inv (prog.body s fd r).state
  cleanup : ∀ reason s, Inv s → Inv (prog.cleanup reason s)
  other : ∀ s e, Inv s → Inv (prog.other s e)
  begins : ∀ s, Inv s → Inv (prog.begins s)

theorem Keeps.step {Inv : σ → Prop} (keeps : prog.Keeps Inv) (l : PollLoop σ ρ) (e : PollEvent ε)
    (kept : Inv l.state) : Inv (prog.step l e).state :=
  step_keeps kept (fun fd r _ _ _ => keeps.body l.state fd r kept) keeps.cleanup keeps.other
    keeps.begins

/-- What every part of the program keeps holds in every run. -/
theorem Keeps.run {Inv : σ → Prop} (keeps : prog.Keeps Inv) (l : PollLoop σ ρ)
    (initial : Inv l.state) (events : List (PollEvent ε)) : Inv (Lib.run prog.step l events).state :=
  run_invariant prog.step (fun l => Inv l.state) keeps.step l initial events

end PollProgram
end LorawanFeeds.Lib
