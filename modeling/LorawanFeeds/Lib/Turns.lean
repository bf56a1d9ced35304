import Mathlib.Data.List.Forall2

/-!
# Readers of a byte stream

A reader takes the stream in turns. In each turn it consumes some bytes, and hands on all or a
first part of them, or nothing. Nothing is lost only if every turn hands on all that it has
consumed.
-/
namespace LorawanFeeds.Lib

variable {α : Type}

/-- What a turn has consumed of the stream, and what it has handed on. -/
structure Turn (α : Type) where
  consumed : List α
  handed : Option (List α)
  deriving DecidableEq, Repr

/-- A turn hands on at most what it has consumed, and has consumed something. -/
structure Turn.Sound (t : Turn α) : Prop where
  some : t.consumed ≠ []
  within : ∀ h ∈ t.handed, h <+: t.consumed

def handedOn (turns : List (Turn α)) : List (List α) := turns.filterMap Turn.handed

def consumed (turns : List (Turn α)) : List (List α) := turns.map Turn.consumed

theorem length_handedOn_le (turns : List (Turn α)) (sound : ∀ t ∈ turns, t.Sound) :
    (handedOn turns).flatten.length ≤ (consumed turns).flatten.length := by
  induction turns with
  | nil => simp [handedOn]
  | cons t turns ih =>
    have rest := ih fun u member => sound u (.tail _ member)
    have within := (sound t (.head _)).within
    rw [consumed, List.map_cons, List.flatten_cons, List.length_append]
    rw [handedOn]
    cases handed : t.handed with
    | none =>
      rw [List.filterMap_cons_none handed]
      exact Nat.le_trans rest (Nat.le_add_left _ _)
    | some h =>
      rw [List.filterMap_cons_some handed, List.flatten_cons, List.length_append]
      exact Nat.add_le_add (within h handed).length_le rest

/-- If the bytes handed on are as many as the bytes consumed, every turn has handed on all of
its own. -/
theorem handed_all (turns : List (Turn α)) (sound : ∀ t ∈ turns, t.Sound)
    (lossless : (consumed turns).flatten.length ≤ (handedOn turns).flatten.length) :
    ∀ t ∈ turns, t.handed = some t.consumed := by
  induction turns with
  | nil => simp
  | cons t turns ih =>
    have soundRest : ∀ u ∈ turns, u.Sound := fun u member => sound u (.tail _ member)
    have rest := length_handedOn_le turns soundRest
    obtain ⟨something, within⟩ := sound t (.head _)
    have positive := List.length_pos_of_ne_nil something
    rw [consumed, List.map_cons, List.flatten_cons, List.length_append, handedOn] at lossless
    cases handed : t.handed with
    | none =>
      rw [List.filterMap_cons_none handed] at lossless
      simp only [consumed, handedOn] at rest
      omega
    | some h =>
      have shorter := (within h handed).length_le
      rw [List.filterMap_cons_some handed, List.flatten_cons, List.length_append] at lossless
      simp only [consumed, handedOn] at rest
      have whole : h = t.consumed := (within h handed).eq_of_length (by omega)
      intro u member
      rcases List.mem_cons.mp member with rfl | later
      · rw [handed, whole]
      · refine ih soundRest ?_ u later
        simp only [consumed, handedOn]
        omega

theorem handedOn_eq_consumed {turns : List (Turn α)}
    (all : ∀ t ∈ turns, t.handed = some t.consumed) : handedOn turns = consumed turns := by
  induction turns with
  | nil => rfl
  | cons t turns ih =>
    rw [handedOn, List.filterMap_cons_some (all t (.head _)), consumed, List.map_cons]
    exact congrArg _ (ih fun u member => all u (.tail _ member))

/-! ### Readers -/

/-- A reader with a state of its own (a buffer), woken up by something of the environment. -/
structure Reader (α β ω : Type) where
  turn : β → ω → List α → Turn α
  /-- The state behind a turn. -/
  next : β → Turn α → β
  /-- What the environment can do with the rest of the stream. -/
  possible : ω → List α → Prop

namespace Reader

variable {β ω : Type} (reader : Reader α β ω)

def turns : β → List ω → List α → List (Turn α)
  | _, [], _ => []
  | b, w :: wakes, stream =>
    let t := reader.turn b w stream
    t :: turns (reader.next b t) wakes (stream.drop t.consumed.length)

/-- Everything is possible when it happens, and in the end the stream has been read. -/
def Drains : β → List ω → List α → Prop
  | _, [], stream => stream = []
  | b, w :: wakes, stream =>
    reader.possible w stream ∧
      let t := reader.turn b w stream
      Drains (reader.next b t) wakes (stream.drop t.consumed.length)

instance Drains.decidable [DecidableEq α]
    [dec : ∀ w stream, Decidable (reader.possible w stream)] :
    ∀ b wakes stream, Decidable (reader.Drains b wakes stream)
  | _, [], stream => inferInstanceAs (Decidable (stream = []))
  | b, w :: wakes, stream =>
    have := Drains.decidable (reader.next b (reader.turn b w stream)) wakes
      (stream.drop (reader.turn b w stream).consumed.length)
    inferInstanceAs (Decidable (_ ∧ reader.Drains _ wakes _))

structure Lawful : Prop where
  sound : ∀ b w stream, reader.possible w stream → (reader.turn b w stream).Sound
  taken : ∀ b w stream, (reader.turn b w stream).consumed <+: stream

variable {reader} (lawful : reader.Lawful)

include lawful

theorem turns_sound {b : β} {wakes : List ω} {stream : List α}
    (drains : reader.Drains b wakes stream) : ∀ t ∈ reader.turns b wakes stream, t.Sound := by
  induction wakes generalizing b stream with
  | nil => simp [turns]
  | cons w wakes ih =>
    intro t member
    rcases List.mem_cons.mp member with rfl | later
    · exact lawful.sound b w stream drains.1
    · exact ih drains.2 t later

theorem turns_consumed {b : β} {wakes : List ω} {stream : List α}
    (drains : reader.Drains b wakes stream) :
    (consumed (reader.turns b wakes stream)).flatten = stream := by
  induction wakes generalizing b stream with
  | nil => exact drains.symm
  | cons w wakes ih =>
    have rest := ih drains.2
    rw [consumed] at rest ⊢
    rw [turns, List.map_cons, List.flatten_cons, rest]
    exact (List.prefix_iff_eq_append.mp (lawful.taken b w stream))

/-- The reader hands on the messages that were written exactly if every turn finds one of them,
in their order. `Fits` says for one turn when it does. -/
theorem handedOn_turns_iff (Fits : ω → List α → Prop) (messages : List (List α))
    (fits : ∀ m ∈ messages, ∀ b w rest, reader.possible w (m ++ rest) →
      (reader.turn b w (m ++ rest) = ⟨m, some m⟩ ↔ Fits w m))
    {b : β} {wakes : List ω} (drains : reader.Drains b wakes messages.flatten) :
    handedOn (reader.turns b wakes messages.flatten) = messages ↔
      List.Forall₂ Fits wakes messages := by
  constructor
  · intro lossless
    have all := handed_all _ (turns_sound lawful drains)
      (Nat.le_of_eq (by rw [lossless, turns_consumed lawful drains]))
    rw [handedOn_eq_consumed all] at lossless
    induction messages generalizing b wakes with
    | nil =>
      cases wakes with
      | nil => exact .nil
      | cons w wakes => simp [consumed, turns] at lossless
    | cons m messages ih =>
      cases wakes with
      | nil => simp [consumed, turns] at lossless
      | cons w wakes =>
        rw [List.flatten_cons] at lossless all drains
        rw [consumed, turns, List.map_cons, List.cons.injEq] at lossless
        obtain ⟨first, others⟩ := lossless
        -- The first turn has consumed the first message, and handed it on.
        have turn : reader.turn b w (m ++ messages.flatten) = ⟨m, some m⟩ := by
          have handed := all _ (.head _)
          rw [first] at handed
          exact congrArg₂ Turn.mk first handed
        have behind : (m ++ messages.flatten).drop m.length = messages.flatten := by simp
        obtain ⟨possible, rest⟩ := drains
        rw [turn] at rest others
        simp only [behind] at rest others
        refine .cons ((fits m (.head _) b w _ possible).mp turn)
          (ih (fun n member => fits n (.tail _ member)) rest others ?_)
        intro t member
        have later : reader.turns b (w :: wakes) (m ++ messages.flatten) =
            ⟨m, some m⟩ :: reader.turns (reader.next b ⟨m, some m⟩) wakes messages.flatten := by
          simp only [turns, turn, behind]
        rw [later] at all
        exact all t (.tail _ member)
  · intro each
    induction each generalizing b with
    | nil => rfl
    | @cons w m wakes messages fit _ ih =>
      rw [List.flatten_cons] at drains ⊢
      have behind : (m ++ messages.flatten).drop m.length = messages.flatten := by simp
      obtain ⟨possible, rest⟩ := drains
      have turn := (fits m (.head _) b w _ possible).mpr fit
      rw [turn] at rest
      simp only [behind] at rest
      rw [turns, turn]
      simp only [behind]
      exact congrArg (m :: ·) (ih (fun n member => fits n (.tail _ member)) rest)

end Reader
end LorawanFeeds.Lib
