import LorawanFeeds.AtcProxy.Proxy

/-!
# Who receives a reply

The current client is looked for with `pollfds[nevents]`, behind the elements in use, whenever a
command is executed. What lies there decides who receives the replies.
-/
namespace LorawanFeeds.AtcProxy

open Lib AtChannel

/-- Every reply has gone to the client that has asked and to no other; the current client is one of
the connections; and only elements of `pollfds` in use have been looked at. -/
structure Sound (p : Proxy) : Prop where
  replies : ∀ reply ∈ p.replies, reply.receivers = [reply.client]
  current : ∀ ident ∈ p.current, ∃ con ∈ p.connections, con.ident = ident
  consulted : ∀ element ∈ p.consulted, element.1 < element.2

/-- The turn of a client that has sent a command. -/
def CommandTurn (l : Loop) : PollEvent Other → Prop
  | .ready (.readable _ chunk) => l.left = none ∧ l.state.executing = none ∧
      ∃ fd ∈ l.pending.head?, fd ≠ l.state.atcProxyServerFd ∧ fd ≠ l.state.atcDevFd ∧
        chunk.take atcBufSize ≠ []
  | _ => False

instance (l : Loop) : ∀ e, Decidable (CommandTurn l e)
  | .ready (.readable _ _) => inferInstanceAs (Decidable (_ ∧ _ ∧ ∃ fd ∈ l.pending.head?, _))
  | .ready .quiet | .ready .hangUp | .poll | .pollFails | .other _ =>
    inferInstanceAs (Decidable False)

/-! ### Commands leave a trace -/

/-- Some element has been looked at that was not in use. -/
def Strayed (p : Proxy) : Prop := ∃ element ∈ p.consulted, ¬ element.1 < element.2

namespace Proxy

@[simp] theorem cleanup_consulted (p : Proxy) (fd : Int) :
    (p.cleanupAtcConnection fd).consulted = p.consulted := by
  rw [cleanupAtcConnection]
  split <;> rfl

theorem closeAll_consulted (p : Proxy) : p.closeAll.consulted = p.consulted := by
  rw [closeAll]
  generalize p.connections = connections
  induction connections generalizing p with
  | nil => rfl
  | cons con rest ih => rw [List.foldl_cons, ih, cleanup_consulted]

theorem onUnsolicited_consulted (p : Proxy) (fails : List Int) :
    (p.onUnsolicited fails).1.consulted = p.consulted := by
  rw [onUnsolicited]
  split
  · rfl
  · split
    · rfl
    · dsimp only
      split_ifs <;> rfl

theorem handleLine_consulted (p : Proxy) (line : Line) (fails : List Int) :
    (p.handleLine line fails).consulted = p.consulted := by
  rw [handleLine]
  generalize (p.channel.processLine line) = channel
  generalize channel.unsolicited.drop p.channel.unsolicited.length = passed
  have kept : p.consulted = { p with channel := channel }.consulted := rfl
  rw [kept]
  generalize { p with channel := channel } = p
  induction passed generalizing p with
  | nil => rfl
  | cons first rest ih =>
    rw [List.foldl_cons, ih]
    exact onUnsolicited_consulted p fails

/-- Nothing is ever taken out of the list. -/
theorem body_strayed {p : Proxy} (strayed : Strayed p) (fd : Int) (r : Ready) :
    Strayed (p.body fd r).state := by
  have cleaned : Strayed (p.cleanupAtcConnection fd) := by
    rw [Strayed, cleanup_consulted]
    exact strayed
  cases r with
  | quiet => exact strayed
  | hangUp =>
    rw [body]
    split_ifs
    · exact strayed
    · exact strayed
    · exact cleaned
  | readable accepted chunk =>
    rw [body]
    split_ifs
    · exact strayed
    · exact strayed
    · exact cleaned
    · obtain ⟨element, member, outside⟩ := strayed
      exact ⟨element, List.mem_append_left _ member, outside⟩

theorem other_strayed {p : Proxy} (strayed : Strayed p) (e : Other) : Strayed (p.other e) := by
  cases e with
  | openServer fd =>
    rw [other]
    split_ifs <;> exact strayed
  | garbage fd => exact strayed
  | line line fails =>
    rw [other, Strayed, handleLine_consulted]
    exact strayed
  | sms fails =>
    rw [other, Strayed, onUnsolicited_consulted]
    exact strayed
  | finish =>
    rw [other, finishCommand]
    split <;> exact strayed

end Proxy

theorem atcProxyLoop_keeps_strayed : atcProxyLoop.Keeps Strayed where
  body _ fd r strayed := Proxy.body_strayed strayed fd r
  cleanup _ p strayed := by
    change Strayed p.closeAll
    rw [Strayed, Proxy.closeAll_consulted]
    exact strayed
  other _ e strayed := Proxy.other_strayed strayed e
  begins _ strayed := strayed

theorem not_sound_of_strayed {p : Proxy} (strayed : Strayed p) : ¬ Sound p := by
  obtain ⟨element, member, outside⟩ := strayed
  exact fun sound => outside (sound.consulted element member)

theorem commandTurn_strays {l : Loop} {e : PollEvent Other} (command : CommandTurn l e) :
    Strayed (atcProxyLoop.step l e).state := by
  match e, command with
  | .ready (.readable accepted chunk), ⟨running, awake, fd, turn, notServer, notDevice, sent⟩ =>
    obtain ⟨rest, pending⟩ : ∃ rest, l.pending = fd :: rest := by
      cases pending : l.pending with
      | nil => simp [pending] at turn
      | cons first rest =>
        rw [pending] at turn
        exact ⟨rest, by rw [Option.some.inj turn]⟩
    have unblocked : atcProxyLoop.blocked l.state = false := by
      change l.state.executing.isSome = false
      rw [awake]
      rfl
    have body : atcProxyLoop.body l.state fd (.readable accepted chunk) =
        .next (l.state.beginCommand fd
          ((chunk.take atcBufSize).map fun byte => Char.ofNat byte.toNat)) := by
      change l.state.body fd (.readable accepted chunk) = _
      simp only [Proxy.body, if_neg notServer, if_neg notDevice, if_neg sent]
    rw [PollProgram.step_ready running unblocked pending, body]
    exact ⟨(l.state.nevents, l.state.nevents), List.mem_append_right _ (.head _), Nat.lt_irrefl _⟩

/-! ### Without a command -/

/-- No command has been executed. -/
structure Untouched (p : Proxy) : Prop where
  replies : p.replies = []
  current : p.current = none
  consulted : p.consulted = []
  executing : p.executing = none

theorem Untouched.sound {p : Proxy} (untouched : Untouched p) : Sound p where
  replies := by simp [untouched.replies]
  current := by simp [untouched.current]
  consulted := by simp [untouched.consulted]

namespace Proxy

variable {p : Proxy} (untouched : Untouched p)

include untouched

theorem cleanup_untouched (fd : Int) : Untouched (p.cleanupAtcConnection fd) := by
  rw [cleanupAtcConnection]
  split
  · exact untouched
  · refine ⟨untouched.replies, ?_, untouched.consulted, untouched.executing⟩
    simp [untouched.current]

theorem onUnsolicited_untouched (fails : List Int) : Untouched (p.onUnsolicited fails).1 := by
  rw [onUnsolicited, untouched.current]
  exact ⟨untouched.replies, untouched.current, untouched.consulted, untouched.executing⟩

theorem deliver_untouched (fails : List Int) : Untouched (p.deliver fails) := by
  have kept := onUnsolicited_untouched untouched fails
  refine ⟨?_, kept.current, kept.consulted, kept.executing⟩
  simp [deliver, untouched.replies, untouched.executing]

theorem handleLine_untouched (line : Line) (fails : List Int) :
    Untouched (p.handleLine line fails) := by
  rw [handleLine]
  generalize (p.channel.processLine line) = channel
  generalize channel.unsolicited.drop p.channel.unsolicited.length = passed
  have kept : Untouched { p with channel := channel } :=
    ⟨untouched.replies, untouched.current, untouched.consulted, untouched.executing⟩
  generalize { p with channel := channel } = q at kept
  induction passed generalizing q with
  | nil => exact kept
  | cons first rest ih => exact ih _ (deliver_untouched kept fails)

theorem closeAll_untouched : Untouched p.closeAll := by
  rw [closeAll]
  generalize p.connections = connections
  induction connections generalizing p with
  | nil => exact untouched
  | cons con rest ih => exact ih (cleanup_untouched untouched con.clientFd)

theorem other_untouched (e : Other) : Untouched (p.other e) := by
  cases e with
  | openServer fd =>
    rw [other]
    split_ifs
    · exact ⟨untouched.replies, untouched.current, untouched.consulted, untouched.executing⟩
    · exact untouched
  | garbage fd =>
    exact ⟨untouched.replies, untouched.current, untouched.consulted, untouched.executing⟩
  | line line fails => exact handleLine_untouched untouched line fails
  | sms fails => exact onUnsolicited_untouched untouched fails
  | finish =>
    rw [other, finishCommand, untouched.executing]
    exact untouched

/-- A turn that executes no command. -/
theorem body_untouched {fd : Int} {r : Ready}
    (noCommand : ∀ accepted chunk, r = .readable accepted chunk → fd ≠ p.atcProxyServerFd →
      fd ≠ p.atcDevFd → chunk.take atcBufSize = []) : Untouched (p.body fd r).state := by
  cases r with
  | quiet => exact untouched
  | hangUp =>
    rw [body]
    split_ifs
    · exact untouched
    · exact untouched
    · exact cleanup_untouched untouched fd
  | readable accepted chunk =>
    rw [body]
    split_ifs with server device none
    · exact ⟨untouched.replies, untouched.current, untouched.consulted, untouched.executing⟩
    · exact untouched
    · exact cleanup_untouched untouched fd
    · exact absurd (noCommand accepted chunk rfl server device) none

end Proxy

theorem step_untouched {l : Loop} (untouched : Untouched l.state) {e : PollEvent Other}
    (noCommand : ¬ CommandTurn l e) : Untouched (atcProxyLoop.step l e).state := by
  refine PollProgram.step_keeps untouched ?_ (fun _ _ kept => Proxy.closeAll_untouched kept)
    (fun _ e kept => Proxy.other_untouched kept e)
    (fun _ kept => ⟨kept.replies, kept.current, kept.consulted, kept.executing⟩)
  rintro fd r rfl running turn
  refine Proxy.body_untouched untouched ?_
  rintro accepted chunk rfl notServer notDevice
  by_contra sent
  exact noCommand ⟨running, untouched.executing, fd, turn, notServer, notDevice, sent⟩

/-- The proxy is sound exactly in those runs in which no client sends a command. -/
theorem replies_sound_iff (atcDevFd : Nat) (events : List (PollEvent Other)) :
    Sound (run atcProxyLoop.step (Loop.init atcDevFd) events).state ↔
      Guarded atcProxyLoop.step (fun l e => ¬ CommandTurn l e) (Loop.init atcDevFd) events := by
  have untouched : Untouched (Loop.init atcDevFd).state := ⟨rfl, rfl, rfl, rfl⟩
  generalize Loop.init atcDevFd = l at untouched
  induction events generalizing l with
  | nil => exact iff_of_true untouched.sound trivial
  | cons e events ih =>
    by_cases command : CommandTurn l e
    · refine iff_of_false (not_sound_of_strayed ?_) fun guarded => guarded.1 command
      exact atcProxyLoop_keeps_strayed.run _ (commandTurn_strays command) events
    · exact (ih _ (step_untouched untouched command)).trans
        ⟨fun guarded => ⟨command, guarded⟩, fun guarded => guarded.2⟩

/-- Two clients are connected; the first sends a command, and the modem answers. The memory behind
`pollfds` holds nothing that is a descriptor. -/
def askingClient : List (PollEvent Other) :=
  [.other (.openServer 4), .poll, .ready .quiet, .ready (.readable 5 []),
    .poll, .ready .quiet, .ready (.readable 6 []), .ready .quiet,
    .other (.garbage 0), .poll, .ready .quiet, .ready .quiet,
    .ready (.readable 0 [65, 84, 73]), .other (.line "Quectel".toList []),
    .other (.line "OK".toList []), .other .finish]

/-- The second client receives the answer as well. -/
theorem reply_broadcast :
    (¬ ∀ (atcDevFd : Nat) (events : List (PollEvent Other)),
      Sound (run atcProxyLoop.step (Loop.init atcDevFd) events).state) ∧
    (run atcProxyLoop.step (Loop.init 3) askingClient).state.replies =
      [⟨0, [0, 1]⟩, ⟨0, [0, 1]⟩] := by
  have replies : (run atcProxyLoop.step (Loop.init 3) askingClient).state.replies =
      [⟨0, [0, 1]⟩, ⟨0, [0, 1]⟩] := by decide +kernel
  refine ⟨fun sound => ?_, replies⟩
  have first := (sound 3 askingClient).replies ⟨0, [0, 1]⟩ (by rw [replies]; exact .head _)
  exact absurd first (by decide)

end LorawanFeeds.AtcProxy
