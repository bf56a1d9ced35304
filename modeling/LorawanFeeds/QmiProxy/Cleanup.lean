import LorawanFeeds.QmiProxy.Routing

/-!
# What a closed connection leaves behind

`cleanup_qmi_connection` stops at the first queued message of the connection. What it should do
is done exactly when there is no second one. On schedules where this is so whenever a connection
is closed, every queued message has the file descriptor of a connection that is there, and
a file descriptor that is used again finds none.
-/
namespace LorawanFeeds.QmiProxy

open Lib

namespace System

/-- The number of queued messages with a file descriptor. -/
def queuedFor (s : System) (fd : Int) : Nat := (s.proxy.ctlMsg.filter (·.clientFd = fd)).length

/-- After the cleanup nothing has the file descriptor of the connection, the messages of the others
are there in their order, and behind them one release request for each of its client ids. -/
structure CleanedUp (s : System) (con : Connection) : Prop where
  noMsg : ∀ msg ∈ (s.proxy.cleanupQmiConnection con.clientFd true).ctlMsg,
    msg.clientFd ≠ con.clientFd
  noConnection : ∀ other ∈ (s.proxy.cleanupQmiConnection con.clientFd true).connections,
    other.clientFd ≠ con.clientFd
  others : (s.proxy.cleanupQmiConnection con.clientFd true).ctlMsg =
    s.proxy.ctlMsg.filter (·.clientFd ≠ con.clientFd) ++
      con.clients.map fun pair => ⟨s.proxy.serverFd, releaseClientIdReq pair, .proxy⟩

section

variable {s : System} (wf : s.WellFormed)

include wf

theorem cleanedUp_iff {con : Connection} (live : con ∈ s.proxy.connections) :
    s.CleanedUp con ↔ s.queuedFor con.clientFd ≤ 1 := by
  have lists := cleanup_lists wf (find?_of_mem wf live)
  have foreign := serverFd_ne_of_live wf live
  -- Removing the first message removes all of them.
  have removesAll : s.proxy.ctlMsg.eraseP (·.clientFd = con.clientFd) =
      s.proxy.ctlMsg.filter (·.clientFd ≠ con.clientFd) ↔ s.queuedFor con.clientFd ≤ 1 := by
    simpa [queuedFor] using
      eraseP_eq_filter_iff (p := fun msg : ProxyMsg => msg.clientFd = con.clientFd)
        (l := s.proxy.ctlMsg)
  constructor
  · intro clean
    have others := clean.others
    rw [lists] at others
    exact removesAll.mp (List.append_cancel_right others)
  · intro few
    have others : s.proxy.ctlMsg.eraseP (·.clientFd = con.clientFd) ++
        Proxy.releases s.proxy.serverFd con.clients =
          s.proxy.ctlMsg.filter (·.clientFd ≠ con.clientFd) ++
            Proxy.releases s.proxy.serverFd con.clients := by
      rw [removesAll.mpr few]
    refine ⟨?_, ?_, ?_⟩ <;> rw [lists]
    · intro msg member
      rw [others] at member
      rcases List.mem_append.mp member with old | new
      · simpa using (List.mem_filter.mp old).2
      · rw [Proxy.clientFd_of_releases new]
        exact foreign
    · intro other member
      simpa using (List.mem_filter.mp member).2
    · exact others

end

/-! ### File descriptors that are used again -/

/-- Every queued message has a file descriptor that is in use. -/
def Attended (s : System) : Prop := ∀ msg ∈ s.proxy.ctlMsg, s.InUse msg.clientFd

/-- A connection is closed only when none of its requests is outstanding and at most one is
queued. -/
def CleanupAllowed (s : System) : Event → Prop
  | .disconnect fd => s.InUse fd →
      (∀ msg ∈ s.proxy.ctlMsg.head?, msg.clientFd ≠ fd) ∧ s.queuedFor fd ≤ 1
  | _ => True

instance (s : System) : ∀ e, Decidable (s.CleanupAllowed e)
  | .disconnect fd => inferInstanceAs (Decidable (s.InUse fd →
      (∀ msg ∈ s.proxy.ctlMsg.head?, msg.clientFd ≠ fd) ∧ s.queuedFor fd ≤ 1))
  | .connect _ | .client _ _ | .response _ | .device _ => inferInstanceAs (Decidable True)

theorem RoutingAllowed.of_cleanup {s : System} (attended : s.Attended) {e : Event}
    (allowed : s.CleanupAllowed e) : s.RoutingAllowed e := by
  cases e with
  | connect fd =>
    intro free msg member same
    exact free (same ▸ attended msg member)
  | disconnect fd => exact fun inUse => (allowed inUse).1
  | client fd qmi => trivial
  | response body => trivial
  | device qmi => trivial

section

variable {s : System} (wf : s.WellFormed) (attended : s.Attended)

include attended

theorem connect_attended (fd : Int) : (s.step (.connect fd)).Attended := by
  rw [step]
  split
  · exact attended
  · intro msg member
    rcases attended msg member with server | live
    · exact .inl server
    · right
      simp only [Proxy.acceptQmiConnection, List.map_append]
      exact List.mem_append_left _ live

include wf

theorem disconnect_attended {fd : Int} (allowed : s.CleanupAllowed (.disconnect fd)) :
    (s.step (.disconnect fd)).Attended := by
  cases found : s.proxy.connections.find? (·.clientFd = fd) with
  | none =>
    rw [step_disconnect_of_none wf found]
    exact attended
  | some con =>
    have live : con ∈ s.proxy.connections := List.mem_of_find?_eq_some found
    have isFd : con.clientFd = fd := by simpa using List.find?_some found
    have few := (allowed (.inr (isFd ▸ List.mem_map_of_mem live))).2
    rw [← isFd] at found few ⊢
    -- With at most one message the cleanup leaves none behind.
    have clean := (cleanedUp_iff wf live).mpr few
    have noMsg := clean.noMsg
    rw [cleanup_lists wf found] at noMsg
    rw [step_disconnect wf found]
    intro msg member
    rcases List.mem_append.mp member with old | new
    · rcases attended msg (List.mem_of_mem_eraseP old) with server | inUse
      · exact .inl server
      · obtain ⟨other, alive, same⟩ := List.mem_map.mp inUse
        refine .inr (List.mem_map.mpr ⟨other, List.mem_filter.mpr ⟨alive, ?_⟩, same⟩)
        have different := noMsg msg member
        simpa [same] using different
    · exact .inl (Proxy.clientFd_of_releases new)

theorem client_attended (fd : Int) (qmi : Qmi) : (s.step (.client fd qmi)).Attended := by
  cases found : s.proxy.connections.find? (·.clientFd = fd) with
  | none =>
    simp only [step, found]
    exact attended
  | some con =>
    rcases step_client wf qmi found with same | ⟨_, taken⟩
    · rw [same]
      exact attended
    · rw [taken]
      intro msg member
      rcases List.mem_append.mp member with old | new
      · exact attended msg old
      · rw [List.mem_singleton.mp new]
        exact .inr (List.mem_map_of_mem (List.mem_of_find?_eq_some found))

theorem response_attended (single : s.outstanding = s.proxy.ctlMsg.head?.toList) (body : Qmi) :
    (s.step (.response body)).Attended := by
  cases list : s.proxy.ctlMsg with
  | nil =>
    have none : s.outstanding = [] := by simp [single, list]
    simp only [step, none]
    exact attended
  | cons msg queue =>
    have oldest : s.outstanding = [msg] := by simp [single, list]
    rw [step_response wf body oldest list]
    intro other member
    rcases attended other (by rw [list]; exact .tail _ member) with server | inUse
    · exact .inl server
    · obtain ⟨con, live, same⟩ := List.mem_map.mp inUse
      refine .inr (List.mem_map.mpr ⟨_, List.mem_map_of_mem live, ?_⟩)
      split_ifs <;> simp [same]

theorem step_attended (single : s.outstanding = s.proxy.ctlMsg.head?.toList) {e : Event}
    (allowed : s.CleanupAllowed e) : (s.step e).Attended := by
  cases e with
  | connect fd => exact connect_attended attended fd
  | disconnect fd => exact disconnect_attended wf attended allowed
  | client fd qmi => exact client_attended wf attended fd qmi
  | response body => exact response_attended wf attended single body
  | device qmi => rw [step_device wf]; exact attended

end

theorem run_attended {serverFd : Nat} {events : List Event}
    (guarded : Guarded step CleanupAllowed (System.init serverFd) events) :
    (run step (System.init serverFd) events).Routed ∧
      (run step (System.init serverFd) events).Attended := by
  have all := guarded_invariant step CleanupAllowed
    (fun s => s.WellFormed ∧ s.Routed ∧ s.Attended)
    (fun s e ⟨wf, routed, attended⟩ allowed =>
      ⟨step_wellFormed wf e, step_routed wf routed (.of_cleanup attended allowed),
        step_attended wf attended routed.single allowed⟩)
    _ ⟨init_wellFormed serverFd, init_routed serverFd, fun _ member => by cases member⟩ events guarded
  exact all.2

/-- In every state that can be reached, closing a connection leaves nothing of it behind exactly
when it has at most one queued message. On every schedule where this is so for each connection
that is closed, and its message is not outstanding, no connection receives a response to
a request that it did not send, whatever file descriptor it has been given. -/
theorem closed_connection_leaves_nothing (serverFd : Nat) (events : List Event) :
    let s := run step (System.init serverFd) events
    (∀ con ∈ s.proxy.connections, s.CleanedUp con ↔ s.queuedFor con.clientFd ≤ 1) ∧
      (Guarded step CleanupAllowed (System.init serverFd) events →
        (∀ msg ∈ s.proxy.ctlMsg, s.InUse msg.clientFd) ∧
          ∀ entry ∈ s.delivered, ∃ request, entry.2 = .client entry.1 request ∧
            (entry.1, request) ∈ s.requested) := by
  constructor
  · intro con live
    exact cleanedUp_iff (run_wellFormed serverFd events) live
  · intro guarded
    obtain ⟨routed, attended⟩ := run_attended guarded
    exact ⟨attended, routed.answers⟩

/-- A connection with one waiting request is closed, and its file descriptor is used again. -/
theorem reused_fd_finds_nothing :
    let before : List Event := [.connect 5, .connect 6, .client 6 (getClientIdReq 1 2),
      .client 5 (getClientIdReq 1 3)]
    let events := before ++ [.disconnect 5, .connect 5, .client 5 (getClientIdReq 7 2),
      .response (clientIdRsp (2, 1)), .response (clientIdRsp (2, 2))]
    let s := run step (System.init 3) events
    (∃ con ∈ (run step (System.init 3) before).proxy.connections, con.clientFd = 5 ∧
      (run step (System.init 3) before).CleanedUp con) ∧
    Guarded step CleanupAllowed (System.init 3) events ∧
      s.delivered = [(1, .client 1 0), (2, .client 2 2)] ∧
        ∀ entry ∈ s.delivered, ∃ request, entry.2 = .client entry.1 request ∧
          (entry.1, request) ∈ s.requested := by
  intro before events s
  have guarded : Guarded step CleanupAllowed (System.init 3) events := by decide
  have live : ⟨5, [], 0⟩ ∈ (run step (System.init 3) before).proxy.connections := by decide
  have few : (run step (System.init 3) before).queuedFor 5 ≤ 1 := by decide
  exact ⟨⟨_, live, rfl, ((closed_connection_leaves_nothing 3 before).1 _ live).mpr few⟩, guarded,
    by decide, ((closed_connection_leaves_nothing 3 events).2 guarded).2⟩

/-- With two waiting requests the second one is left behind, and its answer goes to the next
connection with the file descriptor. -/
theorem leftover_answered_to_stranger :
    let before : List Event := [.connect 5, .connect 6, .client 6 (getClientIdReq 1 2),
      .client 5 (getClientIdReq 1 3), .client 5 (getClientIdReq 2 3)]
    let s := run step (System.init 3) (before ++ [.disconnect 5, .connect 5,
      .response (clientIdRsp (2, 1)), .response (clientIdRsp (3, 1))])
    (∃ con ∈ (run step (System.init 3) before).proxy.connections, con.clientFd = 5 ∧
      ¬ (run step (System.init 3) before).CleanedUp con) ∧
    s.delivered = [(1, .client 1 0), (2, .client 0 2)] ∧
      ¬ ∀ entry ∈ s.delivered, ∃ request, entry.2 = .client entry.1 request ∧
        (entry.1, request) ∈ s.requested := by
  intro before s
  have live : ⟨5, [], 0⟩ ∈ (run step (System.init 3) before).proxy.connections := by decide
  have delivered : s.delivered = [(1, .client 1 0), (2, .client 0 2)] := by decide
  have left : ⟨5, getClientIdReq 2 3, .client 0 2⟩ ∈
      ((run step (System.init 3) before).proxy.cleanupQmiConnection 5 true).ctlMsg := by decide
  refine ⟨⟨_, live, rfl, fun clean => clean.noMsg _ left rfl⟩, delivered, fun answers => ?_⟩
  obtain ⟨request, same, _⟩ := answers (2, .client 0 2) (by rw [delivered]; decide)
  cases same

end System
end LorawanFeeds.QmiProxy
