import LorawanFeeds.QmiClient.Requests

/-!
# The start event, down to the device

`DataCall` follows the requests of a start event to the device and the reader thread, the event
loop knows them by how they end. What the first does, when all its requests have returned, is
what the second does for some replies.
-/
namespace LorawanFeeds.QmiClient

open Lib Proc

/-- The same variables, up to those of the QMI client that only its own functions use. -/
structure Main.Alike (m m' : Main) : Prop where
  others : m' = { m with client := m'.client }
  handle : m'.client.handle = m.client.handle

/-- A request that has returned leaves the handles, and its result is that of a reply. -/
theorem exchange_reply {family : IpFamily} {type : UInt16} {msecs : UInt32} {x : Exchange}
    {c c' : Client} {result : Except Int Qmi}
    (returned : exchange family type msecs x c = (.ok result, c')) :
    c'.handle = c.handle ∧ ∃ reply : Reply, reply.checked = result := by
  obtain ⟨request, composed, made, rest⟩ := bind_eq_ok.mp returned
  obtain ⟨⟨err, response⟩, sent, waited, rest⟩ := bind_eq_ok.mp rest
  cases rest
  refine ⟨?_, ⟨err, response⟩, rfl⟩
  have unchanged : composed.handle = c.handle := by
    cases made
    funext family
    cases family <;> rfl
  rw [← unchanged]
  cases request with
  | none =>
    cases waited
    rfl
  | some request =>
    simp only [qmiThreadSendQMITimeout] at waited
    split at waited
    · cases waited
      funext family
      cases family <;> rfl
    · cases waited

theorem request_eq_ok {α : Type} {x : Request α} {m m₁ : Main} {a : α} :
    Step.request x m = (.ok a, m₁) ↔
      ∃ c, x m.client = (.ok a, c) ∧ m₁ = { m with client := c } := by
  unfold Step.request
  constructor
  · intro returned
    obtain ⟨result, state⟩ := Prod.mk.injEq .. ▸ returned
    exact ⟨_, Prod.ext result rfl, state.symm⟩
  · rintro ⟨c, returned, rfl⟩
    rw [returned]

namespace Main.Alike

variable {m : Main} {s : Session}

theorem client_eq {m' : Main} (alike : m.Alike m') {c c' : Client} (same : c'.handle = c.handle) :
    ({ m with client := c } : Main).Alike { m' with client := c' } where
  others := by rw [alike.others]
  handle := same

theorem setHandle_eq {c c' : Client} (same : c'.handle = c.handle) (family : IpFamily)
    (handle : UInt32) : (c'.setHandle family handle).handle = (c.setHandle family handle).handle := by
  funext other
  have here := congrFun same other
  cases family <;> cases other <;> first | rfl | exact here

end Main.Alike

@[simp] theorem Session.main_dialled (s : Session) (family : IpFamily) (d : Dialled) :
    (s.dialled family d).main = s.main := by
  unfold Session.dialled
  split <;> rfl

theorem setup_refines {family : IpFamily} {x : Exchange} {m m₁ : Main} {s : Session} {ret : Int}
    (alike : m.Alike s.main)
    (returned : Step.request (requestSetupDataCall family x) m = (.ok ret, m₁)) :
    ∃ d s₁, Loop.requestSetupDataCall family d s = (.ok ret, s₁) ∧ m₁.Alike s₁.main := by
  obtain ⟨c, setup, rfl⟩ := request_eq_ok.mp returned
  obtain ⟨result, c₁, exchanged, rest⟩ := bind_eq_ok.mp setup
  obtain ⟨handles, reply, checked⟩ := exchange_reply exchanged
  refine ⟨⟨reply, none⟩, ?_⟩
  cases result with
  | error err =>
    cases rest
    refine ⟨_, by simp only [Loop.requestSetupDataCall, bind_apply, modify_apply, checked]; rfl, ?_⟩
    rw [Session.mark, Session.main_dialled]
    exact alike.client_eq (alike.handle.trans handles.symm)
  | ok response =>
    cases rest
    refine ⟨_, by simp only [Loop.requestSetupDataCall, bind_apply, modify_apply, checked]; rfl, ?_⟩
    rw [Session.mark, Session.setHandle, Session.main_dialled]
    exact alike.client_eq (Main.Alike.setHandle_eq (alike.handle.trans handles.symm) _ _)

theorem address_refines {family : IpFamily} {x : Exchange} {m m₁ : Main} {s : Session} {ret : Int}
    (alike : m.Alike s.main)
    (returned : Step.request (requestGetIPAddress family x) m = (.ok ret, m₁)) :
    ∃ a s₁, Loop.requestGetIPAddress family a s = (.ok ret, s₁) ∧ m₁.Alike s₁.main := by
  obtain ⟨c, asked, rfl⟩ := request_eq_ok.mp returned
  obtain ⟨_, _, got, rest⟩ := bind_eq_ok.mp asked
  cases got
  have handle : s.handle family = m.client.handle family := congrFun alike.handle family
  -- The loop ends in the session it began in, up to the address.
  have reached : ∀ (a : Addressed) (code : Int),
      (m.client.handle family = 0 → code = 0) →
      (m.client.handle family ≠ 0 → a.reply.code = code) → c.handle = m.client.handle →
      ∃ s₁, Loop.requestGetIPAddress family a s = (.ok code, s₁) ∧
        ({ m with client := c } : Main).Alike s₁.main := by
    intro a code idle busy handles
    obtain ⟨ret, s₁, returned, moved, stored, free⟩ :=
      Ends.returns (Loop.requestGetIPAddress_does s family a)
    have same : ret = code := by
      by_cases zero : m.client.handle family = 0
      · rw [(free (handle.trans zero)).1, idle zero]
      · rw [(stored fun zero' => zero (handle.symm.trans zero')).1, busy zero]
    refine ⟨s₁, same ▸ returned, ?_⟩
    rw [moved]
    exact ⟨alike.others, alike.handle.trans handles.symm⟩
  split at rest
  next idle =>
    cases rest
    obtain ⟨s₁, ran, alike₁⟩ := reached ⟨⟨0, none⟩, none⟩ 0 (fun _ => rfl)
      (fun busy => absurd idle busy) rfl
    exact ⟨_, s₁, ran, alike₁⟩
  next busy =>
    obtain ⟨result, c₁, exchanged, rest⟩ := bind_eq_ok.mp rest
    obtain ⟨handles, reply, checked⟩ := exchange_reply exchanged
    have code : reply.code = ret := by
      cases result with
      | error err =>
        cases rest
        exact Reply.code_of_error checked
      | ok response =>
        cases rest
        exact Reply.code_of_ok checked
    have last : c.handle = m.client.handle := by
      cases result <;> cases rest <;> exact handles
    obtain ⟨s₁, ran, alike₁⟩ := reached ⟨reply, none⟩ ret (fun idle => absurd idle busy)
      (fun _ => code) last
    exact ⟨_, s₁, ran, alike₁⟩

theorem Main.Alike.setStatus {m m' : Main} (alike : m.Alike m') (family : IpFamily)
    (status : PktData) : (m.setStatus family status).Alike (m'.setStatus family status) := by
  refine ⟨?_, ?_⟩
  · rw [alike.others]
    cases family <;> rfl
  · cases family <;> exact alike.handle

theorem Main.Alike.auth {m m' : Main} (alike : m.Alike m') (auth : Int) :
    ({ m with auth } : Main).Alike { m' with auth } := by
  refine ⟨?_, alike.handle⟩
  rw [alike.others]

/-- The address of a call, and the status that goes with it. -/
theorem startAddress_refines {family : IpFamily} {x : Exchange} {m m₁ : Main} {s : Session}
    {qmierr : Int} (alike : m.Alike s.main)
    (returned : Proc.when (qmierr = 0) (do
      let qmierr ← Step.request (requestGetIPAddress family x)
      Proc.when (qmierr = 0) (Proc.modify fun m => m.setStatus family .connected)) m =
        (.ok (), m₁)) :
    ∃ a s₁, Loop.startAddress family a qmierr s = (.ok (), s₁) ∧ m₁.Alike s₁.main := by
  by_cases set : qmierr = 0
  · rw [when_pos set] at returned
    obtain ⟨ret, m₂, asked, rest⟩ := bind_eq_ok.mp returned
    obtain ⟨a, s₂, ran, alike₂⟩ := address_refines alike asked
    by_cases zero : ret = 0
    · rw [when_pos zero] at rest
      cases rest
      refine ⟨a, s₂.setStatus family .connected, ?_, alike₂.setStatus family .connected⟩
      rw [Loop.startAddress, when_pos set]
      refine bind_eq_ok.mpr ⟨ret, s₂, ran, ?_⟩
      rw [when_pos zero]
      rfl
    · rw [when_neg zero] at rest
      cases rest
      refine ⟨a, s₂, ?_, alike₂⟩
      rw [Loop.startAddress, when_pos set]
      refine bind_eq_ok.mpr ⟨ret, s₂, ran, ?_⟩
      rw [when_neg zero]
      rfl
  · rw [when_neg set] at returned
    cases returned
    refine ⟨⟨⟨0, none⟩, none⟩, s, ?_, alike⟩
    rw [Loop.startAddress, when_neg set]
    rfl

theorem setupIpv4Again_refines {start : Start} {m m₁ : Main} {s : Session} {qmierr ret : Int}
    (alike : m.Alike s.main) (returned : setupIpv4Again start qmierr m = (.ok ret, m₁)) :
    ∃ again s₁, m₁.Alike s₁.main ∧ ∀ d : Dialling, d.setupIpv4Again = again →
      Loop.setupIpv4Again d qmierr s = (.ok ret, s₁) := by
  have user : s.main.user = m.user := by rw [alike.others]
  have password : s.main.password = m.password := by rw [alike.others]
  have auth : s.main.auth = m.auth := by rw [alike.others]
  obtain ⟨_, _, got, rest⟩ := bind_eq_ok.mp returned
  cases got
  split at rest
  next again =>
    have again' : 0 < qmierr ∧ given s.main.user = true ∧ given s.main.password = true := by
      rwa [user, password]
    obtain ⟨_, m₂, changed, rest⟩ := bind_eq_ok.mp rest
    cases changed
    obtain ⟨ret', m₃, setup, rest⟩ := bind_eq_ok.mp rest
    obtain ⟨_, m₄, restored, rest⟩ := bind_eq_ok.mp rest
    cases rest
    have begun : ({ m with auth := if m.auth = 1 then 2 else 1 } : Main).Alike
        ({ s with main := { s.main with auth := if s.main.auth = 1 then 2 else 1 } } :
          Session).main := by
      rw [auth]
      exact alike.auth _
    obtain ⟨dialled, s₃, ran, alike₃⟩ := setup_refines begun setup
    by_cases failed : ret ≠ 0
    · rw [when_pos failed] at restored
      cases restored
      refine ⟨dialled, { s₃ with main := { s₃.main with auth := s.main.auth } }, ?_, ?_⟩
      · rw [auth]
        exact alike₃.auth m.auth
      · intro d same
        refine bind_eq_ok.mpr ⟨s, s, rfl, ?_⟩
        rw [if_pos again']
        refine bind_eq_ok.mpr ⟨(), _, rfl, bind_eq_ok.mpr ⟨ret, s₃, same ▸ ran, ?_⟩⟩
        rw [when_pos failed]
        rfl
    · rw [when_neg failed] at restored
      cases restored
      refine ⟨dialled, s₃, alike₃, ?_⟩
      intro d same
      refine bind_eq_ok.mpr ⟨s, s, rfl, ?_⟩
      rw [if_pos again']
      refine bind_eq_ok.mpr ⟨(), _, rfl, bind_eq_ok.mpr ⟨ret, s₃, same ▸ ran, ?_⟩⟩
      rw [when_neg failed]
      rfl
  next once =>
    cases rest
    refine ⟨⟨⟨0, none⟩, none⟩, s, alike, fun d _ => bind_eq_ok.mpr ⟨s, s, rfl, ?_⟩⟩
    rw [if_neg (by rwa [user, password])]
    rfl

theorem startIpv4_refines {start : Start} {m m₁ : Main} {s : Session} (alike : m.Alike s.main)
    (returned : startIpv4 start m = (.ok (), m₁)) :
    ∃ dialled again address s₁, m₁.Alike s₁.main ∧ ∀ d : Dialling, d.setupIpv4 = dialled →
      d.setupIpv4Again = again → d.addressIpv4 = address →
      Loop.startIpv4 d s = (.ok (), s₁) := by
  obtain ⟨ret, m₂, setup, rest⟩ := bind_eq_ok.mp returned
  obtain ⟨dialled, s₂, ran₂, alike₂⟩ := setup_refines alike setup
  obtain ⟨ret', m₃, retried, rest⟩ := bind_eq_ok.mp rest
  obtain ⟨again, s₃, alike₃, ran₃⟩ := setupIpv4Again_refines alike₂ retried
  obtain ⟨address, s₄, ran₄, alike₄⟩ := @startAddress_refines .v4 _ _ _ _ _ alike₃ rest
  refine ⟨dialled, again, address, s₄, alike₄, ?_⟩
  rintro d rfl rfl rfl
  exact bind_eq_ok.mpr ⟨ret, s₂, ran₂, bind_eq_ok.mpr ⟨ret', s₃, ran₃ d rfl, ran₄⟩⟩

theorem startIpv6_refines {start : Start} {m m₁ : Main} {s : Session} (alike : m.Alike s.main)
    (returned : startIpv6 start m = (.ok (), m₁)) :
    ∃ dialled address s₁, m₁.Alike s₁.main ∧ ∀ d : Dialling, d.setupIpv6 = dialled →
      d.addressIpv6 = address → Loop.startIpv6 d s = (.ok (), s₁) := by
  obtain ⟨ret, m₂, setup, rest⟩ := bind_eq_ok.mp returned
  obtain ⟨dialled, s₂, ran₂, alike₂⟩ := setup_refines alike setup
  obtain ⟨address, s₃, ran₃, alike₃⟩ := @startAddress_refines .v6 _ _ _ _ _ alike₂ rest
  refine ⟨dialled, address, s₃, alike₃, ?_⟩
  rintro d rfl rfl
  exact bind_eq_ok.mpr ⟨ret, s₂, ran₂, ran₃⟩

theorem Main.Alike.schedule {m m' : Main} (alike : m.Alike m') (start : Start) :
    (m.schedule start).Alike (m'.retryAt (start.clock 2)) := by
  obtain ⟨others, handle⟩ := alike
  generalize m'.client = c at others handle
  subst others
  unfold Main.schedule Main.retryAt
  split_ifs
  · exact ⟨rfl, handle⟩
  · exact ⟨rfl, handle⟩
  · exact ⟨rfl, handle⟩

/-- A reply for a request that is not made. -/
def Dialling.idle (clock : Nat → Nat) : Dialling where
  clock := clock
  setupIpv4 := ⟨⟨0, none⟩, none⟩
  setupIpv4Again := ⟨⟨0, none⟩, none⟩
  addressIpv4 := ⟨⟨0, none⟩, none⟩
  setupIpv6 := ⟨⟨0, none⟩, none⟩
  addressIpv6 := ⟨⟨0, none⟩, none⟩

/-- The part of the start event for the two families. -/
theorem startBoth_refines {start : Start} {m m₁ m₂ : Main} {s : Session} (alike : m.Alike s.main)
    {c₄ c₆ : Prop} [Decidable c₄] [Decidable c₆]
    (ipv4 : Proc.when c₄ (startIpv4 start) m = (.ok (), m₁))
    (ipv6 : Proc.when c₆ (startIpv6 start) m₁ = (.ok (), m₂)) :
    ∃ d s₁ s₂, d.clock = start.clock ∧ Proc.when c₄ (Loop.startIpv4 d) s = (.ok (), s₁) ∧
      Proc.when c₆ (Loop.startIpv6 d) s₁ = (.ok (), s₂) ∧ m₂.Alike s₂.main := by
  have first : ∃ dialled again address s₁, m₁.Alike s₁.main ∧ ∀ d : Dialling,
      d.setupIpv4 = dialled → d.setupIpv4Again = again → d.addressIpv4 = address →
      Proc.when c₄ (Loop.startIpv4 d) s = (.ok (), s₁) := by
    by_cases wanted : c₄
    · rw [when_pos wanted] at ipv4
      simpa only [when_pos wanted] using startIpv4_refines alike ipv4
    · rw [when_neg wanted] at ipv4
      cases ipv4
      exact ⟨⟨⟨0, none⟩, none⟩, ⟨⟨0, none⟩, none⟩, ⟨⟨0, none⟩, none⟩, s, alike, fun d _ _ _ => by
        rw [when_neg wanted]; rfl⟩
  obtain ⟨dialled₄, again, address₄, s₁, alike₁, ran₁⟩ := first
  have second : ∃ dialled address s₂, m₂.Alike s₂.main ∧ ∀ d : Dialling,
      d.setupIpv6 = dialled → d.addressIpv6 = address →
      Proc.when c₆ (Loop.startIpv6 d) s₁ = (.ok (), s₂) := by
    by_cases wanted : c₆
    · rw [when_pos wanted] at ipv6
      simpa only [when_pos wanted] using startIpv6_refines alike₁ ipv6
    · rw [when_neg wanted] at ipv6
      cases ipv6
      exact ⟨⟨⟨0, none⟩, none⟩, ⟨⟨0, none⟩, none⟩, s₁, alike₁, fun d _ _ => by
        rw [when_neg wanted]; rfl⟩
  obtain ⟨dialled₆, address₆, s₂, alike₂, ran₂⟩ := second
  exact ⟨⟨start.clock, dialled₄, again, address₄, dialled₆, address₆⟩, s₁, s₂, rfl,
    ran₁ _ rfl rfl rfl, ran₂ _ rfl rfl, alike₂⟩

/-- A start event of which every request has returned is one of the loop, for some replies. -/
theorem sigEventStart_refines (start : Start) {m m₁ : Main} {s : Session}
    (alike : m.Alike s.main) (returned : sigEventStart start m = (.ok (), m₁)) :
    ∃ d s₁, d.clock = start.clock ∧ Loop.sigEventStart d s = (.ok (), s₁) ∧
      m₁.Alike s₁.main := by
  have attached : s.main.psAttachedState = m.psAttachedState := by rw [alike.others]
  have loopback : s.main.loopbackState = m.loopbackState := by rw [alike.others]
  have allowed : s.main.setupCallAllowTime = m.setupCallAllowTime := by rw [alike.others]
  obtain ⟨_, _, got, rest⟩ := bind_eq_ok.mp returned
  cases got
  split at rest
  next detached =>
    cases rest
    refine ⟨.idle start.clock, s, rfl, bind_eq_ok.mpr ⟨s, s, rfl, ?_⟩, alike⟩
    rw [if_pos (by rwa [attached, loopback])]
    rfl
  next ready =>
    split at rest
    next early =>
      cases rest
      refine ⟨.idle start.clock, { s with main := { s.main with
        alarm := (s.main.setupCallAllowTime - start.clock 1 + 999) / 1000 } }, rfl,
        bind_eq_ok.mpr ⟨s, s, rfl, ?_⟩, ?_⟩
      · rw [if_neg (by rwa [attached, loopback]), if_pos (by rwa [allowed])]
        rfl
      · rw [allowed]
        exact ⟨by rw [alike.others], alike.handle⟩
    next due =>
      have wanted₄ : (m.enableIpv4 = true ∧ m.ipv4ConnectionStatus ≠ .connected) =
          (s.main.enableIpv4 = true ∧ s.status .v4 ≠ .connected) := by
        rw [Session.status, alike.others]
        rfl
      have wanted₆ : (m.enableIpv6 = true ∧ m.ipv6ConnectionStatus ≠ .connected) =
          (s.main.enableIpv6 = true ∧ s.status .v6 ≠ .connected) := by
        rw [Session.status, alike.others]
        rfl
      obtain ⟨_, m₂, ipv4, rest⟩ := bind_eq_ok.mp rest
      obtain ⟨_, m₃, ipv6, rest⟩ := bind_eq_ok.mp rest
      cases rest
      simp only [wanted₄] at ipv4
      simp only [wanted₆] at ipv6
      obtain ⟨d, s₂, s₃, clock, ran₂, ran₃, alike₃⟩ := startBoth_refines alike ipv4 ipv6
      refine ⟨d, { s₃ with main := s₃.main.retryAt (d.clock 2) }, clock,
        bind_eq_ok.mpr ⟨s, s, rfl, ?_⟩, ?_⟩
      · rw [if_neg (by rwa [attached, loopback]), if_neg (by rwa [allowed, clock])]
        exact bind_eq_ok.mpr ⟨(), s₂, ran₂, bind_eq_ok.mpr ⟨(), s₃, ran₃, rfl⟩⟩
      · rw [clock]
        exact alike₃.schedule start

end LorawanFeeds.QmiClient
