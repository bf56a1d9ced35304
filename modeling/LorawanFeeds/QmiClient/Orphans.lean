import LorawanFeeds.QmiClient.Requests

/-!
# No data call is orphaned

The loop decides from the status of a family whether it sets up a call, and the handle that it
would have to stop first is kept elsewhere. The two agree as long as every call that the modem
starts is confirmed, its address can be read, and a check that finds something wrong either
stops the call or hears from the modem that it is down. Nothing makes sure of this: an address
request that fails leaves the handle of a call that is up under a status of disconnected, and
the next start event sets up a second one.
-/
namespace LorawanFeeds.QmiClient

open Lib

/-! ### The start event -/

/-- What holds between two events: a handle is stored under a connected status only. -/
structure Session.Settled (s : Session) : Prop extends s.Tidy where
  idle : ∀ f, s.status f ≠ .connected → s.handle f = 0

namespace Session.Settled

variable {s : Session} {f : IpFamily}

theorem connected_of_handle (settled : s.Settled) (stored : s.handle f ≠ 0) :
    s.status f = .connected := by
  by_contra down
  exact stored (settled.idle f down)

theorem enabled_of_handle (settled : s.Settled) (stored : s.handle f ≠ 0) :
    s.main.enabled f = true := by
  cases flag : s.main.enabled f with
  | true => rfl
  | false => exact absurd (settled.off f flag) stored

end Session.Settled

/-- A change of the other variables of `qmi_main`. -/
structure Main.SameCalls (m m' : Main) : Prop where
  client : m'.client = m.client
  status : m'.status = m.status
  enabled : m'.enabled = m.enabled

theorem Session.Settled.onMain {s : Session} (settled : s.Settled) {m : Main}
    (same : s.main.SameCalls m) : { s with main := m }.Settled := by
  have handle : ({ s with main := m } : Session).handle = s.handle := by
    funext family
    simp only [Session.handle, same.client]
  have status : ({ s with main := m } : Session).status = s.status := by
    funext family
    simp only [Session.status, same.status]
  refine ⟨⟨settled.setups, settled.points, ?_, ?_⟩, ?_⟩
  · intro f
    simpa only [Session.Up, handle] using settled.up f
  · intro f disabled
    rw [handle]
    rw [same.enabled] at disabled
    exact settled.off f disabled
  · intro f
    rw [handle, status]
    exact settled.idle f

theorem Main.retryAt_same (m : Main) (clock : Nat) : m.SameCalls (m.retryAt clock) := by
  unfold Main.retryAt
  split_ifs
  · exact ⟨rfl, funext fun family => by cases family <;> rfl,
      funext fun family => by cases family <;> rfl⟩
  · exact ⟨rfl, funext fun family => by cases family <;> rfl,
      funext fun family => by cases family <;> rfl⟩
  · exact ⟨rfl, rfl, rfl⟩

/-- The work on one family is done, and the family is settled. -/
structure Session.SettledFor (f : IpFamily) (s t : Session) : Prop where
  tidy : t.Tidy
  frame : s.Frame f t
  idle : t.status f ≠ .connected → t.handle f = 0

theorem Session.Settled.after {f : IpFamily} {s t : Session} (settled : s.Settled)
    (done : s.SettledFor f t) : t.Settled := by
  refine ⟨done.tidy, fun g => ?_⟩
  by_cases same : g = f
  · exact same ▸ done.idle
  · rw [done.frame.handle g same, done.frame.status g same]
    exact settled.idle g

theorem Session.Settled.moved {s t : Session} (settled : s.Settled) (moved : s.Moved t) :
    t.Settled := by
  refine ⟨settled.toTidy.moved moved, fun f => ?_⟩
  rw [moved.handle, moved.status]
  exact settled.idle f

namespace Loop

open Proc

variable {s : Session} {f : IpFamily}

/-- With a handle stored, the status becomes connected. -/
theorem startAddress_does (tidy : s.Tidy) {a : Addressed} {qmierr : Int}
    (readable : s.handle f ≠ 0 → qmierr = 0 ∧ a.reply.code = 0) :
    Does (startAddress f a qmierr) s fun _ t => s.SettledFor f t := by
  unfold startAddress
  apply ends_when
  · intro _
    apply ends_bind
    refine (requestGetIPAddress_does s f a).imp ?_
    rintro ret t ⟨moved, busy, idle⟩
    have zero : ret = 0 := by
      by_cases stored : s.handle f = 0
      · exact (idle stored).1
      · rw [(busy stored).1]
        exact (readable stored).2
    apply ends_when
    · intro _
      refine ends_modify ⟨(tidy.moved moved).setStatus f _,
        moved.frame.trans (Session.frame_setStatus _), ?_⟩
      intro other
      exact absurd (by simp) other
    · intro nonzero
      exact absurd zero nonzero
  · intro failed
    refine ⟨tidy, Session.Frame.refl, fun _ => ?_⟩
    by_contra stored
    exact failed (readable stored).1

/-- The second try, if there is one; a first one that has failed has left no handle. -/
theorem setupIpv4Again_does {d : Dialling} (tidy : s.Tidy) (enabled : s.main.enabled .v4 = true)
    {qmierr : Int} (failed : qmierr = d.setupIpv4.reply.code)
    (first : s.handle .v4 ≠ 0 → d.setupIpv4.started ≠ none ∧ qmierr = 0)
    (confirmed : s.DialsAgain d → d.setupIpv4Again.Confirmed) :
    Does (setupIpv4Again d qmierr) s fun ret t =>
      t.Tidy ∧ s.Frame .v4 t ∧ (t.handle .v4 ≠ 0 → ret = 0 ∧
        (d.setupIpv4.started ≠ none ∨ (s.DialsAgain d ∧ d.setupIpv4Again.started ≠ none))) := by
  unfold setupIpv4Again
  apply ends_bind
  apply ends_get
  split
  next again =>
    have dialsAgain : s.DialsAgain d := ⟨failed ▸ again.1, again.2.1, again.2.2⟩
    have idle : s.handle .v4 = 0 := by
      by_contra stored
      have positive := again.1
      rw [(first stored).2] at positive
      exact absurd positive (by decide)
    apply ends_bind
    apply ends_modify
    apply ends_bind
    refine (requestSetupDataCall_does (tidy.auth (if s.main.auth = 1 then 2 else 1)) idle enabled
      (confirmed dialsAgain)).imp ?_
    rintro ret t ⟨setTidy, setFrame, -, -, set⟩
    apply ends_bind
    apply ends_when
    · intro nonzero
      apply ends_modify
      refine ends_pure ⟨setTidy.auth _, ((Session.frame_auth _).trans setFrame).trans
        (Session.frame_auth _), ?_⟩
      intro stored
      exact absurd (set stored).2 nonzero
    · intro zero
      exact ends_pure ⟨setTidy, (Session.frame_auth _).trans setFrame, fun stored =>
        ⟨(set stored).2, .inr ⟨dialsAgain, (set stored).1⟩⟩⟩
  next =>
    exact ends_pure ⟨tidy, Session.Frame.refl, fun stored =>
      ⟨(first stored).2, .inl (first stored).1⟩⟩

theorem startIpv4_does {d : Dialling} (settled : s.Settled) (dials : s.Dials d .v4)
    (meets : s.StartMeets d) : Does (startIpv4 d) s fun _ t => s.SettledFor .v4 t := by
  obtain ⟨confirmed, confirmedAgain, readable⟩ := meets.ipv4 dials
  obtain ⟨-, -, enabled, disconnected⟩ := dials
  unfold startIpv4
  apply ends_bind
  refine (requestSetupDataCall_does settled.toTidy (settled.idle .v4 disconnected) enabled
    confirmed).imp ?_
  rintro ret t ⟨tidy, frame, -, code, first⟩
  have same : t.DialsAgain d ↔ s.DialsAgain d := by
    simp only [Session.DialsAgain, frame.user, frame.password]
  apply ends_bind
  refine (setupIpv4Again_does tidy (frame.enabled ▸ enabled) code first fun again =>
    confirmedAgain (same.mp again)).imp ?_
  rintro ret u ⟨againTidy, againFrame, started⟩
  refine (startAddress_does againTidy fun stored => ⟨(started stored).1, readable ?_⟩).imp ?_
  · simpa only [same] using (started stored).2
  · intro _ v done
    exact ⟨done.tidy, (frame.trans againFrame).trans done.frame, done.idle⟩

theorem startIpv6_does {d : Dialling} (settled : s.Settled)
    (confirmed : d.setupIpv6.Confirmed)
    (readable : d.setupIpv6.started ≠ none → d.addressIpv6.reply.code = 0)
    (enabled : s.main.enabled .v6 = true) (disconnected : s.status .v6 ≠ .connected) :
    Does (startIpv6 d) s fun _ t => s.SettledFor .v6 t := by
  unfold startIpv6
  apply ends_bind
  refine (requestSetupDataCall_does settled.toTidy (settled.idle .v6 disconnected) enabled
    confirmed).imp ?_
  rintro ret t ⟨tidy, frame, -, -, started⟩
  refine (startAddress_does tidy fun stored =>
    ⟨(started stored).2, readable (started stored).1⟩).imp ?_
  intro _ u done
  exact ⟨done.tidy, frame.trans done.frame, done.idle⟩

/-- What an event leaves behind. -/
def Keeps (x : Loop Unit) (s : Session) : Prop :=
  Does x s fun _ t => t.Settled ∧ t.left = s.left

theorem keeps_onMain (settled : s.Settled) {g : Main → Main}
    (same : s.main.SameCalls (g s.main)) : Keeps (onMain g) s :=
  ends_modify ⟨settled.onMain same, rfl⟩

theorem sigEventStart_keeps {d : Dialling} (settled : s.Settled) (meets : s.StartMeets d) :
    Keeps (sigEventStart d) s := by
  unfold sigEventStart
  apply ends_bind
  apply ends_get
  split
  next => exact ends_pure ⟨settled, rfl⟩
  next attached =>
    split
    next => exact keeps_onMain settled ⟨rfl, rfl, rfl⟩
    next due =>
      have now : s.main.setupCallAllowTime ≤ d.clock 0 := Nat.le_of_not_gt due
      apply ends_bind
      have ipv4 : Does (Proc.when (s.main.enableIpv4 ∧ s.status .v4 ≠ .connected)
          (startIpv4 d)) s fun _ t => t.Settled ∧ s.Frame .v4 t := by
        apply ends_when
        · rintro ⟨enabled, disconnected⟩
          refine (startIpv4_does settled ⟨attached, now, enabled, disconnected⟩ meets).imp ?_
          intro _ t done
          exact ⟨settled.after done, done.frame⟩
        · intro _
          exact ⟨settled, Session.Frame.refl⟩
      refine ipv4.imp ?_
      rintro _ t ⟨settled₄, frame₄⟩
      apply ends_bind
      have ipv6 : Does (Proc.when (s.main.enableIpv6 ∧ s.status .v6 ≠ .connected)
          (startIpv6 d)) t fun _ u => u.Settled ∧ t.Frame .v6 u := by
        apply ends_when
        · rintro ⟨enabled, disconnected⟩
          -- The IPv4 call has not touched what decides on this one.
          have enabled₆ : t.main.enabled .v6 = true := frame₄.enabled ▸ enabled
          have disconnected₆ : t.status .v6 ≠ .connected := by
            rw [frame₄.status .v6 (by decide)]
            exact disconnected
          obtain ⟨confirmed, readable⟩ := meets.ipv6 ⟨attached, now, enabled, disconnected⟩
          refine (startIpv6_does settled₄ confirmed readable enabled₆ disconnected₆).imp ?_
          intro _ u done
          exact ⟨settled₄.after done, done.frame⟩
        · intro _
          exact ⟨settled₄, Session.Frame.refl⟩
      refine ipv6.imp ?_
      rintro _ u ⟨settled₆, frame₆⟩
      refine (keeps_onMain settled₆ (u.main.retryAt_same (d.clock 2))).imp ?_
      rintro _ v ⟨settled', left⟩
      exact ⟨settled', left.trans (frame₆.left.trans frame₄.left)⟩

/-! ### The check -/

/-- A missing address is read; if that fails, there was no handle. -/
theorem fetchAddress_does {c : Checking} (tidy : s.Tidy)
    (connected : s.handle .v4 ≠ 0 → s.status .v4 = .connected)
    (readable : s.handle .v4 ≠ 0 → s.address = 0 → c.addressIpv4.reply.code = 0) :
    Does (fetchAddress c) s fun _ t =>
      t.Tidy ∧ s.Frame .v4 t ∧ t.handle .v4 = s.handle .v4 ∧
        (t.handle .v4 ≠ 0 → t.status .v4 = .connected ∧ t.address = s.localAddress c) := by
  unfold fetchAddress
  apply ends_bind
  apply ends_get
  apply ends_when
  · rintro ⟨up, missing⟩
    apply ends_bind
    refine (requestGetIPAddress_does s .v4 c.addressIpv4).imp ?_
    rintro ret t ⟨moved, busy, idle⟩
    have address : s.handle .v4 ≠ 0 → t.address = s.localAddress c := by
      intro stored
      rw [Session.localAddress, if_pos missing]
      exact (busy stored).2 rfl
    apply ends_when
    · intro failed
      refine ends_modify ⟨(tidy.moved moved).setStatus .v4 _,
        moved.frame.trans (Session.frame_setStatus _), ?_, ?_⟩
      · rw [Session.handle_setStatus, moved.handle]
      · intro stored
        rw [Session.handle_setStatus, moved.handle] at stored
        exact absurd ((busy stored).1.trans (readable stored missing)) failed
    · intro _
      refine ⟨tidy.moved moved, moved.frame, moved.handle, fun stored => ?_⟩
      rw [moved.handle] at stored
      exact ⟨moved.status.trans up, address stored⟩
  · intro other
    refine ⟨tidy, Session.Frame.refl, rfl, fun stored => ⟨connected stored, ?_⟩⟩
    have given : s.address ≠ 0 := fun missing => other ⟨connected stored, missing⟩
    rw [Session.localAddress, if_neg given]

theorem checkIpv4Address_does (s : Session) (a : Addressed) :
    Does (checkIpv4Address a) s fun same t => s.Moved t ∧
      (s.handle .v4 ≠ 0 → same = false → a.reply.code ≠ 0 ∨ a.address ≠ s.address) := by
  unfold checkIpv4Address
  apply ends_bind
  apply ends_get
  apply ends_bind
  refine (requestGetIPAddress_does s .v4 a).imp ?_
  rintro ret t ⟨moved, busy, -⟩
  apply ends_bind
  apply ends_get
  refine ends_pure ⟨moved, fun stored differs => ?_⟩
  obtain ⟨code, address⟩ := busy stored
  simp only [decide_eq_false_iff_not, not_and_or] at differs
  rwa [code, address rfl] at differs

/-- A call with another address is stopped before its status goes. -/
theorem compareAddress_does {c : Checking} (tidy : s.Tidy)
    (connected : s.handle .v4 ≠ 0 → s.status .v4 = .connected)
    (stops : s.handle .v4 ≠ 0 →
      c.checkIpv4.reply.code ≠ 0 ∨ c.checkIpv4.address ≠ s.address →
      c.stopIpv4.accepted = true) :
    Does (compareAddress c) s fun _ t => s.SettledFor .v4 t := by
  unfold compareAddress
  apply ends_bind
  apply ends_get
  apply ends_when
  · intro up
    apply ends_bind
    refine (checkIpv4Address_does s c.checkIpv4).imp ?_
    rintro same t ⟨moved, differs⟩
    apply ends_when
    · intro other
      apply ends_bind
      refine (requestDeactivateDefaultPDP_does (tidy.moved moved) c.stopIpv4).imp ?_
      rintro _ u ⟨stopTidy, stopFrame, -, stillIdle, freed, -⟩
      refine ends_modify ⟨stopTidy.setStatus .v4 _,
        (moved.frame.trans stopFrame).trans (Session.frame_setStatus _), fun _ => ?_⟩
      rw [Session.handle_setStatus]
      by_cases idle : s.handle .v4 = 0
      · exact stillIdle (moved.handle.trans idle)
      · exact freed (stops idle (differs idle other))
    · intro _
      refine ⟨tidy.moved moved, moved.frame, fun down => ?_⟩
      exact absurd (moved.status.trans up) down
  · intro down
    refine ⟨tidy, Session.Frame.refl, fun _ => ?_⟩
    by_contra stored
    exact down (connected stored)

theorem checkIpv4_does {c : Checking} (settled : s.Settled) (meets : s.CheckMeets c) :
    Does (checkIpv4 c) s fun _ t => s.SettledFor .v4 t := by
  have connected : s.handle .v4 ≠ 0 → s.status .v4 = .connected := settled.connected_of_handle
  unfold checkIpv4
  apply ends_bind
  apply ends_get
  split
  next asked =>
    apply ends_bind
    refine (requestQueryDataCall_does settled.toTidy fun stored =>
      (meets.queryIpv4 stored).2).imp ?_
    rintro ret t ⟨tidy, frame, address, code, status, kept⟩
    split
    next answered =>
      have upAfter : t.handle .v4 ≠ 0 → t.status .v4 = .connected := fun stored =>
        (kept stored).2 (connected (kept stored).1)
      have here : s.localAddress c = t.localAddress c := by
        rw [Session.localAddress, Session.localAddress, address]
      apply ends_bind
      refine (fetchAddress_does tidy upAfter fun stored missing =>
        meets.addressIpv4 (kept stored).1 (status ▸ upAfter stored) (address ▸ missing)).imp ?_
      rintro _ u ⟨fetchTidy, fetchFrame, handle, fetched⟩
      refine (compareAddress_does fetchTidy (fun stored => (fetched stored).1) ?_).imp ?_
      · intro stored differs
        have before : t.handle .v4 ≠ 0 := handle ▸ stored
        rw [(fetched stored).2, ← here] at differs
        exact meets.stopIpv4 (kept before).1 (status ▸ upAfter before) differs
      · intro _ v done
        exact ⟨done.tidy, (frame.trans fetchFrame).trans done.frame, done.idle⟩
    next failed =>
      refine ends_modify ⟨tidy.setStatus .v4 _, frame.trans (Session.frame_setStatus _),
        fun _ => ?_⟩
      rw [Session.handle_setStatus]
      by_contra stored
      exact failed (code.trans (meets.queryIpv4 (kept stored).1).1)
  next skipped =>
    refine ends_modify ⟨settled.toTidy.setStatus .v4 _, Session.frame_setStatus _, fun _ => ?_⟩
    rw [Session.handle_setStatus]
    by_contra stored
    -- The family is switched off, or its status says that there is nothing to ask for.
    apply skipped
    refine ⟨settled.enabled_of_handle stored, ?_⟩
    rw [connected stored]
    decide

theorem checkIpv6_does {c : Checking} (settled : s.Settled)
    (tells : s.handle .v6 ≠ 0 → c.queryIpv6.Tells) :
    Does (checkIpv6 c) s fun _ t => s.SettledFor .v6 t := by
  have connected : s.handle .v6 ≠ 0 → s.status .v6 = .connected := settled.connected_of_handle
  unfold checkIpv6
  apply ends_bind
  apply ends_get
  split
  next asked =>
    apply ends_bind
    refine (requestQueryDataCall_does settled.toTidy tells).imp ?_
    rintro ret t ⟨tidy, frame, -, -, -, kept⟩
    refine ends_pure ⟨tidy, frame, fun down => ?_⟩
    by_contra stored
    exact down ((kept stored).2 (connected (kept stored).1))
  next skipped =>
    refine ends_modify ⟨settled.toTidy.setStatus .v6 _, Session.frame_setStatus _, fun _ => ?_⟩
    rw [Session.handle_setStatus]
    by_contra stored
    apply skipped
    refine ⟨settled.enabled_of_handle stored, ?_⟩
    rw [connected stored]
    decide

theorem usbnetLinkChange_does (s : Session) (v4 v6 : Bool) :
    Does (usbnetLinkChange v4 v6) s fun _ t => s.Moved t := by
  unfold usbnetLinkChange
  apply ends_bind
  apply ends_get
  apply ends_when
  · intro _
    apply ends_bind
    apply ends_modify
    apply ends_when
    · intro _
      exact ends_modify rfl
    · intro _
      exact rfl
  · intro _
    exact rfl

theorem checkLink_does (s : Session) : Does checkLink s fun _ t => s.Moved t := by
  unfold checkLink
  apply ends_bind
  apply ends_get
  split
  next => exact usbnetLinkChange_does s false false
  next =>
    apply ends_when
    · intro _
      exact usbnetLinkChange_does s _ _
    · intro _
      exact rfl

theorem sigEventCheck_keeps {c : Checking} (settled : s.Settled) (meets : s.CheckMeets c) :
    Keeps (sigEventCheck c) s := by
  unfold sigEventCheck
  apply ends_bind
  apply ends_get
  apply ends_bind
  have registered : Does (Proc.when (s.main.psAttachedState ≠ 1)
      (requestRegistrationState c.registration)) s fun _ t =>
      t.Settled ∧ t.CheckMeets c ∧ t.left = s.left := by
    apply ends_when
    · intro _
      exact ends_modify ⟨settled.onMain ⟨rfl, rfl, rfl⟩,
        ⟨meets.queryIpv4, meets.addressIpv4, meets.stopIpv4, meets.queryIpv6⟩, rfl⟩
    · intro _
      exact ⟨settled, meets, rfl⟩
  refine registered.imp ?_
  rintro _ t ⟨settled₁, meets₁, left₁⟩
  apply ends_bind
  refine (checkIpv4_does settled₁ meets₁).imp ?_
  intro _ u done₄
  have settled₄ := settled₁.after done₄
  apply ends_bind
  refine (checkIpv6_does settled₄ ?_).imp ?_
  · rw [done₄.frame.handle .v6 (by decide)]
    exact meets₁.queryIpv6
  intro _ v done₆
  refine (checkLink_does v).imp ?_
  intro _ w moved
  refine ⟨(settled₄.after done₆).moved moved, ?_⟩
  rw [moved.left, done₆.frame.left, done₄.frame.left, left₁]

/-! ### The end of the loop -/

/-- A STOP of one family, where it is wanted. -/
theorem stop_does (settled : s.Settled) (c : Prop) [Decidable c] (x : Stopped) :
    Does (Proc.when c do let _ ← requestDeactivateDefaultPDP f x) s fun _ t =>
      s.SettledFor f t ∧ t.status f = s.status f ∧ (s.handle f = 0 → t.handle f = 0) ∧
        (s.handle f = 0 ∨ (c ∧ x.issued = true) ∨ s.StopIssued f → t.StopIssued f) := by
  apply ends_when
  · intro wanted
    apply ends_bind
    refine (requestDeactivateDefaultPDP_does settled.toTidy x).imp ?_
    rintro _ t ⟨tidy, frame, status, idle, -, issued⟩
    refine ends_pure ⟨⟨tidy, frame, fun down => idle (settled.idle f (status ▸ down))⟩, status,
      idle, ?_⟩
    rintro (zero | ⟨-, written⟩ | already)
    · exact issued (.inl zero)
    · exact issued (.inr (.inl written))
    · exact issued (.inr (.inr already))
  · intro unwanted
    refine ⟨⟨settled.toTidy, Session.Frame.refl, settled.idle f⟩, rfl, id, ?_⟩
    rintro (zero | ⟨wanted, -⟩ | already)
    · intro call up
      rw [settled.toTidy.no_calls zero] at up
      cases up
    · exact absurd wanted unwanted
    · exact already

/-- On the way out every family with a handle is stopped, unless that has been tried. -/
theorem mainQuit_does {q : Quitting} (settled : s.Settled)
    (ipv4 : s.handle .v4 ≠ 0 → q.stopIpv4.issued = true ∨ s.StopIssued .v4)
    (ipv6 : s.handle .v6 ≠ 0 → q.stopIpv6.issued = true ∨ s.StopIssued .v6) :
    Does (mainQuit q) s fun _ t => t.Settled ∧ ∀ f, t.StopIssued f := by
  unfold mainQuit
  apply ends_bind
  apply ends_get
  apply ends_bind
  refine (stop_does settled (s.main.enableIpv4 = true) q.stopIpv4).imp ?_
  rintro _ t ⟨done₄, -, -, issued₄⟩
  have settled₄ := settled.after done₄
  have handle₆ : t.handle .v6 = s.handle .v6 := done₄.frame.handle .v6 (by decide)
  have calls₆ : t.calls .v6 = s.calls .v6 := done₄.frame.calls .v6 (by decide)
  apply ends_bind
  refine (stop_does settled₄ (s.main.enableIpv6 = true) q.stopIpv6).imp ?_
  rintro _ u ⟨done₆, -, -, issued₆⟩
  have calls₄ : u.calls .v4 = t.calls .v4 := done₆.frame.calls .v4 (by decide)
  apply ends_bind
  refine (usbnetLinkChange_does u false false).imp ?_
  intro _ v moved
  refine ends_modify ⟨?_, fun f => ?_⟩
  · have last := (settled₄.after done₆).moved moved
    exact ⟨⟨last.setups, last.points, last.up, last.off⟩, last.idle⟩
  · show ∀ call ∈ v.calls f, call.stopIssued = true
    rw [moved.calls]
    cases f with
    | v4 =>
      rw [calls₄]
      apply issued₄
      by_cases idle : s.handle .v4 = 0
      · exact .inl idle
      · exact .inr ((ipv4 idle).imp (⟨settled.enabled_of_handle idle, ·⟩) id)
    | v6 =>
      apply issued₆
      rw [handle₆, Session.StopIssued, calls₆]
      by_cases idle : s.handle .v6 = 0
      · exact .inl idle
      · exact .inr ((ipv6 idle).imp (⟨settled.enabled_of_handle idle, ·⟩) id)

theorem sigEventStop_does {first q : Quitting} (settled : s.Settled)
    (ipv4 : s.handle .v4 ≠ 0 → first.stopIpv4.issued = true)
    (ipv6 : s.handle .v6 ≠ 0 → first.stopIpv6.issued = true) :
    Does (sigEventStop first q) s fun _ t => t.Settled ∧ ∀ f, t.StopIssued f := by
  unfold sigEventStop
  apply ends_bind
  apply ends_get
  apply ends_bind
  refine (stop_does settled (s.main.enableIpv4 ∧ s.status .v4 = .connected) first.stopIpv4).imp ?_
  rintro _ t ⟨done₄, -, idle₄, issued₄⟩
  have settled₄ := settled.after done₄
  have handle₆ : t.handle .v6 = s.handle .v6 := done₄.frame.handle .v6 (by decide)
  apply ends_bind
  refine (stop_does settled₄ (s.main.enableIpv6 ∧ s.status .v6 = .connected)
    first.stopIpv6).imp ?_
  rintro _ u ⟨done₆, -, idle₆, issued₆⟩
  have handle₄ : u.handle .v4 = t.handle .v4 := done₆.frame.handle .v4 (by decide)
  have calls₄ : u.calls .v4 = t.calls .v4 := done₆.frame.calls .v4 (by decide)
  apply ends_bind
  refine (usbnetLinkChange_does u false false).imp ?_
  intro _ v moved
  apply mainQuit_does ((settled₄.after done₆).moved moved)
  · intro stored
    rw [moved.handle, handle₄] at stored
    rw [Session.StopIssued, moved.calls, calls₄]
    -- A handle that is still there was there before, under a connected status.
    have before : s.handle .v4 ≠ 0 := fun idle => stored (idle₄ idle)
    exact .inr (issued₄ (.inr (.inl
      ⟨⟨settled.enabled_of_handle before, settled.connected_of_handle before⟩, ipv4 before⟩)))
  · intro stored
    rw [moved.handle] at stored
    rw [Session.StopIssued, moved.calls]
    have before : s.handle .v6 ≠ 0 := fun idle => stored (idle₆ (handle₆.trans idle))
    refine .inr (issued₆ (.inr (.inl ⟨?_, ipv6 before⟩)))
    exact ⟨settled.enabled_of_handle before, settled.connected_of_handle before⟩

theorem voiceNetworkStateChanged_keeps (settled : s.Settled) (registration : Option UInt8)
    (clock : Nat) : Keeps (voiceNetworkStateChanged registration clock) s := by
  unfold voiceNetworkStateChanged
  apply ends_bind
  refine (keeps_onMain settled ⟨rfl, rfl, rfl⟩).imp ?_
  rintro _ t ⟨settled₁, left₁⟩
  apply ends_bind
  apply ends_get
  apply ends_when
  · intro _
    refine (keeps_onMain settled₁ ⟨rfl, rfl, rfl⟩).imp ?_
    rintro _ u ⟨settled₂, left₂⟩
    exact ⟨settled₂, left₂.trans left₁⟩
  · intro _
    exact ⟨settled₁, left₁⟩

theorem dataCallListChanged_keeps (settled : s.Settled) (clock : Nat) :
    Keeps (dataCallListChanged clock) s := by
  unfold dataCallListChanged
  apply ends_bind
  apply ends_get
  apply ends_when
  · intro _
    exact keeps_onMain settled ⟨rfl, rfl, rfl⟩
  · intro _
    exact ⟨settled, rfl⟩

end Loop

/-! ### Whole runs -/

namespace Session

variable {s : Session}

/-- What holds in every state of a run. -/
structure Inv (s : Session) : Prop extends s.Settled where
  stopped : s.left = true → ∀ f, s.StopIssued f

theorem Inv.notOrphaned (inv : s.Inv) : s.NotOrphaned :=
  ⟨inv.setups, inv.points, Up.held inv.up, inv.stopped⟩

theorem boot_inv (m : Main) : (boot m).Inv where
  setups _ member := by cases member
  points _ member := by cases member
  up _ := .inl rfl
  off f _ := by cases f <;> rfl
  idle f _ := by cases f <;> rfl
  stopped _ _ _ member := by cases member

/-- A call that ends is one call less. -/
theorem Inv.callEnds (inv : s.Inv) (f : IpFamily) (handle : UInt32) : (s.ended f handle).Inv := by
  have tidy : (s.ended f handle).Tidy := by
    refine inv.toTidy.change (frame_setCalls _) inv.setups inv.points ?_ (inv.off f)
    rcases inv.up f with none | ⟨busy, issued, one⟩
    · left
      simp [ended, none]
    · by_cases this : s.handle f = handle
      · left
        simp [ended, one, this]
      · right
        exact ⟨busy, issued, by simp [ended, one, this]⟩
  refine ⟨⟨tidy, inv.idle⟩, fun left g call up => ?_⟩
  apply inv.stopped left g call
  by_cases same : g = f
  · subst same
    rw [ended, calls_setCalls, if_pos rfl] at up
    exact (List.mem_filter.mp up).1
  · rwa [ended, calls_setCalls, if_neg same] at up

theorem Inv.enter (inv : s.Inv) (idle : ∀ f, s.handle f = 0) (registration : Option UInt8)
    (loopbackState : Int) (clock : Nat) :
    (handler (.enter registration loopbackState clock) s).2.Inv where
  setups := inv.setups
  points := inv.points
  up f := .inl (inv.toTidy.no_calls (idle f))
  off f _ := idle f
  idle f _ := idle f
  stopped left := by cases left

/-- What the handler of an event has to leave behind while the loop goes on, or when it ends. -/
theorem inv_of_keeps {x : Loop Unit} (keeps : Loop.Keeps x s) (running : s.left = false) :
    (x s).2.Inv := by
  apply Proc.Ends.snd
  refine Proc.Ends.imp keeps ?_ fun _ _ never => never.elim
  rintro _ t ⟨settled, left⟩
  refine ⟨settled, fun gone => ?_⟩
  rw [left, running] at gone
  cases gone

theorem inv_of_left {x : Loop Unit}
    (does : Loop.Does x s fun _ t => t.Settled ∧ ∀ f, t.StopIssued f) : (x s).2.Inv := by
  apply Proc.Ends.snd
  refine Proc.Ends.imp does ?_ fun _ _ never => never.elim
  rintro _ t ⟨settled, issued⟩
  exact ⟨settled, fun _ => issued⟩

theorem step_inv (s : Session) (e : LoopEvent) (inv : s.Inv) (meets : s.Meets e) :
    (s.step e).Inv := by
  rw [step]
  split
  case isFalse => exact inv
  case isTrue taken =>
    have running : (!s.left) = true → s.left = false := Bool.not_eq_true' s.left |>.mp
    have settled := inv.toSettled
    cases e with
    | start d => exact inv_of_keeps (Loop.sigEventStart_keeps settled meets) (running taken)
    | check c => exact inv_of_keeps (Loop.sigEventCheck_keeps settled meets) (running taken)
    | stop first q => exact inv_of_left (Loop.sigEventStop_does settled meets.1 meets.2)
    | voiceNetworkStateChanged registration clock =>
      exact inv_of_keeps (Loop.voiceNetworkStateChanged_keeps settled _ _) (running taken)
    | dataCallListChanged clock =>
      exact inv_of_keeps (Loop.dataCallListChanged_keeps settled _) (running taken)
    | loopbackConfigInd loopbackState =>
      exact inv_of_keeps (Loop.keeps_onMain (g := fun m => { m with loopbackState }) settled
        ⟨rfl, rfl, rfl⟩) (running taken)
    | quit q =>
      exact inv_of_left (Loop.mainQuit_does settled (fun stored => .inl (meets.1 stored))
        fun stored => .inl (meets.2 stored))
    | callEnds family handle => exact inv.callEnds family handle
    | enter registration loopbackState clock =>
      exact inv.enter meets registration loopbackState clock

/-- In a run whose requests meet the condition, no data call is orphaned: every setup finds the
handle of its family free, at every moment the family has no call but the one that is stored, and
when the loop has been left the end of every call has been asked for. -/
theorem data_calls_not_orphaned (m : Main) (events : List LoopEvent)
    (guarded : Guarded step Meets (boot m) events) : (run step (boot m) events).NotOrphaned :=
  (guarded_invariant step Meets Inv step_inv (boot m) (boot_inv m) events guarded).notOrphaned

end Session

/-- An answer of the data service. -/
def wdsAnswer (handle : UInt32) : Reply :=
  ⟨0, some { length := 0, qmiType := qmuxTypeWds, transactionId := 0, type := 0, handle }⟩

/-- Nothing comes back in time. -/
def timedOut : Reply := ⟨etimedout, none⟩

/-- A start event that sets up an IPv4 call, and how its address request ends. -/
def startEvent (clock : Nat) (handle : UInt32) (address : Reply) : LoopEvent :=
  .start
    { clock := fun _ => clock
      setupIpv4 := ⟨wdsAnswer handle, none⟩
      setupIpv4Again := ⟨timedOut, none⟩
      addressIpv4 := ⟨address, some 0x0A000001⟩
      setupIpv6 := ⟨timedOut, none⟩
      addressIpv6 := ⟨timedOut, none⟩ }

/-- A check to which the modem reports the status and the address of the IPv4 call. -/
def checkEvent (status : UInt8) (address : UInt32) : LoopEvent :=
  .check
    { registration := some 1
      queryIpv4 := ⟨wdsAnswer 0, some ⟨status, none⟩⟩
      addressIpv4 := ⟨timedOut, none⟩
      checkIpv4 := ⟨wdsAnswer 0, some address⟩
      stopIpv4 := .sent (wdsAnswer 0)
      queryIpv6 := ⟨timedOut, none⟩ }

/-- A call that gets another address is stopped and set up again, and stopped at the end. -/
def orderlyRun : List LoopEvent :=
  [.enter (some 1) 0 0, checkEvent 1 0, startEvent 5 0x10 (wdsAnswer 0), checkEvent 2 0x0A000002,
    startEvent 10 0x20 (wdsAnswer 0), checkEvent 2 0x0A000001,
    .stop ⟨.sent (wdsAnswer 0), .unsent (-enodev)⟩ ⟨.unsent (-enodev), .unsent (-enodev)⟩]

theorem data_calls_not_orphaned_orderly :
    Guarded Session.step Session.Meets (Session.boot {}) orderlyRun ∧
      (run Session.step (Session.boot {}) orderlyRun).NotOrphaned :=
  ⟨by decide +kernel, Session.data_calls_not_orphaned {} orderlyRun (by decide +kernel)⟩

/-- The address request of the first call times out, and five seconds later the timer expires. -/
def addressLost : List LoopEvent :=
  [.enter (some 1) 0 0, checkEvent 1 0, startEvent 5 0x10 timedOut,
    startEvent 5010 0x20 (wdsAnswer 0)]

/-- The second call is set up over the first one, whose handle is lost. -/
theorem address_timeout_orphans :
    ¬ (run Session.step (Session.boot {}) addressLost).NotOrphaned ∧
      (run Session.step (Session.boot {}) addressLost).calls .v4 =
        [⟨0x10, false⟩, ⟨0x20, false⟩] := by
  refine ⟨?_, by decide +kernel⟩
  intro held
  have second := held.setups (.v4, 0x10) (by decide +kernel)
  exact absurd second (by decide)

end LorawanFeeds.QmiClient
