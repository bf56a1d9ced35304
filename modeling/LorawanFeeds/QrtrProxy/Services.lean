import LorawanFeeds.QrtrProxy.Proxy

/-!
# The table of services

A server that the modem withdraws stays in the table, so that a service is found at the place at
which it was first announced.
-/
namespace LorawanFeeds.QrtrProxy

/-- The packet announces, or withdraws, a service of the modem at a node and a port. -/
def ServerPkt.Says (pkt : ServerPkt) (type : ServerChange) (service node port : UInt32) : Prop :=
  pkt.type = type ∧ pkt.service = service ∧ pkt.node = node ∧ pkt.port = port

instance (pkt : ServerPkt) (type : ServerChange) (service node port : UInt32) :
    Decidable (pkt.Says type service node port) := inferInstanceAs (Decidable (_ ∧ _ ∧ _ ∧ _))

/-- The service has been announced there, and has not been withdrawn since. -/
def Announced (pkts : List ServerPkt) (service node port : UInt32) : Prop :=
  ∃ before pkt after, pkts = before ++ pkt :: after ∧ pkt.Says .newServer service node port ∧
    ∀ later ∈ after, ¬ later.Says .delServer service node port

/-- The table after a sequence of packets. -/
def table (nodeModem : UInt32) (pkts : List ServerPkt) : List Service :=
  pkts.foldl (handleServerChange nodeModem) []

/-- A service of the modem is found exactly if it is announced, and where it is. -/
def Tracks (nodeModem : UInt32) (pkts : List ServerPkt) : Prop :=
  ∀ qmiType : UInt8,
    ((findQrtrService (table nodeModem pkts) qmiType).isSome ↔
      ∃ port, Announced pkts qmiType.toUInt32 nodeModem port) ∧
    ∀ srv, findQrtrService (table nodeModem pkts) qmiType = some srv →
      srv.node = nodeModem ∧ Announced pkts qmiType.toUInt32 srv.node srv.port

/-- The packet by which the modem announces a service first. -/
def firstAnnounced (nodeModem : UInt32) (pkts : List ServerPkt) (qmiType : UInt8) :
    Option ServerPkt :=
  pkts.find? fun pkt => pkt.type = .newServer ∧ pkt.node = nodeModem ∧
    pkt.service = qmiType.toUInt32

/-- The packets that the table has an entry for. -/
def kept (nodeModem : UInt32) (pkts : List ServerPkt) : List ServerPkt :=
  pkts.filter fun pkt => pkt.type = .newServer ∧ pkt.node = nodeModem

/-- Nothing is ever taken out of the table. -/
theorem table_eq (nodeModem : UInt32) (pkts : List ServerPkt) :
    table nodeModem pkts = (kept nodeModem pkts).map ServerPkt.entry := by
  rw [table, ← List.nil_append ((kept nodeModem pkts).map ServerPkt.entry)]
  generalize ([] : List Service) = services
  induction pkts generalizing services with
  | nil => simp [kept]
  | cons pkt pkts ih =>
    rw [List.foldl_cons, ih, handleServerChange]
    by_cases modem : pkt.node = nodeModem
    · cases type : pkt.type <;> simp [kept, modem, type]
    · simp [kept, modem]

theorem findQrtrService_table (nodeModem : UInt32) (pkts : List ServerPkt) (qmiType : UInt8) :
    findQrtrService (table nodeModem pkts) qmiType =
      (firstAnnounced nodeModem pkts qmiType).map ServerPkt.entry := by
  rw [findQrtrService, table_eq, List.find?_map, kept, List.find?_filter, firstAnnounced]
  congr 2
  funext pkt
  have service : pkt.entry.service = pkt.service := rfl
  rw [Bool.eq_iff_iff]
  simp [service, and_assoc]

theorem firstAnnounced_spec {nodeModem : UInt32} {pkts : List ServerPkt} {qmiType : UInt8}
    {pkt : ServerPkt} (first : firstAnnounced nodeModem pkts qmiType = some pkt) :
    pkt.Says .newServer qmiType.toUInt32 nodeModem pkt.port := by
  have found := List.find?_some first
  simp only [decide_eq_true_eq] at found
  exact ⟨found.1, found.2.2, found.2.1, rfl⟩

/-- What is announced has an announcement. -/
theorem firstAnnounced_of_announced {nodeModem : UInt32} {pkts : List ServerPkt} {qmiType : UInt8}
    {port : UInt32} (announced : Announced pkts qmiType.toUInt32 nodeModem port) :
    (firstAnnounced nodeModem pkts qmiType).isSome := by
  obtain ⟨before, pkt, after, rfl, ⟨type, service, node, _⟩, _⟩ := announced
  rw [firstAnnounced, List.find?_isSome]
  exact ⟨pkt, by simp, by simp [type, service, node]⟩

/-- The table is right exactly if every service is still announced where it was announced first. -/
theorem services_tracked_iff (nodeModem : UInt32) (pkts : List ServerPkt) :
    Tracks nodeModem pkts ↔ ∀ (qmiType : UInt8) (pkt : ServerPkt),
      firstAnnounced nodeModem pkts qmiType = some pkt →
        Announced pkts qmiType.toUInt32 nodeModem pkt.port := by
  constructor
  · intro tracks qmiType pkt first
    have found : findQrtrService (table nodeModem pkts) qmiType = some pkt.entry := by
      rw [findQrtrService_table, first]
      rfl
    obtain ⟨node, announced⟩ := (tracks qmiType).2 pkt.entry found
    rw [node] at announced
    exact announced
  · intro stand qmiType
    refine ⟨⟨fun found => ?_, fun ⟨port, announced⟩ => ?_⟩, fun srv found => ?_⟩
    · rw [findQrtrService_table, Option.isSome_map] at found
      obtain ⟨pkt, first⟩ := Option.isSome_iff_exists.mp found
      exact ⟨pkt.port, stand qmiType pkt first⟩
    · rw [findQrtrService_table, Option.isSome_map]
      exact firstAnnounced_of_announced announced
    · rw [findQrtrService_table, Option.map_eq_some_iff] at found
      obtain ⟨pkt, first, rfl⟩ := found
      have node : pkt.node = nodeModem := (firstAnnounced_spec first).2.2.1
      refine ⟨node, ?_⟩
      change Announced pkts qmiType.toUInt32 pkt.node pkt.port
      rw [node]
      exact stand qmiType pkt first

/-- The WDS service at a port of the modem comes or goes. -/
def wdsServer (type : ServerChange) (port : UInt32) : ServerPkt := ⟨type, 3, 1, 1, 0x101, 3, port⟩

/-- After a restart of the modem the service is announced at another port, and found at the old
one. -/
theorem withdrawn_service_found :
    (¬ ∀ (nodeModem : UInt32) (pkts : List ServerPkt), Tracks nodeModem pkts) ∧
    (findQrtrService (table 3 [wdsServer .newServer 10, wdsServer .delServer 10,
      wdsServer .newServer 20]) 1).map Service.port = some 10 := by
  refine ⟨fun tracks => ?_, by decide⟩
  have gone := (tracks 3 [wdsServer .newServer 10, wdsServer .delServer 10] 1).1.mp (by decide)
  obtain ⟨port, before, pkt, after, split, ⟨type, _, _, rfl⟩, stays⟩ := gone
  -- The only announcement is followed by the withdrawal.
  match before, split with
  | [], split =>
    obtain ⟨rfl, rfl⟩ := List.cons.inj split
    exact stays (wdsServer .delServer 10) (.head _) (by decide)
  | [_], split =>
    obtain ⟨_, split⟩ := List.cons.inj split
    obtain ⟨rfl, _⟩ := List.cons.inj split
    exact absurd type (by decide)
  | _ :: _ :: before, split =>
    have lengths := congrArg List.length split
    simp at lengths

end LorawanFeeds.QrtrProxy
