import Mathlib.Data.List.Induction
import Mathlib.Data.List.Nodup
import MeshDestination.Api
import MeshDestination.Proofs.Index.Snapshot
import MeshDestination.Proofs.Json.Record
import MeshDestination.Proofs.Net.SocketAddr

/-!
# The listing of endpoints is read back

The document that endpoints are listed in can be read (`listing?`): the service of a key is what
stands before and after its dot, and an address is owned if a text stands for its pod. What is read
are the reports of all service ports, unless a name has a dot (`listing?_endpoints`). Reports do
not overwrite each other in the table that is listed, since no two of them are of one service port
(`EndpointsTable.at?_foldl_add`, `nodup_snapshots`).
-/

namespace MeshDestination.Api

open Net Std

/-! ## Reading -/

/-- A service port as it is listed. -/
structure Listed where
  service : ServiceRef
  port : Port
  addresses : List PodAddress

/-- What is listed of a report. -/
def Listed.ofSnapshot (s : PortSnapshot) : Listed :=
  ⟨s.service, s.port, s.endpoints.map PodAddress.ofEndpoint⟩

/-- The service of a key with one dot. -/
def serviceOfKey? (key : String) : Option ServiceRef :=
  match pieces '.' key.toList with
  | [name, ns] => some ⟨String.ofList ns, String.ofList name⟩
  | _ => none

/-- Reads an object with names of its own for all fields. -/
def fields? (read : String → Json → Option α) (fields : List (String × Json)) : Option (List α) :=
  if (fields.map (·.1)).Nodup then fields.mapM fun f => read f.1 f.2 else none

/-- Reads an address. -/
def podAddress? : Json → Option PodAddress
  | .obj [("addr", .str addr), ("pod", .null)] => (SocketAddr.ofText? addr).map (⟨·, none⟩)
  | .obj [("addr", .str addr), ("pod", .str pod)] => (SocketAddr.ofText? addr).map (⟨·, some pod⟩)
  | _ => none

/-- Reads the addresses of a port. -/
def portField? (key : String) : Json → Option (Port × List PodAddress)
  | .obj [("podAddresses", .arr addrs)] => do
    let port ← Port.ofText? key
    let addrs ← addrs.mapM podAddress?
    some (port, addrs)
  | _ => none

/-- Reads the ports of a service, of which there is at least one. -/
def serviceField? (key : String) : Json → Option (List Listed)
  | .obj [("portEndpoints", .obj ports)] => do
    let service ← serviceOfKey? key
    let ports ← fields? portField? ports
    if ports.isEmpty then none else some (ports.map fun p => ⟨service, p.1, p.2⟩)
  | _ => none

/-- Reads a document of endpoints, which says nothing else. -/
def listing? : Json → Option (List Listed)
  | .obj [("servicePorts", .obj services)] => (fields? serviceField? services).map List.flatten
  | _ => none

/-! ## What is written is read -/

theorem podAddress?_toJson {a : PodAddress} (h : a.addr.zone = 0) :
    podAddress? a.toJson = some a := by
  obtain ⟨addr, pod⟩ := a
  have haddr : SocketAddr.ofText? addr.text = some addr := SocketAddr.ofText?_text fun _ _ => h
  cases pod with
  | none => simp [PodAddress.toJson, Json.ofText?, podAddress?, haddr]
  | some pod => simp [PodAddress.toJson, Json.ofText?, podAddress?, haddr]

theorem ofText?_toNat (p : Port) : Port.ofText? (toString p.toNat) = some p := by
  have hlt : p.toNat ≤ 65535 := Nat.le_of_lt_succ p.number.toNat_lt
  have hplus : '+' ∉ Nat.toDigits 10 p.toNat := notMem_toDigits_ten (by decide) p.toNat
  have hdigits : (toString p.toNat).toList = Nat.toDigits 10 p.toNat := by
    rw [Nat.toString_eq_repr, Nat.toList_repr]
  have hnumber : Port.ofNat? p.toNat = some p := Port.ofNat?_eq_some.mpr rfl
  unfold Port.ofText?
  rw [hdigits]
  split
  · next r hr => simp [hr] at hplus
  · simp only [decimal?_toDigits hlt, Option.bind_some, hnumber]

theorem fields?_map {α β : Type} {read : String → Json → Option β} {f : α → String × Json}
    {v : α → β} {l : List α} (hnodup : ((l.map f).map (·.1)).Nodup)
    (h : ∀ x ∈ l, read (f x).1 (f x).2 = some (v x)) :
    fields? read (l.map f) = some (l.map v) := by
  rw [fields?, if_pos hnodup]
  exact mapM_map_eq_some h

theorem serviceOfKey?_serviceKey {s : ServiceRef} (hname : '.' ∉ s.name.toList)
    (hns : '.' ∉ s.ns.toList) : serviceOfKey? (serviceKey s) = some s := by
  have htext : (serviceKey s).toList = s.name.toList ++ '.' :: s.ns.toList := by
    simp [serviceKey]
  have hpieces : pieces '.' (serviceKey s).toList = [s.name.toList, s.ns.toList] := by
    rw [htext, pieces_append_cons hname, pieces_of_notMem hns]
  simp only [serviceOfKey?, hpieces, String.ofList_toList]

/-! ## The table -/

namespace EndpointsTable

/-- What a table has for a key and a port. -/
def at? (t : EndpointsTable) (key : String) (port : Port) : Option (List PodAddress) :=
  t[key]?.bind (·[port]?)

theorem at?_add (t : EndpointsTable) (s : PortSnapshot) (key : String) (port : Port) :
    (t.add s).at? key port =
      if serviceKey s.service = key ∧ s.port = port then
        some (s.endpoints.map PodAddress.ofEndpoint)
      else t.at? key port := by
  unfold at? add
  simp only [TreeMap.getElem?_insert, LawfulEqCmp.compare_eq_iff_eq, TreeMap.getD_eq_getD_getElem?]
  by_cases hkey : serviceKey s.service = key
  · subst hkey
    by_cases hport : s.port = port
    · simp [hport]
    · cases t[serviceKey s.service]? <;> simp [hport, TreeMap.getElem?_insert]
  · simp [hkey]

theorem at?_foldl_add {snaps : List PortSnapshot}
    (h : (snaps.map fun s => (serviceKey s.service, s.port)).Nodup) (key : String) (port : Port)
    (addrs : List PodAddress) :
    (snaps.foldl add ∅).at? key port = some addrs ↔
      ∃ s ∈ snaps, serviceKey s.service = key ∧ s.port = port ∧
        s.endpoints.map PodAddress.ofEndpoint = addrs := by
  induction snaps using List.reverseRecOn with
  | nil => simp [at?]
  | append_singleton snaps s ih =>
    rw [List.map_append, List.nodup_append] at h
    obtain ⟨hsnaps, -, hnew⟩ := h
    -- the report that is added last is found, and the others are found as before
    rw [List.foldl_concat, at?_add]
    split
    · next hs =>
      obtain ⟨rfl, rfl⟩ := hs
      constructor
      · intro haddrs
        exact ⟨s, by simp, rfl, rfl, Option.some.inj haddrs⟩
      · rintro ⟨s', hs', hkey, hport, haddrs⟩
        obtain hold | rfl : s' ∈ snaps ∨ s' = s := by simpa using hs'
        · have hmem : (serviceKey s.service, s.port) ∈
              snaps.map fun s => (serviceKey s.service, s.port) :=
            List.mem_map.mpr ⟨s', hold, by rw [hkey, hport]⟩
          exact absurd rfl (hnew _ hmem _ List.mem_cons_self)
        · exact congrArg some haddrs
    · next hs =>
      rw [ih hsnaps]
      constructor
      · rintro ⟨s', hs', h⟩
        exact ⟨s', List.mem_append_left _ hs', h⟩
      · rintro ⟨s', hs', hkey, hport, haddrs⟩
        obtain hold | rfl : s' ∈ snaps ∨ s' = s := by simpa using hs'
        · exact ⟨s', hold, hkey, hport, haddrs⟩
        · exact absurd ⟨hkey, hport⟩ hs

/-- A key of the table has a port. -/
theorem isEmpty_of_getElem? (snaps : List PortSnapshot) :
    ∀ (key : String) (ports : TreeMap Port (List PodAddress)),
      (snaps.foldl add ∅)[key]? = some ports → ports.isEmpty = false := by
  induction snaps using List.reverseRecOn with
  | nil => simp
  | append_singleton snaps s ih =>
    intro key ports h
    rw [List.foldl_concat, add] at h
    simp only [TreeMap.getElem?_insert, LawfulEqCmp.compare_eq_iff_eq] at h
    split at h
    · cases h
      exact TreeMap.isEmpty_insert
    · exact ih key ports h

/-- What a table lists, when its keys stand for services. -/
def listed (t : EndpointsTable) (service : String → ServiceRef) : List Listed :=
  t.toList.flatMap fun e => e.2.toList.map fun p => ⟨service e.1, p.1, p.2⟩

theorem mem_listed {t : EndpointsTable} {service : String → ServiceRef} {l : Listed} :
    l ∈ t.listed service ↔
      ∃ key, service key = l.service ∧ t.at? key l.port = some l.addresses := by
  simp only [listed, List.mem_flatMap, List.mem_map, Prod.exists,
    TreeMap.mem_toList_iff_getElem?_eq_some, at?, Option.bind_eq_some_iff]
  constructor
  · rintro ⟨key, ports, hkey, port, addrs, hport, rfl⟩
    exact ⟨key, rfl, ports, hkey, hport⟩
  · rintro ⟨key, hservice, ports, hkey, hport⟩
    exact ⟨key, ports, hkey, l.port, l.addresses, hport, by rw [hservice]⟩

/-- The field of a port. -/
def portField (p : Port × List PodAddress) : String × Json :=
  (toString p.1.toNat, .obj [("podAddresses", .arr (p.2.map PodAddress.toJson))])

/-- The field of a service. -/
def serviceField (e : String × TreeMap Port (List PodAddress)) : String × Json :=
  (e.1, .obj [("portEndpoints", .obj (e.2.toList.map portField))])

theorem toJson_eq (t : EndpointsTable) :
    t.toJson = .obj [("servicePorts", .obj (t.toList.map serviceField))] := rfl

theorem portField?_portField {p : Port × List PodAddress} (h : ∀ a ∈ p.2, a.addr.zone = 0) :
    portField? (portField p).1 (portField p).2 = some p := by
  have haddrs : (p.2.map PodAddress.toJson).mapM podAddress? = some (p.2.map id) :=
    mapM_map_eq_some fun a ha => podAddress?_toJson (h a ha)
  rw [List.map_id] at haddrs
  simp only [portField, portField?, ofText?_toNat, haddrs]
  rfl

theorem fields?_ports {ports : TreeMap Port (List PodAddress)}
    (h : ∀ (port : Port) (addrs : List PodAddress), ports[port]? = some addrs →
      ∀ a ∈ addrs, a.addr.zone = 0) :
    fields? portField? (ports.toList.map portField) = some ports.toList := by
  have hinjective : Function.Injective fun p : Port => toString p.toNat := by
    intro p q hpq
    have hp := ofText?_toNat p
    rw [show toString p.toNat = toString q.toNat from hpq, ofText?_toNat] at hp
    exact (Option.some.inj hp).symm
  have hnodup : ((ports.toList.map portField).map (·.1)).Nodup := by
    have hnames : (ports.toList.map portField).map (·.1) =
        ports.keys.map fun p => toString p.toNat := by
      rw [← TreeMap.map_fst_toList_eq_keys, List.map_map, List.map_map]
      rfl
    rw [hnames]
    exact TreeMap.nodup_keys.map hinjective
  have hfields : fields? portField? (ports.toList.map portField) = some (ports.toList.map id) :=
    fields?_map hnodup fun p hp =>
      portField?_portField (h p.1 p.2 (TreeMap.mem_toList_iff_getElem?_eq_some.mp hp))
  rwa [List.map_id] at hfields

theorem listing?_toJson {t : EndpointsTable} {service : String → ServiceRef}
    (hkey : ∀ key ports, t[key]? = some ports →
      serviceOfKey? key = some (service key) ∧ ports.isEmpty = false)
    (hzone : ∀ key port addrs, t.at? key port = some addrs → ∀ a ∈ addrs, a.addr.zone = 0) :
    listing? t.toJson = some (t.listed service) := by
  have hnodup : ((t.toList.map serviceField).map (·.1)).Nodup := by
    have hnames : (t.toList.map serviceField).map (·.1) = t.keys := by
      rw [← TreeMap.map_fst_toList_eq_keys, List.map_map]
      rfl
    rw [hnames]
    exact TreeMap.nodup_keys
  have hservices : fields? serviceField? (t.toList.map serviceField) =
      some (t.toList.map fun e => e.2.toList.map fun p => ⟨service e.1, p.1, p.2⟩) := by
    refine fields?_map hnodup fun e he => ?_
    have he : t[e.1]? = some e.2 := TreeMap.mem_toList_iff_getElem?_eq_some.mp he
    obtain ⟨hservice, hne⟩ := hkey e.1 e.2 he
    have hports : fields? portField? (e.2.toList.map portField) = some e.2.toList := by
      refine fields?_ports fun port addrs hport => hzone e.1 port addrs ?_
      rw [at?, he, Option.bind_some, hport]
    have hlist : e.2.toList.isEmpty = false := by rw [TreeMap.isEmpty_toList, hne]
    simp only [serviceField, serviceField?, hservice, hports, Option.bind_eq_bind,
      Option.bind_some, hlist]
    rfl
  rw [toJson_eq]
  exact congrArg (Option.map List.flatten) hservices

end EndpointsTable

/-! ## Reports -/

theorem nodup_flatMap_pairs {ι κ α β : Type} {outer : List ι} {inner : ι → List κ} {a : ι → α}
    {b : κ → β} (houter : (outer.map a).Nodup) (hinner : ∀ i ∈ outer, ((inner i).map b).Nodup) :
    (outer.flatMap fun i => (inner i).map fun k => (a i, b k)).Nodup := by
  rw [List.nodup_flatMap]
  constructor
  · intro i hi
    have hb : (((inner i).map fun k => (a i, b k)).map (·.2)).Nodup := by
      rw [List.map_map]
      exact hinner i hi
    exact hb.of_map
  · refine (List.pairwise_map.mp houter).imp fun hne => ?_
    rintro ⟨x, y⟩ hx hy
    obtain ⟨k, -, hk⟩ := List.mem_map.mp hx
    obtain ⟨l, -, hl⟩ := List.mem_map.mp hy
    exact hne ((Prod.mk.inj hk).1.trans (Prod.mk.inj hl).1.symm)

/-- No two reports are of one service port. -/
theorem nodup_snapshots (ix : Index) :
    (ix.snapshots.map fun s => (s.service, s.port)).Nodup := by
  have hpairs : (ix.snapshots.map fun s => (s.service, s.port)) =
      ix.services.toList.flatMap fun e => e.2.ports.toList.map fun p => (e.1, p.1) := by
    simp only [Index.snapshots, List.map_flatMap, List.map_map]
    rfl
  rw [hpairs]
  refine nodup_flatMap_pairs ?_ fun e _ => ?_
  · rw [TreeMap.map_fst_toList_eq_keys]
    exact TreeMap.nodup_keys
  · rw [TreeMap.map_fst_toList_eq_keys]
    exact TreeMap.nodup_keys

theorem pairwise_endpoints {ix : Index} {snap : PortSnapshot} (h : snap ∈ ix.snapshots) :
    snap.endpoints.Pairwise fun e e' => compare e.addr e'.addr = .lt := by
  obtain ⟨⟨s, state⟩, -, hsnap⟩ := List.mem_flatMap.mp h
  obtain ⟨⟨p, ps⟩, -, rfl⟩ := List.mem_map.mp hsnap
  exact List.pairwise_map.mpr TreeMap.ordered_keys_toList

theorem zone_of_mem_endpoints {c : ClusterInfo} {ops : List Index.Operation} {snap : PortSnapshot}
    (h : snap ∈ ((Index.start c).run ops).snapshots) {e : Endpoint} (he : e ∈ snap.endpoints) :
    e.addr.zone = 0 := by
  have htracks := Index.tracks_applied c ops snap.service
  have hreflects : snap.Reflects (Index.appliedService ops snap.service)
      (Index.appliedEndpoints ops snap.service) := by
    rw [Index.eq_snapshot_of_mem_snapshots h]
    exact htracks.reflects (htracks.port snap.service.ns _ snap.port) snap.service
  have hmem : e.addr ∈ snap.endpoints.map (·.addr) := List.mem_map_of_mem he
  cases hsvc : Index.appliedService ops snap.service with
  | none => simp [(hreflects.absent (.inl hsvc)).1] at he
  | some o =>
    cases heps : Index.appliedEndpoints ops snap.service with
    | none => simp [(hreflects.absent (.inr heps)).1] at he
    | some o' =>
      have hserve := ((hreflects.present o o' hsvc heps).1 e.addr).mp hmem
      obtain ⟨_, _, ip, q, _, _, haddr⟩ := hserve
      rw [haddr]

section Table

variable {ix : Index} (hdots : ∀ snap ∈ ix.snapshots,
  '.' ∉ snap.service.name.toList ∧ '.' ∉ snap.service.ns.toList)

/-- The service of a key that is one's. -/
def serviceOfKey (key : String) : ServiceRef := (serviceOfKey? key).getD ⟨"", ""⟩

include hdots

theorem serviceOfKey_serviceKey {snap : PortSnapshot} (h : snap ∈ ix.snapshots) :
    serviceOfKey (serviceKey snap.service) = snap.service := by
  rw [serviceOfKey, serviceOfKey?_serviceKey (hdots snap h).1 (hdots snap h).2, Option.getD_some]

theorem at?_endpointsTable (key : String) (port : Port) (addrs : List PodAddress) :
    (endpointsTable ix).at? key port = some addrs ↔
      ∃ snap ∈ ix.snapshots, serviceKey snap.service = key ∧ snap.port = port ∧
        snap.endpoints.map PodAddress.ofEndpoint = addrs := by
  refine EndpointsTable.at?_foldl_add ?_ key port addrs
  have hkeys : (ix.snapshots.map fun s => (serviceKey s.service, s.port)) =
      (ix.snapshots.map fun s => (s.service, s.port)).map fun p => (serviceKey p.1, p.2) := by
    rw [List.map_map]
    rfl
  rw [hkeys]
  refine (nodup_snapshots ix).map_on ?_
  intro p hp q hq hpq
  obtain ⟨s, hs, rfl⟩ := List.mem_map.mp hp
  obtain ⟨s', hs', rfl⟩ := List.mem_map.mp hq
  obtain ⟨hkey, hport⟩ := Prod.mk.inj hpq
  have hservice := congrArg serviceOfKey hkey
  rw [serviceOfKey_serviceKey hdots hs, serviceOfKey_serviceKey hdots hs'] at hservice
  exact Prod.ext hservice hport

/-- A key of the table is that of a report. -/
theorem exists_snapshot_of_getElem? {key : String} {ports : TreeMap Port (List PodAddress)}
    (h : (endpointsTable ix)[key]? = some ports) :
    ∃ snap ∈ ix.snapshots, serviceKey snap.service = key := by
  have hne := EndpointsTable.isEmpty_of_getElem? ix.snapshots key ports h
  obtain ⟨port, hport⟩ := TreeMap.isEmpty_eq_false_iff_exists_mem.mp hne
  have hat : (endpointsTable ix).at? key port = some ports[port] := by
    rw [EndpointsTable.at?, h, Option.bind_some, TreeMap.getElem?_eq_some_getElem hport]
  obtain ⟨snap, hsnap, hkey, -⟩ := (at?_endpointsTable hdots key port _).mp hat
  exact ⟨snap, hsnap, hkey⟩

theorem listing?_endpointsTable
    (hzone : ∀ snap ∈ ix.snapshots, ∀ e ∈ snap.endpoints, e.addr.zone = 0) :
    listing? (endpointsTable ix).toJson = some ((endpointsTable ix).listed serviceOfKey) := by
  refine EndpointsTable.listing?_toJson ?_ ?_
  · intro key ports h
    obtain ⟨snap, hsnap, rfl⟩ := exists_snapshot_of_getElem? hdots h
    refine ⟨?_, EndpointsTable.isEmpty_of_getElem? ix.snapshots _ ports h⟩
    rw [serviceOfKey_serviceKey hdots hsnap]
    exact serviceOfKey?_serviceKey (hdots snap hsnap).1 (hdots snap hsnap).2
  · intro key port addrs h a ha
    obtain ⟨snap, hsnap, -, -, rfl⟩ := (at?_endpointsTable hdots key port addrs).mp h
    obtain ⟨e, he, rfl⟩ := List.mem_map.mp ha
    exact hzone snap hsnap e he

theorem nodup_listed :
    (((endpointsTable ix).listed serviceOfKey).map fun l => (l.service, l.port)).Nodup := by
  have hpairs : (((endpointsTable ix).listed serviceOfKey).map fun l => (l.service, l.port)) =
      (endpointsTable ix).toList.flatMap fun e =>
        e.2.toList.map fun p => (serviceOfKey e.1, p.1) := by
    simp only [EndpointsTable.listed, List.map_flatMap, List.map_map]
    rfl
  rw [hpairs]
  refine nodup_flatMap_pairs ?_ fun e _ => ?_
  · have hkeys : (endpointsTable ix).toList.map (fun e => serviceOfKey e.1) =
        (endpointsTable ix).keys.map serviceOfKey := by
      rw [← TreeMap.map_fst_toList_eq_keys, List.map_map]
      rfl
    rw [hkeys]
    refine TreeMap.nodup_keys.map_on ?_
    -- the key of a service is told by the service
    have hkey : ∀ key ∈ (endpointsTable ix).keys, serviceKey (serviceOfKey key) = key := by
      intro key hmem
      have h := TreeMap.getElem?_eq_some_getElem (TreeMap.mem_keys.mp hmem)
      obtain ⟨snap, hsnap, rfl⟩ := exists_snapshot_of_getElem? hdots h
      rw [serviceOfKey_serviceKey hdots hsnap]
    intro key hmem key' hmem' h
    rw [← hkey key hmem, h, hkey key' hmem']
  · rw [TreeMap.map_fst_toList_eq_keys]
    exact TreeMap.nodup_keys

theorem perm_listed :
    ((endpointsTable ix).listed serviceOfKey).Perm (ix.snapshots.map Listed.ofSnapshot) := by
  have hsnapshots :
      ((ix.snapshots.map Listed.ofSnapshot).map fun l => (l.service, l.port)).Nodup := by
    rw [List.map_map]
    exact nodup_snapshots ix
  refine (List.perm_ext_iff_of_nodup (nodup_listed hdots).of_map hsnapshots.of_map).mpr ?_
  intro l
  rw [EndpointsTable.mem_listed, List.mem_map]
  constructor
  · rintro ⟨key, hservice, hat⟩
    obtain ⟨snap, hsnap, rfl, hport, haddrs⟩ := (at?_endpointsTable hdots _ _ _).mp hat
    rw [serviceOfKey_serviceKey hdots hsnap] at hservice
    refine ⟨snap, hsnap, ?_⟩
    rw [Listed.ofSnapshot, hservice, hport, haddrs]
  · rintro ⟨snap, hsnap, rfl⟩
    exact ⟨_, serviceOfKey_serviceKey hdots hsnap,
      (at?_endpointsTable hdots _ _ _).mpr ⟨snap, hsnap, rfl, rfl, rfl⟩⟩

end Table

/-- In every state, the answer to a request for endpoints is read as the reports of all service
ports, unless the name or the namespace of a service has a dot. No two reports are of one service
port, and the addresses of each ascend. -/
theorem listing?_endpoints (c : ClusterInfo) (ops : List Index.Operation) (st : Settings)
    (b : Traffic.Backend) (r : Request) (hpost : r.method = "POST")
    (hpath : r.path = "/api/v1/Endpoints")
    (hdots : ∀ snap ∈ ((Index.start c).run ops).snapshots,
      '.' ∉ snap.service.name.toList ∧ '.' ∉ snap.service.ns.toList) :
    ∃ body listing,
      handle ((Index.start c).run ops) st b r = { status := 200, body := some body } ∧
      listing? body = some listing ∧
      listing.Perm (((Index.start c).run ops).snapshots.map Listed.ofSnapshot) ∧
      (listing.map fun l => (l.service, l.port)).Nodup ∧
      ∀ l ∈ listing, l.addresses.Pairwise fun a a' => compare a.addr a'.addr = .lt := by
  have hlisting := listing?_endpointsTable hdots fun snap h e he => zone_of_mem_endpoints h he
  refine ⟨_, _, by simp [handle, hpost, hpath], hlisting, perm_listed hdots,
    nodup_listed hdots, fun l hl => ?_⟩
  obtain ⟨snap, hsnap, rfl⟩ := List.mem_map.mp ((perm_listed hdots).mem_iff.mp hl)
  exact List.pairwise_map.mpr (pairwise_endpoints hsnap)

theorem listing?_endpoints_web :
    let ix := (Index.start {}).run
      [.apply (.service Sample.service), .apply (.endpoints Sample.endpoints)]
    ∃ body, (handle ix {} (fun _ => { outcome := .died })
        ⟨"POST", "/api/v1/Endpoints", []⟩).body = some body ∧
      listing? body = some [⟨Sample.web, .http, [⟨Sample.backend, none⟩]⟩] := by
  intro ix
  have hsnapshots : ix.snapshots = [⟨Sample.web, .http, .number .http,
      [⟨Sample.backend, none⟩], some "7", true⟩] := by decide +kernel
  obtain ⟨body, listing, hbody, hlisting, hperm, -⟩ :=
    listing?_endpoints {} _ {} (fun _ => { outcome := .died }) ⟨"POST", "/api/v1/Endpoints", []⟩
      rfl (by decide) (by change ∀ snap ∈ ix.snapshots, _; rw [hsnapshots]; decide)
  have hbody : (handle ix {} _ _).body = some body := congrArg Response.body hbody
  have hperm : listing.Perm (ix.snapshots.map Listed.ofSnapshot) := hperm
  rw [hsnapshots] at hperm
  refine ⟨body, hbody, ?_⟩
  rw [hlisting, List.perm_singleton.mp hperm]
  rfl

end MeshDestination.Api
