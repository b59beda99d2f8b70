import MeshDestination.Index.Port

/-!
# What a listener knows

A listener that follows the events of a service port keeps a set of endpoints: it forgets what an
event removes, then adds or replaces what the event adds, and it clears the set when it is told that
there are none. The events of a change (`PortState.changes`) lead from the endpoints of the old
state exactly to those of the new one (`follow_changes`), and the first events of a subscription
(`PortState.initialEvents`) lead from nothing to the endpoints of its port (`view_initialEvents`).
-/

namespace MeshDestination

open Net Std
open scoped Std.TreeMap

namespace EndpointsEvent

/-- What a listener that knew the endpoints of `m` knows after an event. -/
def follow (m : AddressMap) : EndpointsEvent → AddressMap
  | .update added removed =>
    added.foldl (fun m e => m.insert e.addr e.owner) (removed.foldl (fun m e => m.erase e.addr) m)
  | .noEndpoints _ => {}

/-- What a listener that knew nothing knows after some events. -/
def view (events : List EndpointsEvent) : AddressMap := events.foldl follow {}

theorem view_append (es es' : List EndpointsEvent) : view (es ++ es') = es'.foldl follow (view es) :=
  List.foldl_append

end EndpointsEvent

/-! ## Endpoints as a list -/

namespace AddressMap

theorem mem_endpoints {m : AddressMap} {e : Endpoint} :
    e ∈ m.endpoints ↔ m[e.addr]? = some e.owner := by
  rw [← TreeMap.mem_toList_iff_getElem?_eq_some, endpoints, List.mem_map]
  constructor
  · rintro ⟨⟨addr, owner⟩, h, rfl⟩
    exact h
  · intro h
    exact ⟨_, h, rfl⟩

theorem isEmpty_endpoints (m : AddressMap) : m.endpoints = [] ↔ m.isEmpty = true := by
  rw [endpoints, List.map_eq_nil_iff, ← List.isEmpty_iff, TreeMap.isEmpty_toList]

theorem map_addr_endpoints (m : AddressMap) : m.endpoints.map (·.addr) = m.keys := by
  rw [endpoints, List.map_map, ← TreeMap.map_fst_toList_eq_keys]
  rfl

theorem mem_map_endpoints {m : AddressMap} {a : SocketAddr} :
    a ∈ m.endpoints.map (·.addr) ↔ a ∈ m := by
  rw [map_addr_endpoints, TreeMap.mem_keys]

/-- Sets with the same addresses list them alike. -/
theorem map_addr_endpoints_congr {m m' : AddressMap} (h : ∀ a, a ∈ m ↔ a ∈ m') :
    m.endpoints.map (·.addr) = m'.endpoints.map (·.addr) := by
  have hunit : m.map (fun _ _ => ()) ~m m'.map (fun _ _ => ()) :=
    TreeMap.Equiv.of_forall_mem_unit_iff fun a => by
      rw [TreeMap.mem_map, TreeMap.mem_map, h]
  rw [map_addr_endpoints, map_addr_endpoints, ← TreeMap.keys_map (f := fun _ _ => ()),
    hunit.keys_eq, TreeMap.keys_map]

theorem getElem?_foldl_erase (es : List Endpoint) :
    ∀ (m : AddressMap) (a : SocketAddr), (es.foldl (fun m e => m.erase e.addr) m)[a]? =
      if a ∈ es.map (·.addr) then none else m[a]? := by
  induction es with
  | nil => intro m a; rfl
  | cons e es ih =>
    intro m a
    simp only [List.foldl_cons, ih, TreeMap.getElem?_erase, LawfulEqCmp.compare_eq_iff_eq]
    by_cases hes : a ∈ es.map (·.addr)
    · simp [hes]
    · by_cases he : e.addr = a
      · simp [he]
      · simp [hes, he, Ne.symm he]

/-- Endpoints that a set `new` has are, once added, as `new` has them. -/
theorem getElem?_foldl_insert (new : AddressMap) (es : List Endpoint) :
    ∀ (m : AddressMap) (a : SocketAddr), (∀ e ∈ es, new[e.addr]? = some e.owner) →
      (es.foldl (fun m e => m.insert e.addr e.owner) m)[a]? =
        if a ∈ es.map (·.addr) then new[a]? else m[a]? := by
  induction es with
  | nil => intro m a _; rfl
  | cons e es ih =>
    intro m a hnew
    rw [List.foldl_cons, ih _ _ fun e' he' => hnew e' (List.mem_cons_of_mem e he')]
    simp only [TreeMap.getElem?_insert, LawfulEqCmp.compare_eq_iff_eq]
    by_cases hes : a ∈ es.map (·.addr)
    · simp [hes]
    · by_cases he : e.addr = a
      · subst he
        simp [hes, hnew e List.mem_cons_self]
      · simp [hes, he, Ne.symm he]

end AddressMap

/-! ## The difference of two states -/

namespace PortState

theorem mem_removed {old new : AddressMap} {e : Endpoint} :
    e ∈ removed old new ↔ old[e.addr]? = some e.owner ∧ new[e.addr]? = none := by
  rw [removed, List.mem_filter, AddressMap.mem_endpoints, TreeMap.contains_eq_isSome_getElem?,
    Bool.not_eq_true', Option.isSome_eq_false_iff, Option.isNone_iff_eq_none]

theorem mem_added {old new : AddressMap} {e : Endpoint} :
    e ∈ added old new ↔ new[e.addr]? = some e.owner ∧ old[e.addr]? ≠ some e.owner := by
  rw [added, List.mem_filter, AddressMap.mem_endpoints, bne_iff_ne]

theorem mem_map_removed {old new : AddressMap} {a : SocketAddr} :
    a ∈ (removed old new).map (·.addr) ↔ old[a]?.isSome = true ∧ new[a]? = none := by
  rw [List.mem_map]
  constructor
  · rintro ⟨e, he, rfl⟩
    obtain ⟨hold, hnew⟩ := mem_removed.mp he
    exact ⟨by rw [hold]; rfl, hnew⟩
  · rintro ⟨hold, hnew⟩
    obtain ⟨owner, howner⟩ := Option.isSome_iff_exists.mp hold
    exact ⟨⟨a, owner⟩, mem_removed.mpr ⟨howner, hnew⟩, rfl⟩

theorem mem_map_added {old new : AddressMap} {a : SocketAddr} :
    a ∈ (added old new).map (·.addr) ↔ new[a]?.isSome = true ∧ old[a]? ≠ new[a]? := by
  rw [List.mem_map]
  constructor
  · rintro ⟨e, he, rfl⟩
    obtain ⟨hnew, hold⟩ := mem_added.mp he
    exact ⟨by rw [hnew]; rfl, by rwa [hnew]⟩
  · rintro ⟨hnew, hold⟩
    obtain ⟨owner, howner⟩ := Option.isSome_iff_exists.mp hnew
    exact ⟨⟨a, owner⟩, mem_added.mpr ⟨howner, by rwa [← howner]⟩, rfl⟩

end PortState

namespace EndpointsEvent

open PortState

/-- An update with the difference of two sets leads from one to the other. -/
theorem follow_update {m old : AddressMap} (hm : m ~m old) (new : AddressMap) :
    follow m (.update (added old new) (removed old new)) ~m new := by
  apply TreeMap.Equiv.of_forall_constGet?_eq
  intro a
  rw [follow, AddressMap.getElem?_foldl_insert new _ _ _ fun e he => (mem_added.mp he).1,
    AddressMap.getElem?_foldl_erase, hm.getElem?_eq]
  simp only [mem_map_added, mem_map_removed]
  cases hnew : new[a]? with
  | none =>
    cases hold : old[a]? with
    | none => simp
    | some owner => simp
  | some owner =>
    by_cases hold : old[a]? = some owner
    · simp [hold]
    · simp [hold]

/-- Without a difference there is nothing to tell. -/
theorem follow_difference {m old : AddressMap} (hm : m ~m old) (new : AddressMap) :
    (difference old new).foldl follow m ~m new := by
  have hup := follow_update hm new
  unfold difference
  split
  · next hadded hremoved =>
    rw [hadded, hremoved] at hup
    exact hup
  · exact hup

/-- The events of a change lead a listener from the endpoints of the old state to the new ones. -/
theorem follow_changes {m : AddressMap} {old : PortState} (hm : m ~m old.addrs) (new : PortState) :
    (changes old new).foldl follow m ~m new.addrs := by
  have hdiff := follow_difference hm new.addrs
  unfold changes
  rw [List.foldl_append]
  split
  · next hnone =>
    rw [Bool.and_eq_true] at hnone
    exact TreeMap.empty_equiv_iff_isEmpty.mpr hnone.1
  · exact hdiff

/-- An update with all endpoints of a set leads from nothing to the set. -/
theorem follow_endpoints (m : AddressMap) : follow {} (.update m.endpoints []) ~m m := by
  apply TreeMap.Equiv.of_forall_constGet?_eq
  intro a
  rw [follow, AddressMap.getElem?_foldl_insert m _ _ _ fun e he => AddressMap.mem_endpoints.mp he]
  simp only [AddressMap.mem_map_endpoints]
  split
  · rfl
  · next habsent =>
    rw [TreeMap.getElem?_eq_none habsent]
    exact TreeMap.getElem?_emptyc

/-- The first events of a subscription lead from nothing to the endpoints of its port. -/
theorem view_initialEvents (s : PortState) : view s.initialEvents ~m s.addrs := by
  unfold view initialEvents
  rw [List.foldl_cons]
  split
  · next hnone =>
    exact TreeMap.empty_equiv_iff_isEmpty.mpr hnone
  · exact follow_endpoints s.addrs

end EndpointsEvent

end MeshDestination
