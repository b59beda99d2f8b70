import Mathlib.Data.List.Nodup
import MeshDestination.Proofs.View

/-!
# Differences are exact and least

When the state of a service port gives way to another, listeners are told at most one update, and
after it at most one word that there are no endpoints (`PortState.changes_exact`). The update lists
exactly the endpoints that differ (`PortState.Exact`), each once, and no other update that leads
from the old endpoints to the new ones lists fewer.
-/

namespace MeshDestination

open Net Std EndpointsEvent
open scoped Std.TreeMap

namespace AddressMap

theorem nodup_map_addr_endpoints (m : AddressMap) : (m.endpoints.map (·.addr)).Nodup := by
  rw [map_addr_endpoints]
  exact TreeMap.nodup_keys

/-- An address is as the last of the added endpoints has it, or else as it was. -/
theorem getElem?_foldl_insert_cases (es : List Endpoint) (a : SocketAddr) :
    ∀ m : AddressMap,
      (∃ e ∈ es, e.addr = a ∧
        (es.foldl (fun m e => m.insert e.addr e.owner) m)[a]? = some e.owner) ∨
      (es.foldl (fun m e => m.insert e.addr e.owner) m)[a]? = m[a]? := by
  induction es with
  | nil => exact fun m => .inr rfl
  | cons e es ih =>
    intro m
    rw [List.foldl_cons]
    rcases ih (m.insert e.addr e.owner) with ⟨e', he', haddr, howner⟩ | hkept
    · exact .inl ⟨e', List.mem_cons_of_mem e he', haddr, howner⟩
    · rw [hkept]
      simp only [TreeMap.getElem?_insert, LawfulEqCmp.compare_eq_iff_eq]
      by_cases haddr : e.addr = a
      · exact .inl ⟨e, List.mem_cons_self, haddr, if_pos haddr⟩
      · exact .inr (if_neg haddr)

end AddressMap

namespace PortState

/-- An update says exactly how a set of endpoints differs from an earlier one. -/
structure Exact (old new : AddressMap) (plus minus : List Endpoint) : Prop where
  /-- It adds the endpoints of the new set whose address is new or had another owner. -/
  added : ∀ e, e ∈ plus ↔ new[e.addr]? = some e.owner ∧ old[e.addr]? ≠ some e.owner
  /-- It removes the endpoints of the old set whose address is gone. -/
  removed : ∀ e, e ∈ minus ↔ old[e.addr]? = some e.owner ∧ new[e.addr]? = none
  added_once : (plus.map (·.addr)).Nodup
  removed_once : (minus.map (·.addr)).Nodup
  disjoint : (plus.map (·.addr)).Disjoint (minus.map (·.addr))
  leads : follow old (.update plus minus) ~m new
  /-- Whatever else leads from the one set to the other adds and removes at least as much. -/
  least : ∀ plus' minus', follow old (.update plus' minus') ~m new →
    plus ⊆ plus' ∧ minus.map (·.addr) ⊆ minus'.map (·.addr)

theorem nodup_map_added (old new : AddressMap) : ((added old new).map (·.addr)).Nodup :=
  new.nodup_map_addr_endpoints.sublist (List.filter_sublist.map _)

theorem nodup_map_removed (old new : AddressMap) : ((removed old new).map (·.addr)).Nodup :=
  old.nodup_map_addr_endpoints.sublist (List.filter_sublist.map _)

theorem disjoint_added_removed (old new : AddressMap) :
    ((added old new).map (·.addr)).Disjoint ((removed old new).map (·.addr)) := by
  intro a hadded hremoved
  have hnew := (mem_map_added.mp hadded).1
  rw [(mem_map_removed.mp hremoved).2] at hnew
  cases hnew

/-- What leads to the new set removes each address that is gone: nothing else makes it go. -/
theorem removed_subset {old new : AddressMap} {plus minus : List Endpoint}
    (h : follow old (.update plus minus) ~m new) :
    (removed old new).map (·.addr) ⊆ minus.map (·.addr) := by
  intro a ha
  obtain ⟨hold, hnew⟩ := mem_map_removed.mp ha
  have hfollow : (follow old (.update plus minus))[a]? = none := h.getElem?_eq.trans hnew
  rw [follow] at hfollow
  rcases AddressMap.getElem?_foldl_insert_cases plus a _ with ⟨e, -, -, howner⟩ | hkept
  · rw [howner] at hfollow
    cases hfollow
  · rw [hkept, AddressMap.getElem?_foldl_erase] at hfollow
    by_contra hminus
    rw [if_neg hminus] at hfollow
    rw [hfollow] at hold
    cases hold

/-- What leads to the new set adds each endpoint that is new: no address keeps it. -/
theorem added_subset {old new : AddressMap} {plus minus : List Endpoint}
    (h : follow old (.update plus minus) ~m new) : added old new ⊆ plus := by
  intro e he
  obtain ⟨hnew, hold⟩ := mem_added.mp he
  have hfollow : (follow old (.update plus minus))[e.addr]? = some e.owner :=
    h.getElem?_eq.trans hnew
  rw [follow] at hfollow
  rcases AddressMap.getElem?_foldl_insert_cases plus e.addr _ with
    ⟨e', he', haddr, howner⟩ | hkept
  · rw [howner, Option.some.injEq] at hfollow
    have heq : e' = e := by
      cases e'
      cases e
      exact congrArg₂ Endpoint.mk haddr hfollow
    exact heq ▸ he'
  · rw [hkept, AddressMap.getElem?_foldl_erase] at hfollow
    split at hfollow
    · cases hfollow
    · exact absurd hfollow hold

theorem exact_added_removed (old new : AddressMap) :
    Exact old new (added old new) (removed old new) where
  added _ := mem_added
  removed _ := mem_removed
  added_once := nodup_map_added old new
  removed_once := nodup_map_removed old new
  disjoint := disjoint_added_removed old new
  leads := follow_update .rfl new
  least _ _ h := ⟨added_subset h, removed_subset h⟩

/-- Sets are the same if and only if they have no difference. -/
theorem difference_eq_nil_iff {old new : AddressMap} : difference old new = [] ↔ old ~m new := by
  constructor
  · intro hnil
    have hfollow : (difference old new).foldl follow old ~m new := follow_difference .rfl new
    rwa [hnil] at hfollow
  · intro hsame
    have hadded : added old new = [] := by
      rw [List.eq_nil_iff_forall_not_mem]
      intro e he
      obtain ⟨hnew, hold⟩ := mem_added.mp he
      exact hold (hsame.getElem?_eq.trans hnew)
    have hremoved : removed old new = [] := by
      rw [List.eq_nil_iff_forall_not_mem]
      intro e he
      obtain ⟨hold, hnew⟩ := mem_removed.mp he
      rw [hsame.getElem?_eq, hnew] at hold
      cases hold
    rw [difference, hadded, hremoved]

theorem difference_of_not_equiv {old new : AddressMap} (h : ¬old ~m new) :
    difference old new = [.update (added old new) (removed old new)] := by
  rw [← difference_eq_nil_iff] at h
  unfold difference at h ⊢
  split
  · next hadded hremoved =>
    rw [hadded, hremoved] at h
    exact absurd rfl h
  · rfl

/-- When a state of a port gives way to another, listeners are told an update if and only if the
endpoints differ, and it says exactly how. At most one word that there are no endpoints follows. -/
theorem changes_exact (old new : PortState) :
    ∃ updates told, changes old new = updates ++ told ∧
      (told = [] ∨ told = [.noEndpoints new.exists_]) ∧
      (old.addrs ~m new.addrs → updates = []) ∧
      (¬old.addrs ~m new.addrs → ∃ plus minus, updates = [.update plus minus] ∧
        Exact old.addrs new.addrs plus minus) := by
  refine ⟨difference old.addrs new.addrs, _, rfl, ?_, difference_eq_nil_iff.mpr, fun hdiff => ?_⟩
  · split
    · exact .inr rfl
    · exact .inl rfl
  · exact ⟨_, _, difference_of_not_equiv hdiff, exact_added_removed old.addrs new.addrs⟩

end PortState

end MeshDestination
