import Mathlib.Logic.Function.Basic
import MeshDestination.Discovery.Message
import MeshDestination.Proofs.View

/-!
# What a client knows

A client of endpoints keeps what it is sent: it forgets removed addresses, adds or replaces added
ones, and clears everything when it is told that there are none. It sees addresses only as they are
written on the wire. After the messages for some events it knows the endpoints to which the events
lead, each with its weight and the labels of its owner (`Update.shows_known`), as long as no two
addresses are written alike.
-/

namespace MeshDestination.Discovery

open Net
open scoped Std.TreeMap

/-- What a client knows of an address: its weight and its labels. -/
abbrev Weighted := Nat × List (String × String)

namespace Update

/-- Whether a message brings no address. -/
def isEmpty : Update → Bool
  | .add addrs _ => addrs.isEmpty
  | .remove addrs => addrs.isEmpty
  | .noEndpoints _ => false

/-- The first message to a client of a service port in some state. -/
def first (service : ServiceRef) (s : PortState) : Update :=
  if s.addrs.isEmpty then .noEndpoints s.exists_
  else .add (s.addrs.endpoints.map WeightedAddr.ofEndpoint) (serviceLabels service)

variable {α : Type} {wire : SocketAddr → α} {m : AddressMap} {k : α → Option Weighted}

/-- A client knows exactly the endpoints of a set, with their weight and labels. -/
structure Shows (wire : SocketAddr → α) (k : α → Option Weighted) (m : AddressMap) : Prop where
  here : ∀ addr, k (wire addr) = m[addr]?.map fun owner => (uniformWeight, ownerLabels owner)
  elsewhere : ∀ a, (∀ addr, wire addr ≠ a) → k a = none

theorem shows_empty : Shows wire (fun _ => none) {} where
  here addr := by
    rw [show ({} : AddressMap)[addr]? = none from Std.TreeMap.getElem?_emptyc]
    rfl
  elsewhere _ _ := rfl

theorem Shows.congr {m' : AddressMap} (h : Shows wire k m) (hm : m ~m m') : Shows wire k m' where
  here addr := by rw [h.here, hm.getElem?_eq]
  elsewhere := h.elsewhere

variable [DecidableEq α]

/-- What a client that knew `k` knows after a message; `wire` writes addresses. -/
def learn (wire : SocketAddr → α) (k : α → Option Weighted) : Update → α → Option Weighted
  | .add addrs _ =>
    addrs.foldl (fun k w => Function.update k (wire w.addr) (some (w.weight, w.labels))) k
  | .remove addrs => addrs.foldl (fun k addr => Function.update k (wire addr) none) k
  | .noEndpoints _ => fun _ => none

/-- What a client that knew nothing knows after some messages. -/
def known (wire : SocketAddr → α) (ms : List Update) : α → Option Weighted :=
  ms.foldl (learn wire) fun _ => none

theorem Shows.erase (hw : Function.Injective wire) (h : Shows wire k m) (addr : SocketAddr) :
    Shows wire (Function.update k (wire addr) none) (m.erase addr) where
  here a := by
    rw [Std.TreeMap.getElem?_erase]
    by_cases ha : addr = a
    · subst ha
      rw [Function.update_self, if_pos (Std.LawfulEqCmp.compare_eq_iff_eq.mpr rfl)]
      rfl
    · have hne : wire a ≠ wire addr := fun heq => ha (hw heq).symm
      rw [Function.update_of_ne hne, if_neg fun heq => ha (Std.LawfulEqCmp.compare_eq_iff_eq.mp heq),
        h.here]
  elsewhere a ha := by
    rw [Function.update_of_ne (ha addr).symm, h.elsewhere a ha]

theorem Shows.insert (hw : Function.Injective wire) (h : Shows wire k m) (e : Endpoint) :
    Shows wire (Function.update k (wire e.addr) (some (uniformWeight, ownerLabels e.owner)))
      (m.insert e.addr e.owner) where
  here a := by
    rw [Std.TreeMap.getElem?_insert]
    by_cases ha : e.addr = a
    · subst ha
      rw [Function.update_self, if_pos (Std.LawfulEqCmp.compare_eq_iff_eq.mpr rfl)]
      rfl
    · have hne : wire a ≠ wire e.addr := fun heq => ha (hw heq).symm
      rw [Function.update_of_ne hne, if_neg fun heq => ha (Std.LawfulEqCmp.compare_eq_iff_eq.mp heq),
        h.here]
  elsewhere a ha := by
    rw [Function.update_of_ne (ha e.addr).symm, h.elsewhere a ha]

theorem Shows.remove (hw : Function.Injective wire) (es : List Endpoint) :
    ∀ {k : α → Option Weighted} {m : AddressMap}, Shows wire k m →
      Shows wire (learn wire k (.remove (es.map (·.addr))))
        (es.foldl (fun m e => m.erase e.addr) m) := by
  induction es with
  | nil => exact fun h => h
  | cons e es ih => exact fun h => ih (h.erase hw e.addr)

theorem Shows.add (hw : Function.Injective wire) (labels : List (String × String))
    (es : List Endpoint) :
    ∀ {k : α → Option Weighted} {m : AddressMap}, Shows wire k m →
      Shows wire (learn wire k (.add (es.map WeightedAddr.ofEndpoint) labels))
        (es.foldl (fun m e => m.insert e.addr e.owner) m) := by
  induction es with
  | nil => exact fun h => h
  | cons e es ih => exact fun h => ih (h.insert hw e)

/-- The messages for an event lead a client where the event leads a listener. -/
theorem Shows.ofEvent (hw : Function.Injective wire) (service : ServiceRef) (h : Shows wire k m)
    (e : EndpointsEvent) : Shows wire ((ofEvent service e).foldl (learn wire) k) (e.follow m) := by
  cases e with
  | noEndpoints exists_ => exact shows_empty
  | update added removed =>
    have hremoved : Shows wire
        ((if removed.isEmpty then [] else [Update.remove (removed.map (·.addr))]).foldl
          (learn wire) k) (removed.foldl (fun m e => m.erase e.addr) m) := by
      cases removed with
      | nil => exact h
      | cons e es => exact h.remove hw (e :: es)
    rw [Update.ofEvent, List.foldl_append]
    cases added with
    | nil => exact hremoved
    | cons e es => exact hremoved.add hw (serviceLabels service) (e :: es)

theorem shows_foldl (hw : Function.Injective wire) (service : ServiceRef)
    (es : List EndpointsEvent) :
    ∀ {k : α → Option Weighted} {m : AddressMap}, Shows wire k m →
      Shows wire ((es.flatMap (ofEvent service)).foldl (learn wire) k)
        (es.foldl EndpointsEvent.follow m) := by
  induction es with
  | nil => exact fun h => h
  | cons e es ih =>
    intro k m h
    rw [List.flatMap_cons, List.foldl_append]
    exact ih (h.ofEvent hw service e)

/-- A client that was sent the messages for some events knows the endpoints to which these lead. -/
theorem shows_known (hw : Function.Injective wire) (service : ServiceRef)
    (es : List EndpointsEvent) :
    Shows wire (known wire (es.flatMap (ofEvent service))) (EndpointsEvent.view es) :=
  shows_foldl hw service es shows_empty

/-! ## Single messages -/

/-- No message for an event is empty. -/
theorem isEmpty_of_mem_ofEvent {service : ServiceRef} {e : EndpointsEvent} {u : Update}
    (hu : u ∈ ofEvent service e) : u.isEmpty = false := by
  cases e with
  | noEndpoints exists_ =>
    rw [ofEvent, List.mem_singleton] at hu
    rw [hu]
    rfl
  | update added removed =>
    rw [ofEvent, List.mem_append] at hu
    rcases hu with hu | hu
    · split at hu
      · cases hu
      · next hne =>
        rw [List.mem_singleton] at hu
        rw [hu]
        simpa [isEmpty] using hne
    · split at hu
      · cases hu
      · next hne =>
        rw [List.mem_singleton] at hu
        rw [hu]
        simpa [isEmpty] using hne

/-- The first events of a subscription are worth one message. -/
theorem flatMap_initialEvents (service : ServiceRef) (s : PortState) :
    s.initialEvents.flatMap (ofEvent service) = [first service s] := by
  unfold PortState.initialEvents first
  rw [List.flatMap_cons]
  split
  · next hnone =>
    rw [(AddressMap.isEmpty_endpoints s.addrs).mpr hnone]
    rfl
  · next hsome =>
    have hne : s.addrs.endpoints ≠ [] := fun h =>
      hsome ((AddressMap.isEmpty_endpoints s.addrs).mp h)
    simp [ofEvent, hne]

end Update

end MeshDestination.Discovery
