import MeshDestination.Proofs.Index.Ports

/-!
# Listeners know the endpoints of their port

In every run, whatever the order of its operations, a listener that has followed all events enqueued
for its subscription knows exactly the endpoints of its port, each with its owner, as long as the
subscription is registered (`view_log_equiv_addrs`). The invariant is `Index.Consistent`; it upholds
a relation of logs and states that the events of every change keep (`invariant_view`).
-/

namespace MeshDestination

open Cluster EndpointsEvent
open scoped Std.TreeMap

namespace Index

/-- Every registered subscription has a port with a state, and the events enqueued for it lead to
the endpoints of that state. -/
def Consistent (ix : Index) : Prop :=
  ∀ sub ∈ ix.endpointSubs.entries, sub.isRegistered = true →
    ∃ ps, ix.port? sub.topic = some ps ∧ view sub.log ~m ps.addrs

theorem consistent_start (c : ClusterInfo) : (start c).Consistent :=
  fun _ hsub => absurd hsub List.not_mem_nil

/-- The first events of a subscription and those of every change lead to the endpoints of a port. -/
theorem invariant_view :
    TopicState.Invariant fun (log : List EndpointsEvent) (ps : PortState) => view log ~m ps.addrs where
  initial := view_initialEvents
  tells {old new events log} htells hview := by
    have hevents : events = PortState.changes old new := htells
    rw [view_append, hevents]
    exact follow_changes hview new

theorem consistent_iff {ix : Index} :
    ix.Consistent ↔ ix.portTopics.Upholds fun log ps => view log ~m ps.addrs := Iff.rfl

theorem Consistent.retains {before after : Index} (h : before.Consistent)
    (hr : Retains before after) : after.Consistent :=
  consistent_iff.mpr ((consistent_iff.mp h).retains hr.portTopics)

theorem Consistent.evolves {before after : Index} (h : before.Consistent)
    (he : Evolves before after) : after.Consistent := by
  induction he with
  | told hm => exact consistent_iff.mpr ((consistent_iff.mp h).moves invariant_view hm)
  | subscribed hs => exact consistent_iff.mpr ((consistent_iff.mp h).subscribes invariant_view hs)
  | trans _ _ ih ih' => exact ih' (ih h)

theorem Consistent.perform {ix : Index} (h : ix.Consistent) (op : Operation) :
    (ix.perform op).Consistent :=
  consistent_iff.mpr ((consistent_iff.mp h).step invariant_view (step_portTopics ix op))

theorem consistent_run (c : ClusterInfo) (ops : List Operation) : ((start c).run ops).Consistent :=
  run_invariant (fun _ op h => h.perform op) ops (consistent_start c)

/-- After every run, each subscription that is still registered has a port, and a listener that has
followed every event enqueued for it knows exactly the endpoints of that port. -/
theorem view_log_equiv_addrs (c : ClusterInfo) (ops : List Operation)
    (sub : Subscription PortRef EndpointsEvent)
    (hsub : sub ∈ ((start c).run ops).endpointSubs.entries) (hreg : sub.isRegistered = true) :
    ∃ ps, ((start c).run ops).port? sub.topic = some ps ∧ view sub.log ~m ps.addrs :=
  consistent_run c ops sub hsub hreg

/-- A listener that joins before its service has endpoints, and has received its first events. -/
theorem view_log_equiv_addrs_web :
    let ops := [.apply (.service Sample.service), .subscribeEndpoints Sample.web .http,
      .onEndpoints 0 .receive, .apply (.endpoints Sample.endpoints)]
    let sub : Subscription PortRef EndpointsEvent := {
      topic := (Sample.web, .http), number := 0, ticket := 0, capacity := 100
      received := [.update [] []]
      queue := [.noEndpoints true, .update [⟨Sample.backend, none⟩] []] }
    sub ∈ ((start {}).run ops).endpointSubs.entries ∧
      ∃ ps, ((start {}).run ops).port? sub.topic = some ps ∧ view sub.log ~m ps.addrs := by
  intro ops sub
  have hsub : sub ∈ ((start {}).run ops).endpointSubs.entries := by decide +kernel
  exact ⟨hsub, view_log_equiv_addrs {} ops sub hsub rfl⟩

end Index

end MeshDestination
