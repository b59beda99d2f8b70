import MeshDestination.Proofs.Index.Ports
import MeshDestination.Proofs.Index.Profiles

/-!
# No subscription is lost

States of ports and of profiles are dropped in many places: when resources are deleted, when a
service is computed anew, and whenever something subscribes. No registered subscription loses the
state that numbered it by any of this, nor its place among those that are told of its topic. It ends
because its queue is full when an event arrives, or by its own subscriber or listener
(`keeps_perform`).
-/

namespace MeshDestination.Index

/-- Every registered subscription, to endpoints or to a profile, has the kept state that numbered
it. -/
structure Anchored (ix : Index) : Prop where
  ports : ix.portTopics.Held
  profiles : ix.profileTopics.Held

theorem anchored_start (c : ClusterInfo) : (start c).Anchored where
  ports := ⟨Subscriptions.numbered_empty, fun _ hsub => absurd hsub List.not_mem_nil,
    fun _ hsub => absurd hsub List.not_mem_nil⟩
  profiles := ⟨Subscriptions.numbered_empty, fun _ hsub => absurd hsub List.not_mem_nil,
    fun _ hsub => absurd hsub List.not_mem_nil⟩

theorem Anchored.perform {ix : Index} (h : ix.Anchored) (op : Operation) :
    (ix.perform op).Anchored where
  ports := h.ports.step (step_portTopics ix op)
  profiles := h.profiles.step (step_profileTopics ix op)

theorem anchored_run (c : ClusterInfo) (ops : List Operation) : ((start c).run ops).Anchored :=
  run_invariant (fun _ op h => h.perform op) ops (anchored_start c)

/-- After every run, each registered subscription has the state of its topic that numbered it, and
the number is its own. Whatever is done next, and when states are collected, it stays registered and
is told how this very state changes, unless its own queue is full when one of these events arrives,
or what is done is to unsubscribe it or to stop its own listener. -/
theorem keeps_perform (c : ClusterInfo) (ops : List Operation) (op : Operation) :
    let before := (start c).run ops
    before.Anchored ∧
    (before.portTopics.Keeps (before.perform op).portTopics fun t a => op = .onEndpoints t a) ∧
    (before.profileTopics.Keeps (before.perform op).profileTopics
      fun t a => op = .onProfile t a) ∧
    (before.portTopics.Keeps before.collect.portTopics fun _ _ => False) ∧
    before.profileTopics.Keeps
      ({ before with
        profiles := before.profiles.collect before.profileSubs.watches } : Index).profileTopics
      fun _ _ => False := by
  intro before
  have h : before.Anchored := anchored_run c ops
  exact ⟨h, (step_portTopics before op).keeps h.ports,
    (step_profileTopics before op).keeps h.profiles, (moves_collect before).keeps h.ports,
    (moves_collectProfiles before).keeps h.profiles⟩

/-- With room for two events, a listener that receives nothing falls behind at the third one. The
other listener of the port stays. -/
example :
    let ops := [.subscribeEndpoints Sample.web .http, .subscribeEndpoints Sample.web .http,
      .onEndpoints 1 .receive, .apply (.service Sample.service)]
    ((start { queueCapacity := 2 }).run ops).endpointSubs.entries.map (·.standing) =
      [.lagged, .registered] := by
  decide +kernel

end MeshDestination.Index
