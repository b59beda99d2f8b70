import MeshDestination.Proofs.Index.Snapshot

/-!
# What listeners are told of existence

A listener is told that there are no endpoints, and whether the service exists, exactly when its
port has no endpoints: this is then the last event of its log, and it is true
(`last_log_eq_noEndpoints_iff`). It never clears anything: the updates before it have removed every
endpoint already. The invariant is `EndpointsEvent.Truthful`, a relation of logs and states that the
events of every change keep.
-/

namespace MeshDestination

open Net Cluster Std
open scoped Std.TreeMap

namespace EndpointsEvent

/-- Whether an event adds and removes endpoints. -/
def isUpdate : EndpointsEvent → Bool
  | .update _ _ => true
  | .noEndpoints _ => false

/-- The updates among some events. -/
def updates (log : List EndpointsEvent) : List EndpointsEvent := log.filter isUpdate

theorem updates_append (log log' : List EndpointsEvent) :
    updates (log ++ log') = updates log ++ updates log' := List.filter_append ..

/-- Every event that says that there are no endpoints comes after updates that have led to none. -/
def Cleared (log : List EndpointsEvent) : Prop :=
  ∀ told exists_, told ++ [.noEndpoints exists_] <+: log → (view (updates told)).isEmpty = true

theorem cleared_nil : Cleared [] := by
  intro told exists_ htold
  exact absurd htold (by simp)

theorem Cleared.of_prefix {log log' : List EndpointsEvent} (h : Cleared log')
    (hlog : log <+: log') : Cleared log :=
  fun told exists_ htold => h told exists_ (htold.trans hlog)

theorem Cleared.concat {log : List EndpointsEvent} (h : Cleared log) {e : EndpointsEvent}
    (he : ∀ exists_, e = .noEndpoints exists_ → (view (updates log)).isEmpty = true) :
    Cleared (log ++ [e]) := by
  intro told exists_ htold
  rcases List.prefix_concat_iff.mp htold with heq | htold
  · obtain ⟨rfl, hlast⟩ := List.append_inj' heq rfl
    exact he exists_ (List.singleton_inj.mp hlast).symm
  · exact h told exists_ htold

end EndpointsEvent

namespace PortState

open EndpointsEvent

/-- A difference is a single update, or there is none. -/
theorem difference_cases (old new : AddressMap) :
    difference old new = [] ∨ ∃ plus minus, difference old new = [.update plus minus] := by
  unfold difference
  split
  · exact .inl rfl
  · exact .inr ⟨_, _, rfl⟩

theorem updates_difference (old new : AddressMap) :
    updates (difference old new) = difference old new := by
  rcases difference_cases old new with h | ⟨plus, minus, h⟩
  · rw [h]
    rfl
  · rw [h]
    rfl

/-- Sets without a difference are empty together. -/
theorem isEmpty_eq_of_difference {old new : AddressMap} (h : difference old new = []) :
    old.isEmpty = new.isEmpty := by
  have hfollow : (difference old new).foldl follow old ~m new := follow_difference .rfl new
  rw [h] at hfollow
  exact hfollow.isEmpty_eq

theorem difference_of_isEmpty {old new : AddressMap} (hold : old.isEmpty = true)
    (hnew : new.isEmpty = true) : difference old new = [] := by
  have hadded : added old new = [] := by
    rw [added, (AddressMap.isEmpty_endpoints new).mpr hnew, List.filter_nil]
  have hremoved : removed old new = [] := by
    rw [removed, (AddressMap.isEmpty_endpoints old).mpr hold, List.filter_nil]
  rw [difference, hadded, hremoved]

end PortState

namespace EndpointsEvent

open PortState

theorem Cleared.append_difference {log : List EndpointsEvent} (h : Cleared log)
    (old new : AddressMap) : Cleared (log ++ difference old new) := by
  rcases difference_cases old new with hsame | ⟨plus, minus, hdiff⟩
  · rwa [hsame, List.append_nil]
  · rw [hdiff]
    exact h.concat fun _ he => by cases he

theorem view_append_difference {log : List EndpointsEvent} {old : AddressMap}
    (h : view (updates log) ~m old) (new : AddressMap) :
    view (updates (log ++ difference old new)) ~m new := by
  rw [updates_append, updates_difference, view_append]
  exact follow_difference h new

/-- What the log of a listener says of the port that it listens to. -/
structure Truthful (log : List EndpointsEvent) (ps : PortState) : Prop where
  last : ∀ exists_, log.getLast? = some (.noEndpoints exists_) ↔
    ps.addrs.isEmpty = true ∧ exists_ = ps.exists_
  view : view (updates log) ~m ps.addrs
  cleared : Cleared log

theorem truthful_initialEvents (ps : PortState) : Truthful ps.initialEvents ps := by
  have hview : EndpointsEvent.view [.update ps.addrs.endpoints []] ~m ps.addrs :=
    follow_endpoints ps.addrs
  have hcleared : Cleared [.update ps.addrs.endpoints []] :=
    cleared_nil.concat fun _ h => by cases h
  unfold initialEvents
  by_cases hnone : ps.addrs.isEmpty = true
  · rw [if_pos hnone]
    refine ⟨fun b => ?_, hview, hcleared.concat fun _ _ => hview.isEmpty_eq.trans hnone⟩
    simp [hnone, eq_comm]
  · rw [if_neg hnone]
    refine ⟨fun b => ?_, hview, hcleared⟩
    simp [hnone]

theorem Truthful.changes {log : List EndpointsEvent} {old : PortState} (h : Truthful log old)
    (new : PortState) : Truthful (log ++ changes old new) new := by
  have hview := view_append_difference h.view new.addrs
  have hcleared := h.cleared.append_difference old.addrs new.addrs
  unfold PortState.changes
  by_cases hnone : (new.addrs.isEmpty &&
      (!old.addrs.isEmpty || old.exists_ != new.exists_)) = true
  · rw [if_pos hnone, ← List.append_assoc]
    have hempty : new.addrs.isEmpty = true := (Bool.and_eq_true_iff.mp hnone).1
    refine ⟨fun b => ?_, ?_, hcleared.concat fun _ _ => hview.isEmpty_eq.trans hempty⟩
    · rw [List.getLast?_concat, Option.some.injEq, EndpointsEvent.noEndpoints.injEq]
      simp [hempty, eq_comm]
    · rw [updates_append]
      exact (List.append_nil _).symm ▸ hview
  · rw [if_neg hnone, List.append_nil]
    refine ⟨fun b => ?_, hview, hcleared⟩
    rcases difference_cases old.addrs new.addrs with hsame | ⟨plus, minus, hdiff⟩
    · -- Nothing is told, so neither the endpoints nor, without any, existence has changed.
      rw [hsame, List.append_nil, h.last, isEmpty_eq_of_difference hsame]
      refine and_congr_right fun hempty => ?_
      have hexists : old.exists_ = new.exists_ := by
        simpa [hempty, isEmpty_eq_of_difference hsame] using hnone
      rw [hexists]
    · rw [hdiff, List.getLast?_concat]
      have hsome : new.addrs.isEmpty = false := by
        by_contra hempty
        rw [Bool.not_eq_false] at hempty
        have hold : old.addrs.isEmpty = true := by
          by_contra hold
          exact hnone (by simp [hempty, hold])
        rw [difference_of_isEmpty hold hempty] at hdiff
        cases hdiff
      simp [hsome]

theorem invariant_truthful : TopicState.Invariant Truthful where
  initial := truthful_initialEvents
  tells {old new events log} htells h := by
    have hevents : events = PortState.changes old new := htells
    rw [hevents]
    exact h.changes new

end EndpointsEvent

namespace Index

open EndpointsEvent

/-- What a registered subscription was told is true of its port; what one that ended was told is the
start of something true. -/
structure Candid (ix : Index) : Prop where
  upholds : ix.portTopics.Upholds Truthful
  begins : ix.portTopics.Begins Truthful

theorem candid_run (c : ClusterInfo) (ops : List Operation) : ((start c).run ops).Candid := by
  refine run_invariant (fun ix op h => ?_) ops ⟨?_, ?_⟩
  · have hs := step_portTopics ix op
    exact ⟨h.upholds.step invariant_truthful hs, h.begins.step invariant_truthful h.upholds hs⟩
  · exact fun sub hsub => absurd hsub List.not_mem_nil
  · exact fun sub hsub => absurd hsub List.not_mem_nil

/-- The kept state of a port says whether the service resource is applied. -/
theorem exists_eq_isSome_applied (c : ClusterInfo) (ops : List Operation) {topic : PortRef}
    {ps : PortState} (h : ((start c).run ops).port? topic = some ps) :
    ps.exists_ = (appliedService ops topic.1).isSome := by
  have htracks := tracks_applied c ops topic.1
  have hagrees : ps.Agrees (((start c).run ops).service topic.1) topic.2 :=
    htracks.ports topic.2 ps (by rw [getElem?_ports_service, h])
  rw [hagrees.exists_, ServiceState.exists_, htracks.declared, Option.isSome_map]

/-- After every run, the last event of a registered subscription says that there are no endpoints if
and only if its port has none, and then whether the service resource is applied and not deleted
since. Whenever a subscription was told that there are no endpoints, the updates before had already
removed all of them. -/
theorem last_log_eq_noEndpoints_iff (c : ClusterInfo) (ops : List Operation)
    (sub : Subscription PortRef EndpointsEvent)
    (hsub : sub ∈ ((start c).run ops).endpointSubs.entries) :
    (sub.isRegistered = true → ∃ ps, ((start c).run ops).port? sub.topic = some ps ∧
      ∀ exists_, sub.log.getLast? = some (.noEndpoints exists_) ↔
        ps.addrs.isEmpty = true ∧ exists_ = (appliedService ops sub.topic.1).isSome) ∧
    ∀ told exists_, told ++ [.noEndpoints exists_] <+: sub.log →
      (view (updates told)).isEmpty = true := by
  have hcandid := candid_run c ops
  refine ⟨fun hreg => ?_, ?_⟩
  · obtain ⟨ps, hps, htruthful⟩ := hcandid.upholds sub hsub hreg
    refine ⟨ps, hps, fun exists_ => ?_⟩
    rw [htruthful.last, exists_eq_isSome_applied c ops hps]
  · obtain ⟨later, ps, htruthful⟩ := hcandid.begins sub hsub
    exact htruthful.cleared.of_prefix (List.prefix_append _ _)

/-- A listener that waits for a service, sees it come, get endpoints and go. -/
theorem last_log_eq_noEndpoints_iff_web :
    let ops := [.subscribeEndpoints Sample.web .http, .apply (.service Sample.service),
      .apply (.endpoints Sample.endpoints), .delete .service "ns" "web"]
    let sub : Subscription PortRef EndpointsEvent := {
      topic := (Sample.web, .http), number := 0, ticket := 0, capacity := 100
      queue := [.update [] [], .noEndpoints false, .noEndpoints true,
        .update [⟨Sample.backend, none⟩] [], .update [] [⟨Sample.backend, none⟩],
        .noEndpoints false] }
    sub ∈ ((start {}).run ops).endpointSubs.entries ∧
      (sub.isRegistered = true → ∃ ps, ((start {}).run ops).port? sub.topic = some ps ∧
        ∀ exists_, sub.log.getLast? = some (.noEndpoints exists_) ↔
          ps.addrs.isEmpty = true ∧ exists_ = (appliedService ops sub.topic.1).isSome) ∧
      ∀ told exists_, told ++ [.noEndpoints exists_] <+: sub.log →
        (view (updates told)).isEmpty = true := by
  intro ops sub
  have hsub : sub ∈ ((start {}).run ops).endpointSubs.entries := by decide +kernel
  exact ⟨hsub, last_log_eq_noEndpoints_iff {} ops sub hsub⟩

end Index

end MeshDestination
