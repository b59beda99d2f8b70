import MeshDestination.Profile.Resource
import MeshDestination.Proofs.Duration

/-!
# Profiles of resources

A part of a resource that cannot be used costs itself only: the profile has the routes that can be
used, in order, and the retry budget if that can be used (`Profile.ofSpec_eq_ok`). The exception is
a duration that is too long, in a route that can be used otherwise or in the budget: then there is
no profile at all (`Profile.ofSpec_eq_overflow`).
-/

namespace MeshDestination

open Cluster Duration

/-- A text is too long for a duration. -/
def Cluster.DurationTooLong (text : String) : Prop := TooLong (unsignedText text) 0

/-- A route could be used, but its timeout is too long. -/
def Cluster.RouteSpec.TooLong (r : Cluster.RouteSpec) : Prop :=
  (∃ condition, RequestMatch.ofSpec? r.condition = some condition) ∧
    (∃ classes, r.responseClasses.mapM ResponseClass.ofSpec? = some classes) ∧
    ∃ timeout, r.timeout = some timeout ∧ DurationTooLong timeout

/-- The time to live of a retry budget is too long. -/
def Cluster.RetryBudgetSpec.TooLong (b : RetryBudgetSpec) : Prop := DurationTooLong b.ttl

/-- A duration that counts is too long. -/
def Cluster.ServiceProfileSpec.TooLong (s : ServiceProfileSpec) : Prop :=
  (∃ r ∈ s.routes, r.TooLong) ∨ ∃ b, s.retryBudget = some b ∧ b.TooLong

/-! ## Parts -/

theorem durationOf_eq_overflow {text : String} :
    durationOf text = .error .overflow ↔ DurationTooLong text := by
  rw [DurationTooLong, ← parse_eq_overflow_iff, durationOf]
  split
  · next d h => simp [h]
  · next h => simp [h]
  · next e hne h =>
    rw [h]
    refine ⟨nofun, ?_⟩
    rintro ⟨⟩
    exact absurd rfl hne

theorem RouteSpec.ofSpec_eq_overflow {r : Cluster.RouteSpec} :
    RouteSpec.ofSpec r = .error .overflow ↔ r.TooLong := by
  unfold RouteSpec.ofSpec Cluster.RouteSpec.TooLong
  cases hcondition : RequestMatch.ofSpec? r.condition with
  | none => simp
  | some condition =>
    cases hclasses : r.responseClasses.mapM ResponseClass.ofSpec? with
    | none => simp
    | some classes =>
      cases htimeout : r.timeout with
      | none => simp
      | some timeout =>
        have hread : durationOf timeout = .error .overflow ↔ _ := durationOf_eq_overflow
        cases hd : durationOf timeout with
        | ok d => simpa [hd, bind, Except.bind, Functor.map, Except.map] using hread
        | error fault => simpa [hd, bind, Except.bind, Functor.map, Except.map] using hread

/-- A list of routes that is a fault of the whole resource has a route that is. -/
theorem usableRoutes_eq_overflow {rs : List Cluster.RouteSpec} (h : ∃ r ∈ rs, r.TooLong) :
    usableRoutes rs = .error .overflow := by
  induction rs with
  | nil =>
    obtain ⟨r, hr, -⟩ := h
    cases hr
  | cons first rest ih =>
    unfold usableRoutes
    by_cases hfirst : first.TooLong
    · rw [RouteSpec.ofSpec_eq_overflow.mpr hfirst]
      rfl
    · obtain ⟨r, hr, hlong⟩ := h
      rcases List.mem_cons.mp hr with rfl | hr
      · exact absurd hlong hfirst
      · rw [ih ⟨r, hr, hlong⟩]
        cases hspec : RouteSpec.ofSpec first with
        | ok route => rfl
        | error fault => cases fault <;> rfl

theorem usableRoutes_eq_ok {rs : List Cluster.RouteSpec} (h : ∀ r ∈ rs, ¬r.TooLong) :
    usableRoutes rs = .ok (rs.filterMap fun r => (RouteSpec.ofSpec r).toOption) := by
  induction rs with
  | nil => rfl
  | cons first rest ih =>
    have hfirst := h first List.mem_cons_self
    unfold usableRoutes
    rw [ih fun r hr => h r (List.mem_cons_of_mem first hr), List.filterMap_cons]
    cases hspec : RouteSpec.ofSpec first with
    | ok route => rfl
    | error fault =>
      cases fault with
      | unusable => rfl
      | overflow => exact absurd (RouteSpec.ofSpec_eq_overflow.mp hspec) hfirst

theorem usableBudget_eq_overflow {b : RetryBudgetSpec} (h : b.TooLong) :
    usableBudget (some b) = .error .overflow := by
  rw [usableBudget, RetryBudget.ofSpec, durationOf_eq_overflow.mpr h]
  rfl

theorem usableBudget_eq_ok {budget : Option RetryBudgetSpec}
    (h : ∀ b, budget = some b → ¬b.TooLong) :
    usableBudget budget = .ok (budget.bind fun b => (RetryBudget.ofSpec b).toOption) := by
  cases budget with
  | none => rfl
  | some b =>
    rw [usableBudget, Option.bind_some, RetryBudget.ofSpec]
    cases hd : durationOf b.ttl with
    | ok d => rfl
    | error fault =>
      cases fault with
      | unusable => rfl
      | overflow => exact absurd (durationOf_eq_overflow.mp hd) (h b rfl)

/-! ## The whole -/

/-- The profile of what can be used of a resource. -/
def Profile.ofUsable (s : ServiceProfileSpec) : Profile where
  routes := s.routes.filterMap fun r => (RouteSpec.ofSpec r).toOption
  retryBudget := s.retryBudget.bind fun b => (RetryBudget.ofSpec b).toOption

theorem Profile.ofSpec_eq_ok {s : ServiceProfileSpec} (h : ¬s.TooLong) :
    Profile.ofSpec s = .ok (.ofUsable s) := by
  have hroutes := usableRoutes_eq_ok fun r hr hlong => h (.inl ⟨r, hr, hlong⟩)
  have hbudget := usableBudget_eq_ok fun b hb hlong => h (.inr ⟨b, hb, hlong⟩)
  rw [Profile.ofSpec, hroutes, hbudget]
  rfl

theorem Profile.ofSpec_eq_overflow {s : ServiceProfileSpec} (h : s.TooLong) :
    Profile.ofSpec s = .error .overflow := by
  unfold Profile.ofSpec
  by_cases hroutes : ∃ r ∈ s.routes, r.TooLong
  · rw [usableRoutes_eq_overflow hroutes]
    rfl
  · rcases h with hlong | ⟨b, hb, hlong⟩
    · exact absurd hlong hroutes
    · rw [usableRoutes_eq_ok fun r hr hlong => hroutes ⟨r, hr, hlong⟩, hb,
        usableBudget_eq_overflow hlong]
      rfl

end MeshDestination
