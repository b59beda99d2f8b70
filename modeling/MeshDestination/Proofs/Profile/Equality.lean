import MeshDestination.Profile.Resource
import MeshDestination.Proofs.Number.Binary

/-!
# When profiles compare equal

Profiles are compared by structure, ratios as numbers. So profiles that compare equal have the same
routes and the same budget up to what its ratio is worth (`Profile.beq_iff`), and comparison is
symmetric and transitive. A profile equals itself exactly if its retry ratio, if it has one, is a
number (`Profile.beq_self_iff`). The ratio is the one that its resource states.
-/

namespace MeshDestination

open Number Cluster

/-! ## Routes -/

theorem Pattern.text_inj {p q : Pattern} : p.text = q.text ↔ p = q := by
  cases p
  cases q
  simp

theorem Http.Method.token_inj {m m' : Method} : m.token = m'.token ↔ m = m' := by
  cases m
  cases m'
  simp

mutual

theorem RequestMatch.beq_iff_eq : ∀ a b : RequestMatch, a.beq b = true ↔ a = b
  | .all ms, b => by cases b <;> simp [RequestMatch.beq, RequestMatch.beqAll_iff_eq ms]
  | .any ms, b => by cases b <;> simp [RequestMatch.beq, RequestMatch.beqAll_iff_eq ms]
  | .not m, b => by cases b <;> simp [RequestMatch.beq, RequestMatch.beq_iff_eq m]
  | .path p, b => by cases b <;> simp [RequestMatch.beq, Pattern.text_inj]
  | .method m, b => by cases b <;> simp [RequestMatch.beq, Http.Method.token_inj]

theorem RequestMatch.beqAll_iff_eq :
    ∀ as bs : List RequestMatch, RequestMatch.beqAll as bs = true ↔ as = bs
  | [], bs => by cases bs <;> simp [RequestMatch.beqAll]
  | a :: as, bs => by
    cases bs <;>
      simp [RequestMatch.beqAll, RequestMatch.beq_iff_eq a, RequestMatch.beqAll_iff_eq as]

end

mutual

theorem ResponseMatch.beq_iff_eq : ∀ a b : ResponseMatch, a.beq b = true ↔ a = b
  | .all ms, b => by cases b <;> simp [ResponseMatch.beq, ResponseMatch.beqAll_iff_eq ms]
  | .any ms, b => by cases b <;> simp [ResponseMatch.beq, ResponseMatch.beqAll_iff_eq ms]
  | .not m, b => by cases b <;> simp [ResponseMatch.beq, ResponseMatch.beq_iff_eq m]
  | .status min max, b => by cases b <;> simp [ResponseMatch.beq]

theorem ResponseMatch.beqAll_iff_eq :
    ∀ as bs : List ResponseMatch, ResponseMatch.beqAll as bs = true ↔ as = bs
  | [], bs => by cases bs <;> simp [ResponseMatch.beqAll]
  | a :: as, bs => by
    cases bs <;>
      simp [ResponseMatch.beqAll, ResponseMatch.beq_iff_eq a, ResponseMatch.beqAll_iff_eq as]

end

theorem beqList_iff_eq {α : Type} {eq : α → α → Bool} (h : ∀ a b, eq a b = true ↔ a = b) :
    ∀ as bs : List α, beqList eq as bs = true ↔ as = bs
  | [], bs => by cases bs <;> simp [beqList]
  | a :: as, bs => by cases bs <;> simp [beqList, h a, beqList_iff_eq h as]

theorem ResponseClass.beq_iff_eq (a b : ResponseClass) : a.beq b = true ↔ a = b := by
  cases a
  cases b
  simp [ResponseClass.beq, ResponseMatch.beq_iff_eq]

theorem RouteSpec.beq_iff_eq (a b : RouteSpec) : a.beq b = true ↔ a = b := by
  cases a
  cases b
  simp [RouteSpec.beq, RequestMatch.beq_iff_eq, beqList_iff_eq ResponseClass.beq_iff_eq, and_assoc]

/-! ## Budgets -/

theorem RetryBudget.beq_iff {a b : RetryBudget} : a.beq b = true ↔
    a.retryRatio.beq b.retryRatio = true ∧ a.minRetriesPerSecond = b.minRetriesPerSecond ∧
      a.ttl = b.ttl := by
  simp [RetryBudget.beq, and_assoc]

theorem RetryBudget.beq_symm {a b : RetryBudget} (h : a.beq b = true) : b.beq a = true := by
  obtain ⟨hratio, hmin, httl⟩ := beq_iff.mp h
  exact beq_iff.mpr ⟨Binary.beq_symm hratio, hmin.symm, httl.symm⟩

theorem RetryBudget.beq_trans {a b c : RetryBudget} (h : a.beq b = true) (h' : b.beq c = true) :
    a.beq c = true := by
  obtain ⟨hratio, hmin, httl⟩ := beq_iff.mp h
  obtain ⟨hratio', hmin', httl'⟩ := beq_iff.mp h'
  exact beq_iff.mpr ⟨Binary.beq_trans hratio hratio', hmin.trans hmin', httl.trans httl'⟩

theorem beqOption_symm {α : Type} {eq : α → α → Bool} {x y : Option α}
    (hxy : beqOption eq x y = true) (h : ∀ a b, eq a b = true → eq b a = true) :
    beqOption eq y x = true := by
  cases x <;> cases y <;> simp_all [beqOption]

theorem beqOption_trans {α : Type} {eq : α → α → Bool} {x y z : Option α}
    (hxy : beqOption eq x y = true) (hyz : beqOption eq y z = true)
    (h : ∀ a b c, eq a b = true → eq b c = true → eq a c = true) :
    beqOption eq x z = true := by
  cases x <;> cases y <;> cases z <;> simp_all [beqOption]
  exact h _ _ _ hxy hyz

/-! ## Profiles -/

namespace Profile

/-- The retry ratio of a profile, if it has one, is of some kind. -/
def RatioIs (p : Profile) (kind : Binary → Prop) : Prop :=
  ∀ b, p.retryBudget = some b → kind b.retryRatio

/-- Profiles compare equal if their routes are the same and their budgets compare equal. -/
theorem beq_iff {p q : Profile} : p.beq q = true ↔
    p.routes = q.routes ∧ beqOption RetryBudget.beq p.retryBudget q.retryBudget = true := by
  rw [Profile.beq, Bool.and_eq_true, beqList_iff_eq RouteSpec.beq_iff_eq]

theorem beq_symm {p q : Profile} (h : p.beq q = true) : q.beq p = true := by
  rw [beq_iff] at h ⊢
  exact ⟨h.1.symm, beqOption_symm h.2 fun _ _ => RetryBudget.beq_symm⟩

theorem beq_trans {p q r : Profile} (h : p.beq q = true) (h' : q.beq r = true) :
    p.beq r = true := by
  rw [beq_iff] at h h' ⊢
  exact ⟨h.1.trans h'.1, beqOption_trans h.2 h'.2 fun _ _ _ => RetryBudget.beq_trans⟩

/-- A profile equals itself unless its retry ratio is not a number. -/
theorem beq_self_iff (p : Profile) : p.beq p = true ↔ p.RatioIs (·.isNaN = false) := by
  rw [beq_iff, eq_self, true_and, RatioIs]
  cases p.retryBudget with
  | none => simp [beqOption]
  | some b => simp [beqOption, RetryBudget.beq_iff, Binary.beq_self]

end Profile

/-! ## Profiles of resources -/

/-- The ratio of a budget is the one that its resource states. -/
theorem retryRatio_of_usableBudget {spec : Option RetryBudgetSpec} {b : RetryBudget}
    (h : usableBudget spec = .ok (some b)) : ∃ s, spec = some s ∧ b.retryRatio = s.retryRatio := by
  cases spec with
  | none => cases h
  | some s =>
    refine ⟨s, rfl, ?_⟩
    rw [usableBudget, RetryBudget.ofSpec] at h
    cases hd : durationOf s.ttl with
    | error e =>
      rw [hd] at h
      cases e <;> cases h
    | ok d =>
      rw [hd] at h
      cases h
      rfl

/-- The ratio of a profile is of the kind of the one that its resource states. -/
theorem Profile.ratioIs_of_ofSpec {spec : ServiceProfileSpec} {p : Profile} {kind : Binary → Prop}
    (h : Profile.ofSpec spec = .ok p)
    (hkind : ∀ b, spec.retryBudget = some b → kind b.retryRatio) : p.RatioIs kind := by
  intro b hb
  unfold Profile.ofSpec at h
  cases hroutes : usableRoutes spec.routes with
  | error e =>
    rw [hroutes] at h
    cases h
  | ok routes =>
    cases hbudget : usableBudget spec.retryBudget with
    | error e =>
      rw [hroutes, hbudget] at h
      cases h
    | ok budget =>
      rw [hroutes, hbudget] at h
      cases h
      obtain ⟨s, hs, hratio⟩ := retryRatio_of_usableBudget (hbudget.trans (congrArg _ hb))
      rw [hratio]
      exact hkind s hs

/-- A profile from a resource whose retry ratio is a number equals itself. -/
theorem Profile.beq_self_of_ofSpec {spec : ServiceProfileSpec} {p : Profile}
    (h : Profile.ofSpec spec = .ok p)
    (hnan : ∀ b, spec.retryBudget = some b → b.retryRatio.isNaN = false) : p.beq p = true := by
  have hratio : p.RatioIs (·.isNaN = false) := Profile.ratioIs_of_ofSpec h hnan
  exact (Profile.beq_self_iff p).mpr hratio

end MeshDestination
