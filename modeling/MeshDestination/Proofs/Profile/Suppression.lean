import MeshDestination.Discovery.Message
import MeshDestination.Index.Profiles
import MeshDestination.Proofs.Index.Run
import MeshDestination.Proofs.Profile.Equality

/-!
# Updates that are not sent

A profile that compares equal to the one before it is not sent to listeners. Their clients miss
nothing by it: the message of the one profile is that of the other, up to the sign of a retry ratio
that is zero (`beq_invisible`). That holds of ratios of the 32-bit format, and a resource that is
read has no other.
-/

namespace MeshDestination

open Number Cluster Discovery

/-! ## Ratios that are read -/

theorem Json.isOf_binary? {f : Format} (hbits : f.bits ≠ 0) {j : Json} {x : Binary}
    (h : j.binary? f = some x) : x.IsOf f := by
  unfold Json.binary? at h
  split at h
  · cases h
    exact Binary.isOf_ofRatio hbits false _ one_ne_zero
  · cases h
    exact Binary.isOf_ofRatio hbits true _ one_ne_zero
  · next y =>
    cases h
    cases y with
    | nan => trivial
    | infinite s => trivial
    | finite s m e => exact Binary.isOf_ofRatio hbits s _ (Binary.powTwo_snd_pos e).ne'
  · cases h

theorem isOf_retryRatio_of_ofJson? {j : Json} {b : RetryBudgetSpec}
    (h : RetryBudgetSpec.ofJson? j = some b) : b.retryRatio.IsOf .single := by
  unfold RetryBudgetSpec.ofJson? at h
  split at h
  · next ratio minRetries ttl _ =>
    obtain ⟨x, hx, h⟩ := Option.bind_eq_some_iff.mp h
    obtain ⟨n, -, h⟩ := Option.bind_eq_some_iff.mp h
    obtain ⟨t, -, h⟩ := Option.bind_eq_some_iff.mp h
    cases h
    cases ratio with
    | none => cases hx
    | some r => exact Json.isOf_binary? (by decide) hx
  · cases h

theorem isOf_retryRatio_of_spec {j : Json} {spec : ServiceProfileSpec}
    (h : ServiceProfileSpec.ofJson? j = some spec) :
    ∀ b, spec.retryBudget = some b → b.retryRatio.IsOf .single := by
  intro b hb
  unfold ServiceProfileSpec.ofJson? at h
  split at h
  · next routes budget _ =>
    obtain ⟨rs, -, h⟩ := Option.bind_eq_some_iff.mp h
    obtain ⟨b', hb', h⟩ := Option.bind_eq_some_iff.mp h
    cases h
    subst hb
    cases budget with
    | none => cases hb'
    | some jb =>
      have hread : Json.nullable RetryBudgetSpec.ofJson? jb = some (some b) := hb'
      unfold Json.nullable at hread
      split at hread
      · cases hread
      · obtain ⟨b', hb', heq⟩ := Option.map_eq_some_iff.mp hread
        cases heq
        exact isOf_retryRatio_of_ofJson? hb'
  · cases h

/-! ## Messages -/

/-- A number without its sign if it is zero. -/
def Number.Binary.withoutZeroSign (x : Binary) : Binary := if x.isZero then .zero false else x

/-- A message whose retry ratio, if it is zero, has no sign. -/
def Discovery.ProfileMessage.withoutZeroSign (m : ProfileMessage) : ProfileMessage :=
  { m with retryBudget := m.retryBudget.map fun b =>
      { b with retryRatio := b.retryRatio.withoutZeroSign } }

theorem Number.Binary.withoutZeroSign_eq_of_beq {f : Format} {x y : Binary} (hx : x.IsOf f)
    (hy : y.IsOf f) (h : x.beq y = true) : x.withoutZeroSign = y.withoutZeroSign := by
  unfold withoutZeroSign
  rcases eq_or_isZero_of_beq hx hy h with rfl | ⟨hx0, hy0⟩
  · rfl
  · rw [if_pos hx0, if_pos hy0]

/-- Budgets that compare equal are sent alike. -/
theorem sent_eq_of_beq {b b' : RetryBudget} (hb : b.retryRatio.IsOf .single)
    (hb' : b'.retryRatio.IsOf .single) (h : b.beq b' = true) :
    ({ RetryBudgetMessage.ofBudget b with
        retryRatio := b.retryRatio.withoutZeroSign } : RetryBudgetMessage) =
      { RetryBudgetMessage.ofBudget b' with retryRatio := b'.retryRatio.withoutZeroSign } := by
  obtain ⟨hratio, hmin, httl⟩ := RetryBudget.beq_iff.mp h
  rw [Binary.withoutZeroSign_eq_of_beq hb hb' hratio]
  simp [RetryBudgetMessage.ofBudget, hmin, httl]

/-- Profiles that compare equal are sent alike. -/
theorem message_eq_of_beq {p q : Profile} (hp : p.RatioIs (·.IsOf .single))
    (hq : q.RatioIs (·.IsOf .single)) (h : p.beq q = true) (name : String) :
    (ProfileMessage.ofProfile name (some p)).withoutZeroSign =
      (ProfileMessage.ofProfile name (some q)).withoutZeroSign := by
  obtain ⟨hroutes, hbudget⟩ := Profile.beq_iff.mp h
  unfold ProfileMessage.ofProfile ProfileMessage.withoutZeroSign
  simp only [hroutes, ProfileMessage.mk.injEq, true_and, Option.map_map]
  cases hpb : p.retryBudget with
  | none =>
    cases hqb : q.retryBudget with
    | none => rfl
    | some b => simp [hpb, hqb, beqOption] at hbudget
  | some b =>
    cases hqb : q.retryBudget with
    | none => simp [hpb, hqb, beqOption] at hbudget
    | some b' =>
      rw [hpb, hqb] at hbudget
      exact congrArg some (sent_eq_of_beq (hp b hpb) (hq b' hqb) hbudget)

/-- A profile that compares equal to the current one is not sent, and its message would be the same
up to the sign of a zero ratio; ratios that are read have the format that this takes. Comparing
equal is an equivalence of the profiles whose ratio is a number. -/
theorem beq_invisible :
    (∀ (before after : Profiles) (c : ClusterInfo) (key : ObjectKey) (service : ServiceRef)
        (state : ProfileState) (p q : Profile), before.services[service]? = some state →
      state.current = some p → after.effective c service = some q → p.beq q = true →
      Profiles.changes before after c key service = []) ∧
    (∀ p q : Profile, p.beq q = true → p.RatioIs (·.IsOf .single) → q.RatioIs (·.IsOf .single) →
      ∀ name, (ProfileMessage.ofProfile name (some p)).withoutZeroSign =
        (ProfileMessage.ofProfile name (some q)).withoutZeroSign) ∧
    (∀ (j : Json) (spec : ServiceProfileSpec) (p : Profile),
      ServiceProfileSpec.ofJson? j = some spec → Profile.ofSpec spec = .ok p →
      p.RatioIs (·.IsOf .single)) ∧
    Equivalence fun p q : { p : Profile // p.RatioIs (·.isNaN = false) } => p.1.beq q.1 = true := by
  refine ⟨?_, fun p q h hp hq => message_eq_of_beq hp hq h,
    fun j spec p hj hp => Profile.ratioIs_of_ofSpec hp (isOf_retryRatio_of_spec hj), ?_⟩
  · intro before after c key service state p q hstate hp hq h
    simp [Profiles.changes, hstate, hp, hq, beqOption, h]
  · exact ⟨fun p => (Profile.beq_self_iff p.1).mpr p.2, Profile.beq_symm, Profile.beq_trans⟩

/-- Profiles whose retry ratios are zeros of both signs. -/
theorem beq_invisible_zero :
    let get : Http.Method := ⟨"GET", by decide⟩
    let failed : ResponseClass := ⟨.any [.status 500 599, .not (.status 0 499)], true⟩
    let route : RouteSpec := ⟨"read", .all [.not (.any []), .method get], [failed], true, none⟩
    let profile (negative : Bool) : Profile := ⟨[route], some ⟨.zero negative, 10, .zero⟩⟩
    let current : ProfileState := ⟨some (profile false), 1⟩
    let before : Profiles := { services := .ofList [(Sample.web, current)] }
    let key : ObjectKey := ⟨"ns", "web.ns.svc.cluster.local"⟩
    let after : Profiles := { resources := .ofList [(key, profile true)] }
    (profile false).beq (profile true) = true ∧
      Profiles.changes before after {} key Sample.web = [] ∧
      ProfileMessage.ofProfile "web" (some (profile false)) ≠
        ProfileMessage.ofProfile "web" (some (profile true)) ∧
      (ProfileMessage.ofProfile "web" (some (profile false))).withoutZeroSign =
        (ProfileMessage.ofProfile "web" (some (profile true))).withoutZeroSign := by
  intro get failed route profile current before key after
  have hbeq : (profile false).beq (profile true) = true := by decide
  have hafter : after.effective {} Sample.web = some (profile true) := by cbv
  have hratio : ∀ s, (profile s).RatioIs (·.IsOf .single) := by
    rintro s b ⟨⟩
    exact .inl rfl
  refine ⟨hbeq, beq_invisible.1 before after {} key Sample.web _ _ _ rfl rfl hafter hbeq, ?_,
    beq_invisible.2.1 _ _ hbeq (hratio false) (hratio true) "web"⟩
  simp [ProfileMessage.ofProfile, RetryBudgetMessage.ofBudget, Binary.zero, profile]

end MeshDestination
