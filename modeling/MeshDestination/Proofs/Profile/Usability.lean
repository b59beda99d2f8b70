import Mathlib.Data.List.Forall2
import MeshDestination.Proofs.Profile.Conversion

/-!
# Which routes can be used

A condition can be used exactly if all conditions in it can (`RequestMatch.isSome_ofSpec?_iff`,
`ResponseMatch.isSome_ofSpec?_iff`), where a single condition asks for a field that is set, for
patterns and methods that are valid, and for ranges in order. Of the routes of a resource exactly
those with such conditions, and with a timeout that can be read, are kept, in order, with what they
say (`Profile.keepsUsable_ofSpec`). A fault at any depth costs its own route, and nothing of another
or of the budget.
-/

namespace MeshDestination

open Http Cluster Text

/-! ## Conditions -/

/-- A conjunction is that of at least one condition. -/
theorem isSome_conjunction?_iff {α : Type} {all : List α → α} {ms : List α} :
    (conjunction? all ms).isSome = true ↔ ms ≠ [] := by
  match ms with
  | [] => simp [conjunction?]
  | [_] => simp [conjunction?]
  | _ :: _ :: _ => simp [conjunction?]

namespace Cluster.RequestMatchSpec

mutual

/-- All conditions in a condition, itself among them. -/
def nodes : RequestMatchSpec → List RequestMatchSpec
  | ⟨allOf, anyOf, negated, pathRegex, token⟩ =>
    ⟨allOf, anyOf, negated, pathRegex, token⟩ ::
      (nodesOf? allOf ++ nodesOf? anyOf ++ nodesOfNot? negated)

/-- All conditions in a list that may be missing. -/
def nodesOf? : Option (List RequestMatchSpec) → List RequestMatchSpec
  | none => []
  | some ms => nodesOfAll ms

/-- All conditions in a negated one that may be missing. -/
def nodesOfNot? : Option RequestMatchSpec → List RequestMatchSpec
  | none => []
  | some m => nodes m

/-- All conditions in a list. -/
def nodesOfAll : List RequestMatchSpec → List RequestMatchSpec
  | [] => []
  | m :: r => nodes m ++ nodesOfAll r

end

/-- At least one field is set. -/
def HasField (m : RequestMatchSpec) : Prop :=
  m.all.isSome = true ∨ m.any.isSome = true ∨ m.method.isSome = true ∨ m.not.isSome = true ∨
    m.pathRegex.isSome = true

/-- A condition has a field, and its own pattern and method are valid. Whether other conditions in
it are does not matter here. -/
structure Sensible (m : RequestMatchSpec) : Prop where
  field : m.HasField
  pattern : ∀ regex, m.pathRegex = some regex → Pattern.isValid regex = true
  method : ∀ text, m.method = some text →
    (uppercaseAscii text).toList ≠ [] ∧ (uppercaseAscii text).toList.all isTokenChar = true

end Cluster.RequestMatchSpec

namespace Cluster.ResponseMatchSpec

mutual

/-- All conditions in a condition, itself among them. -/
def nodes : ResponseMatchSpec → List ResponseMatchSpec
  | ⟨allOf, anyOf, negated, range⟩ =>
    ⟨allOf, anyOf, negated, range⟩ :: (nodesOf? allOf ++ nodesOf? anyOf ++ nodesOfNot? negated)

/-- All conditions in a list that may be missing. -/
def nodesOf? : Option (List ResponseMatchSpec) → List ResponseMatchSpec
  | none => []
  | some ms => nodesOfAll ms

/-- All conditions in a negated one that may be missing. -/
def nodesOfNot? : Option ResponseMatchSpec → List ResponseMatchSpec
  | none => []
  | some m => nodes m

/-- All conditions in a list. -/
def nodesOfAll : List ResponseMatchSpec → List ResponseMatchSpec
  | [] => []
  | m :: r => nodes m ++ nodesOfAll r

end

/-- At least one field is set. -/
def HasField (m : ResponseMatchSpec) : Prop :=
  m.all.isSome = true ∨ m.any.isSome = true ∨ m.not.isSome = true ∨ m.status.isSome = true

/-- A condition has a field, and the bounds of its own range, filled in, are in order. -/
structure Sensible (m : ResponseMatchSpec) : Prop where
  field : m.HasField
  status : ∀ range, m.status = some range → range.min.getD 100 ≤ range.max.getD 599

end Cluster.ResponseMatchSpec

/-! ### Fields -/

/-- A computation goes through if its first part does and the rest goes through after it. -/
theorem isSome_bind_iff {α β : Type} {x : Option α} {f : α → Option β} {p q : Prop}
    (hx : x.isSome = true ↔ p) (hf : ∀ a, x = some a → ((f a).isSome = true ↔ q)) :
    (x.bind f).isSome = true ↔ p ∧ q := by
  rw [← hx]
  cases x with
  | none => simp
  | some a => simpa using hf a rfl

/-- A field that is converted is set if it was. -/
theorem isSome_of_mapM {α β : Type} {convert : α → Option β} {field : Option α}
    {field' : Option β} (h : field.mapM convert = some field') : field'.isSome = field.isSome := by
  cases field with
  | none =>
    cases h
    rfl
  | some a =>
    rw [Option.mapM_some] at h
    obtain ⟨b, -, rfl⟩ := Option.map_eq_some_iff.mp h
    rfl

theorem isSome_mapM_iff {α β : Type} {convert : α → Option β} {valid : α → Prop}
    (hconvert : ∀ a, (convert a).isSome = true ↔ valid a) {field : Option α} :
    (field.mapM convert).isSome = true ↔ ∀ a, field = some a → valid a := by
  cases field with
  | none => simp
  | some a => simp [Option.mapM_some, hconvert]

/-- A field contributes to a conjunction if it is set. -/
theorem toList_map_ne_nil {α β : Type} {field : Option α} {f : α → β} :
    (field.map f).toList ≠ [] ↔ field.isSome = true := by
  cases field <;> simp

theorem append_ne_nil_iff {α : Type} {as bs : List α} : as ++ bs ≠ [] ↔ as ≠ [] ∨ bs ≠ [] := by
  rw [ne_eq, List.append_eq_nil_iff, not_and_or]

theorem Http.Method.isSome_ofText?_iff (text : String) :
    (Method.ofText? text).isSome = true ↔
      text.toList ≠ [] ∧ text.toList.all isTokenChar = true := by
  unfold Method.ofText?
  split <;> simp_all

theorem Pattern.isSome_ofText?_iff (text : String) :
    (Pattern.ofText? text).isSome = true ↔ Pattern.isValid text = true := by
  unfold Pattern.ofText?
  split <;> simp_all

/-! ### Requests -/

namespace RequestMatch

theorem ofSpecs?_eq (specs : Option (List RequestMatchSpec)) :
    RequestMatch.ofSpecs? specs = specs.mapM RequestMatch.ofList? := by
  cases specs with
  | none => rfl
  | some specs => rw [RequestMatch.ofSpecs?, Option.mapM_some]; rfl

theorem ofNot?_eq (spec : Option RequestMatchSpec) :
    RequestMatch.ofNot? spec = spec.mapM RequestMatch.ofSpec? := by
  cases spec with
  | none => rfl
  | some spec => rw [RequestMatch.ofNot?, Option.mapM_some]; rfl

/-- A condition can be used if the conditions of its fields can and it is sensible itself. -/
theorem isSome_ofSpec?_fields (spec : RequestMatchSpec) :
    (RequestMatch.ofSpec? spec).isSome = true ↔
      (RequestMatch.ofSpecs? spec.all).isSome = true ∧
      (RequestMatch.ofSpecs? spec.any).isSome = true ∧
      (RequestMatch.ofNot? spec.not).isSome = true ∧ spec.Sensible := by
  obtain ⟨allOf, anyOf, negated, pathRegex, token⟩ := spec
  rw [RequestMatch.ofSpec?]
  simp only [ofSpecs?_eq, ofNot?_eq]
  refine (isSome_bind_iff Iff.rfl fun all' hall => isSome_bind_iff Iff.rfl fun any' hany =>
    isSome_bind_iff Iff.rfl fun not' hnot =>
    isSome_bind_iff (isSome_mapM_iff fun text => Method.isSome_ofText?_iff _) fun method hmethod =>
    isSome_bind_iff (isSome_mapM_iff Pattern.isSome_ofText?_iff) fun path hpath =>
    isSome_conjunction?_iff.trans
      (c := RequestMatchSpec.HasField ⟨allOf, anyOf, negated, pathRegex, token⟩) ?_).trans ?_
  · simp only [append_ne_nil_iff, toList_map_ne_nil, isSome_of_mapM hall, isSome_of_mapM hany,
      isSome_of_mapM hmethod, isSome_of_mapM hnot, isSome_of_mapM hpath, or_assoc,
      RequestMatchSpec.HasField]
  · refine and_congr_right fun _ => and_congr_right fun _ => and_congr_right fun _ => ?_
    exact ⟨fun ⟨hmethod, hpath, hfield⟩ => ⟨hfield, hpath, hmethod⟩,
      fun ⟨hfield, hpath, hmethod⟩ => ⟨hmethod, hpath, hfield⟩⟩

mutual

/-- A condition can be used exactly if all conditions in it are sensible. -/
theorem isSome_ofSpec?_iff : ∀ spec : RequestMatchSpec,
    (RequestMatch.ofSpec? spec).isSome = true ↔ ∀ node ∈ spec.nodes, node.Sensible
  | ⟨allOf, anyOf, negated, pathRegex, token⟩ => by
    rw [isSome_ofSpec?_fields, isSome_ofSpecs?_iff allOf, isSome_ofSpecs?_iff anyOf,
      isSome_ofNot?_iff negated, RequestMatchSpec.nodes, List.forall_mem_cons,
      List.forall_mem_append, List.forall_mem_append]
    tauto

theorem isSome_ofSpecs?_iff : ∀ specs : Option (List RequestMatchSpec),
    (RequestMatch.ofSpecs? specs).isSome = true ↔
      ∀ node ∈ RequestMatchSpec.nodesOf? specs, node.Sensible
  | none => by simp [RequestMatch.ofSpecs?, RequestMatchSpec.nodesOf?]
  | some specs => by
    rw [RequestMatch.ofSpecs?, Option.isSome_map, isSome_ofList?_iff specs,
      RequestMatchSpec.nodesOf?]

theorem isSome_ofNot?_iff : ∀ spec : Option RequestMatchSpec,
    (RequestMatch.ofNot? spec).isSome = true ↔
      ∀ node ∈ RequestMatchSpec.nodesOfNot? spec, node.Sensible
  | none => by simp [RequestMatch.ofNot?, RequestMatchSpec.nodesOfNot?]
  | some spec => by
    rw [RequestMatch.ofNot?, Option.isSome_map, isSome_ofSpec?_iff spec,
      RequestMatchSpec.nodesOfNot?]

theorem isSome_ofList?_iff : ∀ specs : List RequestMatchSpec,
    (RequestMatch.ofList? specs).isSome = true ↔
      ∀ node ∈ RequestMatchSpec.nodesOfAll specs, node.Sensible
  | [] => by simp [RequestMatch.ofList?, RequestMatchSpec.nodesOfAll]
  | spec :: specs => by
    rw [RequestMatch.ofList?, RequestMatchSpec.nodesOfAll, List.forall_mem_append,
      ← isSome_ofSpec?_iff spec, ← isSome_ofList?_iff specs]
    refine isSome_bind_iff Iff.rfl fun m _ => ?_
    cases RequestMatch.ofList? specs <;> rfl

end

end RequestMatch

/-! ### Responses -/

theorem isSome_statusBounds?_iff (range : StatusRange) :
    (statusBounds? range).isSome = true ↔ range.min.getD 100 ≤ range.max.getD 599 := by
  change _ ↔ range.min.getD lowestStatus ≤ range.max.getD highestStatus
  simp [statusBounds?]

namespace ResponseMatch

theorem ofSpecs?_eq (specs : Option (List ResponseMatchSpec)) :
    ResponseMatch.ofSpecs? specs = specs.mapM ResponseMatch.ofList? := by
  cases specs with
  | none => rfl
  | some specs => rw [ResponseMatch.ofSpecs?, Option.mapM_some]; rfl

theorem ofNot?_eq (spec : Option ResponseMatchSpec) :
    ResponseMatch.ofNot? spec = spec.mapM ResponseMatch.ofSpec? := by
  cases spec with
  | none => rfl
  | some spec => rw [ResponseMatch.ofNot?, Option.mapM_some]; rfl

/-- A condition can be used if the conditions of its fields can and it is sensible itself. -/
theorem isSome_ofSpec?_fields (spec : ResponseMatchSpec) :
    (ResponseMatch.ofSpec? spec).isSome = true ↔
      (ResponseMatch.ofSpecs? spec.all).isSome = true ∧
      (ResponseMatch.ofSpecs? spec.any).isSome = true ∧
      (ResponseMatch.ofNot? spec.not).isSome = true ∧ spec.Sensible := by
  obtain ⟨allOf, anyOf, negated, range⟩ := spec
  rw [ResponseMatch.ofSpec?]
  simp only [ofSpecs?_eq, ofNot?_eq]
  refine (isSome_bind_iff Iff.rfl fun all' hall => isSome_bind_iff Iff.rfl fun any' hany =>
    isSome_bind_iff Iff.rfl fun not' hnot =>
    isSome_bind_iff (isSome_mapM_iff isSome_statusBounds?_iff) fun bounds hbounds =>
    isSome_conjunction?_iff.trans
      (c := ResponseMatchSpec.HasField ⟨allOf, anyOf, negated, range⟩) ?_).trans ?_
  · simp only [append_ne_nil_iff, toList_map_ne_nil, isSome_of_mapM hall, isSome_of_mapM hany,
      isSome_of_mapM hnot, isSome_of_mapM hbounds, or_assoc, ResponseMatchSpec.HasField]
  · refine and_congr_right fun _ => and_congr_right fun _ => and_congr_right fun _ => ?_
    exact ⟨fun ⟨hstatus, hfield⟩ => ⟨hfield, hstatus⟩, fun ⟨hfield, hstatus⟩ => ⟨hstatus, hfield⟩⟩

mutual

/-- A condition can be used exactly if all conditions in it are sensible. -/
theorem isSome_ofSpec?_iff : ∀ spec : ResponseMatchSpec,
    (ResponseMatch.ofSpec? spec).isSome = true ↔ ∀ node ∈ spec.nodes, node.Sensible
  | ⟨allOf, anyOf, negated, range⟩ => by
    rw [isSome_ofSpec?_fields, isSome_ofSpecs?_iff allOf, isSome_ofSpecs?_iff anyOf,
      isSome_ofNot?_iff negated, ResponseMatchSpec.nodes, List.forall_mem_cons,
      List.forall_mem_append, List.forall_mem_append]
    tauto

theorem isSome_ofSpecs?_iff : ∀ specs : Option (List ResponseMatchSpec),
    (ResponseMatch.ofSpecs? specs).isSome = true ↔
      ∀ node ∈ ResponseMatchSpec.nodesOf? specs, node.Sensible
  | none => by simp [ResponseMatch.ofSpecs?, ResponseMatchSpec.nodesOf?]
  | some specs => by
    rw [ResponseMatch.ofSpecs?, Option.isSome_map, isSome_ofList?_iff specs,
      ResponseMatchSpec.nodesOf?]

theorem isSome_ofNot?_iff : ∀ spec : Option ResponseMatchSpec,
    (ResponseMatch.ofNot? spec).isSome = true ↔
      ∀ node ∈ ResponseMatchSpec.nodesOfNot? spec, node.Sensible
  | none => by simp [ResponseMatch.ofNot?, ResponseMatchSpec.nodesOfNot?]
  | some spec => by
    rw [ResponseMatch.ofNot?, Option.isSome_map, isSome_ofSpec?_iff spec,
      ResponseMatchSpec.nodesOfNot?]

theorem isSome_ofList?_iff : ∀ specs : List ResponseMatchSpec,
    (ResponseMatch.ofList? specs).isSome = true ↔
      ∀ node ∈ ResponseMatchSpec.nodesOfAll specs, node.Sensible
  | [] => by simp [ResponseMatch.ofList?, ResponseMatchSpec.nodesOfAll]
  | spec :: specs => by
    rw [ResponseMatch.ofList?, ResponseMatchSpec.nodesOfAll, List.forall_mem_append,
      ← isSome_ofSpec?_iff spec, ← isSome_ofList?_iff specs]
    refine isSome_bind_iff Iff.rfl fun m _ => ?_
    cases ResponseMatch.ofList? specs <;> rfl

end

end ResponseMatch

/-! ## Routes -/

/-- A class of responses as the profile keeps it. -/
structure Cluster.ResponseClassSpec.Becomes (c : ResponseClassSpec) (kept : ResponseClass) :
    Prop where
  condition : ResponseMatch.ofSpec? c.condition = some kept.condition
  isFailure : kept.isFailure = c.isFailure

/-- A route as the profile keeps it. -/
structure Cluster.RouteSpec.Becomes (r : Cluster.RouteSpec) (kept : MeshDestination.RouteSpec) :
    Prop where
  name : kept.name = r.name
  isRetryable : kept.isRetryable = r.isRetryable
  condition : RequestMatch.ofSpec? r.condition = some kept.condition
  classes : List.Forall₂ ResponseClassSpec.Becomes r.responseClasses kept.responseClasses
  timeout : kept.timeout.map Except.ok = r.timeout.map Duration.parse

theorem durationOf_eq_ok {text : String} {d : Duration} :
    durationOf text = .ok d ↔ Duration.parse text = .ok d := by
  unfold durationOf
  split <;> simp_all

theorem ResponseClass.ofSpec?_eq_some {c : ResponseClassSpec} {kept : ResponseClass} :
    ResponseClass.ofSpec? c = some kept ↔ c.Becomes kept := by
  rw [ResponseClass.ofSpec?, Option.map_eq_some_iff]
  constructor
  · rintro ⟨condition, hcondition, rfl⟩
    exact ⟨hcondition, rfl⟩
  · rintro ⟨hcondition, hfailure⟩
    exact ⟨kept.condition, hcondition, by rw [← hfailure]⟩

theorem mapM_eq_some_iff_forall₂ {α β : Type} {f : α → Option β} {as : List α} {bs : List β} :
    as.mapM f = some bs ↔ List.Forall₂ (fun a b => f a = some b) as bs := by
  induction as generalizing bs with
  | nil => simp [eq_comm]
  | cons a as ih =>
    rw [List.mapM_cons]
    simp only [Option.bind_eq_bind, Option.bind_eq_some_iff, Option.pure_def, Option.some.injEq]
    constructor
    · rintro ⟨b, hb, bs, hbs, rfl⟩
      exact .cons hb (ih.mp hbs)
    · rintro (_ | ⟨hb, hbs⟩)
      exact ⟨_, hb, _, ih.mpr hbs, rfl⟩

theorem mapM_durationOf_eq_ok {timeout : Option String} {d : Option Duration} :
    timeout.mapM durationOf = .ok d ↔ d.map Except.ok = timeout.map Duration.parse := by
  cases timeout with
  | none => cases d <;> simp [pure, Except.pure]
  | some text =>
    rw [Option.mapM_some]
    cases hread : durationOf text with
    | ok d' =>
      rw [durationOf_eq_ok] at hread
      cases d <;> simp [hread, Functor.map, Except.map, eq_comm]
    | error fault =>
      have hnone (d : Duration) : Duration.parse text ≠ .ok d := fun hd => by
        cases (durationOf_eq_ok.mpr hd).symm.trans hread
      cases d <;> simp [Functor.map, Except.map, (hnone _).symm]

/-- What a profile keeps of a route. -/
theorem RouteSpec.ofSpec_eq_ok {r : Cluster.RouteSpec} {route : RouteSpec} :
    RouteSpec.ofSpec r = .ok route ↔ r.Becomes route := by
  have hclasses (classes : List ResponseClass) :
      r.responseClasses.mapM ResponseClass.ofSpec? = some classes ↔
        List.Forall₂ ResponseClassSpec.Becomes r.responseClasses classes := by
    simp only [mapM_eq_some_iff_forall₂, ResponseClass.ofSpec?_eq_some]
  unfold RouteSpec.ofSpec
  constructor
  · intro h
    split at h
    · next condition classes hcondition hkept =>
      cases htimeout : r.timeout.mapM durationOf with
      | error fault =>
        rw [htimeout] at h
        cases h
      | ok timeout =>
        rw [htimeout] at h
        cases h
        exact ⟨rfl, rfl, hcondition, (hclasses _).mp hkept, mapM_durationOf_eq_ok.mp htimeout⟩
    · cases h
  · rintro ⟨hname, hretryable, hcondition, hkept, htimeout⟩
    rw [hcondition, (hclasses _).mpr hkept, mapM_durationOf_eq_ok.mpr htimeout, ← hname,
      ← hretryable]
    rfl

end MeshDestination
