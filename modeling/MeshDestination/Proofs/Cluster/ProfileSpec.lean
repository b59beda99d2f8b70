import MeshDestination.Cluster.ProfileSpec
import MeshDestination.Proofs.Json.Record
import MeshDestination.Proofs.Number.Binary

/-!
# Profiles are read back

What a profile states is written as a record of the fields that are set, and so are its routes and,
at every depth, their conditions (`RequestMatchSpec.toJson_eq`). Reading such a record finds what is
set as set and what is left out as unset, so that a document gives back what was written into it
(`ServiceProfileSpec.survives_document`). Numbers must be of the formats that the resource has for
them (`ServiceProfileSpec.Fits`), and a retry ratio is read back as a number that compares equal.
-/

namespace MeshDestination.Cluster

open Number

/-! ## Fields -/

theorem field?_eq {α : Type} (name : String) (write : α → Json) (value : Option α) :
    field? name write value = (value.map write).toList.map (name, ·) := by
  cases value <;> rfl

theorem flag_eq (name : String) (b : Bool) :
    flag name b = (if b then some (Json.bool true) else none).toList.map (name, ·) := by
  cases b <;> rfl

section Values

variable {α : Type} {read : Json → Option α} {write : α → Json} {fuel : Nat}
  {fields : List (String × Option Json)} {name : String}

theorem list?_map {l : List α} (h : ∀ a ∈ l, read (write a) = some a) :
    list? read (.arr (l.map write)) = some l := by
  change (l.map write).mapM read = some l
  rw [mapM_map_eq_some h, List.map_id']

theorem withDefault_list? {l : List α} (h : ∀ a ∈ l, read (write a) = some a) :
    Json.withDefault [] (list? read)
      (if l.isEmpty then none else some (.arr (l.map write))) = some l := by
  cases l with
  | nil => rfl
  | cons a l => exact list?_map h

/-- A field of a record is read back if values that are less deep than the record are. -/
theorem optional_field {value : Option α} (hnull : ∀ a, write a ≠ .null)
    (hdepth : (Json.obj (Json.present fields)).depth ≤ fuel)
    (hfield : (name, value.map write) ∈ fields)
    (h : ∀ a, value = some a → (write a).depth < fuel → read (write a) = some a) :
    Json.optional read (value.map write) = some value := by
  refine Json.optional_map hnull fun a ha => h a ha ?_
  rw [ha] at hfield
  exact Nat.lt_of_lt_of_le (Json.depth_lt_present hfield) hdepth

/-- The same of a field that holds a list. An empty list is not taken for an unset one. -/
theorem optional_listField {value : Option (List α)}
    (hdepth : (Json.obj (Json.present fields)).depth ≤ fuel)
    (hfield : (name, value.map fun l => .arr (l.map write)) ∈ fields)
    (h : ∀ l, value = some l → ∀ a ∈ l, (write a).depth < fuel → read (write a) = some a) :
    Json.optional (list? read) (value.map fun l => .arr (l.map write)) = some value := by
  refine optional_field nofun hdepth hfield fun l hl hless => list?_map fun a ha => ?_
  exact h l hl a ha (Nat.lt_trans (Json.depth_lt_arr (List.mem_map_of_mem ha)) hless)

end Values

/-! ## Conditions on requests -/

namespace RequestMatchSpec

theorem sizeOf_lt_of_mem {m m' : RequestMatchSpec} {ms : List RequestMatchSpec}
    (h : m.all = some ms ∨ m.any = some ms) (hm : m' ∈ ms) : sizeOf m' < sizeOf m := by
  have hms := List.sizeOf_lt_of_mem hm
  obtain ⟨all, any, not, pathRegex, method⟩ := m
  rcases h with rfl | rfl <;> simp only [mk.sizeOf_spec, Option.some.sizeOf_spec] <;> omega

theorem sizeOf_lt_of_not {m m' : RequestMatchSpec} (h : m.not = some m') :
    sizeOf m' < sizeOf m := by
  obtain ⟨all, any, not, pathRegex, method⟩ := m
  cases h
  simp only [mk.sizeOf_spec, Option.some.sizeOf_spec]
  omega

/-- What holds of a condition whenever it holds of the conditions in it, holds of all. -/
theorem induct {P : RequestMatchSpec → Prop}
    (step : ∀ m : RequestMatchSpec,
      (∀ ms, m.all = some ms ∨ m.any = some ms → ∀ m' ∈ ms, P m') →
      (∀ m', m.not = some m' → P m') → P m)
    (m : RequestMatchSpec) : P m :=
  step m (fun _ _ m' _ => induct step m') (fun m' _ => induct step m')
termination_by sizeOf m
decreasing_by
  · exact sizeOf_lt_of_mem ‹_› ‹_›
  · exact sizeOf_lt_of_not ‹_›

theorem toJsonAll_eq (ms : List RequestMatchSpec) : toJsonAll ms = ms.map toJson := by
  induction ms with
  | nil => rfl
  | cons m ms ih => rw [toJsonAll, ih, List.map_cons]

/-- The fields of a condition. -/
def fields (m : RequestMatchSpec) : List (String × Option Json) :=
  [("all", m.all.map fun ms => .arr (ms.map toJson)),
    ("any", m.any.map fun ms => .arr (ms.map toJson)), ("not", m.not.map toJson),
    ("pathRegex", m.pathRegex.map .str), ("method", m.method.map .str)]

theorem toJson_eq (m : RequestMatchSpec) : m.toJson = .obj (Json.present m.fields) := by
  obtain ⟨all, any, not, pathRegex, method⟩ := m
  cases all <;> cases any <;> cases not <;>
    simp [toJson, listField, notField, toJsonAll_eq, field?_eq, fields, Json.present]

theorem toJson_ne_null (m : RequestMatchSpec) : m.toJson ≠ .null := by
  rw [toJson_eq]
  nofun

theorem record?_toJson (m : RequestMatchSpec) :
    m.toJson.record? ["all", "any", "not", "pathRegex", "method"] =
      some (m.fields.map (·.2)) := by
  have hnames : ["all", "any", "not", "pathRegex", "method"].Nodup := by decide
  rw [toJson_eq]
  exact Json.record?_present m.fields hnames

/-- A condition is read back with enough fuel for its depth. -/
theorem read_toJson (m : RequestMatchSpec) :
    ∀ fuel, m.toJson.depth < fuel → read fuel m.toJson = some m := by
  induction m using induct with
  | step m lists not =>
    intro fuel hfuel
    obtain ⟨fuel, rfl⟩ : ∃ k, fuel = k + 1 := ⟨fuel - 1, by omega⟩
    have hdepth : (Json.obj (Json.present m.fields)).depth ≤ fuel := by
      rw [← toJson_eq]
      exact Nat.le_of_lt_succ hfuel
    have hall : Json.optional (list? (read fuel)) (m.all.map fun ms => .arr (ms.map toJson)) =
        some m.all :=
      optional_listField hdepth (List.mem_cons_self ..)
        fun ms hms m' hm' => lists ms (.inl hms) m' hm' fuel
    have hany : Json.optional (list? (read fuel)) (m.any.map fun ms => .arr (ms.map toJson)) =
        some m.any :=
      optional_listField hdepth (.tail _ (.head _))
        fun ms hms m' hm' => lists ms (.inr hms) m' hm' fuel
    have hnot : Json.optional (read fuel) (m.not.map toJson) = some m.not :=
      optional_field toJson_ne_null hdepth (.tail _ (.tail _ (.head _)))
        fun m' hm' => not m' hm' fuel
    rw [read, record?_toJson]
    simp only [fields, List.map_cons, List.map_nil, hall, hany, hnot, Json.optional_text,
      Option.bind_eq_bind, Option.bind_some]
    cases m
    rfl

theorem ofJson?_toJson (m : RequestMatchSpec) : ofJson? m.toJson = some m :=
  m.read_toJson _ (Nat.lt_succ_self _)

end RequestMatchSpec

/-! ## Conditions on responses -/

/-- Status codes have 16 bits. -/
structure StatusRange.Fits (s : StatusRange) : Prop where
  min : ∀ n, s.min = some n → n ≤ 65535
  max : ∀ n, s.max = some n → n ≤ 65535

theorem StatusRange.ofJson?_toJson {s : StatusRange} (h : s.Fits) :
    ofJson? s.toJson = some s := by
  have hnames : ["min", "max"].Nodup := by decide
  have hfields : s.toJson =
      .obj (Json.present [("min", s.min.map .ofNat), ("max", s.max.map .ofNat)]) := by
    simp [toJson, field?_eq, Json.present]
  have hrecord : s.toJson.record? ["min", "max"] = some [s.min.map .ofNat, s.max.map .ofNat] := by
    rw [hfields]
    exact Json.record?_present _ hnames
  have hmin : Json.optional (Json.nat? 65535) (s.min.map .ofNat) = some s.min :=
    Json.optional_map Json.ofNat_ne_null fun n hn => Json.nat?_ofNat (h.min n hn)
  have hmax : Json.optional (Json.nat? 65535) (s.max.map .ofNat) = some s.max :=
    Json.optional_map Json.ofNat_ne_null fun n hn => Json.nat?_ofNat (h.max n hn)
  rw [ofJson?, hrecord]
  simp only [hmin, hmax, Option.bind_eq_bind, Option.bind_some]

namespace ResponseMatchSpec

/-- The status codes of a condition have 16 bits, at every depth. -/
inductive Fits : ResponseMatchSpec → Prop
  | mk (m : ResponseMatchSpec)
    (lists : ∀ ms, m.all = some ms ∨ m.any = some ms → ∀ m' ∈ ms, Fits m')
    (not : ∀ m', m.not = some m' → Fits m') (status : ∀ s, m.status = some s → s.Fits) : Fits m

theorem toJsonAll_eq (ms : List ResponseMatchSpec) : toJsonAll ms = ms.map toJson := by
  induction ms with
  | nil => rfl
  | cons m ms ih => rw [toJsonAll, ih, List.map_cons]

/-- The fields of a condition. -/
def fields (m : ResponseMatchSpec) : List (String × Option Json) :=
  [("all", m.all.map fun ms => .arr (ms.map toJson)),
    ("any", m.any.map fun ms => .arr (ms.map toJson)), ("not", m.not.map toJson),
    ("status", m.status.map StatusRange.toJson)]

theorem toJson_eq (m : ResponseMatchSpec) : m.toJson = .obj (Json.present m.fields) := by
  obtain ⟨all, any, not, status⟩ := m
  cases all <;> cases any <;> cases not <;>
    simp [toJson, listField, notField, toJsonAll_eq, field?_eq, fields, Json.present]

theorem toJson_ne_null (m : ResponseMatchSpec) : m.toJson ≠ .null := by
  rw [toJson_eq]
  nofun

theorem record?_toJson (m : ResponseMatchSpec) :
    m.toJson.record? ["all", "any", "not", "status"] = some (m.fields.map (·.2)) := by
  have hnames : ["all", "any", "not", "status"].Nodup := by decide
  rw [toJson_eq]
  exact Json.record?_present m.fields hnames

/-- A condition is read back with enough fuel for its depth. -/
theorem read_toJson {m : ResponseMatchSpec} (h : m.Fits) :
    ∀ fuel, m.toJson.depth < fuel → read fuel m.toJson = some m := by
  induction h with
  | mk m _ _ status lists not =>
    intro fuel hfuel
    obtain ⟨fuel, rfl⟩ : ∃ k, fuel = k + 1 := ⟨fuel - 1, by omega⟩
    have hdepth : (Json.obj (Json.present m.fields)).depth ≤ fuel := by
      rw [← toJson_eq]
      exact Nat.le_of_lt_succ hfuel
    have hall : Json.optional (list? (read fuel)) (m.all.map fun ms => .arr (ms.map toJson)) =
        some m.all :=
      optional_listField hdepth (.head _)
        fun ms hms m' hm' => lists ms (.inl hms) m' hm' fuel
    have hany : Json.optional (list? (read fuel)) (m.any.map fun ms => .arr (ms.map toJson)) =
        some m.any :=
      optional_listField hdepth (.tail _ (.head _))
        fun ms hms m' hm' => lists ms (.inr hms) m' hm' fuel
    have hnot : Json.optional (read fuel) (m.not.map toJson) = some m.not :=
      optional_field toJson_ne_null hdepth (.tail _ (.tail _ (.head _)))
        fun m' hm' => not m' hm' fuel
    have hstatus : Json.optional StatusRange.ofJson? (m.status.map StatusRange.toJson) =
        some m.status :=
      Json.optional_map nofun fun s hs => StatusRange.ofJson?_toJson (status s hs)
    rw [read, record?_toJson]
    simp only [fields, List.map_cons, List.map_nil, hall, hany, hnot, hstatus,
      Option.bind_eq_bind, Option.bind_some]
    cases m
    rfl

theorem ofJson?_toJson {m : ResponseMatchSpec} (h : m.Fits) : ofJson? m.toJson = some m :=
  read_toJson h _ (Nat.lt_succ_self _)

end ResponseMatchSpec

/-! ## Routes and budgets -/

theorem ResponseClassSpec.ofJson?_toJson {c : ResponseClassSpec} (h : c.condition.Fits) :
    ofJson? c.toJson = some c := by
  have hnames : ["condition", "isFailure"].Nodup := by decide
  have hfields : c.toJson = .obj (Json.present [("condition", some c.condition.toJson),
      ("isFailure", if c.isFailure then some (.bool true) else none)]) := by
    simp [toJson, flag_eq, Json.present]
  have hrecord : c.toJson.record? ["condition", "isFailure"] =
      some [some c.condition.toJson, if c.isFailure then some (.bool true) else none] := by
    rw [hfields]
    exact Json.record?_present _ hnames
  rw [ofJson?, hrecord]
  simp only [Json.required, ResponseMatchSpec.ofJson?_toJson h, Json.withDefault_flag,
    Option.bind_eq_bind, Option.bind_some]

/-- The fields of a route. -/
def RouteSpec.fields (r : RouteSpec) : List (String × Option Json) :=
  [("name", some (.str r.name)), ("condition", some r.condition.toJson),
    ("responseClasses", if r.responseClasses.isEmpty then none
      else some (.arr (r.responseClasses.map ResponseClassSpec.toJson))),
    ("isRetryable", if r.isRetryable then some (.bool true) else none),
    ("timeout", r.timeout.map .str)]

theorem RouteSpec.toJson_eq (r : RouteSpec) : r.toJson = .obj (Json.present r.fields) := by
  cases hclasses : r.responseClasses.isEmpty <;>
    simp [toJson, flag_eq, field?_eq, fields, Json.present, hclasses]

theorem RouteSpec.ofJson?_toJson {r : RouteSpec}
    (h : ∀ c ∈ r.responseClasses, c.condition.Fits) : ofJson? r.toJson = some r := by
  have hnames : ["name", "condition", "responseClasses", "isRetryable", "timeout"].Nodup := by
    decide
  have hrecord : r.toJson.record?
      ["name", "condition", "responseClasses", "isRetryable", "timeout"] =
        some (r.fields.map (·.2)) := by
    rw [toJson_eq]
    exact Json.record?_present r.fields hnames
  have hclasses := withDefault_list? fun c hc => ResponseClassSpec.ofJson?_toJson (h c hc)
  rw [ofJson?, hrecord]
  simp only [fields, List.map_cons, List.map_nil, Json.required, Json.text?,
    RequestMatchSpec.ofJson?_toJson, hclasses, Json.withDefault_flag, Json.optional_text,
    Option.bind_eq_bind, Option.bind_some]

/-- A ratio is a finite number of single precision, a rate a number of 32 bits. -/
structure RetryBudgetSpec.Fits (b : RetryBudgetSpec) : Prop where
  ratio : b.retryRatio.IsOf .single
  finite : ∃ s m e, b.retryRatio = .finite s m e
  rate : b.minRetriesPerSecond ≤ 4294967295

/-- Budgets are equal if their ratios compare equal and they do not differ in what else they
state. -/
structure RetryBudgetSpec.Equal (b b' : RetryBudgetSpec) : Prop where
  ratio : b.retryRatio.beq b'.retryRatio = true
  rate : b.minRetriesPerSecond = b'.minRetriesPerSecond
  ttl : b.ttl = b'.ttl

theorem RetryBudgetSpec.exists_equal {b : RetryBudgetSpec} (h : b.Fits) :
    ∃ b', ofJson? b.toJson = some b' ∧ b.Equal b' := by
  have hnames : ["retryRatio", "minRetriesPerSecond", "ttl"].Nodup := by decide
  have hrecord : b.toJson.record? ["retryRatio", "minRetriesPerSecond", "ttl"] =
      some [some (.ofBinary b.retryRatio), some (.ofNat b.minRetriesPerSecond),
        some (.str b.ttl)] :=
    Json.record?_present [("retryRatio", some (.ofBinary b.retryRatio)),
      ("minRetriesPerSecond", some (.ofNat b.minRetriesPerSecond)), ("ttl", some (.str b.ttl))]
      hnames
  obtain ⟨s, m, e, hfinite⟩ := h.finite
  have hratio : b.retryRatio.beq (b.retryRatio.toFormat .single) = true := by
    have hof := h.ratio
    rw [hfinite] at hof ⊢
    exact Binary.beq_toFormat_of_isOf hof
  have hread : (Json.ofBinary b.retryRatio).binary? .single =
      some (b.retryRatio.toFormat .single) := by
    rw [hfinite]
    rfl
  refine ⟨{ b with retryRatio := b.retryRatio.toFormat .single }, ?_, hratio, rfl, rfl⟩
  rw [ofJson?, hrecord]
  simp only [Json.required, hread, Json.nat?_ofNat h.rate, Json.text?, Option.bind_eq_bind,
    Option.bind_some]

/-! ## Profiles -/

namespace ServiceProfileSpec

/-- The numbers of a profile are of the formats that the resource has for them. -/
structure Fits (s : ServiceProfileSpec) : Prop where
  routes : ∀ r ∈ s.routes, ∀ c ∈ r.responseClasses, c.condition.Fits
  retryBudget : ∀ b, s.retryBudget = some b → b.Fits

/-- Profiles are equal if they state the same routes, and equal budgets or none. -/
structure Equal (s s' : ServiceProfileSpec) : Prop where
  routes : s.routes = s'.routes
  retryBudget : Option.Rel RetryBudgetSpec.Equal s.retryBudget s'.retryBudget

/-- What a budget is read back as, if there is one. -/
theorem exists_optional_retryBudget {s : ServiceProfileSpec} (h : s.Fits) :
    ∃ budget, Json.optional RetryBudgetSpec.ofJson? (s.retryBudget.map RetryBudgetSpec.toJson) =
      some budget ∧ Option.Rel RetryBudgetSpec.Equal s.retryBudget budget := by
  cases hb : s.retryBudget with
  | none => exact ⟨none, rfl, .none⟩
  | some b =>
    obtain ⟨b', hread, hequal⟩ := RetryBudgetSpec.exists_equal (h.retryBudget b hb)
    have hnull : b.toJson ≠ .null := nofun
    refine ⟨some b', ?_, .some hequal⟩
    rw [Option.map_some, Json.optional, Json.nullable_of_ne_null hnull, hread]
    rfl

/-- What a profile states is read back from its document: a profile that is equal to it. -/
theorem survives_document {s : ServiceProfileSpec} (h : s.Fits) :
    ∃ s', ofJson? s.toJson = some s' ∧ s.Equal s' := by
  have hnames : ["routes", "retryBudget"].Nodup := by decide
  have hfields : s.toJson = .obj (Json.present [
      ("routes", if s.routes.isEmpty then none else some (.arr (s.routes.map RouteSpec.toJson))),
      ("retryBudget", s.retryBudget.map RetryBudgetSpec.toJson)]) := by
    cases hroutes : s.routes.isEmpty <;> simp [toJson, field?_eq, Json.present, hroutes]
  have hrecord : s.toJson.record? ["routes", "retryBudget"] =
      some [if s.routes.isEmpty then none else some (.arr (s.routes.map RouteSpec.toJson)),
        s.retryBudget.map RetryBudgetSpec.toJson] := by
    rw [hfields]
    exact Json.record?_present _ hnames
  have hroutes := withDefault_list? fun r hr => RouteSpec.ofJson?_toJson (h.routes r hr)
  obtain ⟨budget, hbudget, hequal⟩ := exists_optional_retryBudget h
  refine ⟨⟨s.routes, budget⟩, ?_, rfl, hequal⟩
  rw [ofJson?, hrecord]
  simp only [hroutes, hbudget, Option.bind_eq_bind, Option.bind_some]

/-- Lists that are set but empty, a condition without fields in a negation and a range without
bounds are all read back as such, beside conditions that leave the same fields unset. The ratio is
a fifth in single precision. -/
theorem survives_document_empty :
    let route : RouteSpec :=
      { name := "GET /"
        condition := { all := some [], any := some [{ not := some {} }, {}] }
        responseClasses :=
          [{ condition := { any := some [{ status := some {} }, { all := some [] }] } },
            { condition := { status := some { min := some 500 } }, isFailure := true }] }
    let budget : RetryBudgetSpec := ⟨.finite false 13421773 (-26), 10, "10s"⟩
    let s : ServiceProfileSpec := { routes := [route], retryBudget := some budget }
    s.Fits ∧ ∃ s', ofJson? s.toJson = some s' ∧ s.Equal s' := by
  intro route budget s
  have hopen : ResponseMatchSpec.Fits { status := some {} } :=
    ⟨_, nofun, nofun, fun _ h => Option.some.inj h ▸ ⟨nofun, nofun⟩⟩
  have hall : ResponseMatchSpec.Fits { all := some [] } := by
    refine ⟨_, ?_, nofun, nofun⟩
    rintro _ (h | h) <;> cases h
    nofun
  have hany : ResponseMatchSpec.Fits
      { any := some [{ status := some {} }, { all := some [] }] } := by
    refine ⟨_, ?_, nofun, nofun⟩
    rintro _ (h | h) <;> cases h
    simp [hopen, hall]
  have herror : ResponseMatchSpec.Fits { status := some { min := some 500 } } :=
    ⟨_, nofun, nofun, fun _ h => Option.some.inj h ▸ ⟨by simp, nofun⟩⟩
  have hroutes : ∀ r ∈ s.routes, ∀ c ∈ r.responseClasses, c.condition.Fits := by
    simp [s, route, hany, herror]
  have hbudget : budget.Fits :=
    ⟨by simp [budget, Binary.IsOf, Format.single], ⟨_, _, _, rfl⟩, by simp [budget]⟩
  have hfits : s.Fits := ⟨hroutes, fun _ h => Option.some.inj h ▸ hbudget⟩
  exact ⟨hfits, survives_document hfits⟩

end ServiceProfileSpec

end MeshDestination.Cluster
