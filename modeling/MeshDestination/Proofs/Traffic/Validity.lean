import MeshDestination.Traffic.Summary

/-!
# Valid requests

What a request must be to be met, apart from the order in which its parts are checked. The checks
pass exactly the valid requests (`ListPodsRequest.selection_cases`, `SummaryRequest.plan_cases`),
and whatever they refuse they call invalid. Names of kinds lead to one kind (`Kind.ofName?_eq_some`)
and windows of time are read off their text (`isWindow_iff`).
-/

namespace MeshDestination.Traffic

/-! ## Names of kinds -/

namespace Kind

/-- The names that a request may give a kind. -/
def names (k : Kind) : List String := [k.shortName, k.name, k.plural]

theorem mem_all (k : Kind) : k ∈ all := by cases k <;> decide

/-- No name stands for two kinds. -/
theorem eq_of_mem_names {k l : Kind} {s : String} (hk : s ∈ k.names) (hl : s ∈ l.names) :
    k = l := by
  have h : ∀ k ∈ all, ∀ l ∈ all, ∀ s ∈ k.names, s ∈ l.names → k = l := by decide +kernel
  exact h k (mem_all k) l (mem_all l) s hk hl

theorem ofName?_eq (s : String) : ofName? s = all.find? fun k => k.names.contains s := by
  have hnamed : ∀ k : Kind, (s == k.shortName || s == k.name || s == k.plural) =
      k.names.contains s := by
    intro k
    rw [Bool.eq_iff_iff]
    simp [names, or_assoc]
  unfold ofName?
  simp only [hnamed]

theorem ofName?_eq_some {s : String} {k : Kind} : ofName? s = some k ↔ s ∈ k.names := by
  rw [ofName?_eq]
  constructor
  · intro h
    simpa using List.find?_some h
  · intro hk
    have hfound : (all.find? fun k => k.names.contains s).isSome = true :=
      List.find?_isSome.mpr ⟨k, mem_all k, List.contains_iff_mem.mpr hk⟩
    obtain ⟨l, hl⟩ := Option.isSome_iff_exists.mp hfound
    have hname : s ∈ l.names := by simpa using List.find?_some hl
    rw [hl, eq_of_mem_names hname hk]

/-- A name that some kind has. -/
def IsName (s : String) : Prop := ∃ k : Kind, s ∈ k.names

theorem ofName?_eq_none {s : String} : ofName? s = none ↔ ¬ IsName s := by
  rw [Option.eq_none_iff_forall_ne_some, IsName, not_exists]
  exact forall_congr' fun k => not_congr ofName?_eq_some

theorem not_isName_all : ¬ IsName "all" := by
  rw [← ofName?_eq_none]
  decide +kernel

theorem isSome_ofNames? {s : String} : (ofNames? s).isSome = true ↔ s = "all" ∨ IsName s := by
  unfold ofNames?
  split
  next hs => simp [hs]
  next hs => simp [hs, Option.isSome_iff_exists, ofName?_eq_some, IsName]

/-- Only everything is more than one kind. -/
theorem length_of_ofNames? {s : String} {kinds : List Kind} (h : ofNames? s = some kinds) :
    1 < kinds.length ↔ s = "all" := by
  unfold ofNames? at h
  split at h
  next hs =>
    cases h
    simp [hs, summarized]
  next hs =>
    obtain ⟨k, -, rfl⟩ := Option.map_eq_some_iff.mp h
    simpa using hs

end Kind

/-! ## Windows of time -/

/-- A window of time is a number other than zero, followed by its unit. -/
def IsWindow (s : String) : Prop :=
  ∃ digits : List Char, ∃ unit ∈ windowUnits, s.toList = digits ++ unit.toList ∧
    (∀ c ∈ digits, c.isDigit = true) ∧ ∃ c ∈ digits, c ≠ '0'

theorem takeWhile_isDigit_unit :
    ∀ unit ∈ windowUnits, unit.toList.takeWhile Char.isDigit = [] := by decide

theorem isWindow_iff {s : String} : isWindow s = true ↔ IsWindow s := by
  unfold isWindow
  rw [Bool.and_eq_true, List.any_eq_true, List.contains_iff_mem]
  constructor
  · rintro ⟨hpositive, hunit⟩
    refine ⟨s.toList.takeWhile Char.isDigit, _, hunit, ?_, ?_, ?_⟩
    · rw [String.toList_ofList]
      exact List.takeWhile_append_dropWhile.symm
    · exact List.all_eq_true.mp List.all_takeWhile
    · simpa using hpositive
  · rintro ⟨digits, unit, hunit, hs, hdigits, c, hc, hne⟩
    have htake : s.toList.takeWhile Char.isDigit = digits := by
      rw [hs, List.takeWhile_append_of_pos hdigits, takeWhile_isDigit_unit unit hunit,
        List.append_nil]
    have hdrop : s.toList.dropWhile Char.isDigit = unit.toList := by
      have hall : digits ++ s.toList.dropWhile Char.isDigit = digits ++ unit.toList := by
        rw [← hs, ← htake, List.takeWhile_append_dropWhile]
      exact List.append_cancel_left hall
    rw [htake, hdrop, String.ofList_toList]
    exact ⟨⟨c, hc, by simpa using hne⟩, hunit⟩

/-! ## Requests to list pods -/

/-- A request to list pods gives no type, or no namespace and a kind of which pods can be listed. -/
def ListPodsRequest.Valid (r : ListPodsRequest) : Prop :=
  ∀ type, r.type = some type → type ≠ "" →
    (∀ ns, r.ns = some ns → ns = "") ∧
      ∃ k : Kind, type ∈ k.names ∧ k ≠ .authority ∧ k ≠ .service ∧ k ≠ .serviceProfile

theorem Kind.hasPods_iff {k : Kind} :
    k.hasPods = true ↔ k ≠ .authority ∧ k ≠ .service ∧ k ≠ .serviceProfile := by
  cases k <;> decide

theorem ListPodsRequest.selection_cases (r : ListPodsRequest) :
    (∃ s, r.selection = .ok s ∧ r.Valid) ∨
      ∃ reason, r.selection = .error (.invalid reason) ∧ ¬ r.Valid := by
  by_cases htype : r.type.getD "" = ""
  · refine .inl ⟨none, by simp [selection, htype], ?_⟩
    rintro type hsome hne
    exact absurd (by simpa [hsome] using htype) hne
  -- a request with a type is told by its namespace and by the kind of the type's name
  obtain ⟨type, hsome, hne⟩ : ∃ type, r.type = some type ∧ type ≠ "" := by
    cases h : r.type with
    | none => simp [h] at htype
    | some type => exact ⟨type, rfl, by simpa [h] using htype⟩
  have hvalid : r.Valid ↔ r.namespaceText = "" ∧ ∃ k : Kind, type ∈ k.names ∧ k.hasPods = true := by
    have hns : (∀ ns, r.ns = some ns → ns = "") ↔ r.namespaceText = "" := by
      unfold namespaceText
      cases r.ns <;> simp
    simp [Valid, hsome, hne, hns, Kind.hasPods_iff]
  rw [hvalid]
  by_cases hns : r.namespaceText = ""
  · cases hk : Kind.ofName? type with
    | none =>
      refine .inr ⟨_, by simp [selection, hsome, hne, hns, hk]; rfl, ?_⟩
      rintro ⟨-, k, hname, -⟩
      exact Kind.ofName?_eq_none.mp hk ⟨k, hname⟩
    | some k =>
      have hname : type ∈ k.names := Kind.ofName?_eq_some.mp hk
      cases hpods : k.hasPods with
      | true =>
        exact .inl ⟨some ⟨k, r.selectedNs.getD "", r.selectedName.getD ""⟩,
          by simp [selection, hsome, hne, hns, hk, hpods], hns, k, hname, hpods⟩
      | false =>
        refine .inr ⟨_, by simp [selection, hsome, hne, hns, hk, hpods]; rfl, ?_⟩
        rintro ⟨-, l, hl, hlpods⟩
        rw [Kind.eq_of_mem_names hl hname, hpods] at hlpods
        exact absurd hlpods (by decide)
  · exact .inr ⟨_, by simp [selection, hsome, hne, hns]; rfl, fun h => hns h.1⟩

/-! ## Requests for a summary -/

/-- What a request for a summary must be. -/
structure SummaryRequest.Valid (r : SummaryRequest) : Prop where
  type : r.type = "all" ∨ Kind.IsName r.type
  ns : ¬ (r.allNamespaces = true ∧ r.ns ≠ "")
  name : ¬ (r.type = "all" ∧ r.name ≠ "")
  window : IsWindow r.window
  toType : ∀ type, r.toType = some type → type = "" ∨ Kind.IsName type

namespace SummaryRequest

theorem destination_cases (r : SummaryRequest) :
    (∃ d, r.destination = .ok d ∧ ∀ type, r.toType = some type → type = "" ∨ Kind.IsName type) ∨
      ∃ reason, r.destination = .error (.invalid reason) ∧
        ∃ type, r.toType = some type ∧ ¬ (type = "" ∨ Kind.IsName type) := by
  unfold destination
  cases htype : r.toType with
  | none => exact .inl ⟨none, rfl, by simp⟩
  | some type =>
    by_cases hempty : type = ""
    · exact .inl ⟨none, by simp [hempty], by simp [hempty]⟩
    by_cases hall : type = "all"
    · refine .inr ⟨_, by simp [hall]; rfl, type, rfl, ?_⟩
      exact fun h => h.elim hempty (hall ▸ Kind.not_isName_all)
    cases hk : Kind.ofName? type with
    | none =>
      refine .inr ⟨_, by simp [hempty, hall, hk]; rfl, type, rfl, ?_⟩
      exact fun h => h.elim hempty (Kind.ofName?_eq_none.mp hk)
    | some k =>
      refine .inl ⟨some ⟨k, r.toNs, r.toName⟩, by simp [hempty, hall, hk], ?_⟩
      rintro _ ⟨⟩
      exact .inr ⟨k, Kind.ofName?_eq_some.mp hk⟩

theorem plan_cases (r : SummaryRequest) :
    (∃ p, r.plan = .ok p ∧ r.Valid) ∨
      ∃ reason, r.plan = .error (.invalid reason) ∧ ¬ r.Valid := by
  unfold plan
  cases hkinds : Kind.ofNames? r.type with
  | none =>
    refine .inr ⟨_, rfl, fun h => ?_⟩
    have hsome := Kind.isSome_ofNames?.mpr h.type
    simp [hkinds] at hsome
  | some kinds =>
    have htype : r.type = "all" ∨ Kind.IsName r.type :=
      Kind.isSome_ofNames?.mp (by rw [hkinds]; rfl)
    have hname : (decide (1 < kinds.length) && !r.name.isEmpty) = true ↔
        r.type = "all" ∧ r.name ≠ "" := by
      simp [Kind.length_of_ofNames? hkinds]
    have hns : (r.allNamespaces && !r.ns.isEmpty) = true ↔ r.allNamespaces = true ∧ r.ns ≠ "" := by
      simp
    -- the parts are checked one after the other, and the first that fails gives the reason
    by_cases h₁ : r.allNamespaces = true ∧ r.ns ≠ ""
    · exact .inr ⟨_, if_pos (hns.mpr h₁), fun h => h.ns h₁⟩
    simp only [if_neg (mt hns.mp h₁)]
    by_cases h₂ : r.type = "all" ∧ r.name ≠ ""
    · exact .inr ⟨_, if_pos (hname.mpr h₂), fun h => h.name h₂⟩
    simp only [if_neg (mt hname.mp h₂)]
    by_cases h₃ : isWindow r.window = true
    · simp only [h₃]
      obtain ⟨d, hd, hvalid⟩ | ⟨reason, hd, type, hsome, hbad⟩ := r.destination_cases
      · exact .inl ⟨_, by rw [hd]; rfl, htype, h₁, h₂, isWindow_iff.mp h₃, hvalid⟩
      · exact .inr ⟨reason, by rw [hd]; rfl, fun h => hbad (h.toType type hsome)⟩
    · exact .inr ⟨_, by simp [h₃]; rfl, fun h => h₃ (isWindow_iff.mpr h.window)⟩

theorem valid_of_plan {r : SummaryRequest} {p : SummaryPlan} (h : r.plan = .ok p) : r.Valid := by
  obtain ⟨-, -, hvalid⟩ | ⟨reason, herror, -⟩ := r.plan_cases
  · exact hvalid
  · cases h.symm.trans herror

end SummaryRequest

end MeshDestination.Traffic
