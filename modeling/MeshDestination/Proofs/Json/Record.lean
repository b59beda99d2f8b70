import MeshDestination.Json.Basic

/-!
# Records are read back

A record is written with those of its fields that are present. It is read field by field, and a
field that is not there is absent again (`Json.record?_present`). A value lies less deep than the
array or the object it stands in, so that a reader whose depth is bounded may go into it.
-/

namespace MeshDestination

theorem mapM_map_eq_some {α β γ : Type} {f : β → Option γ} {g : α → β} {v : α → γ} {l : List α}
    (h : ∀ x ∈ l, f (g x) = some (v x)) : (l.map g).mapM f = some (l.map v) := by
  induction l with
  | nil => rfl
  | cons x l ih =>
    have hx := h x List.mem_cons_self
    have hl := ih fun y hy => h y (List.mem_cons_of_mem x hy)
    simp [hx, hl]

namespace Json

/-! ## Fields -/

/-- The fields that are present. -/
def present (fields : List (String × Option Json)) : List (String × Json) :=
  fields.flatMap fun f => f.2.toList.map (f.1, ·)

theorem filter_field (name name' : String) (value : Option Json) :
    (value.toList.map (name, ·)).filter (·.1 == name') =
      if name = name' then value.toList.map (name, ·) else [] := by
  cases value <;> simp [List.filter_cons]

theorem filter_present_of_notMem {fields : List (String × Option Json)} {name : String}
    (h : name ∉ fields.map (·.1)) : (present fields).filter (·.1 == name) = [] := by
  induction fields with
  | nil => rfl
  | cons f fields ih =>
    obtain ⟨hne, hrest⟩ := List.ne_and_not_mem_of_not_mem_cons h
    rw [present, List.flatMap_cons, List.filter_append, filter_field, if_neg hne.symm]
    exact ih hrest

/-- Where fields have names of their own, only the field of a name has the name. -/
theorem filter_present {fields : List (String × Option Json)} (h : (fields.map (·.1)).Nodup)
    {f : String × Option Json} (hf : f ∈ fields) :
    (present fields).filter (·.1 == f.1) = f.2.toList.map (f.1, ·) := by
  induction fields with
  | nil => cases hf
  | cons f' fields ih =>
    obtain ⟨hnew, hnodup⟩ := List.nodup_cons.mp h
    rw [present, List.flatMap_cons, List.filter_append, filter_field]
    rcases List.mem_cons.mp hf with rfl | hf
    · rw [if_pos rfl]
      exact (congrArg _ (filter_present_of_notMem hnew)).trans (List.append_nil _)
    · have hne : f'.1 ≠ f.1 := fun hne => hnew (List.mem_map.mpr ⟨f, hf, hne.symm⟩)
      rw [if_neg hne, List.nil_append]
      exact ih hnodup hf

/-- A record is read with the fields that it was written with. -/
theorem record?_present (fields : List (String × Option Json)) (h : (fields.map (·.1)).Nodup) :
    (Json.obj (present fields)).record? (fields.map (·.1)) = some (fields.map (·.2)) := by
  refine mapM_map_eq_some fun f hf => ?_
  rw [filter_present h hf]
  cases f.2 <;> rfl

/-! ## Values of fields -/

section Values

variable {α : Type} {read : Json → Option α} {write : α → Json} {value : Option α}

theorem nullable_of_ne_null {j : Json} (h : j ≠ .null) :
    Json.nullable read j = (read j).map some := by
  unfold Json.nullable
  split
  · exact absurd rfl h
  · rfl

/-- What is set is read back as set, and what is unset as unset. -/
theorem optional_map (hnull : ∀ a, write a ≠ .null)
    (h : ∀ a, value = some a → read (write a) = some a) :
    Json.optional read (value.map write) = some value := by
  cases value with
  | none => rfl
  | some a =>
    rw [Option.map_some, Json.optional, nullable_of_ne_null (hnull a), h a rfl]
    rfl

theorem optional_text (value : Option String) :
    Json.optional Json.text? (value.map .str) = some value :=
  optional_map nofun fun _ _ => rfl

/-- A truth value is written only if it holds. -/
theorem withDefault_flag (b : Bool) :
    Json.withDefault false Json.bool? (if b then some (.bool true) else none) = some b := by
  cases b <;> rfl

theorem ofNat_ne_null (n : Nat) : Json.ofNat n ≠ .null := nofun

theorem nat?_ofNat {n bound : Nat} (h : n ≤ bound) : (Json.ofNat n).nat? bound = some n := by
  change (if n ≤ bound then some n else none) = some n
  rw [if_pos h]

end Values

/-! ## Depth -/

theorem depth_le_depthItems {items : List Json} {j : Json} (h : j ∈ items) :
    j.depth ≤ depthItems items := by
  induction items with
  | nil => cases h
  | cons j' items ih =>
    rw [depthItems]
    rcases List.mem_cons.mp h with rfl | h
    · exact Nat.le_max_left _ _
    · exact Nat.le_trans (ih h) (Nat.le_max_right _ _)

theorem depth_lt_arr {items : List Json} {j : Json} (h : j ∈ items) :
    j.depth < (Json.arr items).depth := by
  rw [depth]
  exact Nat.lt_succ_of_le (depth_le_depthItems h)

theorem depth_le_depthFields {fields : List (String × Json)} {f : String × Json}
    (h : f ∈ fields) : f.2.depth ≤ depthFields fields := by
  induction fields with
  | nil => cases h
  | cons f' fields ih =>
    rw [depthFields]
    rcases List.mem_cons.mp h with rfl | h
    · exact Nat.le_max_left _ _
    · exact Nat.le_trans (ih h) (Nat.le_max_right _ _)

/-- A field that is present lies less deep than its record. -/
theorem depth_lt_present {fields : List (String × Option Json)} {name : String} {j : Json}
    (h : (name, some j) ∈ fields) : j.depth < (Json.obj (present fields)).depth := by
  have hmem : (name, j) ∈ present fields :=
    List.mem_flatMap.mpr ⟨(name, some j), h, List.mem_singleton_self _⟩
  rw [depth]
  exact Nat.lt_succ_of_le (depth_le_depthFields hmem)

end Json

end MeshDestination
