import MeshDestination.Duration

/-!
# Durations that are too long

A text is read part by part, and each part is added to the ones before it. A text is too long
(`Duration.TooLong`) when its parts can be read up to one with which the sum does not fit a
duration; what follows is not looked at. These are the texts that neither give a duration nor are
refused (`Duration.parse_eq_overflow_iff`).
-/

namespace MeshDestination.Duration

open Number Text

/-- A part can be read, and is worth a number of nanoseconds, or more than any number. -/
def Part.Worth (p : Part) (n : Option Nat) : Prop :=
  ∃ value unit, parseDecimal .double p.number = .ok value ∧ TimeUnit.ofName? p.unit = some unit ∧
    nanosOfSeconds? (Binary.mul .double value unit.length) = n

/-- After parts that make `total` nanoseconds, the parts of `s` can be read up to one with which the
sum does not fit a duration. -/
inductive TooLong : List Char → Nat → Prop
  | here {s : List Char} {total : Nat} {p : Part} {n : Option Nat} (part : Part.split? s = some p)
    (worth : p.Worth n) (long : ∀ k, n = some k → bound ≤ total + k) : TooLong s total
  | later {s : List Char} {total : Nat} {p : Part} {k : Nat} (part : Part.split? s = some p)
    (worth : p.Worth (some k)) (rest : TooLong p.rest (total + k)) : TooLong s total

/-! ## One part -/

theorem ofNanos?_eq_some {n : Nat} {d : Duration} : ofNanos? n = some d ↔ d.nanos = n := by
  unfold ofNanos?
  obtain ⟨m, hm⟩ := d
  by_cases h : n < bound
  · simp [h, eq_comm]
  · rw [dif_neg h]
    constructor
    · exact nofun
    · rintro rfl
      exact absurd hm h

theorem ofNanos?_eq_none {n : Nat} : ofNanos? n = none ↔ bound ≤ n := by
  unfold ofNanos?
  by_cases h : n < bound
  · simp [h]
  · simp [h, Nat.not_lt.mp h]

theorem Part.Worth.unique {p : Part} {m n : Option Nat} (hm : p.Worth m) (hn : p.Worth n) :
    m = n := by
  obtain ⟨value, unit, hvalue, hunit, rfl⟩ := hm
  obtain ⟨value', unit', hvalue', hunit', rfl⟩ := hn
  cases hvalue.symm.trans hvalue'
  cases hunit.symm.trans hunit'
  rfl

theorem Part.Worth.value {p : Part} {n : Option Nat} (h : p.Worth n) :
    p.value = match n.bind ofNanos? with
      | some d => .ok d
      | none => .error .overflow := by
  obtain ⟨value, unit, hvalue, hunit, rfl⟩ := h
  have hnumber : (parseDecimal .double p.number).mapError ParseError.notANumber = .ok value := by
    rw [hvalue]
    rfl
  simp only [Part.value, hnumber, hunit, bind, Except.bind, scaled?]
  cases (nanosOfSeconds? (Binary.mul .double value unit.length)).bind ofNanos? <;> rfl

/-- A part that cannot be read is refused. -/
theorem Part.value_of_not_worth {p : Part} (h : ∀ n, ¬p.Worth n) :
    ∃ e, e ≠ .overflow ∧ p.value = .error e := by
  unfold Part.value
  cases hvalue : parseDecimal .double p.number with
  | error e => exact ⟨.notANumber e, nofun, rfl⟩
  | ok value =>
    cases hunit : TimeUnit.ofName? p.unit with
    | none => exact ⟨.invalidUnit (String.ofList p.unit), nofun, rfl⟩
    | some unit => exact absurd ⟨value, unit, hvalue, hunit, rfl⟩ (h _)

theorem Part.value_eq_ok {p : Part} {d : Duration} :
    p.value = .ok d ↔ p.Worth (some d.nanos) := by
  constructor
  · intro hvalue
    by_cases hworth : ∃ n, p.Worth n
    · obtain ⟨n, hworth⟩ := hworth
      rw [hworth.value] at hvalue
      split at hvalue
      · next d' hd =>
        cases hvalue
        obtain ⟨k, rfl, hk⟩ := Option.bind_eq_some_iff.mp hd
        rwa [ofNanos?_eq_some.mp hk]
      · cases hvalue
    · obtain ⟨e, -, he⟩ := value_of_not_worth fun n hn => hworth ⟨n, hn⟩
      rw [he] at hvalue
      cases hvalue
  · intro hworth
    rw [hworth.value, Option.bind_some, ofNanos?_eq_some.mpr rfl]

theorem Part.value_eq_overflow {p : Part} :
    p.value = .error .overflow ↔ ∃ n, p.Worth n ∧ ∀ k, n = some k → bound ≤ k := by
  constructor
  · intro hvalue
    by_cases hworth : ∃ n, p.Worth n
    · obtain ⟨n, hworth⟩ := hworth
      refine ⟨n, hworth, ?_⟩
      rintro k rfl
      rw [hworth.value, Option.bind_some] at hvalue
      split at hvalue
      · cases hvalue
      · next hk => exact ofNanos?_eq_none.mp hk
    · obtain ⟨e, hne, he⟩ := value_of_not_worth fun n hn => hworth ⟨n, hn⟩
      rw [he] at hvalue
      cases hvalue
      exact absurd rfl hne
  · rintro ⟨n, hworth, hlong⟩
    have hnone : n.bind ofNanos? = none :=
      Option.bind_eq_none_iff.mpr fun k hk => ofNanos?_eq_none.mpr (hlong k hk)
    rw [hworth.value, hnone]

/-! ## All parts -/

theorem add?_eq_some {a b d : Duration} (h : a.add? b = some d) :
    d.nanos = a.nanos + b.nanos := ofNanos?_eq_some.mp h

/-- What a sum that is too long begins with can be read. -/
theorem TooLong.worth {s : List Char} {total : Nat} (h : TooLong s total) :
    ∃ p n, Part.split? s = some p ∧ p.Worth n := by
  cases h with
  | here part worth _ => exact ⟨_, _, part, worth⟩
  | later part worth _ => exact ⟨_, _, part, worth⟩

theorem sumParts_eq_overflow_iff (s : List Char) (total : Duration) :
    sumParts s total = .error .overflow ↔ TooLong s total.nanos := by
  fun_induction sumParts s total with
  | case1 s total hempty =>
    refine ⟨nofun, fun hlong => ?_⟩
    obtain ⟨p, n, hp, -⟩ := hlong.worth
    rw [List.isEmpty_iff.mp hempty] at hp
    cases hp
  | case2 s total _ hsplit =>
    refine ⟨nofun, fun hlong => ?_⟩
    obtain ⟨p, n, hp, -⟩ := hlong.worth
    rw [hsplit] at hp
    cases hp
  | case3 s total _ p hsplit e hvalue =>
    -- The part has no value. It is one that does not fit on its own, or it cannot be read.
    constructor
    · intro he
      cases he
      obtain ⟨n, hworth, hlong⟩ := Part.value_eq_overflow.mp hvalue
      exact .here hsplit hworth fun k hk => Nat.le_trans (hlong k hk) (Nat.le_add_left k _)
    · intro hlong
      obtain ⟨p', n, hp', hworth⟩ := hlong.worth
      cases hsplit.symm.trans hp'
      rw [hworth.value] at hvalue
      split at hvalue
      · cases hvalue
      · cases hvalue
        rfl
  | case4 s total _ p hsplit d hvalue hsum =>
    -- The part fits, but not together with the ones before it.
    refine ⟨fun _ => .here hsplit (Part.value_eq_ok.mp hvalue) ?_, fun _ => rfl⟩
    rintro k ⟨⟩
    exact ofNanos?_eq_none.mp hsum
  | case5 s total _ p hsplit d hvalue sum hsum ih =>
    have hworth := Part.value_eq_ok.mp hvalue
    have hnanos := add?_eq_some hsum
    rw [ih, hnanos]
    constructor
    · exact .later hsplit hworth
    · rintro (⟨part, worth, long⟩ | ⟨part, worth, rest⟩)
      · cases hsplit.symm.trans part
        have hbound := long _ (worth.unique hworth)
        have hfits := sum.nanos_lt
        omega
      · cases hsplit.symm.trans part
        cases worth.unique hworth
        exact rest

/-- A text is neither a duration nor refused exactly if it is too long. -/
theorem parse_eq_overflow_iff (s : String) :
    parse s = .error .overflow ↔ TooLong (unsignedText s) 0 := by
  unfold parse
  generalize unsignedText s = text
  split
  · next r =>
    -- The minus sign would be the unit of a part without a number.
    refine ⟨nofun, fun hlong => ?_⟩
    obtain ⟨p, n, hp, value, unit, hvalue, -⟩ := hlong.worth
    have hnumber : p.number = [] := by
      simp only [Part.split?] at hp
      split at hp
      · cases hp
      · cases hp
        rfl
    rw [hnumber] at hvalue
    cases hvalue
  · refine ⟨nofun, fun hlong => ?_⟩
    obtain ⟨p, n, hp, -⟩ := hlong.worth
    cases hp
  · refine ⟨nofun, fun hlong => ?_⟩
    obtain ⟨p, n, hp, -⟩ := hlong.worth
    cases hp
  · exact sumParts_eq_overflow_iff _ zero

end MeshDestination.Duration
