import Mathlib.Data.List.TakeWhile
import MeshDestination.Proofs.Duration

/-!
# The grammar of durations

A duration's text is zero alone or a sum of terms (`Duration.Term`), each a number and a unit, and
is worth what the terms are worth together. `Duration.Reading` says what comes of any text: terms
are read up to the first fault (`Duration.Fault`) or to the first one with which the sum is too long
(`Duration.Overflows`). What is read is this and nothing else (`Duration.parse_eq_iff_reading`).
-/

namespace MeshDestination.Duration

open Number Text

/-! ## Terms -/

/-- A run of digits with at most one point among them and at least one digit. -/
structure IsNumber (s : List Char) : Prop where
  numerals : ∀ c ∈ s, isNumeral c = true
  point : s.count '.' ≤ 1
  digit : ∃ c ∈ s, c.isDigit = true

instance (s : List Char) : Decidable (IsNumber s) :=
  decidable_of_iff (s.all isNumeral = true ∧ s.count '.' ≤ 1 ∧ s.any Char.isDigit = true) <| by
    rw [List.all_eq_true, List.any_eq_true]
    exact ⟨fun ⟨h, hpoint, hdigit⟩ => ⟨h, hpoint, hdigit⟩, fun h => ⟨h.numerals, h.point, h.digit⟩⟩

/-- The names of units. Microseconds have three. -/
def unitNames : List String := ["ns", "us", "\u00b5s", "\u03bcs", "ms", "s", "m", "h"]

/-- A number with its unit, as a text has them. -/
structure Term where
  number : List Char
  unit : List Char
  isNumber : IsNumber number
  isUnit : unit ∈ unitNames.map String.toList

/-- A term as it is written. -/
def Term.text (t : Term) : List Char := t.number ++ t.unit

/-- What a term is worth in nanoseconds, unless that is more than any number. -/
def Term.nanos? (t : Term) : Option Nat :=
  match parseDecimal .double t.number, TimeUnit.ofName? t.unit with
  | .ok value, some unit => nanosOfSeconds? (Binary.mul .double value unit.length)
  | _, _ => none

/-- Terms as they are written, one behind the other. -/
def sumText (terms : List Term) : List Char := terms.flatMap Term.text

/-- What terms are worth together. -/
def total? : List Term → Option Nat
  | [] => some 0
  | t :: terms => t.nanos?.bind fun n => (total? terms).map (n + ·)

/-! ## Readings -/

/-- What follows a unit begins another term, or is nothing. -/
def Begins (s : List Char) : Prop := ∀ c, s.head? = some c → isNumeral c = true

/-- A text begins with a run of numerals and a run of other characters. -/
structure Part.Heads (p : Part) (s : List Char) : Prop where
  text : s = p.number ++ (p.unit ++ p.rest)
  number : ∀ c ∈ p.number, isNumeral c = true
  unit : ∀ c ∈ p.unit, isNumeral c = false
  unit_ne_nil : p.unit ≠ []
  rest : Begins p.rest

/-- What is wrong with the part that a text begins with. The number is looked at first. -/
inductive Fault : List Char → ParseError → Prop
  | noUnit {s : List Char} (ne_nil : s ≠ []) (numerals : ∀ c ∈ s, isNumeral c = true) :
    Fault s .noUnit
  | notANumber {s : List Char} {p : Part} (heads : p.Heads s) (malformed : ¬IsNumber p.number) :
    Fault s (.notANumber (if p.number = [] then .empty else .invalid))
  | invalidUnit {s : List Char} {p : Part} (heads : p.Heads s) (isNumber : IsNumber p.number)
    (unknown : p.unit ∉ unitNames.map String.toList) :
    Fault s (.invalidUnit (String.ofList p.unit))

/-- The terms of a text are, up to one of them, too long for a duration. -/
def Overflows (s : List Char) : Prop :=
  ∃ terms rest, s = sumText terms ++ rest ∧ Begins rest ∧
    ∀ d : Duration, total? terms ≠ some d.nanos

/-- What comes of a text without blanks around it and without a plus sign before it. -/
inductive Reading : List Char → Except ParseError Duration → Prop
  | zero : Reading ['0'] (.ok zero)
  | sum {terms : List Term} {d : Duration} (ne_nil : terms ≠ [])
    (total : total? terms = some d.nanos) : Reading (sumText terms) (.ok d)
  | negative {s : List Char} : Reading ('-' :: s) (.error .negative)
  | empty : Reading [] (.error .empty)
  /-- A fault after terms that are not too long. -/
  | faulty {terms : List Term} {d : Duration} {s : List Char} {e : ParseError}
    (total : total? terms = some d.nanos) (fault : Fault s e) (apart : terms = [] ∨ Begins s)
    (notNegative : (sumText terms ++ s).head? ≠ some '-') (notZero : sumText terms ++ s ≠ ['0']) :
    Reading (sumText terms ++ s) (.error e)
  | overflow {s : List Char} (long : Overflows s) : Reading s (.error .overflow)

/-! ## Splitting -/

theorem span_of_run {α : Type} {p : α → Bool} {run rest : List α} (hrun : ∀ c ∈ run, p c = true)
    (hrest : ∀ c, rest.head? = some c → p c = false) :
    (run ++ rest).takeWhile p = run ∧ (run ++ rest).dropWhile p = rest := by
  rw [List.takeWhile_append_of_pos hrun, List.dropWhile_append_of_pos hrun]
  cases rest with
  | nil => simp
  | cons c rest =>
    have hc : ¬p c = true := by simp [hrest c rfl]
    rw [List.takeWhile_cons_of_neg hc, List.dropWhile_cons_of_neg hc, List.append_nil]
    exact ⟨rfl, rfl⟩

theorem eq_false_of_head?_dropWhile {α : Type} {p : α → Bool} {l : List α} {c : α}
    (h : (l.dropWhile p).head? = some c) : p c = false := by
  have hnot := List.head?_dropWhile_not p l
  rwa [h] at hnot

theorem Part.split?_eq_none {s : List Char} :
    Part.split? s = none ↔ ∀ c ∈ s, isNumeral c = true := by
  rw [← List.dropWhile_eq_nil_iff]
  simp [Part.split?]

theorem Part.split?_eq_some {s : List Char} {p : Part} : Part.split? s = some p ↔ p.Heads s := by
  constructor
  · intro h
    simp only [Part.split?] at h
    split at h
    · cases h
    · next hne =>
      cases h
      refine ⟨?_, fun c hc => List.mem_takeWhile_imp hc, fun c hc => ?_, fun hnil => ?_,
        fun c hc => ?_⟩
      · rw [List.takeWhile_append_dropWhile, List.takeWhile_append_dropWhile]
      · simpa using List.mem_takeWhile_imp hc
      · -- What stands after the numerals is no numeral.
        cases htail : s.dropWhile isNumeral with
        | nil => exact hne (by rw [htail]; rfl)
        | cons c r =>
          have hc : isNumeral c = false := eq_false_of_head?_dropWhile (by rw [htail]; rfl)
          simp [htail, hc] at hnil
      · simpa using eq_false_of_head?_dropWhile hc
  · rintro ⟨rfl, hnumber, hunit, hne, hrest⟩
    obtain ⟨number, unit, rest⟩ := p
    have hhead (c : Char) (hc : (unit ++ rest).head? = some c) : isNumeral c = false := by
      cases unit with
      | nil => exact absurd rfl hne
      | cons c' unit =>
        cases hc
        exact hunit c List.mem_cons_self
    obtain ⟨htake, hdrop⟩ := span_of_run hnumber hhead
    have hother : (unit ++ rest).takeWhile (!isNumeral ·) = unit ∧
        (unit ++ rest).dropWhile (!isNumeral ·) = rest :=
      span_of_run (fun c hc => by simp [hunit c hc]) (fun c hc => by simp [hrest c hc])
    have hnotEmpty : (unit ++ rest).isEmpty = false := by
      cases unit with
      | nil => exact absurd rfl hne
      | cons c unit => rfl
    simp only [Part.split?, htake, hdrop, hother, hnotEmpty, Bool.false_eq_true, if_false]

/-! ## Numbers -/

theorem isNumeral_iff {c : Char} : isNumeral c = true ↔ c.isDigit = true ∨ c = '.' := by
  simp [isNumeral]

theorem toLower_of_isNumeral {c : Char} (h : isNumeral c = true) : c.toLower = c := by
  rcases isNumeral_iff.mp h with hdigit | rfl
  · simp only [Char.isDigit, Bool.and_eq_true, decide_eq_true_eq] at hdigit
    have hupper : ¬(c.val ≥ 65 ∧ c.val ≤ 90) := fun hc =>
      absurd (UInt32.le_trans hc.1 hdigit.2) (by decide)
    exact dif_neg hupper
  · rfl

/-- Numerals are digits, digits with a point, or more than that. -/
theorem numerals_cases {s : List Char} (h : ∀ c ∈ s, isNumeral c = true) :
    (∀ c ∈ s, c.isDigit = true) ∨
    ∃ whole rest, s = whole ++ '.' :: rest ∧ (∀ c ∈ whole, c.isDigit = true) ∧
      ∀ c ∈ rest, isNumeral c = true := by
  cases hrest : s.dropWhile Char.isDigit with
  | nil => exact .inl (List.dropWhile_eq_nil_iff.mp hrest)
  | cons c rest =>
    have hs : s = s.takeWhile Char.isDigit ++ c :: rest := by
      rw [← hrest, List.takeWhile_append_dropWhile]
    have hmem : ∀ c' ∈ c :: rest, isNumeral c' = true := fun c' hc' =>
      h c' (hs ▸ List.mem_append_right _ hc')
    have hc : c.isDigit = false := eq_false_of_head?_dropWhile (by rw [hrest]; rfl)
    obtain rfl : c = '.' :=
      (isNumeral_iff.mp (hmem c List.mem_cons_self)).resolve_left (by simp [hc])
    exact .inr ⟨_, rest, hs, fun c' hc' => List.mem_takeWhile_imp hc',
      fun c' hc' => hmem c' (List.mem_cons_of_mem _ hc')⟩

section Decimals

variable {whole fraction : List Char} (hwhole : ∀ c ∈ whole, c.isDigit = true)

include hwhole

theorem count_point_of_digits : whole.count '.' = 0 := by
  refine List.count_eq_zero.mpr fun hpoint => ?_
  cases hwhole '.' hpoint

theorem decimalParts?_digits : (decimalParts? whole).isSome = true ↔ IsNumber whole := by
  have htake := List.takeWhile_eq_self_iff.mpr hwhole
  have hdrop := List.dropWhile_eq_nil_iff.mpr hwhole
  have hnumber : IsNumber whole ↔ whole ≠ [] := by
    refine ⟨fun h hnil => ?_, fun hne => ?_⟩
    · obtain ⟨c, hc, -⟩ := h.digit
      rw [hnil] at hc
      cases hc
    · obtain ⟨c, hc⟩ := List.exists_mem_of_ne_nil whole hne
      exact ⟨fun c hc => isNumeral_iff.mpr (.inl (hwhole c hc)),
        by rw [count_point_of_digits hwhole]; omega, c, hc, hwhole c hc⟩
  rw [hnumber]
  simp only [decimalParts?, htake, hdrop]
  cases whole <;> simp [exponentPart?]

theorem span_point (rest : List Char) :
    (whole ++ '.' :: rest).takeWhile Char.isDigit = whole ∧
      (whole ++ '.' :: rest).dropWhile Char.isDigit = '.' :: rest :=
  span_of_run hwhole fun c hc => by
    cases hc
    rfl

theorem decimalParts?_point (hfraction : ∀ c ∈ fraction, c.isDigit = true) :
    (decimalParts? (whole ++ '.' :: fraction)).isSome = true ↔
      IsNumber (whole ++ '.' :: fraction) := by
  obtain ⟨htake, hdrop⟩ := span_point hwhole fraction
  have htakeFraction := List.takeWhile_eq_self_iff.mpr hfraction
  have hdropFraction := List.dropWhile_eq_nil_iff.mpr hfraction
  have hnumber : IsNumber (whole ++ '.' :: fraction) ↔ whole ≠ [] ∨ fraction ≠ [] := by
    constructor
    · rintro ⟨-, -, c, hc, hdigit⟩
      rcases List.mem_append.mp hc with hc | hc
      · exact .inl (List.ne_nil_of_mem hc)
      · rcases List.mem_cons.mp hc with rfl | hc
        · cases hdigit
        · exact .inr (List.ne_nil_of_mem hc)
    · intro hne
      refine ⟨fun c hc => ?_, ?_, ?_⟩
      · rw [isNumeral_iff]
        rcases List.mem_append.mp hc with hc | hc
        · exact .inl (hwhole c hc)
        · exact (List.mem_cons.mp hc).symm.imp_left (hfraction c)
      · rw [List.count_append, List.count_cons_self, count_point_of_digits hwhole,
          count_point_of_digits hfraction]
      · rcases hne with hne | hne
        · obtain ⟨c, hc⟩ := List.exists_mem_of_ne_nil whole hne
          exact ⟨c, List.mem_append_left _ hc, hwhole c hc⟩
        · obtain ⟨c, hc⟩ := List.exists_mem_of_ne_nil fraction hne
          exact ⟨c, List.mem_append_right _ (List.mem_cons_of_mem _ hc), hfraction c hc⟩
  rw [hnumber]
  simp only [decimalParts?, htake, hdrop, htakeFraction, hdropFraction]
  cases whole <;> cases fraction <;> simp [exponentPart?]

/-- There is no second point in a number. -/
theorem decimalParts?_points (rest : List Char) (hfraction : ∀ c ∈ fraction, c.isDigit = true) :
    decimalParts? (whole ++ '.' :: (fraction ++ '.' :: rest)) = none ∧
      ¬IsNumber (whole ++ '.' :: (fraction ++ '.' :: rest)) := by
  obtain ⟨htake, hdrop⟩ := span_point hwhole (fraction ++ '.' :: rest)
  obtain ⟨htakeFraction, hdropFraction⟩ := span_point hfraction rest
  refine ⟨?_, fun h => ?_⟩
  · simp [decimalParts?, htake, hdrop, htakeFraction, hdropFraction, exponentPart?]
  · have hpoint := h.point
    simp only [List.count_append, List.count_cons_self] at hpoint
    omega

end Decimals

theorem isSome_decimalParts?_iff {s : List Char} (h : ∀ c ∈ s, isNumeral c = true) :
    (decimalParts? s).isSome = true ↔ IsNumber s := by
  rcases numerals_cases h with hdigits | ⟨whole, rest, rfl, hwhole, hrest⟩
  · exact decimalParts?_digits hdigits
  · rcases numerals_cases hrest with hfraction | ⟨fraction, rest, rfl, hfraction, -⟩
    · exact decimalParts?_point hwhole hfraction
    · obtain ⟨hnone, hnot⟩ := decimalParts?_points hwhole rest hfraction
      simp [hnone, hnot]

/-- Numerals begin no word and have no sign. -/
theorem parseDecimal_of_numerals {c : Char} {s : List Char}
    (h : ∀ c' ∈ c :: s, isNumeral c' = true) :
    parseDecimal .double (c :: s) = ((decimalParts? (c :: s)).map fun parts =>
      ofDecimal .double false parts.1 parts.2).elim (.error .invalid) .ok := by
  have hc : isNumeral c = true := h c List.mem_cons_self
  have hsign : splitSign (c :: s) = (false, c :: s) := by
    unfold splitSign
    split
    · next heq =>
      cases heq
      cases hc
    · next heq =>
      cases heq
      cases hc
    · rfl
  have hlower : (c :: s).map Char.toLower = c :: s :=
    (List.map_congr_left fun c' hc' => toLower_of_isNumeral (h c' hc')).trans (List.map_id _)
  have hword (w : String) (first : Char) (hfirst : w.toList.head? = some first)
      (hnot : isNumeral first = false) : ((c :: s) == w.toList) = false := by
    refine beq_eq_false_iff_ne.mpr fun heq => ?_
    rw [← heq] at hfirst
    cases hfirst
    rw [hc] at hnot
    cases hnot
  simp only [parseDecimal, hsign, hlower, hword "inf" 'i' rfl rfl, hword "infinity" 'i' rfl rfl,
    hword "nan" 'n' rfl rfl, List.isEmpty_cons, Bool.or_self, Bool.false_eq_true, if_false]
  cases decimalParts? (c :: s) <;> rfl

/-- Numerals are read as a number exactly if they are one. -/
theorem parseDecimal_eq {s : List Char} (h : ∀ c ∈ s, isNumeral c = true) :
    (IsNumber s → ∃ value, parseDecimal .double s = .ok value) ∧
      (¬IsNumber s → parseDecimal .double s = .error (if s = [] then .empty else .invalid)) := by
  cases s with
  | nil =>
    refine ⟨fun hs => ?_, fun _ => rfl⟩
    obtain ⟨c, hc, -⟩ := hs.digit
    cases hc
  | cons c s =>
    rw [← isSome_decimalParts?_iff h, parseDecimal_of_numerals h]
    cases decimalParts? (c :: s) with
    | none => simp
    | some parts => simp

/-! ## Single parts -/

theorem unitNames_toList :
    unitNames.map String.toList = [['n', 's'], ['u', 's'], ['\u00b5', 's'], ['\u03bc', 's'],
      ['m', 's'], ['s'], ['m'], ['h']] := by
  decide

theorem mem_unitNames_iff {name : List Char} :
    name ∈ unitNames.map String.toList ↔ ∃ unit, TimeUnit.ofName? name = some unit := by
  rw [unitNames_toList]
  constructor
  · intro h
    simp only [List.mem_cons, List.not_mem_nil, or_false] at h
    rcases h with rfl | rfl | rfl | rfl | rfl | rfl | rfl | rfl <;> exact ⟨_, rfl⟩
  · rintro ⟨unit, h⟩
    by_contra hnot
    simp only [List.mem_cons, List.not_mem_nil, or_false, not_or] at hnot
    simp [TimeUnit.ofName?, hnot] at h

/-- A unit is not empty, and it has no numerals, blanks or plus signs. -/
theorem chars_of_mem_unitNames {unit : List Char} (h : unit ∈ unitNames.map String.toList) :
    unit ≠ [] ∧ ∀ c ∈ unit, isNumeral c = false ∧ isBlank c = false ∧ c ≠ '+' := by
  rw [unitNames_toList] at h
  simp only [List.mem_cons, List.not_mem_nil, or_false] at h
  rcases h with rfl | rfl | rfl | rfl | rfl | rfl | rfl | rfl <;> simp [isNumeral, isBlank]

theorem Term.chars_unit (t : Term) : t.unit ≠ [] ∧ ∀ c ∈ t.unit, isNumeral c = false :=
  (chars_of_mem_unitNames t.isUnit).imp_right fun h c hc => (h c hc).1

theorem Term.number_ne_nil (t : Term) : t.number ≠ [] := by
  obtain ⟨c, hc, -⟩ := t.isNumber.digit
  exact List.ne_nil_of_mem hc

/-- A term as it is split off a text, with what follows it. -/
def Term.part (t : Term) (rest : List Char) : Part := ⟨t.number, t.unit, rest⟩

theorem Term.heads (t : Term) {rest : List Char} (hrest : Begins rest) :
    (t.part rest).Heads (t.text ++ rest) where
  text := List.append_assoc _ _ _
  number := t.isNumber.numerals
  unit := t.chars_unit.2
  unit_ne_nil := t.chars_unit.1
  rest := hrest

theorem Term.worth (t : Term) (rest : List Char) : (t.part rest).Worth t.nanos? := by
  obtain ⟨value, hvalue⟩ := (parseDecimal_eq t.isNumber.numerals).1 t.isNumber
  obtain ⟨unit, hunit⟩ := mem_unitNames_iff.mp t.isUnit
  exact ⟨value, unit, hvalue, hunit, by rw [Term.nanos?, hvalue, hunit]⟩

theorem Part.Heads.ne_nil {s : List Char} {p : Part} (h : p.Heads s) : s ≠ [] := by
  rw [h.text]
  simp [h.unit_ne_nil]

theorem sumParts_of_error {s : List Char} {p : Part} {e : ParseError} (hp : p.Heads s)
    (hvalue : p.value = .error e) (acc : Duration) : sumParts s acc = .error e := by
  rw [sumParts, if_neg (by simp [hp.ne_nil])]
  split
  · next hsplit => cases hsplit.symm.trans (Part.split?_eq_some.mpr hp)
  · next hsplit =>
    cases hsplit.symm.trans (Part.split?_eq_some.mpr hp)
    rw [hvalue]

/-- A part that can be read is added to the sum, unless that is too long then. -/
theorem sumParts_of_worth {s : List Char} {p : Part} {k : Nat} {acc sum : Duration}
    (hp : p.Heads s) (hworth : p.Worth (some k)) (hsum : sum.nanos = acc.nanos + k) :
    sumParts s acc = sumParts p.rest sum := by
  have hlt : k < bound := by
    have := sum.nanos_lt
    omega
  have hvalue : p.value = .ok ⟨k, hlt⟩ := Part.value_eq_ok.mpr hworth
  have hadd : acc.add? ⟨k, hlt⟩ = some sum := ofNanos?_eq_some.mpr hsum
  rw [sumParts, if_neg (by simp [hp.ne_nil])]
  split
  · next hsplit => cases hsplit.symm.trans (Part.split?_eq_some.mpr hp)
  · next hsplit =>
    cases hsplit.symm.trans (Part.split?_eq_some.mpr hp)
    simp only [hvalue, hadd]

theorem Fault.sumParts {s : List Char} {e : ParseError} (h : Fault s e) (acc : Duration) :
    sumParts s acc = .error e := by
  cases h with
  | noUnit hne hnumerals =>
    rw [Duration.sumParts, if_neg (by simpa using hne)]
    split
    · rfl
    · next hsplit => cases hsplit.symm.trans (Part.split?_eq_none.mpr hnumerals)
  | notANumber heads malformed =>
    refine sumParts_of_error heads ?_ acc
    rw [Part.value, (parseDecimal_eq heads.number).2 malformed]
    rfl
  | invalidUnit heads isNumber unknown =>
    refine sumParts_of_error heads ?_ acc
    obtain ⟨value, hvalue⟩ := (parseDecimal_eq heads.number).1 isNumber
    rw [mem_unitNames_iff, ← Option.isSome_iff_exists, Option.not_isSome_iff_eq_none] at unknown
    rw [Part.value, hvalue, unknown]
    rfl

/-! ## Sums -/

@[simp] theorem sumText_cons (t : Term) (terms : List Term) :
    sumText (t :: terms) = t.text ++ sumText terms := rfl

@[simp] theorem sumText_append (a b : List Term) : sumText (a ++ b) = sumText a ++ sumText b :=
  List.flatMap_append

theorem total?_append (a b : List Term) :
    total? (a ++ b) = (total? a).bind fun m => (total? b).map (m + ·) := by
  induction a with
  | nil => simp [total?]
  | cons t a ih =>
    simp only [List.cons_append, total?, ih]
    cases t.nanos? <;> cases total? a <;> cases total? b <;> simp [Nat.add_assoc]

theorem Term.begins (t : Term) (rest : List Char) : Begins (t.text ++ rest) := by
  intro c hc
  obtain ⟨c', number, hnumber⟩ := List.exists_cons_of_ne_nil t.number_ne_nil
  rw [Term.text, hnumber] at hc
  cases hc
  exact t.isNumber.numerals c (hnumber ▸ List.mem_cons_self)

theorem begins_sumText {terms : List Term} {rest : List Char} (hrest : terms = [] → Begins rest) :
    Begins (sumText terms ++ rest) := by
  cases terms with
  | nil => exact hrest rfl
  | cons t terms =>
    rw [sumText_cons, List.append_assoc]
    exact t.begins _

theorem sumText_ne_zero {terms : List Term} (hne : terms ≠ []) (rest : List Char) :
    sumText terms ++ rest ≠ ['0'] ∧ sumText terms ++ rest ≠ [] := by
  obtain ⟨t, terms, rfl⟩ := List.exists_cons_of_ne_nil hne
  -- A term has two characters at least.
  have hnumber := List.length_pos_iff.mpr t.number_ne_nil
  have hunit := List.length_pos_iff.mpr t.chars_unit.1
  constructor
  · intro heq
    have hlength := congrArg List.length heq
    simp only [sumText_cons, Term.text, List.length_append, List.length_cons,
      List.length_nil] at hlength
    omega
  · intro heq
    simp [Term.text, t.number_ne_nil] at heq

/-- Terms that are not too long together with what was before them are passed over. -/
theorem sumParts_sumText {terms : List Term} {k : Nat} (htotal : total? terms = some k)
    {acc sum : Duration} (hsum : sum.nanos = acc.nanos + k) {rest : List Char}
    (hrest : terms = [] ∨ Begins rest) :
    sumParts (sumText terms ++ rest) acc = sumParts rest sum := by
  induction terms generalizing acc k with
  | nil =>
    cases htotal
    obtain rfl : sum = acc := by cases sum; cases acc; simpa using hsum
    rfl
  | cons t terms ih =>
    have hbegins : Begins rest := hrest.resolve_left (List.cons_ne_nil t terms)
    obtain ⟨n, hn, htotal⟩ := Option.bind_eq_some_iff.mp htotal
    obtain ⟨m, hm, rfl⟩ := Option.map_eq_some_iff.mp htotal
    have hlt : acc.nanos + n < bound := by
      have := sum.nanos_lt
      omega
    rw [sumText_cons, List.append_assoc]
    calc sumParts (t.text ++ (sumText terms ++ rest)) acc
        = sumParts (sumText terms ++ rest) ⟨acc.nanos + n, hlt⟩ :=
          sumParts_of_worth (t.heads (begins_sumText fun _ => hbegins)) (hn ▸ t.worth _) rfl
      _ = sumParts rest sum := ih hm (by simp only; omega) (.inr hbegins)

/-- Terms that are too long together with what was before them are read no further. -/
theorem tooLong_sumText {terms : List Term} {acc : Nat} {rest : List Char} (hrest : Begins rest)
    (hacc : acc < bound)
    (hlong : ∀ d : Duration, (total? terms).map (acc + ·) ≠ some d.nanos) :
    TooLong (sumText terms ++ rest) acc := by
  induction terms generalizing acc with
  | nil => exact absurd rfl (hlong ⟨acc, hacc⟩)
  | cons t terms ih =>
    have hbegins : Begins (sumText terms ++ rest) := begins_sumText fun _ => hrest
    have hsplit := Part.split?_eq_some.mpr (t.heads hbegins)
    rw [sumText_cons, List.append_assoc]
    by_cases hfits : ∃ n, t.nanos? = some n ∧ acc + n < bound
    · obtain ⟨n, hn, hlt⟩ := hfits
      refine .later hsplit (hn ▸ t.worth _) (ih hlt fun d hd => hlong d ?_)
      rw [← hd, total?, hn]
      cases total? terms <;> simp [Nat.add_assoc]
    · exact .here hsplit (t.worth _) fun k hk => Nat.not_lt.mp fun hlt => hfits ⟨k, hk, hlt⟩

/-- Every text is terms up to a fault or up to its end. -/
theorem exists_terms (s : List Char) :
    ∃ terms rest, s = sumText terms ++ rest ∧ (terms = [] ∨ Begins rest) ∧
      (rest = [] ∨ ∃ e, Fault rest e) := by
  cases hsplit : Part.split? s with
  | none =>
    refine ⟨[], s, rfl, .inl rfl, ?_⟩
    by_cases hnil : s = []
    · exact .inl hnil
    · exact .inr ⟨_, .noUnit hnil (Part.split?_eq_none.mp hsplit)⟩
  | some p =>
    have hheads := Part.split?_eq_some.mp hsplit
    by_cases hnumber : IsNumber p.number
    · by_cases hunit : p.unit ∈ unitNames.map String.toList
      · obtain ⟨terms, rest, hrest, hbegins, hend⟩ := exists_terms p.rest
        refine ⟨⟨p.number, p.unit, hnumber, hunit⟩ :: terms, rest, ?_, .inr ?_, hend⟩
        · rw [sumText_cons, List.append_assoc, ← hrest, hheads.text]
          exact (List.append_assoc _ _ _).symm
        · rcases hbegins with rfl | hbegins
          · have hheadsRest := hheads.rest
            rwa [hrest] at hheadsRest
          · exact hbegins
      · exact ⟨[], s, rfl, .inl rfl, .inr ⟨_, .invalidUnit hheads hnumber hunit⟩⟩
    · exact ⟨[], s, rfl, .inl rfl, .inr ⟨_, .notANumber hheads hnumber⟩⟩
termination_by s.length
decreasing_by exact Part.length_rest_lt hsplit

/-! ## Whole texts -/

theorem parse_eq_sumParts {s : String} (hne : unsignedText s ≠ [])
    (hnegative : (unsignedText s).head? ≠ some '-') (hzero : unsignedText s ≠ ['0']) :
    parse s = sumParts (unsignedText s) zero := by
  unfold parse
  generalize unsignedText s = text at *
  split
  · exact absurd rfl hnegative
  · exact absurd rfl hne
  · exact absurd rfl hzero
  · rfl

theorem head?_sumText_ne {terms : List Term} (hne : terms ≠ []) (rest : List Char) :
    (sumText terms ++ rest).head? ≠ some '-' := fun h =>
  absurd (begins_sumText (fun hnil => absurd hnil hne) _ h) (by decide)

theorem parse_of_reading {s : String} {o : Except ParseError Duration}
    (h : Reading (unsignedText s) o) : parse s = o := by
  generalize htext : unsignedText s = text at h
  cases h with
  | zero =>
    rw [parse, htext]
    rfl
  | negative =>
    rw [parse, htext]
    rfl
  | empty => rw [parse, htext]
  | @sum terms d ne_nil total =>
    have hzero := sumText_ne_zero ne_nil []
    have hminus := head?_sumText_ne ne_nil []
    have hsum : sumParts (sumText terms ++ []) zero = sumParts [] d :=
      sumParts_sumText total (Nat.zero_add _).symm (.inr nofun)
    rw [List.append_nil] at hzero hminus hsum
    rw [parse_eq_sumParts (htext ▸ hzero.2) (htext ▸ hminus) (htext ▸ hzero.1), htext, hsum,
      sumParts]
    rfl
  | @faulty terms d rest e total fault apart notNegative notZero =>
    have hne : sumText terms ++ rest ≠ [] := by
      cases fault with
      | noUnit ne_nil => simp [ne_nil]
      | notANumber heads => simp [heads.ne_nil]
      | invalidUnit heads => simp [heads.ne_nil]
    rw [parse_eq_sumParts (htext ▸ hne) (htext ▸ notNegative) (htext ▸ notZero), htext,
      sumParts_sumText total (Nat.zero_add _).symm apart]
    exact fault.sumParts d
  | overflow long =>
    obtain ⟨terms, rest, hs, hrest, hlong⟩ := long
    refine (parse_eq_overflow_iff s).mpr ?_
    rw [htext, hs]
    refine tooLong_sumText hrest (by decide) fun d hd => hlong d ?_
    rw [← hd]
    simp

theorem exists_reading (s : List Char) : ∃ o, Reading s o := by
  obtain ⟨terms, rest, rfl, hapart, hend⟩ := exists_terms s
  by_cases htotal : ∃ d : Duration, total? terms = some d.nanos
  · obtain ⟨d, htotal⟩ := htotal
    rcases hend with rfl | ⟨e, hfault⟩
    · rw [List.append_nil]
      by_cases hnil : terms = []
      · rw [hnil]
        exact ⟨_, .empty⟩
      · exact ⟨_, .sum hnil htotal⟩
    · by_cases hzero : sumText terms ++ rest = ['0']
      · rw [hzero]
        exact ⟨_, .zero⟩
      · by_cases hnegative : (sumText terms ++ rest).head? = some '-'
        · obtain ⟨tail, htail⟩ := List.head?_eq_some_iff.mp hnegative
          rw [htail]
          exact ⟨_, .negative⟩
        · exact ⟨_, .faulty htotal hfault hapart hnegative hzero⟩
  · have hbegins : Begins rest := hapart.resolve_left fun hnil => htotal ⟨zero, hnil ▸ rfl⟩
    exact ⟨_, .overflow ⟨terms, rest, rfl, hbegins, fun d hd => htotal ⟨d, hd⟩⟩⟩

/-- What is read is the text's reading. -/
theorem parse_eq_iff_reading {s : String} {o : Except ParseError Duration} :
    parse s = o ↔ Reading (unsignedText s) o := by
  refine ⟨?_, parse_of_reading⟩
  rintro rfl
  obtain ⟨o, ho⟩ := exists_reading (unsignedText s)
  exact parse_of_reading ho ▸ ho

/-! ## Sums of sums -/

theorem isBlank_of_isNumeral {c : Char} (h : isNumeral c = true) : isBlank c = false ∧ c ≠ '+' := by
  rcases isNumeral_iff.mp h with hdigit | rfl
  · simp only [Char.isDigit, Bool.and_eq_true, decide_eq_true_eq] at hdigit
    have hlow : 48 ≤ c.toNat := UInt32.le_iff_toNat_le.mp hdigit.1
    have hhigh : c.toNat ≤ 57 := UInt32.le_iff_toNat_le.mp hdigit.2
    constructor
    · simp [isBlank]
      omega
    · rintro rfl
      revert hlow
      decide
  · decide

theorem not_blank_of_mem_sumText {terms : List Term} {c : Char} (hc : c ∈ sumText terms) :
    isBlank c = false ∧ c ≠ '+' := by
  obtain ⟨t, -, hc⟩ := List.mem_flatMap.mp hc
  rcases List.mem_append.mp hc with hc | hc
  · exact isBlank_of_isNumeral (t.isNumber.numerals c hc)
  · exact ((chars_of_mem_unitNames t.isUnit).2 c hc).2

theorem trimBlank_eq_self {s : List Char} (h : ∀ c ∈ s, isBlank c = false) : trimBlank s = s := by
  have hdrop (l : List Char) (hl : ∀ c ∈ l, isBlank c = false) : l.dropWhile isBlank = l :=
    List.dropWhile_eq_self_iff.mpr fun hlength => by simp [hl _ (List.getElem_mem hlength)]
  rw [trimBlank, hdrop s h, hdrop s.reverse fun c hc => h c (List.mem_reverse.mp hc),
    List.reverse_reverse]

theorem unsignedText_sumText (terms : List Term) :
    unsignedText (String.ofList (sumText terms)) = sumText terms := by
  rw [unsignedText, String.toList_ofList,
    trimBlank_eq_self fun c hc => (not_blank_of_mem_sumText hc).1]
  split
  · next tail htext =>
    exact absurd rfl (not_blank_of_mem_sumText (htext ▸ List.mem_cons_self)).2
  · rfl

theorem parse_sumText_of_reading {terms : List Term} {o : Except ParseError Duration}
    (h : Reading (sumText terms) o) : parse (String.ofList (sumText terms)) = o :=
  parse_of_reading (by rwa [unsignedText_sumText])

/-- A sum is worth what its terms are worth, unless that is too long. -/
theorem parse_sumText {terms : List Term} (hne : terms ≠ []) (d : Duration) :
    parse (String.ofList (sumText terms)) = .ok d ↔ total? terms = some d.nanos := by
  refine ⟨fun h => ?_, fun htotal => parse_sumText_of_reading (.sum hne htotal)⟩
  by_cases hfits : ∃ d' : Duration, total? terms = some d'.nanos
  · obtain ⟨d', hd'⟩ := hfits
    cases h.symm.trans (parse_sumText_of_reading (.sum hne hd'))
    exact hd'
  · have hlong : Overflows (sumText terms) :=
      ⟨terms, [], (List.append_nil _).symm, nofun, fun d' hd' => hfits ⟨d', hd'⟩⟩
    cases h.symm.trans (parse_sumText_of_reading (.overflow hlong))

/-- Two sums written one after the other are worth what they are worth together. -/
theorem parse_append {a b : List Term} (ha : a ≠ []) (hb : b ≠ []) (d : Duration) :
    parse (String.ofList (sumText a) ++ String.ofList (sumText b)) = .ok d ↔
      ∃ da db, parse (String.ofList (sumText a)) = .ok da ∧
        parse (String.ofList (sumText b)) = .ok db ∧ d.nanos = da.nanos + db.nanos := by
  rw [← String.ofList_append, ← sumText_append, parse_sumText (by simp [ha]), total?_append]
  simp only [parse_sumText ha, parse_sumText hb]
  constructor
  · intro h
    obtain ⟨m, hm, h⟩ := Option.bind_eq_some_iff.mp h
    obtain ⟨n, hn, h⟩ := Option.map_eq_some_iff.mp h
    -- The summands are no longer than the sum.
    have hlt := d.nanos_lt
    exact ⟨⟨m, by omega⟩, ⟨n, by omega⟩, hm, hn, h.symm⟩
  · rintro ⟨da, db, hda, hdb, hd⟩
    rw [hda, hdb, hd]
    rfl

theorem isOk_parse_iff {s : String} (hfits : ¬Overflows (unsignedText s)) :
    (∃ d, parse s = .ok d) ↔
      unsignedText s = ['0'] ∨ ∃ terms, terms ≠ [] ∧ unsignedText s = sumText terms := by
  simp only [parse_eq_iff_reading]
  constructor
  · rintro ⟨d, hread⟩
    generalize unsignedText s = text at hread
    cases hread with
    | zero => exact .inl rfl
    | @sum terms d ne_nil total => exact .inr ⟨terms, ne_nil, rfl⟩
  · rintro (htext | ⟨terms, hne, htext⟩)
    · exact ⟨zero, htext ▸ .zero⟩
    · rw [htext] at hfits ⊢
      by_contra hnot
      exact hfits ⟨terms, [], (List.append_nil _).symm, nofun, fun d hd => hnot ⟨d, .sum hne hd⟩⟩

/-- A text is a duration if it is zero alone or a sum, which then is worth what its terms are worth
together. Any other text is refused for its first fault, unless the terms before that are too
long. -/
theorem parse_grammar :
    (∀ (s : String) (o : Except ParseError Duration), parse s = o ↔ Reading (unsignedText s) o) ∧
    (∀ s : String, ¬Overflows (unsignedText s) → ((∃ d, parse s = .ok d) ↔
      unsignedText s = ['0'] ∨ ∃ terms, terms ≠ [] ∧ unsignedText s = sumText terms)) ∧
    (∀ a b : List Term, a ≠ [] → b ≠ [] → ∀ d : Duration,
      parse (String.ofList (sumText a) ++ String.ofList (sumText b)) = .ok d ↔
        ∃ da db, parse (String.ofList (sumText a)) = .ok da ∧
          parse (String.ofList (sumText b)) = .ok db ∧ d.nanos = da.nanos + db.nanos) :=
  ⟨fun _ _ => parse_eq_iff_reading, fun _ => isOk_parse_iff,
    fun _ _ ha hb d => parse_append ha hb d⟩

/-- One hour and two minutes. -/
def hourTerms : List Term :=
  [⟨['1'], ['h'], by decide, by decide⟩,
    ⟨['2'], ['m'], by decide, by decide⟩]

/-- Three and a half seconds. -/
def secondTerms : List Term :=
  [⟨['3', '.', '5'], ['s'], by decide, by decide⟩]

theorem parse_grammar_mixed :
    ¬Overflows (unsignedText "+1h2m3.5s") ∧
    (∃ d, parse "+1h2m3.5s" = .ok d) ∧
    parse " 1h2m3.5 " = .error .noUnit ∧
    hourTerms ≠ [] ∧ secondTerms ≠ [] ∧
    ∃ d, parse (String.ofList (sumText hourTerms) ++ String.ofList (sumText secondTerms)) = .ok d ∧
      d.nanos = 3723500000000 := by
  have hour : total? hourTerms = some 3720000000000 := by decide
  have second : total? secondTerms = some 3500000000 := by decide
  have htext : unsignedText "+1h2m3.5s" = sumText (hourTerms ++ secondTerms) := by decide
  have hparse : parse "+1h2m3.5s" = .ok ⟨3723500000000, by decide⟩ := by
    rw [parse_grammar.1, htext]
    exact .sum nofun (by decide)
  have hfits : ¬Overflows (unsignedText "+1h2m3.5s") := fun hlong => by
    cases hparse.symm.trans ((parse_grammar.1 _ _).mpr (.overflow hlong))
  refine ⟨hfits, (parse_grammar.2.1 _ hfits).mpr (.inr ⟨_, by decide, htext⟩), ?_, by decide,
    by decide, ⟨3723500000000, by decide⟩, ?_, rfl⟩
  · have hfault : Fault ['3', '.', '5'] .noUnit := .noUnit (by decide) (by simp [isNumeral])
    have hbegins : Begins ['3', '.', '5'] := by
      rintro c ⟨⟩
      rfl
    have htext : unsignedText " 1h2m3.5 " = sumText hourTerms ++ ['3', '.', '5'] := by decide
    rw [parse_grammar.1, htext]
    exact .faulty (d := ⟨3720000000000, by decide⟩) hour hfault (.inr hbegins) (by decide)
      (by decide)
  · refine (parse_grammar.2.2 _ _ (by decide) (by decide) _).mpr
      ⟨⟨3720000000000, by decide⟩, ⟨3500000000, by decide⟩, ?_, ?_, rfl⟩
    · exact parse_sumText_of_reading (.sum (by decide) hour)
    · exact parse_sumText_of_reading (.sum (by decide) second)

end MeshDestination.Duration
