import MeshDestination.Number.Decimal
import MeshDestination.Text.Quoted

/-!
# Durations

A duration is a count of nanoseconds below 2^64 seconds. Its text is a concatenation of parts, each
a decimal number and a unit. A part is worth the number times the unit's length, both and the
product taken as 64-bit binary numbers of seconds, rounded to the nanosecond; parts add up exactly.
-/

namespace MeshDestination

open Number Text

/-- Nanoseconds in a second. -/
def nanosPerSecond : Nat := 1000000000

/-- The first count of nanoseconds that is too long for a duration. -/
def Duration.bound : Nat := UInt64.size * nanosPerSecond

/-- A span of time in nanoseconds. -/
structure Duration where
  nanos : Nat
  nanos_lt : nanos < Duration.bound
  deriving DecidableEq

namespace Duration

/-- The whole seconds of a duration. -/
def seconds (d : Duration) : Nat := d.nanos / nanosPerSecond

/-- The nanoseconds beyond the whole seconds. -/
def subsecNanos (d : Duration) : Nat := d.nanos % nanosPerSecond

/-- The empty duration. -/
def zero : Duration := ⟨0, by decide⟩

/-- The duration of `n` nanoseconds, unless that is too long. -/
def ofNanos? (n : Nat) : Option Duration :=
  if h : n < bound then some ⟨n, h⟩ else none

/-- A unit of time. -/
inductive TimeUnit where
  | nanosecond
  | microsecond
  | millisecond
  | second
  | minute
  | hour
  deriving DecidableEq

/-- The unit's length in seconds, as the nearest 64-bit binary number. -/
def TimeUnit.length : TimeUnit → Binary
  | .nanosecond => ofDecimal .double false 1 (-9)
  | .microsecond => ofDecimal .double false 1 (-6)
  | .millisecond => ofDecimal .double false 1 (-3)
  | .second => ofDecimal .double false 1 0
  | .minute => ofDecimal .double false 60 0
  | .hour => ofDecimal .double false 3600 0

/-- The unit of a name. Microseconds may be written with the micro sign or the Greek letter. -/
def TimeUnit.ofName? (name : List Char) : Option TimeUnit :=
  if name = ['n', 's'] then some .nanosecond
  else if name = ['u', 's'] ∨ name = ['\u00b5', 's'] ∨ name = ['\u03bc', 's'] then some .microsecond
  else if name = ['m', 's'] then some .millisecond
  else if name = ['s'] then some .second
  else if name = ['m'] then some .minute
  else if name = ['h'] then some .hour
  else none

/-- Why a text is not a duration. -/
inductive ParseError where
  | empty
  | negative
  | noUnit
  | invalidUnit (name : String)
  | notANumber (cause : DecimalError)
  /-- The text is well formed so far, but the value does not fit a duration. -/
  | overflow
  deriving DecidableEq

/-- The units as an error message lists them. -/
def expectedUnits : String :=
  "expected one of 'ns', 'us', '\u00b5s', 'ms', 's', 'm', or 'h'"

/-- The wording of a parse error. -/
def ParseError.message : ParseError → String
  | .empty => "empty duration"
  | .negative => "negative durations are not supported"
  | .noUnit => "missing a unit: " ++ expectedUnits
  | .invalidUnit name => "invalid unit " ++ quoted name ++ ": " ++ expectedUnits
  | .notANumber cause => "invalid number: " ++ cause.message
  | .overflow => "duration out of range"

/-- Characters that a number is written with. -/
def isNumeral (c : Char) : Bool := c.isDigit || c == '.'

/-- Seconds to nanoseconds, to the nearest, a tie to the even one. -/
def nanosOfSeconds? : Binary → Option Nat
  | .finite negative m e =>
    if negative && m != 0 then none
    else let r := Binary.ratio m e; some (roundHalfEven (r.1 * nanosPerSecond) r.2)
  | _ => none

/-- The length of `value` units. -/
def scaled? (unit : TimeUnit) (value : Binary) : Option Duration :=
  (nanosOfSeconds? (Binary.mul .double value unit.length)).bind ofNanos?

/-- The sum of two durations, unless it is too long. -/
def add? (a b : Duration) : Option Duration := ofNanos? (a.nanos + b.nanos)

/-- One part of a duration's text with what follows it. -/
structure Part where
  number : List Char
  unit : List Char
  rest : List Char

/-- Splits the first part off: a run of numerals, then a run of other characters. There is none when
only numerals are left. -/
def Part.split? (s : List Char) : Option Part :=
  let tail := s.dropWhile isNumeral
  if tail.isEmpty then none
  else some {
    number := s.takeWhile isNumeral
    unit := tail.takeWhile (!isNumeral ·)
    rest := tail.dropWhile (!isNumeral ·) }

theorem length_dropWhile_le (p : Char → Bool) (s : List Char) :
    (s.dropWhile p).length ≤ s.length :=
  (List.dropWhile_sublist p).length_le

theorem Part.length_rest_lt {s : List Char} {p : Part} (h : Part.split? s = some p) :
    p.rest.length < s.length := by
  unfold Part.split? at h
  simp only at h
  split at h
  · exact absurd h (by simp)
  · rename_i hne
    injection h with h
    subst h
    have hle : (s.dropWhile isNumeral).length ≤ s.length := length_dropWhile_le _ _
    cases ht : s.dropWhile isNumeral with
    | nil => simp [ht] at hne
    | cons c r =>
      have hc : isNumeral c = false := by
        have := List.head?_dropWhile_not isNumeral s
        simp [ht] at this
        exact this
      have hr : ((c :: r).dropWhile (!isNumeral ·)).length ≤ r.length := by
        simp only [List.dropWhile_cons, hc, Bool.not_false, if_true]
        exact length_dropWhile_le _ _
      rw [ht] at hle
      simp only [List.length_cons] at hle
      simp only
      omega

/-- The value of one part. -/
def Part.value (p : Part) : Except ParseError Duration := do
  let number ← (parseDecimal .double p.number).mapError .notANumber
  match TimeUnit.ofName? p.unit with
  | none => .error (.invalidUnit (String.ofList p.unit))
  | some unit =>
    match scaled? unit number with
    | none => .error .overflow
    | some d => .ok d

/-- Adds the parts of `s` to `total`, left to right; the first fault wins. -/
def sumParts (s : List Char) (total : Duration) : Except ParseError Duration :=
  if s.isEmpty then .ok total
  else
    match _h : Part.split? s with
    | none => .error .noUnit
    | some p =>
      match p.value with
      | .error e => .error e
      | .ok d =>
        match total.add? d with
        | none => .error .overflow
        | some sum => sumParts p.rest sum
termination_by s.length
decreasing_by exact Part.length_rest_lt _h

/-- A duration's text without blanks around it and without one leading plus sign. -/
def unsignedText (s : String) : List Char :=
  match trimBlank s.toList with
  | '+' :: r => r
  | r => r

/-- Reads a duration. Zero alone needs no unit. -/
def parse (s : String) : Except ParseError Duration :=
  match unsignedText s with
  | '-' :: _ => .error .negative
  | [] => .error .empty
  | ['0'] => .ok zero
  | r => sumParts r zero

end Duration

end MeshDestination
