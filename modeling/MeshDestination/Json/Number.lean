import MeshDestination.Json.Basic
import MeshDestination.Number.Decimal

/-!
# The value of a number literal

A literal without point and exponent that fits 64 bits is exact, and so is a negative one that fits
64 bits with sign; minus zero is not such a number. Any other literal is binary: its digits are
gathered into a significand of 64 bits, digits that no longer fit are dropped, and the significand,
rounded to binary, is multiplied or divided by the power of ten. Two roundings may therefore happen.
A literal beyond the largest binary number has no value.
-/

namespace MeshDestination.Json

open Number

/-- The parts of a number literal. The point and the exponent may be missing. -/
structure NumLiteral where
  negative : Bool
  whole : List Char
  fraction : Option (List Char)
  exponent : Option (Bool × List Char)

/-- Takes digits into a significand while it stays within 64 bits: the significand, how many digits
were taken, and how many were left. -/
def takeDigits : List Char → (significand taken : Nat) → Nat × Nat × Nat
  | [], s, n => (s, n, 0)
  | c :: r, s, n =>
    let next := 10 * s + (c.toNat - '0'.toNat)
    if next < UInt64.size then takeDigits r next (n + 1) else (s, n, r.length + 1)

/-- A power of ten up to the 308th, as the nearest 64-bit binary number. -/
def powTen (n : Nat) : Binary := ofDecimal .double false 1 n

/-- Divides by the 308th power of ten until the exponent is in reach of one division. The fuel is
the exponent. -/
def scaleDown (fuel : Nat) (x : Binary) (e : Nat) : Binary :=
  if e ≤ 308 then Binary.div .double x (powTen e)
  else
    match fuel with
    | 0 => .zero false
    | fuel + 1 =>
      if x.isZero then x else scaleDown fuel (Binary.div .double x (powTen 308)) (e - 308)

/-- The significand times a power of ten; nothing when that is beyond the largest number. -/
def scale? (significand : Nat) (e : Int) : Option Binary :=
  let x := Binary.ofNat .double significand
  if e < 0 then some (scaleDown (-e).toNat x (-e).toNat)
  else if 308 < e then if x.isZero then some x else none
  else
    let y := Binary.mul .double x (powTen e.toNat)
    if y.isInfinite then none else some y

/-- The written exponent, kept within 32 bits. An exponent that does not fit makes the literal zero
or gives it no value. -/
inductive WrittenExponent where
  | value (e : Int)
  | huge
  | tiny

/-- The exponent of a literal. -/
def NumLiteral.writtenExponent (l : NumLiteral) : WrittenExponent :=
  match l.exponent with
  | none => .value 0
  | some (negative, ds) =>
    let n := digitsValue ds
    if n < 0x80000000 then .value (if negative then -(n : Int) else n)
    else if negative then .tiny else .huge

/-- The significand of a literal and its power of ten before the written exponent. -/
def NumLiteral.parts (l : NumLiteral) : Nat × Int :=
  let (s, _, leftWhole) := takeDigits l.whole 0 0
  match l.fraction with
  | none => (s, leftWhole)
  | some ds =>
    let (s, taken, _) := takeDigits ds s 0
    (s, (leftWhole : Int) - taken)

/-- The value of a literal as a 64-bit binary number. -/
def NumLiteral.binary? (l : NumLiteral) : Option Binary :=
  let (s, e) := l.parts
  let magnitude :=
    match l.writtenExponent with
    | .value w => scale? s (e + w)
    | .huge => if s = 0 then some (.zero false) else none
    | .tiny => some (.zero false)
  magnitude.map (·.withSign l.negative)

/-- The value of a literal, if it has one. -/
def NumLiteral.value? (l : NumLiteral) : Option Num :=
  let n := digitsValue l.whole
  if l.fraction.isNone && l.exponent.isNone && n < UInt64.size then
    if !l.negative then some (.natural n)
    else if 0 < n && n ≤ 0x8000000000000000 then some (.negative n)
    else l.binary?.map .real
  else l.binary?.map .real

end MeshDestination.Json
