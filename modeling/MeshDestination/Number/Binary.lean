/-!
# Binary floating-point numbers

A format is a count of significant bits with a range of exponents; a number of it is kept as sign,
significand and exponent, so that every operation here is exact arithmetic on natural numbers
followed by one rounding. Rounding is to the nearest, a tie to the even neighbour.
-/

namespace MeshDestination.Number

/-- Rounds the quotient `num / den` to the nearest natural number, a tie to the even one. -/
def roundHalfEven (num den : Nat) : Nat :=
  let q := num / den
  let twice := 2 * (num % den)
  if twice < den then q
  else if den < twice then q + 1
  else if q % 2 == 0 then q else q + 1

/-- A binary format: significant bits, and the exponent of the last bit of the smallest and of the
largest numbers. -/
structure Format where
  bits : Nat
  minExponent : Int
  maxExponent : Int
  width : Nat

/-- The 64-bit format: 53 significant bits. -/
def Format.double : Format := ⟨53, -1074, 971, 64⟩

/-- The 32-bit format: 24 significant bits. -/
def Format.single : Format := ⟨24, -149, 104, 32⟩

/-- A number of a binary format. A finite one is `significand * 2 ^ exponent`. -/
inductive Binary where
  | nan
  | infinite (negative : Bool)
  | finite (negative : Bool) (significand : Nat) (exponent : Int)
  deriving DecidableEq

namespace Binary

/-- Zero, with a sign. -/
def zero (negative : Bool) : Binary := .finite negative 0 0

/-- The number with a given sign bit. -/
def withSign (negative : Bool) : Binary → Binary
  | .nan => .nan
  | .infinite _ => .infinite negative
  | .finite _ m e => .finite negative m e

def isNaN : Binary → Bool
  | .nan => true
  | _ => false

def isInfinite : Binary → Bool
  | .infinite _ => true
  | _ => false

/-- Whether the number is zero of either sign. -/
def isZero : Binary → Bool
  | .finite _ 0 _ => true
  | _ => false

/-- A power of two with an integer exponent, as numerator and denominator. -/
def powTwo (e : Int) : Nat × Nat :=
  if 0 ≤ e then (1 <<< e.toNat, 1) else (1, 1 <<< (-e).toNat)

/-- The magnitude of a finite number as a fraction. -/
def ratio (significand : Nat) (exponent : Int) : Nat × Nat :=
  let p := powTwo exponent
  (significand * p.1, p.2)

/-- The binary order of magnitude of a positive fraction: the least `k` with
`num / den < 2 ^ (k + 1)`. -/
def magnitude (num den : Nat) : Int :=
  let guess := (num.log2 : Int) - den.log2
  let p := powTwo guess
  if num * p.2 < den * p.1 then guess - 1 else guess

/-- The number of a format nearest to a fraction, a tie going to the even significand; infinite when
that lies beyond the largest finite number. -/
def ofRatio (f : Format) (negative : Bool) (num den : Nat) : Binary :=
  if num = 0 then zero negative
  else
    let e := max f.minExponent (magnitude num den - (f.bits - 1))
    let p := powTwo e
    let m := roundHalfEven (num * p.2) (den * p.1)
    let carried := m == 1 <<< f.bits
    let m := if carried then 1 <<< (f.bits - 1) else m
    let e := if carried then e + 1 else e
    if f.maxExponent < e then .infinite negative else .finite negative m e

/-- A natural number in a format. -/
def ofNat (f : Format) (n : Nat) : Binary := ofRatio f false n 1

/-- The nearest number of another format. -/
def toFormat (f : Format) : Binary → Binary
  | .finite s m e => let r := ratio m e; ofRatio f s r.1 r.2
  | x => x

/-- The product, rounded. -/
def mul (f : Format) : Binary → Binary → Binary
  | .nan, _ | _, .nan => .nan
  | .infinite s, .infinite t => .infinite (s != t)
  | .infinite s, .finite t m _ => if m = 0 then .nan else .infinite (s != t)
  | .finite s m _, .infinite t => if m = 0 then .nan else .infinite (s != t)
  | .finite s m e, .finite t n d => let r := ratio (m * n) (e + d); ofRatio f (s != t) r.1 r.2

/-- The quotient, rounded. -/
def div (f : Format) : Binary → Binary → Binary
  | .nan, _ | _, .nan => .nan
  | .infinite _, .infinite _ => .nan
  | .infinite s, .finite t _ _ => .infinite (s != t)
  | .finite s _ _, .infinite t => zero (s != t)
  | .finite s m e, .finite t n d =>
    if n = 0 then if m = 0 then .nan else .infinite (s != t)
    else
      let a := ratio m e
      let b := ratio n d
      ofRatio f (s != t) (a.1 * b.2) (a.2 * b.1)

/-- The number's bits in the interchange encoding of its format: sign, biased exponent, fraction.
Not a number has the quiet pattern. -/
def toBits (f : Format) : Binary → Nat
  | .nan => (((1 <<< (f.width - f.bits)) - 1) <<< (f.bits - 1)) + (1 <<< (f.bits - 2))
  | .infinite s => sign s + (((1 <<< (f.width - f.bits)) - 1) <<< (f.bits - 1))
  | .finite s m e =>
    if m < 1 <<< (f.bits - 1) then sign s + m
    else sign s + (((e - f.minExponent).toNat + 1) <<< (f.bits - 1)) + (m - (1 <<< (f.bits - 1)))
where
  sign (negative : Bool) : Nat := if negative then 1 <<< (f.width - 1) else 0

/-- The order of two numbers, and equality where the sign of zero does not count. Not a number is
unequal to every number. -/
def beq : Binary → Binary → Bool
  | .nan, _ | _, .nan => false
  | .infinite s, .infinite t => s == t
  | .finite s m e, .finite t n d =>
    if m = 0 && n = 0 then true
    else s == t && (ratio m e).1 * (ratio n d).2 == (ratio n d).1 * (ratio m e).2
  | _, _ => false

/-- Strictly less, for numbers proper. -/
def lt : Binary → Binary → Bool
  | .nan, _ | _, .nan => false
  | .infinite s, .infinite t => s && !t
  | .infinite s, .finite .. => s
  | .finite .., .infinite t => !t
  | .finite s m e, .finite t n d =>
    let p : Nat := (ratio m e).1 * (ratio n d).2
    let q : Nat := (ratio n d).1 * (ratio m e).2
    let a : Int := if s then -(p : Int) else p
    let b : Int := if t then -(q : Int) else q
    a < b

/-- The nearest natural number, a half going away from zero, kept within 64 bits: negative numbers
and what is not a number become zero, large ones the largest value. -/
def toCounter : Binary → UInt64
  | .nan => 0
  | .infinite negative => if negative then 0 else 0 - 1
  | .finite negative m e =>
    if negative then 0
    else
      let r := ratio m e
      let n := (2 * r.1 + r.2) / (2 * r.2)
      if n < UInt64.size then UInt64.ofNat n else 0 - 1

end Binary

end MeshDestination.Number
