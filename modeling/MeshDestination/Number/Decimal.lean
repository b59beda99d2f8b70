import MeshDestination.Number.Binary

/-!
# Decimal text

The value of a number written in decimal, and the grammar of such text: an optional sign, digits
with at most one point and at least one digit, and an optional exponent; also the words for infinity
and for what is not a number, in any case.
-/

namespace MeshDestination.Number

/-- The value of a run of decimal digits. -/
def digitsValue (ds : List Char) : Nat :=
  ds.foldl (fun n c => 10 * n + (c.toNat - '0'.toNat)) 0

/-- How many decimal digits a natural number has; zero has none. -/
def decimalLength (n : Nat) : Nat :=
  if n = 0 then 0 else (Nat.toDigits 10 n).length

/-- The number of a format nearest to `m * 10 ^ e`. Values far out of the format's range are not
written out in digits. -/
def ofDecimal (f : Format) (negative : Bool) (m : Nat) (e : Int) : Binary :=
  if m = 0 then .zero negative
  else if 400 < decimalLength m + e then .infinite negative
  else if decimalLength m + e < -400 then .zero negative
  else if 0 ≤ e then .ofRatio f negative (m * Nat.pow 10 e.toNat) 1
  else .ofRatio f negative m (Nat.pow 10 (-e).toNat)

/-- Why a text is not a number. -/
inductive DecimalError where
  | empty
  | invalid
  deriving DecidableEq

/-- The wording of a decimal error. -/
def DecimalError.message : DecimalError → String
  | .empty => "cannot parse float from empty string"
  | .invalid => "invalid float literal"

/-- Splits an optional sign off: whether it is a minus, and the rest. -/
def splitSign : List Char → Bool × List Char
  | '-' :: r => (true, r)
  | '+' :: r => (false, r)
  | r => (false, r)

/-- The exponent after the exponent letter: an optional sign and at least one digit. -/
def exponentValue? (s : List Char) : Option Int :=
  let (negative, ds) := splitSign s
  if ds.isEmpty || !ds.all Char.isDigit then none
  else some (if negative then -(digitsValue ds : Int) else digitsValue ds)

/-- The exponent part: nothing, or a letter and its value. -/
def exponentPart? : List Char → Option Int
  | [] => some 0
  | c :: r => if c = 'e' ∨ c = 'E' then exponentValue? r else none

/-- The unsigned decimal number `s`, as significand and power of ten. -/
def decimalParts? (s : List Char) : Option (Nat × Int) :=
  let whole := s.takeWhile Char.isDigit
  let rest := s.dropWhile Char.isDigit
  let (fraction, rest) :=
    match rest with
    | '.' :: r => (r.takeWhile Char.isDigit, r.dropWhile Char.isDigit)
    | r => ([], r)
  if whole.isEmpty && fraction.isEmpty then none
  else (exponentPart? rest).map fun e => (digitsValue (whole ++ fraction), e - fraction.length)

/-- Reads a number of a format from its decimal text. -/
def parseDecimal (f : Format) (s : List Char) : Except DecimalError Binary :=
  if s.isEmpty then .error .empty
  else
    let (negative, r) := splitSign s
    let word := r.map Char.toLower
    if word == "inf".toList || word == "infinity".toList then .ok (.infinite negative)
    else if word == "nan".toList then .ok .nan
    else
      match decimalParts? r with
      | some (m, e) => .ok (ofDecimal f negative m e)
      | none => .error .invalid

end MeshDestination.Number
