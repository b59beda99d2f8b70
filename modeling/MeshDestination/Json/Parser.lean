import MeshDestination.Json.Number

/-!
# Reading JSON

The grammar of JSON over bytes. A fault of the grammar fails the whole document; a literal that is
well formed but denotes nothing becomes `Json.broken`, and so does an object with a name that is no
proper text.
-/

namespace MeshDestination.Json

/-- Skips the four blank characters of the format. -/
def skipBlank : List UInt8 → List UInt8
  | b :: r => if b = 0x20 ∨ b = 0x0A ∨ b = 0x0D ∨ b = 0x09 then skipBlank r else b :: r
  | [] => []

/-! ## Strings -/

/-- The value of four hexadecimal digits. -/
def hex4? (a b c d : UInt8) : Option Nat :=
  let digit (x : UInt8) : Option Nat :=
    let c := Char.ofNat x.toNat
    if c.isDigit then some (c.toNat - '0'.toNat)
    else if 'a' ≤ c && c ≤ 'f' then some (c.toNat - 'a'.toNat + 10)
    else if 'A' ≤ c && c ≤ 'F' then some (c.toNat - 'A'.toNat + 10)
    else none
  do
    let a ← digit a
    let b ← digit b
    let c ← digit c
    let d ← digit d
    some (((a * 16 + b) * 16 + c) * 16 + d)

/-- The byte of a one-letter escape. -/
def shortEscape? (b : UInt8) : Option UInt8 :=
  match Char.ofNat b.toNat with
  | '"' => some 0x22
  | '\\' => some 0x5C
  | '/' => some 0x2F
  | 'b' => some 0x08
  | 'f' => some 0x0C
  | 'n' => some 0x0A
  | 'r' => some 0x0D
  | 't' => some 0x09
  | _ => none

/-- The bytes of a code point. -/
def codePointBytes (n : Nat) : List UInt8 := (String.singleton (Char.ofNat n)).toUTF8.toList

/-- What is known of a string while it is read: its bytes, last first, whether it is proper text so
far, and the first half of a surrogate pair that waits for the second. -/
structure StringScan where
  bytes : List UInt8 := []
  sound : Bool := true
  half : Option Nat := none

/-- Adds plain bytes. A waiting half is then alone. -/
def StringScan.push (st : StringScan) (bs : List UInt8) : StringScan :=
  { bytes := bs.reverse ++ st.bytes, sound := st.sound && st.half.isNone, half := none }

/-- Adds an escaped unit of 16 bits. -/
def StringScan.pushUnit (st : StringScan) (u : Nat) : StringScan :=
  match st.half with
  | some high =>
    if 0xDC00 ≤ u && u < 0xE000 then
      { st with
        bytes :=
          (codePointBytes (0x10000 + (high - 0xD800) * 0x400 + (u - 0xDC00))).reverse ++ st.bytes
        half := none }
    else { st with sound := false, half := none }
  | none =>
    if 0xD800 ≤ u && u < 0xDC00 then { st with half := some u }
    else if 0xDC00 ≤ u && u < 0xE000 then { st with sound := false }
    else st.push (codePointBytes u)

/-- The text of a finished string, if it is one. -/
def StringScan.text? (st : StringScan) : Option String :=
  if st.sound && st.half.isNone then String.fromUTF8? ⟨st.bytes.reverse.toArray⟩ else none

/-- Reads a string after its opening quote: the text, if it is proper, and the rest. -/
def readString (st : StringScan) : List UInt8 → Option (Option String × List UInt8)
  | [] => none
  | 0x22 :: r => some (st.text?, r)
  | 0x5C :: 0x75 :: a :: b :: c :: d :: r =>
    match hex4? a b c d with
    | some u => readString (st.pushUnit u) r
    | none => none
  | 0x5C :: e :: r =>
    match shortEscape? e with
    | some b => readString (st.push [b]) r
    | none => none
  | [0x5C] => none
  | b :: r => if b < 0x20 then none else readString (st.push [b]) r

/-! ## Numbers -/

/-- A run of digits and the rest. -/
def readDigits : List UInt8 → List Char × List UInt8
  | b :: r =>
    if 0x30 ≤ b ∧ b ≤ 0x39 then
      let (ds, rest) := readDigits r
      (Char.ofNat b.toNat :: ds, rest)
    else ([], b :: r)
  | [] => ([], [])

/-- An optional point with at least one digit after it. -/
def readFraction : List UInt8 → Option (Option (List Char) × List UInt8)
  | 0x2E :: r =>
    let (ds, rest) := readDigits r
    if ds.isEmpty then none else some (some ds, rest)
  | r => some (none, r)

/-- The digits of an exponent after its sign. -/
def readExponentDigits (negative : Bool) (r : List UInt8) :
    Option (Option (Bool × List Char) × List UInt8) :=
  let (ds, rest) := readDigits r
  if ds.isEmpty then none else some (some (negative, ds), rest)

/-- An optional exponent. -/
def readExponent : List UInt8 → Option (Option (Bool × List Char) × List UInt8)
  | 0x65 :: 0x2D :: r | 0x45 :: 0x2D :: r => readExponentDigits true r
  | 0x65 :: 0x2B :: r | 0x45 :: 0x2B :: r => readExponentDigits false r
  | 0x65 :: r | 0x45 :: r => readExponentDigits false r
  | r => some (none, r)

/-- A number literal after its sign. No digit follows a leading zero. -/
def readNumber (negative : Bool) (s : List UInt8) : Option (Json × List UInt8) := do
  let (whole, r) := readDigits s
  match whole with
  | [] => none
  | '0' :: _ :: _ => none
  | _ =>
    let (fraction, r) ← readFraction r
    let (exponent, r) ← readExponent r
    match (NumLiteral.mk negative whole fraction exponent).value? with
    | some n => some (.num n, r)
    | none => some (.broken, r)

/-! ## Values -/

/-- The rest of a text behind a word. -/
def readWord (word s : List UInt8) : Option (List UInt8) :=
  if word.isPrefixOf s then some (s.drop word.length) else none

mutual
/-- Reads one value. The fuel bounds the bytes that are left. -/
def readValue : (fuel : Nat) → List UInt8 → Option (Json × List UInt8)
  | 0, _ => none
  | fuel + 1, s =>
    match skipBlank s with
    | [] => none
    | 0x6E :: r => (readWord "ull".toUTF8.toList r).map fun r => (.null, r)
    | 0x74 :: r => (readWord "rue".toUTF8.toList r).map fun r => (.bool true, r)
    | 0x66 :: r => (readWord "alse".toUTF8.toList r).map fun r => (.bool false, r)
    | 0x22 :: r => (readString {} r).map fun (t, r) => (t.elim .broken .str, r)
    | 0x2D :: r => readNumber true r
    | 0x5B :: r =>
      match skipBlank r with
      | 0x5D :: r => some (.arr [], r)
      | r => (readItems fuel r).map fun (js, r) => (.arr js, r)
    | 0x7B :: r =>
      match skipBlank r with
      | 0x7D :: r => some (.obj [], r)
      | r => (readFields fuel r).map fun (fs, r) => (fs.elim .broken .obj, r)
    | r => readNumber false r

/-- Reads the items of an array up to its bracket. -/
def readItems : (fuel : Nat) → List UInt8 → Option (List Json × List UInt8)
  | 0, _ => none
  | fuel + 1, s =>
    match readValue fuel s with
    | none => none
    | some (j, r) =>
      match skipBlank r with
      | 0x2C :: r => (readItems fuel r).map fun (js, r) => (j :: js, r)
      | 0x5D :: r => some ([j], r)
      | _ => none

/-- Reads the fields of an object up to its brace: the fields, if all names are proper text, and the
rest. -/
def readFields :
    (fuel : Nat) → List UInt8 → Option (Option (List (String × Json)) × List UInt8)
  | 0, _ => none
  | fuel + 1, s =>
    match skipBlank s with
    | 0x22 :: r =>
      match readString {} r with
      | some (name, r) =>
        match skipBlank r with
        | 0x3A :: r =>
          match readValue fuel r with
          | none => none
          | some (j, r) =>
            match skipBlank r with
            | 0x2C :: r =>
              (readFields fuel r).map fun (fs, r) => (name.bind fun n => fs.map ((n, j) :: ·), r)
            | 0x7D :: r => some (name.map fun n => [(n, j)], r)
            | _ => none
        | _ => none
      | _ => none
    | _ => none
end

/-- Reads a document from bytes; nothing but blanks may follow it. -/
def parseBytes (bytes : List UInt8) : Option Json :=
  match readValue (bytes.length + 1) bytes with
  | some (j, r) => if (skipBlank r).isEmpty then some j else none
  | none => none

/-- Reads a document from text. -/
def parse (s : String) : Option Json := parseBytes s.toUTF8.toList

end MeshDestination.Json
