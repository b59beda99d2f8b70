import Std.Data.TreeMap

/-!
# IP addresses

Addresses of both families, their text and their order. Every IPv4 address comes before every IPv6
address; within a family the order is that of the bits. The text of an IPv6 address is its shortest
canonical form, with the last 32 bits in dotted form when the address maps an IPv4 one.
-/

namespace MeshDestination.Net

/-- An address of either family, as its bits. -/
inductive Ip where
  | v4 (bits : BitVec 32)
  | v6 (bits : BitVec 128)
  deriving DecidableEq

/-! ## Order -/

/-- The position of an address among all addresses. -/
def Ip.rank : Ip → Nat
  | .v4 b => b.toNat
  | .v6 b => UInt32.size + b.toNat

theorem Ip.rank_injective {a b : Ip} (h : a.rank = b.rank) : a = b := by
  cases a with
  | v4 x =>
    cases b with
    | v4 y => exact congrArg Ip.v4 (BitVec.eq_of_toNat_eq h)
    | v6 y => have := x.isLt; simp only [Ip.rank, UInt32.size] at h; omega
  | v6 x =>
    cases b with
    | v4 y => have := y.isLt; simp only [Ip.rank, UInt32.size] at h; omega
    | v6 y =>
      simp only [Ip.rank] at h
      exact congrArg Ip.v6 (BitVec.eq_of_toNat_eq (by omega))

instance : Ord Ip := ⟨compareOn Ip.rank⟩

instance : Std.TransOrd Ip := inferInstanceAs (Std.TransCmp (compareOn Ip.rank))

instance : Std.LawfulEqOrd Ip where
  compare_self := by intro a; exact Std.compare_self (a := a.rank)
  eq_of_compare {a b} h := Ip.rank_injective (Std.LawfulEqOrd.eq_of_compare (a := a.rank) h)

/-! ## Dotted form -/

/-- The decimal value of a run of digits that is at most `bound`. -/
def decimal? (bound : Nat) (ds : List Char) : Option Nat :=
  if ds.isEmpty || !ds.all Char.isDigit then none
  else
    let n := ds.foldl (fun n c => 10 * n + (c.toNat - '0'.toNat)) 0
    if n ≤ bound then some n else none

/-- One part of a dotted address: at most three digits, none of them a leading zero. -/
def octet? (ds : List Char) : Option (BitVec 8) :=
  if 3 < ds.length then none
  else
    match ds with
    | '0' :: _ :: _ => none
    | _ => (decimal? 255 ds).map (BitVec.ofNat 8)

/-- The pieces of a text between occurrences of a character. -/
def pieces (sep : Char) : List Char → List (List Char)
  | [] => [[]]
  | c :: r =>
    if c = sep then [] :: pieces sep r
    else
      match pieces sep r with
      | [] => [[c]]
      | p :: ps => (c :: p) :: ps

/-- Reads four octets with dots between them. -/
def dotted? (s : List Char) : Option (BitVec 32) :=
  match pieces '.' s with
  | [a, b, c, d] => do
    let a ← octet? a
    let b ← octet? b
    let c ← octet? c
    let d ← octet? d
    some (a ++ b ++ c ++ d)
  | _ => none

/-- Four octets with dots between them. -/
def dotted (b : BitVec 32) : String :=
  let octet (shift : Nat) := toString ((b >>> shift).toNat % 256)
  octet 24 ++ "." ++ octet 16 ++ "." ++ octet 8 ++ "." ++ octet 0

/-! ## Colon form -/

/-- The value of a hexadecimal digit. -/
def hexDigit? (c : Char) : Option Nat :=
  if c.isDigit then some (c.toNat - '0'.toNat)
  else if 'a' ≤ c && c ≤ 'f' then some (c.toNat - 'a'.toNat + 10)
  else if 'A' ≤ c && c ≤ 'F' then some (c.toNat - 'A'.toNat + 10)
  else none

/-- A group of an IPv6 address: one to four hexadecimal digits. -/
def group? (s : List Char) : Option (BitVec 16) :=
  if s.isEmpty || 4 < s.length then none
  else (s.mapM hexDigit?).map fun ds => BitVec.ofNat 16 (ds.foldl (fun n d => 16 * n + d) 0)

/-- The groups of colon-separated pieces. The last piece may be a dotted address, which is worth two
groups. -/
def groups? : List (List Char) → Option (List (BitVec 16))
  | [] => some []
  | [p] =>
    match group? p with
    | some g => some [g]
    | none => (dotted? p).map fun b => [b.extractLsb' 16 16, b.extractLsb' 0 16]
  | p :: ps => do
    let g ← group? p
    let gs ← groups? ps
    some (g :: gs)

/-- The groups of one side of a double colon, which may be empty. -/
def side? (s : List Char) : Option (List (BitVec 16)) :=
  if s.isEmpty then some [] else groups? (pieces ':' s)

/-- The text before and after the first double colon. -/
def splitDoubleColon : List Char → Option (List Char × List Char)
  | ':' :: ':' :: r => some ([], r)
  | c :: r => (splitDoubleColon r).map fun (a, b) => (c :: a, b)
  | [] => none

/-- The address of eight groups. -/
def ofGroups (gs : List (BitVec 16)) : BitVec 128 :=
  BitVec.ofNat 128 (gs.foldl (fun n g => n * 65536 + g.toNat) 0)

/-- The eight groups of an address, first to last. -/
def groupsOf (b : BitVec 128) : List Nat :=
  (List.range 8).map fun i => (b >>> (16 * (7 - i))).toNat % 65536

/-- Reads eight groups, or fewer around one double colon, which stands for at least one zero group.
A dotted tail is not allowed before the double colon. -/
def colons? (s : List Char) : Option (BitVec 128) :=
  match splitDoubleColon s with
  | none =>
    match groups? (pieces ':' s) with
    | some gs => if gs.length = 8 then some (ofGroups gs) else none
    | none => none
  | some (front, back) => do
    let head ← side? front
    let tail ← side? back
    if front.contains '.' || 7 < head.length + tail.length then none
    else some (ofGroups (head ++ List.replicate (8 - (head.length + tail.length)) 0 ++ tail))

/-- The first longest run of zero groups, as start and length. -/
def longestZeroRun (gs : List Nat) : Nat × Nat :=
  let runAt (i : Nat) := ((gs.drop i).takeWhile (· == 0)).length
  (List.range gs.length).foldl (fun best i => if best.2 < runAt i then (i, runAt i) else best)
    (0, 0)

/-- Groups in hexadecimal with colons between them. -/
def joinGroups (gs : List Nat) : String :=
  ":".intercalate (gs.map fun g => String.ofList (Nat.toDigits 16 g))

/-- The canonical text of an IPv6 address. -/
def colons (b : BitVec 128) : String :=
  if b >>> 32 = 0xFFFF then "::ffff:" ++ dotted (b.truncate 32)
  else
    let gs := groupsOf b
    let (start, length) := longestZeroRun gs
    if 1 < length then joinGroups (gs.take start) ++ "::" ++ joinGroups (gs.drop (start + length))
    else joinGroups gs

/-! ## Reading and writing -/

/-- Reads an address of either family. -/
def Ip.ofText? (s : String) : Option Ip :=
  match dotted? s.toList with
  | some b => some (.v4 b)
  | none => (colons? s.toList).map .v6

/-- The text of an address. -/
def Ip.text : Ip → String
  | .v4 b => dotted b
  | .v6 b => colons b

end MeshDestination.Net
