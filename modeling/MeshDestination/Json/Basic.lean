import MeshDestination.Number.Binary

/-!
# JSON documents

Documents keep the order of their fields and fields that occur more than once. A literal may be well
formed and still denote nothing: a number out of range, a string with half of a surrogate pair or
with bytes that are no text. Such a literal is `broken`, and so is an object that has one for a
name; it is harmless where a reader skips it and a fault where a reader wants its value.
-/

namespace MeshDestination

open Number

/-- A number of a document: whole numbers of 64 bits are exact, all others are 64-bit binary. -/
inductive Json.Num where
  | natural (n : Nat)
  /-- The number `-n`. -/
  | negative (n : Nat)
  | real (x : Binary)
  deriving DecidableEq

/-- A JSON document. -/
inductive Json where
  | null
  | bool (b : Bool)
  | num (n : Json.Num)
  | str (s : String)
  | broken
  | arr (items : List Json)
  | obj (fields : List (String × Json))

namespace Json

/-- A whole number. -/
def ofNat (n : Nat) : Json := .num (.natural n)

/-- A binary number; null if it is not a finite one. -/
def ofBinary : Binary → Json
  | .finite negative m e => .num (.real (.finite negative m e))
  | _ => .null

/-- A text, or null. -/
def ofText? : Option String → Json
  | some s => .str s
  | none => .null

/-- The value of the last field of a name in a list of fields. -/
def lookup (name : String) (fields : List (String × Json)) : Option Json :=
  (fields.reverse.find? (·.1 == name)).map (·.2)

/-- The value of a document's last field of a name. -/
def field? (name : String) : Json → Option Json
  | .obj fields => lookup name fields
  | _ => none

/-- Inserts a field in front of fields that are ascending by name, unless its name is there. -/
def insertField (name : String) (value : Json) : List (String × Json) → List (String × Json)
  | [] => [(name, value)]
  | (n, v) :: r =>
    if name < n then (name, value) :: (n, v) :: r
    else if name = n then (n, v) :: r
    else (n, v) :: insertField name value r

mutual
/-- The document with fields ascending by name; of several fields of one name the last stays. -/
def normalize : Json → Json
  | .arr items => .arr (normalizeItems items)
  | .obj fields => .obj (normalizeFields fields)
  | j => j

def normalizeItems : List Json → List Json
  | [] => []
  | j :: r => normalize j :: normalizeItems r

def normalizeFields : List (String × Json) → List (String × Json)
  | [] => []
  | (n, j) :: r => insertField n (normalize j) (normalizeFields r)
end

mutual
/-- How deeply arrays and objects nest. -/
def depth : Json → Nat
  | .arr items => depthItems items + 1
  | .obj fields => depthFields fields + 1
  | _ => 0

def depthItems : List Json → Nat
  | [] => 0
  | j :: r => max (depth j) (depthItems r)

def depthFields : List (String × Json) → Nat
  | [] => 0
  | (_, j) :: r => max (depth j) (depthFields r)
end

mutual
/-- Whether every literal of a document denotes a value. -/
def isSound : Json → Bool
  | .broken => false
  | .arr items => areSound items
  | .obj fields => areSoundFields fields
  | _ => true

def areSound : List Json → Bool
  | [] => true
  | j :: r => isSound j && areSound r

def areSoundFields : List (String × Json) → Bool
  | [] => true
  | (_, j) :: r => isSound j && areSoundFields r
end

/-! ## Reading values -/

/-- A text. -/
def text? : Json → Option String
  | .str s => some s
  | _ => none

/-- A truth value. -/
def bool? : Json → Option Bool
  | .bool b => some b
  | _ => none

/-- A whole number, as an integer. -/
def int? : Json → Option Int
  | .num (.natural n) => some n
  | .num (.negative n) => some (-(n : Int))
  | _ => none

/-- A whole number from 0 up to a bound. -/
def nat? (bound : Nat) (j : Json) : Option Nat :=
  match j.int? with
  | some (Int.ofNat n) => if n ≤ bound then some n else none
  | _ => none

/-- A whole number of 32 bits with sign. -/
def int32? (j : Json) : Option Int :=
  match j.int? with
  | some n => if -2147483648 ≤ n && n ≤ 2147483647 then some n else none
  | none => none

/-- A number of a binary format. -/
def binary? (f : Format) : Json → Option Binary
  | .num (.natural n) => some (.ofRatio f false n 1)
  | .num (.negative n) => some (.ofRatio f true n 1)
  | .num (.real x) => some (x.toFormat f)
  | _ => none

/-- The items of an array. -/
def items? : Json → Option (List Json)
  | .arr items => some items
  | _ => none

/-- The values of the named fields of a record. A record is an object, in which a named field may
occur at most once and other fields are ignored, or an array of the fields' values in order, which
may end early. -/
def record? (names : List String) : Json → Option (List (Option Json))
  | .obj fields =>
    names.mapM fun name =>
      match fields.filter (·.1 == name) with
      | [] => some none
      | [f] => some (some f.2)
      | _ => none
  | .arr items =>
    if items.length ≤ names.length then
      some (items.map some ++ List.replicate (names.length - items.length) none)
    else none
  | _ => none

/-- Reads an optional value: null counts as absent. -/
def nullable (read : Json → Option α) : Json → Option (Option α)
  | .null => some none
  | j => (read j).map some

/-- Reads a field that may be missing or null. -/
def optional (read : Json → Option α) : Option Json → Option (Option α)
  | none => some none
  | some j => nullable read j

/-- Reads a field that may be missing but not null. -/
def withDefault (default : α) (read : Json → Option α) : Option Json → Option α
  | none => some default
  | some j => read j

/-- Reads a field that must be there. -/
def required (read : Json → Option α) : Option Json → Option α
  | none => none
  | some j => read j

end Json

end MeshDestination
