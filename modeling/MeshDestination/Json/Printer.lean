import MeshDestination.Json.Basic

/-!
# Writing JSON

The compact form: no blanks, strings with the short escapes where there is one, other controls and
the line separators of Unicode by code point.
-/

namespace MeshDestination.Json

open Number

/-- Four hexadecimal digits. -/
def hex4 (n : Nat) : List Char :=
  let ds := Nat.toDigits 16 n
  List.replicate (4 - ds.length) '0' ++ ds

/-- One character of a string. -/
def escape (c : Char) : List Char :=
  match c with
  | '"' => ['\\', '"']
  | '\\' => ['\\', '\\']
  | '\n' => ['\\', 'n']
  | '\r' => ['\\', 'r']
  | '\t' => ['\\', 't']
  | '\x08' => ['\\', 'b']
  | '\x0c' => ['\\', 'f']
  | c =>
    if c.toNat < 0x20 || c.toNat == 0x85 || c.toNat == 0x2028 || c.toNat == 0x2029 then
      '\\' :: 'u' :: hex4 c.toNat
    else [c]

/-- A string with its quotes. -/
def renderString (s : String) : String :=
  "\"" ++ String.ofList (s.toList.flatMap escape) ++ "\""

/-- The digits of a fraction below one whose denominator divides a power of two; the fuel is that
power. -/
def fractionDigits (fuel num den : Nat) : List Char :=
  match fuel with
  | 0 => []
  | fuel + 1 =>
    if num = 0 then []
    else Char.ofNat ('0'.toNat + num * 10 / den) :: fractionDigits fuel (num * 10 % den) den

/-- A finite binary number in full decimal, with at least one digit after the point. What is not a
finite number is null. -/
def renderReal : Binary → String
  | .finite negative m e =>
    let r := Binary.ratio m e
    let frac := fractionDigits (-e).toNat (r.1 % r.2) r.2
    (if negative then "-" else "") ++ toString (r.1 / r.2) ++ "." ++
      (if frac.isEmpty then "0" else String.ofList frac)
  | _ => "null"

/-- A number. -/
def renderNum : Num → String
  | .natural n => toString n
  | .negative n => "-" ++ toString n
  | .real x => renderReal x

mutual
/-- The compact text of a document. -/
def render : Json → String
  | .null => "null"
  | .bool true => "true"
  | .bool false => "false"
  | .num n => renderNum n
  | .str s => renderString s
  | .broken => "null"
  | .arr items => "[" ++ renderItems items ++ "]"
  | .obj fields => "\x7b" ++ renderFields fields ++ "\x7d"

def renderItems : List Json → String
  | [] => ""
  | [j] => render j
  | j :: r => render j ++ "," ++ renderItems r

def renderFields : List (String × Json) → String
  | [] => ""
  | [(n, j)] => renderString n ++ ":" ++ render j
  | (n, j) :: r => renderString n ++ ":" ++ render j ++ "," ++ renderFields r
end

end MeshDestination.Json
