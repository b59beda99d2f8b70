import MeshDestination.Text.Property
import MeshDestination.Text.Table.Lowercase

/-!
# Upper and lower case

Lower-casing is the full mapping of Unicode with its one contextual rule, the final sigma.
Upper-casing is needed for tokens that must be ASCII afterwards, so it maps exactly the characters
whose upper-case form is ASCII and leaves all others alone.
-/

namespace MeshDestination.Text

/-- The single lower-case form of a character, itself if there is none. -/
def lowerChar (c : Char) : Char :=
  let n := c.toNat
  if n < 0x80 then c.toLower
  else
    let run := lowerRuns.find? fun r => r.first ≤ n && n ≤ r.last && (n - r.first) % r.stride == 0
    match run with
    | some r => Char.ofNat ((n : Int) + r.offset).toNat
    | none => c

/-- Whether a word goes on: the next character that is not ignorable is cased. -/
def nextIsCased (s : List Char) : Bool :=
  match s.dropWhile isCaseIgnorable with
  | c :: _ => isCased c
  | [] => false

/-- Lower-cases `rest`, given the characters before it, nearest first. A capital sigma that ends a
word becomes the final form. -/
def lowerFrom (before : List Char) : List Char → List Char
  | [] => []
  | c :: rest =>
    let low :=
      if c == 'Σ' then [if nextIsCased before && !nextIsCased rest then 'ς' else 'σ']
      else if c == 'İ' then ['i', '\u0307']
      else [lowerChar c]
    low ++ lowerFrom (c :: before) rest

/-- The lower-case form of a text. -/
def lowercase (s : String) : String :=
  String.ofList (lowerFrom [] s.toList)

/-- The upper-case form of a character, where that is ASCII; otherwise the character itself. -/
def upperChar (c : Char) : List Char :=
  match c.toNat with
  | 0xDF => ['S', 'S']
  | 0x131 => ['I']
  | 0x17F => ['S']
  | 0xFB00 => ['F', 'F']
  | 0xFB01 => ['F', 'I']
  | 0xFB02 => ['F', 'L']
  | 0xFB03 => ['F', 'F', 'I']
  | 0xFB04 => ['F', 'F', 'L']
  | 0xFB05 => ['S', 'T']
  | 0xFB06 => ['S', 'T']
  | _ => [c.toUpper]

/-- A text with every character that has an ASCII upper-case form replaced by it. -/
def uppercaseAscii (s : String) : String :=
  String.ofList (s.toList.flatMap upperChar)

end MeshDestination.Text
