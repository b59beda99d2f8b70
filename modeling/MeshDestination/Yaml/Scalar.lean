import MeshDestination.Number.Decimal

/-!
# YAML scalars

How a text is written as a scalar of a block: plain where that reads back as the same text, between
single quotes where it would read as something else, between double quotes where characters must be
escaped, and as a literal block if it has several lines.
-/

namespace MeshDestination.Yaml

open Number

/-! ## What a plain scalar reads as -/

/-- The digit of a base. -/
def digitOf? (base : Nat) (c : Char) : Option Nat :=
  let value :=
    if c.isDigit then some (c.toNat - '0'.toNat)
    else if 'a' ≤ c && c ≤ 'f' then some (c.toNat - 'a'.toNat + 10)
    else if 'A' ≤ c && c ≤ 'F' then some (c.toNat - 'A'.toNat + 10)
    else none
  value.filter (· < base)

/-- The value of one or more digits of a base. -/
def digits? (base : Nat) (s : List Char) : Option Nat :=
  if s.isEmpty then none
  else (s.mapM (digitOf? base)).map fun ds => ds.foldl (fun n d => base * n + d) 0

/-- The base that digits are marked with, if any, and the digits. -/
def splitBase : List Char → Nat × List Char
  | '0' :: 'x' :: r => (16, r)
  | '0' :: 'o' :: r => (8, r)
  | '0' :: 'b' :: r => (2, r)
  | r => (10, r)

/-- The first whole number that does not fit 128 bits. -/
def wordBound : Nat := 1 <<< 128

/-- Whether a text is only digits with a zero before others, perhaps after a sign. Such a text is
not taken for a number. -/
def hasLeadingZero (s : List Char) : Bool :=
  let unsigned := match s with
    | '+' :: r => r
    | '-' :: r => r
    | r => r
  match unsigned with
  | '0' :: r => !r.isEmpty && r.all Char.isDigit
  | _ => false

/-- Whether digits of some base are a number below a bound. -/
def isWhole (s : List Char) (bound : Nat) : Bool :=
  let (base, ds) := splitBase s
  match digits? base ds with
  | some n => n < bound
  | none => false

/-- Whether a text reads as a whole number of 128 bits, with a sign from half of that down. -/
def isInteger (s : List Char) : Bool :=
  !hasLeadingZero s &&
    match s with
    | '+' :: r => isWhole r wordBound
    | '-' :: r => isWhole r (wordBound / 2 + 1)
    | r => isWhole r wordBound

/-- Whether a text reads as an infinite number or as none. -/
def isSpecialReal (s : List Char) : Bool :=
  let infinite := [".inf", ".Inf", ".INF"].map String.toList
  let nan := [".nan", ".NaN", ".NAN"].map String.toList
  nan.contains s ||
    match s with
    | '+' :: r => infinite.contains r
    | '-' :: r => infinite.contains r
    | r => infinite.contains r

/-- Whether a text reads as a number with a finite 64-bit binary value. -/
def isFiniteReal (s : List Char) : Bool :=
  let unsigned? : Option (List Char) := match s with
    | '+' :: '+' :: _ => none
    | '+' :: '-' :: _ => none
    | '+' :: r => some r
    | r => some r
  match unsigned?.map (parseDecimal .double) with
  | some (.ok x) => !x.isInfinite && !x.isNaN
  | _ => false

/-- The words that read as something other than a text. -/
def reservedWords : List (List Char) :=
  ["", "null", "Null", "NULL", "~", "true", "True", "TRUE", "false", "False", "FALSE"].map
    String.toList

/-- Whether a plain text would not read as a text, or not surely. -/
def isAmbiguous (s : List Char) : Bool :=
  reservedWords.contains s || hasLeadingZero s || isInteger s || isSpecialReal s || isFiniteReal s

/-! ## Characters -/

/-- Characters that end a line. -/
def isBreak (c : Char) : Bool :=
  c == '\n' || c == '\r' || c == '\u0085' || c == '\u2028' || c == '\u2029'

/-- Characters that set words apart. -/
def isGap (c : Char) : Bool := c == ' ' || c == '\t' || c == '\x00' || isBreak c

/-- Characters that can stand unescaped. -/
def isClear (c : Char) : Bool :=
  let n := c.toNat
  n == 0x0A || (0x20 ≤ n && n ≤ 0x7E) ||
    (0xA0 ≤ n && n != 0xFEFF && n != 0xFFFE && n != 0xFFFF)

/-- Characters that mean something else at the beginning of a plain text. -/
def isOpening (c : Char) : Bool := "#,[]\x7b\x7d&*!|>'\"%@\x60".toList.contains c

/-- Neighbouring characters. -/
def neighbours (s : List Char) : List (Char × Char) := s.zip (s.drop 1)

/-- Whether a text has characters that a plain text in a block cannot have where they stand. -/
def hasIndicator (s : List Char) : Bool :=
  let followedByGap (c : Char) : Bool :=
    (neighbours s).any (fun (a, b) => a == c && isGap b) || s.getLast? == some c
  let startsAlone (c : Char) : Bool :=
    match s with
    | a :: b :: _ => a == c && isGap b
    | [a] => a == c
    | [] => false
  let opening := match s with
    | c :: _ => isOpening c
    | [] => false
  "---".toList.isPrefixOf s || "...".toList.isPrefixOf s || opening ||
    startsAlone '?' || startsAlone '-' || followedByGap ':' ||
    (neighbours s).any fun (a, b) => b == '#' && isGap a

/-! ## Styles -/

/-- How a scalar is written. -/
inductive Style where
  | plain
  | singleQuoted
  | doubleQuoted
  | literal
  deriving DecidableEq

/-- Whether a text has a space or a line's end at either end. -/
def hasLooseEnd (s : List Char) : Bool :=
  let loose (c : Option Char) := match c with
    | some c => c == ' ' || isBreak c
    | none => false
  loose s.head? || loose s.getLast?

/-- Whether a text must be escaped: it has characters that cannot stand unescaped, or a space before
the end of a line. -/
def mustEscape (s : List Char) : Bool :=
  s.any (!isClear ·) || (neighbours s).any fun (a, b) => a == ' ' && isBreak b

/-- Whether a line that is not the first begins with a space. -/
def hasIndentedLine (s : List Char) : Bool :=
  (neighbours s).any fun (a, b) => isBreak a && b == ' '

/-- The style of a text. -/
def styleOf (s : List Char) : Style :=
  if s.contains '\n' then
    if mustEscape s || s.getLast? == some ' ' then .doubleQuoted else .literal
  else if mustEscape s then .doubleQuoted
  else if isAmbiguous s || s.any isBreak || hasLooseEnd s || hasIndicator s then
    if hasIndentedLine s then .doubleQuoted else .singleQuoted
  else .plain

/-! ## Writing -/

/-- A number in hexadecimal, upper case, of a width. -/
def hexText (width n : Nat) : List Char :=
  let ds := (Nat.toDigits 16 n).map Char.toUpper
  List.replicate (width - ds.length) '0' ++ ds

/-- The letters of characters that have an escape of their own. -/
def shortEscape? (c : Char) : Option Char :=
  match c.toNat with
  | 0x00 => some '0'
  | 0x07 => some 'a'
  | 0x08 => some 'b'
  | 0x09 => some 't'
  | 0x0A => some 'n'
  | 0x0B => some 'v'
  | 0x0C => some 'f'
  | 0x0D => some 'r'
  | 0x1B => some 'e'
  | 0x22 => some '"'
  | 0x5C => some '\\'
  | 0x85 => some 'N'
  | 0x2028 => some 'L'
  | 0x2029 => some 'P'
  | _ => none

/-- A character between double quotes. -/
def escaped (c : Char) : List Char :=
  if isClear c && !isBreak c && c != '"' && c != '\\' then [c]
  else
    match shortEscape? c with
    | some e => ['\\', e]
    | none =>
      let n := c.toNat
      if n ≤ 0xFF then '\\' :: 'x' :: hexText 2 n
      else if n ≤ 0xFFFF then '\\' :: 'u' :: hexText 4 n
      else '\\' :: 'U' :: hexText 8 n

/-- The lines of a text: each with the break that ends it, the last perhaps without. -/
def brokenLines : List Char → List (List Char)
  | [] => []
  | c :: r =>
    if isBreak c then [c] :: brokenLines r
    else
      match brokenLines r with
      | [] => [[c]]
      | l :: ls => (c :: l) :: ls

/-- Whether a line holds nothing but its break. -/
def isBlankLine : List Char → Bool
  | [c] => isBreak c
  | l => l.isEmpty

/-- The text between single quotes. Lines after the first are indented. -/
def singleQuotedText (indent : Nat) (s : List Char) : List Char :=
  let doubled := s.flatMap fun c => if c == '\'' then ['\'', '\''] else [c]
  let pad := List.replicate indent ' '
  let body := match brokenLines doubled with
    | [] => []
    | l :: ls => l ++ ls.flatMap fun l => if isBlankLine l then l else pad ++ l
  let last := match s.getLast? with
    | some c => if isBreak c then pad else []
    | none => []
  body ++ last

/-- What stands behind the bar of a literal block: the indentation, if the first line does not show
it, and what becomes of the line breaks at the end. -/
def literalHints (s : List Char) : List Char :=
  let indentHint := match s with
    | c :: _ => if c == ' ' || isBreak c then ['2'] else []
    | [] => []
  let chompHint := match s.reverse with
    | a :: b :: _ => if !isBreak a then ['-'] else if isBreak b then ['+'] else []
    | [a] => if isBreak a then ['+'] else ['-']
    | [] => ['-']
  indentHint ++ chompHint

/-- The lines of a literal block. -/
def literalLines (indent : Nat) (s : List Char) : List Char :=
  (brokenLines s).flatMap fun l =>
    if isBlankLine l then l else List.replicate indent ' ' ++ l

/-- A scalar with the end of its line. -/
def scalarText (indent : Nat) (text : String) : String :=
  let s := text.toList
  match styleOf s with
  | .plain => text ++ "\n"
  | .singleQuoted => "'" ++ String.ofList (singleQuotedText indent s) ++ "'\n"
  | .doubleQuoted => "\"" ++ String.ofList (s.flatMap escaped) ++ "\"\n"
  | .literal =>
    "|" ++ String.ofList (literalHints s ++ ['\n'] ++ literalLines indent s) ++
      (if (s.getLast?.map isBreak).getD false then "" else "\n")

end MeshDestination.Yaml
