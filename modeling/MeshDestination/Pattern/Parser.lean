import MeshDestination.Pattern.Basic
import MeshDestination.Pattern.Property
import MeshDestination.Text.Property

/-!
# Reading patterns

The grammar of patterns. In blank-ignoring mode blanks and comments may stand between tokens. There
is no look-around and there are no back references, so a pattern can be matched in time linear in
the text.
-/

namespace MeshDestination.Pattern

open Text

/-! ## Tokens -/

/-- Drops a comment, line end included. -/
def skipComment : List Char → List Char
  | [] => []
  | c :: r => if c = '\n' then r else skipComment r

/-- Drops blanks and comments. The fuel bounds the characters that are left. -/
def skipFree (fuel : Nat) (s : List Char) : List Char :=
  match fuel, s with
  | _, [] => []
  | 0, s => s
  | fuel + 1, c :: r =>
    if isBlank c then skipFree fuel r
    else if c = '#' then skipFree fuel (skipComment r)
    else c :: r

/-- Drops what does not count in blank-ignoring mode. -/
def space (free : Bool) (s : List Char) : List Char :=
  if free then skipFree s.length s else s

/-- Characters that have a meaning of their own. -/
def isMeta (c : Char) : Bool := "\\.+*?()|[]\x7b\x7d^$#&-~".toList.contains c

/-- Whether a backslash may stand before a character that it does not change. -/
def isEscapable (c : Char) : Bool :=
  isMeta c || (c.toNat < 0x80 && !c.isAlphanum && c != '<' && c != '>')

/-- The value of a hexadecimal digit. -/
def hexValue? (c : Char) : Option Nat :=
  if c.isDigit then some (c.toNat - '0'.toNat)
  else if 'a' ≤ c && c ≤ 'f' then some (c.toNat - 'a'.toNat + 10)
  else if 'A' ≤ c && c ≤ 'F' then some (c.toNat - 'A'.toNat + 10)
  else none

/-- The character of a code point, surrogates and values beyond the last one excepted. -/
def charOfCode? (n : Nat) : Option Char :=
  if n.isValidChar then some (Char.ofNat n) else none

/-- Reads exactly `count` hexadecimal digits. -/
def hexDigits (free : Bool) : (count value : Nat) → List Char → Option (Nat × List Char)
  | 0, value, s => some (value, s)
  | count + 1, value, s =>
    match s with
    | [] => none
    | c :: r => (hexValue? c).bind fun d => hexDigits free count (16 * value + d) (space free r)

/-- Reads hexadecimal digits up to a closing brace, at least one and at most 32 bits. The fuel
bounds the characters that are left. -/
def hexBraced (free : Bool) :
    (fuel : Nat) → (value : Option Nat) → List Char → Option (Nat × List Char)
  | 0, _, _ => none
  | _, _, [] => none
  | fuel + 1, value, c :: r =>
    if c = '\x7d' then
      value.bind fun v => if v < UInt32.size then some (v, space free r) else none
    else
      (hexValue? c).bind fun d => hexBraced free fuel (some (16 * value.getD 0 + d)) (space free r)

/-- Reads a character by its code after the escape letter: in braces, or of a fixed count of digits.
-/
def hexEscape (free : Bool) (count : Nat) (s : List Char) : Option (Literal × List Char) :=
  match space free s with
  | [] => none
  | '\x7b' :: r => do
    let (v, r) ← hexBraced free (r.length + 1) none (space free r)
    let c ← charOfCode? v
    some (⟨c, false⟩, r)
  | r => do
    let (v, r) ← hexDigits free count 0 r
    let c ← charOfCode? v
    some (⟨c, count == 2⟩, r)

/-- Splits a text at the first occurrence of a shorter text. -/
def splitAt? (sep : List Char) : List Char → Option (List Char × List Char)
  | [] => none
  | c :: r =>
    if sep.isPrefixOf (c :: r) then some ([], (c :: r).drop sep.length)
    else (splitAt? sep r).map fun (a, b) => (c :: a, b)

/-- Whether the text between the braces of a named class is known. -/
def isNamedClass (s : List Char) : Bool :=
  match splitAt? ['!', '='] s with
  | some (p, v) => isClassValue p v
  | none =>
    match splitAt? [':'] s with
    | some (p, v) => isClassValue p v
    | none =>
      match splitAt? ['='] s with
      | some (p, v) => isClassValue p v
      | none => isClassName s

/-- Text up to a closing brace, without blanks and comments in blank-ignoring mode. The fuel bounds
the characters that are left. -/
def untilBrace (free : Bool) : (fuel : Nat) → List Char → Option (List Char × List Char)
  | 0, _ => none
  | _, [] => none
  | fuel + 1, c :: r =>
    if c = '\x7d' then some ([], r)
    else (untilBrace free fuel (space free r)).map fun (a, b) => (c :: a, b)

/-- Reads a named class after its letter. -/
def namedClass (free : Bool) (s : List Char) : Option (Node × List Char) :=
  match space free s with
  | [] => none
  | '\x7b' :: r => do
    let (name, r) ← untilBrace free (r.length + 1) (space free r)
    if isNamedClass name then some (.named, r) else none
  | c :: r =>
    if c != '\\' && categories.contains (normalizeName [c]) then some (.named, space free r)
    else none

/-- Names of special word boundaries. -/
def boundaryNames : List String := ["start", "end", "start-half", "end-half"]

/-- A run of letters and hyphens. The fuel bounds the characters that are left. -/
def boundaryName (free : Bool) : (fuel : Nat) → List Char → List Char × List Char
  | 0, s => ([], s)
  | _, [] => ([], [])
  | fuel + 1, c :: r =>
    if c.isAlpha || c == '-' then
      let (a, b) := boundaryName free fuel (space free r)
      (c :: a, b)
    else ([], c :: r)

/-- Reads the kind of a word boundary, if one follows. A brace that does not start one is left to
the repetition operators. -/
def boundaryKind (free : Bool) (s : List Char) : Option (List Char) :=
  match s with
  | '\x7b' :: r =>
    match space free r with
    | [] => none
    | c :: r' =>
      if c.isAlpha || c == '-' then
        match boundaryName free (r'.length + 1) (c :: r') with
        | (name, '\x7d' :: rest) =>
          if boundaryNames.contains (String.ofList name) then some rest else none
        | _ => none
      else some s
  | _ => some s

/-- Reads an escape after its backslash. -/
def escape (free : Bool) (s : List Char) : Option (Node × List Char) :=
  match s with
  | [] => none
  | c :: r =>
    match c with
    | 'x' => (hexEscape free 2 r).map fun (l, r) => (.literal l, r)
    | 'u' => (hexEscape free 4 r).map fun (l, r) => (.literal l, r)
    | 'U' => (hexEscape free 8 r).map fun (l, r) => (.literal l, r)
    | 'p' | 'P' => namedClass free r
    | 'd' => some (.shorthand .digit false, r)
    | 'D' => some (.shorthand .digit true, r)
    | 's' => some (.shorthand .space false, r)
    | 'S' => some (.shorthand .space true, r)
    | 'w' => some (.shorthand .word false, r)
    | 'W' => some (.shorthand .word true, r)
    | 'a' => some (.literal ⟨'\x07', false⟩, r)
    | 'f' => some (.literal ⟨'\x0c', false⟩, r)
    | 't' => some (.literal ⟨'\t', false⟩, r)
    | 'n' => some (.literal ⟨'\n', false⟩, r)
    | 'r' => some (.literal ⟨'\r', false⟩, r)
    | 'v' => some (.literal ⟨'\x0b', false⟩, r)
    | 'A' | 'z' | 'B' | '<' | '>' => some (.assertion, r)
    | 'b' => (boundaryKind free r).map fun r => (.assertion, r)
    | c => if isEscapable c then some (.literal ⟨c, false⟩, r) else none

/-! ## Bracketed classes -/

/-- Names of the ASCII classes that may stand in brackets. -/
def asciiNames : List String :=
  ["alnum", "alpha", "ascii", "blank", "cntrl", "digit", "graph", "lower", "print", "punct",
    "space", "upper", "word", "xdigit"]

/-- Reads an ASCII class after its opening bracket, if there is one. -/
def asciiClass? (s : List Char) : Option (Bool × List Char) :=
  match s with
  | ':' :: r =>
    let (negated, r) :=
      match r with
      | '^' :: r => (true, r)
      | r => (false, r)
    match r.span (· != ':') with
    | (name, ':' :: ']' :: rest) =>
      if asciiNames.contains (String.ofList name) then some (negated, rest) else none
    | _ => none
  | _ => none

/-- Reads one end of a range or a single item. -/
def classAtom (free : Bool) (s : List Char) : Option (Node × List Char) :=
  match s with
  | [] => none
  | '\\' :: r => escape free r
  | c :: r => some (.literal ⟨c, false⟩, r)

/-- An item of a class from what an escape stands for. Assertions have no place in a class. -/
def ClassItem.ofNode? : Node → Option ClassItem
  | .literal l => some (.literal l)
  | .shorthand s negated => some (.shorthand s negated)
  | .named => some .named
  | _ => none

/-- Reads an item or a range. A hyphen before a bracket or a hyphen makes no range. -/
def classRange (free : Bool) (s : List Char) : Option (ClassItem × List Char) := do
  let (first, r) ← classAtom free s
  match space free r with
  | [] => none
  | '-' :: r' =>
    match space free r' with
    | ']' :: _ | '-' :: _ => do
      let item ← ClassItem.ofNode? first
      some (item, '-' :: r')
    | [] => none
    | r'' =>
      let (last, rest) ← classAtom free r''
      match first, last with
      | .literal a, .literal b => if a.char ≤ b.char then some (.range a b, rest) else none
      | _, _ => none
  | r' => do
    let item ← ClassItem.ofNode? first
    some (item, r')

/-- Hyphens in front of a class are literal. The fuel bounds the characters that are left. -/
def leadingHyphens (free : Bool) : (fuel : Nat) → List Char → List ClassItem × List Char
  | 0, s => ([], s)
  | fuel + 1, '-' :: r =>
    let (items, rest) := leadingHyphens free fuel (space free r)
    (.literal ⟨'-', false⟩ :: items, rest)
  | _, s => ([], s)

/-- Reads what opens a class after its bracket: a negation, hyphens, and a bracket that is literal
when it comes first. -/
def classOpening (free : Bool) (s : List Char) : Bool × List ClassItem × List Char :=
  let (negated, r) :=
    match space free s with
    | '^' :: r => (true, space free r)
    | r => (false, r)
  let (items, r) := leadingHyphens free r.length r
  match items, r with
  | [], ']' :: r => (negated, [.literal ⟨']', false⟩], space free r)
  | items, r => (negated, items, r)

/-- Reads the items of a class up to its bracket. The fuel bounds the characters that are left. -/
def classItems (free : Bool) : (fuel : Nat) → List Char → Option (List ClassItem × List Char)
  | 0, _ => none
  | fuel + 1, s =>
    match space free s with
    | [] => none
    | ']' :: r => some ([], r)
    | '&' :: '&' :: r | '-' :: '-' :: r | '~' :: '~' :: r =>
      (classItems free fuel r).map fun (items, r) => (.operator :: items, r)
    | '[' :: r =>
      match asciiClass? r with
      | some (negated, r) =>
        (classItems free fuel r).map fun (items, r) => (.ascii negated :: items, r)
      | none =>
        let (negated, front, r) := classOpening free r
        match classItems free fuel r with
        | none => none
        | some (inner, r) =>
          (classItems free fuel r).map fun (items, r) =>
            (.nested negated (front ++ inner) :: items, r)
    | r =>
      match classRange free r with
      | none => none
      | some (item, r) => (classItems free fuel r).map fun (items, r) => (item :: items, r)

/-- Reads a class after its bracket. -/
def bracketed (free : Bool) (s : List Char) : Option (Node × List Char) :=
  let (negated, front, r) := classOpening free s
  (classItems free (r.length + 1) r).map fun (items, r) => (.class negated (front ++ items), r)

/-! ## Repetition and groups -/

/-- Digits with anything that does not count between them. The fuel bounds the characters that are
left. -/
def countDigits (free : Bool) : (fuel : Nat) → List Char → List Char × List Char
  | 0, s => ([], s)
  | _, [] => ([], [])
  | fuel + 1, c :: r =>
    if c.isDigit then
      let (ds, rest) := countDigits free fuel (space free r)
      (c :: ds, rest)
    else ([], c :: r)

/-- Reads a count with blanks around it: `some none` when there is no digit, and nothing when the
count is more than 32 bits. -/
def count (free : Bool) (s : List Char) : Option (Option Nat × List Char) :=
  let s := s.dropWhile isBlank
  let (ds, r) := countDigits free (s.length + 1) s
  let r := r.dropWhile isBlank
  if ds.isEmpty then some (none, r)
  else
    let n := ds.foldl (fun n c => 10 * n + (c.toNat - '0'.toNat)) 0
    if n < UInt32.size then some (some n, r) else none

/-- Reads a counted repetition after its brace: the least and the greatest count. -/
def bounds (free : Bool) (s : List Char) : Option (Nat × Option Nat × List Char) := do
  let (least, r) ← count free (space free s)
  match r with
  | ',' :: r =>
    match space free r with
    | '\x7d' :: r => least.map fun n => (n, none, r)
    | r => do
      let least ← least
      let (most, r) ← count free r
      let most ← most
      match r with
      | '\x7d' :: r => if least ≤ most then some (least, some most, r) else none
      | _ => none
  | '\x7d' :: r => least.map fun n => (n, some n, r)
  | _ => none

/-- A question mark after a repetition changes its greed. -/
def lazyMark (s : List Char) : List Char :=
  match s with
  | '?' :: r => r
  | r => r

/-- Applies a repetition to the last part read. There must be one, and it must not be a flag
setting. -/
def repeatLast (min : Nat) (max : Option Nat) : List Node → Option (List Node)
  | [] => none
  | .empty :: _ | .flags _ :: _ => none
  | n :: r => some (.repeated min max n :: r)

/-- The flag of a letter. -/
def Flag.ofLetter? : Char → Option Flag
  | 'i' => some .caseInsensitive
  | 'm' => some .multiLine
  | 's' => some .dotMatchesLineEnd
  | 'U' => some .swapGreed
  | 'u' => some .unicode
  | 'R' => some .carriageReturn
  | 'x' => some .ignoreBlank
  | _ => none

/-- Reads flags up to a colon or a parenthesis, each at most once and no hyphen without a flag. -/
def readFlags (cleared dangling : Bool) (seen : FlagList) :
    List Char → Option (FlagList × List Char)
  | [] => none
  | c :: r =>
    if c = ':' ∨ c = ')' then if dangling then none else some (seen.reverse, c :: r)
    else if c = '-' then if cleared then none else readFlags true true seen r
    else
      match Flag.ofLetter? c with
      | none => none
      | some f =>
        if seen.any (·.1 == f) then none else readFlags cleared false ((f, !cleared) :: seen) r

/-- Whether a character may stand in the name of a group. -/
def isNameChar (first : Bool) (c : Char) : Bool :=
  if first then c == '_' || (isAlphanumeric c && !c.isDigit)
  else c == '_' || c == '.' || c == '[' || c == ']' || isAlphanumeric c

/-- Reads the name of a group up to its bracket. -/
def groupName (s : List Char) : Option (List Char × List Char) :=
  match s.span (· != '>') with
  | ([], _) => none
  | (c :: name, '>' :: r) =>
    if isNameChar true c && name.all (isNameChar false) then some (c :: name, r) else none
  | _ => none

/-- What opens a group after its parenthesis. -/
inductive Opening where
  /-- Flags for the rest of the enclosing group. -/
  | setting (fs : FlagList)
  | group (fs : FlagList)
  | named (name : List Char)

/-- Reads what opens a group. -/
def opening (free : Bool) (s : List Char) : Option (Opening × List Char) :=
  match space free s with
  | '?' :: '=' :: _ | '?' :: '!' :: _ | '?' :: '<' :: '=' :: _ | '?' :: '<' :: '!' :: _ => none
  | '?' :: 'P' :: '<' :: r | '?' :: '<' :: r =>
    (groupName r).map fun (name, r) => (.named name, r)
  | '?' :: r => do
    let (fs, r) ← readFlags false false [] r
    match r with
    | ':' :: r => some (.group fs, r)
    | ')' :: r => if fs.isEmpty then none else some (.setting fs, r)
    | _ => none
  | r => some (.group [], r)

/-! ## Patterns -/

/-- What is carried through a pattern: blank-ignoring mode and the names of groups. -/
structure Context where
  free : Bool := false
  names : List (List Char) := []

/-- Reads up to a closing parenthesis or the end: the node, the context, whether a parenthesis was
met, and the rest. `branches` and `parts` are what was read before, last first. The fuel bounds the
characters that are left. -/
def readNode : (fuel : Nat) → (ctx : Context) → (branches parts : List Node) → List Char →
    Option (Node × Context × Bool × List Char)
  | 0, _, _, _, _ => none
  | fuel + 1, ctx, branches, parts, s =>
    let finish := Node.ofBranches ((Node.ofParts parts.reverse :: branches).reverse)
    match space ctx.free s with
    | [] => some (finish, ctx, false, [])
    | ')' :: r => some (finish, ctx, true, r)
    | '|' :: r => readNode fuel ctx (Node.ofParts parts.reverse :: branches) [] r
    | '(' :: r =>
      match opening ctx.free r with
      | none => none
      | some (.setting fs, r) =>
        let free := (fs.state? .ignoreBlank).getD ctx.free
        readNode fuel { ctx with free } branches (.flags fs :: parts) r
      | some (.group fs, r) =>
        let free := (fs.state? .ignoreBlank).getD ctx.free
        match readNode fuel { ctx with free } [] [] r with
        | some (body, inner, true, r) =>
          readNode fuel { inner with free := ctx.free } branches (.group fs body :: parts) r
        | _ => none
      | some (.named name, r) =>
        if ctx.names.contains name then none
        else
          match readNode fuel { ctx with names := name :: ctx.names } [] [] r with
          | some (body, inner, true, r) =>
            readNode fuel { inner with free := ctx.free } branches (.group [] body :: parts) r
          | _ => none
    | '[' :: r =>
      match bracketed ctx.free r with
      | none => none
      | some (n, r) => readNode fuel ctx branches (n :: parts) r
    | '?' :: r =>
      match repeatLast 0 (some 1) parts with
      | none => none
      | some parts => readNode fuel ctx branches parts (lazyMark r)
    | '*' :: r =>
      match repeatLast 0 none parts with
      | none => none
      | some parts => readNode fuel ctx branches parts (lazyMark r)
    | '+' :: r =>
      match repeatLast 1 none parts with
      | none => none
      | some parts => readNode fuel ctx branches parts (lazyMark r)
    | '\x7b' :: r =>
      match bounds ctx.free r with
      | none => none
      | some (min, max, r) =>
        match repeatLast min max parts with
        | none => none
        | some parts => readNode fuel ctx branches parts (lazyMark (space ctx.free r))
    | '\\' :: r =>
      match escape ctx.free r with
      | none => none
      | some (n, r) => readNode fuel ctx branches (n :: parts) r
    | '.' :: r => readNode fuel ctx branches (.dot :: parts) r
    | '^' :: r | '$' :: r => readNode fuel ctx branches (.assertion :: parts) r
    | c :: r => readNode fuel ctx branches (.literal ⟨c, false⟩ :: parts) r

/-- Reads a whole pattern. -/
def parse? (s : List Char) : Option Node :=
  match readNode (s.length + 1) {} [] [] s with
  | some (n, _, false, _) => some n
  | _ => none

end MeshDestination.Pattern
