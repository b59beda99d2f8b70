import MeshDestination.Net.Ip
import MeshDestination.Text.Letters

/-!
# Absolute URLs

Whether a text is an absolute URL, and if not, why. Blanks and controls around the text and tabs and
line ends inside it do not count. The schemes of the web have a host, with any number of slashes or
backslashes before it; other schemes have a host only after two slashes.
-/

namespace MeshDestination.Net

/-- Why a text is not an absolute URL. -/
inductive UrlError where
  | relative
  | emptyHost
  | invalidName
  | invalidPort
  | invalidIpv4
  | invalidIpv6
  | invalidHostCharacter
  deriving DecidableEq

/-- The wording of a URL error. -/
def UrlError.message : UrlError → String
  | .relative => "relative URL without a base"
  | .emptyHost => "empty host"
  | .invalidName => "invalid international domain name"
  | .invalidPort => "invalid port number"
  | .invalidIpv4 => "invalid IPv4 address"
  | .invalidIpv6 => "invalid IPv6 address"
  | .invalidHostCharacter => "invalid domain character"

/-- The three ways in which a scheme treats what follows it. -/
inductive SchemeKind where
  | file
  | web
  | other
  deriving DecidableEq

/-- The kind of a scheme. -/
def SchemeKind.ofName (scheme : String) : SchemeKind :=
  if scheme == "file" then .file
  else if ["http", "https", "ws", "wss", "ftp"].contains scheme then .web
  else .other

/-- Whether a backslash counts as a slash. -/
def SchemeKind.isSpecial (k : SchemeKind) : Bool := k != .other

/-! ## Hosts -/

/-- Characters that no host may hold. -/
def isForbiddenInHost (c : Char) : Bool :=
  "\x00\t\n\r #/:<>?@[\\]^|".toList.contains c

/-- Characters that no registered name may hold. -/
def isForbiddenInName (c : Char) : Bool :=
  isForbiddenInHost c || c.toNat < 0x20 || c == '%' || c.toNat == 0x7F

/-- The last number of a dotted IPv4 address may fill all bytes that are left. It is decimal, octal
after a zero, or hexadecimal after `0x`. The outer `none` is for what is no number at all, the inner
for one of more than 32 bits. -/
def ipv4Number? (s : List Char) : Option (Option Nat) :=
  let value (radix : Nat) (ds : List Char) : Option (Option Nat) :=
    match ds.mapM hexDigit? with
    | some ns =>
      if ns.all (· < radix) then
        let n := ns.foldl (fun n d => radix * n + d) 0
        some (if n < UInt32.size then some n else none)
      else none
    | none => none
  match s with
  | [] => none
  | '0' :: 'x' :: r | '0' :: 'X' :: r => value 16 r
  | '0' :: c :: r => value 8 (c :: r)
  | r => value 10 r

/-- A name's labels, without the empty one after a final dot. -/
def hostLabels (name : List Char) : List (List Char) :=
  let ls := pieces '.' name
  if ls.getLast? = some [] then ls.dropLast else ls

/-- Whether the last label is a number, so that the name must be an IPv4 address. -/
def endsInNumber (name : List Char) : Bool :=
  match (hostLabels name).getLast? with
  | none | some [] => false
  | some l => l.all Char.isDigit || (ipv4Number? l).isSome

/-- Checks a name that ends in a number. -/
def checkIpv4 (name : List Char) : Except UrlError Unit :=
  let labels := hostLabels name
  if 4 < labels.length then .error .invalidIpv4
  else
    match labels.mapM fun l => (ipv4Number? l).join with
    | none => .error .invalidIpv4
    | some ns =>
      let front := ns.dropLast
      let last := ns.getLastD 0
      if 1 <<< (8 * (4 - front.length)) ≤ last || front.any (255 < ·) then .error .invalidIpv4
      else .ok ()

/-- The bytes of a text with percent escapes undone. -/
def percentDecode : List UInt8 → List UInt8
  | 0x25 :: a :: b :: r =>
    match hexDigit? (Char.ofNat a.toNat), hexDigit? (Char.ofNat b.toNat) with
    | some x, some y => UInt8.ofNat (16 * x + y) :: percentDecode r
    | _, _ => 0x25 :: percentDecode (a :: b :: r)
  | c :: r => c :: percentDecode r
  | [] => []

/-- Full-width forms of ASCII and the ideographic full stops as the ASCII characters that they stand
for. -/
def foldWidth (c : Char) : Char :=
  let n := c.toNat
  if 0xFF01 ≤ n && n ≤ 0xFF5E then Char.ofNat (n - 0xFEE0)
  else if n == 0x3002 || n == 0xFF0E || n == 0xFF61 then '.'
  else c

/-- Characters that a name drops: the soft hyphen, zero-width and variation characters. -/
def isIgnoredInName (c : Char) : Bool :=
  let n := c.toNat
  n == 0xAD || n == 0x200B || n == 0x2060 || n == 0xFEFF || (0xFE00 ≤ n && n ≤ 0xFE0F)

/-- The value of a digit of the encoding of international labels. -/
def labelDigit? (c : Char) : Option Nat :=
  if 'a' ≤ c && c ≤ 'z' then some (c.toNat - 'a'.toNat)
  else if 'A' ≤ c && c ≤ 'Z' then some (c.toNat - 'A'.toNat)
  else if c.isDigit then some (c.toNat - '0'.toNat + 26)
  else none

/-- The threshold of the `k`-th digit at a bias. -/
def labelThreshold (k bias : Nat) : Nat :=
  if k ≤ bias then 1 else if bias + 26 ≤ k then 26 else k - bias

/-- Reads one variable-length number: its value and the rest. -/
def labelDelta? (bias : Nat) :
    (cs : List Char) → (k weight acc : Nat) → Option (Nat × List Char)
  | [], _, _, _ => none
  | c :: r, k, weight, acc =>
    (labelDigit? c).bind fun d =>
      let acc := acc + d * weight
      let t := labelThreshold k bias
      if UInt32.size ≤ acc then none
      else if d < t then some (acc, r)
      else labelDelta? bias r (k + 36) (weight * (36 - t)) acc

/-- The bias after a number. The fuel bounds the halvings, of which six are the most for 32 bits. -/
def labelBias (delta points : Nat) (first : Bool) : Nat :=
  let rec shrink : Nat → Nat → Nat → Nat
    | 0, d, k => k + 36 * d / (d + 38)
    | fuel + 1, d, k => if 455 < d then shrink fuel (d / 35) (k + 36) else k + 36 * d / (d + 38)
  let d := if first then delta / 700 else delta / 2
  shrink 8 (d + d / points) 0

/-- Undoes the encoding of an international label: the insertions written in `cs`, put into `out`.
The fuel is the count of characters left. -/
def decodeLabel? (fuel : Nat) (cs : List Char) (code index bias : Nat) (first : Bool)
    (out : List Nat) : Option (List Nat) :=
  match fuel, cs with
  | _, [] => some out
  | 0, _ => none
  | fuel + 1, cs =>
    (labelDelta? bias cs 36 1 0).bind fun (delta, rest) =>
      let points := out.length + 1
      let code := code + (index + delta) / points
      let index := (index + delta) % points
      if 0x110000 ≤ code || (0xD800 ≤ code && code < 0xE000) then none
      else
        decodeLabel? fuel rest code (index + 1) (labelBias delta points first) false
          (out.take index ++ [code] ++ out.drop index)

/-- Whether a label that announces an international name decodes to one beyond ASCII. -/
def isInternationalLabel (l : List Char) : Bool :=
  let plain := ((l.reverse.dropWhile (· != '-')).drop 1).reverse
  let coded := (l.reverse.takeWhile (· != '-')).reverse
  match decodeLabel? coded.length coded 128 0 72 true (plain.map Char.toNat) with
  | some ns => ns.any (127 < ·) && ns.all fun n => n < 128 || Text.isPrintable (Char.ofNat n)
  | none => false

/-- A registered name in its ASCII-compatible reading, or nothing if some character or label is not
allowed. Characters beyond ASCII are kept as they are. -/
def registeredName? (host : List Char) : Option (List Char) :=
  let bytes := percentDecode (String.ofList host).toUTF8.toList
  match String.fromUTF8? ⟨bytes.toArray⟩ with
  | none => none
  | some s =>
    let name := (s.toList.filter (!isIgnoredInName ·)).map fun c => Text.lowerChar (foldWidth c)
    let allowed (c : Char) : Bool :=
      if c.toNat < 0x80 then !isForbiddenInName c else Text.isPrintable c && c != '\ufffd'
    let labelOk (l : List Char) : Bool :=
      match l with
      | 'x' :: 'n' :: '-' :: '-' :: r => isInternationalLabel r
      | c :: _ => !Text.isExtending c
      | [] => true
    if name.all allowed && (pieces '.' name).all labelOk then some name else none

/-- Checks the host of a web or file URL. -/
def checkHost (host : List Char) : Except UrlError Unit :=
  match host with
  | '[' :: r =>
    if r.getLast? = some ']' then
      if (colons? r.dropLast).isSome then .ok () else .error .invalidIpv6
    else .error .invalidIpv6
  | _ =>
    match registeredName? host with
    | none => .error .invalidName
    | some [] => .error .emptyHost
    | some name => if endsInNumber name then checkIpv4 name else .ok ()

/-- Checks the host of any other URL, which is taken as it stands. -/
def checkOpaqueHost (host : List Char) : Except UrlError Unit :=
  match host with
  | '[' :: _ => checkHost host
  | _ => if host.any isForbiddenInHost then .error .invalidHostCharacter else .ok ()

/-! ## The parts of a URL -/

/-- Whether a character ends the authority. -/
def endsAuthority (k : SchemeKind) (c : Char) : Bool :=
  c == '/' || c == '?' || c == '#' || (k.isSpecial && c == '\\')

/-- The host at the front of a text: it ends at the authority's end or at a colon outside brackets.
-/
def hostText (k : SchemeKind) : (inside : Bool) → List Char → List Char
  | _, [] => []
  | inside, c :: r =>
    if endsAuthority k c || (c == ':' && !inside) then []
    else c :: hostText k (if c == '[' then true else if c == ']' then false else inside) r

/-- Checks a port up to the authority's end. -/
def checkPort (s : List Char) : Except UrlError Unit :=
  let digits := s.takeWhile Char.isDigit
  let stops : Bool :=
    match s.dropWhile Char.isDigit with
    | [] => true
    | c :: _ => c == '/' || c == '\\' || c == '?' || c == '#'
  if stops && (digits.isEmpty || (decimal? 65535 digits).isSome) then .ok ()
  else .error .invalidPort

/-- An authority cut at its last `@`: the user information, if there is any, and the rest. -/
def splitUser (authority : List Char) : Option (List Char) × List Char :=
  let hostPort := (authority.reverse.takeWhile (· != '@')).reverse
  if authority.contains '@' then
    (some (authority.take (authority.length - hostPort.length - 1)), hostPort)
  else (none, hostPort)

/-- Checks user information, host and port, up to the end of the text. -/
def checkAuthority (k : SchemeKind) (s : List Char) : Except UrlError Unit := do
  let authority := s.takeWhile (!endsAuthority k ·)
  let (user, hostPort) := splitUser authority
  let host := hostText k false hostPort
  let after := hostPort.drop host.length
  if user = some [] && hostPort.isEmpty && authority.length < s.length then .error .emptyHost
  if host.isEmpty && k == .web then .error .emptyHost
  if k == .web then checkHost host else checkOpaqueHost host
  if host.isEmpty && !after.isEmpty then .error .emptyHost
  match after with
  | ':' :: port => checkPort port
  | _ => .ok ()
  let named := !(user.getD []).isEmpty && user != some [':']
  if named && host.isEmpty then .error .emptyHost

/-- A drive letter with its colon or bar stands in the place of a host in a file URL. -/
def isDriveLetter : List Char → Bool
  | [c, m] => c.isAlpha && (m == ':' || m == '|')
  | _ => false

/-- Checks what follows the scheme of a file URL. -/
def checkFile (s : List Char) : Except UrlError Unit :=
  match s with
  | a :: b :: r =>
    if (a == '/' || a == '\\') && (b == '/' || b == '\\') then
      let host := r.takeWhile (!endsAuthority .file ·)
      if host.isEmpty || isDriveLetter host then .ok () else checkHost host
    else .ok ()
  | _ => .ok ()

/-- Whether a character may follow the first letter of a scheme. -/
def isSchemeChar (c : Char) : Bool :=
  c.isAlphanum || c == '+' || c == '-' || c == '.'

/-- The scheme in front of the first colon, in lower case, and what follows the colon. -/
def splitScheme (s : List Char) : Option (String × List Char) :=
  match s with
  | c :: _ =>
    if c.isAlpha then
      match s.dropWhile isSchemeChar with
      | ':' :: r => some (String.ofList ((s.takeWhile isSchemeChar).map Char.toLower), r)
      | _ => none
    else none
  | [] => none

/-- The text as far as it counts. -/
def urlText (s : String) : List Char :=
  let ignoredAround (c : Char) : Bool := c.toNat ≤ 0x20
  let inner := ((s.toList.dropWhile ignoredAround).reverse.dropWhile ignoredAround).reverse
  inner.filter fun c => c != '\t' && c != '\n' && c != '\r'

/-- The scheme of an absolute URL, or why the text is none. -/
def urlScheme (s : String) : Except UrlError String :=
  match splitScheme (urlText s) with
  | none => .error .relative
  | some (scheme, rest) =>
    match SchemeKind.ofName scheme with
    | .web =>
      (checkAuthority .web (rest.dropWhile fun c => c == '/' || c == '\\')).map fun _ => scheme
    | .file => (checkFile rest).map fun _ => scheme
    | .other =>
      match rest with
      | '/' :: '/' :: r => (checkAuthority .other r).map fun _ => scheme
      | _ => .ok scheme

end MeshDestination.Net
