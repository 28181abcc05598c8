import TabularQuery.Service.DomainName
import TabularQuery.Service.Percent

/-!
# Hosts

The host in a URL: a name, or an address of four or of sixteen bytes.

## Main definitions

* `UrlFault` — why a text is not a URL.
* `Host` — the hosts, with `Host.read` and `Host.text`.
-/

namespace TabularQuery

/-- Why a text is not a URL. -/
inductive UrlFault where
  /-- There is no scheme. -/
  | relative
  | emptyHost
  | domainName
  | domainCharacter
  | ipv4Address
  | ipv6Address
  | portNumber
  deriving DecidableEq, Repr

/-- The wording of a fault. -/
def UrlFault.message : UrlFault → String
  | relative => "relative URL without a base"
  | emptyHost => "empty host"
  | domainName => "invalid international domain name"
  | domainCharacter => "invalid domain character"
  | ipv4Address => "invalid IPv4 address"
  | ipv6Address => "invalid IPv6 address"
  | portNumber => "invalid port number"

/-- A host. -/
inductive Host where
  | name (text : List Char)
  /-- The address as one number. -/
  | ipv4 (address : Nat)
  /-- The eight pieces of the address. -/
  | ipv6 (pieces : List Nat)
  deriving DecidableEq, Repr

namespace Host

/-! ## Addresses of four bytes -/

/-- The number of a part: decimal, octal after a zero, hexadecimal after a zero and an x. -/
def partNumber? (part : List Char) : Option Nat :=
  let inBase (base : Nat) (digits : List Char) : Option Nat :=
    digits.foldlM (fun n c =>
      match Percent.hexValue? c with
      | some d => if d < base then some (base * n + d) else none
      | none => none) 0
  match part with
  | [] => none
  | '0' :: 'x' :: digits | '0' :: 'X' :: digits => inBase 16 digits
  | '0' :: d :: digits => inBase 8 (d :: digits)
  | digits => inBase 10 digits

/-- The parts of a name, without the empty one after a point at its end. -/
def parts (name : List Char) : List (List Char) :=
  let all := Text.splitOn '.' name
  if 1 < all.length && all.getLast? == some [] then all.dropLast else all

/-- Whether the last part of a name is a number: then it is an address or nothing. -/
def endsInNumber (name : List Char) : Bool :=
  match (parts name).getLast? with
  | some part => (!part.isEmpty && part.all Text.isDigit) || (partNumber? part).isSome
  | none => false

/-- The address of its parts: the last of them fills the bytes that the others leave. -/
def readIpv4 (name : List Char) : Except UrlFault Host :=
  let ps := parts name
  if 4 < ps.length then .error .ipv4Address
  else
    match ps.mapM partNumber? with
    | none => .error .ipv4Address
    | some numbers =>
      let leading := numbers.dropLast
      let last := numbers.getLast?.getD 0
      if leading.any (255 < ·) || Nat.pow 256 (4 - leading.length) ≤ last then .error .ipv4Address
      else
        .ok (.ipv4 ((leading.zipIdx.foldl (fun sum (n, i) => sum + n * Nat.pow 256 (3 - i)) 0) + last))

/-! ## Addresses of sixteen bytes -/

/-- A piece: up to four hexadecimal digits. -/
def piece? (s : List Char) : Option Nat :=
  if s.isEmpty || 4 < s.length then none
  else s.foldlM (fun n c => (Percent.hexValue? c).map (16 * n + ·)) 0

/-- A byte in decimal, without needless zeros. -/
def byte? (s : List Char) : Option Nat :=
  if s.isEmpty || 3 < s.length || !s.all Text.isDigit then none
  else if 1 < s.length && s.head? == some '0' then none
  else
    let n := Text.readDigits s
    if n ≤ 255 then some n else none

/-- The two pieces of an address of four bytes. -/
def tail? (s : List Char) : Option (List Nat) :=
  match (Text.splitOn '.' s).mapM byte? with
  | some [a, b, c, d] => some [256 * a + b, 256 * c + d]
  | _ => none

/-- The pieces between colons; the last group may be an address of four bytes if it is the
end of the text. -/
def pieces? (atEnd : Bool) : List (List Char) → Option (List Nat)
  | [] => some []
  | [group] =>
    match piece? group with
    | some n => some [n]
    | none => if atEnd then tail? group else none
  | group :: rest => do
    let n ← piece? group
    let ns ← pieces? atEnd rest
    return n :: ns

/-- The text before and after the first two colons that follow each other. -/
def splitAtGap? : List Char → Option (List Char × List Char)
  | ':' :: ':' :: rest => some ([], rest)
  | c :: rest => (splitAtGap? rest).map fun (before, after) => (c :: before, after)
  | [] => none

/-- The groups of a text between colons; none of an empty text. -/
def groups (s : List Char) : List (List Char) :=
  if s.isEmpty then [] else Text.splitOn ':' s

/-- The address of a text between brackets.  Two colons stand for the zeros that are
missing, and for at least one. -/
def readIpv6 (s : List Char) : Except UrlFault Host :=
  match splitAtGap? s with
  | none =>
    match pieces? true (groups s) with
    | some ps => if ps.length = 8 then .ok (.ipv6 ps) else .error .ipv6Address
    | none => .error .ipv6Address
  | some (before, after) =>
    match pieces? false (groups before), pieces? true (groups after) with
    | some ps, some qs =>
      if ps.length + qs.length < 8 then
        .ok (.ipv6 (ps ++ List.replicate (8 - ps.length - qs.length) 0 ++ qs))
      else .error .ipv6Address
    | _, _ => .error .ipv6Address

/-! ## Names -/

/-- Whether a character may not be in a host of an unknown scheme. -/
def isForbiddenAnywhere (c : Char) : Bool :=
  ['\x00', '\t', '\n', '\r', ' ', '#', '/', ':', '<', '>', '?', '@', '[', '\\', ']', '^',
    '|'].contains c

/-- The text between the brackets around a text, if there are any; nothing if the one at
the end is missing. -/
def bracketed? : List Char → Option (Option (List Char))
  | '[' :: rest => some (if rest.getLast? = some ']' then some rest.dropLast else none)
  | _ => none

/-- The host of a URL.  In the schemes of the web it is an address or a name of the domain
system; in others it is any text. -/
def read (special : Bool) (s : List Char) : Except UrlFault Host :=
  match bracketed? s with
  | some (some inner) => readIpv6 inner
  | some none => .error .ipv6Address
  | none =>
    if special then
      match (Percent.text? (Percent.decode s)).bind DomainName.ascii? with
      | none => .error .domainName
      | some host =>
        if host.isEmpty then .error .emptyHost
        else if endsInNumber host then readIpv4 host
        else .ok (.name host)
    else if s.any isForbiddenAnywhere then .error .domainCharacter
    else .ok (.name (Percent.encode Percent.isPlain s))

/-! ## Writing hosts -/

/-- The number of zeros at the beginning of a list. -/
def leadingZeros (ps : List Nat) : Nat :=
  (ps.takeWhile (· == 0)).length

/-- The first longest run of zeros in a list: where it begins and how long it is. -/
def longestZeros : Nat → List Nat → Nat × Nat
  | _, [] => (0, 0)
  | place, p :: ps =>
    let (start, length) := longestZeros (place + 1) ps
    let here := leadingZeros (p :: ps)
    if length ≤ here then (place, here) else (start, length)

/-- A number in hexadecimal, in small letters. -/
def hexText (n : Nat) : List Char :=
  Nat.toDigits 16 n

/-- Pieces with colons between them. -/
def piecesText (ps : List Nat) : List Char :=
  Text.join [':'] (ps.map hexText)

/-- The text of a host.  In an address of sixteen bytes two colons stand for the first
longest run of two or more zeros. -/
def text : Host → List Char
  | name s => s
  | ipv4 n =>
    Text.join ['.'] ([n / 16777216, n / 65536 % 256, n / 256 % 256, n % 256].map Text.digits)
  | ipv6 ps =>
    let (start, length) := longestZeros 0 ps
    let inner :=
      if length < 2 then piecesText ps
      else piecesText (ps.take start) ++ ':' :: ':' :: piecesText (ps.drop (start + length))
    '[' :: (inner ++ [']'])

end Host

end TabularQuery
