import TabularQuery.Service.Host

/-!
# URLs

A URL is taken apart into its scheme, its authority, its path, its query and its
fragment, each in its written form.  The schemes of the web are special: their path
begins with a slash, a backslash counts as one, and they need a host.

## Main definitions

* `Url` — the parts, and `Url.text`, which puts them together.
* `Url.read` — the URL of a text.
-/

namespace TabularQuery

/-- What stands between the two slashes and the path. -/
structure Authority where
  username : List Char := []
  password : Option (List Char) := none
  host : Option Host := none
  portNumber : Option Nat := none
  deriving DecidableEq, Repr

/-- The path of a URL. -/
inductive UrlPath where
  /-- Segments, each with a slash in front. -/
  | segments (names : List (List Char))
  /-- A text without a structure. -/
  | bare (text : List Char)
  deriving DecidableEq, Repr

/-- A URL. -/
structure Url where
  scheme : List Char
  authority : Option Authority := none
  path : UrlPath := .segments []
  query : Option (List Char) := none
  fragment : Option (List Char) := none
  deriving DecidableEq, Repr

namespace UrlPath

/-- The text of a path. -/
def text : UrlPath → List Char
  | segments names => names.flatMap fun s => '/' :: s
  | bare s => s

end UrlPath

namespace Url

/-! ## Writing URLs -/

/-- The text of the number after a host. -/
def numberText : Option Nat → List Char
  | some n => ':' :: Text.digits n
  | none => []

/-- The text of the user name and the password. -/
def userText (a : Authority) : List Char :=
  match a.username, a.password with
  | [], none => []
  | name, none => name ++ ['@']
  | name, some p => name ++ ':' :: (p ++ ['@'])

/-- The text of a host that may be missing. -/
def hostText : Option Host → List Char
  | some h => h.text
  | none => []

/-- The text of an authority that may be missing, and of the path after it.  Without an
authority, a path may not begin with two slashes. -/
def authorityAndPath (u : Url) : List Char :=
  match u.authority with
  | some a =>
    '/' :: '/' :: (userText a ++ hostText a.host ++ numberText a.portNumber ++ u.path.text)
  | none =>
    match u.path.text with
    | '/' :: '/' :: rest => '/' :: '.' :: '/' :: '/' :: rest
    | path => path

/-- The text of the query and the fragment. -/
def ending (u : Url) : List Char :=
  (match u.query with
   | some q => '?' :: q
   | none => []) ++
  (match u.fragment with
   | some f => '#' :: f
   | none => [])

/-- The text of a URL. -/
def text (u : Url) : List Char :=
  u.scheme ++ ':' :: (u.authorityAndPath ++ u.ending)

/-- The host of a URL. -/
def host? (u : Url) : Option Host :=
  u.authority.bind Authority.host

/-! ## Schemes -/

/-- The kinds of schemes. -/
inductive Kind where
  | file
  | web
  | other
  deriving DecidableEq, Repr

/-- The number that a scheme has after the host when none is written. -/
def defaultNumber? (scheme : String) : Option Nat :=
  match scheme with
  | "http" | "ws" => some 80
  | "https" | "wss" => some 443
  | "ftp" => some 21
  | _ => none

/-- The kind of a scheme. -/
def Kind.ofScheme (scheme : List Char) : Kind :=
  match String.ofList scheme with
  | "file" => .file
  | "http" | "https" | "ws" | "wss" | "ftp" => .web
  | _ => .other

/-- Whether the scheme is special. -/
def Kind.isSpecial : Kind → Bool
  | other => false
  | _ => true

/-- Whether a character may be in a scheme. -/
def isSchemeChar (c : Char) : Bool :=
  c.isAlphanum || c == '+' || c == '-' || c == '.'

/-- The scheme of a text, in small letters, and what comes after its colon. -/
def scheme? (s : List Char) : Option (List Char × List Char) :=
  match s.takeWhile isSchemeChar, s.dropWhile isSchemeChar with
  | c :: name, ':' :: rest =>
    if c.isAlpha then some ((c :: name).map Char.toLower, rest) else none
  | _, _ => none

/-! ## Paths -/

/-- Whether a character ends a segment. -/
def isSlash (k : Kind) (c : Char) : Bool :=
  c == '/' || (k.isSpecial && c == '\\')

/-- Whether a character ends a path. -/
def endsPath (c : Char) : Bool :=
  c == '?' || c == '#'

/-- The pieces of a text between slashes. -/
def splitSlashes (k : Kind) (s : List Char) : List (List Char) :=
  Text.splitOn '/' (s.map fun c => if isSlash k c then '/' else c)

/-- A segment with the escapes of its points taken back. -/
def plainPoints : List Char → List Char
  | '%' :: '2' :: 'e' :: rest | '%' :: '2' :: 'E' :: rest => '.' :: plainPoints rest
  | c :: rest => c :: plainPoints rest
  | [] => []

/-- Whether a segment stands for the one before it. -/
def isParent (segment : List Char) : Bool :=
  plainPoints segment == ['.', '.']

/-- Whether a segment stands for nothing. -/
def isHere (segment : List Char) : Bool :=
  plainPoints segment == ['.']

/-- Whether a segment is the letter of a drive. -/
def isDrive : List Char → Bool
  | [letter, mark] => letter.isAlpha && (mark == ':' || mark == '|')
  | _ => false

/-- Whether a segment begins with the letter of a drive, up to its end or a backslash. -/
def beginsWithDrive : List Char → Bool
  | letter :: mark :: rest => isDrive [letter, mark] && rest.head?.all (· == '\\')
  | _ => false

/-- The segments before the last one; the letter of a drive is not left. -/
def leave : List (List Char) → List (List Char)
  | [] => []
  | segment :: earlier => if beginsWithDrive segment then segment :: earlier else earlier

/-- A segment in its written form. -/
def segmentText (segment : List Char) : List Char :=
  Percent.encode Percent.staysInPath segment

/-- The letter of a drive with its colon. -/
def driveText (segment : List Char) : List Char :=
  segment.take 1 ++ [':']

/-- The segments of a path with those that stand for the one before, or for nothing,
carried out.  `earlier` are those so far, the last first.  In the path of a file, the
letter of a drive with more behind it gets its colon when it is the first segment. -/
def resolve (k : Kind) (earlier : List (List Char)) : List (List Char) → List (List Char)
  | [] => earlier.reverse
  | [last] =>
    if isParent last then ([] :: leave earlier).reverse
    else if isHere last then ([] :: earlier).reverse
    else (segmentText last :: earlier).reverse
  | segment :: rest =>
    if isParent segment then resolve k (leave earlier) rest
    else if isHere segment then resolve k earlier rest
    else if k = .file && earlier.isEmpty && isDrive segment then resolve k [driveText segment] rest
    else resolve k (segmentText segment :: earlier) rest

/-- Whether a path comes to begin with the letter of a drive: then it is one of this
computer. -/
def beginsAtDrive (earlier : List (List Char)) : List (List Char) → Bool
  | [] => false
  | [_] => false
  | segment :: rest =>
    if isParent segment then beginsAtDrive (leave earlier) rest
    else if isHere segment then beginsAtDrive earlier rest
    else earlier.isEmpty && isDrive segment || beginsAtDrive (segment :: earlier) rest

/-- The path of a text whose first slash has been taken off.  The path of a file has no
empty segments at its beginning. -/
def readSegments (k : Kind) (s : List Char) : UrlPath :=
  let names := resolve k [] (splitSlashes k s)
  if k = .file then
    match names.dropWhile List.isEmpty with
    | [] => .segments [[]]
    | more => .segments more
  else .segments names

/-- The path of a text after an authority. -/
def readPath (k : Kind) (s : List Char) : UrlPath :=
  match s with
  | [] => if k.isSpecial then .segments [[]] else .segments []
  | c :: rest => if isSlash k c then readSegments k rest else readSegments k (c :: rest)

/-! ## Reading URLs -/

/-- A URL with the path, the query and the fragment of a text. -/
def complete (k : Kind) (scheme : List Char) (authority : Option Authority)
    (path : List Char → UrlPath) (s : List Char) : Url :=
  let rest := s.dropWhile fun c => !endsPath c
  let query :=
    match rest with
    | '?' :: q => some (Percent.encode (Percent.staysInQuery k.isSpecial) (q.takeWhile (· != '#')))
    | _ => none
  let fragment :=
    match rest.dropWhile (· != '#') with
    | '#' :: f => some (Percent.encode Percent.staysInFragment f)
    | _ => none
  { scheme, authority, path := path (s.takeWhile fun c => !endsPath c), query, fragment }

/-- The text before and after the last occurrence of a character. -/
def splitAtLast? (sep : Char) : List Char → Option (List Char × List Char)
  | [] => none
  | c :: rest =>
    match splitAtLast? sep rest with
    | some (before, after) => some (c :: before, after)
    | none => if c = sep then some ([], rest) else none

/-- The user name and the password of a text. -/
def readUser (s : List Char) : List Char × Option (List Char) :=
  let encode := Percent.encode Percent.staysInUser
  let password :=
    match s.dropWhile (· != ':') with
    | _ :: c :: rest => some (encode (c :: rest))
    | _ => none
  (encode (s.takeWhile (· != ':')), password)

/-- The text of a host up to the colon after it, and the rest.  A colon between
brackets belongs to the host. -/
def splitHost (inBrackets : Bool) : List Char → List Char × List Char
  | [] => ([], [])
  | c :: rest =>
    if c == ':' && !inBrackets then ([], c :: rest)
    else
      let (host, more) := splitHost (c == '[' || (inBrackets && c != ']')) rest
      (c :: host, more)

/-- The number at the beginning of the text after a colon, and the rest.  No digits are no
number; the text after it may only begin with a backslash. -/
def readNumber (scheme s : List Char) : Except UrlFault (Option Nat × List Char) :=
  let digits := s.takeWhile Text.isDigit
  let rest := s.dropWhile Text.isDigit
  let number := Text.readDigits digits
  if 65535 < number then .error .portNumber
  else if rest.head?.any (· != '\\') then .error .portNumber
  else if digits.isEmpty || defaultNumber? (String.ofList scheme) = some number then
    .ok (none, rest)
  else .ok (some number, rest)

/-- The host and the number after it of a text, and the rest. -/
def readHostAndNumber (k : Kind) (scheme s : List Char) :
    Except UrlFault (Option Host × Option Nat × List Char) := do
  let (hostText, numberText) := splitHost false s
  if hostText.isEmpty then
    if k.isSpecial || !numberText.isEmpty then .error .emptyHost
    else .ok (none, none, [])
  else
    let host ← Host.read k.isSpecial hostText
    let (number, rest) ← readNumber scheme (numberText.drop 1)
    .ok (some host, number, rest)

/-- The URL of a text after its scheme and two slashes. -/
def readAuthority (k : Kind) (scheme s : List Char) : Except UrlFault Url := do
  let ends (c : Char) : Bool := isSlash k c || endsPath c
  let front := s.takeWhile fun c => !ends c
  let rest := s.dropWhile fun c => !ends c
  let (user, place) := (splitAtLast? '@' front).getD ([], front)
  if place.isEmpty && !front.isEmpty && user.isEmpty && !rest.isEmpty then .error .emptyHost
  else
    let (username, password) := readUser user
    let (host, portNumber, more) ← readHostAndNumber k scheme place
    if host.isNone && (!username.isEmpty || password.isSome) then .error .emptyHost
    else
      let authority : Authority := { username, password, host, portNumber }
      .ok (complete k scheme (some authority) (readPath k) (more ++ rest))

/-- The URL of a file, of the text after its scheme.  The letter of a drive is no host,
and the name of this computer is none either. -/
def readFile (scheme s : List Char) : Except UrlFault Url := do
  let path := readPath .file
  match s with
  | a :: b :: rest =>
    if isSlash .file a && isSlash .file b then
      let ends (c : Char) : Bool := isSlash .file c || endsPath c
      let front := rest.takeWhile fun c => !ends c
      if front.isEmpty || isDrive front then
        .ok (complete .file scheme (some {}) path rest)
      else
        let host ← Host.read true front
        let more := rest.dropWhile fun c => !ends c
        let place := more.takeWhile fun c => !endsPath c
        let isHere := host = .name "localhost".toList ||
          beginsAtDrive [] (splitSlashes .file (place.drop 1))
        .ok (complete .file scheme (some { host := if isHere then none else some host }) path more)
    else .ok (complete .file scheme (some {}) path s)
  | _ => .ok (complete .file scheme (some {}) path s)

/-- A text without the characters that a URL may not have: control characters and spaces
at its ends, and tabs and line ends anywhere. -/
def tidy (s : List Char) : List Char :=
  let isEdge (c : Char) : Bool := c.toNat ≤ 0x20
  (((s.dropWhile isEdge).reverse.dropWhile isEdge).reverse).filter
    fun c => c != '\t' && c != '\n' && c != '\r'

/-- The URL of a text. -/
def read (s : List Char) : Except UrlFault Url :=
  match scheme? (tidy s) with
  | none => .error .relative
  | some (scheme, rest) =>
    match Kind.ofScheme scheme with
    | .file => readFile scheme rest
    | .web => readAuthority .web scheme (rest.dropWhile (isSlash .web))
    | .other =>
      match rest with
      | '/' :: '/' :: more => readAuthority .other scheme more
      | '/' :: more => .ok (complete .other scheme none (readSegments .other) more)
      | _ =>
        let path (p : List Char) : UrlPath := .bare (Percent.encode Percent.isPlain p)
        .ok (complete .other scheme none path rest)

end Url

end TabularQuery
