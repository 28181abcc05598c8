import TabularQuery.Text.Blank

/-!
# Percent signs

The bytes of a text in a URL: a byte that may not stand there is written as a percent
sign and two hexadecimal digits.  Which characters stay depends on the part of the URL.

## Main definitions

* `Percent.encode`, `Percent.decode` — a text with its escapes, and the bytes of one.
* `Percent.form` — a text within a list of parameters.
-/

namespace TabularQuery.Percent

/-- A hexadecimal digit, in capitals. -/
def hexDigit (n : Nat) : Char :=
  if n < 10 then Char.ofNat ('0'.toNat + n) else Char.ofNat ('A'.toNat + (n - 10))

/-- The value of a hexadecimal digit. -/
def hexValue? (c : Char) : Option Nat :=
  if '0' ≤ c ∧ c ≤ '9' then some (c.toNat - '0'.toNat)
  else if 'a' ≤ c ∧ c ≤ 'f' then some (c.toNat - 'a'.toNat + 10)
  else if 'A' ≤ c ∧ c ≤ 'F' then some (c.toNat - 'A'.toNat + 10)
  else none

/-- The escape of a byte. -/
def escape (b : UInt8) : List Char :=
  ['%', hexDigit (b.toNat / 16), hexDigit (b.toNat % 16)]

/-- A character as it is, if it may stay, and otherwise the escapes of its bytes. -/
def encodeChar (stays : Char → Bool) (c : Char) : List Char :=
  if stays c then [c] else (String.utf8EncodeChar c).flatMap escape

/-- A text with the escapes of the characters that may not stay. -/
def encode (stays : Char → Bool) (s : List Char) : List Char :=
  s.flatMap (encodeChar stays)

/-- The bytes of a text with escapes.  A percent sign without two hexadecimal digits
stands for itself. -/
def decode : List Char → List UInt8
  | [] => []
  | [c] => String.utf8EncodeChar c
  | [c, d] => String.utf8EncodeChar c ++ String.utf8EncodeChar d
  | c :: h :: l :: rest =>
    match (if c = '%' then hexValue? h else none), hexValue? l with
    | some a, some b => UInt8.ofNat (16 * a + b) :: decode rest
    | _, _ => String.utf8EncodeChar c ++ decode (h :: l :: rest)

/-- The text of bytes, if they are one. -/
def text? (bytes : List UInt8) : Option (List Char) :=
  (String.fromUTF8? ⟨bytes.toArray⟩).map String.toList

/-! ## What stays -/

/-- A printed character of the seven-bit code, or a space. -/
def isPlain (c : Char) : Bool :=
  0x20 ≤ c.toNat && c.toNat < 0x7F

/-- What stays in a fragment. -/
def staysInFragment (c : Char) : Bool :=
  isPlain c && !([' ', '"', '<', '>', '\x60'].contains c)

/-- What stays in a segment of a path. -/
def staysInPath (c : Char) : Bool :=
  staysInFragment c && !(['#', '?', '\x7b', '\x7d'].contains c)

/-- What stays in a user name or a password. -/
def staysInUser (c : Char) : Bool :=
  staysInPath c && !(['/', ':', ';', '=', '@', '[', '\\', ']', '^', '|'].contains c)

/-- What stays in a query.  In a query to a server of the web a single quote does not. -/
def staysInQuery (special : Bool) (c : Char) : Bool :=
  isPlain c && !([' ', '"', '#', '<', '>'].contains c) && !(special && c == '\'')

/-- What stays in a parameter. -/
def staysInForm (c : Char) : Bool :=
  Text.isDigit c || ('a' ≤ c && c ≤ 'z') || ('A' ≤ c && c ≤ 'Z') ||
    ['*', '-', '.', '_'].contains c

/-- A text within a list of parameters: a space is a plus sign. -/
def form (s : List Char) : List Char :=
  s.flatMap fun c => if c == ' ' then ['+'] else encodeChar staysInForm c

/-- A list of parameters, with equals signs and ampersands. -/
def formList (params : List (List Char × List Char)) : List Char :=
  Text.join ['&'] (params.map fun (name, value) => form name ++ '=' :: form value)

@[simp] theorem encode_nil (stays : Char → Bool) : encode stays [] = [] := rfl

@[simp] theorem encode_append (stays : Char → Bool) (s t : List Char) :
    encode stays (s ++ t) = encode stays s ++ encode stays t := by
  simp [encode]

/-- A text of characters that may stay is not changed. -/
theorem encode_eq_self {stays : Char → Bool} {s : List Char} (h : ∀ c ∈ s, stays c) :
    encode stays s = s := by
  induction s with
  | nil => rfl
  | cons c rest ih =>
    have hc : encodeChar stays c = [c] := by simp [encodeChar, h c]
    have hrest := ih fun d hd => h d (List.mem_cons_of_mem c hd)
    simp only [encode, List.flatMap_cons, hc] at hrest ⊢
    rw [hrest]
    rfl

end TabularQuery.Percent
