import Mathlib.Data.List.Infix
import TabularQuery.Service.Percent

/-!
# Escapes and bytes

A text in a URL stands for bytes: each of its escapes for one, and every other character for
its own.  A character that is escaped stands for the same bytes as before, so escapes that are
put into a text do not change what it stands for.  That is the bytes of the text itself just if
it had no escapes to begin with; otherwise they are fewer.

## Main definitions

* `Percent.bytes`, `Percent.Unescaped` — the bytes of a text, and the texts without escapes.
* `Percent.decode_encode` — escapes that are put into a text.
* `Percent.length_decode_cases` — the bytes that a text stands for, and its own.
* `Percent.eq_of_length_decode` — a part of a text that stands for as many bytes as the text has.
-/

namespace TabularQuery.Percent

variable {stays : Char → Bool} {c h l : Char} {s t : List Char}

/-! ## Bytes -/

/-- The bytes of a text. -/
def bytes (s : List Char) : List UInt8 :=
  s.flatMap String.utf8EncodeChar

@[simp] theorem bytes_nil : bytes [] = [] := rfl

@[simp] theorem bytes_cons (c : Char) (s : List Char) :
    bytes (c :: s) = String.utf8EncodeChar c ++ bytes s := rfl

theorem length_utf8_pos (c : Char) : 0 < (String.utf8EncodeChar c).length := by
  rw [String.length_utf8EncodeChar]
  exact c.utf8Size_pos

/-- A part of a text is the text, or has fewer bytes. -/
theorem eq_or_length_bytes_lt (h : t.Sublist s) : t = s ∨ (bytes t).length < (bytes s).length := by
  induction h with
  | slnil => exact .inl rfl
  | @cons t s c _ ih =>
    right
    have hc := length_utf8_pos c
    rw [bytes_cons, List.length_append]
    rcases ih with rfl | ih
    · omega
    · omega
  | @cons_cons t s c _ ih =>
    rw [bytes_cons, bytes_cons, List.length_append, List.length_append]
    rcases ih with rfl | ih
    · exact .inl rfl
    · right
      omega

theorem bytes_eq_nil (h : bytes s = []) : s = [] := by
  rcases eq_or_length_bytes_lt (List.nil_sublist s) with hs | hs
  · exact hs.symm
  · rw [h] at hs
    cases hs

/-! ## Escapes -/

/-- A text that begins with an escape. -/
def Escapes (s : List Char) : Prop :=
  ∃ h l rest, s = '%' :: h :: l :: rest ∧ (hexValue? h).isSome ∧ (hexValue? l).isSome

/-- A text in which no percent sign stands before two hexadecimal digits. -/
def Unescaped (s : List Char) : Prop :=
  ∀ h l, ['%', h, l] <:+: s → (hexValue? h).isSome → (hexValue? l).isSome → False

theorem unescaped_nil : Unescaped [] :=
  fun _ _ hinfix => absurd (List.eq_nil_of_infix_nil hinfix) (List.cons_ne_nil _ _)

theorem unescaped_cons_iff : Unescaped (c :: s) ↔ ¬ Escapes (c :: s) ∧ Unescaped s := by
  constructor
  · intro hs
    refine ⟨?_, fun h l hinfix => hs h l (List.infix_cons hinfix)⟩
    rintro ⟨h, l, rest, heq, hh, hl⟩
    exact hs h l (heq ▸ ⟨[], rest, rfl⟩) hh hl
  · rintro ⟨hfirst, hrest⟩ h l hinfix hh hl
    rcases List.infix_cons_iff.1 hinfix with ⟨rest, heq⟩ | hinfix
    · exact hfirst ⟨h, l, rest, heq.symm, hh, hl⟩
    · exact hrest h l hinfix hh hl

/-- A text is taken apart into its escapes and its other characters. -/
theorem escapes_induction {motive : List Char → Prop} (nil : motive [])
    (escape : ∀ h l a b s, hexValue? h = some a → hexValue? l = some b → motive s →
      motive ('%' :: h :: l :: s))
    (plain : ∀ c s, ¬ Escapes (c :: s) → motive s → motive (c :: s)) (s : List Char) :
    motive s := by
  match s with
  | [] => exact nil
  | c :: s =>
    by_cases hs : Escapes (c :: s)
    · obtain ⟨h, l, rest, heq, hh, hl⟩ := hs
      obtain ⟨rfl, rfl⟩ := List.cons.inj heq
      obtain ⟨a, ha⟩ := Option.isSome_iff_exists.1 hh
      obtain ⟨b, hb⟩ := Option.isSome_iff_exists.1 hl
      exact escape h l a b rest ha hb (escapes_induction nil escape plain rest)
    · exact plain c s hs (escapes_induction nil escape plain s)
  termination_by s.length

theorem decode_escaped {a b : Nat} (ha : hexValue? h = some a) (hb : hexValue? l = some b)
    (s : List Char) : decode ('%' :: h :: l :: s) = UInt8.ofNat (16 * a + b) :: decode s := by
  simp only [decode, if_true, ha, hb]

/-- A character that begins no escape stands for itself. -/
theorem decode_cons (hs : ¬ Escapes (c :: s)) :
    decode (c :: s) = String.utf8EncodeChar c ++ decode s := by
  match s with
  | [] => simp [decode]
  | [d] => simp [decode]
  | h :: l :: rest =>
    rw [decode]
    split
    · rename_i a b ha hb
      by_cases hc : c = '%'
      · subst hc
        rw [if_pos rfl] at ha
        exact absurd ⟨h, l, rest, rfl, by rw [ha]; rfl, by rw [hb]; rfl⟩ hs
      · rw [if_neg hc] at ha
        cases ha
    · rfl

/-- **A text stands for its own bytes, or has escapes and stands for fewer.** -/
theorem length_decode_cases (s : List Char) :
    (Unescaped s ∧ decode s = bytes s) ∨
      (¬ Unescaped s ∧ (decode s).length < (bytes s).length) := by
  induction s using escapes_induction with
  | nil => exact .inl ⟨unescaped_nil, rfl⟩
  | escape h l a b s ha hb ih =>
    right
    refine ⟨fun hs => (unescaped_cons_iff.1 hs).1 ?_, ?_⟩
    · exact ⟨h, l, s, rfl, by rw [ha]; rfl, by rw [hb]; rfl⟩
    · have hh := length_utf8_pos h
      have hl := length_utf8_pos l
      have hsign := length_utf8_pos '%'
      have hle : (decode s).length ≤ (bytes s).length := by
        rcases ih with ⟨-, heq⟩ | ⟨-, hlt⟩
        · rw [heq]
        · exact le_of_lt hlt
      rw [decode_escaped ha hb]
      simp only [bytes_cons, List.length_cons, List.length_append]
      omega
  | plain c s hs ih =>
    rw [decode_cons hs, unescaped_cons_iff, bytes_cons]
    rcases ih with ⟨hun, heq⟩ | ⟨hun, hlt⟩
    · exact .inl ⟨⟨hs, hun⟩, by rw [heq]⟩
    · refine .inr ⟨fun h => hun h.2, ?_⟩
      rw [List.length_append, List.length_append]
      omega

/-- A text stands for its own bytes just if it has no escapes. -/
theorem decode_eq_bytes_iff : decode s = bytes s ↔ Unescaped s := by
  rcases length_decode_cases s with ⟨hun, heq⟩ | ⟨hun, hlt⟩
  · exact iff_of_true heq hun
  · refine iff_of_false (fun heq => ?_) hun
    rw [heq] at hlt
    exact lt_irrefl _ hlt

instance (s : List Char) : Decidable (Unescaped s) :=
  decidable_of_iff _ decode_eq_bytes_iff

/-- A part of a text that stands for as many bytes as the text has is the text, and has no
escapes. -/
theorem eq_of_length_decode (h : t.Sublist s) (hlength : (decode t).length = (bytes s).length) :
    t = s ∧ Unescaped s := by
  rcases eq_or_length_bytes_lt h with rfl | hlt
  · rcases length_decode_cases t with ⟨hun, -⟩ | ⟨-, hlt⟩
    · exact ⟨rfl, hun⟩
    · omega
  · rcases length_decode_cases t with ⟨-, heq⟩ | ⟨-, hlt'⟩
    · rw [heq] at hlength
      omega
    · omega

/-! ## Escapes that are put in -/

theorem hexValue?_hexDigit {n : Nat} (h : n < 16) : hexValue? (hexDigit n) = some n := by
  have hall : ∀ n < 16, hexValue? (hexDigit n) = some n := by decide
  exact hall n h

theorem decode_escape (b : UInt8) (s : List Char) : decode (escape b ++ s) = b :: decode s := by
  have hb : b.toNat < 256 := b.toNat_lt
  have hhigh := hexValue?_hexDigit (n := b.toNat / 16) (by omega)
  have hlow := hexValue?_hexDigit (n := b.toNat % 16) (by omega)
  have hvalue : 16 * (b.toNat / 16) + b.toNat % 16 = b.toNat := by omega
  have hsplit : escape b ++ s =
      '%' :: hexDigit (b.toNat / 16) :: hexDigit (b.toNat % 16) :: s := rfl
  rw [hsplit, decode_escaped hhigh hlow, hvalue, UInt8.ofNat_toNat]

theorem decode_escapes (bs : List UInt8) (s : List Char) :
    decode (bs.flatMap escape ++ s) = bs ++ decode s := by
  induction bs with
  | nil => rfl
  | cons b rest ih =>
    rw [List.flatMap_cons, List.append_assoc, decode_escape, ih, List.cons_append]

@[simp] theorem encode_cons (stays : Char → Bool) (c : Char) (s : List Char) :
    encode stays (c :: s) = encodeChar stays c ++ encode stays s := rfl

theorem encodeChar_of_stays (h : stays c = true) : encodeChar stays c = [c] :=
  if_pos h

theorem encodeChar_of_not_stays (h : ¬ stays c = true) :
    encodeChar stays c = (String.utf8EncodeChar c).flatMap escape :=
  if_neg h

/-- A character that is escaped has a percent sign in its place. -/
theorem exists_encodeChar (h : ¬ stays c = true) :
    ∃ rest, encodeChar stays c = '%' :: rest := by
  rw [encodeChar_of_not_stays h]
  cases hbytes : String.utf8EncodeChar c with
  | nil =>
    have hpos := length_utf8_pos c
    rw [hbytes] at hpos
    cases hpos
  | cons b rest => exact ⟨_, rfl⟩

/-- No escape begins with a hexadecimal digit. -/
theorem exists_of_encode_eq_cons {rest : List Char} (hs : encode stays s = h :: rest)
    (hh : (hexValue? h).isSome) : ∃ more, s = h :: more ∧ rest = encode stays more := by
  cases s with
  | nil => cases hs
  | cons c more =>
    rw [encode_cons] at hs
    by_cases hc : stays c = true
    · rw [encodeChar_of_stays hc] at hs
      obtain ⟨rfl, rfl⟩ := List.cons.inj hs
      exact ⟨more, rfl, rfl⟩
    · obtain ⟨digits, hdigits⟩ := exists_encodeChar hc
      rw [hdigits] at hs
      obtain ⟨rfl, -⟩ := List.cons.inj hs
      cases hh

/-- **Escapes that are put into a text do not change what it stands for**, if its own escapes
stay. -/
theorem decode_encode (hsign : stays '%' = true)
    (hdigits : ∀ c, (hexValue? c).isSome → stays c = true) (s : List Char) :
    decode (encode stays s) = decode s := by
  induction s using escapes_induction with
  | nil => rfl
  | escape h l a b s ha hb ih =>
    have hh : stays h = true := hdigits h (by rw [ha]; rfl)
    have hl : stays l = true := hdigits l (by rw [hb]; rfl)
    rw [encode_cons, encode_cons, encode_cons, encodeChar_of_stays hsign,
      encodeChar_of_stays hh, encodeChar_of_stays hl, decode_escaped ha hb]
    exact (decode_escaped ha hb _).trans (congrArg _ ih)
  | plain c s hs ih =>
    rw [encode_cons, decode_cons hs]
    by_cases hc : stays c = true
    · rw [encodeChar_of_stays hc]
      have hs' : ¬ Escapes (c :: encode stays s) := by
        rintro ⟨h, l, rest, heq, hh, hl⟩
        obtain ⟨rfl, htail⟩ := List.cons.inj heq
        obtain ⟨tail, rfl, hrest⟩ := exists_of_encode_eq_cons htail hh
        obtain ⟨more, rfl, -⟩ := exists_of_encode_eq_cons hrest.symm hl
        exact hs ⟨h, l, more, rfl, hh, hl⟩
      exact (decode_cons hs').trans (congrArg _ ih)
    · rw [encodeChar_of_not_stays hc, decode_escapes, ih]

/-- A character of a text with escapes is one of the text, or stands in an escape. -/
theorem mem_encode {d : Char} (hd : d ∈ encode stays s) :
    d ∈ s ∨ d = '%' ∨ ∃ n < 16, d = hexDigit n := by
  obtain ⟨c, hc, hd⟩ := List.mem_flatMap.1 hd
  by_cases hstays : stays c = true
  · rw [encodeChar_of_stays hstays, List.mem_singleton] at hd
    exact .inl (hd ▸ hc)
  · rw [encodeChar_of_not_stays hstays] at hd
    obtain ⟨b, -, hd⟩ := List.mem_flatMap.1 hd
    have hb : b.toNat < 256 := b.toNat_lt
    simp only [escape, List.mem_cons, List.not_mem_nil, or_false] at hd
    rcases hd with rfl | rfl | rfl
    · exact .inr (.inl rfl)
    · exact .inr (.inr ⟨_, by omega, rfl⟩)
    · exact .inr (.inr ⟨_, by omega, rfl⟩)

/-! ## Segments of paths -/

theorem hexDigit_ne_slash {n : Nat} (h : n < 16) : hexDigit n ≠ '/' := by
  have hall : ∀ n < 16, hexDigit n ≠ '/' := by decide
  exact hall n h

theorem slash_not_mem_encode (h : '/' ∉ s) : '/' ∉ encode stays s := by
  intro hslash
  rcases mem_encode hslash with hs | hs | ⟨n, hn, hs⟩
  · exact h hs
  · cases hs
  · exact hexDigit_ne_slash hn hs.symm

/-- Hexadecimal digits stay in a path. -/
theorem staysInPath_of_hexValue? (hc : (hexValue? c).isSome) : staysInPath c = true := by
  have hbound : c.toNat < 128 := by
    rw [hexValue?] at hc
    split_ifs at hc with hdigit hsmall hgreat
    · have hle : c.toNat ≤ 57 := hdigit.2
      omega
    · have hle : c.toNat ≤ 102 := hsmall.2
      omega
    · have hle : c.toNat ≤ 70 := hgreat.2
      omega
    · cases hc
  have hall : ∀ n < 128, (hexValue? (Char.ofNat n)).isSome →
      staysInPath (Char.ofNat n) = true := by
    decide +kernel
  rw [← Char.ofNat_toNat c] at hc ⊢
  exact hall c.toNat hbound hc

/-! ## Lists of parameters -/

/-- Parameters are written down as something. -/
theorem formList_ne_nil {params : List (List Char × List Char)} (h : params ≠ []) :
    formList params ≠ [] := by
  obtain ⟨⟨name, value⟩, rest, rfl⟩ := List.exists_cons_of_ne_nil h
  cases rest with
  | nil => simp [formList, Text.join]
  | cons next more => simp [formList, Text.join]

end TabularQuery.Percent
