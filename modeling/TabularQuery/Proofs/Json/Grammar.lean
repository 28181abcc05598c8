import TabularQuery.Json.Source
import TabularQuery.Proofs.Text.Digits

/-!
# JSON texts

The texts of JSON by the rules of its grammar, without a limit to the size of numbers, to the
depth of lists and objects or to the pairing of surrogates.  A text has the tree of which it
is the text; numbers and quoted texts are in it as they are written.

## Main definitions

* `Json.NumberText.Writes`, `Json.QuotedText.Writes` — the texts of numbers and of quoted
  texts.
* `Json.Source.Writes` — the texts of a tree.
* `Json.IsText` — the texts that are JSON.
-/

namespace TabularQuery.Json

/-- Nothing but the blanks of JSON. -/
def Space (s : List Char) : Prop :=
  ∀ c ∈ s, isSpace c = true

/-- The sign of an exponent. -/
inductive SignText : Bool → List Char → Prop where
  | absent : SignText false []
  | plus : SignText false ['+']
  | minus : SignText true ['-']

/-- The exponent of a number, with its letter. -/
inductive ExponentText : Option (Bool × List Char) → List Char → Prop where
  | absent : ExponentText none []
  | present {letter : Char} {below : Bool} {sign ds : List Char} :
      (letter == 'e' || letter == 'E') = true → SignText below sign → Text.Digits ds →
      ExponentText (some (below, ds)) (letter :: (sign ++ ds))

/-- The digits after the point of a number, with the point. -/
inductive FractionText : Option (List Char) → List Char → Prop where
  | absent : FractionText none []
  | present {ds : List Char} : Text.Digits ds → FractionText (some ds) ('.' :: ds)

/-- A number after its sign.  A zero is not followed by more digits before the point. -/
inductive NumberText.Unsigned : NumberText → List Char → Prop where
  | mk {negative : Bool} {whole : List Char} {fraction : Option (List Char)}
      {exponent : Option (Bool × List Char)} {f e : List Char} :
      Text.Digits whole → (∀ rest, whole = '0' :: rest → rest = []) →
      FractionText fraction f → ExponentText exponent e →
      Unsigned ⟨negative, whole, fraction, exponent⟩ (whole ++ (f ++ e))

/-- The texts of a number. -/
def NumberText.Writes (n : NumberText) (s : List Char) : Prop :=
  if n.negative then ∃ u, s = '-' :: u ∧ n.Unsigned u else n.Unsigned s

/-- The characters and code units of a quoted text. -/
inductive PiecesText : List Piece → List Char → Prop where
  | nil : PiecesText [] []
  | char {c : Char} {ps : List Piece} {s : List Char} :
      c ≠ '"' → c ≠ '\\' → ¬ c.toNat < 0x20 → PiecesText ps s →
      PiecesText (.char c :: ps) (c :: s)
  | short {c d : Char} {ps : List Piece} {s : List Char} :
      shortEscape? c = some d → PiecesText ps s → PiecesText (.char d :: ps) ('\\' :: c :: s)
  | unit {a b c d : Char} {n : Nat} {ps : List Piece} {s : List Char} :
      unit? a b c d = some n → PiecesText ps s →
      PiecesText (.unit n :: ps) ('\\' :: 'u' :: a :: b :: c :: d :: s)

/-- The texts of a quoted text, with its quotes.  A fault in the pairing of its surrogates is
none of the text. -/
def QuotedText.Writes (t : QuotedText) (s : List Char) : Prop :=
  ∃ ps u, PiecesText ps u ∧ s = '"' :: (u ++ ['"']) ∧
    t = ⟨String.ofList (assemble .closed ps).1, (assemble .closed ps).2⟩

namespace Source

mutual

/-- The texts of a tree, without blanks around them. -/
def Writes : Source → List Char → Prop
  | null, s => s = ['n', 'u', 'l', 'l']
  | bool true, s => s = ['t', 'r', 'u', 'e']
  | bool false, s => s = ['f', 'a', 'l', 's', 'e']
  | number n, s => n.Writes s
  | text t, s => t.Writes s
  | list items .closed, s => ∃ u, s = '[' :: u ∧ WritesItems true items u
  | object members .closed, s => ∃ u, s = '\x7b' :: u ∧ WritesMembers true members u
  | _, _ => False

/-- The texts of the items of a list from the first of them, or from a later one, with the
closing bracket. -/
def WritesItems : Bool → List Source → List Char → Prop
  | _, [], s => ∃ ws, Space ws ∧ s = ws ++ [']']
  | first, v :: rest, s =>
    ∃ mark ws t u, (if first then mark = [] else ∃ before, Space before ∧ mark = before ++ [',']) ∧
      Space ws ∧ Writes v t ∧ WritesItems false rest u ∧ s = mark ++ (ws ++ (t ++ u))

/-- The texts of the members of an object from the first of them, or from a later one, with
the closing brace. -/
def WritesMembers : Bool → List (QuotedText × Source) → List Char → Prop
  | _, [], s => ∃ ws, Space ws ∧ s = ws ++ ['\x7d']
  | first, (key, v) :: rest, s =>
    ∃ mark ws k gap ws' t u,
      (if first then mark = [] else ∃ before, Space before ∧ mark = before ++ [',']) ∧
      Space ws ∧ key.Writes k ∧ Space gap ∧ Space ws' ∧ Writes v t ∧
      WritesMembers false rest u ∧
      s = mark ++ (ws ++ (k ++ (gap ++ (':' :: (ws' ++ (t ++ u))))))

end

end Source

/-- A text is JSON: the text of a tree, perhaps with blanks around it. -/
def IsText (s : List Char) (v : Source) : Prop :=
  ∃ before t after, Space before ∧ v.Writes t ∧ Space after ∧ s = before ++ (t ++ after)

end TabularQuery.Json
