import Mathlib.Data.List.Basic
import TabularQuery.Command.Line

/-!
# The grammar of the command line

A command line is a sequence of items: words that are no options, and the option of the
schema, whose value stands in a word of its own or behind an equals sign.  The value may be
any text, also one that looks like an option.  The words of every sequence of items are read
as the items say, wherever the options stand, and but for an option without a value at their
end all words are those of such a sequence.

## Main definitions

* `Command.words` — the words that name a command.
* `CommandLine.Item` — the items, and `Item.words`, which writes them.
* `CommandLine.positionals`, `CommandLine.schemas` — the two kinds of items in a sequence.
* `CommandLine.split_items` — words are taken apart into the two kinds.
* `CommandLine.exists_items_read` — what is read from any words.
* `CommandLine.read_items` — the command line of a sequence of items.
-/

namespace TabularQuery

/-! ## Commands -/

namespace Command

/-- The words that name a command: a short one and, for the searches, a long one. -/
def words : Command → List String
  | find => ["find", "find-many"]
  | first => ["first", "find-first"]
  | unique => ["unique", "find-unique"]
  | count => ["count"]
  | aggregate => ["aggregate"]

/-- **A command is read from its words**, and from no others. -/
theorem ofWord?_eq_some_iff {word : String} {command : Command} :
    ofWord? word = some command ↔ word ∈ command.words := by
  constructor
  · intro h
    unfold ofWord? at h
    split at h
    case h_9 => cases h
    all_goals
      obtain rfl := Option.some.inj h
      simp [words]
  · intro h
    cases command <;> simp only [words, List.mem_cons, List.not_mem_nil, or_false] at h
    case count => rw [h]; rfl
    case aggregate => rw [h]; rfl
    all_goals rcases h with rfl | rfl <;> rfl

/-- A word names a command if it is one of their words. -/
theorem isSome_ofWord?_iff {word : String} :
    (ofWord? word).isSome ↔ ∃ command : Command, word ∈ command.words := by
  rw [Option.isSome_iff_exists]
  exact exists_congr fun _ => ofWord?_eq_some_iff

end Command

namespace CommandLine

/-! ## Items -/

/-- A word that is no option. -/
structure Positional (word : String) : Prop where
  ne_option : word ≠ "--schema"
  ne_joined : ¬ "--schema=".toList <+: word.toList

/-- An item of a command line. -/
inductive Item where
  /-- A word that is no option. -/
  | positional (word : String) (h : Positional word)
  /-- The option with its value in the next word. -/
  | spaced (value : String)
  /-- The option with its value behind an equals sign. -/
  | joined (value : String)

namespace Item

/-- The words of an item. -/
def words : Item → List String
  | positional word _ => [word]
  | spaced value => ["--schema", value]
  | joined value => ["--schema=" ++ value]

/-- The word of an item that is no option. -/
def positional? : Item → Option String
  | positional word _ => some word
  | _ => none

/-- The value of an item that is an option. -/
def schema? : Item → Option String
  | positional _ _ => none
  | spaced value | joined value => some value

end Item

/-- The words of items, one after the other. -/
def wordsOf (items : List Item) : List String :=
  items.flatMap Item.words

/-- The words of items that are no options. -/
def positionals (items : List Item) : List String :=
  items.filterMap Item.positional?

/-- The values of the options among items. -/
def schemas (items : List Item) : List String :=
  items.filterMap Item.schema?

variable {schema : Option String} {word value : String} {words : List String}

/-! ## Taking words apart -/

theorem schemaIn?_joined (value : String) : schemaIn? ("--schema=" ++ value) = some value := by
  have hlist : ("--schema=" ++ value).toList = "--schema=".toList ++ value.toList :=
    String.toList_append
  have hprefix : "--schema=".toList.isPrefixOf ("--schema=".toList ++ value.toList) = true :=
    List.isPrefixOf_iff_prefix.2 (List.prefix_append _ _)
  have hlength : "--schema=".length = "--schema=".toList.length := rfl
  rw [schemaIn?, hlist, if_pos hprefix, hlength, List.drop_left, String.ofList_toList]

theorem schemaIn?_eq_none (h : Positional word) : schemaIn? word = none :=
  if_neg fun hprefix => h.ne_joined (List.isPrefixOf_iff_prefix.1 hprefix)

theorem split_positional (h : Positional word) :
    split schema (word :: words) = (word :: (split schema words).1, (split schema words).2) := by
  rw [split.eq_def]
  simp only [if_neg h.ne_option, schemaIn?_eq_none h]

theorem split_spaced : split schema ("--schema" :: value :: words) = split (some value) words := by
  rw [split.eq_def]
  simp only [if_true]

theorem split_joined :
    split schema (("--schema=" ++ value) :: words) = split (some value) words := by
  have hne : "--schema=" ++ value ≠ "--schema" := by
    intro h
    have hlength : ("--schema=" ++ value).length = 8 := congrArg String.length h
    have hjoined : ("--schema=" ++ value).length = 9 + value.length := String.length_append ..
    omega
  rw [split.eq_def]
  simp only [if_neg hne, schemaIn?_joined]

/-- The last of several values counts. -/
theorem last_cons (value : String) (values : List String) (schema : Option String) :
    (value :: values).getLast?.or schema = values.getLast?.or (some value) := by
  rw [List.getLast?_cons]
  cases values.getLast? <;> rfl

/-- **Words are taken apart into the words that are no options and the last value**, whatever
words follow. -/
theorem split_items (items : List Item) (schema : Option String) (rest : List String) :
    split schema (wordsOf items ++ rest) =
      (positionals items ++ (split ((schemas items).getLast?.or schema) rest).1,
        (split ((schemas items).getLast?.or schema) rest).2) := by
  induction items generalizing schema with
  | nil => rfl
  | cons item items ih =>
    cases item with
    | positional word h =>
      have hwords : wordsOf (.positional word h :: items) ++ rest =
          word :: (wordsOf items ++ rest) := rfl
      rw [hwords, split_positional h, ih]
      rfl
    | spaced value =>
      have hwords : wordsOf (.spaced value :: items) ++ rest =
          "--schema" :: value :: (wordsOf items ++ rest) := rfl
      have hschemas : schemas (.spaced value :: items) = value :: schemas items := rfl
      rw [hwords, hschemas, split_spaced, ih, last_cons]
      rfl
    | joined value =>
      have hwords : wordsOf (.joined value :: items) ++ rest =
          ("--schema=" ++ value) :: (wordsOf items ++ rest) := rfl
      have hschemas : schemas (.joined value :: items) = value :: schemas items := rfl
      rw [hwords, hschemas, split_joined, ih, last_cons]
      rfl

theorem split_wordsOf (items : List Item) :
    split none (wordsOf items) = (positionals items, (schemas items).getLast?) := by
  have h := split_items items none []
  rw [List.append_nil, Option.or_none] at h
  rw [h, split, List.append_nil]

/-! ## All words -/

/-- A word is no option, or it is one. -/
theorem positional_or (word : String) :
    Positional word ∨ word = "--schema" ∨ ∃ value, word = "--schema=" ++ value := by
  by_cases hoption : word = "--schema"
  · exact .inr (.inl hoption)
  · by_cases hjoined : "--schema=".toList <+: word.toList
    · obtain ⟨value, hvalue⟩ := hjoined
      refine .inr (.inr ⟨String.ofList value, ?_⟩)
      have hword : word.toList = ("--schema=" ++ String.ofList value).toList :=
        calc word.toList = "--schema=".toList ++ value := hvalue.symm
          _ = "--schema=".toList ++ (String.ofList value).toList := by
            rw [String.toList_ofList (l := value)]
          _ = ("--schema=" ++ String.ofList value).toList := String.toList_append.symm
      exact String.toList_inj.1 hword
    · exact .inl ⟨hoption, hjoined⟩

/-- Words that a sequence of items writes, or such words and an option without its value. -/
def Written (words : List String) : Prop :=
  ∃ items, words = wordsOf items ∨ words = wordsOf items ++ ["--schema"]

theorem Written.cons (h : Written words) (item : Item) : Written (item.words ++ words) := by
  obtain ⟨items, rfl | rfl⟩ := h
  · exact ⟨item :: items, .inl rfl⟩
  · exact ⟨item :: items, .inr (List.append_assoc ..).symm⟩

/-- **All words are of this kind.** -/
theorem written : ∀ words : List String, Written words
  | [] => ⟨[], .inl rfl⟩
  | word :: rest => by
    rcases positional_or word with h | rfl | ⟨value, rfl⟩
    · exact (written rest).cons (.positional word h)
    · cases rest with
      | nil => exact ⟨[], .inr rfl⟩
      | cons value rest => exact (written rest).cons (.spaced value)
    · exact (written rest).cons (.joined value)

/-! ## Reading -/

/-- The command line of words that are no options, with a schema: a command, a table and
perhaps a descriptor. -/
def ofPositionals (schema : Option String) : List String → Except UsageFault CommandLine
  | [] => .error .incomplete
  | word :: rest =>
    match Command.ofWord? word, rest with
    | none, _ => .error (.unknownCommand word)
    | some _, [] => .error .incomplete
    | some command, table :: more =>
      .ok { command, table, descriptor := more.head?.getD "\x7b\x7d", schema }

theorem read_eq (words : List String) :
    read words = ofPositionals (split none words).2 (split none words).1 := by
  rw [read]
  split
  · rename_i h
    rw [h]
    rfl
  · rename_i word rest schema h
    rw [h]
    cases hcommand : Command.ofWord? word with
    | none => simp only [ofPositionals, hcommand]
    | some command =>
      simp only [ofPositionals, hcommand]
      match rest with
      | [] => rfl
      | [_] => rfl
      | _ :: _ :: _ => rfl

theorem ofPositionals_eq_ok_iff {line : CommandLine} :
    ofPositionals schema words = .ok line ↔
      ∃ word more, words = word :: line.table :: more ∧
        Command.ofWord? word = some line.command ∧
        line.descriptor = more.head?.getD "\x7b\x7d" ∧ line.schema = schema := by
  constructor
  · intro h
    match words with
    | [] => cases h
    | word :: rest =>
      cases hcommand : Command.ofWord? word with
      | none => simp only [ofPositionals, hcommand, reduceCtorEq] at h
      | some command =>
        simp only [ofPositionals, hcommand] at h
        match rest with
        | [] => cases h
        | table :: more =>
          obtain rfl := Except.ok.inj h
          exact ⟨word, more, rfl, hcommand, rfl, rfl⟩
  · rintro ⟨word, more, rfl, hcommand, hdescriptor, rfl⟩
    simp only [ofPositionals, hcommand, ← hdescriptor]

theorem ofPositionals_isOk_iff :
    (∃ line, ofPositionals schema words = .ok line) ↔
      2 ≤ words.length ∧ ∃ word ∈ words.head?, (Command.ofWord? word).isSome := by
  simp only [ofPositionals_eq_ok_iff]
  constructor
  · rintro ⟨line, word, more, rfl, hcommand, -, -⟩
    refine ⟨?_, word, rfl, Option.isSome_iff_exists.2 ⟨_, hcommand⟩⟩
    simp only [List.length_cons]
    omega
  · rintro ⟨hlength, word, hword, hcommand⟩
    obtain ⟨command, hcommand⟩ := Option.isSome_iff_exists.1 hcommand
    match words with
    | [] => cases hword
    | [_] => simp at hlength
    | _ :: table :: more =>
      obtain rfl := Option.some.inj hword
      exact ⟨⟨command, table, _, schema⟩, _, more, rfl, hcommand, rfl, rfl⟩

/-- The schema does not change what is read beside it. -/
theorem map_ofPositionals (schema other : Option String) (words : List String) :
    (ofPositionals schema words).map (fun line => { line with schema := other }) =
      ofPositionals other words := by
  match words with
  | [] => rfl
  | word :: rest =>
    cases hcommand : Command.ofWord? word with
    | none => simp only [ofPositionals, hcommand]; rfl
    | some command =>
      match rest with
      | [] => simp only [ofPositionals, hcommand]; rfl
      | table :: more => simp only [ofPositionals, hcommand]; rfl

/-- What is read from the words of items. -/
theorem read_wordsOf (items : List Item) :
    read (wordsOf items) = ofPositionals (schemas items).getLast? (positionals items) := by
  rw [read_eq, split_wordsOf]

/-- An option without its value at the end takes the schema away. -/
theorem read_wordsOf_option (items : List Item) :
    read (wordsOf items ++ ["--schema"]) = ofPositionals none (positionals items) := by
  rw [read_eq, split_items]
  exact congrArg _ (List.append_nil _)

/-- **What is read from any words**: they are those of items, read as the items say, or such
words and an option without its value, read as if there was no option. -/
theorem exists_items_read (words : List String) :
    ∃ items,
      words = wordsOf items ∧
        read words = ofPositionals (schemas items).getLast? (positionals items) ∨
      words = wordsOf items ++ ["--schema"] ∧
        read words = ofPositionals none (positionals items) := by
  obtain ⟨items, rfl | rfl⟩ := written words
  · exact ⟨items, .inl ⟨rfl, read_wordsOf items⟩⟩
  · exact ⟨items, .inr ⟨rfl, read_wordsOf_option items⟩⟩

/-- **The command line of a sequence of items.**  It is read if there are two words that are
no options and the first of them names a command.  Then it has this command, the second word
as its table, the third one as its descriptor, an empty object when there is none, and the
value of the last option as its schema.  Items with the same words that are no options, in
the same order, are read alike but for the schema, wherever the options stand, and are refused
with the same fault. -/
theorem read_items (items : List Item) :
    ((∃ line, read (wordsOf items) = .ok line) ↔
      2 ≤ (positionals items).length ∧
        ∃ word ∈ (positionals items).head?, (Command.ofWord? word).isSome) ∧
    (∀ line, read (wordsOf items) = .ok line →
      (positionals items)[0]?.bind Command.ofWord? = some line.command ∧
        (positionals items)[1]? = some line.table ∧
        line.descriptor = (positionals items)[2]?.getD "\x7b\x7d" ∧
        line.schema = (schemas items).getLast?) ∧
    ∀ others, positionals others = positionals items →
      (read (wordsOf others)).map (fun line => { line with schema := none }) =
        (read (wordsOf items)).map fun line => { line with schema := none } := by
  refine ⟨?_, fun line hline => ?_, fun others hsame => ?_⟩
  · rw [read_wordsOf]
    exact ofPositionals_isOk_iff
  · rw [read_wordsOf] at hline
    obtain ⟨word, more, hwords, hcommand, hdescriptor, hschema⟩ :=
      ofPositionals_eq_ok_iff.1 hline
    rw [hwords]
    refine ⟨hcommand, rfl, ?_, hschema⟩
    rw [hdescriptor, List.head?_eq_getElem?]
    rfl
  · rw [read_wordsOf, read_wordsOf, map_ofPositionals, map_ofPositionals, hsame]

example :
    read ["--schema", "--schema=x", "count", "--schema=a=b", "orders"] =
      .ok { command := .count, table := "orders", schema := some "a=b" } := by
  decide

end CommandLine

end TabularQuery
