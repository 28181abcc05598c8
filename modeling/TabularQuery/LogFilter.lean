import TabularQuery.Log
import TabularQuery.Text.Blank
import TabularQuery.Text.Order
import TabularQuery.Text.WordTable

/-!
# Log filters

A text that says which events are reported: directives with commas between them.  A
directive names a part of the program, or a field in brackets and braces, or both, and a
level.  Of the directives for an event, the one that names its part most closely decides;
of two that name it alike, the one with a field.

## Main definitions

* `Directive.read` — the directive of a text, or why it is none.
* `LogFilter` — a filter, `LogFilter.admits` — what it lets through.
* `LogFilter.resolve` — the filter of two texts, the first of which may be missing.
-/

namespace TabularQuery

/-- Why a text is not a directive. -/
inductive DirectiveFault where
  /-- Its marks are not where they should be. -/
  | form
  /-- What stands for a level is none. -/
  | level
  deriving DecidableEq, Repr

/-- The wording of a fault. -/
def DirectiveFault.message : DirectiveFault → String
  | form => "invalid filter directive"
  | level =>
    "error parsing level filter: expected one of \"off\", \"error\", \"warn\", \"info\", " ++
      "\"debug\", \"trace\", or a number 0-5"

/-- The field that a directive asks for: its name, and a value that it must have. -/
structure FieldTest where
  name : List Char
  value : Option (List Char) := none
  deriving DecidableEq, Repr

/-- The field of a text: its name, and its value after an equals sign. -/
def FieldTest.read (s : List Char) : FieldTest :=
  match Text.splitOn '=' s with
  | name :: value :: _ => { name, value := some value }
  | _ => { name := s }

/-- What a directive says: the events of the parts with a name that begins like `target`,
and with a field, are reported up to a level; none of them without a level. -/
structure Directive where
  target : List Char := []
  /-- The name of a span of time in which events are reported. -/
  span : Option (List Char) := none
  field : Option FieldTest := none
  level : Option Level := some .trace
  deriving DecidableEq, Repr

namespace Directive

/-! ## Levels -/

/-- The number of some digits, with a plus sign in front or without. -/
def number? (s : List Char) : Option Nat :=
  let digits :=
    match s with
    | '+' :: rest => rest
    | _ => s
  if digits.isEmpty || !digits.all Text.isDigit then none else some (Text.readDigits digits)

/-- The level of a number; nought is the absence of one. -/
def levelOfNumber? : Nat → Option (Option Level)
  | 0 => some none
  | 1 => some (some .error)
  | 2 => some (some .warn)
  | 3 => some (some .info)
  | 4 => some (some .debug)
  | 5 => some (some .trace)
  | _ => none

/-- The level of a word in large or small letters; `off` is the absence of one. -/
def levelOfWord? (s : List Char) : Option (Option Level) :=
  match String.ofList (s.map Char.toLower) with
  | "off" => some none
  | "error" => some (some .error)
  | "warn" => some (some .warn)
  | "info" => some (some .info)
  | "debug" => some (some .debug)
  | "trace" => some (some .trace)
  | _ => none

/-- The level of a number or a word. -/
def level? (s : List Char) : Option (Option Level) :=
  match number? s with
  | some n => levelOfNumber? n
  | none => levelOfWord? s

/-! ## Reading directives

A directive is read with the blanks at its ends cut off, but the names and the level in it
are taken from the text with the blanks, from the place where they stand without.  So each
reading function has both texts. -/

/-- Whether a character may begin the name of a part. -/
def isTargetStart (c : Char) : Bool :=
  Text.isWordChar c || c == '-' || c == ':' || c == '_'

/-- The level at the end of a directive; without a word, everything is reported. -/
def readLevel (d : Directive) (s : List Char) : Except DirectiveFault Directive :=
  if s.isEmpty then .ok d
  else
    match level? s with
    | some level => .ok { d with level }
    | none => .error .level

/-- What comes after the brackets of a directive: nothing, or a level. -/
def readEnd (d : Directive) (s : List Char) : List Char → Except DirectiveFault Directive
  | [] => .ok d
  | '=' :: _ => readLevel d (s.drop 1)
  | _ => .error .form

/-- The field in the braces of a directive, and what comes after it. -/
def readField (d : Directive) (s trimmed : List Char) : Except DirectiveFault Directive :=
  let size := (trimmed.takeWhile (· != '}')).length
  match trimmed.drop size with
  | _ :: ']' :: more =>
    if size = 0 then .error .form
    else readEnd { d with field := some (FieldTest.read (s.take size)) } (s.drop (size + 2)) more
  | _ => .error .form

/-- The name of a span in the brackets of a directive, and what comes after it. -/
def readSpan (d : Directive) (s trimmed : List Char) : Except DirectiveFault Directive :=
  let size := (trimmed.takeWhile fun c => c != ']' && c != '{').length
  match trimmed.drop size with
  | [] => .error .form
  | ']' :: more => readEnd { d with span := some (s.take size) } (s.drop (size + 1)) more
  | _ :: more =>
    readField { d with span := if size = 0 then none else some (s.take size) }
      (s.drop (size + 1)) more

/-- The directive of a text without commas.  A part alone reports everything, and a level
alone is for all parts. -/
def read (s : List Char) : Except DirectiveFault Directive :=
  match Text.trim s with
  | [] => .error .form
  | '[' :: rest => readSpan {} (s.drop 1) rest
  | c :: rest =>
    if !isTargetStart c then .error .form
    else
      let size := ((c :: rest).takeWhile fun c => c != '=' && c != '[').length
      match (c :: rest).drop size with
      | [] =>
        match level? s with
        | some level => .ok { level }
        | none => .ok { target := s }
      | '=' :: _ => readLevel { target := s.take size } (s.drop (size + 1))
      | _ :: more => readSpan { target := s.take size } (s.drop (size + 1)) more

/-! ## What directives are about -/

/-- The name of the field of a directive, if it has one. -/
def fieldName (d : Directive) : List Char :=
  match d.field with
  | some f => f.name
  | none => []

/-- Whether a directive is about an event.  There are no spans here, and a value of a field
is only looked at in a span. -/
def covers (d : Directive) (e : Event) : Bool :=
  d.target.isPrefixOf e.origin.name.toList && d.span.isNone &&
    match d.field with
    | some f =>
      f.value.isNone && (("message" :: e.fields.map (·.1)).any fun name => name.toList == f.name)
    | none => true

/-- Whether a directive lets a level through. -/
def admits (d : Directive) (l : Level) : Bool :=
  match d.level with
  | some greatest => l.rank ≤ greatest.rank
  | none => false

/-- How closely two directives name what they are about: by the length of the name of the
part, and then by the name of the field. -/
def closeness (d e : Directive) : Ordering :=
  match compare d.target.length e.target.length with
  | .eq => compareCharacters d.fieldName e.fieldName
  | o => o

end Directive

/-- A filter of events. -/
structure LogFilter where
  directives : List Directive
  deriving DecidableEq, Repr

namespace LogFilter

/-- The texts of the directives of a filter. -/
def pieces (s : String) : List (List Char) :=
  (Text.splitOn ',' s.toList).filter fun piece => !piece.isEmpty

/-- The filter of a text all of whose directives can be read. -/
def ofText? (s : String) : Option LogFilter :=
  match (pieces s).mapM Directive.read with
  | .ok directives => some ⟨directives⟩
  | .error _ => none

/-- The directives of a text that can be read. -/
def readable (s : String) : List Directive :=
  (pieces s).filterMap fun piece => (Directive.read piece).toOption

/-- What is said about a directive that cannot be read. -/
def complaint? (piece : List Char) : Option String :=
  match Directive.read piece with
  | .ok _ => none
  | .error f => some ("ignoring \x60" ++ String.ofList piece ++ "\x60: " ++ f.message ++ "\n")

/-- The filter of those directives of a text that can be read, and what is said about the
others.  Without any, only errors are reported. -/
def ofText (s : String) : LogFilter × List String :=
  let directives := readable s
  (⟨if directives.isEmpty then [{ level := some .error }] else directives⟩,
    (pieces s).filterMap complaint?)

/-- The filter of a text that may be missing or cannot be read, and of another text in its
place, with what is said about that one. -/
def resolve (preferred : Option String) (fallback : String) : LogFilter × List String :=
  match preferred.bind ofText? with
  | some f => (f, [])
  | none => ofText fallback

/-- The directive that decides on an event: the last of those that name it most closely. -/
def decisive? (f : LogFilter) (e : Event) : Option Directive :=
  (f.directives.filter (·.covers e)).foldl (fun best d =>
    match best with
    | some b => if (d.closeness b).isGE then some d else some b
    | none => some d) none

/-- Whether an event is reported. -/
def admits (f : LogFilter) (e : Event) : Bool :=
  (f.decisive? e).any (·.admits e.level)

end LogFilter

end TabularQuery
