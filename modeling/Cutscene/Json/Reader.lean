import Cutscene.Dictionary
import Cutscene.Json.Outline

set_option relaxedAutoImplicit false
set_option autoImplicit false

/-!
# Readers

A reader takes an outline for a value of some type. Readers walk the outline in text order, so
that the first problem in the text is the one that is reported, and they look no further than
they have to: a list where a text is wanted is refused at its bracket.

## Main definitions

* `Cutscene.Json.Reader` — readers; `text`, `flag`, `count`, `optional`, `list`, `members` and
  `choice` build them.
* `Cutscene.Json.Schema` — a type with named fields, read from a record or from a list.
* `Cutscene.Json.readText` — reads a whole text.
-/

namespace Cutscene.Json

variable {σ α : Type}

/-- Takes an outline for a value. -/
abbrev Reader (α : Type) := Outline → Except Problem α

/-- A fault as what stops a reading. -/
def orFault (r : Except Fault α) : Except Problem α := r.mapError .fault

/-- What stops the reading of something that is not of the wanted kind. Lists and records are
recognised by their bracket; anything else has to be well formed to be named. -/
def Outline.problem (wanted : String) : Outline → Problem
  | .null => .mismatch (.wrongKind .null wanted)
  | .flag b => .mismatch (.wrongKind (.flag b) wanted)
  | .number (.ok n) => .mismatch (.wrongKind (.number n) wanted)
  | .number (.error f) => .fault f
  | .text (.ok s) => .mismatch (.wrongKind (.text s) wanted)
  | .text (.error f) => .fault f
  | .list .. => .mismatch (.wrongKind .list wanted)
  | .record .. => .mismatch (.wrongKind .record wanted)
  | .broken _ onRead _ => .fault onRead

/-! ## Plain values -/

/-- Reads a text. -/
def readString : Reader String
  | .text (.ok s) => .ok s
  | o => .error (o.problem "a string")

/-- Reads a truth value. -/
def readFlag : Reader Bool
  | .flag b => .ok b
  | o => .error (o.problem "a boolean")

/-- Reads a number of 64 bits without sign; `wanted` is what messages call it. -/
def readCount (wanted : String) : Reader UInt64
  | .number (.ok (.whole n)) =>
    if 0 ≤ n ∧ n.toNat < UInt64.size then .ok (UInt64.ofNat n.toNat)
    else .error (.mismatch (.wrongValue (.number (.whole n)) wanted))
  | o => .error (o.problem wanted)

/-- Reads `null`. -/
def readNothing : Reader Unit
  | .null => .ok ()
  | o => .error (o.problem "unit")

/-- Reads something that may be missing: `null` stands for nothing. What begins like `null` has to
be it, whatever the reader makes of other values. -/
def readOptional (r : Reader α) : Reader (Option α)
  | .null => .ok none
  | .broken .nothing onRead _ => .error (.fault onRead)
  | o => (r o).map some

/-- Reads items one after the other. -/
def readEach (r : Reader α) : List Outline → Except Problem (List α)
  | [] => .ok []
  | item :: items => do
    let a ← r item
    let as ← readEach r items
    return a :: as

/-- Reads a list. -/
def readList (r : Reader α) : Reader (List α)
  | .list items fault => do
    let as ← readEach r items
    orFault (ending fault)
    return as
  | o => .error (o.problem "a sequence")

/-- Reads members one after the other. -/
def readNamed (r : Reader α) : List Member → Except Problem (List (String × α))
  | [] => .ok []
  | (name, value) :: members => do
    let name ← orFault name
    let a ← r value
    let as ← readNamed r members
    return (name, a) :: as

/-- Reads a record whose names are data; of a name that comes twice the last value counts. -/
def readDictionary (r : Reader α) : Reader (Dictionary α)
  | .record members fault => do
    let as ← readNamed r members
    orFault (ending fault)
    return Dictionary.ofList as
  | o => .error (o.problem "a map")

/-! ## Choices -/

/-- The choice of a name. -/
def choose (choices : List (String × α)) (name : String) : Except Problem α :=
  match choices.find? (·.1 == name) with
  | some c => .ok c.2
  | none => .error (.mismatch (.unknownChoice name (choices.map (·.1))))

/-- Reads one of several names: a text, or a record of that name and `null`. Nothing else is even
looked at. -/
def readChoice (choices : List (String × α)) : Reader α
  | .text name => do choose choices (← orFault name)
  | .record [] fault => .error (.fault (fault.getD .malformed))
  | .record ((.error f, _) :: _) _ => .error (.fault f)
  | .record ((.ok name, value) :: members) fault => do
    let choice ← choose choices name
    readNothing value
    if members.isEmpty then
      orFault (ending fault)
      return choice
    else .error (.fault .malformed)
  | .broken .quote onRead _ => .error (.fault onRead)
  | .broken .absent onRead _ => .error (.fault onRead)
  | _ => .error (.fault .malformed)

/-- Reads one of several names from a value that has been read before: here other kinds of values
are named, and an empty record counts as nothing. -/
def readChoiceAgain (choices : List (String × α)) : Reader α
  | .text name => do choose choices (← orFault name)
  | .record [(name, value)] _ => do
    let choice ← choose choices (← orFault name)
    match value with
    | .record [] _ => return choice
    | value =>
      readNothing value
      return choice
  | .record .. => .error (.mismatch (.wrongValue .record "map with a single key"))
  | o => .error (o.problem "string or map")

/-! ## Named fields -/

/-- A field of a type that is gathered in `σ`. -/
structure Field (σ : Type) where
  /-- The name of the field. -/
  name : String
  /-- Whether the field has been read. -/
  isSet : σ → Bool
  /-- Reads the field. -/
  read : Outline → σ → Except Problem σ

/-- A type with named fields. -/
structure Schema (σ α : Type) where
  /-- What messages call the type. -/
  title : String
  /-- The fields, in order. -/
  fields : List (Field σ)
  /-- Nothing read yet. -/
  start : σ
  /-- The value of what has been read; the argument says what a field is that is missing. -/
  finish : (Nat → String → Problem) → σ → Except Problem α

/-- Reads the members of a record into fields. A known name may come once; unknown ones are
skipped. -/
def readFields (fields : List (Field σ)) : List Member → σ → Except Problem σ
  | [], s => .ok s
  | (name, value) :: members, s => do
    let name ← orFault name
    match fields.find? (·.name == name) with
    | some field =>
      if field.isSet s then .error (.mismatch (.duplicateField name))
      else readFields fields members (← field.read value s)
    | none =>
      orFault value.skip
      readFields fields members s

/-- Reads the items of a list into the fields in their order. -/
def readPositions : List (Field σ) → List Outline → σ → Except Problem σ
  | field :: fields, item :: items, s => do readPositions fields items (← field.read item s)
  | [], _ :: _, _ => .error (.fault .malformed)
  | _, [], s => .ok s

/-- Reads a type with named fields, from a record or from the list of its fields. -/
def Schema.read (schema : Schema σ α) : Reader α
  | .record members fault => do
    let s ← readFields schema.fields members schema.start
    orFault (ending fault)
    schema.finish (fun _ name => .mismatch (.missingField name)) s
  | .list items fault => do
    let s ← readPositions schema.fields items schema.start
    orFault (ending fault)
    schema.finish (fun i _ => .mismatch (.tooShort i schema.title schema.fields.length)) s
  | o => .error (o.problem schema.title)

/-- A field that has to be there. -/
def required (missing : Nat → String → Problem) (index : Nat) (name : String) (field : Option α) :
    Except Problem α :=
  match field with
  | some a => .ok a
  | none => .error (missing index name)

/-! ## Whole texts -/

/-- Reads a text with a reader. Nothing but blanks may follow the value. -/
def readText (r : Reader α) (text : String) : Except Problem α := do
  let document := Document.ofText text
  let a ← r document.root
  if document.trailing then .error (.fault .malformed) else return a

/-- Reads any value. -/
def readValue : Reader Json := fun o => orFault (o.value 0)

end Cutscene.Json
