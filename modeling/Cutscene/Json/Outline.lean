import Cutscene.Json.Token

set_option relaxedAutoImplicit false
set_option autoImplicit false

/-!
# The outline of a JSON text

The outline is the tree of a text as far as the text is JSON. Where it stops being JSON the tree
breaks off: a broken value stands at that place, and the containers around it end there. A reader
that walks the outline in text order therefore meets what is wrong with the values before the
break first, and the break itself last.

## Main definitions

* `Cutscene.Json.Outline` — trees that may break off.
* `Cutscene.Json.Cursor.move` — where a token leads; `Cursor.run` takes tokens one at a time.
* `Cutscene.Json.Document` — the outline of a text and whether more follows it.
* `Cutscene.Json.Outline.skip` — what one who skips a value meets.
* `Cutscene.Json.Outline.value` — what one who reads a whole value meets, or the value.
* `Cutscene.Json.Outline.ofValue` — the unbroken outline of a value.
-/

namespace Cutscene.Json

/-- The tree of a text as far as it is JSON. -/
inductive Outline where
  /-- The value `null`. -/
  | null
  /-- A truth value. -/
  | flag (b : Bool)
  /-- A number. -/
  | number (value : Except Fault Number)
  /-- A text. -/
  | text (value : Except Fault String)
  /-- A list, and the fault at its end if it is not closed there. -/
  | list (items : List Outline) (fault : Option Fault)
  /-- A record, and the fault at its end if it is not closed there. -/
  | record (members : List (Except Fault String × Outline)) (fault : Option Fault)
  /-- The text breaks off here. -/
  | broken (shape : Shape) (onRead onSkip : Fault)
  deriving Inhabited

/-- A name and its value. -/
abbrev Member := Except Fault String × Outline

/-! ## Building -/

/-- A container that is still open, with what it holds so far, newest first. -/
inductive Frame where
  /-- A list. -/
  | list (before : List Outline)
  /-- A record. -/
  | record (before : List Member)
  /-- A record whose next name has been met. -/
  | named (before : List Member) (name : Except Fault String)

/-- Closes the open containers around a value at which the text breaks off. -/
def breakOff : List Frame → Outline → Outline
  | [], v => v
  | .list before :: frames, v => breakOff frames (.list (v :: before).reverse (some .cutShort))
  | .record before :: frames, _ => breakOff frames (.record before.reverse (some .cutShort))
  | .named before name :: frames, v =>
    breakOff frames (.record ((name, v) :: before).reverse (some .cutShort))

/-- What may come next. -/
inductive Place where
  /-- A value. -/
  | value
  /-- The first item of a list, or its end. -/
  | firstItem
  /-- The first name of a record, or its end. -/
  | firstName
  /-- A name. -/
  | name
  /-- The colon behind a name. -/
  | colon
  /-- The comma behind an item or member, or the end of the container. -/
  | separator
  deriving DecidableEq

/-- Where a reading stands: in which containers, and what may come next. -/
structure Cursor where
  /-- The open containers, innermost first. -/
  frames : List Frame
  /-- What may come next. -/
  place : Place

/-- What a token leads to. -/
inductive Move where
  /-- More tokens are wanted. -/
  | go (cursor : Cursor)
  /-- The outermost value is complete. -/
  | complete (root : Outline)
  /-- The text breaks off. -/
  | stop (root : Outline)

/-- A finished value goes into its container. -/
def settle (v : Outline) : List Frame → Move
  | [] => .complete v
  | .list before :: frames => .go ⟨.list (v :: before) :: frames, .separator⟩
  | .named before name :: frames => .go ⟨.record ((name, v) :: before) :: frames, .separator⟩
  | .record before :: frames => .stop (breakOff (.record before :: frames) v)

/-- The text breaks off where a value is wanted. -/
def breakValue (shape : Shape) (onRead onSkip : Fault) (frames : List Frame) : Outline :=
  breakOff frames (.broken shape onRead onSkip)

/-- A container breaks off where its first item, its first name, a comma or its end is wanted. -/
def breakContainer (fault : Fault) : List Frame → Outline
  | .list before :: frames => breakOff frames (.list before.reverse (some fault))
  | .record before :: frames => breakOff frames (.record before.reverse (some fault))
  | frames => breakValue .absent fault fault frames

/-- A record breaks off where a name is wanted: the member is there, and broken. -/
def breakName (fault : Fault) : List Frame → Outline
  | .record before :: frames =>
    breakOff frames
      (.record ((.error fault, .broken .absent fault fault) :: before).reverse (some fault))
  | frames => breakValue .absent fault fault frames

/-- A token where a value is wanted. -/
def moveValue (frames : List Frame) : Token → Move
  | .null => settle .null frames
  | .flag b => settle (.flag b) frames
  | .number v => settle (.number v) frames
  | .text v => settle (.text v) frames
  | .listOpen => .go ⟨.list [] :: frames, .firstItem⟩
  | .recordOpen => .go ⟨.record [] :: frames, .firstName⟩
  | .broken shape r s => .stop (breakValue shape r s frames)
  | .listClose | .recordClose | .comma | .colon =>
    .stop (breakValue .other .malformed .malformed frames)

/-- A token where the name of a member is wanted. -/
def moveName (frames : List Frame) : Token → Move
  | .text name =>
    match frames with
    | .record before :: frames => .go ⟨.named before name :: frames, .colon⟩
    | frames => .stop (breakContainer .malformed frames)
  | .broken .quote r s =>
    match frames with
    | .record before :: frames =>
      .stop (breakValue .absent s s (.named before (.error r) :: frames))
    | frames => .stop (breakContainer .malformed frames)
  | _ => .stop (breakName .malformed frames)

/-- Where a token leads. -/
def Cursor.move (c : Cursor) (t : Token) : Move :=
  match c.place, t, c.frames with
  | .value, t, frames => moveValue frames t
  | .firstItem, .listClose, .list before :: frames => settle (.list before.reverse none) frames
  | .firstItem, t, frames => moveValue frames t
  | .firstName, .recordClose, .record before :: frames =>
    settle (.record before.reverse none) frames
  | .firstName, t, frames => moveName frames t
  | .name, t, frames => moveName frames t
  | .colon, .colon, frames => .go ⟨frames, .value⟩
  | .colon, _, frames => .stop (breakValue .absent .malformed .malformed frames)
  | .separator, .comma, .list before :: frames => .go ⟨.list before :: frames, .value⟩
  | .separator, .comma, .record before :: frames => .go ⟨.record before :: frames, .name⟩
  | .separator, .listClose, .list before :: frames => settle (.list before.reverse none) frames
  | .separator, .recordClose, .record before :: frames =>
    settle (.record before.reverse none) frames
  | .separator, _, frames => .stop (breakContainer .malformed frames)

/-- The outline where the text ends too early. -/
def Cursor.atEnd (c : Cursor) : Outline :=
  match c.place with
  | .value | .colon => breakValue .absent .cutShort .cutShort c.frames
  | .firstItem | .firstName | .separator => breakContainer .cutShort c.frames
  | .name => breakName .cutShort c.frames

/-- The outline of a text, and whether anything but blanks follows it. -/
structure Document where
  /-- The outline. -/
  root : Outline
  /-- Whether there is more. -/
  trailing : Bool

/-- Reads tokens on from a cursor. -/
def Cursor.run (c : Cursor) : List Token → Document
  | [] => ⟨c.atEnd, false⟩
  | t :: ts =>
    match c.move t with
    | .go next => next.run ts
    | .complete root => ⟨root, !ts.isEmpty⟩
    | .stop root => ⟨root, false⟩

/-- The outline of a list of tokens. -/
def Document.ofTokens (ts : List Token) : Document := Cursor.run ⟨[], .value⟩ ts

/-- The outline of a text. -/
def Document.ofText (text : String) : Document := ofTokens (tokens text.toList)

/-! ## Skipping and reading whole values -/

/-- The fault at the end of a container, as a result. -/
def ending : Option Fault → Except Fault Unit
  | none => .ok ()
  | some f => .error f

mutual

/-- What one who only skips a value meets: numbers out of range and halves of surrogate pairs go
unnoticed, and containers may lie in each other as deep as they like. -/
def Outline.skip : Outline → Except Fault Unit
  | .list items fault => do skipItems items; ending fault
  | .record members fault => do skipMembers members; ending fault
  | .broken _ _ onSkip => .error onSkip
  | _ => .ok ()

/-- Skips items. -/
def skipItems : List Outline → Except Fault Unit
  | [] => .ok ()
  | item :: items => do item.skip; skipItems items

/-- Skips members, names included. -/
def skipMembers : List Member → Except Fault Unit
  | [] => .ok ()
  | (_, value) :: members => do value.skip; skipMembers members

end

/-- How many containers may lie in each other where values are read. -/
def depthLimit : Nat := 127

mutual

/-- The value that one reads who wants the whole of it, inside `depth` containers. -/
def Outline.value (depth : Nat) : Outline → Except Fault Json
  | .null => .ok .null
  | .flag b => .ok (.flag b)
  | .number v => v.map .number
  | .text v => v.map .text
  | .list items fault => do
    if depthLimit ≤ depth then .error .malformed
    let items ← readItems (depth + 1) items
    ending fault
    return .list items
  | .record members fault => do
    if depthLimit ≤ depth then .error .malformed
    let members ← readMembers (depth + 1) members
    ending fault
    return .record members
  | .broken _ onRead _ => .error onRead

/-- Reads items as whole values. -/
def readItems (depth : Nat) : List Outline → Except Fault (List Json)
  | [] => .ok []
  | item :: items => do
    let v ← item.value depth
    let vs ← readItems depth items
    return v :: vs

/-- Reads members as whole values. -/
def readMembers (depth : Nat) : List Member → Except Fault (List (String × Json))
  | [] => .ok []
  | (name, value) :: members => do
    let name ← name
    let v ← value.value depth
    let vs ← readMembers depth members
    return (name, v) :: vs

end

mutual

/-- The outline of a value that has been read already. -/
def Outline.ofValue : Json → Outline
  | .null => .null
  | .flag b => .flag b
  | .number n => .number (.ok n)
  | .text s => .text (.ok s)
  | .list items => .list (ofItems items) none
  | .record members => .record (ofMembers members) none

/-- The outlines of items. -/
def ofItems : List Json → List Outline
  | [] => []
  | item :: items => Outline.ofValue item :: ofItems items

/-- The outlines of members. -/
def ofMembers : List (String × Json) → List Member
  | [] => []
  | (name, value) :: members => (.ok name, Outline.ofValue value) :: ofMembers members

end

end Cutscene.Json
