import AbiBindings.Json.Fault

/-!
# Json — records

A record has named columns. It is spelled as an object, with the columns as members in any order, or
as an array, with the columns in their own order. Reading a record checks every member where it
stands, so that the first fault of the document is the one reported; the columns are then taken from
the `Row` by name, and a missing one is reported only there.

* `Shape.read` — the row of a record;
* `Row.need`, `Row.maybe` — a column that must be there, a column that may be absent.
-/

namespace AbiBindings.Json

/-! ## Single values -/

/-- Read a boolean. -/
def readBool : Json → Except Fault Bool
  | .bool value => .ok value
  | other => .error (.invalidType other .boolean)

/-- Read a text. -/
def readText : Json → Except Fault String
  | .string value => .ok value
  | other => .error (.invalidType other .string)

/-- Read an unsigned number. -/
def readUnsignedNumber : Json → Except Fault UInt64
  | .number (.unsigned value) => .ok value
  | .number (.negative value) => .error (.invalidValue (.number (.negative value)) .unsigned)
  | other => .error (.invalidType other .unsigned)

/-- Read a value that may be `null`. -/
def readOptional {α : Type} (readItem : Json → Except Fault α) : Json → Except Fault (Option α)
  | .null => .ok none
  | value => some <$> readItem value

/-- Read the items of an array in order, up to the first fault. -/
def readList {α : Type} (readItem : Json → Except Fault α) : Json → Except Fault (List α)
  | .array items => items.mapM readItem
  | other => .error (.invalidType other .sequence)

/-- Read the members of an object in order, up to the first fault. -/
def readTable {α : Type} (readItem : Json → Except Fault α) :
    Json → Except Fault (List (String × α))
  | .object members => members.mapM fun (key, value) => (key, ·) <$> readItem value
  | other => .error (.invalidType other .map)

/-! ## Records -/

/-- Where a record stands: in the document itself, or among the columns of a tagged record. It
decides how an array that is too long is reported. -/
inductive Place where
  | direct
  | tagged
  deriving DecidableEq

/-- A column of a record. -/
structure Column where
  key : String
  required : Bool
  /-- What a value must satisfy to stand in this column. -/
  check : Json → Except Fault Unit

/-- A column that must be there. -/
def Column.needed {α : Type} (key : String) (readItem : Json → Except Fault α) : Column :=
  ⟨key, true, fun value => discard (readItem value)⟩

/-- A column that may be absent. -/
def Column.optional {α : Type} (key : String) (readItem : Json → Except Fault α) : Column :=
  ⟨key, false, fun value => discard (readItem value)⟩

/-- A kind of record. -/
structure Shape where
  name : String
  columns : List Column

/-- The values of a record by their columns. -/
abbrev Row := List (String × Json)

/-- Check the members of an object where they stand. -/
def checkMembers (columns : List Column) : List (String × Json) → Except Fault Unit
  | [] => .ok ()
  | (key, value) :: rest => do
    match columns.find? (·.key == key) with
    | some column => column.check value
    | none => throw (.unknownField key (columns.map (·.key)))
    checkMembers columns rest

/-- Check the items of an array against the columns, of which `position` are behind already. -/
def checkItems (shape : Shape) (place : Place) (position : Nat) :
    List Column → List Json → Except Fault Row
  | [], [] => .ok []
  | [], extra =>
    .error (.invalidLength (position + extra.length) <|
      match place with
      | .direct => .fewerItems
      | .tagged => .exactItems position)
  | column :: columns, [] =>
    if column.required then
      .error (.invalidLength position (.columns shape.name shape.columns.length))
    else checkItems shape place (position + 1) columns []
  | column :: columns, item :: items => do
    column.check item
    let row ← checkItems shape place (position + 1) columns items
    return (column.key, item) :: row

/-- The row of a record. -/
def Shape.read (shape : Shape) (place : Place) : Json → Except Fault Row
  | .object members => do
    checkMembers shape.columns members
    return members
  | .array items => checkItems shape place 0 shape.columns items
  | other => .error (.invalidType other (.record shape.name))

/-- The value of a column that must be there. -/
def Row.need {α : Type} (row : Row) (key : String) (readItem : Json → Except Fault α) :
    Except Fault α :=
  match row.lookup key with
  | some value => readItem value
  | none => .error (.missingField key)

/-- The value of a column that may be absent. -/
def Row.maybe {α : Type} (row : Row) (key : String) (absent : α)
    (readItem : Json → Except Fault α) : Except Fault α :=
  match row.lookup key with
  | some value => readItem value
  | none => .ok absent

end AbiBindings.Json
