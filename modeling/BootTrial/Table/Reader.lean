import BootTrial.Table.Writer

/-!
# Reading tables

Comma-separated records. A line feed, a carriage return, or both in this order end a record, and
empty lines are no records. A quote at the start of a field opens a quoted part, in which commas and
line breaks are text and two quotes stand for one; elsewhere a quote is text. The first record is
the header, and every other has to be as wide as it is.

Each record knows where the reader began on it: right behind the record before it, so that empty
lines in front of a record, and the line feed behind a carriage return, are still to come there.
-/

namespace BootTrial.Table

open Text (Bytes)

/-- Where the reader began on a record. -/
structure Position where
  /-- The number of records in front. -/
  record : Nat
  /-- The number of the line, from 1. -/
  line : Nat
  /-- The number of octets in front. -/
  byte : Nat
  deriving DecidableEq, Repr

/-- The position behind an octet. -/
def Position.past (here : Position) (b : UInt8) : Position :=
  { here with line := if b = lineFeed then here.line + 1 else here.line, byte := here.byte + 1 }

/-- The position at which the next record begins. -/
def Position.nextRecord (here : Position) : Position :=
  { here with record := here.record + 1 }

/-- A record as it was read: its fields in octets and where the reader began on it. -/
structure Record where
  /-- Where the reader began. -/
  start : Position
  /-- The fields, without quotes. -/
  fields : List Bytes
  deriving DecidableEq, Repr

/-- Where the reading of a record stands. -/
inductive ScanMode where
  /-- Between records. -/
  | between
  /-- At the start of a field, behind a comma. -/
  | fresh
  /-- In a field, outside quotes. -/
  | bare
  /-- In a field, between quotes. -/
  | quoted
  /-- Right behind a quote that may close the quoted part. -/
  | closing
  deriving DecidableEq, Repr

/-- The records from here on. `field` holds what has been read of the current field and `fields`
what has been read of the current record, the last first; `start` is where the reader began on the
current record. -/
def scan (mode : ScanMode) (field : Bytes) (fields : List Bytes) (start here : Position) :
    Bytes → List Record
  | [] =>
    match mode with
    | .between => []
    | _ => [⟨start, (field.reverse :: fields).reverse⟩]
  | b :: rest =>
    match mode with
    | .between =>
      if isBreak b then scan .between [] [] start (here.past b) rest
      else if b = quote then scan .quoted [] [] start (here.past b) rest
      else if b = comma then scan .fresh [] [[]] start (here.past b) rest
      else scan .bare [b] [] start (here.past b) rest
    | .fresh =>
      if isBreak b then
        ⟨start, ([] :: fields).reverse⟩ ::
          scan .between [] [] (here.past b).nextRecord (here.past b).nextRecord rest
      else if b = quote then scan .quoted [] fields start (here.past b) rest
      else if b = comma then scan .fresh [] ([] :: fields) start (here.past b) rest
      else scan .bare [b] fields start (here.past b) rest
    | .bare =>
      if isBreak b then
        ⟨start, (field.reverse :: fields).reverse⟩ ::
          scan .between [] [] (here.past b).nextRecord (here.past b).nextRecord rest
      else if b = comma then scan .fresh [] (field.reverse :: fields) start (here.past b) rest
      else scan .bare (b :: field) fields start (here.past b) rest
    | .quoted =>
      if b = quote then scan .closing field fields start (here.past b) rest
      else scan .quoted (b :: field) fields start (here.past b) rest
    | .closing =>
      if isBreak b then
        ⟨start, (field.reverse :: fields).reverse⟩ ::
          scan .between [] [] (here.past b).nextRecord (here.past b).nextRecord rest
      else if b = quote then scan .quoted (quote :: field) fields start (here.past b) rest
      else if b = comma then scan .fresh [] (field.reverse :: fields) start (here.past b) rest
      else scan .bare (b :: field) fields start (here.past b) rest

/-- The records of a file. A byte order mark at its start is passed over. -/
def records (content : Bytes) : List Record :=
  match content with
  | 0xEF :: 0xBB :: 0xBF :: rest => scan .between [] [] ⟨0, 1, 0⟩ ⟨0, 1, 3⟩ rest
  | _ => scan .between [] [] ⟨0, 1, 0⟩ ⟨0, 1, 0⟩ content

/-- Why a record cannot be read. -/
inductive Fault where
  /-- It has another number of fields than the header. -/
  | width (start : Position) (found expected : Nat)
  /-- A field is no text from one of its octets on. -/
  | notText (start : Position) (field byte : Nat)
  deriving DecidableEq, Repr

/-- The wording of a fault. -/
def Fault.message : Fault → String
  | .width start found expected =>
    "CSV error: record " ++ toString start.record ++ " (line: " ++ toString start.line
      ++ ", byte: " ++ toString start.byte ++ "): found record with " ++ toString found
      ++ " fields, but the previous record has " ++ toString expected ++ " fields"
  | .notText start field byte =>
    "CSV parse error: record " ++ toString start.record ++ " (line " ++ toString start.line
      ++ ", field: " ++ toString field ++ ", byte: " ++ toString start.byte
      ++ "): invalid utf-8: invalid UTF-8 in field " ++ toString field ++ " near byte index "
      ++ toString byte

/-- The texts of the fields from number `index` on. -/
def textsFrom (start : Position) (index : Nat) : List Bytes → Except Fault (List String)
  | [] => .ok []
  | field :: rest =>
    match Text.decode field with
    | .ok text => (textsFrom start (index + 1) rest).map (text :: ·)
    | .error byte => .error (.notText start index byte)

/-- The texts of a record. -/
def Record.texts (record : Record) : Except Fault (List String) :=
  textsFrom record.start 0 record.fields

/-- The texts of a record that has to have `width` fields. -/
def Record.textsOf (width : Nat) (record : Record) : Except Fault (List String) :=
  if record.fields.length = width then record.texts
  else .error (.width record.start record.fields.length width)

/-- A row of a table: where the reader began on it, and its texts or what is wrong with it. -/
structure Row where
  /-- Where the reader began. -/
  start : Position
  /-- The texts of the row. -/
  texts : Except Fault (List String)

/-- The texts of the header of a file, none if the file holds no record. -/
def header (content : Bytes) : Except Fault (List String) :=
  match records content with
  | [] => .ok []
  | first :: _ => first.texts

/-- The rows of a file below its header. -/
def rows (content : Bytes) : List Row :=
  match records content with
  | [] => []
  | first :: rest => rest.map fun record => ⟨record.start, record.textsOf first.fields.length⟩

end BootTrial.Table
