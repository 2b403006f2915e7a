import BootTrial.Text.Utf8

/-!
# Writing tables

Comma-separated records, one on a line. A field stands between quotes only where a comma, a quote or
a line break in it would be misread, and there a quote is written twice. A record that would be
written as nothing at all is written as one pair of quotes, since an empty line is no record.
-/

namespace BootTrial.Table

open Text (Bytes)

/-- The octet between two fields. -/
def comma : UInt8 := 44

/-- The octet around a quoted field. -/
def quote : UInt8 := 34

/-- The octet that ends a line. -/
def lineFeed : UInt8 := 10

/-- The octet that may stand for, or in front of, a line feed. -/
def carriageReturn : UInt8 := 13

/-- Whether an octet ends a record. -/
def isBreak (b : UInt8) : Bool :=
  b = lineFeed || b = carriageReturn

/-- Whether a field with this octet has to stand between quotes. -/
def needsQuotes (b : UInt8) : Bool :=
  b = comma || b = quote || isBreak b

/-- The octets of a quoted field, without the quotes around it. -/
def doubleQuotes : Bytes → Bytes
  | [] => []
  | b :: rest => if b = quote then quote :: quote :: doubleQuotes rest else b :: doubleQuotes rest

/-- The octets of a field as it is written. -/
def writeField (field : Bytes) : Bytes :=
  if field.any needsQuotes then quote :: doubleQuotes field ++ [quote] else field

/-- The written fields with commas between them. -/
def writeFields : List Bytes → Bytes
  | [] => []
  | [field] => writeField field
  | field :: rest => writeField field ++ comma :: writeFields rest

/-- The octets of a record as it is written. -/
def writeRecord (fields : List Bytes) : Bytes :=
  let line := writeFields fields
  (if line.isEmpty then [quote, quote] else line) ++ [lineFeed]

/-- The octets of a table of texts. -/
def write (records : List (List String)) : Bytes :=
  records.flatMap fun record => writeRecord (record.map Text.encode)

end BootTrial.Table
