import AsCensus.Store.Cell
import AsCensus.Text.Blank
import AsCensus.Text.Cut
import AsCensus.Text.Utf8

namespace AsCensus
namespace Store

open Text

/-!
# Databases as files

A database that is kept in a file is written as lines.  A line that names a table
is followed by one line for each of its rows, in which cells are separated by tab
characters.  A real is written as its two parts with a plus sign between them.  Within
a text, tab characters, line feeds and backslashes are escaped, so that a row never
takes more than one line.

An empty file is a database without tables, and so is one of a single byte.  Any other
file that does not start with the title line is no database.
-/

namespace Snapshot

/-- The first line of every file that is not empty. -/
def title : String := "autonomous system census"

/-- The start of a line that names a table. -/
def tableMark : List Char := "table ".toList

/-- A character within a text. -/
def escapeChar (c : Char) : List Char :=
  if c = '\\' then ['\\', '\\']
  else if c = '\t' then ['\\', 't']
  else if c = '\n' then ['\\', 'n']
  else [c]

/-- The characters that a text stands for. -/
def unescape : List Char -> Option (List Char)
  | [] => some []
  | '\\' :: '\\' :: rest => (unescape rest).map fun text => '\\' :: text
  | '\\' :: 't' :: rest => (unescape rest).map fun text => '\t' :: text
  | '\\' :: 'n' :: rest => (unescape rest).map fun text => '\n' :: text
  | '\\' :: _ => none
  | c :: rest => (unescape rest).map fun text => c :: text

/-- The text of a cell. -/
def cellText : Cell -> List Char
  | none => ['-']
  | some (.integer value) => (decimalInt value).toList
  | some (.real whole part) => (decimalInt whole).toList ++ '+' :: digits 10 part
  | some (.text value) => '=' :: value.toList.flatMap escapeChar

/-- The number that a text writes.  No numeral reaches the bound that its length sets. -/
def readNumber (text : List Char) : Option Datum :=
  match cut ['+'] text with
  | none => (readInteger (Nat.pow 10 text.length) text).map .integer
  | some (whole, part) => do
      some (.real (← readInteger (Nat.pow 10 whole.length) whole)
        (← readDigits (Nat.pow 10 part.length) part))

/-- The cell that a text writes. -/
def readCell : List Char -> Option Cell
  | ['-'] => some none
  | '=' :: text => (unescape text).map fun text => some (.text (String.ofList text))
  | text => (readNumber text).map some

/-- The line of a row. -/
def rowLine (cells : List Cell) : List Char :=
  ['\t'].intercalate (cells.map cellText)

/-- The row that a line writes. -/
def readRow (line : List Char) : Option (List Cell) :=
  (line.splitOn '\t').mapM readCell

/-- The lines of a table, if it exists. -/
def tableLines (db : Database) (table : TableId) : List (List Char) :=
  match db.rowsOf table with
  | none => []
  | some rows => (tableMark ++ table.name.toList) :: rows.map rowLine

/-- Read lines that follow one another into a database.  Rows go into the table
that was named last. -/
def readLines (db : Database) (table : Option TableId) : List (List Char) -> Option Database
  | [] => some db
  | line :: rest =>
      match after? tableMark line with
      | some name => do
          let next ← TableId.ofName? (String.ofList name)
          readLines (db.create next) (some next) rest
      | none => do
          let cells ← readRow line
          let after ← db.insertRow (← table) cells
          readLines after table rest

end Snapshot

namespace Database

/-- The text of a database. -/
def toText (db : Database) : String :=
  let lines := Snapshot.title.toList :: TableId.all.flatMap (Snapshot.tableLines db)
  String.ofList (lines.flatMap fun line => line ++ ['\n'])

/-- The database that a text writes. -/
def ofText? (text : String) : Option Database :=
  match (dropEndWhile (· == '\n') text.toList).splitOn '\n' with
  | first :: rest =>
      if first = Snapshot.title.toList then Snapshot.readLines bare none rest else none
  | [] => none

/-- The content of the file of a database. -/
def toBytes (db : Database) : List UInt8 :=
  encode db.toText

/-- Whether the content of a file is too short to be anything but a database without
tables. -/
def isEmptyFile (bytes : List UInt8) : Bool :=
  bytes.length ≤ 1

/-- The database that the content of a file writes. -/
def ofBytes? (bytes : List UInt8) : Option Database :=
  if isEmptyFile bytes then some bare else ofText? (String.ofList (decode bytes))

end Database
end Store
end AsCensus
