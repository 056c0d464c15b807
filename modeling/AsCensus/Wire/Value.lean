import AsCensus.Text.Numeral

namespace AsCensus
namespace Wire

open Text

/-!
# Structured data

Options come in and reports go out as JSON.  A value here is what such data
means; numbers with a fraction are told apart from integers but are of no use to
anything, so that their amount is not kept.

A report is written with one member to a line and two spaces of indentation for
each level.  Characters that JSON does not allow in a string are escaped, and
all others are written as they are.
-/

/-- A value of structured data. -/
inductive Value
  | null
  | bool (value : Bool)
  | integer (value : Int)
  /-- A number that is not written as an integer. -/
  | fraction
  | text (value : String)
  | list (values : List Value)
  | object (members : List (String × Value))
  /-- A value that is left out of a report on purpose. -/
  | withheld
  deriving Inhabited

namespace Value

/-- A number as a value. -/
def ofNat (number : Nat) : Value :=
  integer (Int.ofNat number)

/-- A number as a value, or null if there is none. -/
def ofNat? (number : Option Nat) : Value :=
  match number with
  | some number => ofNat number
  | none => null

/-- A text as a value, or null if there is none. -/
def ofText? (value : Option String) : Value :=
  match value with
  | some value => text value
  | none => null

/-- The member of an object with a given name. -/
def member? (members : List (String × Value)) (name : String) : Option Value :=
  members.lookup name

/-- A number with four hexadecimal digits. -/
def hexFour (number : Nat) : List Char :=
  let shown := digits 16 number
  List.replicate (4 - shown.length) '0' ++ shown

/-- A character as it stands within a string. -/
def escapeChar (c : Char) : List Char :=
  if c = '"' then ['\\', '"']
  else if c = '\\' then ['\\', '\\']
  else if c = '\n' then ['\\', 'n']
  else if c = '\r' then ['\\', 'r']
  else if c = '\t' then ['\\', 't']
  else if c = '\x08' then ['\\', 'b']
  else if c = '\x0c' then ['\\', 'f']
  else if c.toNat < 32 then ['\\', 'u'] ++ hexFour c.toNat
  else [c]

/-- A text in quotes. -/
def quote (value : String) : String :=
  "\"" ++ String.ofList (value.toList.flatMap escapeChar) ++ "\""

/-- The start of a line at a level. -/
def indent (level : Nat) : String :=
  String.ofList (List.replicate (2 * level) ' ')

/-- Items between two brackets, one to a line. -/
def block (level : Nat) (opening closing : String) (items : List String) : String :=
  if items.isEmpty then
    opening ++ closing
  else
    let lines := items.map fun item => indent (level + 1) ++ item
    opening ++ "\n" ++ String.intercalate ",\n" lines ++ "\n" ++ indent level ++ closing

mutual

/-- The text of a value that starts at a level. -/
def pretty (level : Nat) : Value -> String
  | null => "null"
  | bool true => "true"
  | bool false => "false"
  | integer value => decimalInt value
  | fraction => "0.0"
  | text value => quote value
  | withheld => "_"
  | list values => block level "[" "]" (prettyAll (level + 1) values)
  | object members => block level "\x7b" "\x7d" (prettyMembers (level + 1) members)

/-- The texts of the items of a list. -/
def prettyAll (level : Nat) : List Value -> List String
  | [] => []
  | value :: rest => pretty level value :: prettyAll level rest

/-- The texts of the members of an object. -/
def prettyMembers (level : Nat) : List (String × Value) -> List String
  | [] => []
  | (name, value) :: rest => (quote name ++ ": " ++ pretty level value) :: prettyMembers level rest

end

end Value
end Wire
end AsCensus
