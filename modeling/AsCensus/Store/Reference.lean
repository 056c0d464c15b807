import AsCensus.Store.Table
import AsCensus.Store.Token

namespace AsCensus
namespace Store

open Text

/-!
# References to tables

A statement refers to a table by its name, with or without the schema that it belongs
to.  All tables belong to the schema `main`.  A catalogue lists what a schema holds,
and is a relation like a table.

Where rows are counted, a reference may be followed by another name for the table, may
stand in parentheses, and may be joined with other references.  A condition and a limit
may follow.  A condition is a number here, which does not hold if it is zero, or an
equation of two numbers; a limit is a number.  Nothing but semicolons may come after a
statement.

Words of the language are no names unless they stand in quotes.
-/

/-- What a name stands for. -/
inductive Relation
  | table (table : TableId)
  /-- The list of what a database holds. -/
  | catalogue
  /-- The list of what only the connection holds. -/
  | temporaryCatalogue
  deriving DecidableEq, Repr

/-- How many rows of the catalogue tell of a table.  A key that is not the number of
the row has an entry of its own. -/
def TableId.catalogueRows : TableId -> Nat
  | whois => 1
  | _ => 2

/-- The words that are never names without quotes. -/
def reservedWords : List String :=
  ["add", "all", "alter", "and", "as", "autoincrement", "between", "case", "check", "collate",
    "commit", "constraint", "create", "default", "deferrable", "delete", "distinct", "drop",
    "else", "escape", "except", "exists", "foreign", "from", "group", "having", "in", "index",
    "insert", "intersect", "into", "is", "isnull", "join", "limit", "not", "nothing", "notnull",
    "null", "on", "or", "order", "primary", "references", "returning", "select", "set", "table",
    "then", "to", "transaction", "union", "unique", "update", "using", "values", "when", "where"]

/-- The words that are names without quotes only where nothing else can stand. -/
def joiningWords : List String :=
  ["cross", "full", "indexed", "inner", "left", "natural", "outer", "right"]

namespace Token

/-- A word in lower case. -/
def folded (text : List Char) : String :=
  String.ofList (foldCase text)

/-- Whether a token is a certain word of the language. -/
def isWord (name : String) : Token -> Bool
  | word text => folded text == name
  | _ => false

/-- The name that a token is. -/
def name? : Token -> Option (List Char)
  | word text => if reservedWords.contains (folded text) then none else some text
  | quoted text => some text
  | _ => none

/-- Whether a token is another name for the table before it. -/
def isAlias : Token -> Bool
  | word text => !(reservedWords ++ joiningWords).contains (folded text)
  | quoted _ => true
  | _ => false

end Token

/-- A name within a statement, with the schema that stands before it. -/
structure TableName where
  schema : Option (List Char)
  name : List Char
  deriving DecidableEq, Repr

namespace TableName

/-- What a name stands for in the schema `main`. -/
def inMain? (name : List Char) : Option Relation :=
  if Token.folded name = "sqlite_master" ∨ Token.folded name = "sqlite_schema" then
    some .catalogue
  else
    (TableId.ofFoldedName? name).map .table

/-- What a name stands for in the schema `temp`. -/
def inTemporary? (name : List Char) : Option Relation :=
  let catalogues :=
    ["sqlite_master", "sqlite_schema", "sqlite_temp_master", "sqlite_temp_schema"]
  if catalogues.contains (Token.folded name) then some .temporaryCatalogue else none

/-- What a name stands for. -/
def relation? (reference : TableName) : Option Relation :=
  match reference.schema.map Token.folded with
  | none => (inMain? reference.name).or (inTemporary? reference.name)
  | some "main" => inMain? reference.name
  | some "temp" => inTemporary? reference.name
  | some _ => none

/-- Scan a name. -/
def scan : List Token -> Option (TableName × List Token)
  | first :: .mark '.' :: second :: rest => do
      some (⟨some (← first.name?), ← second.name?⟩, rest)
  | first :: rest => do some (⟨none, ← first.name?⟩, rest)
  | [] => none

/-- Whether tokens only end a statement. -/
def isEnd (tokens : List Token) : Bool :=
  tokens.all fun token => token == .mark ';'

/-- The name that a text is as the last part of a statement. -/
def alone? (text : String) : Option TableName := do
  let (name, rest) ← scan (← Token.ofText? text)
  if isEnd rest then some name else none

end TableName

/-- What rows are selected from. -/
structure Source where
  names : List TableName
  /-- Whether the condition keeps the rows. -/
  isKept : Bool
  /-- How many rows of the result are wanted. -/
  limit : Option Nat
  deriving DecidableEq, Repr

namespace Source

/-- Skip another name for a table. -/
def skipAlias : List Token -> Option (List Token)
  | [] => some []
  | first :: rest =>
      if first.isWord "as" then
        match rest with
        | second :: more => if second.name?.isSome then some more else none
        | [] => none
      else if first.isAlias then
        some rest
      else
        some (first :: rest)

/-- What follows a join at the front of tokens. -/
def afterJoin? : List Token -> Option (List Token)
  | .mark ',' :: rest => some rest
  | first :: second :: rest =>
      if first.isWord "join" then some (second :: rest)
      else if (first.isWord "cross" || first.isWord "inner") && second.isWord "join" then some rest
      else none
  | _ => none

/-- Scan references that are joined, of which there are fewer than `fuel`. -/
def scanNames : Nat -> List Token -> Option (List TableName × List Token)
  | 0, _ => none
  | fuel + 1, tokens => do
      let (names, rest) ← match tokens with
        | .mark '(' :: inner =>
            match scanNames fuel inner with
            | some (names, .mark ')' :: rest) => some (names, rest)
            | _ => none
        | _ => (TableName.scan tokens).map fun (name, rest) => ([name], rest)
      let rest ← skipAlias rest
      match afterJoin? rest with
      | none => some (names, rest)
      | some rest => do
          let (others, rest) ← scanNames fuel rest
          some (names ++ others, rest)

/-- Scan a condition, if there is one.  The result tells whether it holds. -/
def scanCondition : List Token -> Bool × List Token
  | first :: .number a :: rest =>
      if first.isWord "where" then
        match rest with
        | .mark '=' :: .number b :: rest => (a == b, rest)
        | rest => (a != 0, rest)
      else
        (true, first :: .number a :: rest)
  | tokens => (true, tokens)

/-- Scan a limit, if there is one. -/
def scanLimit : List Token -> Option Nat × List Token
  | first :: .number value :: rest =>
      if first.isWord "limit" then (some value, rest) else (none, first :: .number value :: rest)
  | tokens => (none, tokens)

/-- What a text selects rows from, as the last part of a statement. -/
def read? (text : String) : Option Source := do
  let tokens ← Token.ofText? text
  let (names, rest) ← scanNames tokens.length.succ tokens
  let (isKept, rest) := scanCondition rest
  let (limit, rest) := scanLimit rest
  if TableName.isEnd rest then
    some ⟨names, isKept, limit⟩
  else
    none

end Source
end Store
end AsCensus
