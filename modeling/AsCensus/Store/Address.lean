import AsCensus.Text.Case
import AsCensus.Text.Cut
import AsCensus.Text.Numeral
import AsCensus.Text.Utf8

namespace AsCensus
namespace Store

open Text

/-!
# Addresses of databases

A path that starts with `file:` is an address.  An authority may stand before the name
of the file, but it can only be the local host.  A number sign ends the address.  After
a question mark come parameters, which tell how to open the file; those that are not
known are passed over, and of a flag that is given twice the first one counts.

In a name, a key and a value, two hexadecimal digits after a percent sign stand for a
byte.  The byte zero ends the part of the address in which it stands.

An access may be narrowed from one parameter to the next but never widened.  A database
in memory asks for no access at all, and allows every access after it.
-/

/-- What a connection may do with a database. -/
inductive Access
  | read
  | write
  /-- Write, and make the file if it is not there. -/
  | create
  /-- Keep the database in memory. -/
  | memory
  deriving DecidableEq, Repr

namespace Access

/-- The access with a given name. -/
def ofName? (name : String) : Option Access :=
  [("ro", read), ("rw", write), ("rwc", create), ("memory", memory)].lookup name

/-- How much an access asks for. -/
def demand : Access -> Nat
  | read => 1
  | write => 2
  | create => 3
  | memory => 0

/-- How much may be asked for after an access. -/
def allowance : Access -> Nat
  | memory => 4
  | access => access.demand

end Access

/-- Where the bytes of a database are kept, and how its users keep out of each other's
way. -/
inductive Storage
  /-- A file beside which a log can be written. -/
  | logged
  /-- A file without a log. -/
  | unlogged
  /-- The memory of the program. -/
  | inMemory
  deriving DecidableEq, Repr

/-- The storage with a given name. -/
def Storage.ofName? (name : String) : Option Storage :=
  [("unix", logged), ("unix-excl", logged), ("unix-none", unlogged), ("unix-dotfile", unlogged),
    ("memdb", inMemory)].lookup name

/-- How a database is opened. -/
structure Opening where
  access : Access := .write
  storage : Storage := .logged
  /-- Whether the connections of one program share what is kept in memory. -/
  sharing : Bool := false
  /-- Whether the file counts as one that nobody changes. -/
  immutable : Bool := false
  deriving DecidableEq, Repr

/-- An address.  There is no file name if its bytes are no text. -/
structure Address where
  fileName : Option String
  opening : Opening
  deriving DecidableEq, Repr

/-- Why an address cannot be used. -/
inductive AddressError
  | foreignAuthority
  | unknownMode
  | unknownStorage
  /-- It asks for more access than is allowed. -/
  | notAllowed
  deriving DecidableEq, Repr

namespace Address

/-- The start of an address. -/
def mark : List Char := "file:".toList

/-- The bytes of a part of an address. -/
def partBytes : List Char -> List UInt8
  | [] => []
  | '%' :: high :: low :: rest =>
      match digitValue high, digitValue low with
      | some h, some l =>
          if h * 16 + l = 0 then [] else UInt8.ofNat (h * 16 + l) :: partBytes rest
      | _, _ => encode "%" ++ partBytes (high :: low :: rest)
  | c :: rest => encode (String.singleton c) ++ partBytes rest

/-- The text of a part of an address. -/
def partText (part : List Char) : String :=
  String.ofList (decode (partBytes part))

/-- What follows the authority, which must be the local host. -/
def afterAuthority (text : List Char) : Except AddressError (List Char) :=
  match after? ['/', '/'] text with
  | none => .ok text
  | some rest =>
      let authority := rest.takeWhile fun c => c != '/'
      if authority = [] ∨ authority = "localhost".toList then
        .ok (rest.drop authority.length)
      else
        .error .foreignAuthority

/-- A parameter as its key and its value. -/
def readParameter (part : List Char) : String × String :=
  match cut ['='] part with
  | some (key, value) => (partText key, partText value)
  | none => (partText part, "")

/-- The parameters of an address.  Those without a key do not count. -/
def readParameters (query : List Char) : List (String × String) :=
  ((query.splitOn '&').map readParameter).filter fun parameter => parameter.1 != ""

/-- Whether a value says yes: a number other than zero, or a word for it. -/
def isYes (value : String) : Bool :=
  let digits := value.toList.takeWhile (isDigit 10)
  if digits.isEmpty then
    [['o', 'n'], "yes".toList, "true".toList].contains (foldCase value.toList)
  else
    ofDigits 10 digits % 256 != 0

/-- Open as a parameter tells. -/
def applyParameter (opening : Opening) : String × String -> Except AddressError Opening
  | ("mode", value) =>
      match Access.ofName? value with
      | none => .error .unknownMode
      | some access =>
          if opening.access.allowance < access.demand then .error .notAllowed
          else .ok { opening with access := access }
  | ("cache", value) =>
      if value = "shared" then .ok { opening with sharing := true }
      else if value = "private" then .ok { opening with sharing := false }
      else .error .unknownMode
  | _ => .ok opening

/-- Whether the first parameter with a key is a flag that is set. -/
def isSet (parameters : List (String × String)) (key : String) : Bool :=
  match parameters.lookup key with
  | some value => isYes value
  | none => false

/-- The storage that the last parameter for it names. -/
def chosenStorage (parameters : List (String × String)) : Except AddressError Storage :=
  match parameters.reverse.lookup "vfs" with
  | none => .ok .logged
  | some name =>
      match Storage.ofName? name with
      | some storage => .ok storage
      | none => .error .unknownStorage

/-- Read the part of an address after its mark. -/
def read (text : List Char) : Except AddressError Address := do
  let rest ← afterAuthority text
  let whole := rest.takeWhile fun c => c != '#'
  let (name, query) := (cut ['?'] whole).getD (whole, [])
  let parameters := readParameters query
  let opening ← parameters.foldlM applyParameter {}
  let storage ← chosenStorage parameters
  let unlogged := storage = .logged ∧ isSet parameters "nolock"
  .ok
    { fileName := (decodeExact? (partBytes name)).map String.ofList
      opening :=
        { opening with
          storage := if unlogged then .unlogged else storage
          immutable := isSet parameters "immutable" } }

end Address
end Store
end AsCensus
