namespace AsCensus
namespace Text

/-!
# Text out of bytes

Registry answers are mostly UTF-8, but nothing ensures it.  `decode` reads bytes
as UTF-8 and puts one replacement character for every maximal part that no
valid text can contain, so that it is total and keeps whatever is readable.

The decoder goes byte by byte.  Between characters it is `ready`; within one it
knows the bits read so far, how many more bytes the character takes, and the
range of its next byte.  The range is what excludes overlong forms, surrogates
and numbers beyond the last code point as early as they can be told.

A line feed byte is never part of a longer character, so decoding and splitting
into lines may be done in either order.
-/

/-- The character that stands for bytes that are no text. -/
def replacement : Char := '\ufffd'

/-- Where a decoder stands between two bytes. -/
inductive Utf8State
  /-- Between two characters. -/
  | ready
  /-- Within a character, whose next byte lies from `low` to `high`, followed by
  `more` further bytes. -/
  | inside (bits more low high : Nat)
  deriving DecidableEq, Repr

namespace Utf8State

/-- Read the first byte of a character. -/
def start (byte : Nat) : List Char × Utf8State :=
  if byte < 0x80 then ([Char.ofNat byte], ready)
  else if byte < 0xc2 then ([replacement], ready)
  else if byte < 0xe0 then ([], inside (byte - 0xc0) 0 0x80 0xbf)
  else if byte = 0xe0 then ([], inside 0 1 0xa0 0xbf)
  else if byte = 0xed then ([], inside 0xd 1 0x80 0x9f)
  else if byte < 0xf0 then ([], inside (byte - 0xe0) 1 0x80 0xbf)
  else if byte = 0xf0 then ([], inside 0 2 0x90 0xbf)
  else if byte < 0xf4 then ([], inside (byte - 0xf0) 2 0x80 0xbf)
  else if byte = 0xf4 then ([], inside 4 2 0x80 0x8f)
  else ([replacement], ready)

/-- Read one byte: the characters it completes, and the state after it.  A byte
that cannot go on with the character begun ends that part and is read afresh. -/
def step : Utf8State -> Nat -> List Char × Utf8State
  | ready, byte => start byte
  | inside bits more low high, byte =>
      if low ≤ byte ∧ byte ≤ high then
        match more with
        | 0 => ([Char.ofNat (bits * 64 + (byte - 0x80))], ready)
        | more + 1 => ([], inside (bits * 64 + (byte - 0x80)) more 0x80 0xbf)
      else
        (replacement :: (start byte).1, (start byte).2)

/-- What the end of the bytes leaves behind: a character begun is no text. -/
def finish : Utf8State -> List Char
  | ready => []
  | inside _ _ _ _ => [replacement]

/-- The text of the bytes that are still to be read. -/
def decode : Utf8State -> List UInt8 -> List Char
  | state, [] => state.finish
  | state, byte :: bytes => (state.step byte.toNat).1 ++ decode (state.step byte.toNat).2 bytes

end Utf8State

/-- The text of bytes, with a replacement character for each part that is none. -/
def decode (bytes : List UInt8) : List Char :=
  Utf8State.ready.decode bytes

/-- The bytes of a text. -/
def encode (text : String) : List UInt8 :=
  text.toUTF8.toList

/-- The text whose bytes are given, if there is one. -/
def decodeExact? (bytes : List UInt8) : Option (List Char) :=
  let text := decode bytes
  if encode (String.ofList text) = bytes then some text else none

/-- A text without a byte order mark at its front. -/
def withoutMark : List Char -> List Char
  | '\ufeff' :: rest => rest
  | text => text

/-- The line feed byte. -/
def lineFeed : UInt8 := 10

/-- Put a byte before the pieces that follow it. -/
def prependByte (byte : UInt8) (pieces : List (List UInt8)) : List (List UInt8) :=
  if byte = lineFeed then
    [byte] :: pieces
  else
    match pieces with
    | [] => [[byte]]
    | line :: rest => (byte :: line) :: rest

/-- The pieces of a byte stream that end with a line feed, and what follows the
last of them if that is not empty.  Every piece keeps its line feed. -/
def byteLines (bytes : List UInt8) : List (List UInt8) :=
  bytes.foldr prependByte []

/-- The lines of a byte stream as texts. -/
def textLines (bytes : List UInt8) : List String :=
  (byteLines bytes).map fun line => String.ofList (decode line)

end Text
end AsCensus
