import AsCensus.Asn
import Std.Data.ExtTreeSet

namespace AsCensus

open Std
open Text

/-!
# AS paths

A path is the text in which a collector writes the autonomous systems that an
announcement went through: numbers separated by single spaces, from the peer
that reported it on the left to the origin on the right.  Braces mark sets of
numbers and are of no interest here.

Conditioning a path finds the systems that provide transit on it.  These are the
public numbers of the path without its origin and, on demand, without the peer,
which is the first public number even when that is the origin.

Cleaning a path keeps its order and its spelling and drops what conditioning
would not look at.
-/

namespace AsPath

/-- Whether a character marks the limits of a set of numbers. -/
def isBrace (c : Char) : Bool :=
  c == '\x7b' || c == '\x7d'

/-- The words of a path: it is cut at every single space, braces left out. -/
def words (path : String) : List (List Char) :=
  (path.toList.filter fun c => !isBrace c).splitOn ' '

/-- The public system that a word names. -/
def publicHop (word : List Char) : Option Asn :=
  (Asn.read word).filter fun asn => !asn.isReserved

/-- The public systems of a path, from left to right and with repetitions. -/
def hops (path : String) : List Asn :=
  (words path).filterMap publicHop

/-- What conditioning finds in a path. -/
structure Conditioned where
  /-- The systems that provide transit on the path. -/
  transit : ExtTreeSet Asn
  /-- The first public system of the path. -/
  peer : Option Asn
  deriving DecidableEq

/-- Whether a system of a path provides transit on it. -/
def providesTransit (origin : Asn) (excluded : Option Asn) (asn : Asn) : Bool :=
  asn != origin && excluded != some asn

/-- Condition a path.  With `withoutPeer` the peer provides no transit. -/
def condition (path : String) (origin : Asn) (withoutPeer : Bool) : Conditioned :=
  let peer := (hops path).head?
  let excluded := if withoutPeer then peer else none
  { transit := ExtTreeSet.ofList ((hops path).filter (providesTransit origin excluded))
    peer := peer }

/-- The systems that provide transit on a path, in ascending order. -/
def transitOf (path : String) (origin : Asn) (withoutPeer : Bool) : List Asn :=
  (condition path origin withoutPeer).transit.toList

/-- The words that name public systems, without a word that repeats the one
before it letter by letter.  A word that is dropped counts as the one before. -/
def cleanWords (previous : List Char) : List (List Char) -> List (List Char)
  | [] => []
  | word :: rest =>
      if word ≠ previous ∧ (publicHop word).isSome then
        word :: cleanWords word rest
      else
        cleanWords word rest

/-- A path without braces, repetitions, reserved numbers and other words. -/
def clean (path : String) : String :=
  String.ofList ([' '].intercalate (cleanWords [] (words path)))

theorem mem_transit_condition_iff {path : String} {origin : Asn} {withoutPeer : Bool}
    {asn : Asn} :
    asn ∈ (condition path origin withoutPeer).transit <->
      asn ∈ hops path ∧ asn ≠ origin ∧
        (withoutPeer = true -> (hops path).head? ≠ some asn) := by
  simp only [condition, ExtTreeSet.mem_ofList, List.contains_iff_mem, List.mem_filter,
    providesTransit, Bool.and_eq_true, bne_iff_ne]
  cases withoutPeer <;> simp

end AsPath
end AsCensus
