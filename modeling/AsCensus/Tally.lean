import AsCensus.AsPath
import Std.Data.ExtTreeMap

namespace AsCensus

open Std

/-!
# Tallies of autonomous systems

A tally counts occurrences per autonomous system.  Two tallies are equal exactly
when they mention the same systems with the same counts, so that the order in
which occurrences were added leaves no trace.  A system may be mentioned with
the count zero, which is different from not being mentioned.

`getElem?_add` says what adding does to a tally; everything else follows from
it.
-/

/-- A count for each system that is mentioned. -/
structure Tally where
  counts : ExtTreeMap Asn Nat
  deriving DecidableEq

namespace Tally

/-- The tally that mentions no system. -/
def empty : Tally :=
  ⟨∅⟩

/-- Add occurrences of a system, which is mentioned from then on. -/
def add (tally : Tally) (asn : Asn) (count : Nat) : Tally :=
  ⟨tally.counts.alter asn fun present => some (present.getD 0 + count)⟩

/-- Add occurrences of many systems. -/
def addAll (tally : Tally) (entries : List (Asn × Nat)) : Tally :=
  entries.foldl (fun tally (asn, count) => tally.add asn count) tally

/-- The tally of a list of occurrences. -/
def ofList (entries : List (Asn × Nat)) : Tally :=
  empty.addAll entries

/-- The systems that are mentioned and their counts, in ascending order. -/
def toList (tally : Tally) : List (Asn × Nat) :=
  tally.counts.toList

/-- The occurrences of two tallies together. -/
def merge (tally other : Tally) : Tally :=
  tally.addAll other.toList

/-- Count one occurrence of each system that provides transit on a path. -/
def addTransit (tally : Tally) (path : String) (origin : Asn) (withoutPeer : Bool) : Tally :=
  tally.addAll ((AsPath.transitOf path origin withoutPeer).map fun asn => (asn, 1))

/-- The count of a system, zero if it is not mentioned. -/
def get (tally : Tally) (asn : Asn) : Nat :=
  tally.counts[asn]?.getD 0

/-- How many systems are mentioned. -/
def size (tally : Tally) : Nat :=
  tally.counts.size

/-- Whether no system is mentioned. -/
def isEmpty (tally : Tally) : Bool :=
  tally.counts.isEmpty

theorem ext {a b : Tally} (same : forall asn : Asn, a.counts[asn]? = b.counts[asn]?) :
    a = b := by
  cases a
  cases b
  exact congrArg Tally.mk (ExtTreeMap.ext_getElem? same)

theorem getElem?_add (tally : Tally) (asn other : Asn) (count : Nat) :
    (tally.add asn count).counts[other]? =
      if asn = other then some (tally.get asn + count) else tally.counts[other]? := by
  simp [add, get, ExtTreeMap.getElem?_alter]

theorem get_add (tally : Tally) (asn other : Asn) (count : Nat) :
    (tally.add asn count).get other =
      if asn = other then tally.get asn + count else tally.get other := by
  unfold get
  rw [getElem?_add]
  split
  · rfl
  · rfl

end Tally
end AsCensus
