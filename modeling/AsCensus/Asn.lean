import AsCensus.Text.Numeral

namespace AsCensus

open Text

/-!
# Autonomous system numbers

An autonomous system number has 32 bits.  Some numbers never name a public
network: they are set aside for documentation, for private use, or as markers.
These are reserved, and no statistic or registry walk is about them.  Which numbers
these are is told by `isReserved_iff`.
-/

/-- The number of an autonomous system. -/
abbrev Asn := UInt32

namespace Asn

/-- One more than the greatest autonomous system number. -/
def bound : Nat := 4294967296

/-- The number that stands for a long number towards a speaker of short ones. -/
def transition : Nat := 23456

/-- The ranges of numbers that name no public network, ends included. -/
def reservedRanges : List (Nat × Nat) :=
  [(0, 0), (transition, transition), (64496, 65535), (65536, 131071), (4200000000, bound - 1)]

/-- Whether a number is set aside. -/
def isReserved (asn : Asn) : Bool :=
  reservedRanges.any fun (low, high) => low ≤ asn.toNat && asn.toNat ≤ high

/-- The autonomous system with a given number, if it is in range. -/
def ofNat? (number : Nat) : Option Asn :=
  if number < bound then some (UInt32.ofNat number) else none

/-- The autonomous system with a given number, if it is in range. -/
def ofInt? : Int -> Option Asn
  | .ofNat number => ofNat? number
  | .negSucc _ => none

/-- The stored form of a number. -/
def toInt (asn : Asn) : Int :=
  Int.ofNat asn.toNat

/-- The number that a numeral writes, if it is in range. -/
def read (text : List Char) : Option Asn :=
  (readNatural bound text).bind ofNat?

/-- The reserved numbers: zero, the one that stands for long numbers, those from the first
one for documentation to the last one for documentation, and the last ones of all. -/
theorem isReserved_iff {asn : Asn} :
    asn.isReserved = true <->
      asn.toNat = 0 ∨ asn.toNat = 23456 ∨ (64496 ≤ asn.toNat ∧ asn.toNat ≤ 131071) ∨
        4200000000 ≤ asn.toNat := by
  have inRange : asn.toNat < 4294967296 := asn.toNat_lt
  simp only [isReserved, reservedRanges, transition, bound, List.any_cons, List.any_nil,
    Bool.or_false, Bool.or_eq_true, Bool.and_eq_true, decide_eq_true_eq]
  omega

theorem ofNat?_toNat (asn : Asn) : ofNat? asn.toNat = some asn := by
  have inRange : asn.toNat < bound := asn.toNat_lt
  rw [ofNat?, if_pos inRange, UInt32.ofNat_toNat]

theorem ofInt?_toInt (asn : Asn) : ofInt? asn.toInt = some asn :=
  ofNat?_toNat asn

theorem ofNat?_eq_some_iff {number : Nat} {asn : Asn} :
    ofNat? number = some asn <-> asn.toNat = number := by
  constructor
  · intro decoded
    unfold ofNat? at decoded
    split at decoded
    · next inRange =>
        cases decoded
        exact UInt32.toNat_ofNat_of_lt' inRange
    · cases decoded
  · intro same
    rw [← same]
    exact ofNat?_toNat asn

theorem ofInt?_eq_some_iff {number : Int} {asn : Asn} :
    ofInt? number = some asn <-> asn.toInt = number := by
  cases number with
  | ofNat number =>
      rw [ofInt?, ofNat?_eq_some_iff, toInt]
      exact ⟨fun same => congrArg Int.ofNat same, fun same => Int.ofNat.inj same⟩
  | negSucc number =>
      simp [ofInt?, toInt]

theorem toInt_inj {a b : Asn} (same : a.toInt = b.toInt) : a = b :=
  UInt32.toNat_inj.mp (Int.ofNat.inj same)

end Asn
end AsCensus
