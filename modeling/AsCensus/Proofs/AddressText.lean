import AsCensus.Proofs.AddressGrammar
import Mathlib.Algebra.Group.Nat.Defs
import Mathlib.Data.List.Induction

namespace AsCensus
namespace Net

open Text

/-!
# The one text of an address

A printed address is one of the texts that write it (`Ipv4.spelled_print`,
`Ipv6.spelled_print`).  For IPv6 it is the one with the first of the longest runs of zero groups
left out (`Ipv6.canonical_iff`).  The search for this run goes from place to place and keeps what
is the first longest one so far (`Ipv6.IsFirstLongestBefore`); that only a longer run takes its
place is what makes it the first.

Reading is a function, so two networks with one text are one network
(`Network.texts_eq_iff`).
-/

/-! ## Numbers -/

theorem digitValue_digitChar {number : Nat} (small : number < 16) :
    digitValue number.digitChar = some number := by
  have table : forall value : Fin 16, digitValue value.val.digitChar = some value.val := by decide
  exact table ⟨number, small⟩

theorem ofDigits_concat (radix : Nat) (front : List Char) (c : Char) :
    ofDigits radix (front ++ [c]) = ofDigits radix front * radix + (digitValue c).getD 0 := by
  rw [ofDigits, List.foldl_append]
  rfl

section
variable {radix : Nat}

theorem isDigit_digitChar (most : radix ≤ 16) {number : Nat} (small : number < radix) :
    isDigit radix number.digitChar = true := by
  rw [isDigit, digitValue_digitChar (small.trans_le most)]
  exact decide_eq_true small

theorem ofDigits_digits (positive : 1 < radix) (most : radix ≤ 16) (number : Nat) :
    ofDigits radix (digits radix number) = number := by
  induction number using Nat.strongRecOn with
  | ind number ih =>
      rw [digits, Nat.toDigits_eq_if positive]
      split
      · next small =>
          have value := digitValue_digitChar (small.trans_le most)
          simp [ofDigits, value]
      · next large =>
          have shorter : number / radix < number := Nat.div_lt_self (by omega) positive
          have last : number % radix < radix := Nat.mod_lt number (by omega)
          have front := ih _ shorter
          rw [digits] at front
          rw [ofDigits_concat, front, digitValue_digitChar (last.trans_le most), Option.getD_some]
          exact Nat.div_add_mod' number radix

theorem isDigit_of_mem_digits (positive : 1 < radix) (most : radix ≤ 16) (number : Nat) {c : Char}
    (member : c ∈ digits radix number) : isDigit radix c = true := by
  induction number using Nat.strongRecOn with
  | ind number ih =>
      rw [digits, Nat.toDigits_eq_if positive] at member
      split at member
      · next small =>
          rw [List.mem_singleton.mp member]
          exact isDigit_digitChar most small
      · next large =>
          rcases List.mem_append.mp member with front | last
          · exact ih _ (Nat.div_lt_self (by omega) positive) front
          · rw [List.mem_singleton.mp last]
            exact isDigit_digitChar most (Nat.mod_lt number (by omega))

/-- The digits of a number write it. -/
theorem numeral_digits (positive : 1 < radix) (small : radix ≤ 16) {most bound number : Nat}
    (some : 0 < most) (fits : number < radix ^ most) (inRange : number < bound) :
    Numeral radix most bound (digits radix number) number where
  notEmpty := Nat.toDigits_ne_nil
  digits _ member := isDigit_of_mem_digits positive small number member
  short := (Nat.length_toDigits_le_iff positive some).mpr fits
  value := ofDigits_digits positive small number
  inRange := inRange

end

/-! ## IPv4 -/

namespace Ipv4

/-- Whether a text writes an IPv4 address. -/
def IsText (text : List Char) : Prop :=
  exists address, Spelled text address

theorem numeral_byte (byte : UInt8) : Numeral 10 3 256 (digits 10 byte.toNat) byte.toNat := by
  have inRange := byte.toNat_lt
  exact numeral_digits (by decide) (by decide) (by decide) (by omega) inRange

theorem spelled_print (address : Ipv4) : Spelled address.print address := by
  have written := Spelled.bytes (numeral_byte address.first) (numeral_byte address.second)
    (numeral_byte address.third) (numeral_byte address.fourth)
  simpa [print, List.intercalate] using written

theorem toGroups_ofGroups (high low : UInt16) : (ofGroups high low).toGroups = [high, low] := by
  have whole (group : UInt16) :
      (group / 256).toUInt8.toUInt16 * 256 + (group % 256).toUInt8.toUInt16 = group := by
    have inRange := group.toNat_lt
    apply UInt16.toNat_inj.mp
    simp
    omega
  rw [ofGroups, toGroups, whole, whole]

end Ipv4

/-! ## IPv6 -/

namespace Ipv6

/-- Whether a text writes an IPv6 address. -/
def IsText (text : List Char) : Prop :=
  exists address, Spelled text address

/-- No text writes an address of both families. -/
theorem IsText.not_ipv4 {text : List Char} (isText : IsText text) : ¬ Ipv4.IsText text := by
  rcases isText with ⟨address, isAddress⟩
  rintro ⟨other, isOther⟩
  rcases exists_colon isAddress with ⟨numeral, tail, rfl, areDigits⟩
  have found := Ipv4.scan_eq_some_iff.mpr
    ⟨numeral ++ ':' :: tail, (List.append_nil _).symm, isOther, noDigit_nil 10⟩
  rw [scan_ipv4_eq_none areDigits (noDigit_cons (by decide) tail) (by simp)] at found
  cases found

theorem numeral_group (group : UInt16) :
    Numeral 16 4 65536 (digits 16 group.toNat) group.toNat := by
  have inRange := group.toNat_lt
  exact numeral_digits (by decide) (by decide) (by decide) (by omega) inRange

theorem printGroups_cons (group : UInt16) {groups : List UInt16} (some : groups ≠ []) :
    printGroups (group :: groups) = digits 16 group.toNat ++ ':' :: printGroups groups := by
  cases groups with
  | nil => exact absurd rfl some
  | cons next rest => simp [printGroups, List.intercalate]

theorem groups_printGroups {groups : List UInt16} (some : groups ≠ []) :
    Groups false (printGroups groups) groups := by
  induction groups with
  | nil => exact absurd rfl some
  | cons group rest ih =>
      by_cases last : rest = []
      · subst last
        have alone : printGroups [group] = digits 16 group.toNat := by
          simp [printGroups, List.intercalate]
        rw [alone]
        exact .single (numeral_group group)
      · rw [printGroups_cons group last]
        exact .more (numeral_group group) (ih last)

theorem groupsOrNone_printGroups (groups : List UInt16) :
    GroupsOrNone false (printGroups groups) groups := by
  by_cases none : groups = []
  · subst none
    exact Or.inl ⟨rfl, rfl, rfl⟩
  · exact Or.inr (groups_printGroups none)

/-! ### The zero groups that are left out -/

theorem le_zeroRun_iff {groups : List UInt16} {run : Nat} :
    run ≤ zeroRun groups <-> groups.take run = List.replicate run 0 := by
  induction run generalizing groups with
  | zero => simp
  | succ run ih =>
      cases groups with
      | nil => simp [zeroRun]
      | cons group rest =>
          by_cases zero : group = 0
          · subst zero
            have longer : zeroRun (0 :: rest) = zeroRun rest + 1 := by simp [zeroRun]
            rw [longer, Nat.add_le_add_iff_right, ih]
            simp [List.replicate_succ]
          · simp [zeroRun, zero, List.replicate_succ]

/-- Whether a number of zero groups stand at a place. -/
def ZerosAt (groups : List UInt16) (start run : Nat) : Prop :=
  (groups.drop start).take run = List.replicate run 0

/-- A run of zero groups that is not shorter than any other, and that stands before all others
of its length. -/
structure IsFirstLongestRun (groups : List UInt16) (start run : Nat) : Prop where
  zeros : ZerosAt groups start run
  longest : forall other length, ZerosAt groups other length -> length ≤ run
  first : forall other, ZerosAt groups other run -> start ≤ other

section
variable {groups : List UInt16} {start run : Nat}

theorem zerosAt_iff : ZerosAt groups start run <-> run ≤ zeroRun (groups.drop start) :=
  le_zeroRun_iff.symm

theorem ZerosAt.shorter {less : Nat} (zeros : ZerosAt groups start run) (within : less ≤ run) :
    ZerosAt groups start less :=
  zerosAt_iff.mpr (within.trans (zerosAt_iff.mp zeros))

theorem ZerosAt.eq_around (zeros : ZerosAt groups start run) :
    groups = groups.take start ++ List.replicate run 0 ++ groups.drop (start + run) := by
  rw [← zeros, ← List.drop_drop, List.append_assoc, List.take_append_drop, List.take_append_drop]

/-- There is only one first longest run. -/
theorem IsFirstLongestRun.unique {otherStart otherRun : Nat}
    (isFirst : IsFirstLongestRun groups start run)
    (isOther : IsFirstLongestRun groups otherStart otherRun) :
    start = otherStart ∧ run = otherRun := by
  have same : run = otherRun :=
    Nat.le_antisymm (isOther.longest start run isFirst.zeros)
      (isFirst.longest otherStart otherRun isOther.zeros)
  subst same
  exact ⟨Nat.le_antisymm (isFirst.first otherStart isOther.zeros)
    (isOther.first start isFirst.zeros), rfl⟩

end

/-- What the search for a run keeps when it comes to the next place: a run that stands there
has to be longer to take the place of the one that was found. -/
def longerRun (groups : List UInt16) (best : Nat × Nat) (start : Nat) : Nat × Nat :=
  if best.2 < zeroRun (groups.drop start) then (start, zeroRun (groups.drop start)) else best

/-- The run that was found is the first longest one of those that start before a place. -/
structure IsFirstLongestBefore (groups : List UInt16) (place : Nat) (best : Nat × Nat) : Prop where
  zeros : ZerosAt groups best.1 best.2
  longest : forall other length, other < place -> ZerosAt groups other length -> length ≤ best.2
  first : forall other, ZerosAt groups other best.2 -> best.1 ≤ other

theorem IsFirstLongestBefore.next {groups : List UInt16} {place : Nat} {best : Nat × Nat}
    (found : IsFirstLongestBefore groups place best) :
    IsFirstLongestBefore groups (place + 1) (longerRun groups best place) := by
  rw [longerRun]
  split
  · next longer =>
      refine ⟨zerosAt_iff.mpr (Nat.le_refl _), ?_, ?_⟩
      · intro other length before zeros
        rcases Nat.lt_succ_iff_lt_or_eq.mp before with earlier | rfl
        · exact (found.longest other length earlier zeros).trans (Nat.le_of_lt longer)
        · exact zerosAt_iff.mp zeros
      · -- A run of this length at an earlier place would have been found there.
        intro other zeros
        apply Nat.le_of_not_lt
        intro earlier
        exact Nat.not_le_of_lt longer (found.longest other _ earlier zeros)
  · next notLonger =>
      refine ⟨found.zeros, ?_, found.first⟩
      intro other length before zeros
      rcases Nat.lt_succ_iff_lt_or_eq.mp before with earlier | rfl
      · exact found.longest other length earlier zeros
      · exact (zerosAt_iff.mp zeros).trans (Nat.le_of_not_lt notLonger)

theorem isFirstLongestBefore_foldl (groups : List UInt16) (place : Nat) :
    IsFirstLongestBefore groups place ((List.range place).foldl (longerRun groups) (0, 0)) := by
  induction place with
  | zero =>
      refine ⟨rfl, ?_, ?_⟩
      · intro other length before
        exact absurd before (Nat.not_lt_zero other)
      · intro other _
        exact Nat.zero_le other
  | succ place found =>
      rw [List.range_succ, List.foldl_append]
      exact found.next

/-- The run that is found is the first of the longest ones. -/
theorem isFirstLongestRun_longestZeroRun (groups : List UInt16) :
    IsFirstLongestRun groups (longestZeroRun groups).1 (longestZeroRun groups).2 := by
  have found := isFirstLongestBefore_foldl groups groups.length
  refine ⟨found.zeros, ?_, found.first⟩
  intro other length zeros
  rcases Nat.lt_or_ge other groups.length with within | beyond
  · exact found.longest other length within zeros
  · rw [zerosAt_iff, List.drop_eq_nil_of_le beyond] at zeros
    exact zeros.trans (Nat.zero_le _)

/-! ### The one text -/

/-- The text of an address among all those that write it.  If the address stands for an IPv4
address, this is written as such at the end.  Otherwise the first of the longest runs of zero
groups is left out, unless no two zero groups stand side by side. -/
inductive Canonical (address : Ipv6) : List Char -> Prop
  | mapped {high low : UInt16} (shape : address.groups = [0, 0, 0, 0, 0, 0xffff, high, low]) :
      Canonical address ("::ffff:".toList ++ (Ipv4.ofGroups high low).print)
  | shortened {start run : Nat}
      (notMapped : forall high low, address.groups ≠ [0, 0, 0, 0, 0, 0xffff, high, low])
      (isRun : IsFirstLongestRun address.groups start run) (several : 1 < run) :
      Canonical address
        (printGroups (address.groups.take start) ++ [':', ':'] ++
          printGroups (address.groups.drop (start + run)))
  | whole (apart : forall start, ¬ ZerosAt address.groups start 2) :
      Canonical address (printGroups address.groups)

theorem print_of_mapped {address : Ipv6} {high low : UInt16}
    (shape : address.groups = [0, 0, 0, 0, 0, 0xffff, high, low]) :
    address.print = "::ffff:".toList ++ (Ipv4.ofGroups high low).print := by
  rw [print, shape]
  rfl

/-- Where no IPv4 address is meant, the found run decides about the text. -/
theorem print_of_not_mapped {address : Ipv6}
    (notMapped : forall high low, address.groups ≠ [0, 0, 0, 0, 0, 0xffff, high, low]) :
    address.print =
      if 1 < (longestZeroRun address.groups).2 then
        printGroups (address.groups.take (longestZeroRun address.groups).1) ++ [':', ':'] ++
          printGroups (address.groups.drop
            ((longestZeroRun address.groups).1 + (longestZeroRun address.groups).2))
      else
        printGroups address.groups := by
  rw [print]
  split
  · next high low shape => exact absurd shape (notMapped high low)
  · rfl

theorem canonical_print (address : Ipv6) : Canonical address address.print := by
  have isRun := isFirstLongestRun_longestZeroRun address.groups
  by_cases mapped : exists high low, address.groups = [0, 0, 0, 0, 0, 0xffff, high, low]
  · rcases mapped with ⟨high, low, shape⟩
    rw [print_of_mapped shape]
    exact .mapped shape
  · have notMapped (high low : UInt16) :
        address.groups ≠ [0, 0, 0, 0, 0, 0xffff, high, low] := by
      intro shape
      exact mapped ⟨high, low, shape⟩
    rw [print_of_not_mapped notMapped]
    split
    · next several => exact .shortened notMapped isRun several
    · next single =>
        apply Canonical.whole
        intro start zeros
        exact single (isRun.longest start 2 zeros)

theorem Canonical.eq_print {address : Ipv6} {text : List Char}
    (canonical : Canonical address text) : text = address.print := by
  have isFound := isFirstLongestRun_longestZeroRun address.groups
  cases canonical with
  | mapped shape => exact (print_of_mapped shape).symm
  | @shortened start run notMapped isRun several =>
      rcases isRun.unique isFound with ⟨rfl, rfl⟩
      rw [print_of_not_mapped notMapped, if_pos several]
  | whole apart =>
      rw [print_of_not_mapped, if_neg]
      · intro several
        exact apart _ (isFound.zeros.shorter several)
      · intro high low shape
        apply apart 0
        rw [shape]
        rfl

/-- An address is printed as its one text. -/
theorem canonical_iff {address : Ipv6} {text : List Char} :
    Canonical address text <-> text = address.print := by
  constructor
  · intro canonical
    exact canonical.eq_print
  · rintro rfl
    exact canonical_print address

/-- Of two runs of one length the first is left out. -/
example : print ⟨[1, 0, 0, 1, 0, 0, 1, 1], rfl⟩ = "1::1:0:0:1:1".toList := by decide

theorem Canonical.spelled {address : Ipv6} {text : List Char}
    (canonical : Canonical address text) : Spelled text address := by
  have eight := address.length_groups
  cases canonical with
  | @mapped high low shape =>
      -- The last two groups stand for an IPv4 address and are written as one.
      have numeral : Numeral 16 4 65536 "ffff".toList (0xffff : UInt16).toNat :=
        numeral_group 0xffff
      have back := Groups.more numeral (.dotted (Ipv4.spelled_print (Ipv4.ofGroups high low)))
      rw [Ipv4.toGroups_ofGroups] at back
      refine @Spelled.gap [] _ [] _ true 5 address (Or.inl ⟨rfl, rfl, rfl⟩) (Or.inr back)
        (by decide) ?_
      rw [shape]
      rfl
  | @shortened start run notMapped isRun several =>
      have parts := isRun.zeros.eq_around
      rw [List.append_assoc, List.cons_append, List.cons_append, List.nil_append]
      refine .gap (groupsOrNone_printGroups _) (groupsOrNone_printGroups _) ?_ parts
      have lengths := congrArg List.length parts
      simp only [List.length_append, List.length_replicate] at lengths
      omega
  | whole apart =>
      have some : address.groups ≠ [] := by
        intro none
        rw [none] at eight
        cases eight
      exact .whole (groups_printGroups some)

theorem spelled_print (address : Ipv6) : Spelled address.print address :=
  (canonical_print address).spelled

end Ipv6

/-! ## Networks -/

namespace Network

/-- The one text of a network that is made of the address as it is printed and the length. -/
def text (network : Network) : List Char :=
  network.addressText.toList ++ '/' :: digits 10 network.length.toNat

theorem toNat_length_v4 (address : Ipv4) (length : Fin 33) :
    (v4 address length).length.toNat = length.val :=
  UInt8.toNat_ofNat_of_lt' (length.isLt.trans (by decide))

theorem toNat_length_v6 (address : Ipv6) (length : Fin 129) :
    (v6 address length).length.toNat = length.val :=
  UInt8.toNat_ofNat_of_lt' (length.isLt.trans (by decide))

theorem spelled_text (network : Network) : Spelled network.text network := by
  cases network with
  | v4 address length =>
      have inRange := length.isLt
      rw [text, toNat_length_v4, addressText, String.toList_ofList]
      exact .v4 (Ipv4.spelled_print address)
        (numeral_digits (by decide) (by decide) (by decide) (by omega) inRange)
  | v6 address length =>
      have inRange := length.isLt
      rw [text, toNat_length_v6, addressText, String.toList_ofList]
      exact .v6 (Ipv6.spelled_print address)
        (numeral_digits (by decide) (by decide) (by decide) (by omega) inRange)

/-- Networks have the same printed address and the same length only if they are the same. -/
theorem texts_eq_iff {network other : Network} :
    network.addressText = other.addressText ∧ network.length = other.length <->
      network = other := by
  constructor
  · rintro ⟨addresses, lengths⟩
    have own := read_eq_some_iff.mpr (spelled_text network)
    have others := read_eq_some_iff.mpr (spelled_text other)
    rw [text, addresses, lengths, ← text, others] at own
    exact (Option.some.inj own).symm
  · rintro rfl
    exact ⟨rfl, rfl⟩

/-- The address of a network is of one family, and its length is one that this family has. -/
theorem length_le_of_family (network : Network) :
    (Ipv4.IsText network.addressText.toList ∧ ¬ Ipv6.IsText network.addressText.toList ∧
        network.length.toNat ≤ 32) ∨
      (Ipv6.IsText network.addressText.toList ∧ ¬ Ipv4.IsText network.addressText.toList ∧
        network.length.toNat ≤ 128) := by
  cases network with
  | v4 address length =>
      have written : Ipv4.IsText address.print := ⟨address, Ipv4.spelled_print address⟩
      rw [toNat_length_v4, addressText, String.toList_ofList]
      refine Or.inl ⟨written, ?_, Nat.le_of_lt_succ length.isLt⟩
      intro other
      exact other.not_ipv4 written
  | v6 address length =>
      have written : Ipv6.IsText address.print := ⟨address, Ipv6.spelled_print address⟩
      rw [toNat_length_v6, addressText, String.toList_ofList]
      exact Or.inr ⟨written, written.not_ipv4, Nat.le_of_lt_succ length.isLt⟩

end Network

end Net
end AsCensus
