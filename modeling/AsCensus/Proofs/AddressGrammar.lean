import AsCensus.Net.Network
import AsCensus.Text.Blank
import Mathlib.Data.List.TakeWhile

namespace AsCensus
namespace Net

open Text

/-!
# How networks are written

A network has many spellings, and the scanners accept them from left to right: a number ends
where no digit follows, an IPv4 address is tried before a group, and groups end where no colon
and group follow.  The grammar here (`Network.Spelled`) says which texts write which network
and knows nothing of such an order.

Reading accepts exactly the texts of the grammar (`Network.read_eq_some_iff`).  One half follows
a scan and collects what it took.  For the other half one has to see that no scanner takes
another turn than the one that is written: a group is never the start of an IPv4 address unless
a point follows it, and nothing goes on where the two colons of a gap or the slash before the
length stand (`Ipv6.Ends`).
-/

/-- Whether digits write a number: at least one digit of a radix and at most `most` of them,
and the number is below a bound. -/
structure Numeral (radix most bound : Nat) (text : List Char) (number : Nat) : Prop where
  notEmpty : text ≠ []
  digits : forall c, c ∈ text -> isDigit radix c = true
  short : text.length ≤ most
  value : ofDigits radix text = number
  inRange : number < bound

/-- Whether no digit stands at the front of a text. -/
def NoDigit (radix : Nat) (text : List Char) : Prop :=
  forall c, text.head? = some c -> isDigit radix c = false

/-! ## Numbers -/

section
variable {radix most bound number : Nat} {numeral text rest : List Char}

theorem noDigit_dropWhile (radix : Nat) (text : List Char) :
    NoDigit radix (text.dropWhile (isDigit radix)) := by
  intro c first
  cases shape : text.dropWhile (isDigit radix) with
  | nil =>
      rw [shape] at first
      cases first
  | cons head tail =>
      rw [shape] at first
      cases first
      exact dropWhile_head_not shape

theorem noDigit_nil (radix : Nat) : NoDigit radix [] := by
  intro c impossible
  cases impossible

theorem noDigit_cons {c : Char} (other : isDigit radix c = false) (text : List Char) :
    NoDigit radix (c :: text) := by
  intro head first
  cases first
  exact other

/-- A run of digits ends where no digit follows. -/
theorem span_digits (digits : forall c, c ∈ numeral -> isDigit radix c = true)
    (noDigit : NoDigit radix rest) :
    (numeral ++ rest).takeWhile (isDigit radix) = numeral ∧
      (numeral ++ rest).dropWhile (isDigit radix) = rest := by
  rw [List.takeWhile_append_of_pos digits, List.dropWhile_append_of_pos digits]
  cases rest with
  | nil => simp
  | cons head tail =>
      have stops := noDigit head rfl
      simp [stops]

theorem scanNumber_eq_some_iff :
    scanNumber radix most bound text = some (number, rest) <->
      exists numeral, text = numeral ++ rest ∧ Numeral radix most bound numeral number ∧
        NoDigit radix rest := by
  rw [scanNumber]
  constructor
  · intro found
    split at found
    · next valid =>
        cases found
        refine ⟨_, List.takeWhile_append_dropWhile.symm, ⟨valid.1, ?_, valid.2.1, rfl, valid.2.2⟩,
          noDigit_dropWhile radix text⟩
        intro c member
        exact List.mem_takeWhile_imp member
    · cases found
  · rintro ⟨numeral, rfl, isNumeral, noDigit⟩
    rcases span_digits isNumeral.digits noDigit with ⟨run, left⟩
    have valid := And.intro isNumeral.notEmpty (And.intro isNumeral.short isNumeral.inRange)
    rw [← isNumeral.value] at valid
    simp only [run, left]
    rw [if_pos valid, isNumeral.value]

theorem scanNumber_append (isNumeral : Numeral radix most bound numeral number)
    (noDigit : NoDigit radix rest) :
    scanNumber radix most bound (numeral ++ rest) = some (number, rest) :=
  scanNumber_eq_some_iff.mpr ⟨numeral, rfl, isNumeral, noDigit⟩

theorem scanNumber_of_noDigit (noDigit : NoDigit radix text) :
    scanNumber radix most bound text = none := by
  have run : text.takeWhile (isDigit radix) = [] := by
    simpa using (@span_digits radix [] text (by simp) noDigit).1
  rw [scanNumber]
  simp [run]

theorem Numeral.byte (isNumeral : Numeral radix most 256 numeral number) :
    Numeral radix most 256 numeral (UInt8.ofNat number).toNat := by
  rw [UInt8.toNat_ofNat_of_lt' isNumeral.inRange]
  exact isNumeral

theorem Numeral.group (isNumeral : Numeral radix most 65536 numeral number) :
    Numeral radix most 65536 numeral (UInt16.ofNat number).toNat := by
  rw [UInt16.toNat_ofNat_of_lt' isNumeral.inRange]
  exact isNumeral

end

theorem isDigit_of_decimal {c : Char} (decimal : isDigit 10 c = true) : isDigit 16 c = true := by
  rw [isDigit] at decimal ⊢
  split at decimal
  · next value _ =>
      rw [decide_eq_true_eq] at decimal ⊢
      omega
  · cases decimal

theorem NoDigit.decimal {text : List Char} (noDigit : NoDigit 16 text) : NoDigit 10 text := by
  intro c first
  rw [← Bool.not_eq_true]
  intro decimal
  have hexadecimal := isDigit_of_decimal decimal
  rw [noDigit c first] at hexadecimal
  cases hexadecimal

theorem after_eq_some (mark : Char) (rest : List Char) :
    after? [mark] (mark :: rest) = some rest :=
  after?_eq_some_iff.mpr rfl

/-! ## IPv4 -/

namespace Ipv4

/-- Whether a text writes an IPv4 address: its bytes in decimal with points between them. -/
inductive Spelled : List Char -> Ipv4 -> Prop
  | bytes {a b c d : List Char} {address : Ipv4}
      (first : Numeral 10 3 256 a address.first.toNat)
      (second : Numeral 10 3 256 b address.second.toNat)
      (third : Numeral 10 3 256 c address.third.toNat)
      (fourth : Numeral 10 3 256 d address.fourth.toNat) :
      Spelled (a ++ '.' :: (b ++ '.' :: (c ++ '.' :: d))) address

theorem scan_eq_some_iff {text rest : List Char} {address : Ipv4} :
    scan text = some (address, rest) <->
      exists front, text = front ++ rest ∧ Spelled front address ∧ NoDigit 10 rest := by
  constructor
  · intro found
    simp only [scan, Option.bind_eq_bind, Option.bind_eq_some_iff, after?_eq_some_iff] at found
    rcases found with ⟨⟨first, _⟩, scanned, _, rfl, ⟨second, _⟩, scanned2, _, rfl,
      ⟨third, _⟩, scanned3, _, rfl, ⟨fourth, _⟩, scanned4, same⟩
    cases same
    rcases scanNumber_eq_some_iff.mp scanned with ⟨a, rfl, isFirst, _⟩
    rcases scanNumber_eq_some_iff.mp scanned2 with ⟨b, rfl, isSecond, _⟩
    rcases scanNumber_eq_some_iff.mp scanned3 with ⟨c, rfl, isThird, _⟩
    rcases scanNumber_eq_some_iff.mp scanned4 with ⟨d, rfl, isFourth, noDigit⟩
    refine ⟨_, ?_, .bytes isFirst.byte isSecond.byte isThird.byte isFourth.byte, noDigit⟩
    simp only [List.append_assoc, List.cons_append, List.nil_append]
  · rintro ⟨front, rfl, ⟨first, second, third, fourth⟩, noDigit⟩
    have point (text : List Char) : NoDigit 10 ('.' :: text) := noDigit_cons (by decide) text
    simp only [List.append_assoc, List.cons_append, scan, scanNumber_append first (point _),
      scanNumber_append second (point _), scanNumber_append third (point _),
      scanNumber_append fourth noDigit, after_eq_some, Option.bind_eq_bind, Option.bind_some,
      UInt8.ofNat_toNat]

end Ipv4

/-! ## IPv6 -/

namespace Ipv6

/-- Whether a text writes groups, at least one of them, in hexadecimal with colons between
them.  The last two may be written as an IPv4 address, which the flag tells. -/
inductive Groups : Bool -> List Char -> List UInt16 -> Prop
  | single {numeral : List Char} {group : UInt16}
      (last : Numeral 16 4 65536 numeral group.toNat) : Groups false numeral [group]
  | dotted {text : List Char} {address : Ipv4} (last : Ipv4.Spelled text address) :
      Groups true text address.toGroups
  | more {numeral text : List Char} {group : UInt16} {dotted : Bool} {groups : List UInt16}
      (first : Numeral 16 4 65536 numeral group.toNat) (rest : Groups dotted text groups) :
      Groups dotted (numeral ++ ':' :: text) (group :: groups)

/-- Whether a text writes groups, possibly none. -/
def GroupsOrNone (dotted : Bool) (text : List Char) (groups : List UInt16) : Prop :=
  (dotted = false ∧ text = [] ∧ groups = []) ∨ Groups dotted text groups

/-- Whether a text writes an IPv6 address: eight groups, or fewer than eight in front and
others behind, with two colons for the zero groups that are missing. -/
inductive Spelled : List Char -> Ipv6 -> Prop
  | whole {text : List Char} {dotted : Bool} {address : Ipv6}
      (groups : Groups dotted text address.groups) : Spelled text address
  | gap {front back : List Char} {frontGroups backGroups : List UInt16} {dotted : Bool}
      {missing : Nat} {address : Ipv6}
      (isFront : GroupsOrNone false front frontGroups)
      (isBack : GroupsOrNone dotted back backGroups)
      (short : frontGroups.length < 8)
      (groups : address.groups = frontGroups ++ List.replicate missing 0 ++ backGroups) :
      Spelled (front ++ ':' :: ':' :: back) address

/-- Whether groups cannot go on with a text: no digit and no point stands at its front, and
after a colon no digit. -/
structure Ends (text : List Char) : Prop where
  noDigit : NoDigit 16 text
  noPoint : text.head? ≠ some '.'
  noGroup : forall tail, text = ':' :: tail -> NoDigit 16 tail

theorem ends_slash (rest : List Char) : Ends ('/' :: rest) where
  noDigit := noDigit_cons (by decide) rest
  noPoint impossible := by cases impossible
  noGroup tail impossible := by cases impossible

theorem ends_gap (rest : List Char) : Ends (':' :: ':' :: rest) where
  noDigit := noDigit_cons (by decide) _
  noPoint impossible := by cases impossible
  noGroup tail same := by
    cases same
    exact noDigit_cons (by decide) rest

/-- What starts with hexadecimal digits and then has no point is no IPv4 address. -/
theorem scan_ipv4_eq_none {numeral rest : List Char}
    (digits : forall c, c ∈ numeral -> isDigit 16 c = true) (noDigit : NoDigit 16 rest)
    (noPoint : rest.head? ≠ some '.') : Ipv4.scan (numeral ++ rest) = none := by
  rw [Option.eq_none_iff_forall_ne_some]
  rintro ⟨address, left⟩ found
  rcases Ipv4.scan_eq_some_iff.mp found with ⟨front, same, isAddress, _⟩
  cases isAddress with
  | @bytes a b c d _ first second third fourth =>
      -- Both texts are cut behind their first run of hexadecimal digits.
      have cutHere := (span_digits digits noDigit).2
      have cutThere := (@span_digits 16 a ('.' :: (b ++ '.' :: (c ++ '.' :: d)) ++ left)
        (fun c member => isDigit_of_decimal (first.digits c member))
        (noDigit_cons (by decide) _)).2
      rw [same, List.append_assoc, cutThere] at cutHere
      exact noPoint (by rw [← cutHere]; rfl)

/-- Groups at the front of an address, or behind others with a colon before them. -/
def groupsText (leading : Bool) (text : List Char) : List Char :=
  if leading then text else ':' :: text

section
variable {leading dotted : Bool} {most : Nat} {body text rest : List Char}
variable {groups : List UInt16}

theorem scanGroups_number {group : Nat} (noAddress : Ipv4.scan body = none)
    (number : scanNumber 16 4 65536 body = some (group, rest)) :
    scanGroups leading (most + 1) (groupsText leading body) =
      (.ofNat group :: (scanGroups false most rest).1, (scanGroups false most rest).2) := by
  cases leading <;> simp [scanGroups, groupsText, after_eq_some, noAddress, number]

theorem scanGroups_dotted {address : Ipv4} (found : Ipv4.scan body = some (address, rest)) :
    scanGroups leading (most + 2) (groupsText leading body) = (address.toGroups, true, rest) := by
  cases leading <;> simp [scanGroups, groupsText, after_eq_some, found]

theorem scan_ipv4_of_noDigit (noDigit : NoDigit 16 text) : Ipv4.scan text = none := by
  rw [Ipv4.scan, scanNumber_of_noDigit noDigit.decimal]
  rfl

/-- Nothing is scanned where groups cannot go on. -/
theorem scanGroups_of_ends (ends : Ends text) :
    scanGroups leading most text = ([], false, text) := by
  cases most with
  | zero => rfl
  | succ most =>
      rw [scanGroups]
      cases leading with
      | true =>
          simp [scan_ipv4_of_noDigit ends.noDigit, scanNumber_of_noDigit ends.noDigit]
      | false =>
          cases after : after? [':'] text with
          | none => rfl
          | some tail =>
              have noDigit := ends.noGroup tail (after?_eq_some_iff.mp after)
              simp [scan_ipv4_of_noDigit noDigit, scanNumber_of_noDigit noDigit]

/-- Groups are scanned as they are written, as far as they go. -/
theorem scanGroups_append (isGroups : Groups dotted text groups) (ends : Ends rest)
    (enough : groups.length ≤ most) :
    scanGroups leading most (groupsText leading (text ++ rest)) = (groups, dotted, rest) := by
  induction isGroups generalizing leading most with
  | single last =>
      cases most with
      | zero => cases enough
      | succ most =>
          have noAddress := scan_ipv4_eq_none last.digits ends.noDigit ends.noPoint
          rw [scanGroups_number noAddress (scanNumber_append last ends.noDigit),
            scanGroups_of_ends ends, UInt16.ofNat_toNat]
  | @dotted text address last =>
      match most, enough with
      | most + 2, _ =>
          apply scanGroups_dotted
          exact Ipv4.scan_eq_some_iff.mpr ⟨text, rfl, last, ends.noDigit.decimal⟩
  | more first others ih =>
      cases most with
      | zero => cases enough
      | succ most =>
          have colon (text : List Char) : NoDigit 16 (':' :: text) := noDigit_cons (by decide) text
          have noAddress := fun text => scan_ipv4_eq_none first.digits (colon text) (by simp)
          have later := @ih false most (Nat.le_of_succ_le_succ enough)
          rw [groupsText, if_neg (by decide)] at later
          rw [List.append_assoc, List.cons_append,
            scanGroups_number (noAddress _) (scanNumber_append first (colon _)), later,
            UInt16.ofNat_toNat]

theorem scanGroups_orNone_append (isGroups : GroupsOrNone dotted text groups) (ends : Ends rest)
    (enough : groups.length ≤ most) :
    scanGroups true most (text ++ rest) = (groups, dotted, rest) := by
  rcases isGroups with ⟨rfl, rfl, rfl⟩ | isGroups
  · exact scanGroups_of_ends ends
  · have scanned := @scanGroups_append true dotted most text rest groups isGroups ends enough
    rw [groupsText, if_pos rfl] at scanned
    exact scanned

/-- What is scanned as groups is written as groups, unless nothing is scanned. -/
theorem groups_of_scanGroups (scanned : scanGroups leading most text = (groups, dotted, rest)) :
    (groups = [] ∧ dotted = false ∧ rest = text) ∨
      exists front, text = groupsText leading (front ++ rest) ∧ Groups dotted front groups := by
  induction most generalizing leading text groups dotted with
  | zero =>
      cases scanned
      exact Or.inl ⟨rfl, rfl, rfl⟩
  | succ most ih =>
      rw [scanGroups] at scanned
      split at scanned
      · cases scanned
        exact Or.inl ⟨rfl, rfl, rfl⟩
      · next body starts =>
          have whole : text = groupsText leading body := by
            cases leading with
            | true => exact Option.some.inj starts
            | false => exact after?_eq_some_iff.mp starts
          split at scanned
          · next address left found =>
              cases scanned
              have found : Ipv4.scan body = some (address, rest) := by
                split at found
                · exact found
                · cases found
              rcases Ipv4.scan_eq_some_iff.mp found with ⟨front, rfl, isAddress, _⟩
              exact Or.inr ⟨front, whole, .dotted isAddress⟩
          · split at scanned
            · cases scanned
              exact Or.inl ⟨rfl, rfl, rfl⟩
            · next group left number =>
                rcases scanNumber_eq_some_iff.mp number with ⟨numeral, rfl, isNumeral, _⟩
                rcases later : scanGroups false most left with ⟨others, _, _⟩
                rw [later] at scanned
                cases scanned
                refine Or.inr ?_
                rcases ih later with ⟨rfl, rfl, rfl⟩ | ⟨front, rfl, isGroups⟩
                · exact ⟨numeral, whole, .single isNumeral.group⟩
                · refine ⟨numeral ++ ':' :: front, ?_, .more isNumeral.group isGroups⟩
                  rw [whole, List.append_assoc]
                  rfl

theorem groupsOrNone_of_scanGroups
    (scanned : scanGroups true most text = (groups, dotted, rest)) :
    exists front, text = front ++ rest ∧ GroupsOrNone dotted front groups := by
  rcases groups_of_scanGroups scanned with ⟨rfl, rfl, rfl⟩ | ⟨front, rfl, isGroups⟩
  · exact ⟨[], rfl, Or.inl ⟨rfl, rfl, rfl⟩⟩
  · exact ⟨front, rfl, Or.inr isGroups⟩

end

theorem ofGroups?_eq_some_iff {groups : List UInt16} {address : Ipv6} :
    ofGroups? groups = some address <-> address.groups = groups := by
  rcases address with ⟨own, eight⟩
  rw [ofGroups?]
  constructor
  · intro found
    split at found
    · cases found
      rfl
    · cases found
  · rintro rfl
    rw [dif_pos eight]

theorem scan_append {text : List Char} {address : Ipv6} (isAddress : Spelled text address)
    (rest : List Char) : scan (text ++ '/' :: rest) = some (address, '/' :: rest) := by
  have eight := address.length_groups
  cases isAddress with
  | whole groups =>
      have scanned := @scanGroups_append true _ 8 _ _ _ groups (ends_slash rest) eight.le
      rw [groupsText, if_pos rfl] at scanned
      have built : ofGroups? address.groups = some address := ofGroups?_eq_some_iff.mpr rfl
      rw [scan, scanned]
      simp [eight, built]
  | @gap front back frontGroups backGroups dotted missing _ isFront isBack short groups =>
      rw [groups, List.length_append, List.length_append, List.length_replicate] at eight
      have scannedFront := scanGroups_orNone_append isFront (ends_gap (back ++ '/' :: rest))
        short.le
      have scannedBack := @scanGroups_orNone_append dotted (8 - frontGroups.length) back _ _
        isBack (ends_slash rest) (by omega)
      have zeros : 8 - frontGroups.length - backGroups.length = missing := by omega
      have gap : after? [':', ':'] (':' :: ':' :: (back ++ '/' :: rest)) =
          some (back ++ '/' :: rest) := after?_eq_some_iff.mpr rfl
      have built := ofGroups?_eq_some_iff.mpr groups
      rw [List.append_assoc] at built
      rw [scan, List.append_assoc, List.cons_append, List.cons_append, scannedFront]
      simp [short.ne, gap, scannedBack, zeros, built]

theorem spelled_of_scan {text rest : List Char} {address : Ipv6}
    (scanned : scan text = some (address, rest)) :
    exists front, text = front ++ rest ∧ Spelled front address := by
  rw [scan] at scanned
  rcases first : scanGroups true 8 text with ⟨frontGroups, dotted, left⟩
  rcases groupsOrNone_of_scanGroups first with ⟨front, rfl, isFront⟩
  simp only [first] at scanned
  split at scanned
  · next eight =>
      rcases Option.map_eq_some_iff.mp scanned with ⟨built, found, same⟩
      cases same
      have groups := ofGroups?_eq_some_iff.mp found
      refine ⟨front, rfl, ?_⟩
      rcases isFront with ⟨_, _, rfl⟩ | isGroups
      · cases eight
      · exact .whole (groups ▸ isGroups)
  · next notEight =>
      split at scanned
      · cases scanned
      · next undotted =>
          simp only [Option.bind_eq_bind, Option.bind_eq_some_iff] at scanned
          rcases scanned with ⟨behind, gap, found⟩
          rcases second : scanGroups true (8 - frontGroups.length) behind with ⟨backGroups, _, _⟩
          rcases groupsOrNone_of_scanGroups second with ⟨back, rfl, isBack⟩
          rw [second] at found
          rcases Option.map_eq_some_iff.mp found with ⟨built, isBuilt, same⟩
          cases same
          have groups := ofGroups?_eq_some_iff.mp isBuilt
          have short : frontGroups.length < 8 := by
            have eight := address.length_groups
            rw [groups] at eight
            simp only [List.length_append, List.length_replicate] at eight
            omega
          rw [Bool.not_eq_true] at undotted
          rw [undotted] at isFront
          refine ⟨front ++ ':' :: ':' :: back, ?_, .gap isFront isBack short groups⟩
          rw [after?_eq_some_iff.mp gap]
          simp only [List.append_assoc, List.cons_append, List.nil_append]

/-- An address starts with hexadecimal digits, possibly none, and a colon after them. -/
theorem exists_colon {text : List Char} {address : Ipv6} (isAddress : Spelled text address) :
    exists numeral tail, text = numeral ++ ':' :: tail ∧
      forall c, c ∈ numeral -> isDigit 16 c = true := by
  have eight := address.length_groups
  have ofGroups {text : List Char} {groups : List UInt16}
      (isGroups : Groups false text groups) (tail : List Char) : exists numeral rest,
        text ++ ':' :: tail = numeral ++ ':' :: rest ∧
          forall c, c ∈ numeral -> isDigit 16 c = true := by
    cases isGroups with
    | single last => exact ⟨_, tail, rfl, last.digits⟩
    | @more numeral rest _ _ _ first _ =>
        exact ⟨numeral, rest ++ ':' :: tail, by simp, first.digits⟩
  cases isAddress with
  | whole isGroups =>
      generalize address.groups = groups at isGroups eight
      cases isGroups with
      | single last => cases eight
      | dotted last => cases eight
      | @more numeral rest _ _ _ first _ => exact ⟨numeral, rest, rfl, first.digits⟩
  | @gap front back frontGroups _ _ _ _ isFront _ _ _ =>
      rcases isFront with ⟨_, rfl, _⟩ | isGroups
      · exact ⟨[], ':' :: back, rfl, by simp⟩
      · exact ofGroups isGroups (':' :: back)

end Ipv6

/-! ## Networks -/

namespace Network

/-- Whether a text writes a network: an address, a slash and the length in decimal. -/
inductive Spelled : List Char -> Network -> Prop
  | v4 {text numeral : List Char} {address : Ipv4} {length : Fin 33}
      (isAddress : Ipv4.Spelled text address) (isLength : Numeral 10 2 33 numeral length.val) :
      Spelled (text ++ '/' :: numeral) (v4 address length)
  | v6 {text numeral : List Char} {address : Ipv6} {length : Fin 129}
      (isAddress : Ipv6.Spelled text address) (isLength : Numeral 10 3 129 numeral length.val) :
      Spelled (text ++ '/' :: numeral) (v6 address length)

section
variable {text : List Char} {network : Network}

theorem scanLength_eq_some_iff {most limit : Nat} {positive : 0 < limit} {length : Fin limit} :
    scanLength most limit positive text = some (length, []) <->
      exists numeral, text = '/' :: numeral ∧ Numeral 10 most limit numeral length.val := by
  constructor
  · intro scanned
    simp only [scanLength, Option.bind_eq_bind, Option.bind_eq_some_iff,
      after?_eq_some_iff] at scanned
    rcases scanned with ⟨_, rfl, ⟨number, _⟩, found, same⟩
    cases same
    rcases scanNumber_eq_some_iff.mp found with ⟨numeral, rfl, isNumeral, _⟩
    have same : number % limit = number := Nat.mod_eq_of_lt isNumeral.inRange
    refine ⟨numeral, by simp, ?_⟩
    simp only [same]
    exact isNumeral
  · rintro ⟨numeral, rfl, isNumeral⟩
    have found := scanNumber_append isNumeral (noDigit_nil 10)
    rw [List.append_nil] at found
    simp [scanLength, after_eq_some, found, Nat.mod_eq_of_lt isNumeral.inRange]

theorem spelled_of_scanV4 (scanned : scanV4 text = some (network, [])) :
    Spelled text network := by
  simp only [scanV4, Option.bind_eq_bind, Option.bind_eq_some_iff] at scanned
  rcases scanned with ⟨⟨address, rest⟩, isAddress, ⟨length, _⟩, isLength, same⟩
  cases same
  rcases Ipv4.scan_eq_some_iff.mp isAddress with ⟨front, rfl, written, _⟩
  rcases scanLength_eq_some_iff.mp isLength with ⟨numeral, rfl, isNumeral⟩
  exact .v4 written isNumeral

theorem spelled_of_scanV6 (scanned : scanV6 text = some (network, [])) :
    Spelled text network := by
  simp only [scanV6, Option.bind_eq_bind, Option.bind_eq_some_iff] at scanned
  rcases scanned with ⟨⟨address, rest⟩, isAddress, ⟨length, _⟩, isLength, same⟩
  cases same
  rcases Ipv6.spelled_of_scan isAddress with ⟨front, rfl, written⟩
  rcases scanLength_eq_some_iff.mp isLength with ⟨numeral, rfl, isNumeral⟩
  exact .v6 written isNumeral

theorem scan_of_spelled (spelled : Spelled text network) :
    (scanV4 text).or (scanV6 text) = some (network, []) := by
  cases spelled with
  | @v4 text numeral address length isAddress isLength =>
      have slash : NoDigit 10 ('/' :: numeral) := noDigit_cons (by decide) numeral
      have found := Ipv4.scan_eq_some_iff.mpr ⟨text, rfl, isAddress, slash⟩
      have read := @scanLength_eq_some_iff _ 2 33 (by decide) length |>.mpr
        ⟨numeral, rfl, isLength⟩
      rw [scanV4, found]
      simp [read]
  | @v6 text numeral address length isAddress isLength =>
      have found := Ipv6.scan_append isAddress numeral
      have read := @scanLength_eq_some_iff _ 3 129 (by decide) length |>.mpr
        ⟨numeral, rfl, isLength⟩
      -- The text has a colon where an IPv4 address would have its first point.
      rcases Ipv6.exists_colon isAddress with ⟨digits, tail, rfl, areDigits⟩
      have noV4 : Ipv4.scan (digits ++ ':' :: (tail ++ '/' :: numeral)) = none :=
        Ipv6.scan_ipv4_eq_none areDigits (noDigit_cons (by decide) _) (by simp)
      rw [List.append_assoc, List.cons_append] at found ⊢
      rw [scanV4, noV4, scanV6, found]
      simp [read]

/-- Reading accepts the texts that write a network, and gives that network. -/
theorem read_eq_some_iff : read text = some network <-> Spelled text network := by
  rw [read]
  constructor
  · intro found
    split at found
    · next other scanned =>
        cases found
        rcases Option.or_eq_some_iff.mp scanned with isV4 | ⟨_, isV6⟩
        · exact spelled_of_scanV4 isV4
        · exact spelled_of_scanV6 isV6
    · cases found
  · intro spelled
    rw [scan_of_spelled spelled]

end

end Network
end Net
end AsCensus
