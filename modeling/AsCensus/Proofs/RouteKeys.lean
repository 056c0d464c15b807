import AsCensus.Proofs.AddressText
import AsCensus.Proofs.RouteContent
import AsCensus.Proofs.RouteReplacement

namespace AsCensus

/-!
# The keys of route objects

A route object is stored under the text of its network.  Dumps spell networks as they like,
and still two objects of one network have to meet in one row.  They do because the text is
printed from the network and not taken from the dump.  That objects of two networks never meet
is the harder half: it needs that a printed network can be read back, so that the lines that
are made of a key (`keyLines`) give that key again.

To read such a line one has to know that nothing of it is trimmed or taken out, which is so
because no character in the text of a network is blank or a quote (`isNetworkChar_of_spelled`,
`isPlain_of_isNetworkChar`).
-/

namespace Text

theorem dropEndWhile_of_none {p : X -> Bool} {values : List X}
    (none : forall x, x ∈ values -> p x = false) : dropEndWhile p values = values := by
  rcases List.eq_nil_or_concat values with rfl | ⟨front, last, rfl⟩
  · rfl
  · rw [List.concat_eq_append] at none ⊢
    exact dropEndWhile_eq_self_of_last (none last (List.mem_append_right _ List.mem_cons_self))

theorem isLineEnd_of_noBlank {c : Char} (noBlank : isBlank c = false) : isLineEnd c = false := by
  apply Bool.eq_false_iff.mpr
  intro ends
  rw [isBlank_of_isLineEnd ends] at noBlank
  cases noBlank

theorem trim_of_noBlank {text : List Char} (noBlank : forall c, c ∈ text -> isBlank c = false) :
    trim text = text := by
  have front : text.dropWhile isBlank = text := by
    cases text with
    | nil => rfl
    | cons first rest => exact dropWhile_eq_self_of_head (noBlank first List.mem_cons_self)
  rw [trim, front]
  exact dropEndWhile_of_none noBlank

theorem cut_colon_append {name : List Char} (noColon : ':' ∉ name) (rest : List Char) :
    cut [':'] (name ++ ':' :: rest) = some (name, rest) := by
  induction name with
  | nil => rfl
  | cons first name ih =>
      rw [List.mem_cons, not_or] at noColon
      simp [cut, after?, noColon.1, ih noColon.2]

end Text

namespace Net

open Text

/-- Whether a character can stand in the text of a network. -/
def isNetworkChar (c : Char) : Bool :=
  isDigit 16 c || c == '.' || c == ':' || c == '/'

section
variable {radix most bound number : Nat} {text : List Char} {c : Char}

theorem isNetworkChar_of_isDigit (digit : isDigit 16 c = true) : isNetworkChar c = true := by
  rw [isNetworkChar, digit]
  rfl

theorem isNetworkChar_of_decimal (isNumeral : Numeral 10 most bound text number)
    (member : c ∈ text) : isNetworkChar c = true :=
  isNetworkChar_of_isDigit (isDigit_of_decimal (isNumeral.digits c member))

theorem isNetworkChar_of_hexadecimal (isNumeral : Numeral 16 most bound text number)
    (member : c ∈ text) : isNetworkChar c = true :=
  isNetworkChar_of_isDigit (isNumeral.digits c member)

theorem isNetworkChar_of_ipv4 {address : Ipv4} (isAddress : Ipv4.Spelled text address)
    (member : c ∈ text) : isNetworkChar c = true := by
  cases isAddress with
  | bytes first second third fourth =>
      simp only [List.mem_append, List.mem_cons] at member
      rcases member with inside | rfl | inside | rfl | inside | rfl | inside
      · exact isNetworkChar_of_decimal first inside
      · rfl
      · exact isNetworkChar_of_decimal second inside
      · rfl
      · exact isNetworkChar_of_decimal third inside
      · rfl
      · exact isNetworkChar_of_decimal fourth inside

theorem isNetworkChar_of_groups {dotted : Bool} {groups : List UInt16}
    (isGroups : Ipv6.Groups dotted text groups) (member : c ∈ text) :
    isNetworkChar c = true := by
  induction isGroups with
  | single last => exact isNetworkChar_of_hexadecimal last member
  | dotted last => exact isNetworkChar_of_ipv4 last member
  | more first rest ih =>
      rcases List.mem_append.mp member with inside | behind
      · exact isNetworkChar_of_hexadecimal first inside
      · rcases List.mem_cons.mp behind with rfl | inside
        · rfl
        · exact ih inside

theorem isNetworkChar_of_groupsOrNone {dotted : Bool} {groups : List UInt16}
    (isGroups : Ipv6.GroupsOrNone dotted text groups) (member : c ∈ text) :
    isNetworkChar c = true := by
  rcases isGroups with ⟨_, rfl, _⟩ | isGroups
  · cases member
  · exact isNetworkChar_of_groups isGroups member

theorem isNetworkChar_of_ipv6 {address : Ipv6} (isAddress : Ipv6.Spelled text address)
    (member : c ∈ text) : isNetworkChar c = true := by
  cases isAddress with
  | whole isGroups => exact isNetworkChar_of_groups isGroups member
  | gap isFront isBack short groups =>
      simp only [List.mem_append, List.mem_cons] at member
      rcases member with inside | rfl | rfl | inside
      · exact isNetworkChar_of_groupsOrNone isFront inside
      · rfl
      · rfl
      · exact isNetworkChar_of_groupsOrNone isBack inside

theorem isNetworkChar_of_spelled {network : Network} (spelled : Network.Spelled text network)
    (member : c ∈ text) : isNetworkChar c = true := by
  cases spelled with
  | v4 isAddress isLength =>
      simp only [List.mem_append, List.mem_cons] at member
      rcases member with inside | rfl | inside
      · exact isNetworkChar_of_ipv4 isAddress inside
      · rfl
      · exact isNetworkChar_of_decimal isLength inside
  | v6 isAddress isLength =>
      simp only [List.mem_append, List.mem_cons] at member
      rcases member with inside | rfl | inside
      · exact isNetworkChar_of_ipv6 isAddress inside
      · rfl
      · exact isNetworkChar_of_decimal isLength inside

/-- A numeral without a sign is read as the number that it writes. -/
theorem readNatural_of_numeral (isNumeral : Numeral 10 most bound text number) :
    readNatural bound text = some number := by
  have all : text.all (isDigit 10) = true := List.all_eq_true.mpr isNumeral.digits
  have valid : text ≠ [] ∧ text.all (isDigit 10) = true ∧ ofDigits 10 text < bound := by
    rw [isNumeral.value]
    exact ⟨isNumeral.notEmpty, all, isNumeral.inRange⟩
  rw [readNatural]
  · rw [readDigits, if_pos valid, isNumeral.value]
  · rintro digits rfl
    have sign := isNumeral.digits '+' List.mem_cons_self
    cases sign

theorem read_digits_asn (origin : Asn) : Asn.read (digits 10 origin.toNat) = some origin := by
  have inRange : origin.toNat < 4294967296 := origin.toNat_lt
  have isNumeral : Numeral 10 10 Asn.bound (digits 10 origin.toNat) origin.toNat :=
    numeral_digits (by decide) (by decide) (by decide) (by omega) inRange
  rw [Asn.read, readNatural_of_numeral isNumeral, Option.bind_some, Asn.ofNat?_toNat]

end

end Net

namespace Rpsl

open Text
open Net
open Whois
open Store

/-- Whether a character is kept when a value is stored, wherever it stands. -/
def IsPlain (c : Char) : Prop :=
  isBlank c = false ∧ isQuoting c = false

/-- The line that the network of an entry is read back from. -/
def networkLine (address : String) (length : UInt8) : String :=
  "route: " ++ address ++ "/" ++ decimal length.toNat

/-- The line that the origin of an entry is read back from. -/
def originLine (origin : Asn) : String :=
  "origin: AS" ++ decimal origin.toNat

/-- The lines that are made of the key of an entry. -/
def keyLines (entry : RouteEntry) : List String :=
  match entry.address, entry.length with
  | some address, some length =>
      networkLine address length :: (entry.origin.map originLine).toList
  | _, _ => (entry.origin.map originLine).toList

/-! ## Plain characters -/

theorem isPlain_of_isNetworkChar {c : Char} (inNetwork : isNetworkChar c = true) :
    IsPlain c := by
  have noBlank : blanks.any isNetworkChar = false := by decide
  refine ⟨?_, ?_⟩
  · apply Bool.eq_false_iff.mpr
    intro blank
    exact List.any_eq_false.mp noBlank c (List.contains_iff_mem.mp blank) inNetwork
  · apply Bool.eq_false_iff.mpr
    intro quoting
    simp only [isQuoting, Bool.or_eq_true, beq_iff_eq] at quoting
    rcases quoting with (rfl | rfl) | rfl
    · cases inNetwork
    · cases inNetwork
    · cases inNetwork

theorem isPlain_of_mem_digits {number : Nat} {c : Char} (member : c ∈ digits 10 number) :
    IsPlain c := by
  have digit := isDigit_of_mem_digits (by decide) (by decide) number member
  exact isPlain_of_isNetworkChar (isNetworkChar_of_isDigit (isDigit_of_decimal digit))

theorem sanitize_plain {value : List Char} (plain : forall c, c ∈ value -> IsPlain c) :
    sanitize (' ' :: value) = value := by
  have trimmed : trim (' ' :: value) = value := trim_of_noBlank fun c member => (plain c member).1
  rw [sanitize, trimmed, List.filter_eq_self]
  intro c member
  rw [(plain c member).2]
  rfl

/-! ## Lines of a key -/

/-- Whether a text can be the name of an attribute as it stands. -/
structure IsName (name : List Char) : Prop where
  noBlank : name.any isBlank = false
  noColon : ':' ∉ name
  noMark : name.head?.any RouteBlock.isContinuationMark = false
  noComment : isComment name = false

theorem IsName.isBlank_eq_false {name : List Char} (isName : IsName name) {c : Char}
    (member : c ∈ name) : isBlank c = false :=
  Bool.eq_false_iff.mpr (List.any_eq_false.mp isName.noBlank c member)

theorem isName_of_network {name : List Char}
    (network : name = "route".toList ∨ name = "route6".toList) : IsName name := by
  rcases network with rfl | rfl
  · exact ⟨by decide, by decide, by decide, by decide⟩
  · exact ⟨by decide, by decide, by decide, by decide⟩

theorem isName_origin : IsName "origin".toList :=
  ⟨by decide, by decide, by decide, by decide⟩

/-- An attribute is read back from the line that is made of it. -/
theorem routeAttributeOf_written {name value : List Char} (isName : IsName name)
    (plain : forall c, c ∈ value -> IsPlain c) :
    routeAttributeOf (String.ofList (name ++ ':' :: ' ' :: value)) = some (name, value) := by
  have text : lineText (String.ofList (name ++ ':' :: ' ' :: value)) =
      name ++ ':' :: ' ' :: value := by
    rw [lineText, String.toList_ofList]
    apply dropEndWhile_of_none
    intro c member
    simp only [List.mem_append, List.mem_cons] at member
    rcases member with inside | rfl | rfl | inside
    · exact isLineEnd_of_noBlank (isName.isBlank_eq_false inside)
    · rfl
    · rfl
    · exact isLineEnd_of_noBlank (plain c inside).1
  have noMark : isContinuation (String.ofList (name ++ ':' :: ' ' :: value)) = false := by
    rw [isContinuation, text]
    cases name with
    | nil => rfl
    | cons first rest => exact isName.noMark
  rw [routeAttributeOf, noMark, text, cut_colon_append isName.noColon]
  have trimmed : trim name = name := trim_of_noBlank fun c member => isName.isBlank_eq_false member
  simp [trimmed, sanitize_plain plain]

/-- A text is no comment if it is none once it is trimmed. -/
theorem isComment_of_trim {text : List Char} (noComment : isComment (trim text) = false) :
    isComment text = false := by
  rw [trim, isComment_dropEndWhile (by decide) (by decide)] at noComment
  cases text with
  | nil => rfl
  | cons first rest =>
      by_cases blank : isBlank first = true
      · exact isComment_cons_of_not_mark (by decide) (by decide) blank rest
      · rw [Bool.not_eq_true] at blank
        rw [dropWhile_eq_self_of_head blank] at noComment
        exact noComment

/-- The line of an attribute is neither blank nor a comment. -/
theorem content_of_attribute {line : String} {name value : List Char}
    (found : routeAttributeOf line = some (name, value)) (noComment : isComment name = false) :
    isBlankLine line = false ∧ isCommentLine line = false := by
  rw [routeAttributeOf] at found
  split at found
  · cases found
  · rcases Option.map_eq_some_iff.mp found with ⟨⟨rawName, rawValue⟩, isCut, same⟩
    cases same
    have whole := append_of_cut isCut
    refine ⟨?_, ?_⟩
    · rw [isBlankLine, ← isAllBlank_trimLineEnd, ← lineText, whole, isAllBlank]
      simp [isBlank, blanks]
    · rw [isCommentLine, ← isComment_trimLineEnd, ← lineText, whole]
      have raw := isComment_of_trim noComment
      cases rawName with
      | nil => rfl
      | cons first rest =>
          rw [isComment_cons] at raw
          rw [List.append_assoc, List.cons_append, isComment_cons, raw]

theorem routeAttributeOf_networkLine (network : Network) :
    routeAttributeOf (networkLine network.addressText network.length) =
      some ("route".toList, network.text) := by
  have written : networkLine network.addressText network.length =
      String.ofList ("route".toList ++ ':' :: ' ' :: network.text) := by
    simp [networkLine, Network.text, decimal, ← String.toList_inj]
  rw [written]
  apply routeAttributeOf_written (isName_of_network (Or.inl rfl))
  intro c member
  exact isPlain_of_isNetworkChar (isNetworkChar_of_spelled (Network.spelled_text network) member)

theorem routeAttributeOf_originLine (origin : Asn) :
    routeAttributeOf (originLine origin) =
      some ("origin".toList, 'A' :: 'S' :: digits 10 origin.toNat) := by
  have written : originLine origin =
      String.ofList ("origin".toList ++ ':' :: ' ' :: 'A' :: 'S' :: digits 10 origin.toNat) := by
    simp [originLine, decimal, ← String.toList_inj]
  rw [written]
  apply routeAttributeOf_written isName_origin
  intro c member
  simp only [List.mem_cons] at member
  rcases member with rfl | rfl | digit
  · exact ⟨by decide, by decide⟩
  · exact ⟨by decide, by decide⟩
  · exact isPlain_of_mem_digits digit

/-! ## Lines that give a network or an origin -/

section
variable {line : String} {network : Network}

theorem networkOf_eq_some_iff :
    networkOf line = some network <->
      exists name value, routeAttributeOf line = some (name, value) ∧
        (name = "route".toList ∨ name = "route6".toList) ∧ Network.Spelled value network := by
  constructor
  · intro gives
    rcases Option.bind_eq_some_iff.mp gives with ⟨⟨name, value⟩, found, read⟩
    simp only at read
    split at read
    · next isNetwork =>
        exact ⟨name, value, found, isNetwork, Network.read_eq_some_iff.mp read⟩
    · cases read
  · rintro ⟨name, value, found, isNetwork, spelled⟩
    rw [networkOf_of_attribute found, if_pos isNetwork]
    exact Network.read_eq_some_iff.mpr spelled

/-- A line that gives a network gives nothing else. -/
theorem only_network_of_networkOf (gives : networkOf line = some network) :
    isBlankLine line = false ∧ isCommentLine line = false ∧ originOf line = none ∧
      forall before, describedBy before line = none := by
  rcases networkOf_eq_some_iff.mp gives with ⟨name, value, found, isNetwork, _⟩
  have content := content_of_attribute found (isName_of_network isNetwork).noComment
  have notOrigin : name ≠ "origin".toList := by
    rcases isNetwork with rfl | rfl <;> decide
  have notDescription : name ≠ "descr".toList := by
    rcases isNetwork with rfl | rfl <;> decide
  refine ⟨content.1, content.2, ?_, ?_⟩
  · rw [originOf_of_attribute found, if_neg notOrigin]
  · intro before
    simp only [describedBy, found, if_neg notDescription]

end

theorem networkOf_networkLine (network : Network) :
    networkOf (networkLine network.addressText network.length) = some network :=
  networkOf_eq_some_iff.mpr ⟨_, _, routeAttributeOf_networkLine network, Or.inl rfl,
    Network.spelled_text network⟩

/-- The line of an origin gives that origin and nothing else. -/
theorem only_origin_originLine (origin : Asn) :
    isBlankLine (originLine origin) = false ∧ isCommentLine (originLine origin) = false ∧
      originOf (originLine origin) = some origin ∧ networkOf (originLine origin) = none ∧
        forall before, describedBy before (originLine origin) = none := by
  have found := routeAttributeOf_originLine origin
  have content := content_of_attribute found isName_origin.noComment
  have plain : trim (digits 10 origin.toNat) = digits 10 origin.toNat :=
    trim_of_noBlank fun c member => (isPlain_of_mem_digits member).1
  refine ⟨content.1, content.2, ?_, ?_, ?_⟩
  · rw [originOf_of_attribute found, if_pos rfl, readOrigin, if_pos (by decide), plain,
      read_digits_asn]
  · rw [networkOf_of_attribute found, if_neg (by decide)]
  · intro before
    simp only [describedBy, found, if_neg (by decide : "origin".toList ≠ "descr".toList)]

/-! ## Entries read back -/

theorem routeEntries_networkOf {line : String} {network : Network}
    (gives : networkOf line = some network) :
    routeEntries [line] = [⟨some network.addressText, some network.length, none, none⟩] := by
  rcases only_network_of_networkOf gives with ⟨notBlank, noComment, noOrigin, noDescription⟩
  rw [routeEntries_of_content fun other member =>
    List.mem_singleton.mp member ▸ ⟨notBlank, noComment⟩]
  simp [contentEntry, lastRead, gives, noOrigin, descriptionParts, noDescription, joinedText]

theorem routeEntries_keyLines {entry : RouteEntry} {network : Network}
    (has : entry.Has network) :
    routeEntries (keyLines entry) = [{ entry with description := none }] := by
  rcases entry with ⟨address, length, origin, description⟩
  rcases has with ⟨isAddress, isLength⟩
  cases isAddress
  cases isLength
  have gives := networkOf_networkLine network
  cases origin with
  | none => exact routeEntries_networkOf gives
  | some origin =>
      rcases only_network_of_networkOf gives with ⟨notBlank, noComment, noOrigin, noDescription⟩
      rcases only_origin_originLine origin with
        ⟨notBlank', noComment', givesOrigin, noNetwork, noDescription'⟩
      have content : forall line, line ∈ keyLines
          ⟨some network.addressText, some network.length, some origin, description⟩ ->
            isBlankLine line = false ∧ isCommentLine line = false := by
        intro line member
        simp only [keyLines, Option.map_some, Option.toList_some, List.mem_cons,
          List.not_mem_nil, or_false] at member
        rcases member with rfl | rfl
        · exact ⟨notBlank, noComment⟩
        · exact ⟨notBlank', noComment'⟩
      rw [routeEntries_of_content content]
      simp [keyLines, contentEntry, lastRead, gives, noOrigin, givesOrigin, noNetwork,
        descriptionParts, noDescription, noDescription', joinedText]

theorem key_eq_key_iff {network other : Network} {origin otherOrigin : Asn} :
    RouteKey.of network.addressText network.length origin =
        RouteKey.of other.addressText other.length otherOrigin <->
      network = other ∧ origin = otherOrigin := by
  constructor
  · intro same
    have row : routeRow ⟨some network.addressText, some network.length, some origin, none⟩ =
        some (.of other.addressText other.length otherOrigin, none) :=
      congrArg (fun key => some (key, none)) same
    have entries := routeRow_eq_some_iff.mp row
    simp only [RouteEntry.mk.injEq, Option.some.injEq, and_true] at entries
    exact ⟨Network.texts_eq_iff.mp ⟨entries.1, entries.2.1⟩, entries.2.2⟩
  · rintro ⟨rfl, rfl⟩
    rfl

/-- An entry of a dump has the network of one of its lines, with a length that the family of
the address allows, and the lines of its key give it again without its description.  A line
gives a network exactly if its attribute is a `route` or a `route6` and its value writes that
network, in whichever way.  Lines, and entries, agree in address and length exactly if their
networks are the same, bits beyond the length included, and keys are the same exactly if the
origins are the same too.  The text of an IPv6 address is the one in which the first of the
longest runs of zero groups is left out. -/
theorem route_keys_are_canonical :
    (forall lines entry, entry ∈ routeEntries lines ->
      (exists line network, line ∈ lines ∧ networkOf line = some network ∧ entry.Has network) ∧
      (exists address length, entry.address = some address ∧ entry.length = some length ∧
        ((Ipv4.IsText address.toList ∧ ¬ Ipv6.IsText address.toList ∧ length.toNat ≤ 32) ∨
          (Ipv6.IsText address.toList ∧ ¬ Ipv4.IsText address.toList ∧ length.toNat ≤ 128))) ∧
      routeEntries (keyLines entry) = [{ entry with description := none }]) ∧
    (forall line network, networkOf line = some network <->
      exists name value, routeAttributeOf line = some (name, value) ∧
        (name = "route".toList ∨ name = "route6".toList) ∧ Network.Spelled value network) ∧
    (forall line other network otherNetwork,
      networkOf line = some network -> networkOf other = some otherNetwork ->
        (routeEntries [line] = routeEntries [other] <-> network = otherNetwork)) ∧
    (forall entry other network otherNetwork, RouteEntry.Has entry network ->
      RouteEntry.Has other otherNetwork ->
        ((entry.address = other.address ∧ entry.length = other.length) <->
          network = otherNetwork)) ∧
    (forall (network other : Network) (origin otherOrigin : Asn),
      RouteKey.of network.addressText network.length origin =
          RouteKey.of other.addressText other.length otherOrigin <->
        network = other ∧ origin = otherOrigin) ∧
    (forall (address : Ipv6) (length : Fin 129) (text : List Char),
      (Network.v6 address length).addressText.toList = text <-> Ipv6.Canonical address text) := by
  refine ⟨?_, ?_, ?_, ?_, ?_, ?_⟩
  · intro lines entry member
    rcases exists_network_of_mem_routeEntries member with ⟨line, network, inLines, gives, has⟩
    exact ⟨⟨line, network, inLines, gives, has⟩,
      ⟨_, _, has.address, has.length, network.length_le_of_family⟩, routeEntries_keyLines has⟩
  · intro line network
    exact networkOf_eq_some_iff
  · intro line other network otherNetwork gives givesOther
    rw [routeEntries_networkOf gives, routeEntries_networkOf givesOther]
    simp only [List.cons.injEq, RouteEntry.mk.injEq, Option.some.injEq, and_true]
    exact Network.texts_eq_iff
  · intro entry other network otherNetwork has hasOther
    rw [has.address, has.length, hasOther.address, hasOther.length, Option.some.injEq,
      Option.some.injEq]
    exact Network.texts_eq_iff
  · intro network other origin otherOrigin
    exact key_eq_key_iff
  · intro address length text
    rw [Network.addressText, String.toList_ofList, Ipv6.canonical_iff]
    exact eq_comm

/-- A network that two lines of a dump spell differently. -/
def respelledNetwork : Network :=
  .v6 ⟨[0x2001, 0xdb8, 0, 0, 0, 0, 0, 1], rfl⟩ 32

/-- A dump with two objects of one network. -/
def respelledDump : List String :=
  ["route6: 2001:DB8:0:0::1/32\r\n", "origin: as64500\n", "\n",
    "route: 2001:0db8::0.0.0.1/032\n", "descr: again\n"]

/-- The entry of the first object of the dump. -/
def respelledEntry : RouteEntry :=
  ⟨some "2001:db8::1", some 32, some 64500, none⟩

/-- The entry of the second object of the dump, which has no origin. -/
def describedEntry : RouteEntry :=
  ⟨some "2001:db8::1", some 32, none, some "again"⟩

/-- Both lines give the network that is read back from the key of the first object. -/
theorem respelled_network_has_one_key :
    routeEntries respelledDump = [respelledEntry, describedEntry] ∧
      routeEntries ["route: 2001:db8::1/32", "origin: AS64500"] = [respelledEntry] ∧
      networkOf "route6: 2001:DB8:0:0::1/32\r\n" = some respelledNetwork ∧
      networkOf "route: 2001:0db8::0.0.0.1/032\n" = some respelledNetwork ∧
      routeEntries ["route6: 2001:DB8:0:0::1/32\r\n"] =
        routeEntries ["route: 2001:0db8::0.0.0.1/032\n"] ∧
      respelledEntry.Has respelledNetwork ∧ describedEntry.Has respelledNetwork ∧
      respelledEntry.address = describedEntry.address ∧
      respelledEntry.length = describedEntry.length := by
  have read : routeEntries respelledDump = [respelledEntry, describedEntry] := by decide
  have gives : networkOf "route6: 2001:DB8:0:0::1/32\r\n" = some respelledNetwork := by decide
  have again : networkOf "route: 2001:0db8::0.0.0.1/032\n" = some respelledNetwork := by decide
  have has : respelledEntry.Has respelledNetwork := ⟨by decide, by decide⟩
  have hasToo : describedEntry.Has respelledNetwork := ⟨by decide, by decide⟩
  have entries := route_keys_are_canonical.1 respelledDump respelledEntry
    (read ▸ List.mem_cons_self)
  have lines := route_keys_are_canonical.2.2.1 _ _ _ _ gives again
  have texts := route_keys_are_canonical.2.2.2.1 _ _ _ _ has hasToo
  exact ⟨read, entries.2.2, gives, again, lines.mpr rfl, has, hasToo, texts.mpr rfl⟩

end Rpsl
end AsCensus
