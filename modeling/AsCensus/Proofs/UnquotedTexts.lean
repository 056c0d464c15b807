import AsCensus.Proofs.AddressText
import AsCensus.Proofs.CompletedRecords
import AsCensus.Proofs.NamedSystems
import AsCensus.Proofs.RouteKeys
import AsCensus.Proofs.SanitizedValues

namespace AsCensus

/-!
# Texts without quotes

Texts enter a record or an entry in many ways: as a first value, as one more line, in place of
an earlier country, by a line that goes on with a description, as a line of the address, as the
identifier of the organisation, as the name of a registry, as the printed address of a network.
Each of them is a sanitized value, a fixed text, or made of texts that are there already by
joining and cutting.  Having no quoting character is kept by both (`unquoted_append_iff`), so it
is enough to follow the two readers line by line (`Reading.isUnquoted_feed`,
`RouteBlock.isUnquoted_step`).

The raw lines of a record are not sanitized, and nothing is said about them here.
-/

namespace Rpsl

open Text

/-- Whether a text has no quote, no double quote and no backslash. -/
def Unquoted (text : String) : Prop :=
  '\'' ∉ text.toList ∧ '"' ∉ text.toList ∧ '\\' ∉ text.toList

/-- Whether a text is unquoted, if it is there. -/
def UnquotedIfAny (text : Option String) : Prop :=
  forall present, text = some present -> Unquoted present

instance (text : String) : Decidable (Unquoted text) :=
  inferInstanceAs (Decidable (_ ∧ _ ∧ _))

theorem unquoted_of_not_isQuoting {text : String}
    (none : forall c, c ∈ text.toList -> isQuoting c = false) : Unquoted text := by
  refine ⟨?_, ?_, ?_⟩
  all_goals
    intro member
    have impossible := none _ member
    revert impossible
    decide

theorem unquoted_sanitized (value : List Char) : Unquoted (sanitized value) := by
  apply unquoted_of_not_isQuoting
  intro c member
  exact not_isQuoting_of_mem_sanitized member

theorem unquoted_append_iff {front back : String} :
    Unquoted (front ++ back) <-> Unquoted front ∧ Unquoted back := by
  unfold Unquoted
  rw [String.toList_append, List.mem_append, List.mem_append, List.mem_append]
  tauto

theorem unquotedIfAny_none : UnquotedIfAny none := by
  intro present impossible
  cases impossible

theorem unquotedIfAny_some {text : String} (unquoted : Unquoted text) :
    UnquotedIfAny (some text) := by
  intro present same
  cases same
  exact unquoted

theorem Unquoted.lastLine {text line : String} (unquoted : Unquoted text)
    (isLast : IsLastLine text line) : Unquoted line := by
  obtain ⟨-, rfl | ⟨front, rfl⟩⟩ := isLast
  · exact unquoted
  · exact (unquoted_append_iff.mp unquoted).2

theorem Unquoted.lineBeforeLast {text line : String} (unquoted : Unquoted text)
    (isBefore : IsLineBeforeLast text line) : Unquoted line := by
  obtain ⟨front, last, rfl, -, isLast⟩ := isBefore
  exact (unquoted_append_iff.mp (unquoted_append_iff.mp unquoted).1).1.lastLine isLast

end Rpsl

namespace Whois

open Rpsl

/-! ## Records -/

namespace Record

/-- Whether every field of a record is unquoted. -/
def IsUnquoted (record : Record) : Prop :=
  forall field, UnquotedIfAny (record.get field)

variable {record : Record}

theorem isUnquoted_empty : empty.IsUnquoted := by
  intro field
  have absent : empty.get field = none := by cases field <;> decide
  rw [absent]
  exact unquotedIfAny_none

theorem IsUnquoted.set (unquoted : record.IsUnquoted) (field : Field) {text : String}
    (clean : Unquoted text) : (record.set field text).IsUnquoted := by
  intro other
  rw [get_set]
  split
  · exact unquotedIfAny_some clean
  · exact unquoted other

/-- A value that is added to a field is sanitized, whether it stands alone, follows others or
takes the place of one. -/
theorem IsUnquoted.collect (unquoted : record.IsUnquoted) (field : Field) (value : List Char) :
    (record.collect field (sanitized value)).IsUnquoted := by
  apply unquoted.set
  unfold collectedText
  split
  · exact unquoted_sanitized value
  · next text present =>
      split
      · exact unquoted_sanitized value
      · apply unquoted_append_iff.mpr
        refine ⟨unquoted_append_iff.mpr ⟨unquoted field text present, by decide⟩, ?_⟩
        exact unquoted_sanitized value

theorem IsUnquoted.hint (unquoted : record.IsUnquoted) (field : Field) :
    UnquotedIfAny (record.hint field) := by
  intro text hinted
  unfold Record.hint at hinted
  split at hinted
  · obtain ⟨address, present, line⟩ := Option.bind_eq_some_iff.mp hinted
    exact (unquoted .address address present).lastLine (lineFromEnd_zero_eq_some_iff.mp line)
  · obtain ⟨address, present, line⟩ := Option.bind_eq_some_iff.mp hinted
    exact (unquoted .address address present).lineBeforeLast (lineFromEnd_one_eq_some_iff.mp line)
  · exact unquoted .orgId text hinted
  · cases hinted

theorem IsUnquoted.complete (unquoted : record.IsUnquoted) : record.complete.IsUnquoted := by
  intro field text present
  rw [get_complete] at present
  rcases Option.or_eq_some_iff.mp present with old | ⟨-, added⟩
  · exact unquoted field text old
  · exact unquoted.hint field text added

end Record

namespace Reading

variable {family : Family} {reading : Reading}

theorem isUnquoted_collect (unquoted : reading.record.IsUnquoted) (name value : List Char) :
    (reading.collect family name value).record.IsUnquoted := by
  unfold collect
  split
  · exact unquoted
  · split
    · exact unquoted
    · dsimp only
      split
      · exact unquoted.collect _ value
      · exact unquoted

/-- Reading one line keeps the fields unquoted. -/
theorem isUnquoted_feed (unquoted : reading.record.IsUnquoted) (line : String) :
    (reading.feed family line).record.IsUnquoted := by
  unfold feed
  dsimp only
  split
  · exact unquoted
  · unfold passBlank
    split
    · exact unquoted
    · exact unquoted
  · exact unquoted
  · apply isUnquoted_collect
    split
    · exact Record.isUnquoted_empty
    · exact unquoted

theorem isUnquoted_feedAll (unquoted : reading.record.IsUnquoted) (lines : List String) :
    (reading.feedAll family lines).record.IsUnquoted := by
  induction lines generalizing reading with
  | nil => exact unquoted
  | cons line rest ih => exact ih (isUnquoted_feed unquoted line)

theorem isUnquoted_finish (unquoted : reading.record.IsUnquoted) : reading.finish.IsUnquoted := by
  apply Record.IsUnquoted.complete
  intro field
  exact unquoted field

end Reading

theorem isUnquoted_answer {client : Client} {asn : Asn} {source : Source} {record : Record}
    (answers : client.answer asn source = some record) : record.IsUnquoted := by
  have named : Unquoted source.name := by cases source <;> decide
  have read : (client.query source asn).record.IsUnquoted :=
    Reading.isUnquoted_feedAll Record.isUnquoted_empty _
  unfold Client.answer at answers
  dsimp only at answers
  split at answers
  · cases answers
    exact (Reading.isUnquoted_finish read).set .source named
  · cases answers

/-- Whatever a client replies, the record of a lookup is unquoted. -/
theorem isUnquoted_lookup {client : Client} {asn : Asn} {record : Record}
    (found : (client.lookup asn).record = some record) : record.IsUnquoted := by
  rw [Client.lookup, record_lookupAmong] at found
  obtain ⟨source, -, answers⟩ := List.exists_of_findSome?_eq_some found
  exact isUnquoted_answer answers

end Whois

namespace Rpsl

open Text
open Net

/-! ## Route entries -/

/-- Whether the texts of an entry are unquoted. -/
structure RouteEntry.IsUnquoted (entry : RouteEntry) : Prop where
  address : UnquotedIfAny entry.address
  description : UnquotedIfAny entry.description

theorem unquoted_addressText (network : Network) : Unquoted network.addressText := by
  apply unquoted_of_not_isQuoting
  intro c member
  have inText : c ∈ network.text := List.mem_append_left _ member
  exact (isPlain_of_isNetworkChar (isNetworkChar_of_spelled network.spelled_text inText)).2

namespace RouteBlock

variable {block : RouteBlock}

theorem isUnquoted_fresh : fresh.entry.IsUnquoted :=
  ⟨unquotedIfAny_none, unquotedIfAny_none⟩

theorem unquoted_describe {present : Option String} (unquoted : UnquotedIfAny present)
    (value : List Char) : Unquoted (describe present (sanitized value)) := by
  unfold describe
  split
  · exact unquoted_sanitized value
  · next text =>
      apply unquoted_append_iff.mpr
      refine ⟨unquoted_append_iff.mpr ⟨unquoted text rfl, by decide⟩, ?_⟩
      exact unquoted_sanitized value

theorem isUnquoted_continuationLine (unquoted : block.entry.IsUnquoted) (value : List Char) :
    (block.continuationLine value).entry.IsUnquoted := by
  unfold continuationLine
  split
  · next text _ present =>
      have described : UnquotedIfAny (some text) := present ▸ unquoted.description
      exact ⟨unquoted.address, unquotedIfAny_some (unquoted_describe described value)⟩
  · exact unquoted

theorem isUnquoted_attributeLine (unquoted : block.entry.IsUnquoted) (name value : List Char) :
    (block.attributeLine name value).entry.IsUnquoted := by
  unfold attributeLine
  dsimp only
  split
  · exact unquoted
  · split
    · exact unquoted
    · next network _ =>
        exact ⟨unquotedIfAny_some (unquoted_addressText network), unquoted.description⟩
  · split
    · exact unquoted
    · exact ⟨unquoted.address, unquoted.description⟩
  · exact ⟨unquoted.address, unquotedIfAny_some (unquoted_describe unquoted.description value)⟩

theorem isUnquoted_contentLine (unquoted : block.entry.IsUnquoted) (line : List Char) :
    (block.contentLine line).entry.IsUnquoted := by
  unfold contentLine
  split
  · exact unquoted
  · split
    · exact isUnquoted_continuationLine unquoted _
    · split
      · exact unquoted
      · exact isUnquoted_attributeLine unquoted _ _

theorem isUnquoted_close (unquoted : block.entry.IsUnquoted) {entry : RouteEntry}
    (closed : block.close = some entry) : entry.IsUnquoted := by
  unfold close at closed
  split at closed
  · cases closed
    exact unquoted
  · cases closed

/-- Reading one line keeps the entry unquoted, and the entry that it may give out is. -/
theorem isUnquoted_step (unquoted : block.entry.IsUnquoted) (line : String) :
    (block.step line).1.entry.IsUnquoted ∧
      forall entry, (block.step line).2 = some entry -> entry.IsUnquoted := by
  unfold step
  dsimp only
  split
  · refine ⟨unquoted, ?_⟩
    intro entry impossible
    cases impossible
  · split
    · exact ⟨isUnquoted_fresh, fun entry => isUnquoted_close unquoted⟩
    · refine ⟨isUnquoted_contentLine unquoted _, ?_⟩
      intro entry impossible
      cases impossible

end RouteBlock

theorem isUnquoted_of_mem_emissionsFrom {block : RouteBlock} (unquoted : block.entry.IsUnquoted)
    {read : Nat} {lines : List String} {emission : RouteEmission}
    (member : emission ∈ emissionsFrom block read lines) : emission.entry.IsUnquoted := by
  induction lines generalizing block read with
  | nil =>
      rw [emissionsFrom, Option.mem_toList, Option.map_eq_some_iff] at member
      obtain ⟨entry, closed, rfl⟩ := member
      exact RouteBlock.isUnquoted_close unquoted closed
  | cons line rest ih =>
      obtain ⟨after, given⟩ := RouteBlock.isUnquoted_step unquoted line
      rw [emissionsFrom] at member
      split at member
      · next entry gives =>
          rcases List.mem_cons.mp member with rfl | later
          · exact given entry gives
          · exact ih after later
      · exact ih after member

/-- Whatever a dump holds, its entries are unquoted. -/
theorem isUnquoted_of_mem_routeEntries {lines : List String} {entry : RouteEntry}
    (member : entry ∈ routeEntries lines) : entry.IsUnquoted := by
  obtain ⟨emission, inEmissions, rfl⟩ := List.mem_map.mp member
  exact isUnquoted_of_mem_emissionsFrom RouteBlock.isUnquoted_fresh inEmissions

end Rpsl
end AsCensus
