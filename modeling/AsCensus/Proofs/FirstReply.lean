import AsCensus.Proofs.NamedSystems

namespace AsCensus
namespace Whois

open Text

/-!
# The registry that a lookup takes its record from

A lookup asks the registries in turn until one of them replies without failure and with a name
in the lines that are kept.  The record is read from that reply alone.  A registry before it
may have replied as it likes, with lines before a failure or with an organisation identifier
that would serve for a name in a record, and a registry after it is not asked.

What counts is the name that is collected from the lines.  The finished record would not do,
since there the identifier has already taken the place of a missing name.
-/

/-- Whether a registry replies about a system without failure and with a name in its lines. -/
def Client.RepliesWithName (client : Client) (asn : Asn) (source : Source) : Prop :=
  (client source asn).failure = none ∧
    Field.asName ∈ (Reading.start.feedAll source.family (client source asn).lines).collected

instance (client : Client) (asn : Asn) (source : Source) :
    Decidable (client.RepliesWithName asn source) :=
  inferInstanceAs (Decidable (_ ∧ _))

/-- Whether two clients cannot be told apart at a registry: both reply with the same lines
and without failure, or neither replies with a name. -/
def Client.AgreesAt (client other : Client) (asn : Asn) (source : Source) : Prop :=
  ((client source asn).lines = (other source asn).lines ∧
    (client source asn).failure = none ∧ (other source asn).failure = none) ∨
  (¬ client.RepliesWithName asn source ∧ ¬ other.RepliesWithName asn source)

instance (client other : Client) (asn : Asn) (source : Source) :
    Decidable (client.AgreesAt other asn source) :=
  inferInstanceAs (Decidable (_ ∨ _))

theorem mem_collected_iff {reading : Reading} {field : Field} :
    field ∈ reading.collected <-> reading.record.contains field = true := by
  simp [Reading.collected, Field.mem_all]

section
variable {client : Client} {asn : Asn} {source : Source}

theorem repliesWithName_iff :
    client.RepliesWithName asn source <->
      (client source asn).failure = none ∧
        keptNames source.family (client source asn).lines ≠ [] := by
  rw [Client.RepliesWithName, mem_collected_iff, Record.contains, get_asName_feedAll,
    isSome_fieldText_iff]

theorem answer_of_repliesWithName (named : client.RepliesWithName asn source) :
    client.answer asn source =
      some ((parse source.family (client source asn).lines).set .source source.name) := by
  rcases named with ⟨whole, collected⟩
  rw [mem_collected_iff] at collected
  simp only [Client.answer, Client.query, whole, collected, parse]
  rfl

theorem answer_eq_none_iff :
    client.answer asn source = none <-> ¬ client.RepliesWithName asn source := by
  rw [repliesWithName_iff, ← isSome_answer_iff, Option.not_isSome_iff_eq_none]

theorem answer_eq_of_agreesAt {other : Client} (agrees : client.AgreesAt other asn source) :
    other.answer asn source = client.answer asn source := by
  rcases agrees with ⟨sameLines, whole, otherWhole⟩ | ⟨silent, otherSilent⟩
  · simp only [Client.answer, Client.query, whole, otherWhole, sameLines]
  · rw [answer_eq_none_iff.mpr silent, answer_eq_none_iff.mpr otherSilent]

/-- Registries that do not reply with a name are asked and leave nothing. -/
theorem lookupAmong_append {before : List Source}
    (silent : forall earlier, earlier ∈ before -> ¬ client.RepliesWithName asn earlier)
    (rest : List Source) :
    client.lookupAmong asn (before ++ rest) =
      ⟨(client.lookupAmong asn rest).record, before ++ (client.lookupAmong asn rest).asked⟩ := by
  induction before with
  | nil => rfl
  | cons first before ih =>
      have none := answer_eq_none_iff.mpr (silent first List.mem_cons_self)
      have later := ih fun earlier member => silent earlier (List.mem_cons_of_mem _ member)
      rw [List.cons_append, Client.lookupAmong, none, later]
      rfl

theorem lookupAmong_of_silent {sources : List Source}
    (silent : forall source, source ∈ sources -> ¬ client.RepliesWithName asn source) :
    client.lookupAmong asn sources = ⟨none, sources⟩ := by
  have whole := lookupAmong_append silent []
  rw [List.append_nil] at whole
  rw [whole, Client.lookupAmong, List.append_nil]

theorem lookupAmong_cons_of_repliesWithName (named : client.RepliesWithName asn source)
    (after : List Source) :
    client.lookupAmong asn (source :: after) =
      ⟨some ((parse source.family (client source asn).lines).set .source source.name),
        [source]⟩ := by
  rw [Client.lookupAmong, answer_of_repliesWithName named]

/-- A lookup depends on the registries that it asks only. -/
theorem lookupAmong_congr {other : Client} {sources : List Source}
    (agree : forall source, source ∈ (client.lookupAmong asn sources).asked ->
      client.AgreesAt other asn source) :
    other.lookupAmong asn sources = client.lookupAmong asn sources := by
  induction sources with
  | nil => rfl
  | cons first rest ih =>
      rw [Client.lookupAmong] at agree
      rw [Client.lookupAmong, Client.lookupAmong]
      cases answers : client.answer asn first with
      | some record =>
          rw [answers] at agree
          rw [answer_eq_of_agreesAt (agree first List.mem_cons_self), answers]
      | none =>
          rw [answers] at agree
          rw [answer_eq_of_agreesAt (agree first List.mem_cons_self), answers]
          have later := ih fun source member => agree source (List.mem_cons_of_mem _ member)
          rw [later]

end

/-- A lookup takes its record from the first registry that replies without failure and with a
name line, and asks each registry up to this one once and in order, or all of them if there is
none.  The record is the one of the reply's lines, with the registry's name as its source.  Two
clients are looked up alike if at each registry that is asked they reply alike without failure
or both fail to name the system. -/
theorem lookup_takes_first_named_reply (client : Client) (asn : Asn) :
    (forall source, client.RepliesWithName asn source <->
      (client source asn).failure = none ∧
        keptNames source.family (client source asn).lines ≠ []) ∧
    ((forall source, ¬ client.RepliesWithName asn source) ->
      client.lookup asn = ⟨none, Source.all⟩) ∧
    (forall before source after, Source.all = before ++ source :: after ->
      (forall earlier, earlier ∈ before -> ¬ client.RepliesWithName asn earlier) ->
      client.RepliesWithName asn source ->
        exists record, client.lookup asn = ⟨some record, before ++ [source]⟩ ∧
          record.raw = (parse source.family (client source asn).lines).raw ∧
          forall field, record.get field =
            if field = .source then some source.name
            else (parse source.family (client source asn).lines).get field) ∧
    (forall other : Client,
      (forall source, source ∈ (client.lookup asn).asked -> client.AgreesAt other asn source) ->
        other.lookup asn = client.lookup asn) := by
  refine ⟨fun _ => repliesWithName_iff, ?_, ?_, fun _ => lookupAmong_congr⟩
  · intro silent
    exact lookupAmong_of_silent fun source _ => silent source
  · intro before source after shape silent named
    refine ⟨(parse source.family (client source asn).lines).set .source source.name, ?_,
      Record.raw_set _ _ _, ?_⟩
    · rw [Client.lookup, shape, lookupAmong_append silent,
        lookupAmong_cons_of_repliesWithName named]
    · intro field
      rw [Record.get_set]
      simp only [eq_comm]

/-- A client of registries of which the first one fails after its name line, and the second one
knows the organisation only. -/
def clientOfThird : Client := fun source _ =>
  match source with
  | .arin => ⟨["ASName: LOST"], some (.refused "timed out")⟩
  | .ripe => ⟨["org: ORG-EX1-RIPE"], none⟩
  | .apnic => ⟨["aut-num: AS13335", "as-name: CLOUDFLARENET"], none⟩
  | _ => ⟨["as-name: LATER"], none⟩

/-- A client with the same third registry and without lines from the first two. -/
def clientOfThirdOnly : Client := fun source asn =>
  if source = .arin ∨ source = .ripe then ⟨[], none⟩ else clientOfThird source asn

/-- The third registry is taken, and what the first two sent does not matter. -/
theorem third_registry_is_taken :
    Source.all = [.arin, .ripe] ++ .apnic :: [.afrinic, .lacnic, .ntt] ∧
      clientOfThird.RepliesWithName 13335 .apnic ∧
      ((parse .ripeLike (clientOfThird .ripe 13335).lines).get .asName).isSome = true ∧
      exists record, clientOfThird.lookup 13335 = ⟨some record, [.arin, .ripe, .apnic]⟩ ∧
        record.get .asName = some "CLOUDFLARENET" ∧ record.get .source = some "apnic" ∧
        record.get .orgId = none ∧
        clientOfThirdOnly.lookup 13335 = ⟨some record, [.arin, .ripe, .apnic]⟩ := by
  have shape : Source.all = [.arin, .ripe] ++ .apnic :: [.afrinic, .lacnic, .ntt] := rfl
  have silent : forall earlier, earlier ∈ [Source.arin, Source.ripe] ->
      ¬ clientOfThird.RepliesWithName 13335 earlier := by decide
  have named : clientOfThird.RepliesWithName 13335 .apnic := by decide
  have agrees : forall source, source ∈ [Source.arin, .ripe, .apnic] ->
      clientOfThird.AgreesAt clientOfThirdOnly 13335 source := by decide
  refine ⟨shape, named, by decide, ?_⟩
  rcases lookup_takes_first_named_reply clientOfThird 13335 with ⟨_, _, first, alike⟩
  rcases first _ _ _ shape silent named with ⟨record, asked, _, texts⟩
  have found : clientOfThird.lookup 13335 = ⟨some record, [.arin, .ripe, .apnic]⟩ := asked
  refine ⟨record, found, ?_, texts .source, ?_, ?_⟩
  · rw [texts]
    decide
  · rw [texts]
    decide
  · rw [← found]
    apply alike
    intro source member
    rw [found] at member
    exact agrees source member

end Whois
end AsCensus
