import AsCensus.Proofs.TransitMethods

namespace AsCensus
namespace Job

open Store

/-!
# Counts of a pool

A worker asks for the systems of its batch one after the other, over a connection of its own,
and what all workers found is sorted into counts and failures in the end.  The reference is one
loop over all systems that sorts each answer at once (`answersInTurn`).  It is the same because
a batch is asked for system by system, and because the batches put together are the list again,
in its order and with its repetitions.

Nothing of this depends on what the answers are, and so it is proved for answers of any kind,
some of which may fail (`pool_answers_in_turn`).  What the loop has found is described by the
systems that it has asked for (`Tells`): one more system, whatever the answer is, keeps the
description (`Tells.note`).

The answers of a database are one case (`countInTurn`).  Here an answer fails only if there is no
connection or if a table is missing (`Unanswered`).  Neither depends on the system, so that
either all systems are counted or all of them fail.
-/

variable {connection : Option Database} {family : AddressFamily} {asn : Asn}

/-- What a worker learns about a system over its connection. -/
def ask (connection : Option Database) (family : AddressFamily) (asn : Asn) : Option Nat :=
  connection.bind fun db => db.transitCountOf asn family

/-- Take note of the answer about a system. -/
def PoolResult.note (result : PoolResult) (asn : Asn) : Option Nat -> PoolResult
  | some count => { result with tally := result.tally.add asn count }
  | none => { result with failed := result.failed ++ [asn] }

/-- Sort answers about systems one after the other, without any workers. -/
def answersInTurn (answer : Asn -> Option Nat) (asns : List Asn) : PoolResult :=
  asns.foldl (fun result asn => result.note asn (answer asn)) ⟨.empty, []⟩

/-- What a pool of workers gathers, if there is an answer of some kind about each system. -/
def answersOfPool (answer : Asn -> Option Nat) (asns : List Asn) (workers : Nat) : PoolResult :=
  gather ((batches (chunkSize asns.length workers) asns).flatMap
    (List.map fun asn => (asn, answer asn)))

/-- Ask for systems one after the other, without any workers. -/
def countInTurn (connection : Option Database) (family : AddressFamily) (asns : List Asn) :
    PoolResult :=
  answersInTurn (ask connection family) asns

/-- Why no system is counted over a connection. -/
inductive Unanswered : Option Database -> Prop
  | unreachable : Unanswered none
  | noRib {db : Database} (missing : db.rib = none) : Unanswered (some db)
  | noAnalysis {db : Database} (missing : db.analysis = none) : Unanswered (some db)

/-- What a result tells of the systems that were asked for. -/
structure Tells (answer : Asn -> Option Nat) (asns : List Asn) (result : PoolResult) : Prop where
  failed : result.failed = asns.filter fun asn => (answer asn).isNone
  mentions : forall asn, asn ∈ result.tally.counts <-> asn ∈ asns ∧ (answer asn).isSome
  counts : forall asn count, answer asn = some count ->
    result.tally.get asn = asns.count asn * count

theorem ask_eq_none_iff : ask connection family asn = none <-> Unanswered connection := by
  constructor
  · intro failed
    cases connection with
    | none => exact .unreachable
    | some db =>
        cases hasRib : db.rib with
        | none => exact .noRib hasRib
        | some rib =>
            cases hasAnalysis : db.analysis with
            | none => exact .noAnalysis hasAnalysis
            | some analysis =>
                have counted : ask (some db) family asn = some _ :=
                  transitCountOf_eq hasRib hasAnalysis asn family
                rw [counted] at failed
                cases failed
  · intro fails
    cases fails with
    | unreachable => rfl
    | @noRib db missing =>
        change db.transitCountOf asn family = none
        rw [Database.transitCountOf, missing]
        cases db.analysis <;> rfl
    | @noAnalysis db missing =>
        change db.transitCountOf asn family = none
        rw [Database.transitCountOf, missing]
        rfl

/-! ## One answer more -/

theorem tells_nothing (answer : Asn -> Option Nat) : Tells answer [] ⟨.empty, []⟩ where
  failed := rfl
  mentions asn := by simp [Tally.not_mem_empty]
  counts asn count _ := by simp [Tally.get_empty]

section
variable {answer : Asn -> Option Nat} {asns : List Asn} {result : PoolResult} {next : Asn}

/-- A system without an answer is not counted, and the tally stays as it is. -/
theorem Tells.note_unanswered (tells : Tells answer asns result) (unanswered : answer next = none) :
    Tells answer (asns ++ [next]) { result with failed := result.failed ++ [next] } where
  failed := by
    rw [List.filter_append, tells.failed]
    simp [unanswered]
  mentions asn := by
    rw [tells.mentions, List.mem_append, List.mem_singleton]
    constructor
    · intro ⟨asked, counted⟩
      exact ⟨Or.inl asked, counted⟩
    · rintro ⟨asked | rfl, counted⟩
      · exact ⟨asked, counted⟩
      · rw [unanswered] at counted
        cases counted
  counts asn count counted := by
    have other : next ≠ asn := by
      rintro rfl
      rw [unanswered] at counted
      cases counted
    rw [tells.counts asn count counted, List.count_append, List.count_singleton]
    simp [other]

theorem Tells.note_answered {number : Nat} (tells : Tells answer asns result)
    (answered : answer next = some number) :
    Tells answer (asns ++ [next]) { result with tally := result.tally.add next number } where
  failed := by
    rw [List.filter_append, tells.failed]
    simp [answered]
  mentions asn := by
    rw [Tally.mem_add, tells.mentions, List.mem_append, List.mem_singleton]
    constructor
    · rintro (rfl | ⟨asked, counted⟩)
      · exact ⟨Or.inr rfl, by rw [answered]; rfl⟩
      · exact ⟨Or.inl asked, counted⟩
    · rintro ⟨asked | rfl, counted⟩
      · exact Or.inr ⟨asked, counted⟩
      · exact Or.inl rfl
  counts asn count counted := by
    have before := tells.counts asn count counted
    rw [Tally.get_add, List.count_append, List.count_singleton]
    by_cases same : next = asn
    · subst same
      rw [answered] at counted
      cases counted
      simp [before, Nat.succ_mul]
    · simp [before, same]

theorem Tells.note (tells : Tells answer asns result) (next : Asn) :
    Tells answer (asns ++ [next]) (result.note next (answer next)) := by
  cases answered : answer next with
  | none => exact tells.note_unanswered answered
  | some number => exact tells.note_answered answered

end

theorem answersInTurn_concat (answer : Asn -> Option Nat) (asns : List Asn) (next : Asn) :
    answersInTurn answer (asns ++ [next]) =
      (answersInTurn answer asns).note next (answer next) := by
  unfold answersInTurn
  rw [List.foldl_append]
  rfl

/-- The loop tells what was answered about each system. -/
theorem answersInTurn_tells (answer : Asn -> Option Nat) (asns : List Asn) :
    Tells answer asns (answersInTurn answer asns) := by
  induction asns using List.reverseRecOn with
  | nil => exact tells_nothing answer
  | append_singleton asns next ih =>
      rw [answersInTurn_concat]
      exact ih.note next

/-! ## The workers -/

/-- One more answer is sorted as the loop sorts it. -/
theorem gather_concat (results : List (Asn × Option Nat)) (asn : Asn) (count : Option Nat) :
    gather (results ++ [(asn, count)]) = (gather results).note asn count := by
  cases count with
  | none => simp [gather, PoolResult.note]
  | some count => simp [gather, PoolResult.note, Tally.ofList, Tally.addAll]

theorem gather_map (answer : Asn -> Option Nat) (asns : List Asn) :
    gather (asns.map fun asn => (asn, answer asn)) = answersInTurn answer asns := by
  induction asns using List.reverseRecOn with
  | nil => rfl
  | append_singleton asns next ih =>
      rw [answersInTurn_concat, ← ih, ← gather_concat, List.map_append]
      rfl

/-- Whatever is answered about each system, the workers leave no trace: a pool sorts the answers
as one loop does, into the systems that failed and the counts of all others. -/
theorem pool_answers_in_turn (answer : Asn -> Option Nat) (asns : List Asn) :
    (forall workers, answersOfPool answer asns workers = answersInTurn answer asns) ∧
      Tells answer asns (answersInTurn answer asns) := by
  constructor
  · intro workers
    rw [answersOfPool, flatMap_map_batches (chunkSize_pos asns.length workers), gather_map]
  · exact answersInTurn_tells answer asns

/-- A system without an answer fails as often as it is asked for, between others that do not. -/
example :
    answersOfPool (fun asn => if asn = 174 then none else some 2) [3356, 174, 3356, 174, 1299] 2 =
      ⟨.ofList [(3356, 4), (1299, 2)], [174, 174]⟩ := by
  decide

/-- Whatever the number of workers is, a pool finds what one loop finds.  It fails for the
systems without an answer, in the order and with the repetitions of the request, mentions all
others, also those with no networks, and counts what was answered about a system as often as
it was asked for.

The batches of the workers are the request again, no more of them than workers, and the answer
about each system stays with it.  Without a connection or without a table nothing is
counted, and otherwise nothing fails. -/
theorem pool_counts_in_turn (target : Target) (db : Database) (family : AddressFamily)
    (asns : List Asn) :
    exists result,
      (forall workers, countTransit (target.view db) family asns workers = result) ∧
      countInTurn (target.view db) family asns = result ∧
      result.failed = (asns.filter fun asn => (ask (target.view db) family asn).isNone) ∧
      (forall asn, asn ∈ result.tally.counts <->
        asn ∈ asns ∧ (ask (target.view db) family asn).isSome) ∧
      (forall asn count, ask (target.view db) family asn = some count ->
        result.tally.get asn = asns.count asn * count) ∧
      (forall workers,
        (batches (chunkSize asns.length workers) asns).length ≤ max workers 1 ∧
        (batches (chunkSize asns.length workers) asns).flatten = asns ∧
        (batches (chunkSize asns.length workers) asns).flatMap
            (countChunk (target.view db) family) =
          asns.map fun asn => (asn, ask (target.view db) family asn)) ∧
      (Unanswered (target.view db) -> result.failed = asns ∧ result.tally = Tally.empty) ∧
      (¬ Unanswered (target.view db) -> result.failed = []) := by
  rcases pool_answers_in_turn (ask (target.view db) family) asns with ⟨pooled, tells⟩
  refine ⟨answersInTurn (ask (target.view db) family) asns, pooled, rfl, tells.failed,
    tells.mentions, tells.counts, ?_, ?_, ?_⟩
  · intro workers
    have together := flatten_batches (chunkSize_pos asns.length workers) asns
    exact ⟨length_batches_chunkSize asns workers, together, flatMap_countChunk _ family asns workers⟩
  · intro fails
    have silent (asn : Asn) : ask (target.view db) family asn = none := ask_eq_none_iff.mpr fails
    constructor
    · rw [tells.failed]
      simp [silent]
    · apply Tally.ext_of_get
      · intro asn
        rw [tells.mentions, silent asn]
        simp [Tally.not_mem_empty]
      · intro asn
        have absent :
            asn ∉ (answersInTurn (ask (target.view db) family) asns).tally.counts := by
          rw [tells.mentions, silent asn]
          simp
        rw [Tally.get_of_not_mem absent, Tally.get_empty]
  · intro answers
    rw [tells.failed, List.filter_eq_nil_iff]
    intro asn _ none
    exact answers (ask_eq_none_iff.mp (Option.isNone_iff_eq_none.mp none))

/-- A system that is asked for twice counts twice, one that provides no transit is counted with
zero, and workers without the database of the run count nothing. -/
theorem pool_counts_two_peers :
    (exists result, countTransit (Target.shared.view analysedTwoPeers) .ipv4 [3356, 174, 3356] 2 =
        result ∧ result.tally.get 3356 = 2 ∧ 174 ∈ result.tally.counts ∧ result.failed = []) ∧
      (countTransit (Target.privateMemory.view analysedTwoPeers) .ipv4 [3356, 174, 3356]
        2).failed = [3356, 174, 3356] := by
  rcases pool_counts_in_turn .shared analysedTwoPeers .ipv4 [3356, 174, 3356] with
    ⟨result, pooled, _, _, mentions, counts, _, _, answered⟩
  rcases pool_counts_in_turn .privateMemory analysedTwoPeers .ipv4 [3356, 174, 3356] with
    ⟨empty, pooledEmpty, _, _, _, _, _, unanswered, _⟩
  constructor
  · refine ⟨result, pooled 2, counts 3356 1 (by decide), (mentions 174).mpr (by decide), ?_⟩
    apply answered
    intro fails
    cases fails with
    | noRib missing => cases missing
    | noAnalysis missing => cases missing
  · rw [pooledEmpty]
    exact (unanswered (.noRib rfl)).1

end Job
end AsCensus
