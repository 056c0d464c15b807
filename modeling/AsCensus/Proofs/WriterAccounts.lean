import AsCensus.Proofs.WriterSteps

namespace AsCensus
namespace Store

open Std
open Rpsl

/-!
# The accounts of a writer

Two descriptions of a run are kept by each step.  The first one is about a part of a run: the
batches that are delivered during it and what waits after it are what waited before it and
what was queued during it, in order (`Continues`).  An entry of a lost batch is in none of
these places any more, so nothing later can write it.  The second one is about the numbers of
the writer (`Accounts`).

If nobody calls flush, each batch has one entry more than the batch size, except for what is
left in the end.  There is only one way to cut the entries like this (`batches_of_alone`).
-/

/-! ## A part of a run -/

/-- How a session goes on while some events happen, with what it delivers meanwhile. -/
structure Continues (session : Session) (events : List Event) (later : List Delivery)
    (next : Session) : Prop where
  deliveries : next.deliveries = session.deliveries ++ later
  /-- What waited and what was queued is delivered in order, or it waits. -/
  placed : later.flatMap Delivery.entries ++ next.writer.queue.toList =
    session.writer.queue.toList ++ accepted events
  /-- A row was stored before, or others stored it, or it is in a batch that was written. -/
  rows : forall key description, next.db.HoldsRoute key description ->
    session.db.HoldsRoute key description ∨
      (exists db, Event.change db ∈ events ∧ db.HoldsRoute key description) ∨
      exists delivery, delivery ∈ later ∧ delivery.isLost = false ∧
        exists entry, entry ∈ delivery.entries ∧ routeRow entry = some (key, description)

theorem Continues.refl (session : Session) : Continues session [] [] session where
  deliveries := (List.append_nil _).symm
  placed := (List.append_nil _).symm
  rows _ _ holds := Or.inl holds

theorem Continues.trans {first second third : Session} {events others : List Event}
    {later last : List Delivery} (front : Continues first events later second)
    (back : Continues second others last third) :
    Continues first (events ++ others) (later ++ last) third where
  deliveries := by rw [back.deliveries, front.deliveries, List.append_assoc]
  placed := by
    rw [List.flatMap_append, List.append_assoc, back.placed, ← List.append_assoc, front.placed,
      List.append_assoc, accepted_append]
  rows := by
    intro key description holds
    rcases back.rows key description holds with before | ⟨db, changed, held⟩ |
      ⟨delivery, delivered, written, entry⟩
    · rcases front.rows key description before with before | ⟨db, changed, held⟩ |
        ⟨delivery, delivered, written, entry⟩
      · exact Or.inl before
      · exact Or.inr (Or.inl ⟨db, List.mem_append_left _ changed, held⟩)
      · exact Or.inr (Or.inr ⟨delivery, List.mem_append_left _ delivered, written, entry⟩)
    · exact Or.inr (Or.inl ⟨db, List.mem_append_right _ changed, held⟩)
    · exact Or.inr (Or.inr ⟨delivery, List.mem_append_right _ delivered, written, entry⟩)

theorem Moves.continues {session next : Session} {event : Event}
    (moves : Moves session event next) : exists later, Continues session [event] later next := by
  cases moves with
  | @changes db byOthers =>
      subst byOthers
      refine ⟨[], (List.append_nil _).symm, (List.append_nil _).symm, ?_⟩
      intro key description holds
      exact Or.inr (Or.inl ⟨db, List.mem_singleton_self _, holds⟩)
  | waits _ _ =>
      refine ⟨[], (List.append_nil _).symm, ?_, fun _ _ holds => Or.inl holds⟩
      rw [accepted_singleton]
      exact session.toList_enqueue event
  | delivers _ _ =>
      refine ⟨[⟨session.waiting event, session.db⟩], rfl, ?_, ?_⟩
      · rw [accepted_singleton, List.flatMap_cons]
        exact List.append_nil _ |>.trans (List.append_nil _)
      · intro key description holds
        rcases holdsRoute_of_replaceRoutes holds with before | written
        · exact Or.inl before
        · exact Or.inr (Or.inr ⟨_, List.mem_singleton_self _, written⟩)

theorem continues_run (session : Session) (events : List Event) :
    exists later, Continues session events later (session.run events) := by
  refine run_induction (motive := fun events next =>
    exists later, Continues session events later next) ⟨[], .refl session⟩ ?_ events
  intro events middle event next ⟨later, front⟩ moves
  rcases moves.continues with ⟨last, back⟩
  exact ⟨later ++ last, front.trans back⟩

/-! ## The numbers -/

/-- The entries in the batches that were lost. -/
def Session.lostEntries (session : Session) : List RouteEntry :=
  (session.deliveries.filter Delivery.isLost).flatMap Delivery.entries

/-- How the numbers of a writer account for the entries that it queued. -/
structure Accounts (batchSize : Nat) (events : List Event) (session : Session) : Prop where
  size : session.writer.batchSize = batchSize
  complete : forall entry, entry ∈ session.writer.queue.toList -> entry.isComplete = true
  pending : session.writer.pending ≤ batchSize
  queued : session.writer.stats.queued = (accepted events).length
  balance : session.writer.stats.queued =
    session.writer.stats.written + session.writer.pending + session.lostEntries.length
  failed : session.writer.stats.failedBatches =
    (session.deliveries.filter Delivery.isLost).length
  batches : forall delivery, delivery ∈ session.deliveries ->
    0 < delivery.entries.length ∧ delivery.entries.length ≤ batchSize + 1 ∧
      (delivery.isLost = true <-> delivery.db.routes = none)
  /-- Without a call to flush, a batch is delivered as soon as it is large enough. -/
  whole : Event.flush ∉ events -> forall delivery, delivery ∈ session.deliveries ->
    delivery.entries.length = batchSize + 1

section
variable {batchSize : Nat} {events : List Event} {session next : Session} {event : Event}

theorem accounts_start (batchSize : Nat) (db : Database) :
    Accounts batchSize [] (.start batchSize db) where
  size := rfl
  complete _ member := by cases member
  pending := Nat.zero_le batchSize
  queued := rfl
  balance := rfl
  failed := rfl
  batches _ member := by cases member
  whole _ _ member := by cases member

theorem length_accepted_le (event : Event) : event.accepted.length ≤ 1 := by
  cases event with
  | push entry => exact List.length_filter_le _ _
  | flush => exact Nat.zero_le 1
  | change db => exact Nat.zero_le 1

theorem length_waiting (session : Session) (event : Event) :
    (session.waiting event).length = session.writer.pending + event.accepted.length :=
  List.length_append

theorem Accounts.complete_waiting (accounts : Accounts batchSize events session) :
    forall entry, entry ∈ session.waiting event -> entry.isComplete = true := by
  intro entry member
  rcases List.mem_append.mp member with before | now
  · exact accounts.complete entry before
  · exact isComplete_of_mem_accepted now

/-- A batch that is written adds to the entries written, and one that is lost to the others. -/
theorem Accounts.delivered (accounts : Accounts batchSize events session)
    (someLeft : session.waiting event ≠ []) :
    (session.delivered event).writer.stats.written + (session.delivered event).lostEntries.length =
        session.writer.stats.written + session.lostEntries.length +
          (session.waiting event).length ∧
      (session.delivered event).writer.stats.failedBatches =
        ((session.delivered event).deliveries.filter Delivery.isLost).length ∧
      (Delivery.isLost ⟨session.waiting event, session.db⟩ = true <->
        session.db.routes = none) := by
  have failed := accounts.failed
  have lost : (session.delivered event).lostEntries = session.lostEntries ++
      ([⟨session.waiting event, session.db⟩].filter Delivery.isLost).flatMap Delivery.entries := by
    rw [Session.lostEntries, Session.delivered, List.filter_append, List.flatMap_append]
    rfl
  rw [lost, List.length_append, Session.delivered, List.filter_append, List.length_append]
  rcases replaceRoutes_cases session.db someLeft accounts.complete_waiting with
    ⟨hasTable, result⟩ | ⟨noTable, result⟩
  · have isLost : Delivery.isLost ⟨session.waiting event, session.db⟩ = false := by
      rw [Delivery.isLost, result]
      rfl
    rw [List.filter_cons_of_neg (by simp [isLost]), List.filter_nil, result, isLost]
    refine ⟨?_, failed, by simp [hasTable]⟩
    change session.writer.stats.written + _ + _ = _
    simp only [List.flatMap_nil, List.length_nil]
    omega
  · have isLost : Delivery.isLost ⟨session.waiting event, session.db⟩ = true := by
      rw [Delivery.isLost, result]
      rfl
    rw [List.filter_cons_of_pos isLost, List.filter_nil, result, isLost]
    refine ⟨?_, congrArg (· + 1) failed, by simp [noTable]⟩
    change session.writer.stats.written + _ = _
    simp only [List.flatMap_cons, List.flatMap_nil, List.append_nil]
    omega

theorem Accounts.moves (accounts : Accounts batchSize events session)
    (moves : Moves session event next) : Accounts batchSize (events ++ [event]) next := by
  have length := length_waiting session event
  have least := accounts.pending
  have queued : session.writer.stats.queued + event.accepted.length =
      (accepted (events ++ [event])).length := by
    rw [accepted_append, accepted_singleton, List.length_append, accounts.queued]
  have balance := accounts.balance
  have whole : Event.flush ∉ events ++ [event] -> Event.flush ≠ event ∧
      forall delivery, delivery ∈ session.deliveries ->
        delivery.entries.length = batchSize + 1 := by
    intro alone
    rw [List.mem_append, List.mem_singleton, not_or] at alone
    exact ⟨alone.2, accounts.whole alone.1⟩
  cases moves with
  | changes byOthers =>
      subst byOthers
      exact ⟨accounts.size, accounts.complete, least, queued, balance, accounts.failed,
        accounts.batches, fun alone => (whole alone).2⟩
  | waits room _ =>
      have waits := session.writer.pending_enqueue event.accepted
      refine ⟨accounts.size, ?_, ?_, queued, ?_, accounts.failed, accounts.batches,
        fun alone => (whole alone).2⟩
      · intro entry member
        rw [Session.enqueued, session.toList_enqueue] at member
        exact accounts.complete_waiting entry member
      · change (session.writer.enqueue event.accepted).pending ≤ batchSize
        rcases room with none | fits
        · rw [waits, none]
          exact least
        · rw [waits, ← length, ← accounts.size]
          exact fits
      · change session.writer.stats.queued + event.accepted.length =
          session.writer.stats.written + (session.writer.enqueue event.accepted).pending +
            session.lostEntries.length
        omega
  | delivers someLeft full =>
      have most := length_accepted_le event
      have fits : (session.waiting event).length ≤ batchSize + 1 := by omega
      rcases accounts.delivered someLeft with ⟨entries, failed, isLost⟩
      have same : (session.delivered event).writer.stats.queued =
          session.writer.stats.queued + event.accepted.length :=
        WriteStats.queued_settle _ _
      have empty : (session.delivered event).writer.pending = 0 := rfl
      refine ⟨accounts.size, ?_, Nat.zero_le batchSize, same.trans queued, by omega, failed, ?_,
        ?_⟩
      · intro entry member
        cases member
      · intro delivery member
        rcases Session.mem_delivered.mp member with before | rfl
        · exact accounts.batches delivery before
        · exact ⟨List.length_pos_iff.mpr someLeft, fits, isLost⟩
      · intro alone delivery member
        rcases whole alone with ⟨notFlush, before⟩
        rcases Session.mem_delivered.mp member with earlier | rfl
        · exact before delivery earlier
        · have exceeds := full notFlush.symm
          rw [accounts.size] at exceeds
          exact Nat.le_antisymm fits exceeds

theorem accounts_run (batchSize : Nat) (db : Database) (events : List Event) :
    Accounts batchSize events ((Session.start batchSize db).run events) :=
  run_induction (accounts_start batchSize db) Accounts.moves events

end

/-! ## The batches of a writer that is left alone -/

theorem entries_flush (session : Session) :
    (session.step .flush).deliveries.map Delivery.entries =
      session.deliveries.map Delivery.entries ++
        if session.writer.queue.toList.isEmpty then [] else [session.writer.queue.toList] := by
  have waiting : session.waiting .flush = session.writer.queue.toList := List.append_nil _
  have moves := step_cases session .flush
  generalize session.step .flush = next at moves ⊢
  cases moves with
  | changes byOthers => cases byOthers
  | waits _ settled =>
      rw [← waiting, settled rfl]
      exact (List.append_nil _).symm
  | delivers someLeft _ =>
      rw [Session.delivered, List.map_append, waiting, if_neg]
      · rfl
      · rw [List.isEmpty_iff, ← waiting]
        exact someLeft

/-- Whether the table is missing, and was missing for each batch. -/
structure Tableless (session : Session) : Prop where
  routes : session.db.routes = none
  batches : forall delivery, delivery ∈ session.deliveries -> delivery.db.routes = none

/-- Unless somebody creates the table, it stays away. -/
theorem Tableless.run {first : Session} (tableless : Tableless first) {events : List Event}
    (never : forall other, Event.change other ∈ events -> other.routes = none) :
    Tableless (first.run events) := by
  refine run_induction (motive := fun events session =>
    (forall other, Event.change other ∈ events -> other.routes = none) -> Tableless session)
    (fun _ => tableless) ?_ events never
  intro events session event next before moves never
  have before := before fun other changed => never other (List.mem_append_left _ changed)
  cases moves with
  | @changes other byOthers =>
      subst byOthers
      exact ⟨never other (List.mem_append_right _ (List.mem_singleton_self _)), before.batches⟩
  | waits _ _ => exact ⟨before.routes, before.batches⟩
  | delivers _ _ =>
      constructor
      · rw [Session.delivered, replaceRoutes_of_no_table before.routes]
        exact before.routes
      · intro delivery member
        rcases Session.mem_delivered.mp member with earlier | rfl
        · exact before.batches delivery earlier
        · exact before.routes

theorem pending_flush (writer : RouteWriter) (db : Database) :
    (writer.flush db).1.pending = 0 := by
  by_cases empty : writer.queue = #[]
  · rw [RouteWriter.flush_of_empty empty, RouteWriter.pending, empty]
    rfl
  · rw [RouteWriter.flush_of_ne_empty empty]
    rfl

section
variable {batchSize : Nat} {db : Database} {events : List Event}

/-- Every entry that was queued is in one place, a batch or the queue. -/
theorem placed_run (batchSize : Nat) (db : Database) (events : List Event) :
    ((Session.start batchSize db).run events).deliveries.flatMap Delivery.entries ++
        ((Session.start batchSize db).run events).writer.queue.toList = accepted events := by
  rcases continues_run (.start batchSize db) events with ⟨later, continues⟩
  rw [continues.deliveries]
  exact continues.placed

theorem batches_of_alone (alone : Event.flush ∉ events) :
    (((Session.start batchSize db).run events).step .flush).deliveries.map Delivery.entries =
      batches (batchSize + 1) (accepted events) := by
  have accounts := accounts_run batchSize db events
  have placed := placed_run batchSize db events
  have full := accounts.whole alone
  generalize (Session.start batchSize db).run events = session at accounts placed full ⊢
  have groups : forall group, group ∈ session.deliveries.map Delivery.entries ->
      group.length = batchSize + 1 := by
    intro group member
    rcases List.mem_map.mp member with ⟨delivery, delivered, rfl⟩
    exact full delivery delivered
  have short : session.writer.queue.toList.length ≤ batchSize + 1 :=
    Nat.le_succ_of_le accounts.pending
  rw [entries_flush, ← placed, List.flatMap_def,
    batches_flatten_append (Nat.succ_pos batchSize) groups short]

/-- A writer that never finds the table loses everything, batch by batch. -/
theorem finish_of_no_table (alone : Event.flush ∉ events) (noTable : db.routes = none)
    (never : forall other, Event.change other ∈ events -> other.routes = none) :
    (((Session.start batchSize db).run events).step .flush).writer.stats =
      ⟨(accepted events).length, 0, ceilDiv (accepted events).length (batchSize + 1)⟩ := by
  have accounts := accounts_run batchSize db (events ++ [.flush])
  have groups := @batches_of_alone batchSize db events alone
  have missing : Tableless ((Session.start batchSize db).run (events ++ [.flush])) := by
    refine Tableless.run ⟨noTable, fun _ member => by cases member⟩ ?_
    intro other changed
    rcases List.mem_append.mp changed with before | now
    · exact never other before
    · cases List.mem_singleton.mp now
  have same : accepted (events ++ [.flush]) = accepted events := by
    rw [accepted_append, accepted_singleton]
    exact List.append_nil _
  rw [Session.run_concat] at accounts missing
  generalize ((Session.start batchSize db).run events).step .flush = session
    at accounts groups missing ⊢
  have all : session.deliveries.filter Delivery.isLost = session.deliveries := by
    rw [List.filter_eq_self]
    intro delivery delivered
    exact (accounts.batches delivery delivered).2.2.mpr (missing.batches delivery delivered)
  have failed : session.writer.stats.failedBatches =
      ceilDiv (accepted events).length (batchSize + 1) := by
    rw [accounts.failed, all, ← length_batches, ← groups, List.length_map]
  have queued : session.writer.stats.queued = (accepted events).length := by
    rw [accounts.queued, same]
  have lost : session.lostEntries.length = (accepted events).length := by
    rw [Session.lostEntries, all, List.flatMap_def, groups,
      flatten_batches (Nat.succ_pos batchSize)]
  have balance := accounts.balance
  have written : session.writer.stats.written = 0 := by omega
  rw [← failed, ← queued, ← written]

end

/-- Whatever is pushed and flushed, and whatever others do to the table meanwhile, no more
entries wait than the batch size, the entries with the whole key are counted as queued, and
each of them is written, waits or is in a batch that is counted as failed.  In the order in
which they were pushed, the batches and the queue are these entries; so what the writer
delivers and stores from some point on is what waits there and what is pushed later, and never
an entry of a failed batch.  Nothing waits in the end.

If flush is not called, the batches are the groups of one entry more than the batch size, and
if the table is missing throughout, all of them fail. -/
theorem writer_accounts_for_entries (batchSize : Nat) (start : Database) (events : List Event) :
    exists session, (Session.start batchSize start).run events = session ∧
      session.writer.pending ≤ batchSize ∧
      session.writer.stats.queued = (accepted events).length ∧
      session.writer.stats.queued = session.writer.stats.written + session.writer.pending +
        session.lostEntries.length ∧
      session.writer.stats.failedBatches =
        (session.deliveries.filter Delivery.isLost).length ∧
      (forall delivery, delivery ∈ session.deliveries ->
        0 < delivery.entries.length ∧ delivery.entries.length ≤ batchSize + 1 ∧
          (delivery.isLost = true <-> delivery.db.routes = none)) ∧
      session.deliveries.flatMap Delivery.entries ++ session.writer.queue.toList =
        accepted events ∧
      (forall others, exists later, Continues session others later (session.run others)) ∧
      (session.writer.flush session.db).1.pending = 0 ∧
      session.writer.finish session.db =
        ((session.step .flush).writer.stats, (session.step .flush).db) ∧
      (Event.flush ∉ events ->
        (session.step .flush).deliveries.map Delivery.entries =
          batches (batchSize + 1) (accepted events) ∧
        (start.routes = none ->
          (forall other, Event.change other ∈ events -> other.routes = none) ->
          (session.writer.finish session.db).1 =
            ⟨(accepted events).length, 0,
              ceilDiv (accepted events).length (batchSize + 1)⟩)) := by
  have accounts := accounts_run batchSize start events
  refine ⟨_, rfl, accounts.pending, accounts.queued, accounts.balance, accounts.failed,
    accounts.batches, placed_run batchSize start events, ?_, pending_flush _ _, rfl, ?_⟩
  · intro others
    exact continues_run _ others
  · intro alone
    refine ⟨batches_of_alone alone, ?_⟩
    intro noTable never
    exact finish_of_no_table alone noTable never

/-- A route object of a given system. -/
def routeFrom (origin : Asn) : RouteEntry :=
  ⟨some "192.0.2.0", some 24, some origin, none⟩

/-- The first two of three entries are lost for want of a table.  Once there is one, the third
is all that the writer can store. -/
theorem writer_never_stores_lost_entry :
    exists session,
      (Session.start 1 .bare).run ([64500, 64501, 64502].map (.push ∘ routeFrom)) = session ∧
      (session.writer.finish session.db).1 = ⟨3, 0, 2⟩ ∧
      ¬ (session.run [.change { routes := some ∅ }, .flush]).db.HoldsRoute
        (.of "192.0.2.0" 24 64500) none := by
  rcases writer_accounts_for_entries 1 .bare ([64500, 64501, 64502].map (.push ∘ routeFrom)) with
    ⟨session, isRun, _, _, _, _, _, _, continues, _, _, alone⟩
  refine ⟨session, isRun, ?_, ?_⟩
  · exact (alone (by simp)).2 rfl (by simp)
  · intro holds
    rcases continues [.change { routes := some ∅ }, .flush] with ⟨later, goesOn⟩
    have before : session.db.routes = none ∧
        session.writer.queue.toList = [routeFrom 64502] := by
      rw [← isRun]
      exact ⟨rfl, rfl⟩
    rcases goesOn.rows _ _ holds with ⟨table, hasTable, _⟩ | ⟨db, changed, table, hasTable, stored⟩ |
      ⟨delivery, delivered, _, entry, member, row⟩
    · rw [before.1] at hasTable
      cases hasTable
    · simp only [List.mem_cons, Event.change.injEq, reduceCtorEq, List.not_mem_nil, or_false]
        at changed
      subst changed
      cases hasTable
      cases stored
    · have listed := List.mem_flatMap.mpr ⟨delivery, delivered, member⟩
      have placed := List.mem_append_left
        (session.run [.change { routes := some ∅ }, .flush]).writer.queue.toList listed
      rw [goesOn.placed, before.2] at placed
      rw [List.mem_singleton.mp placed] at row
      exact absurd row (by decide)

end Store
end AsCensus
