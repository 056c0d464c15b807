import AsCensus.Proofs.RouteReplacement

namespace AsCensus
namespace Store

open Std
open Rpsl

/-!
# A writer at work

A writer of route objects drops what lacks a part of the key, queues the rest and hands it to
the database in batches.  Others work on the database as well: between two batches the table
may disappear, and it may come back (`Event.change`).  A batch that finds no table is lost, and
any other is written as a whole (`replaceRoutes_cases`).

What the writer delivers is noted from outside: a batch is what waited before a step and waits
no longer after it (`Session.record`).  Whatever happens, a step of the writer either lets all
entries wait or delivers all of them at once (`step_cases`).  What such a step keeps holds
after every run (`run_induction`).
-/

/-- A batch of entries, with the database that it was handed to. -/
structure Delivery where
  entries : List RouteEntry
  db : Database

/-- Whether a batch could not be written. -/
def Delivery.isLost (delivery : Delivery) : Bool :=
  (delivery.db.replaceRoutes delivery.entries).2.isNone

/-- A writer at work on a database, and the batches that it has delivered. -/
structure Session where
  writer : RouteWriter
  db : Database
  deliveries : List Delivery := []

/-- What happens to a writer or to its database. -/
inductive Event
  | push (entry : RouteEntry)
  | flush
  /-- Others leave another database behind, with the table or without it. -/
  | change (db : Database)

/-- The entries that an event adds to the queue. -/
def Event.accepted : Event -> List RouteEntry
  | push entry => [entry].filter RouteEntry.isComplete
  | _ => []

/-- The entries that events add to the queue. -/
def accepted (events : List Event) : List RouteEntry :=
  events.flatMap Event.accepted

namespace Session

/-- A new writer. -/
def start (batchSize : Nat) (db : Database) : Session :=
  { writer := .new batchSize, db := db }

/-- The entries that wait once an event has added its own. -/
def waiting (session : Session) (event : Event) : List RouteEntry :=
  session.writer.queue.toList ++ event.accepted

/-- Take over what a writer did.  What waited and waits no longer was delivered. -/
def record (session : Session) (waiting : List RouteEntry) (result : RouteWriter × Database) :
    Session where
  writer := result.1
  db := result.2
  deliveries :=
    if waiting ≠ [] ∧ result.1.queue = #[] then session.deliveries ++ [⟨waiting, session.db⟩]
    else session.deliveries

def step (session : Session) (event : Event) : Session :=
  match event with
  | .push entry =>
      session.record (session.waiting event) (session.writer.push session.db entry)
  | .flush => session.record (session.waiting event) (session.writer.flush session.db)
  | .change db => { session with db := db }

def run (session : Session) (events : List Event) : Session :=
  events.foldl step session

theorem run_concat (session : Session) (events : List Event) (event : Event) :
    session.run (events ++ [event]) = (session.run events).step event := by
  unfold run
  rw [List.foldl_append]
  rfl

end Session

/-- Whether a row is stored. -/
def Database.HoldsRoute (db : Database) (key : RouteKey) (description : Option String) : Prop :=
  exists table, db.routes = some table ∧ table[key]? = some description

theorem accepted_append (front back : List Event) :
    accepted (front ++ back) = accepted front ++ accepted back :=
  List.flatMap_append

theorem accepted_singleton (event : Event) : accepted [event] = event.accepted := by
  rw [accepted, List.flatMap_cons, List.flatMap_nil, List.append_nil]

theorem isComplete_of_mem_accepted {event : Event} {entry : RouteEntry}
    (member : entry ∈ event.accepted) : entry.isComplete = true := by
  cases event with
  | push pushed => exact (List.mem_filter.mp member).2
  | flush => cases member
  | change db => cases member

/-! ## Handing over a batch -/

section
variable {db : Database} {entries : List RouteEntry}

theorem filterMap_routeRow_ne_nil (someLeft : entries ≠ [])
    (complete : forall entry, entry ∈ entries -> entry.isComplete = true) :
    entries.filterMap routeRow ≠ [] := by
  cases entries with
  | nil => exact absurd rfl someLeft
  | cons entry others =>
      have row := isSome_routeRow entry
      rw [complete entry List.mem_cons_self, Option.isSome_iff_exists] at row
      rcases row with ⟨row, isRow⟩
      rw [List.filterMap_cons_some isRow]
      exact List.cons_ne_nil _ _

/-- Without the table a batch changes nothing, and it is lost unless there is nothing in it. -/
theorem replaceRoutes_of_no_table (noTable : db.routes = none) (entries : List RouteEntry) :
    db.replaceRoutes entries =
      (db, if entries.filterMap routeRow = [] then some 0 else none) := by
  have fails : forall part, Database.writeRoutes db part = none := by
    intro part
    exact Database.writeRoutes_eq_none_iff.mpr (Or.inl noTable)
  have parts := @batches_eq_nil_iff _ rowsPerStatement (by decide) (entries.filterMap routeRow)
  rw [Database.replaceRoutes, writeBatches_of_none fails]
  simp only [parts]

/-- A batch is written as a whole, or it is lost because there is no table. -/
theorem replaceRoutes_cases (db : Database) (someLeft : entries ≠ [])
    (complete : forall entry, entry ∈ entries -> entry.isComplete = true) :
    db.routes ≠ none ∧ (db.replaceRoutes entries).2 = some entries.length ∨
      db.routes = none ∧ (db.replaceRoutes entries).2 = none := by
  cases hasRoutes : db.routes with
  | none =>
      rw [replaceRoutes_of_no_table hasRoutes,
        if_neg (filterMap_routeRow_ne_nil someLeft complete)]
      exact Or.inr ⟨rfl, rfl⟩
  | some table =>
      rw [replaceRoutes_eq hasRoutes, List.countP_eq_length.mpr complete]
      exact Or.inl ⟨Option.some_ne_none table, rfl⟩

/-- A row that is stored after a batch was stored before, or it is a row of the batch, and then
the batch was not lost. -/
theorem holdsRoute_of_replaceRoutes {key : RouteKey} {description : Option String}
    (holds : (db.replaceRoutes entries).1.HoldsRoute key description) :
    db.HoldsRoute key description ∨
      Delivery.isLost ⟨entries, db⟩ = false ∧
        exists entry, entry ∈ entries ∧ routeRow entry = some (key, description) := by
  rcases holds with ⟨after, isTable, stored⟩
  cases hasRoutes : db.routes with
  | none =>
      rw [replaceRoutes_of_no_table hasRoutes, hasRoutes] at isTable
      cases isTable
  | some table =>
      have written := replaceRoutes_eq hasRoutes entries
      rw [written] at isTable
      cases isTable
      rw [getElem?_replaceAll, Option.or_eq_some_iff] at stored
      rcases stored with last | ⟨_, before⟩
      · have listed := List.mem_filterMap.mp (mem_of_lastOf_eq_some last)
        refine Or.inr ⟨?_, listed⟩
        rw [Delivery.isLost, written]
        rfl
      · exact Or.inl ⟨table, hasRoutes, before⟩

end

/-! ## One step -/

/-- The numbers of a writer after a batch. -/
def WriteStats.settle (stats : WriteStats) : Option Nat -> WriteStats
  | some rows => { stats with written := stats.written + rows }
  | none => { stats with failedBatches := stats.failedBatches + 1 }

theorem WriteStats.queued_settle (stats : WriteStats) (rows : Option Nat) :
    (stats.settle rows).queued = stats.queued := by
  cases rows <;> rfl

namespace RouteWriter

/-- Queue entries, whatever the batch size is. -/
def enqueue (writer : RouteWriter) (entries : List RouteEntry) : RouteWriter :=
  { writer with
    queue := writer.queue ++ entries.toArray
    stats := { writer.stats with queued := writer.stats.queued + entries.length } }

/-- Empty the queue, after a batch with the given result. -/
def settle (writer : RouteWriter) (rows : Option Nat) : RouteWriter :=
  { writer with queue := #[], stats := writer.stats.settle rows }

theorem enqueue_nil (writer : RouteWriter) : writer.enqueue [] = writer := by
  simp [enqueue]

theorem toList_enqueue (writer : RouteWriter) (entries : List RouteEntry) :
    (writer.enqueue entries).queue.toList = writer.queue.toList ++ entries := by
  rw [enqueue, Array.toList_append]

theorem pending_enqueue (writer : RouteWriter) (entries : List RouteEntry) :
    (writer.enqueue entries).pending = writer.pending + entries.length := by
  rw [pending, enqueue, Array.size_append, List.size_toArray]
  rfl

theorem flush_of_empty {writer : RouteWriter} (empty : writer.queue = #[]) (db : Database) :
    writer.flush db = (writer, db) := by
  rw [flush, empty]
  rfl

theorem flush_of_ne_empty {writer : RouteWriter} (someLeft : writer.queue ≠ #[])
    (db : Database) :
    writer.flush db =
      (writer.settle (db.replaceRoutes writer.queue.toList).2,
        (db.replaceRoutes writer.queue.toList).1) := by
  have waiting : writer.queue.isEmpty = false := by simpa using someLeft
  rcases handed : db.replaceRoutes writer.queue.toList with ⟨after, rows⟩
  cases rows <;> simp [flush, waiting, handed, settle, WriteStats.settle]

theorem push_of_incomplete {entry : RouteEntry} (incomplete : entry.isComplete = false)
    (writer : RouteWriter) (db : Database) : writer.push db entry = (writer, db) := by
  rw [push, incomplete]
  rfl

theorem push_of_complete {entry : RouteEntry} (complete : entry.isComplete = true)
    (writer : RouteWriter) (db : Database) :
    writer.push db entry =
      if writer.batchSize < writer.pending + 1 then (writer.enqueue [entry]).flush db
      else (writer.enqueue [entry], db) := by
  simp [push, complete, enqueue, pending]

end RouteWriter

namespace Session

/-- The entries of an event wait. -/
def enqueued (session : Session) (event : Event) : Session :=
  { session with writer := session.writer.enqueue event.accepted }

/-- The entries of an event and all that waited are handed to the database. -/
def delivered (session : Session) (event : Event) : Session where
  writer := (session.writer.enqueue event.accepted).settle
    (session.db.replaceRoutes (session.waiting event)).2
  db := (session.db.replaceRoutes (session.waiting event)).1
  deliveries := session.deliveries ++ [⟨session.waiting event, session.db⟩]

theorem mem_delivered {session : Session} {event : Event} {delivery : Delivery} :
    delivery ∈ (session.delivered event).deliveries <->
      delivery ∈ session.deliveries ∨ delivery = ⟨session.waiting event, session.db⟩ := by
  rw [delivered, List.mem_append, List.mem_singleton]

theorem toList_enqueue (session : Session) (event : Event) :
    (session.writer.enqueue event.accepted).queue.toList = session.waiting event :=
  session.writer.toList_enqueue event.accepted

theorem queue_ne_empty {session : Session} {event : Event}
    (someLeft : session.waiting event ≠ []) :
    (session.writer.enqueue event.accepted).queue ≠ #[] := by
  intro empty
  rw [← session.toList_enqueue, empty] at someLeft
  exact someLeft rfl

theorem record_enqueue (session : Session) (event : Event) :
    session.record (session.waiting event) (session.writer.enqueue event.accepted, session.db) =
      session.enqueued event := by
  have waits : ¬ (session.waiting event ≠ [] ∧
      (session.writer.enqueue event.accepted).queue = #[]) := by
    intro ⟨someLeft, empty⟩
    exact queue_ne_empty someLeft empty
  rw [record, if_neg waits]
  rfl

theorem record_flush {session : Session} {event : Event} (someLeft : session.waiting event ≠ []) :
    session.record (session.waiting event)
        ((session.writer.enqueue event.accepted).flush session.db) =
      session.delivered event := by
  rw [RouteWriter.flush_of_ne_empty (queue_ne_empty someLeft), toList_enqueue, record,
    if_pos ⟨someLeft, rfl⟩]
  rfl

end Session

/-- What one step of a session comes to. -/
inductive Moves (session : Session) (event : Event) : Session -> Prop
  | changes {db : Database} (byOthers : event = .change db) :
      Moves session event { session with db := db }
  /-- Nothing is delivered.  An entry without the whole key adds nothing to what waits. -/
  | waits (room : event.accepted = [] ∨
        (session.waiting event).length ≤ session.writer.batchSize)
      (settled : event = .flush -> session.waiting event = []) :
      Moves session event (session.enqueued event)
  /-- All is delivered.  If nobody asked for it, there was more than the batch size. -/
  | delivers (someLeft : session.waiting event ≠ [])
      (full : event ≠ .flush -> session.writer.batchSize < (session.waiting event).length) :
      Moves session event (session.delivered event)

theorem moves_flush (session : Session) : Moves session .flush (session.step .flush) := by
  have same := session.writer.enqueue_nil
  by_cases nothing : session.waiting .flush = []
  · have empty : session.writer.queue = #[] := by
      rw [← Array.toList_eq_nil_iff, ← List.append_nil session.writer.queue.toList]
      exact nothing
    have step : session.step .flush = session.enqueued .flush := by
      rw [← session.record_enqueue, Session.step, RouteWriter.flush_of_empty empty]
      exact congrArg (fun writer => session.record _ (writer, session.db)) same.symm
    rw [step]
    exact .waits (Or.inl rfl) fun _ => nothing
  · have step : session.step .flush = session.delivered .flush := by
      rw [← Session.record_flush nothing, Session.step]
      exact congrArg (fun writer => session.record _ (RouteWriter.flush writer _)) same.symm
    rw [step]
    exact .delivers nothing fun own => absurd rfl own

theorem moves_push (session : Session) (entry : RouteEntry) :
    Moves session (.push entry) (session.step (.push entry)) := by
  have notFlush : Event.push entry ≠ .flush := Event.noConfusion
  by_cases complete : entry.isComplete = true
  · have one : (Event.push entry).accepted = [entry] := by
      rw [Event.accepted, List.filter_cons_of_pos complete, List.filter_nil]
    have length : (session.waiting (.push entry)).length = session.writer.pending + 1 := by
      rw [Session.waiting, one, List.length_append, Array.length_toList]
      rfl
    have pushed := RouteWriter.push_of_complete complete session.writer session.db
    rw [← one, ← length] at pushed
    by_cases full : session.writer.batchSize < (session.waiting (.push entry)).length
    · have someLeft : session.waiting (.push entry) ≠ [] := by
        apply List.ne_nil_of_length_pos
        omega
      rw [Session.step, pushed, if_pos full, Session.record_flush someLeft]
      exact .delivers someLeft fun _ => full
    · rw [Session.step, pushed, if_neg full, Session.record_enqueue]
      exact .waits (Or.inr (Nat.not_lt.mp full)) fun own => absurd own notFlush
  · rw [Bool.not_eq_true] at complete
    have none : (Event.push entry).accepted = [] := by
      rw [Event.accepted, List.filter_cons_of_neg (by simp [complete]), List.filter_nil]
    have same : session.writer.enqueue (Event.push entry).accepted = session.writer := by
      rw [none, RouteWriter.enqueue_nil]
    have step : session.step (.push entry) = session.enqueued (.push entry) := by
      rw [← session.record_enqueue, same, Session.step, RouteWriter.push_of_incomplete complete]
    rw [step]
    exact .waits (Or.inl none) fun own => absurd own notFlush

/-- A step does one of three things. -/
theorem step_cases (session : Session) (event : Event) :
    Moves session event (session.step event) := by
  cases event with
  | push entry => exact moves_push session entry
  | flush => exact moves_flush session
  | change db => exact .changes rfl

/-- What holds at the start of a session and is kept by each step holds after every run. -/
theorem run_induction {motive : List Event -> Session -> Prop} {first : Session}
    (begins : motive [] first)
    (keeps : forall {events session event next}, motive events session ->
      Moves session event next -> motive (events ++ [event]) next) (events : List Event) :
    motive events (first.run events) := by
  induction events using List.reverseRecOn with
  | nil => exact begins
  | append_singleton events event ih =>
      rw [Session.run_concat]
      exact keeps ih (step_cases _ event)

end Store
end AsCensus
