import AsCensus.Job.RouteImport
import AsCensus.Proofs.RouteReplacement

namespace AsCensus

open Std
open Rpsl

/-!
# Importing a dump

A writer holds entries back, so the table lags behind the entries that were queued.  What
never changes is where the table is heading: if the queue were written now, the table
would be the one that replacing the entries one by one leaves (`RouteWriter.Follows`).
Queueing an entry and writing the queue both keep to this, whatever the batch size, and
at the end nothing is left in the queue.
-/

namespace Store
namespace RouteWriter

variable {start db : Database} {table : RouteTable} {taken : List RouteEntry}
variable {writer : RouteWriter}

/-- A writer follows the entries that it took, from a database with a table, when its queue
leads to the table of replacing them one by one, and its numbers account for them. -/
structure Follows (start : Database) (table : RouteTable) (taken : List RouteEntry)
    (writer : RouteWriter) (db : Database) : Prop where
  heading : exists written : RouteTable, db = { start with routes := some written } ∧
    written.replaceAll writer.queue.toList = table.replaceAll taken
  complete : forall entry, entry ∈ writer.queue.toList -> entry.isComplete = true
  queued : writer.stats.queued = taken.countP RouteEntry.isComplete
  written : writer.stats.written + writer.pending = writer.stats.queued
  failed : writer.stats.failedBatches = 0

theorem follows_new (hasRoutes : start.routes = some table) (batchSize : Nat) :
    (new batchSize).Follows start table [] start where
  heading := ⟨table, by rw [← hasRoutes], rfl⟩
  complete entry member := by simp [new] at member
  queued := rfl
  written := rfl
  failed := rfl

theorem countP_queue (follows : writer.Follows start table taken db) :
    writer.queue.toList.countP RouteEntry.isComplete = writer.pending := by
  exact List.countP_eq_length.mpr follows.complete

/-- Writing the queue keeps to the entries, and empties the queue. -/
theorem Follows.flush (follows : writer.Follows start table taken db) :
    (writer.flush db).1.Follows start table taken (writer.flush db).2 ∧
      (writer.flush db).1.queue = #[] := by
  by_cases waiting : writer.queue.isEmpty
  · have empty : writer.queue = #[] := Array.isEmpty_iff.mp waiting
    simp only [RouteWriter.flush, waiting, if_true]
    exact ⟨follows, empty⟩
  · rcases follows.heading with ⟨written, rfl, heading⟩
    have wrote := @replaceRoutes_eq { start with routes := some written } written rfl
      writer.queue.toList
    rw [countP_queue follows] at wrote
    simp only [RouteWriter.flush, waiting, wrote]
    refine ⟨⟨⟨written.replaceAll writer.queue.toList, rfl, heading⟩, ?_, ?_, ?_, ?_⟩, rfl⟩
    · intro entry member
      cases member
    · exact follows.queued
    · exact follows.written
    · exact follows.failed

/-- Queueing an entry takes it. -/
theorem Follows.push (follows : writer.Follows start table taken db) (entry : RouteEntry) :
    (writer.push db entry).1.Follows start table (taken ++ [entry]) (writer.push db entry).2 := by
  by_cases complete : entry.isComplete
  · let longer : RouteWriter :=
      { writer with
        queue := writer.queue.push entry
        stats := { writer.stats with queued := writer.stats.queued + 1 } }
    have longerFollows : longer.Follows start table (taken ++ [entry]) db := by
      rcases follows.heading with ⟨written, here, heading⟩
      refine ⟨⟨written, here, ?_⟩, ?_, ?_, ?_, follows.failed⟩
      · rw [Array.toList_push, replaceAll_concat, replaceAll_concat, heading]
      · intro other member
        rw [Array.toList_push, List.mem_append, List.mem_singleton] at member
        rcases member with before | rfl
        · exact follows.complete other before
        · exact complete
      · rw [List.countP_append, ← follows.queued, List.countP_singleton, if_pos complete]
      · have written := follows.written
        simp only [longer, pending, Array.size_push] at written ⊢
        omega
    simp only [RouteWriter.push, complete, if_true]
    split
    · exact longerFollows.flush.1
    · exact longerFollows
  · rcases follows.heading with ⟨written, here, heading⟩
    rw [Bool.not_eq_true] at complete
    simp only [RouteWriter.push, complete]
    refine ⟨⟨written, here, ?_⟩, follows.complete, ?_, follows.written, follows.failed⟩
    · rw [replaceAll_concat, replace_of_not_complete complete]
      exact heading
    · simp only [List.countP_append, List.countP_singleton, complete, Bool.false_eq_true,
        if_false, Nat.add_zero]
      exact follows.queued

/-- Queueing entries one after the other takes all of them. -/
theorem Follows.pushAll (follows : writer.Follows start table taken db)
    (entries : List RouteEntry) :
    (writer.pushAll db entries).1.Follows start table (taken ++ entries)
      (writer.pushAll db entries).2 := by
  induction entries generalizing writer db taken with
  | nil =>
      rw [List.append_nil]
      exact follows
  | cons entry rest ih =>
      have later := ih (follows.push entry)
      rw [List.append_assoc] at later
      exact later

/-- At the end all entries are written. -/
theorem Follows.finish (follows : writer.Follows start table taken db) :
    writer.finish db =
      (⟨taken.countP RouteEntry.isComplete, taken.countP RouteEntry.isComplete, 0⟩,
        { start with routes := some (table.replaceAll taken) }) := by
  rcases follows.flush with ⟨after, empty⟩
  rcases after.heading with ⟨written, here, heading⟩
  have stats : (writer.flush db).1.stats =
      ⟨taken.countP RouteEntry.isComplete, taken.countP RouteEntry.isComplete, 0⟩ := by
    have queued := after.queued
    have wrote := after.written
    have failed := after.failed
    rw [pending, empty, Array.size_empty, Nat.add_zero] at wrote
    rw [← queued, ← failed]
    nth_rewrite 2 [← wrote]
    rfl
  rw [empty] at heading
  change ((writer.flush db).1.stats, (writer.flush db).2) = _
  rw [stats, here, ← heading]
  rfl

end RouteWriter
end Store

namespace Job

open Store

theorem importDump_eq {db : Database} {table : RouteTable} (hasRoutes : db.routes = some table)
    (batchSize : Nat) (dump : Dump) :
    importDump db batchSize dump =
      (⟨(routeEntries dump.lines).countP RouteEntry.isComplete,
          (routeEntries dump.lines).countP RouteEntry.isComplete, 0⟩,
        { db with routes := some (table.replaceAll (routeEntries dump.lines)) }) :=
  ((RouteWriter.follows_new hasRoutes (max batchSize 1)).pushAll (routeEntries dump.lines)).finish

/-- Importing any dump, with any batch size, leaves the table of replacing its entries one
by one, and reports each entry that has the whole key as written.  The last entry of a
key wins, other keys keep their row, and importing the dump again changes nothing. -/
theorem import_replaces_one_by_one (db : Database) {table : RouteTable}
    (hasRoutes : db.routes = some table) (batchSize : Nat) (dump : Dump) :
    importDump db batchSize dump =
        (⟨(routeEntries dump.lines).countP RouteEntry.isComplete,
            (routeEntries dump.lines).countP RouteEntry.isComplete, 0⟩,
          { db with routes := some (table.replaceAll (routeEntries dump.lines)) }) ∧
      (forall key : RouteKey, (table.replaceAll (routeEntries dump.lines))[key]? =
        (lastOf ((routeEntries dump.lines).filterMap routeRow) key).or table[key]?) ∧
      (forall otherSize,
        importDump (importDump db batchSize dump).2 otherSize dump =
          importDump db batchSize dump) ∧
      (forall address length origin,
        (importDump db batchSize dump).2.routeOf address length origin =
          (lastEntry (routeEntries dump.lines) address length origin).or
            (db.routeOf address length origin)) := by
  have imported := importDump_eq hasRoutes batchSize dump
  refine ⟨imported, getElem?_replaceAll table _, ?_, ?_⟩
  · intro otherSize
    rw [imported]
    have again := @importDump_eq { db with
      routes := some (table.replaceAll (routeEntries dump.lines)) } _ rfl otherSize dump
    rw [again, replaceAll_twice]
  · intro address length origin
    rw [imported]
    exact routeOf_replaceAll hasRoutes _ address length origin

/-- A dump of two route objects with one key, of which the second has a description. -/
def repeatedDump : Dump where
  bytes := ("route: 1.0.0.0/24\norigin: AS1\n\nroute: 1.0.0.0/24\norigin: AS1\ndescr: x\n").toList.map
    fun c => UInt8.ofNat c.toNat

/-- Both objects of the dump are written, and the second one stays. -/
theorem import_keeps_last_of_repeated :
    (importDump { routes := some ∅ } 1 repeatedDump).1 = ⟨2, 2, 0⟩ ∧
      (importDump { routes := some ∅ } 1 repeatedDump).2.routeOf "1.0.0.0" 24 1 =
        some ⟨some "1.0.0.0", some 24, some 1, some "x"⟩ := by
  rcases import_replaces_one_by_one { routes := some ∅ } rfl 1 repeatedDump with
    ⟨imported, _, _, readBack⟩
  constructor
  · rw [imported]
    decide
  · rw [readBack]
    decide

end Job
end AsCensus
