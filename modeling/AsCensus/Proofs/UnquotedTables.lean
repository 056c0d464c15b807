import AsCensus.Proofs.DumpImport
import AsCensus.Proofs.OwnTables
import AsCensus.Proofs.UnquotedTexts

namespace AsCensus

open Std

/-!
# Tables without quotes

No text that a job stores has a quoting character, apart from the raw lines of a record.  A walk
stores the records of lookups and an import stores the entries of dumps, which are unquoted; the
other operations write neither table.  So tables that hold unquoted texts hold such texts after
any operation (`Operation.holdsUnquoted_run`) and after any sequence of them, in which every job
may have a client or a dump of its own.

A row under a key is the last one that was stored under it, or else the one that was there.
-/

namespace Store

open Rpsl

/-- Whether the fields of all stored records and the texts of all stored routes are unquoted. -/
structure Database.HoldsUnquoted (db : Database) : Prop where
  records : forall table, db.whois = some table -> forall (key : Int) row,
    table[key]? = some row -> forall field : Whois.Field, UnquotedIfAny row.fields[field]?
  routes : forall table, db.routes = some table -> forall (key : RouteKey) description,
    table[key]? = some description ->
      Unquoted key.network.address ∧ UnquotedIfAny description

namespace Database.HoldsUnquoted

variable {db after : Database}

theorem of_empty (noRecords : forall table, db.whois = some table -> table = ∅)
    (noRoutes : forall table, db.routes = some table -> table = ∅) : db.HoldsUnquoted := by
  constructor
  · intro table hasTable key row found
    rw [noRecords table hasTable] at found
    simp at found
  · intro table hasTable key description found
    rw [noRoutes table hasTable] at found
    simp at found

theorem of_same (unquoted : db.HoldsUnquoted) (sameRecords : after.whois = db.whois)
    (sameRoutes : after.routes = db.routes) : after.HoldsUnquoted := by
  constructor
  · rw [sameRecords]
    exact unquoted.records
  · rw [sameRoutes]
    exact unquoted.routes

/-- A table that is created has no rows. -/
theorem createAll (unquoted : db.HoldsUnquoted) (tables : List TableId) :
    (db.createAll tables).HoldsUnquoted := by
  constructor
  · intro table hasTable key row found
    rcases @content_eq_or_noRows_of_createAll db .whois table tables hasTable with stood | rfl
    · exact unquoted.records table stood key row found
    · simp [TableId.noRows] at found
  · intro table hasTable key description found
    rcases @content_eq_or_noRows_of_createAll db .routes table tables hasTable with stood | rfl
    · exact unquoted.routes table stood key description found
    · simp [TableId.noRows] at found

end Database.HoldsUnquoted

theorem unquoted_of_routeRow {entry : RouteEntry} (unquoted : entry.IsUnquoted) {key : RouteKey}
    {description : Option String} (row : routeRow entry = some (key, description)) :
    Unquoted key.network.address ∧ UnquotedIfAny description := by
  obtain ⟨address, hasAddress, row⟩ := Option.bind_eq_some_iff.mp row
  obtain ⟨length, -, row⟩ := Option.bind_eq_some_iff.mp row
  obtain ⟨origin, -, row⟩ := Option.bind_eq_some_iff.mp row
  cases row
  exact ⟨unquoted.address address hasAddress, unquoted.description⟩

end Store

namespace Job

open Store
open Rpsl

variable {db : Database}

/-- A walk stores the records that lookups find, whatever the client replies. -/
theorem holdsUnquoted_walk (unquoted : db.HoldsUnquoted) (client : Whois.Client) (interval : Nat)
    (asns : List Asn) : (walk client interval db asns).db.HoldsUnquoted := by
  rw [(visited_walk client interval db asns).stored]
  refine ⟨?_, unquoted.routes⟩
  intro final hasFinal key row found
  obtain ⟨table, hasTable, rfl⟩ := Option.map_eq_some_iff.mp hasFinal
  rw [storeFound, getElem?_foldl_insert] at found
  rcases Option.or_eq_some_iff.mp found with stored | ⟨-, kept⟩
  · obtain ⟨asn, -, -, record, lookedUp, rfl⟩ := mem_foundRows.mp (mem_of_lastOf_eq_some stored)
    intro field
    exact Whois.isUnquoted_lookup lookedUp field
  · exact unquoted.records table hasTable key row kept

/-- An import stores the entries of its dump, if there is a table for them. -/
theorem holdsUnquoted_importDump (unquoted : db.HoldsUnquoted) (batchSize : Nat) (dump : Dump) :
    (importDump db batchSize dump).2.HoldsUnquoted := by
  have writes := writesOnly_importDump db batchSize dump
  refine ⟨?_, ?_⟩
  · have same : (importDump db batchSize dump).2.whois = db.whois := writes.others .whois (by decide)
    rw [same]
    exact unquoted.records
  · cases hasRoutes : db.routes with
    | none =>
        have missing : (importDump db batchSize dump).2.routes.isSome = db.routes.isSome :=
          writes.sameTables .routes
        intro final hasFinal
        rw [hasFinal, hasRoutes] at missing
        cases missing
    | some table =>
        rw [importDump_eq hasRoutes]
        intro final hasFinal key description found
        cases hasFinal
        rw [getElem?_replaceAll] at found
        rcases Option.or_eq_some_iff.mp found with stored | ⟨-, kept⟩
        · obtain ⟨entry, inDump, row⟩ := List.mem_filterMap.mp (mem_of_lastOf_eq_some stored)
          exact unquoted_of_routeRow (isUnquoted_of_mem_routeEntries inDump) row
        · exact unquoted.routes table hasRoutes key description kept

theorem holdsUnquoted_importRegistry {settings : ImportSettings} {world : ImportWorld}
    (unquoted : world.db.HoldsUnquoted) (registry : Registry) :
    (importRegistry settings world registry).2.db.HoldsUnquoted := by
  rw [importRegistry]
  split
  · exact unquoted
  · next dump fetched got =>
      rw [← db_fetchDump got] at unquoted
      exact holdsUnquoted_importDump unquoted settings.batchSize dump

theorem holdsUnquoted_importRegistries {settings : ImportSettings} {world : ImportWorld}
    (unquoted : world.db.HoldsUnquoted) (registries : List Registry) :
    (importRegistries settings world registries).2.db.HoldsUnquoted := by
  induction registries generalizing world with
  | nil => exact unquoted
  | cons registry rest ih => exact ih (holdsUnquoted_importRegistry unquoted registry)

theorem holdsUnquoted_runImport {settings : ImportSettings} {options : ImportOptions}
    {world after : ImportWorld} {decompress : Decompressor} {summary : ImportSummary}
    (unquoted : world.db.HoldsUnquoted)
    (done : runImport settings options world decompress = .ok (summary, after)) :
    after.db.HoldsUnquoted := by
  rcases runImport_cases done with ⟨_, dump, -, stored⟩ | ⟨registries, tree, stored⟩
  · rw [stored]
    exact holdsUnquoted_importDump unquoted settings.batchSize dump
  · rw [stored]
    let placed : ImportWorld := { world with tree := tree }
    have here : placed.db.HoldsUnquoted := unquoted
    exact holdsUnquoted_importRegistries here registries

theorem holdsUnquoted_runWalk {client : Whois.Client} {interval : Nat} {options : WalkOptions}
    {state : WalkState} (unquoted : db.HoldsUnquoted)
    (done : runWalk client interval options db = .ok state) : state.db.HoldsUnquoted := by
  obtain ⟨asns, -, walked⟩ := bind_eq_ok_iff.mp done
  cases walked
  exact holdsUnquoted_walk unquoted client interval asns

/-- One operation keeps the stored texts unquoted. -/
theorem Operation.holdsUnquoted_run (unquoted : db.HoldsUnquoted) (operation : Operation) :
    (operation.run db).HoldsUnquoted := by
  cases operation with
  | refresh settings mode timestamp =>
      have writes := Operation.writesOnly_refresh settings mode timestamp db
      exact unquoted.of_same (writes.others .whois (by decide)) (writes.others .routes (by decide))
  | walk client interval options =>
      rw [Operation.run]
      split
      · next done => exact holdsUnquoted_runWalk unquoted done
      · exact unquoted
  | importRoutes settings options tree decompress =>
      rw [Operation.run]
      split
      · next done => exact holdsUnquoted_runImport unquoted done
      · exact unquoted
  | createOutputs | createSources | ensure =>
      rw [Operation.run_of_created db rfl]
      exact unquoted.createAll _

theorem holdsUnquoted_runAll (unquoted : db.HoldsUnquoted) (operations : List Operation) :
    (runAll db operations).HoldsUnquoted := by
  induction operations generalizing db with
  | nil => exact unquoted
  | cons operation rest ih => exact ih (Operation.holdsUnquoted_run unquoted operation)

/-- If there are no records and no routes at first, then after any jobs and creations, in any
order, all stored texts are unquoted, whatever the clients reply and the dumps hold. -/
theorem jobs_store_unquoted_texts (noRecords : forall table, db.whois = some table -> table = ∅)
    (noRoutes : forall table, db.routes = some table -> table = ∅) (operations : List Operation) :
    (runAll db operations).HoldsUnquoted :=
  holdsUnquoted_runAll (.of_empty noRecords noRoutes) operations

/-- A client whose answers are full of quotes: in a name, in a line that is added to an
address, and in the country that replaces an earlier one. -/
def quotingClient : Whois.Client := fun source _ =>
  if source = .arin then
    ⟨["ASName: O'BRIEN", "Country: US", "Address: 1 Main\\Road", "Address: \"Suite\" 9",
      "Country: \"IE\""], none⟩
  else
    ⟨[], none⟩

/-- A dump with quotes in a description and in the line that goes on with it. -/
def quotingDump : List UInt8 :=
  ("route: 1.0.0.0/24\norigin: AS1\ndescr: O'Brien\n \"net\\work\"\n").toList.map
    fun c => UInt8.ofNat c.toNat

/-- The jobs that ask the client and read the dump, after the tables were created. -/
def quotingJobs : List Operation :=
  [.createOutputs, .walk quotingClient 0 { asns := [13335] },
    .importRoutes ⟨1, "", fun _ => .error "offline"⟩ { file := some "routes.db" }
      ⟨.directory [("routes.db", .file quotingDump true)], []⟩ noDecompressor]

/-- The jobs store a record and a route without the quotes.  The raw lines keep theirs. -/
theorem quoting_jobs_store_unquoted :
    (runAll .bare quotingJobs).HoldsUnquoted ∧
      (runAll .bare quotingJobs).whois.bind (fun table => (table[(13335 : Int)]?).map fun row =>
          ((row.fields[Whois.Field.asName]?, row.fields[Whois.Field.address]?,
            row.fields[Whois.Field.country]?), row.raw)) =
        some ((some "OBRIEN", some "1 MainRoad\nSuite 9", some "IE"),
          some ("ASName: O'BRIEN\nCountry: US\nAddress: 1 Main\\Road\nAddress: \"Suite\" 9\n" ++
            "Country: \"IE\"")) ∧
      (runAll .bare quotingJobs).routeOf "1.0.0.0" 24 1 =
        some ⟨some "1.0.0.0", some 24, some 1, some "OBrien\nnetwork"⟩ := by
  refine ⟨?_, ?_, ?_⟩
  · apply jobs_store_unquoted_texts
    · intro table impossible
      cases impossible
    · intro table impossible
      cases impossible
  · decide
  · decide

end Job
end AsCensus
