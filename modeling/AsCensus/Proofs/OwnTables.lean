import AsCensus.Job.RouteImport
import AsCensus.Proofs.FailedSteps
import AsCensus.Proofs.TableFrames
import AsCensus.Proofs.WhoisRun

namespace AsCensus

/-!
# Every job has a table of its own

A job writes rows of one table and leaves everything else alone, whatever fails on the way.
This holds of a whole job because it holds of each step, of each visit and of each batch.

An `Operation` is a job or the creation of tables.  No job owns a table that the collector
fills.  So a sequence of operations, in any order, can change such a table in one way only:
where it was missing, a creation that names it leaves it without rows (`content_runAll`).
-/

namespace Job

open Store

/-! ## The jobs -/

theorem bind_eq_ok_iff {first : Except E X} {next : X -> Except E Y} {result : Y} :
    first >>= next = .ok result <-> exists value, first = .ok value ∧ next value = .ok result := by
  cases first with
  | error error =>
      constructor
      · intro done
        cases done
      · rintro ⟨_, found, _⟩
        cases found
  | ok value =>
      constructor
      · intro done
        exact ⟨value, rfl, done⟩
      · rintro ⟨_, found, done⟩
        cases found
        exact done

theorem Step.writesOnly_run (step : Step) (settings : StatisticsSettings) (mode : TransitMethod)
    (timestamp : Int) (db : Database) :
    WritesOnly .stats db (step.run settings mode timestamp db).1 := by
  rw [Step.run_eq]
  split
  · exact .refl .stats db
  · exact writesOnly_storeCounts db _ _ _ _ _

theorem writesOnly_runSteps (settings : StatisticsSettings) (mode : TransitMethod)
    (timestamp : Int) (db : Database) (steps : List Step) :
    WritesOnly .stats db (runSteps settings mode timestamp db steps).1 := by
  induction steps generalizing db with
  | nil => exact .refl .stats db
  | cons step rest ih => exact (step.writesOnly_run settings mode timestamp db).trans (ih _)

theorem writesOnly_runStatistics (settings : StatisticsSettings) (mode : TransitMethod)
    (timestamp : Int) (db : Database) :
    WritesOnly .stats db (runStatistics settings mode timestamp db).1 :=
  writesOnly_runSteps settings mode timestamp db Step.all

theorem writesOnly_walk (client : Whois.Client) (interval : Nat) (db : Database)
    (asns : List Asn) : WritesOnly .whois db (walk client interval db asns).db := by
  rw [(visited_walk client interval db asns).stored]
  exact WritesOnly.withContent (isSome_whois_afterWalk client db asns)

theorem writesOnly_importDump (db : Database) (batchSize : Nat) (dump : Dump) :
    WritesOnly .routes db (importDump db batchSize dump).2 :=
  (RouteWriter.writesOnly_pushAll _ db _).trans (RouteWriter.writesOnly_flush _ _)

/-- Fetching a dump leaves the database alone. -/
theorem db_fetchDump {settings : ImportSettings} {world fetched : ImportWorld}
    {registry : Rpsl.Registry} {dump : Dump}
    (got : fetchDump settings world registry = .ok (dump, fetched)) : fetched.db = world.db := by
  unfold fetchDump at got
  split at got
  · cases got
  · split at got
    · cases got
    · cases got
      rfl

theorem writesOnly_importRegistry (settings : ImportSettings) (world : ImportWorld)
    (registry : Rpsl.Registry) :
    WritesOnly .routes world.db (importRegistry settings world registry).2.db := by
  rw [importRegistry]
  split
  · exact .refl .routes world.db
  · next dump fetched got =>
      rw [← db_fetchDump got]
      exact writesOnly_importDump fetched.db settings.batchSize dump

theorem writesOnly_importRegistries (settings : ImportSettings) (world : ImportWorld)
    (registries : List Rpsl.Registry) :
    WritesOnly .routes world.db (importRegistries settings world registries).2.db := by
  induction registries generalizing world with
  | nil => exact .refl .routes world.db
  | cons registry rest ih =>
      exact (writesOnly_importRegistry settings world registry).trans (ih _)

/-- A run that does not fail imports the dump of a file, or the dumps of registries. -/
theorem runImport_cases {settings : ImportSettings} {options : ImportOptions}
    {world after : ImportWorld} {decompress : Decompressor} {summary : ImportSummary}
    (done : runImport settings options world decompress = .ok (summary, after)) :
    (exists path dump, openDump decompress world.tree path = .ok dump ∧
        after.db = (importDump world.db settings.batchSize dump).2) ∨
      exists registries tree,
        after.db = (importRegistries settings { world with tree := tree } registries).2.db := by
  rw [runImport] at done
  split at done
  · next path _ =>
      rcases bind_eq_ok_iff.mp done with ⟨_, stored, done⟩
      rcases bind_eq_ok_iff.mp stored with ⟨dump, opened, stored⟩
      cases stored
      cases done
      exact Or.inl ⟨path, dump, opened, rfl⟩
  · rcases bind_eq_ok_iff.mp done with ⟨registries, _, done⟩
    rcases bind_eq_ok_iff.mp done with ⟨tree, _, done⟩
    cases done
    exact Or.inr ⟨registries, tree, rfl⟩

theorem writesOnly_runImport {settings : ImportSettings} {options : ImportOptions}
    {world after : ImportWorld} {decompress : Decompressor} {summary : ImportSummary}
    (done : runImport settings options world decompress = .ok (summary, after)) :
    WritesOnly .routes world.db after.db := by
  rcases runImport_cases done with ⟨_, dump, _, stored⟩ | ⟨registries, tree, stored⟩
  · rw [stored]
    exact writesOnly_importDump world.db settings.batchSize dump
  · rw [stored]
    exact writesOnly_importRegistries settings { world with tree := tree } registries

theorem writesOnly_runWalk {client : Whois.Client} {interval : Nat} {options : WalkOptions}
    {db : Database} {state : WalkState} (done : runWalk client interval options db = .ok state) :
    WritesOnly .whois db state.db := by
  rcases bind_eq_ok_iff.mp done with ⟨asns, _, walked⟩
  cases walked
  exact writesOnly_walk client interval db asns

/-! ## Jobs and creations in any order -/

/-- What is done to a database: a job is run, or tables are created. -/
inductive Operation
  | refresh (settings : StatisticsSettings) (mode : TransitMethod) (timestamp : Int)
  | walk (client : Whois.Client) (interval : Nat) (options : WalkOptions)
  | importRoutes (settings : ImportSettings) (options : ImportOptions) (tree : FileTree)
      (decompress : Decompressor)
  | createOutputs
  | createSources
  | ensure (name : String)

namespace Operation

/-- The database after an operation.  A job that does not start changes nothing. -/
def run (db : Database) : Operation -> Database
  | refresh settings mode timestamp => (runStatistics settings mode timestamp db).1
  | walk client interval options =>
      match runWalk client interval options db with
      | .ok state => state.db
      | .error _ => db
  | importRoutes settings options tree decompress =>
      match runImport settings options ⟨db, tree⟩ decompress with
      | .ok (_, after) => after.db
      | .error _ => db
  | createOutputs => db.createOutputs
  | createSources => db.createSources
  | ensure name =>
      match db.ensure name with
      | .ok after => after
      | .error _ => db

/-- The table that an operation writes, if it is a job. -/
def written : Operation -> Option TableId
  | refresh _ _ _ => some .stats
  | walk _ _ _ => some .whois
  | importRoutes _ _ _ _ => some .routes
  | _ => none

/-- The tables that an operation creates where they are missing. -/
def named : Operation -> List TableId
  | createOutputs => TableId.outputs
  | createSources => TableId.sources
  | ensure name => (TableId.ofName? name).toList
  | _ => []

theorem run_ensure (db : Database) (name : String) :
    run db (ensure name) = db.createAll (TableId.ofName? name).toList := by
  rw [run, Database.ensure]
  cases TableId.ofName? name <;> rfl

theorem run_of_created {operation : Operation} (db : Database) (creates : operation.written = none) :
    operation.run db = db.createAll operation.named := by
  cases operation with
  | refresh | walk | importRoutes => cases creates
  | createOutputs | createSources => rfl
  | ensure name => exact run_ensure db name

theorem writesOnly_refresh (settings : StatisticsSettings) (mode : TransitMethod)
    (timestamp : Int) (db : Database) :
    WritesOnly .stats db (run db (refresh settings mode timestamp)) :=
  writesOnly_runStatistics settings mode timestamp db

theorem writesOnly_walk (client : Whois.Client) (interval : Nat) (options : WalkOptions)
    (db : Database) : WritesOnly .whois db (run db (walk client interval options)) := by
  rw [run]
  split
  · next done => exact writesOnly_runWalk done
  · exact .refl .whois db

theorem writesOnly_importRoutes (settings : ImportSettings) (options : ImportOptions)
    (tree : FileTree) (decompress : Decompressor) (db : Database) :
    WritesOnly .routes db (run db (importRoutes settings options tree decompress)) := by
  rw [run]
  split
  · next done => exact writesOnly_runImport done
  · exact .refl .routes db

/-- One operation leaves a table that it does not write to the creations. -/
theorem content_run {operation : Operation} (db : Database) {table : TableId}
    (notWritten : operation.written ≠ some table) :
    (operation.run db).content table = (db.createAll operation.named).content table := by
  have apart {own : TableId} (job : operation.written = some own) : table ≠ own := by
    rintro rfl
    exact notWritten job
  cases operation with
  | refresh => exact (writesOnly_refresh _ _ _ db).others table (apart rfl)
  | walk => exact (writesOnly_walk _ _ _ db).others table (apart rfl)
  | importRoutes => exact (writesOnly_importRoutes _ _ _ _ db).others table (apart rfl)
  | createOutputs | createSources | ensure => rw [run_of_created db rfl]

end Operation

/-- The database after operations one after the other. -/
def runAll (db : Database) (operations : List Operation) : Database :=
  operations.foldl Operation.run db

/-- A sequence of operations leaves a table that none of them writes to the creations. -/
theorem content_runAll (db : Database) {operations : List Operation} {table : TableId}
    (notWritten : forall operation, operation ∈ operations -> operation.written ≠ some table) :
    (runAll db operations).content table =
      (db.createAll (operations.flatMap Operation.named)).content table := by
  induction operations generalizing db with
  | nil => rfl
  | cons first rest ih =>
      have now := Operation.content_run db (notWritten first List.mem_cons_self)
      have later := ih (first.run db) fun operation member =>
        notWritten operation (List.mem_cons_of_mem first member)
      change (runAll (first.run db) rest).content table = _
      rw [later, Database.content_createAll, now, ← Database.content_createAll,
        List.flatMap_cons, Database.createAll, Database.createAll, Database.createAll,
        List.foldl_append]

theorem written_ne_source (operation : Operation) {table : TableId}
    (source : table ∈ TableId.sources) : operation.written ≠ some table := by
  intro written
  cases operation <;> cases written <;> revert source <;> decide

/-- A job changes nothing but rows of its own table, whatever it is given and whatever fails,
and creates and drops no table.  A creation leaves every row as it is, creates exactly the
tables that it names and that are missing, and does nothing the second time; this is also what
a connection does on which creating tables succeeds.  After any sequence of jobs and creations
a table that the collector fills holds what it held before; if it was missing, it is missing
still, or has no rows if a creation named it. -/
theorem jobs_write_their_own_tables (db : Database) :
    (forall settings mode timestamp,
        WritesOnly .stats db (Operation.run db (.refresh settings mode timestamp))) ∧
      (forall client interval options,
        WritesOnly .whois db (Operation.run db (.walk client interval options))) ∧
      (forall settings options tree decompress,
        WritesOnly .routes db
          (Operation.run db (.importRoutes settings options tree decompress))) ∧
      (forall operation : Operation, operation.written = none ->
        (forall table, (operation.run db).content table =
          if table ∈ operation.named then (db.content table).or (some table.noRows)
          else db.content table) ∧
        operation.run (operation.run db) = operation.run db) ∧
      (forall (connection after : Connection) (tables : List TableId), connection.db = db ->
        connection.ensureAll tables = .ok after -> after.db = db.createAll tables) ∧
      forall operations table, table ∈ TableId.sources ->
        (forall rows, db.content table = some rows ->
          (runAll db operations).content table = some rows) ∧
        (db.content table = none -> (runAll db operations).content table =
          if table ∈ operations.flatMap Operation.named then some table.noRows else none) := by
  refine ⟨?_, ?_, ?_, ?_, ?_, ?_⟩
  · intro settings mode timestamp
    exact Operation.writesOnly_refresh settings mode timestamp db
  · intro client interval options
    exact Operation.writesOnly_walk client interval options db
  · intro settings options tree decompress
    exact Operation.writesOnly_importRoutes settings options tree decompress db
  · intro operation creates
    rw [Operation.run_of_created _ creates, Operation.run_of_created _ creates]
    exact ⟨db.content_createAll operation.named, db.createAll_twice operation.named⟩
  · intro connection after tables same done
    rw [← same]
    exact Connection.db_ensureAll done
  · intro operations table source
    have left := @content_runAll db operations table fun operation _ =>
      written_ne_source operation source
    constructor
    · intro rows present
      rw [left]
      exact Database.content_createAll_of_some _ present
    · intro missing
      rw [left, Database.content_createAll, missing]
      rfl

/-- A creation, a job and a name that is no table: the paths that two peers report stay as they
are while the statistics are written, and the analysis that was missing has no rows. -/
theorem two_peers_are_only_read :
    let after := runAll twoPeers
      [.createSources, .refresh ⟨.shared, 1, 1⟩ .path 7, .ensure "rip", .ensure "gen_whois_asn"]
    after.content .paths = some twoPeersPaths ∧ after.content .analysis = some ∅ ∧
      after.stats ≠ twoPeers.stats := by
  rcases jobs_write_their_own_tables twoPeers with ⟨_, _, _, _, _, sequences⟩
  refine ⟨?_, ?_, by decide⟩
  · exact (sequences _ .paths (by decide)).1 twoPeersPaths rfl
  · exact (sequences _ .analysis (by decide)).2 rfl

end Job
end AsCensus
