import AsCensus.Proofs.BatchedWrites
import AsCensus.Store.Connection
import AsCensus.Store.Route

namespace AsCensus

/-!
# What stays the same in a database

A database is known by what each of its tables holds (`Database.ext_content`), which lets one
statement be about all tables but one.  There are two ways to change a database by its own
statements, and each leaves most of it alone.

Creating tables adds tables without rows where they were missing (`Database.content_createAll`).
Doing it again therefore does nothing.

Writing a table may change its rows.  Every other table stays as it is, and the tables that
exist stay the same ones (`WritesOnly`).  This is reflexive and transitive, so that it holds of
any number of statements once it holds of each of them, also where some of them fail
(`WritesOnly.writeBatches`).
-/

namespace Store

/-- What a table holds. -/
abbrev TableId.Content : TableId -> Type
  | rib => RibTable
  | paths => PathTable
  | analysis => AnalysisTable
  | stats => StatsTable
  | whois => WhoisTable
  | routes => RouteTable

/-- A table without rows. -/
def TableId.noRows : (table : TableId) -> table.Content
  | rib => (∅ : RibTable)
  | paths => (∅ : PathTable)
  | analysis => (∅ : AnalysisTable)
  | stats => (∅ : StatsTable)
  | whois => (∅ : WhoisTable)
  | routes => (∅ : RouteTable)

namespace Database

variable {db : Database} {table other : TableId}

/-- What a table of a database holds, if it exists. -/
def content (db : Database) : (table : TableId) -> Option table.Content
  | .rib => db.rib
  | .paths => db.paths
  | .analysis => db.analysis
  | .stats => db.stats
  | .whois => db.whois
  | .routes => db.routes

/-- Put something in place of what a table holds. -/
def withContent (db : Database) : (table : TableId) -> Option table.Content -> Database
  | .rib, content => { db with rib := content }
  | .paths, content => { db with paths := content }
  | .analysis, content => { db with analysis := content }
  | .stats, content => { db with stats := content }
  | .whois, content => { db with whois := content }
  | .routes, content => { db with routes := content }

theorem ext_content {a b : Database} (same : forall table, a.content table = b.content table) :
    a = b := by
  have rib : a.rib = b.rib := same .rib
  have paths : a.paths = b.paths := same .paths
  have analysis : a.analysis = b.analysis := same .analysis
  have stats : a.stats = b.stats := same .stats
  have whois : a.whois = b.whois := same .whois
  have routes : a.routes = b.routes := same .routes
  cases a
  cases b
  congr

theorem has_eq (db : Database) (table : TableId) : db.has table = (db.content table).isSome := by
  cases table <;> rfl

theorem content_withContent (db : Database) (table : TableId) (content : Option table.Content) :
    (db.withContent table content).content table = content := by
  cases table <;> rfl

theorem content_withContent_of_ne (db : Database) {table other : TableId}
    (content : Option table.Content) (different : other ≠ table) :
    (db.withContent table content).content other = db.content other := by
  cases table <;> cases other <;> first | rfl | exact absurd rfl different

theorem content_create (db : Database) (table other : TableId) :
    (db.create table).content other =
      if other = table then (db.content other).or (some other.noRows) else db.content other := by
  cases table <;> cases other <;> rfl

/-- A table without rows stands where a table was missing, and what was there is left alone. -/
theorem content_createAll (db : Database) (tables : List TableId) (table : TableId) :
    (db.createAll tables).content table =
      if table ∈ tables then (db.content table).or (some table.noRows)
      else db.content table := by
  induction tables generalizing db with
  | nil => rfl
  | cons first rest ih =>
      change ((db.create first).createAll rest).content table = _
      rw [ih, content_create]
      by_cases now : table = first <;> by_cases later : table ∈ rest <;> simp [now, later]

theorem content_createAll_of_some {rows : table.Content} (tables : List TableId)
    (present : db.content table = some rows) :
    (db.createAll tables).content table = some rows := by
  rw [content_createAll, present]
  exact ite_self _

/-- What a table holds after creations was there before, or is nothing. -/
theorem content_eq_or_noRows_of_createAll {rows : table.Content} {tables : List TableId}
    (present : (db.createAll tables).content table = some rows) :
    db.content table = some rows ∨ rows = table.noRows := by
  rw [content_createAll] at present
  split at present
  · rcases Option.or_eq_some_iff.mp present with stood | ⟨-, created⟩
    · exact Or.inl stood
    · exact Or.inr (Option.some.inj created).symm
  · exact Or.inl present

theorem has_createAll (db : Database) (tables : List TableId) (table : TableId) :
    (db.createAll tables).has table = (db.has table || tables.contains table) := by
  rw [has_eq, has_eq, content_createAll]
  by_cases named : table ∈ tables <;> simp [named]

theorem createAll_of_has {tables : List TableId}
    (present : forall table, table ∈ tables -> db.has table = true) :
    db.createAll tables = db := by
  apply ext_content
  intro table
  rw [content_createAll]
  by_cases named : table ∈ tables
  · have stands := present table named
    rw [has_eq, Option.isSome_iff_exists] at stands
    rcases stands with ⟨rows, found⟩
    rw [if_pos named, found]
    rfl
  · exact if_neg named

theorem createAll_twice (db : Database) (tables : List TableId) :
    (db.createAll tables).createAll tables = db.createAll tables := by
  apply createAll_of_has
  intro table named
  rw [has_createAll]
  simp [named]

end Database

/-! ## Writing one table -/

/-- Nothing changes but rows of one table. -/
structure WritesOnly (written : TableId) (before after : Database) : Prop where
  others : forall table, table ≠ written -> after.content table = before.content table
  sameTables : forall table, after.has table = before.has table

namespace WritesOnly

variable {written : TableId} {before after final : Database}

theorem refl (written : TableId) (db : Database) : WritesOnly written db db :=
  ⟨fun _ _ => rfl, fun _ => rfl⟩

theorem trans (first : WritesOnly written before after) (second : WritesOnly written after final) :
    WritesOnly written before final where
  others table different := (second.others table different).trans (first.others table different)
  sameTables table := (second.sameTables table).trans (first.sameTables table)

theorem withContent {db : Database} {content : Option written.Content}
    (same : content.isSome = db.has written) :
    WritesOnly written db (db.withContent written content) where
  others _ different := db.content_withContent_of_ne content different
  sameTables table := by
    by_cases own : table = written
    · subst own
      rw [Database.has_eq, Database.content_withContent, same]
    · rw [Database.has_eq, Database.has_eq, db.content_withContent_of_ne content own]

/-- Changing the rows of a table that exists is no other change. -/
theorem update {db : Database} (change : written.Content -> written.Content)
    (wrote : (db.content written).map (fun rows => db.withContent written (some (change rows))) =
      some after) : WritesOnly written db after := by
  rcases Option.map_eq_some_iff.mp wrote with ⟨rows, present, rfl⟩
  apply withContent
  rw [Database.has_eq, present]
  rfl

/-- Statements that each write one batch write what each of them does, also where some fail. -/
theorem writeBatches {write : Database -> List X -> Option Database}
    (writes : forall before part after, write before part = some after ->
      WritesOnly written before after) (db : Database) (parts : List (List X)) :
    WritesOnly written db (writeBatches write db parts).1 := by
  have resumed (state : Database × Option Nat) :
      WritesOnly written state.1 (parts.foldl (writeNext write) state).1 := by
    induction parts generalizing state with
    | nil => exact refl written state.1
    | cons part rest ih =>
        have now : WritesOnly written state.1 (writeNext write state part).1 := by
          rw [writeNext]
          split
          · next after wrote => exact writes state.1 part after wrote
          · exact refl written state.1
        exact now.trans (ih _)
  exact resumed (db, some 0)

end WritesOnly

theorem writesOnly_storeCounts (db : Database) (role : Role) (family : AddressFamily)
    (counts : List (Asn × Nat)) (timestamp : Int) (batchSize : Nat) :
    WritesOnly .stats db (db.storeCounts role family counts timestamp batchSize).1 := by
  apply WritesOnly.writeBatches
  intro before part after wrote
  exact WritesOnly.update _ wrote

theorem writesOnly_replaceRoutes (db : Database) (entries : List Rpsl.RouteEntry) :
    WritesOnly .routes db (db.replaceRoutes entries).1 := by
  apply WritesOnly.writeBatches
  intro before part after wrote
  rw [Database.writeRoutes] at wrote
  split at wrote
  · cases wrote
  · exact WritesOnly.update _ wrote

/-- A connection on which creating tables succeeds shows them all, and nothing else is
different. -/
theorem Connection.db_ensureAll {connection after : Connection} {tables : List TableId}
    (done : connection.ensureAll tables = .ok after) :
    after.db = connection.db.createAll tables := by
  rw [ensureAll] at done
  split at done
  · split at done
    · cases done
    · next none =>
        cases done
        symm
        apply Database.createAll_of_has
        intro table named
        have present := List.find?_eq_none.mp none table named
        simpa using present
  · cases done
    rfl

namespace RouteWriter

theorem writesOnly_flush (writer : RouteWriter) (db : Database) :
    WritesOnly .routes db (writer.flush db).2 := by
  rw [flush]
  split
  · exact .refl .routes db
  · have replaced := writesOnly_replaceRoutes db writer.queue.toList
    split
    · next wrote => rw [wrote] at replaced; exact replaced
    · next failed => rw [failed] at replaced; exact replaced

theorem writesOnly_push (writer : RouteWriter) (db : Database) (entry : Rpsl.RouteEntry) :
    WritesOnly .routes db (writer.push db entry).2 := by
  rw [push]
  split
  · dsimp only
    split
    · exact writesOnly_flush _ db
    · exact .refl .routes db
  · exact .refl .routes db

theorem writesOnly_pushAll (writer : RouteWriter) (db : Database)
    (entries : List Rpsl.RouteEntry) : WritesOnly .routes db (writer.pushAll db entries).2 := by
  induction entries generalizing writer db with
  | nil => exact .refl .routes db
  | cons entry rest ih => exact (writesOnly_push writer db entry).trans (ih _ _)

end RouteWriter
end Store
end AsCensus
