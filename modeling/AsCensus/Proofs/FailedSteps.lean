import AsCensus.Proofs.AnalysisCounts
import AsCensus.Proofs.StatsWrites

namespace AsCensus

/-!
# Steps that fail

A step first takes its counts and then stores them in batches.  If the counts cannot be taken,
nothing is stored.  If they can, only a missing table makes a batch fail, and then every batch
fails; without counts there is no batch and the step succeeds.  Either way a step that fails
leaves the database as it was (`Step.run_of_none`).

So a run is what its successful steps make of the database, as if the others had not been
taken (`runSteps_succeeded`).
-/

namespace Store

variable {db : Database}

/-- Without a table nothing is stored, which fails unless there is nothing to store. -/
theorem storeCounts_of_no_table (noTable : db.stats = none) (role : Role)
    (family : AddressFamily) (counts : List (Asn × Nat)) (timestamp : Int) (batchSize : Nat) :
    db.storeCounts role family counts timestamp batchSize =
      (db, if counts = [] then some 0 else none) := by
  have fails : forall part, Database.writeCounts role family timestamp db part = none := by
    intro part
    rw [Database.writeCounts, noTable]
    rfl
  have parts := @batches_eq_nil_iff (Asn × Nat) (max batchSize 1) (by omega) counts
  rw [Database.storeCounts, writeBatches_of_none fails]
  simp only [parts]

end Store

namespace Job

open Store

variable {settings : StatisticsSettings} {mode : TransitMethod} {timestamp : Int} {db : Database}

/-- The counts that a step is to store, if they can be taken. -/
def Step.counts (step : Step) (settings : StatisticsSettings) (mode : TransitMethod)
    (db : Database) : Option (List (Asn × Nat)) :=
  match step.role with
  | .origin => db.originCounts step.family
  | .transit =>
      (transitTally settings db step.family mode).map fun tally =>
        tally.toList.filter fun entry => 0 < entry.2

/-- Why the counts of a step cannot be taken. -/
inductive CountFails (settings : StatisticsSettings) (mode : TransitMethod) (db : Database) :
    Step -> Prop
  /-- The origins of the announcements cannot be counted. -/
  | origins {family : AddressFamily} (unread : db.originCounts family = none) :
      CountFails settings mode db ⟨.origin, family⟩
  /-- The paths of the announcements cannot be tallied. -/
  | paths {family : AddressFamily} (conditions : mode = .path)
      (unread : db.transitCounts family .empty = none) :
      CountFails settings mode db ⟨.transit, family⟩
  /-- The systems to ask about cannot be listed. -/
  | systems {family : AddressFamily} (asks : mode = .analysis)
      (unread : db.transitSystems = none) : CountFails settings mode db ⟨.transit, family⟩
  /-- A worker has no connection, or its query about one of the systems fails. -/
  | system {family : AddressFamily} {systems : List Asn} {asn : Asn} (asks : mode = .analysis)
      (listed : db.transitSystems = some systems) (member : asn ∈ systems)
      (unread :
        ((settings.target.view db).bind fun seen => seen.transitCountOf asn family) = none) :
      CountFails settings mode db ⟨.transit, family⟩

/-- The steps with a result, by the reports of all steps. -/
def succeeded (steps : List Step) (reports : List StepReport) : List Step :=
  ((steps.zip reports).filter fun pair => pair.2.rows.isSome).map Prod.fst

/-! ## One step -/

theorem Step.run_eq (step : Step) :
    step.run settings mode timestamp db =
      match step.counts settings mode db with
      | none => (db, none)
      | some counts =>
          db.storeCounts step.role step.family counts timestamp settings.batchSize := by
  rcases step with ⟨role, family⟩
  cases role with
  | origin => rfl
  | transit =>
      simp only [Step.run, refreshTransit, Step.counts]
      cases transitTally settings db family mode <;> rfl

/-- Either nothing is stored, or all counts are. -/
theorem Step.run_cases (step : Step) :
    (step.run settings mode timestamp db = (db, none) ∧
        (step.counts settings mode db = none ∨
          db.stats = none ∧ step.counts settings mode db ≠ some [])) ∨
      exists counts, step.counts settings mode db = some counts ∧
        (step.run settings mode timestamp db).2 = some counts.length ∧
        (db.stats = none -> counts = []) := by
  cases counted : step.counts settings mode db with
  | none => exact Or.inl ⟨by rw [Step.run_eq, counted], Or.inl rfl⟩
  | some counts =>
      have ran : step.run settings mode timestamp db =
          db.storeCounts step.role step.family counts timestamp settings.batchSize := by
        rw [Step.run_eq, counted]
      cases hasStats : db.stats with
      | some table =>
          rw [ran, storeCounts_eq hasStats]
          exact Or.inr ⟨counts, rfl, rfl, fun noTable => nomatch noTable⟩
      | none =>
          rw [ran, storeCounts_of_no_table hasStats]
          by_cases empty : counts = []
          · exact Or.inr ⟨counts, rfl, by rw [if_pos empty, empty]; rfl, fun _ => empty⟩
          · exact Or.inl ⟨by rw [if_neg empty], Or.inr ⟨rfl, by simpa using empty⟩⟩

/-- A step that fails leaves the database as it was. -/
theorem Step.run_of_none {step : Step} (failed : (step.run settings mode timestamp db).2 = none) :
    (step.run settings mode timestamp db).1 = db := by
  rcases step.run_cases with ⟨nothing, _⟩ | ⟨counts, _, written, _⟩
  · rw [nothing]
  · rw [written] at failed
    cases failed

theorem failed_gather_eq_nil_iff {results : List (Asn × Option Nat)} :
    (gather results).failed = [] <-> forall result, result ∈ results -> result.2 ≠ none := by
  simp [gather, List.filter_eq_nil_iff]

/-- Workers fail if a system cannot be counted, whichever worker it belongs to. -/
theorem transitTally_analysis_eq_none_iff {family : AddressFamily} :
    transitTally settings db family .analysis = none <->
      db.transitSystems = none ∨
        exists systems, db.transitSystems = some systems ∧ exists asn, asn ∈ systems ∧
          ((settings.target.view db).bind fun seen => seen.transitCountOf asn family) = none := by
  cases listed : db.transitSystems with
  | none => simp [transitTally, listed]
  | some systems =>
      have counted := @failed_gather_eq_nil_iff
        (countChunk (settings.target.view db) family systems)
      simp only [transitTally, listed, Option.bind_eq_bind, Option.bind_some,
        countTransit_eq_gather, List.isEmpty_iff, counted]
      simp [countChunk]

theorem Step.counts_eq_none_iff {step : Step} :
    step.counts settings mode db = none <-> CountFails settings mode db step := by
  rcases step with ⟨role, family⟩
  constructor
  · intro none
    cases role with
    | origin => exact .origins none
    | transit =>
        have uncounted := Option.map_eq_none_iff.mp none
        cases mode with
        | path => exact .paths rfl uncounted
        | analysis =>
            rcases transitTally_analysis_eq_none_iff.mp uncounted with
              unread | ⟨systems, listed, asn, member, unread⟩
            · exact .systems rfl unread
            · exact .system rfl listed member unread
  · intro fails
    cases fails with
    | origins unread => exact unread
    | paths conditions unread =>
        subst conditions
        exact Option.map_eq_none_iff.mpr unread
    | systems asks unread =>
        subst asks
        exact Option.map_eq_none_iff.mpr (transitTally_analysis_eq_none_iff.mpr (Or.inl unread))
    | system asks listed member unread =>
        subst asks
        exact Option.map_eq_none_iff.mpr
          (transitTally_analysis_eq_none_iff.mpr (Or.inr ⟨_, listed, _, member, unread⟩))

/-- A step fails when its counts cannot be taken, or when there are some and no table. -/
theorem Step.run_eq_none_iff {step : Step} :
    (step.run settings mode timestamp db).2 = none <->
      CountFails settings mode db step ∨
        db.stats = none ∧ step.counts settings mode db ≠ some [] := by
  rw [← Step.counts_eq_none_iff]
  rcases @Step.run_cases settings mode timestamp db step with
    ⟨nothing, reason⟩ | ⟨counts, counted, written, stored⟩
  · rw [nothing]
    exact ⟨fun _ => reason, fun _ => rfl⟩
  · rw [written, counted]
    constructor
    · intro impossible
      cases impossible
    · rintro (impossible | ⟨noTable, someCounts⟩)
      · cases impossible
      · exact absurd (congrArg some (stored noTable)) someCounts

/-! ## A run -/

section
variable (settings mode timestamp)

theorem runSteps_cons (db : Database) (step : Step) (rest : List Step) :
    runSteps settings mode timestamp db (step :: rest) =
      ((runSteps settings mode timestamp (step.run settings mode timestamp db).1 rest).1,
        ⟨step.role.column step.family, (step.run settings mode timestamp db).2⟩ ::
          (runSteps settings mode timestamp (step.run settings mode timestamp db).1 rest).2) :=
  rfl

theorem runSteps_append (db : Database) (front back : List Step) :
    runSteps settings mode timestamp db (front ++ back) =
      ((runSteps settings mode timestamp (runSteps settings mode timestamp db front).1 back).1,
        (runSteps settings mode timestamp db front).2 ++
          (runSteps settings mode timestamp
            (runSteps settings mode timestamp db front).1 back).2) := by
  induction front generalizing db with
  | nil => rfl
  | cons step front ih => rw [List.cons_append, runSteps_cons, ih, runSteps_cons, List.cons_append]

/-- Every step of a run is reported, in order. -/
theorem columns_runSteps (db : Database) (steps : List Step) :
    (runSteps settings mode timestamp db steps).2.map StepReport.column =
      steps.map fun step => step.role.column step.family := by
  induction steps generalizing db with
  | nil => rfl
  | cons step rest ih => rw [runSteps_cons, List.map_cons, List.map_cons, ih]

theorem length_runSteps (db : Database) (steps : List Step) :
    (runSteps settings mode timestamp db steps).2.length = steps.length := by
  have columns := congrArg List.length (columns_runSteps settings mode timestamp db steps)
  rw [List.length_map, List.length_map] at columns
  exact columns

/-- The steps that failed might as well not have been taken. -/
theorem runSteps_succeeded (db : Database) (steps : List Step) :
    runSteps settings mode timestamp db
        (succeeded steps (runSteps settings mode timestamp db steps).2) =
      ((runSteps settings mode timestamp db steps).1,
        (runSteps settings mode timestamp db steps).2.filter fun report => report.rows.isSome) := by
  induction steps generalizing db with
  | nil => rfl
  | cons step rest ih =>
      have later := ih (step.run settings mode timestamp db).1
      rw [runSteps_cons, succeeded, List.zip_cons_cons, List.filter_cons, List.filter_cons]
      cases result : (step.run settings mode timestamp db).2 with
      | none =>
          rw [Step.run_of_none result] at later ⊢
          exact later
      | some rows =>
          simp only [Option.isSome_some, if_true, List.map_cons, runSteps_cons, result]
          rw [succeeded] at later
          rw [later]

/-- A run reports its four steps in order.  A step that fails leaves every table as the step
found it, and it fails exactly when its counts cannot be taken or cannot be stored.  The steps
after it go on from there, and the run ends as if it had consisted of the successful steps
alone, which report the same again. -/
theorem failed_steps_leave_no_trace (db : Database) :
    let run := runStatistics settings mode timestamp db
    run.2.steps.map StepReport.column =
        ["origin_v4_prefixes", "origin_v6_prefixes", "transit_v4_prefixes", "transit_v6_prefixes"] ∧
      (forall before step after, Step.all = before ++ step :: after ->
        let here := (runSteps settings mode timestamp db before).1
        let taken := step.run settings mode timestamp here
        run.2.steps[before.length]? = some ⟨step.role.column step.family, taken.2⟩ ∧
          run.1 = (runSteps settings mode timestamp taken.1 after).1 ∧
          (taken.2 = none -> taken.1 = here) ∧
          (taken.2 = none <-> CountFails settings mode here step ∨
            here.stats = none ∧ step.counts settings mode here ≠ some [])) ∧
      runSteps settings mode timestamp db (succeeded Step.all run.2.steps) =
        (run.1, run.2.steps.filter fun report => report.rows.isSome) := by
  refine ⟨?_, ?_, ?_⟩
  · exact (columns_runSteps settings mode timestamp db Step.all).trans (by decide)
  · intro before step after order
    have whole := runSteps_append settings mode timestamp db before (step :: after)
    rw [← order, runSteps_cons] at whole
    refine ⟨?_, congrArg Prod.fst whole, Step.run_of_none, Step.run_eq_none_iff⟩
    have place := length_runSteps settings mode timestamp db before
    change (runSteps settings mode timestamp db Step.all).2[before.length]? = _
    rw [whole, ← place, List.getElem?_append_right (Nat.le_refl _), Nat.sub_self]
    rfl
  · exact runSteps_succeeded settings mode timestamp db Step.all

end

/-- Without an analysis the transit of the two peers cannot be asked for.  The run goes on after
the first step that fails, and leaves what the two steps before it have stored. -/
theorem run_without_analysis_stores_origins :
    let run := runStatistics ⟨.shared, 1, 1⟩ .analysis 7 twoPeers
    let here := (runSteps ⟨.shared, 1, 1⟩ .analysis 7 twoPeers
      [⟨.origin, .ipv4⟩, ⟨.origin, .ipv6⟩]).1
    run.2.steps.map StepReport.rows = [some 1, some 0, none, none] ∧
      (Step.run ⟨.transit, .ipv4⟩ ⟨.shared, 1, 1⟩ .analysis 7 here).1 = here ∧ run.1 = here := by
  have reports : (runStatistics ⟨.shared, 1, 1⟩ .analysis 7 twoPeers).2.steps.map StepReport.rows =
      [some 1, some 0, none, none] := by decide
  rcases failed_steps_leave_no_trace ⟨.shared, 1, 1⟩ .analysis 7 twoPeers with
    ⟨_, each, successful⟩
  refine ⟨reports, ?_, ?_⟩
  · rcases each [⟨.origin, .ipv4⟩, ⟨.origin, .ipv6⟩] ⟨.transit, .ipv4⟩ [⟨.transit, .ipv6⟩] rfl with
      ⟨_, _, untouched, fails_iff⟩
    exact untouched (fails_iff.mpr (Or.inl (.systems rfl (by decide))))
  · have steps : succeeded Step.all
        (runStatistics ⟨.shared, 1, 1⟩ .analysis 7 twoPeers).2.steps =
          [⟨.origin, .ipv4⟩, ⟨.origin, .ipv6⟩] := by decide
    rw [steps] at successful
    exact (congrArg Prod.fst successful).symm

end Job
end AsCensus
