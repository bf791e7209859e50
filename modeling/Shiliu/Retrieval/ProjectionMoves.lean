/-
Module: Shiliu.Retrieval.ProjectionMoves
Purpose: What the transactions of the projection do. A publication leaves exactly the rows of the
  units it publishes; `RowMove` lists what a transaction can do to one video's task, formal state
  and stored units, and every transaction is shown to be such a move for every video.
Trusted boundary: none
Main exports: ProjectionOf, publishUnits_spec, RowMove, lockClaim_ok, publish_rowMove
-/
import Shiliu.Retrieval.Projection

set_option linter.all false

namespace Shiliu.Retrieval

open Shiliu.Library Shiliu.Storage

variable {Video Content : Type}

/-! ## Stored units -/

/-- The stored units of a video are the built ones: every stored row is a built unit, and every
built unit's id is stored. -/
structure ProjectionOf (rules : ProjectionRules Video Content)
    (units : UnitTable Content) (videoId generation : Nat)
    (built : List (SearchUnit Content)) : Prop where
  everyRow : ∀ row ∈ units, row.videoId = videoId →
    ∃ unit ∈ built, row = rules.stored built generation unit
  everyUnit : ∀ unit ∈ built, ∃ row ∈ units, row.unitId = unit.unitId ∧ row.videoId = videoId

/-- The id of a stored row says whose it is. -/
def Named (rules : ProjectionRules Video Content)
    (units : UnitTable Content) : Prop :=
  ∀ row ∈ units, rules.videoOf row.unitId = row.videoId

section Units

variable {rules : ProjectionRules Video Content}
  {units : UnitTable Content} {videoId generation : Nat}
  {built : List (SearchUnit Content)}

theorem ProjectionOf.congr {after : UnitTable Content}
    (projection : ProjectionOf rules units videoId generation built)
    (same : ∀ row, row.videoId = videoId → (row ∈ after ↔ row ∈ units)) :
    ProjectionOf rules after videoId generation built where
  everyRow row isRow ofVideo := projection.everyRow row ((same row ofVideo).mp isRow) ofVideo
  everyUnit unit isBuilt := by
    obtain ⟨row, isRow, sameId, ofVideo⟩ := projection.everyUnit unit isBuilt
    exact ⟨row, (same row ofVideo).mpr isRow, sameId, ofVideo⟩

theorem upserted_storeOver (row : StoredUnit Content) :
    units.upserted row (storeOver row) = row := by
  cases found : units.lookup row.key with
  | none => exact Table.upserted_of_absent found
  | some old =>
      have sameKey : old.key = row.key := Table.key_of_lookup found
      have sameId : old.unitId = row.unitId := sameKey
      rw [Table.upserted_of_lookup found]
      simp [storeOver, sameId]

/-- Storing some units: an id that is none of theirs leads to what it led to, any other to one of
the units that have it. -/
theorem lookup_storeAll (row : SearchUnit Content → StoredUnit Content)
    (keeps : ∀ unit, (row unit).unitId = unit.unitId) (fresh : List (SearchUnit Content)) :
    ∀ (start : UnitTable Content) (unitId : String),
      let after := fresh.foldl
        (fun table unit => table.upsert (row unit) (storeOver (row unit))) start
      (after.lookup unitId = start.lookup unitId ∧ unitId ∉ fresh.map SearchUnit.unitId) ∨
        ∃ unit ∈ fresh, unit.unitId = unitId ∧ after.lookup unitId = some (row unit) := by
  induction fresh with
  | nil => exact fun start unitId => Or.inl ⟨rfl, List.not_mem_nil⟩
  | cons unit rest inductionHypothesis =>
      intro start unitId
      rcases inductionHypothesis (start.upsert (row unit) (storeOver (row unit))) unitId with
        ⟨kept, absent⟩ | ⟨other, isOther, sameId, found⟩
      · by_cases same : unitId = unit.unitId
        · refine Or.inr ⟨unit, List.mem_cons_self, same.symm, kept.trans ?_⟩
          have stored : (start.upsert (row unit) (storeOver (row unit))).lookup (row unit).key =
              some (row unit) := by
            rw [Table.lookup_upsert_self, upserted_storeOver]
          rwa [StoredUnit.key, keeps, ← same] at stored
        · refine Or.inl ⟨kept.trans (Table.lookup_upsert_of_ne ?_), ?_⟩
          · rwa [StoredUnit.key, keeps]
          · rw [List.map_cons, List.mem_cons, not_or]
            exact ⟨same, absent⟩
      · exact Or.inr ⟨other, List.mem_cons_of_mem _ isOther, sameId, found⟩

variable {database : ProjectionDatabase Video Content}

theorem lookup_publishUnits (rules : ProjectionRules Video Content)
    (database : ProjectionDatabase Video Content) (built : List (SearchUnit Content))
    (generation videoId : Nat) (unitId : String) :
    ((database.publishUnits rules built generation videoId).lookup unitId =
        (database.units.deleteWhere fun row =>
          row.videoId = videoId ∧ row.unitId ∉ built.map SearchUnit.unitId).lookup unitId ∧
      unitId ∉ built.map SearchUnit.unitId) ∨
      ∃ unit ∈ built, unit.unitId = unitId ∧
        (database.publishUnits rules built generation videoId).lookup unitId =
          some (rules.stored built generation unit) := by
  have all := lookup_storeAll (rules.stored built generation) (fun _ => rfl)
    (built.mergeSort fun first second => first.unitId ≤ second.unitId)
    (database.units.deleteWhere fun row =>
      row.videoId = videoId ∧ row.unitId ∉ built.map SearchUnit.unitId) unitId
  rcases all with ⟨kept, absent⟩ | ⟨unit, isUnit, sameId, found⟩
  · refine Or.inl ⟨kept, fun member => absent ?_⟩
    obtain ⟨unit, isUnit, sameId⟩ := List.mem_map.mp member
    exact List.mem_map.mpr ⟨unit, List.mem_mergeSort.mpr isUnit, sameId⟩
  · exact Or.inr ⟨unit, List.mem_mergeSort.mp isUnit, sameId, found⟩

/-- Publishing the units of a video: its rows are those units, the rows of other videos stay. -/
theorem publishUnits_spec (generation : Nat) (named : Named rules database.units)
    (ofVideo : ∀ unit ∈ built, unit.videoId = videoId ∧ rules.videoOf unit.unitId = videoId) :
    let after := database.publishUnits rules built generation videoId
    Named rules after ∧ ProjectionOf rules after videoId generation built ∧
      ∀ row, row.videoId ≠ videoId → (row ∈ after ↔ row ∈ database.units) := by
  intro after
  have rowOf : ∀ row, row ∈ after ↔
      (row ∈ database.units ∧ row.videoId ≠ videoId ∧
          row.unitId ∉ built.map SearchUnit.unitId) ∨
        ∃ unit ∈ built, row = rules.stored built generation unit ∧
          after.lookup unit.unitId = some (rules.stored built generation unit) := by
    intro row
    rcases lookup_publishUnits rules database built generation videoId row.key with
      ⟨kept, absent⟩ | ⟨unit, isUnit, sameId, found⟩
    · change after.lookup row.key = _ at kept
      have kept' : row ∈ after ↔ row ∈ database.units ∧ row.videoId ≠ videoId := by
        rw [Table.mem_iff_lookup, kept, ← Table.mem_iff_lookup, Table.mem_deleteWhere,
          decide_eq_false_iff_not, not_and, not_not]
        exact and_congr_right fun _ => ⟨fun inBuilt same => absent (inBuilt same),
          fun different same => absurd same different⟩
      rw [kept']
      constructor
      · exact fun ⟨member, different⟩ => Or.inl ⟨member, different, absent⟩
      · rintro (⟨member, different, -⟩ | ⟨unit, isUnit, rfl, -⟩)
        · exact ⟨member, different⟩
        · exact absurd (List.mem_map_of_mem isUnit) absent
    · change after.lookup row.key = _ at found
      have isRow : row ∈ after ↔ row = rules.stored built generation unit := by
        rw [Table.mem_iff_lookup, found, Option.some_inj, eq_comm]
      rw [isRow]
      constructor
      · rintro rfl
        exact Or.inr ⟨unit, isUnit, rfl, found⟩
      · rintro (⟨-, -, absent⟩ | ⟨other, -, rfl, isStored⟩)
        · exact absurd (List.mem_map.mpr ⟨unit, isUnit, sameId⟩) absent
        · exact Option.some.inj (isStored.symm.trans found)
  refine ⟨fun row isRow => ?_, ⟨fun row isRow isVideo => ?_, fun unit isUnit => ?_⟩, ?_⟩
  · rcases (rowOf row).mp isRow with ⟨member, -, -⟩ | ⟨unit, isUnit, rfl, -⟩
    · exact named row member
    · exact (ofVideo unit isUnit).2.trans (ofVideo unit isUnit).1.symm
  · rcases (rowOf row).mp isRow with ⟨-, different, -⟩ | ⟨unit, isUnit, rfl, -⟩
    · exact absurd isVideo different
    · exact ⟨unit, isUnit, rfl⟩
  · rcases lookup_publishUnits rules database built generation videoId unit.unitId with
      ⟨-, absent⟩ | ⟨other, isOther, sameId, found⟩
    · exact absurd (List.mem_map_of_mem isUnit) absent
    · exact ⟨_, Table.mem_of_lookup found, sameId, (ofVideo other isOther).1⟩
  · intro row different
    rw [rowOf row]
    constructor
    · rintro (⟨member, -, -⟩ | ⟨unit, isUnit, rfl, -⟩)
      · exact member
      · exact absurd (ofVideo unit isUnit).1 different
    · intro member
      refine Or.inl ⟨member, different, fun inBuilt => ?_⟩
      obtain ⟨unit, isUnit, sameId⟩ := List.mem_map.mp inBuilt
      refine different ((named row member).symm.trans ?_)
      rw [← sameId]
      exact (ofVideo unit isUnit).2

end Units

/-! ## One video's rows -/

/-- What a transaction does to the task of a video, to what is recorded of it and to its units. -/
inductive RowMove (rules : ProjectionRules Video Content)
    (before after : ProjectionDatabase Video Content) (key : Nat) : Prop
  | stay (sameTask : after.tasks.lookup key = before.tasks.lookup key)
      (sameVideo : after.videos key = before.videos key)
      (sameUnits : ∀ row, row.videoId = key → (row ∈ after.units ↔ row ∈ before.units))
  /-- A formal change, or a request for one: a new generation. -/
  | requested {task : ProjectionTask} (isTask : after.tasks.lookup key = some task)
      (queued : task.status = .queued) (first : task.attempt = 0)
      (next : ∀ old, before.tasks.lookup key = some old →
        task.requestedGeneration = old.requestedGeneration + 1)
  /-- A step within the generation that does not complete it. -/
  | handled {old task : ProjectionTask} (wasTask : before.tasks.lookup key = some old)
      (isTask : after.tasks.lookup key = some task)
      (generation : task.requestedGeneration = old.requestedGeneration)
      (attempt : task.attempt = old.attempt) (unfinished : task.status ≠ .completed)
      (sameVideo : after.videos key = before.videos key)
  | granted {old task : ProjectionTask} (wasTask : before.tasks.lookup key = some old)
      (isTask : after.tasks.lookup key = some task)
      (generation : task.requestedGeneration = old.requestedGeneration)
      (below : old.attempt < 5) (attempt : task.attempt = old.attempt + 1)
      (unfinished : task.status ≠ .completed)
      (sameVideo : after.videos key = before.videos key)
  | completed {old task : ProjectionTask} (wasTask : before.tasks.lookup key = some old)
      (isTask : after.tasks.lookup key = some task)
      (generation : task.requestedGeneration = old.requestedGeneration)
      (attempt : task.attempt = old.attempt)
      (ready : task.payload.readyGeneration = some task.requestedGeneration)
      (fresh : ProjectionOf rules after.units key task.requestedGeneration
        (rules.build key (after.videos key) task.payload))
      (sameVideo : after.videos key = before.videos key)

section Moves

variable {rules : ProjectionRules Video Content}
  {database after : ProjectionDatabase Video Content} {worker : ProjectionWorker}
  {claim : ProjectionTask} {videoId : Nat}

theorem RowMove.refl (key : Nat) : RowMove rules database database key :=
  .stay rfl rfl fun _ _ => Iff.rfl

theorem afterFailure_ne (attempt : Nat) : afterFailure attempt ≠ .completed := by
  unfold afterFailure
  split <;> exact nofun

/-! ## Formal changes -/

variable {reason : String} {locked : Nat → Bool} {filter : Option Nat}

theorem touch_ok (touched : database.touch videoId reason = .ok after) :
    ∃ payload : Payload, payload.videoId = videoId ∧
      after = { database with
        nextTaskId := database.nextTaskId + 1
        tasks := database.tasks.upsert (firstRequest database.nextTaskId database.clock payload)
          (requestAgain database.clock payload) } := by
  obtain ⟨-, touched⟩ := ensure_then_eq_ok.mp touched
  exact ⟨{ videoId := videoId, reason := reason }, rfl, (pure_eq_ok.mp touched).symm⟩

theorem touch_task (touched : database.touch videoId reason = .ok after) :
    ∃ task, after.tasks.lookup videoId = some task ∧ task.status = .queued ∧ task.attempt = 0 ∧
      ∀ old, database.tasks.lookup videoId = some old →
        task.requestedGeneration = old.requestedGeneration + 1 := by
  obtain ⟨payload, rfl, rfl⟩ := touch_ok touched
  refine ⟨_, Table.lookup_upsert_self, ?_⟩
  cases isOld : database.tasks.lookup payload.videoId with
  | none =>
      rw [Table.upserted_of_absent isOld]
      refine ⟨rfl, rfl, ?_⟩
      intro old absurdity
      cases absurdity
  | some old =>
      rw [Table.upserted_of_lookup isOld]
      refine ⟨rfl, rfl, ?_⟩
      rintro other isOther
      obtain rfl := Option.some.inj isOther
      rfl

theorem touch_frame (touched : database.touch videoId reason = .ok after) :
    after.units = database.units ∧ after.videos = database.videos ∧
      ∀ key, key ≠ videoId → after.tasks.lookup key = database.tasks.lookup key := by
  obtain ⟨payload, rfl, rfl⟩ := touch_ok touched
  exact ⟨rfl, rfl, fun key different => Table.lookup_upsert_of_ne different⟩

theorem touch_rowMove (touched : database.touch videoId reason = .ok after) (key : Nat) :
    RowMove rules database after key := by
  obtain ⟨sameUnits, sameVideos, others⟩ := touch_frame touched
  by_cases same : key = videoId
  · subst same
    obtain ⟨task, isTask, queued, first, next⟩ := touch_task touched
    exact .requested isTask queued first next
  · exact .stay (others key same) (by rw [sameVideos]) (fun row _ => by rw [sameUnits])

theorem changeVideo_rowMove {video : Video}
    (changed : database.changeVideo videoId video reason = .ok after) (key : Nat) :
    RowMove rules database after key := by
  obtain ⟨sameUnits, sameVideos, others⟩ := touch_frame changed
  by_cases same : key = videoId
  · subst same
    obtain ⟨task, isTask, queued, first, next⟩ := touch_task changed
    exact .requested isTask queued first next
  · refine .stay (others key same) ?_ (fun row _ => by rw [sameUnits])
    rw [sameVideos]
    exact Function.update_of_ne same _ _

theorem deleteVideo_ok (deleted : database.deleteVideo videoId = .ok after) :
    ∃ touched, database.touch videoId "index_remove" = .ok touched ∧
      after = { touched with
        tasks := touched.tasks.modify videoId ProjectionDatabase.markAbsent
        units := touched.units.deleteWhere fun row => row.videoId = videoId } := by
  obtain ⟨touched, isTouched, deleted⟩ := bind_eq_ok.mp deleted
  exact ⟨touched, isTouched, (pure_eq_ok.mp deleted).symm⟩

theorem deleteVideo_rowMove (deleted : database.deleteVideo videoId = .ok after) (key : Nat) :
    RowMove rules database after key := by
  obtain ⟨touched, isTouched, rfl⟩ := deleteVideo_ok deleted
  obtain ⟨sameUnits, sameVideos, others⟩ := touch_frame isTouched
  by_cases same : key = videoId
  · subst same
    obtain ⟨task, isTask, queued, first, next⟩ := touch_task isTouched
    have isMarked : (touched.tasks.modify key ProjectionDatabase.markAbsent).lookup key =
        some (ProjectionDatabase.markAbsent.apply task) := by
      rw [Table.lookup_modify_self, isTask]
      rfl
    exact .requested isMarked queued first next
  · refine .stay ?_ (by rw [sameVideos]) (fun row ofKey => ?_)
    · exact (Table.lookup_modify_of_ne same).trans (others key same)
    · rw [Table.mem_deleteWhere, sameUnits]
      simp [ofKey, same]

/-! ## The worker's transactions -/

theorem recover_rowMove (locked : Nat → Bool) (key : Nat) :
    RowMove rules database (database.recover locked) key := by
  have isAfter : (database.recover locked).tasks.lookup key = _ := Table.lookup_updateWhere
  cases isOld : database.tasks.lookup key with
  | none =>
      refine .stay ?_ rfl fun _ _ => Iff.rfl
      rw [isAfter, isOld]
      rfl
  | some old =>
      rw [isOld, Option.map_some] at isAfter
      by_cases isLost : old.status = .running ∧ old.expired database.clock ∧ ¬locked old.id
      · rw [if_pos (decide_eq_true isLost)] at isAfter
        exact .handled isOld isAfter rfl rfl (afterFailure_ne _) rfl
      · rw [if_neg (mt of_decide_eq_true isLost)] at isAfter
        exact .stay (isAfter.trans isOld.symm) rfl fun _ _ => Iff.rfl

theorem claim_some (granted : database.claim worker locked filter = some (after, claim)) :
    ∃ task, database.tasks.lookup task.resourceKey = some task ∧ task.attempt < 5 ∧
      claim = ProjectionDatabase.grantedTo worker database.clock task ∧
        after = { database with tasks := database.tasks.put claim } := by
  obtain ⟨task, isFirst, rfl, rfl⟩ := by
    simpa only [ProjectionDatabase.claim, Option.map_eq_some_iff, Prod.mk.injEq] using granted
  have isDue := List.mem_of_mem_head? isFirst
  rw [List.mem_mergeSort, List.mem_filter, decide_eq_true_eq] at isDue
  exact ⟨task, Table.lookup_of_mem isDue.1, isDue.2.2.1, rfl, rfl⟩

theorem claim_row (granted : database.claim worker locked filter = some (after, claim)) :
    ∃ old, database.tasks.lookup claim.resourceKey = some old ∧
      after.tasks.lookup claim.resourceKey = some claim ∧
        claim.requestedGeneration = old.requestedGeneration ∧ old.attempt < 5 ∧
          claim.attempt = old.attempt + 1 ∧ claim.status = .running := by
  obtain ⟨task, isTask, below, rfl, rfl⟩ := claim_some granted
  exact ⟨task, isTask, Table.lookup_put_self isTask, rfl, below, rfl, rfl⟩

theorem claim_rowMove (granted : database.claim worker locked filter = some (after, claim))
    (key : Nat) :
    RowMove rules database after key := by
  by_cases same : key = claim.resourceKey
  · subst same
    obtain ⟨old, wasTask, isTask, generation, below, attempt, running⟩ := claim_row granted
    obtain ⟨-, -, -, -, rfl⟩ := claim_some granted
    exact .granted wasTask isTask generation below attempt (running ▸ nofun) rfl
  · obtain ⟨-, -, -, -, rfl⟩ := claim_some granted
    exact .stay (Table.lookup_put_of_ne same) rfl fun _ _ => Iff.rfl

/-- The lock is had on a row the claim is current for. -/
theorem lockClaim_ok {task : ProjectionTask} :
    database.lockClaim worker claim = .ok task ↔
      database.tasks.lookup claim.resourceKey = some task ∧
        ProjectionDatabase.Matches task claim worker ∧ task.live database.clock = true := by
  unfold ProjectionDatabase.lockClaim
  cases isRow : database.tasks.lookup claim.resourceKey with
  | none => simp
  | some row =>
      simp only [ensure_then_eq_ok, pure_eq_ok, Option.some_inj]
      constructor
      · rintro ⟨same, live, rfl⟩
        exact ⟨rfl, same, live⟩
      · rintro ⟨rfl, same, live⟩
        exact ⟨same, live, rfl⟩

theorem modify_rowMove {change : Change ProjectionTask.resourceKey} {task : ProjectionTask}
    (isTask : database.tasks.lookup claim.resourceKey = some task)
    (generation : (change.apply task).requestedGeneration = task.requestedGeneration)
    (attempt : (change.apply task).attempt = task.attempt)
    (unfinished : (change.apply task).status ≠ .completed) (key : Nat) :
    RowMove rules database
      { database with tasks := database.tasks.modify claim.resourceKey change } key := by
  by_cases same : key = claim.resourceKey
  · subst same
    have isAfter : (database.tasks.modify claim.resourceKey change).lookup claim.resourceKey =
        some (change.apply task) := by
      rw [Table.lookup_modify_self, isTask]
      rfl
    exact .handled isTask isAfter generation attempt unfinished rfl
  · exact .stay (Table.lookup_modify_of_ne same) rfl fun _ _ => Iff.rfl

theorem heartbeat_rowMove (beaten : database.heartbeat worker claim = .ok after) (key : Nat) :
    RowMove rules database after key := by
  obtain ⟨task, locked, beaten⟩ := bind_eq_ok.mp beaten
  obtain rfl := pure_eq_ok.mp beaten
  obtain ⟨isTask, ⟨running, -⟩, -⟩ := lockClaim_ok.mp locked
  refine modify_rowMove isTask rfl rfl ?_ key
  exact (show task.status ≠ _ from running ▸ nofun)

theorem fail_rowMove {error : String} (failed : database.fail worker claim error = .ok after)
    (key : Nat) : RowMove rules database after key := by
  obtain ⟨task, locked, failed⟩ := bind_eq_ok.mp failed
  obtain rfl := pure_eq_ok.mp failed
  obtain ⟨isTask, -, -⟩ := lockClaim_ok.mp locked
  exact modify_rowMove isTask rfl rfl (afterFailure_ne _) key

theorem takeSnapshot_ok {snapshot : Option Video}
    (taken : database.takeSnapshot worker claim = .ok snapshot) :
    snapshot = database.videos claim.resourceKey ∧
      ∃ task, database.tasks.lookup claim.resourceKey = some task ∧
        task.requestedGeneration = claim.requestedGeneration := by
  unfold ProjectionDatabase.takeSnapshot at taken
  cases isRow : database.tasks.lookup claim.resourceKey with
  | none => simp [isRow] at taken
  | some task =>
      simp only [isRow, ensure_then_eq_ok, pure_eq_ok] at taken
      obtain ⟨⟨⟨-, -, -, generation, -⟩, -⟩, rfl⟩ := taken
      exact ⟨rfl, task, rfl, generation⟩

/-! ## Publication -/

theorem build_named (videoId : Nat) (snapshot : Option Video) (payload : Payload) :
    ∀ unit ∈ rules.build videoId snapshot payload,
      unit.videoId = videoId ∧ rules.videoOf unit.unitId = videoId := by
  intro unit isUnit
  unfold ProjectionRules.build at isUnit
  split at isUnit
  · split at isUnit
    · exact rules.named videoId _ unit isUnit
    · cases isUnit
  · cases isUnit

/-- What is built depends on the payload's mark alone. -/
theorem build_congr (videoId : Nat) (snapshot : Option Video) {payload other : Payload}
    (same : payload.absent = other.absent) :
    rules.build videoId snapshot payload = rules.build videoId snapshot other := by
  unfold ProjectionRules.build
  rw [same]

/-- A publication that returns: the claim is current, the recorded state has the fingerprint of the
snapshot, and the task stays in its generation. -/
structure Publication (rules : ProjectionRules Video Content)
    (database : ProjectionDatabase Video Content) (worker : ProjectionWorker)
    (claim : ProjectionTask) (snapshot : Option Video) (units : List (SearchUnit Content))
    (after : ProjectionDatabase Video Content) (task row : ProjectionTask) : Prop where
  isTask : database.tasks.lookup claim.resourceKey = some task
  current : ProjectionDatabase.Matches task claim worker
  live : task.live database.clock = true
  source : rules.fingerprint (database.videos claim.resourceKey) = rules.fingerprint snapshot
  stored : after.units =
    database.publishUnits rules units claim.requestedGeneration claim.resourceKey
  videos : after.videos = database.videos
  isRow : after.tasks.lookup claim.resourceKey = some row
  others : ∀ key, key ≠ claim.resourceKey → after.tasks.lookup key = database.tasks.lookup key
  generation : row.requestedGeneration = task.requestedGeneration
  attempt : row.attempt = task.attempt
  absent : row.payload.absent = task.payload.absent
  ready : row.payload.readyGeneration = some claim.requestedGeneration

theorem publish_ok {snapshot : Option Video} {units : List (SearchUnit Content)} {vectors : Bool}
    {error : Option String}
    (published : database.publish rules worker claim snapshot units vectors error = .ok after) :
    ∃ task row, Publication rules database worker claim snapshot units after task row := by
  obtain ⟨-, published⟩ := ensure_then_eq_ok.mp published
  obtain ⟨task, locked, published⟩ := bind_eq_ok.mp published
  obtain ⟨source, published⟩ := ensure_then_eq_ok.mp published
  obtain ⟨-, published⟩ := ensure_then_eq_ok.mp published
  obtain rfl := pure_eq_ok.mp published
  obtain ⟨isTask, current, live⟩ := lockClaim_ok.mp locked
  exact ⟨task, _,
    { isTask := isTask
      current := current
      live := live
      source := source
      stored := rfl
      videos := rfl
      isRow := Table.lookup_modify_self.trans (congrArg (Option.map (Change.apply _)) isTask)
      others := fun key different => Table.lookup_modify_of_ne different
      generation := rfl
      attempt := rfl
      absent := rfl
      ready := rfl }⟩

/-- The publication of what is built from the recorded state. -/
theorem publish_rowMove (named : Named rules database.units) {vectors : Bool}
    {error : Option String}
    (published : database.publish rules worker claim (database.videos claim.resourceKey)
      (rules.build claim.resourceKey (database.videos claim.resourceKey) claim.payload) vectors
      error = .ok after) :
    Named rules after.units ∧ ∀ key, RowMove rules database after key := by
  obtain ⟨task, row, done⟩ := publish_ok published
  obtain ⟨-, -, -, sameGeneration, samePayload⟩ := done.current
  obtain ⟨named', projection, others⟩ := publishUnits_spec claim.requestedGeneration
    named (build_named claim.resourceKey (database.videos claim.resourceKey) claim.payload)
  rw [← done.stored] at named' projection others
  refine ⟨named', fun key => ?_⟩
  by_cases same : key = claim.resourceKey
  · subst same
    by_cases finished : row.status = .completed
    · have generation : row.requestedGeneration = claim.requestedGeneration :=
        done.generation.trans sameGeneration
      have absent : claim.payload.absent = row.payload.absent := by
        rw [done.absent, samePayload]
      refine .completed done.isTask done.isRow done.generation done.attempt ?_ ?_ ?_
      · rw [done.ready, generation]
      · rw [generation, done.videos, ← build_congr _ _ absent]
        exact projection
      · rw [done.videos]
    · exact .handled done.isTask done.isRow done.generation done.attempt finished
        (by rw [done.videos])
  · refine .stay (done.others key same) (by rw [done.videos]) fun row ofKey => ?_
    exact others row (ofKey ▸ same)

end Moves

end Shiliu.Retrieval
