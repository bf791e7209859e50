/-
Module: Shiliu.Retrieval.ProjectionFreshness
Purpose: The projection has no stale publication and loses no update. A snapshot is worth publishing
  only in the generation it was taken in, and only a formal change starts a new one, so a
  completed task stands for units built from the current state. Attempts are counted within a
  generation, which bounds the claims that are granted in it.
Trusted boundary: none
Main exports: ProjectionSound, projectionStep_rowMove, CurrentClaim, projection_fresh_and_bounded
-/
import Shiliu.Retrieval.ProjectionMoves

set_option linter.all false

namespace Shiliu.Retrieval

open Shiliu.Library Shiliu.Storage

variable {Video Content : Type}

/-! ## The invariant -/

/-- A completed task stands for units built from what is recorded now. -/
def FreshTask (rules : ProjectionRules Video Content)
    (database : ProjectionDatabase Video Content) (task : ProjectionTask) : Prop :=
  task.payload.readyGeneration = some task.requestedGeneration ∧
    ProjectionOf rules database.units task.resourceKey task.requestedGeneration
      (rules.build task.resourceKey (database.videos task.resourceKey) task.payload)

/-- A snapshot is what is recorded as long as its generation is the one that is requested. -/
def SnapshotSound (database : ProjectionDatabase Video Content) (claim : ProjectionTask)
    (snapshot : Option Video) : Prop :=
  ∃ task, database.tasks.lookup claim.resourceKey = some task ∧
    claim.requestedGeneration ≤ task.requestedGeneration ∧
      (claim.requestedGeneration = task.requestedGeneration →
        snapshot = database.videos claim.resourceKey)

/-- The claims a generation of a video can have had, by the task as it is. -/
def grantBound (task : Option ProjectionTask) (generation : Nat) : Nat :=
  match task with
  | none => 0
  | some task =>
      if generation = task.requestedGeneration then task.attempt
      else if task.requestedGeneration < generation then 0
      else 5

/-- The claims of a video that were granted within one generation. -/
def claimsWithin (granted : List ProjectionTask) (key generation : Nat) : List ProjectionTask :=
  granted.filter fun claim =>
    claim.resourceKey = key ∧ claim.requestedGeneration = generation

structure ProjectionSound (rules : ProjectionRules Video Content)
    (world : ProjectionWorld Video Content) : Prop where
  named : Named rules world.database.units
  attempts : ∀ key task, world.database.tasks.lookup key = some task → task.attempt ≤ 5
  fresh : ∀ key task, world.database.tasks.lookup key = some task → task.status = .completed →
    FreshTask rules world.database task
  snapshots : ∀ worker claim snapshot, world.phases worker = .snapshotted claim snapshot →
    SnapshotSound world.database claim snapshot
  grants : ∀ key generation, (claimsWithin world.granted key generation).length ≤
    grantBound (world.database.tasks.lookup key) generation

/-! ## One move keeps it -/

section Moved

variable {rules : ProjectionRules Video Content}
  {before after : ProjectionDatabase Video Content} {key : Nat}

theorem RowMove.attempts (move : RowMove rules before after key)
    (sound : ∀ task, before.tasks.lookup key = some task → task.attempt ≤ 5)
    {task : ProjectionTask} (isTask : after.tasks.lookup key = some task) : task.attempt ≤ 5 := by
  cases move with
  | stay sameTask => exact sound task (sameTask ▸ isTask)
  | requested isNew queued first =>
      obtain rfl := Option.some.inj (isNew.symm.trans isTask)
      omega
  | handled wasTask isNew generation attempt =>
      obtain rfl := Option.some.inj (isNew.symm.trans isTask)
      exact attempt ▸ sound _ wasTask
  | granted wasTask isNew generation below attempt =>
      obtain rfl := Option.some.inj (isNew.symm.trans isTask)
      omega
  | completed wasTask isNew generation attempt =>
      obtain rfl := Option.some.inj (isNew.symm.trans isTask)
      exact attempt ▸ sound _ wasTask

theorem RowMove.fresh (move : RowMove rules before after key)
    (sound : ∀ task, before.tasks.lookup key = some task → task.status = .completed →
      FreshTask rules before task)
    {task : ProjectionTask} (isTask : after.tasks.lookup key = some task)
    (finished : task.status = .completed) : FreshTask rules after task := by
  have isKey : task.resourceKey = key := Table.key_of_lookup isTask
  cases move with
  | stay sameTask sameVideo sameUnits =>
      obtain ⟨ready, projection⟩ := sound task (sameTask ▸ isTask) finished
      subst isKey
      exact ⟨ready, sameVideo ▸ projection.congr sameUnits⟩
  | requested isNew queued =>
      obtain rfl := Option.some.inj (isNew.symm.trans isTask)
      rw [queued] at finished
      cases finished
  | handled wasTask isNew generation attempt unfinished =>
      obtain rfl := Option.some.inj (isNew.symm.trans isTask)
      exact absurd finished unfinished
  | granted wasTask isNew generation below attempt unfinished =>
      obtain rfl := Option.some.inj (isNew.symm.trans isTask)
      exact absurd finished unfinished
  | completed wasTask isNew generation attempt ready fresh =>
      obtain rfl := Option.some.inj (isNew.symm.trans isTask)
      exact ⟨ready, isKey.symm ▸ fresh⟩

/-- A task is never lost; its generation grows exactly with a formal change. -/
theorem RowMove.generation (move : RowMove rules before after key) {old : ProjectionTask}
    (wasTask : before.tasks.lookup key = some old) :
    ∃ task, after.tasks.lookup key = some task ∧
      (old.requestedGeneration < task.requestedGeneration ∨
        (task.requestedGeneration = old.requestedGeneration ∧
          after.videos key = before.videos key)) := by
  cases move with
  | stay sameTask sameVideo => exact ⟨old, sameTask.trans wasTask, Or.inr ⟨rfl, sameVideo⟩⟩
  | requested isTask queued first next =>
      exact ⟨_, isTask, Or.inl (by have := next old wasTask; omega)⟩
  | handled wasOld isTask generation attempt unfinished sameVideo =>
      obtain rfl := Option.some.inj (wasOld.symm.trans wasTask)
      exact ⟨_, isTask, Or.inr ⟨generation, sameVideo⟩⟩
  | granted wasOld isTask generation below attempt unfinished sameVideo =>
      obtain rfl := Option.some.inj (wasOld.symm.trans wasTask)
      exact ⟨_, isTask, Or.inr ⟨generation, sameVideo⟩⟩
  | completed wasOld isTask generation attempt ready fresh sameVideo =>
      obtain rfl := Option.some.inj (wasOld.symm.trans wasTask)
      exact ⟨_, isTask, Or.inr ⟨generation, sameVideo⟩⟩

theorem SnapshotSound.move {claim : ProjectionTask} {snapshot : Option Video}
    (sound : SnapshotSound before claim snapshot)
    (move : RowMove rules before after claim.resourceKey) :
    SnapshotSound after claim snapshot := by
  obtain ⟨old, wasTask, order, same⟩ := sound
  obtain ⟨task, isTask, grown | ⟨generation, sameVideo⟩⟩ := move.generation wasTask
  · exact ⟨task, isTask, by omega, fun equal => by omega⟩
  · refine ⟨task, isTask, by omega, fun equal => ?_⟩
    rw [sameVideo]
    exact same (by omega)

/-- No move takes a claim back. -/
theorem RowMove.grantBound_le (move : RowMove rules before after key)
    (sound : ∀ task, before.tasks.lookup key = some task → task.attempt ≤ 5) (generation : Nat) :
    grantBound (before.tasks.lookup key) generation ≤
      grantBound (after.tasks.lookup key) generation := by
  have within {old task : ProjectionTask}
      (same : task.requestedGeneration = old.requestedGeneration)
      (grown : old.attempt ≤ task.attempt) :
      grantBound (some old) generation ≤ grantBound (some task) generation := by
    simp only [grantBound, same]
    split <;> omega
  cases move with
  | stay sameTask => rw [sameTask]
  | @requested task isTask queued first next =>
      cases isOld : before.tasks.lookup key with
      | none => exact Nat.zero_le _
      | some old =>
          have bounded := sound old isOld
          have isNext := next old isOld
          simp only [grantBound, isTask, isNext]
          split
          · split
            · omega
            · split <;> omega
          · split
            · omega
            · split
              · omega
              · split <;> omega
  | handled wasTask isTask same attempt =>
      rw [wasTask, isTask]
      exact within same (by omega)
  | granted wasTask isTask same below attempt =>
      rw [wasTask, isTask]
      exact within same (by omega)
  | completed wasTask isTask same attempt =>
      rw [wasTask, isTask]
      exact within same (by omega)

end Moved

/-! ## One action -/

/-- What an action does to the world, as far as the invariant goes. -/
structure WorldMove (rules : ProjectionRules Video Content)
    (before after : ProjectionWorld Video Content) : Prop where
  rows : ∀ key, RowMove rules before.database after.database key
  named : Named rules after.database.units
  snapshots : ∀ worker claim snapshot, after.phases worker = .snapshotted claim snapshot →
    before.phases worker = .snapshotted claim snapshot ∨
      SnapshotSound after.database claim snapshot
  grants : after.granted = before.granted ∨
    ∃ claim old, after.granted = before.granted ++ [claim] ∧
      before.database.tasks.lookup claim.resourceKey = some old ∧
        after.database.tasks.lookup claim.resourceKey = some claim ∧
          claim.requestedGeneration = old.requestedGeneration ∧ claim.attempt = old.attempt + 1

section World

variable {rules : ProjectionRules Video Content} {world : ProjectionWorld Video Content}
  {workers : Nat → ProjectionWorker}

theorem WorldMove.database (named : Named rules world.database.units)
    {after : ProjectionDatabase Video Content}
    (rows : ∀ key, RowMove rules world.database after key)
    (keeps : Named rules world.database.units → Named rules after.units) :
    WorldMove rules world { world with database := after } where
  rows := rows
  named := keeps named
  snapshots _ _ _ isPhase := Or.inl isPhase
  grants := Or.inl rfl

theorem WorldMove.refl (named : Named rules world.database.units) : WorldMove rules world world :=
  .database named (fun _ => .refl _) id

/-- The transaction committed as `after`, or raised. -/
theorem WorldMove.commit (named : Named rules world.database.units)
    {outcome : Except Failure (ProjectionDatabase Video Content)}
    (rows : ∀ after, outcome = .ok after → ∀ key, RowMove rules world.database after key)
    (keeps : ∀ after, outcome = .ok after → Named rules world.database.units →
      Named rules after.units) :
    WorldMove rules world (world.commit outcome) := by
  unfold ProjectionWorld.commit
  cases outcome with
  | ok after => exact .database named (rows after rfl) (keeps after rfl)
  | error failure => exact .refl named

theorem idle_ne (claim : ProjectionTask) (snapshot : Option Video) :
    WorkerPhase.idle ≠ .snapshotted claim snapshot := nofun

theorem phases_setPhase_self (worker : Nat) (phase : WorkerPhase Video) :
    (world.setPhase worker phase).phases worker = phase :=
  Function.update_self _ _ _

theorem phases_setPhase_of_ne {worker other : Nat} (different : other ≠ worker)
    (phase : WorkerPhase Video) : (world.setPhase worker phase).phases other = world.phases other :=
  Function.update_of_ne different _ _

theorem WorldMove.setPhase {after : ProjectionWorld Video Content}
    (move : WorldMove rules world after) (worker : Nat) (phase : WorkerPhase Video)
    (without : ∀ claim snapshot, phase ≠ .snapshotted claim snapshot) :
    WorldMove rules world (after.setPhase worker phase) where
  rows := move.rows
  named := move.named
  snapshots other claim snapshot isPhase := by
    by_cases same : other = worker
    · subst same
      rw [phases_setPhase_self] at isPhase
      exact absurd isPhase (without claim snapshot)
    · rw [phases_setPhase_of_ne same] at isPhase
      exact move.snapshots other claim snapshot isPhase
  grants := move.grants

theorem claim_move (named : Named rules world.database.units) {worker : Nat}
    {after : ProjectionDatabase Video Content} {claim : ProjectionTask} {locked : Nat → Bool}
    {filter : Option Nat}
    (granted : world.database.claim (workers worker) locked filter = some (after, claim)) :
    WorldMove rules world
      { world.setPhase worker (.claimed claim) with
        database := after
        granted := world.granted ++ [claim] } := by
  have moved : WorldMove rules world { world with database := after } := by
    refine .database named (claim_rowMove granted) fun named => ?_
    obtain ⟨-, -, -, -, rfl⟩ := claim_some granted
    exact named
  obtain ⟨old, wasTask, isTask, generation, -, attempt, -⟩ := claim_row granted
  have notSnapshotted : ∀ other snapshot,
      (.claimed claim : WorkerPhase Video) ≠ .snapshotted other snapshot := by
    intro other snapshot same
    cases same
  have turned := moved.setPhase worker (.claimed claim) notSnapshotted
  exact
    { rows := turned.rows
      named := turned.named
      snapshots := turned.snapshots
      grants := Or.inr ⟨claim, old, rfl, wasTask, isTask, generation, attempt⟩ }

theorem snapshot_move (named : Named rules world.database.units) {worker : Nat}
    {claim : ProjectionTask} {snapshot : Option Video}
    (taken : world.database.takeSnapshot (workers worker) claim = .ok snapshot) :
    WorldMove rules world (world.setPhase worker (.snapshotted claim snapshot)) where
  rows _ := .refl _
  named := named
  snapshots other claim' snapshot' isPhase := by
    by_cases same : other = worker
    · subst same
      rw [phases_setPhase_self] at isPhase
      obtain ⟨rfl, rfl⟩ := WorkerPhase.snapshotted.inj isPhase
      obtain ⟨isRecorded, task, isTask, generation⟩ := takeSnapshot_ok taken
      exact Or.inr ⟨task, isTask, generation.ge, fun _ => isRecorded⟩
    · rw [phases_setPhase_of_ne same] at isPhase
      exact Or.inl isPhase
  grants := Or.inl rfl

/-- A publication that returns publishes what is built from the recorded state: the generation of
its claim is still the requested one. -/
theorem publishSnapshot_rowMove (named : Named rules world.database.units)
    {worker : ProjectionWorker} {claim : ProjectionTask} {snapshot : Option Video}
    (sound : SnapshotSound world.database claim snapshot) {encoding : Option String}
    {after : ProjectionDatabase Video Content}
    (published : ProjectionWorld.publishSnapshot rules world.database worker claim snapshot
      encoding = .ok after) :
    Named rules after.units ∧ ∀ key, RowMove rules world.database after key := by
  unfold ProjectionWorld.publishSnapshot at published
  obtain ⟨task, _, done⟩ := publish_ok published
  obtain ⟨other, isOther, -, same⟩ := sound
  obtain rfl := Option.some.inj (done.isTask.symm.trans isOther)
  obtain ⟨-, -, -, generation, -⟩ := done.current
  obtain rfl := same generation.symm
  exact publish_rowMove named published

theorem projectionStep_move (sound : ProjectionSound rules world)
    (action : ProjectionAction Video) :
    WorldMove rules world (projectionStep rules workers world action) := by
  have named := sound.named
  cases action with
  | tick elapsed => exact .database named (fun _ => .stay rfl rfl fun _ _ => Iff.rfl) id
  | changeVideo videoId video reason =>
      refine .commit named (fun after changed => changeVideo_rowMove changed) ?_
      intro after changed named
      rwa [(touch_frame changed).1]
  | request videoId reason =>
      refine .commit named (fun after touched => touch_rowMove touched) ?_
      intro after touched named
      rwa [(touch_frame touched).1]
  | deleteVideo videoId =>
      refine .commit named (fun after deleted => deleteVideo_rowMove deleted) ?_
      intro after deleted named row isRow
      obtain ⟨touched, isTouched, rfl⟩ := deleteVideo_ok deleted
      refine named row ?_
      rw [← (touch_frame isTouched).1]
      exact (Table.mem_deleteWhere.mp isRow).1
  | recover locked => exact .database named (recover_rowMove locked) id
  | claim worker locked filter =>
      simp only [projectionStep]
      split
      · split
        · exact .refl named
        · rename_i granted
          exact claim_move named granted
      · exact .refl named
  | heartbeat worker =>
      simp only [projectionStep]
      split
      · refine .commit named (fun after beaten => heartbeat_rowMove beaten) ?_
        intro after beaten named
        obtain ⟨_, -, beaten⟩ := bind_eq_ok.mp beaten
        obtain rfl := pure_eq_ok.mp beaten
        exact named
      · exact .refl named
  | snapshot worker =>
      simp only [projectionStep]
      split
      · split
        · rename_i taken
          exact snapshot_move named taken
        · exact (WorldMove.refl named).setPhase worker .idle idle_ne
      · exact .refl named
  | publish worker encoding =>
      simp only [projectionStep]
      split
      · rename_i claim snapshot isPhase
        split
        · rename_i after published
          obtain ⟨named', rows⟩ := publishSnapshot_rowMove named
            (sound.snapshots worker claim snapshot isPhase) published
          exact (WorldMove.database named rows fun _ => named').setPhase worker .idle idle_ne
        · exact (WorldMove.refl named).setPhase worker .idle idle_ne
        · exact .refl named
      · exact .refl named
  | fail worker error =>
      simp only [projectionStep]
      split
      · refine WorldMove.setPhase ?_ worker .idle idle_ne
        refine .commit named (fun after failed => fail_rowMove failed) ?_
        intro after failed named
        obtain ⟨_, -, failed⟩ := bind_eq_ok.mp failed
        obtain rfl := pure_eq_ok.mp failed
        exact named
      · exact .refl named
  | crash worker => exact (WorldMove.refl named).setPhase worker .idle idle_ne

theorem claimsWithin_move {after : ProjectionWorld Video Content}
    (move : WorldMove rules world after) (sound : ProjectionSound rules world)
    (key generation : Nat) :
    (claimsWithin after.granted key generation).length ≤
      grantBound (after.database.tasks.lookup key) generation := by
  have grown := (move.rows key).grantBound_le (sound.attempts key) generation
  have held := sound.grants key generation
  rcases move.grants with same | ⟨claim, old, granted, wasTask, isTask, sameGeneration, attempt⟩
  · rw [same]
    omega
  · rw [granted, claimsWithin, List.filter_append, List.length_append]
    by_cases isClaim : claim.resourceKey = key ∧ claim.requestedGeneration = generation
    · obtain ⟨rfl, rfl⟩ := isClaim
      have before : grantBound (some old) claim.requestedGeneration = old.attempt := by
        simp [grantBound, sameGeneration]
      have now : grantBound (some claim) claim.requestedGeneration = claim.attempt := by
        simp [grantBound]
      rw [wasTask, before] at held
      have counted : [claim].filter (fun other : ProjectionTask =>
          decide (other.resourceKey = claim.resourceKey ∧
            other.requestedGeneration = claim.requestedGeneration)) = [claim] := by
        rw [List.filter_cons_of_pos (by simp), List.filter_nil]
      rw [isTask, now, counted, List.length_singleton]
      simp only [claimsWithin] at held
      omega
    · have none : [claim].filter (fun claim : ProjectionTask =>
          decide (claim.resourceKey = key ∧ claim.requestedGeneration = generation)) = [] := by
        rw [List.filter_cons_of_neg (by simpa using isClaim), List.filter_nil]
      rw [none, List.length_nil]
      simp only [claimsWithin] at held
      omega

theorem ProjectionSound.move {after : ProjectionWorld Video Content}
    (sound : ProjectionSound rules world) (move : WorldMove rules world after) :
    ProjectionSound rules after where
  named := move.named
  attempts key _ isTask := (move.rows key).attempts (sound.attempts key) isTask
  fresh key _ isTask finished := (move.rows key).fresh (sound.fresh key) isTask finished
  snapshots worker claim snapshot isPhase := by
    rcases move.snapshots worker claim snapshot isPhase with old | fresh
    · exact (sound.snapshots worker claim snapshot old).move (move.rows claim.resourceKey)
    · exact fresh
  grants := claimsWithin_move move sound

end World

/-! ## Stale claims -/

/-- The claim's epoch, generation, payload and lease are the task's. -/
def CurrentClaim (database : ProjectionDatabase Video Content) (worker : ProjectionWorker)
    (claim : ProjectionTask) : Prop :=
  ∃ task, database.tasks.lookup claim.resourceKey = some task ∧
    ProjectionDatabase.Matches task claim worker ∧ task.live database.clock = true

section Stale

variable {rules : ProjectionRules Video Content} {world : ProjectionWorld Video Content}
  {worker : ProjectionWorker} {claim : ProjectionTask}

/-- A transaction that cannot return changes nothing. -/
theorem commit_of_not_ok {outcome : Except Failure (ProjectionDatabase Video Content)}
    (raises : ∀ after, outcome ≠ .ok after) : world.commit outcome = world := by
  cases outcome with
  | error failure => rfl
  | ok after => exact absurd rfl (raises after)

theorem commit_publish_stale {snapshot : Option Video}
    (stale : ¬CurrentClaim world.database worker claim ∨
      rules.fingerprint (world.database.videos claim.resourceKey) ≠ rules.fingerprint snapshot)
    (units : List (SearchUnit Content)) (vectors : Bool) (error : Option String) :
    world.commit (world.database.publish rules worker claim snapshot units vectors error) =
      world := by
  refine commit_of_not_ok fun after published => ?_
  obtain ⟨task, _, done⟩ := publish_ok published
  rcases stale with notCurrent | changed
  · exact notCurrent ⟨task, done.isTask, done.current, done.live⟩
  · exact changed done.source

theorem commit_fail_stale (stale : ¬CurrentClaim world.database worker claim) (error : String) :
    world.commit (world.database.fail worker claim error) = world := by
  refine commit_of_not_ok fun after failed => ?_
  obtain ⟨task, locked, -⟩ := bind_eq_ok.mp failed
  exact stale ⟨task, lockClaim_ok.mp locked⟩

end Stale

/-! ## Every interleaving -/

/-- A workspace without videos, at some time. -/
def ProjectionWorld.start (clock : Instant) : ProjectionWorld Video Content where
  database :=
    { clock := clock
      videos := fun _ => none
      nextTaskId := 0
      tasks := Table.empty _
      units := Table.empty _
      syncStates := Table.empty _ }
  phases _ := .idle
  granted := []

theorem ProjectionSound.start (rules : ProjectionRules Video Content) (clock : Instant) :
    ProjectionSound rules (ProjectionWorld.start clock) where
  named row isRow := absurd isRow (Table.not_mem_empty row)
  attempts key task isTask := by simp [ProjectionWorld.start] at isTask
  fresh key task isTask := by simp [ProjectionWorld.start] at isTask
  snapshots _ claim snapshot isPhase := absurd isPhase (idle_ne claim snapshot)
  grants _ _ := Nat.zero_le _

theorem ProjectionSound.run {rules : ProjectionRules Video Content}
    {workers : Nat → ProjectionWorker} {world : ProjectionWorld Video Content}
    (sound : ProjectionSound rules world) (actions : List (ProjectionAction Video)) :
    ProjectionSound rules (runFrom (projectionStep rules workers) world actions) := by
  have kept : ∀ (world : ProjectionWorld Video Content) action, ProjectionSound rules world →
      ProjectionSound rules (projectionStep rules workers world action) :=
    fun _ action sound => sound.move (projectionStep_move sound action)
  exact invariant_run kept sound actions

theorem grantBound_le_five {task : Option ProjectionTask} {generation : Nat}
    (bounded : ∀ row, task = some row → row.attempt ≤ 5) : grantBound task generation ≤ 5 := by
  cases task with
  | none => exact Nat.zero_le _
  | some row =>
      have within := bounded row rfl
      simp only [grantBound]
      split
      · exact within
      · split <;> omega

end Shiliu.Retrieval
