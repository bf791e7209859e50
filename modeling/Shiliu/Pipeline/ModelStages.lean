/-
Module: Shiliu.Pipeline.ModelStages
Purpose: The four stages that call a model, as programs on the one `pipeline_stages` row of a video
  and a stage, run by any number of workers. A worker is a program counter with its locals; every
  database call is a step of its own, and what the provider, the files and `force` answer is part of
  the action. The gates of `process_video` and `process_refinement` on the video row only keep a
  worker from starting, so here a worker may start at any time.
Trusted boundary: none
Main exports: StageProgram, ModelStage, Pc, World, Action, advance, stepWorld, startsCall
-/
import Shiliu.Collection.Leases
import Shiliu.Library.LeaseHolders

namespace Shiliu.Pipeline

open Shiliu.Library
open Shiliu.Storage
open Shiliu.Collection

abbrev StageRow := LeasedRow .pipelineStages

/-- The columns of the stage row, under their own type. -/
def columnsOf (row : StageRow) : PipelineStageColumns := row.columns

/-! ## The four programs -/

/-- What tells the stage functions apart. -/
structure StageProgram where
  name : StageName
  /-- The function reads the stage again under its claim; otherwise it uses the `stage` its caller
  read before the claim. -/
  rereads : Bool
  /-- It announces itself on the video row before the call. -/
  announces : Bool
  /-- It needs the fast summary, and reports a missing one without a call. -/
  needsFastSummary : Bool
  /-- Its failure path writes `attempt_count` again. -/
  failureWritesAttempt : Bool
  /-- Its caller takes `force`. -/
  forcible : Bool

/-- `_run_transcript_stage`. -/
def runTranscriptStage : StageProgram where
  name := .transcript
  rereads := true
  announces := true
  needsFastSummary := false
  failureWritesAttempt := false
  forcible := false

/-- `_run_summary_stage`. -/
def runSummaryStage : StageProgram where
  name := .summary
  rereads := true
  announces := true
  needsFastSummary := false
  failureWritesAttempt := false
  forcible := false

/-- `_run_refined_transcript_stage`. -/
def runRefinedTranscriptStage : StageProgram where
  name := .refinedTranscript
  rereads := false
  announces := false
  needsFastSummary := false
  failureWritesAttempt := true
  forcible := true

/-- `_run_refinement_review_stage`. -/
def runRefinementReviewStage : StageProgram where
  name := .refinementReview
  rereads := false
  announces := false
  needsFastSummary := true
  failureWritesAttempt := true
  forcible := true

inductive ModelStage where
  | transcript
  | summary
  | refinedTranscript
  | refinementReview

def ModelStage.program : ModelStage → StageProgram
  | .transcript => runTranscriptStage
  | .summary => runSummaryStage
  | .refinedTranscript => runRefinedTranscriptStage
  | .refinementReview => runRefinementReviewStage

/-! ## Workers -/

/-- How a call to the outside ends. A `PipelineError` is `raised` with its code; any other exception
leaves the stage function. -/
inductive Reply where
  | returned
  | raised (code : String) (retryable : Bool)
  | aborted
deriving DecidableEq

structure Answer where
  reply : Reply
  force : Bool

/-- The next transaction or external call of a worker. -/
inductive Pc where
  /-- Between two calls of `process_video` or `process_refinement`. -/
  | idle
  /-- `ensure_stage`, and the tests on the row it read. -/
  | checking (force : Bool)
  /-- `process_refinement` with `force`: the `update_stage` without a claim. -/
  | forcing
  /-- The `ensure_stage` after it. -/
  | rechecking
  /-- `leased_stage`: `ensure_stage`; `seen` is the `stage` the caller read. -/
  | ensuring (seen : PipelineStageColumns)
  /-- `leased_stage`: `claim_stage`. -/
  | claiming (seen : PipelineStageColumns)
  /-- The stage function up to its attempt number. -/
  | reading (seen : PipelineStageColumns) (held : Claim)
  /-- `update_stage(status='processing', attempt_count=attempt)`. -/
  | marking (held : Claim) (attempt : Nat)
  /-- `update_video` behind the guard. -/
  | announcing (held : Claim) (attempt : Nat)
  /-- The provider, and `update_stage` of its name. -/
  | naming (held : Claim) (attempt : Nat)
  /-- `provider.complete_json` is the next thing the worker does. -/
  | calling (held : Claim) (attempt : Nat)
  /-- `provider.complete_json` has been started. -/
  | awaiting (held : Claim) (attempt : Nat)
  /-- The failure path: `update_stage`. -/
  | failing (held : Claim) (attempt : Nat) (code : String) (retryable : Bool)
  /-- The failure path: `update_video` and the event. -/
  | notifying (held : Claim)
  /-- `batch.commit`. -/
  | publishing (held : Claim) (attempt : Nat)
  /-- `renewing_lease`: the `release` in `finally`. -/
  | releasing (held : Claim)

/-- The claim a worker holds inside `renewing_lease`. -/
def Pc.claim? : Pc → Option Claim
  | .idle | .checking _ | .forcing | .rechecking | .ensuring _ | .claiming _ => none
  | .reading _ held | .marking held _ | .announcing held _ | .naming held _ | .calling held _
  | .awaiting held _ | .failing held _ _ _ | .notifying held | .publishing held _
  | .releasing held => some held

/-- A provider call started since the last reset, by the epoch of its claim, and whether its
outcome has been recorded. -/
structure ModelCall where
  epoch : Nat
  recorded : Bool

/-- The stage row, the clock, the workers, and the calls since the last reset, newest first. -/
structure World where
  now : Instant
  stage : Option StageRow
  workers : Nat → Pc
  owner : Nat → String
  calls : List ModelCall

/-- Replace a worker's program counter. -/
def World.goto (world : World) (worker : Nat) (pc : Pc) : World :=
  { world with workers := Function.update world.workers worker pc }

/-- The outcome of the call made under an epoch is recorded. -/
def record (epoch : Nat) (calls : List ModelCall) : List ModelCall :=
  calls.map fun call => if call.epoch = epoch then { call with recorded := true } else call

def leaseSeconds : Nat := 120 * microsPerSecond

def minutes (count : Nat) : Nat := count * 60 * microsPerSecond

/-- The row `ensure_stage` inserts when there is none. -/
def freshStage (name : StageName) : StageRow where
  id := 0
  columns := ({
    stageName := name
    status := .pending
    attemptCount := 0
    nextRetryAt := none
    lastErrorCode := none } : PipelineStageColumns)
  lease := { owner := none, expiry := none, epoch := 0 }

/-- `_stage_is_due`. -/
def stageIsDue (now : Instant) (stage : PipelineStageColumns) : Bool :=
  stage.status ≠ .completed ∧ stage.status ≠ .needsReview ∧ isDue now stage.nextRetryAt

/-- What `force` writes over a stage under review. -/
def forcedColumns (stage : PipelineStageColumns) : PipelineStageColumns :=
  { stage with
    status := .pending
    attemptCount := 0
    nextRetryAt := none
    lastErrorCode := none }

/-- What the stage functions write before the call. -/
def startedColumns (attempt : Nat) (stage : PipelineStageColumns) : PipelineStageColumns :=
  { stage with
    status := .processing
    attemptCount := attempt
    nextRetryAt := none }

/-- What `_record_stage_failure` and `_record_refinement_failure` write. -/
def failedColumns (program : StageProgram) (now : Instant) (attempt : Nat) (code : String)
    (retryable : Bool) (stage : PipelineStageColumns) : PipelineStageColumns :=
  let again := retryable && decide (attempt < 3)
  { stage with
    status := if again then .retryWait else .needsReview
    attemptCount := if program.failureWritesAttempt then attempt else stage.attemptCount
    nextRetryAt :=
      if again then some (wholeSecond (now + minutes (if attempt = 1 then 5 else 30))) else none
    lastErrorCode := some code }

/-- What the publication writes on the stage. -/
def publishedColumns (stage : PipelineStageColumns) : PipelineStageColumns :=
  { stage with status := .completed, lastErrorCode := none }

/-- `update_stage` with a claim, or without one. -/
def updateStage (now : Instant) (row : StageRow) (held : Option Claim)
    (fields : PipelineStageColumns → PipelineStageColumns) : Except Failure (StageRow × Unit) :=
  guardedWrite now 0 row held (fields (columnsOf row) : PipelineStageColumns)

/-- A claimed update: on success the worker goes on, a `CoordinationConflict` leaves through
`finally`. -/
def World.write (world : World) (worker : Nat) (row : StageRow) (held : Claim)
    (fields : PipelineStageColumns → PipelineStageColumns)
    (calls : List ModelCall) (onward : Pc) : World :=
  match updateStage world.now row (some held) fields with
  | .ok (written, _) => { world with stage := some written, calls := calls }.goto worker onward
  | .error _ => world.goto worker (.releasing held)

/-! ## One step of one worker -/

/-- The caller's tests on the stage it read. -/
def afterCheck (program : StageProgram) (now : Instant) (force : Bool)
    (seen : PipelineStageColumns) : Pc :=
  if program.forcible ∧ force ∧ seen.status = .needsReview then .forcing
  else if stageIsDue now seen then .ensuring seen
  else .idle

/-- The stage function up to its attempt number. -/
def afterClaim (program : StageProgram) (now : Instant) (row seen : PipelineStageColumns)
    (held : Claim) (reply : Reply) : Pc :=
  match reply with
  | .aborted => .releasing held
  | .raised _ _ =>
      if program.needsFastSummary then
        .failing held (seen.attemptCount + 1) "fast_artifact_missing" false
      else .releasing held
  | .returned =>
      if program.rereads then
        if stageIsDue now row then .marking held (row.attemptCount + 1) else .releasing held
      else .marking held (seen.attemptCount + 1)

/-- The next transaction or external call of a worker, on the stage row `row`. -/
def advanceOn (program : StageProgram) (world : World) (index : Nat) (answer : Answer)
    (row : StageRow) : World :=
  match world.workers index with
  | .idle => world.goto index (.checking answer.force)
  | .checking force => world.goto index (afterCheck program world.now force (columnsOf row))
  | .forcing =>
      match updateStage world.now row none forcedColumns with
      | .ok (written, _) =>
          { world with stage := some written, calls := [] }.goto index .rechecking
      | .error _ => world.goto index .idle
  | .rechecking => world.goto index (afterCheck program world.now false (columnsOf row))
  | .ensuring seen => world.goto index (.claiming seen)
  | .claiming seen =>
      match claim world.now row (world.owner index) leaseSeconds with
      | .ok (claimedRow, some held) =>
          { world with stage := some claimedRow }.goto index (.reading seen held)
      | .ok (claimedRow, none) => { world with stage := some claimedRow }.goto index .idle
      | .error _ => world.goto index .idle
  | .reading seen held =>
      world.goto index (afterClaim program world.now (columnsOf row) seen held answer.reply)
  | .marking held attempt =>
      world.write index row held (startedColumns attempt) world.calls
        (if program.announces then .announcing held attempt else .naming held attempt)
  | .announcing held attempt =>
      match checkLease world.now row held with
      | .ok _ => world.goto index (.naming held attempt)
      | .error _ => world.goto index (.releasing held)
  | .naming held attempt =>
      match answer.reply with
      | .returned => world.write index row held id world.calls (.calling held attempt)
      | .raised code retryable => world.goto index (.failing held attempt code retryable)
      | .aborted => world.goto index (.releasing held)
  | .calling held attempt =>
      if answer.reply = .aborted then world.goto index (.releasing held)
      else
        { world with calls := ⟨held.leaseEpoch, false⟩ :: world.calls }.goto index
          (.awaiting held attempt)
  | .awaiting held attempt =>
      match answer.reply with
      | .returned => world.goto index (.publishing held attempt)
      | .raised code retryable => world.goto index (.failing held attempt code retryable)
      | .aborted => world.goto index (.releasing held)
  | .failing held attempt code retryable =>
      world.write index row held (failedColumns program world.now attempt code retryable)
        (record held.leaseEpoch world.calls) (.notifying held)
  | .notifying held => world.goto index (.releasing held)
  | .publishing held _ =>
      -- the guard, the stage and the video share one transaction
      if answer.reply = .aborted then world.goto index (.releasing held)
      else
        world.write index row held publishedColumns (record held.leaseEpoch world.calls)
          (.releasing held)
  | .releasing held =>
      match release world.now row held with
      | .ok (released, _) => { world with stage := some released }.goto index .idle
      | .error _ => world.goto index .idle

/-- One step of one worker. The `ensure_stage` of a caller inserts the row if there is none. -/
def advance (program : StageProgram) (world : World) (index : Nat) (answer : Answer) : World :=
  match world.stage, world.workers index with
  | some row, _ => advanceOn program world index answer row
  | none, .idle => world.goto index (.checking answer.force)
  | none, .checking _ =>
      advanceOn program { world with stage := some (freshStage program.name) } index answer
        (freshStage program.name)
  | none, _ => world

/-- The renewal thread of `renewing_lease`; a failed renewal ends it and changes nothing. -/
def renew (world : World) (index : Nat) : World :=
  match world.stage, (world.workers index).claim? with
  | some row, some held =>
      match heartbeat world.now row held leaseSeconds with
      | .ok (renewed, _) => { world with stage := some renewed }
      | .error _ => world
  | _, _ => world

/-- One thing that happens. -/
inductive Action where
  | tick (elapsed : Nat)
  | advance (worker : Nat) (answer : Answer)
  | renew (worker : Nat)
  | resetFailedStages

/-- `reset_failed_stages` opens a new count of calls when it resets the stage. -/
def resetWorld (world : World) : World :=
  match world.stage with
  | some row =>
      { world with
        stage := some (resetStage row)
        calls := if resettable row then [] else world.calls }
  | none => world

def stepWorld (program : StageProgram) (world : World) : Action → World
  | .tick elapsed => { world with now := world.now + elapsed }
  | .advance worker answer => advance program world worker answer
  | .renew worker => renew world worker
  | .resetFailedStages => resetWorld world

/-- A stage row nobody works on, or none yet. -/
def World.start (owner : Nat → String) (now : Instant) (stage : Option StageRow) : World where
  now := now
  stage := stage
  workers := fun _ => .idle
  owner := owner
  calls := []

/-- The action starts a provider call. -/
def startsCall (world : World) : Action → Bool
  | .advance worker answer =>
      match world.workers worker with
      | .calling _ _ => answer.reply ≠ .aborted
      | _ => false
  | _ => false

end Shiliu.Pipeline
