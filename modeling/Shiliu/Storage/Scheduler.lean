/-
Module: Shiliu.Storage.Scheduler
Purpose: Jobs, the model-maintenance lane of each principal, and the transactions that claim,
  carry, recover and retry a job. A job and its lane carry separate lease columns; the lane's are
  read as a lease whose owner is the active job.
Trusted boundary: none
Main exports: Job, SchedulerLane, Scheduler, recoverJob, retryJob, SchedulerAction, performScheduler
-/
import Mathlib.Data.List.Sort
import Shiliu.Library.FencedLease
import Shiliu.Library.Table
import Shiliu.Library.Transition
import Shiliu.Storage.Basic
import Shiliu.Storage.DispatchLedger

set_option linter.all false

namespace Shiliu.Storage

open Shiliu.Library

/-! ## Rows -/

inductive JobKind where
  | memoryPurge
  | memoryIndex
  | sourceReconcile
  | memoryExtract
  | sourceExtract
  | wikiIntegrate
  | externalMaterialIntegrate
  /-- The column is text: any other kind. -/
  | other (name : String)
deriving DecidableEq

/-- `LOCAL_KINDS`. -/
def localKinds : List JobKind := [.memoryPurge, .memoryIndex, .sourceReconcile]

/-- `MODEL_KINDS`. -/
def modelKinds : List JobKind :=
  [.memoryExtract, .sourceExtract, .wikiIntegrate, .externalMaterialIntegrate]

inductive JobStatus where
  | queued
  | running
  | retryWait
  | budgetWait
  | completed
  | blocked
  | failed
deriving DecidableEq

/-- `payload_json`, of which only the batch id is read here. -/
structure JobPayload where
  maintenanceBatchId : Option String
  rest : String

/-- A row of `assistant_jobs`. -/
structure Job where
  id : String
  context : ResourceContext
  kind : JobKind
  status : JobStatus
  payload : JobPayload
  attempt : Nat
  notBefore : Instant
  lease : Lease String
  proposalJson : Option String
  lastErrorCode : Option String
  lastErrorMessage : Option String
  createdAt : Instant
  completedAt : Option Instant

/-- The `model-maintenance` row of `scheduler_lanes`; its lease is owned by `active_job_id`. -/
structure SchedulerLane where
  context : ResourceContext
  lease : Lease String

inductive OperationState where
  | applied
  | rollbackPending
  | other (name : String)
deriving DecidableEq

/-- A row of `metadata_backfill_job_holds`, joined with its operation if that exists. -/
structure JobHold where
  workspaceId : String
  jobId : String
  runId : String
  operationState : Option OperationState

/-- A row of `assistant_maintenance_batches`, with the principal of its space. -/
structure MaintenanceBatch where
  id : String
  context : ResourceContext
  spaceId : Nat
  sourceLimit : Int
  modelLimit : Int
  callsUsed : Int

structure Scheduler where
  now : Instant
  jobs : Table Job.id
  lanes : Table SchedulerLane.context
  holds : List JobHold
  batches : Table MaintenanceBatch.id

def Scheduler.empty (now : Instant) : Scheduler :=
  { now := now
    jobs := Table.empty Job.id
    lanes := Table.empty SchedulerLane.context
    holds := []
    batches := Table.empty MaintenanceBatch.id }

/-! ## Claiming -/

/-- `0 < lease_seconds <= 120`, in microseconds. -/
def validJobLease (seconds : Nat) : Bool :=
  0 < seconds ∧ seconds ≤ 120 * microsPerSecond

/-- A lane as `_lane` inserts it. -/
def freshLane (context : ResourceContext) : SchedulerLane :=
  { context := context
    lease := { owner := none, expiry := none, epoch := 0 } }

/-- `_lane`: insert the row unless it exists, and lock it. -/
def lockLane (state : Scheduler) (context : ResourceContext) : Scheduler × SchedulerLane :=
  let lanes := state.lanes.insert (freshLane context)
  ({ state with lanes := lanes }, (lanes.lookup context).getD (freshLane context))

/-- `status IN ('queued','retry_wait','budget_wait')`. -/
def Job.runnable (job : Job) : Bool :=
  job.status = .queued ∨ job.status = .retryWait ∨ job.status = .budgetWait

/-- The rows `_candidate` selects from, `skipped` being those locked by other transactions. -/
def eligible (state : Scheduler) (context : ResourceContext) (kinds : List JobKind)
    (skipped : List String) (job : Job) : Bool :=
  job.context = context ∧ job.kind ∈ kinds ∧ job.runnable ∧ job.notBefore ≤ state.now ∧
    (state.holds.all fun hold =>
      !(hold.workspaceId = job.context.workspaceId ∧ hold.jobId = job.id)) ∧
    job.id ∉ skipped

def kindRank : JobKind → Nat
  | .memoryPurge => 0
  | .memoryIndex => 1
  | _ => 2

/-- `ORDER BY CASE j.kind … END, j.created_at, j.id`. -/
def claimOrder (first second : Job) : Prop :=
  kindRank first.kind < kindRank second.kind ∨
    kindRank first.kind = kindRank second.kind ∧
      (first.createdAt < second.createdAt ∨
        first.createdAt = second.createdAt ∧ first.id ≤ second.id)

instance : DecidableRel claimOrder := fun _ _ => inferInstanceAs (Decidable (_ ∨ _))

/-- `_candidate`. -/
def candidate (state : Scheduler) (context : ResourceContext) (kinds : List JobKind)
    (skipped : List String) : Option Job :=
  ((state.jobs.rows.filter (eligible state context kinds skipped)).insertionSort claimOrder).head?

/-- The columns `_assign_job` sets on the job. -/
def assignment (owner : String) (leaseUntil : Instant) : Change Job.id :=
  ⟨fun job =>
    { job with
      status := .running
      lease := job.lease.grant owner leaseUntil
      attempt := job.attempt + 1 },
   fun _ => rfl⟩

/-- The lane row that follows the job `row`. -/
def follow (row : Job) : Change SchedulerLane.context :=
  ⟨fun lane =>
    { lane with
      lease := { owner := some row.id, expiry := row.lease.expiry, epoch := row.lease.epoch } },
   fun _ => rfl⟩

/-- `_assign_job`, `elapsed` after the row was selected and locked. -/
def assignJob (state : Scheduler) (context : ResourceContext) (owner : String) (row : Job)
    (model : Bool) (seconds elapsed : Nat) : Scheduler × Option Job :=
  let leaseUntil := state.now + elapsed + seconds
  let job := (assignment owner leaseUntil).apply row
  ({ state with
     now := state.now + elapsed
     jobs := state.jobs.modify row.id (assignment owner leaseUntil)
     lanes := if model then state.lanes.modify context (follow job) else state.lanes },
    some job)

/-- The arguments of `claim_job`, with what it meets: rows locked by others, and the time between
its first and its last statement. -/
structure ClaimRequest where
  leaseSeconds : Nat
  allowModelJobs : Bool
  allowMaintenance : Bool
  activityAllowed : Bool
  budgetAllowed : Bool
  kinds : Option (List JobKind)
  skipped : List String
  elapsed : Nat

/-- `tuple(k for k in … if kinds is None or k in kinds)`. -/
def ClaimRequest.restrict (request : ClaimRequest) (kinds : List JobKind) : List JobKind :=
  kinds.filter fun kind => request.kinds.all fun wanted => kind ∈ wanted

/-- `lane["active_job_id"] and lane["valid"]`. -/
def SchedulerLane.busy (now : Instant) (lane : SchedulerLane) : Bool :=
  truthy lane.lease.owner ∧ lane.lease.live now

/-- `claim_job`. -/
def claimJob (state : Scheduler) (context : ResourceContext) (owner : String)
    (request : ClaimRequest) : Except Failure (Scheduler × Option Job) :=
  if owner = "" ∨ !validJobLease request.leaseSeconds then
    .error (.valueError "invalid_job_lease")
  else
    match candidate state context (request.restrict localKinds) request.skipped with
    | some row =>
        .ok (assignJob state context owner row false request.leaseSeconds request.elapsed)
    | none =>
        if request.allowMaintenance ∧ request.allowModelJobs ∧ request.activityAllowed ∧
            request.budgetAllowed then
          let (state, lane) := lockLane state context
          if lane.busy state.now then .ok (state, none)
          else
            match candidate state context (request.restrict modelKinds) request.skipped with
            | none => .ok (state, none)
            | some row =>
                .ok (assignJob state context owner row true request.leaseSeconds request.elapsed)
        else .ok (state, none)

/-- The row `claim_backfill_job` selects: a runnable job held for exactly this run. -/
def heldForRun (state : Scheduler) (context : ResourceContext) (runId : String) (job : Job) :
    Bool :=
  job.context = context ∧ job.runnable ∧ job.notBefore ≤ state.now ∧
    (job.kind = .sourceReconcile ∨ job.kind = .wikiIntegrate) ∧
    state.holds.any fun hold =>
      hold.workspaceId = job.context.workspaceId ∧ hold.jobId = job.id ∧ hold.runId = runId ∧
        (hold.operationState = some .applied ∨ hold.operationState = some .rollbackPending)

/-- `claim_backfill_job`. -/
def claimBackfillJob (state : Scheduler) (context : ResourceContext) (owner jobId runId : String)
    (seconds elapsed : Nat) : Except Failure (Scheduler × Option Job) :=
  if owner = "" ∨ !validJobLease seconds then .error (.valueError "invalid_job_lease")
  else
    match (state.jobs.lookup jobId).filter fun job => job.context = context with
    | none => .ok (state, none)
    | some job =>
        if job.kind ∈ localKinds then
          if heldForRun state context runId job then
            .ok (assignJob state context owner job false seconds elapsed)
          else .ok (state, none)
        else
          let (state, lane) := lockLane state context
          if lane.busy state.now then .ok (state, none)
          else if heldForRun state context runId job then
            .ok (assignJob state context owner job true seconds elapsed)
          else .ok (state, none)

/-! ## Carrying a claimed job -/

/-- `guard_job`: the job, and its lane unless the kind is local. -/
def guardJob (state : Scheduler) (context : ResourceContext) (jobId owner : String)
    (epoch : Nat) : Except Failure (Scheduler × Job × Option SchedulerLane) :=
  match (state.jobs.lookup jobId).filter fun job => job.context = context with
  | none => .error (.coordinationConflict "job_missing")
  | some job =>
      if ¬ (job.status = .running ∧ job.lease.Holds state.now ⟨owner, epoch⟩) then
        .error (.coordinationConflict "job_fenced")
      else if job.kind ∈ localKinds then .ok (state, job, none)
      else
        let (state, lane) := lockLane state context
        if ¬ lane.lease.Holds state.now ⟨jobId, epoch⟩ then
          .error (.coordinationConflict "lane_fenced")
        else .ok (state, job, some lane)

/-- The actions of `job_transition`. -/
inductive JobAction where
  | heartbeat
  | stage
  | complete
  | fail
  | defer
deriving DecidableEq

/-- `(10,60,300)[min(max(attempt-1,0),2)]`, in microseconds. -/
def retryDelay (attempt : Nat) : Nat :=
  (match attempt - 1 with
    | 0 => 10
    | 1 => 60
    | _ => 300) * microsPerSecond

/-- The columns a heartbeat sets. -/
def renewal (leaseUntil : Instant) : Change Job.id :=
  ⟨fun job => { job with lease := job.lease.renew leaseUntil }, fun _ => rfl⟩

/-- The column `stage` sets. -/
def staging (proposal : Option String) : Change Job.id :=
  ⟨fun job => { job with proposalJson := proposal }, fun _ => rfl⟩

/-- The columns `complete`, `fail` and `defer` set. -/
def departure (now : Instant) (action : JobAction) : Change Job.id :=
  ⟨fun job =>
    { job with
      status :=
        if action = .fail then (if 3 ≤ job.attempt then .blocked else .retryWait)
        else if action = .complete then .completed else .queued
      lease := job.lease.release
      attempt := if action = .defer then job.attempt - 1 else job.attempt
      notBefore := if action = .fail then now + retryDelay job.attempt else job.notBefore
      completedAt := if action = .complete then some now else job.completedAt },
   fun _ => rfl⟩

/-- `SET active_job_id=NULL, lease_until=NULL … WHERE active_job_id=%s AND lease_epoch=%s`. -/
def vacate (jobId : String) (epoch : Nat) : Change SchedulerLane.context :=
  ⟨fun lane =>
    if lane.lease.owner = some jobId ∧ lane.lease.epoch = epoch then
      { lane with lease := lane.lease.release }
    else lane,
   fun lane => by split <;> rfl⟩

/-- `SET lease_until=%s … WHERE active_job_id=%s AND lease_epoch=%s`. -/
def extend (jobId : String) (epoch : Nat) (leaseUntil : Instant) :
    Change SchedulerLane.context :=
  ⟨fun lane =>
    if lane.lease.owner = some jobId ∧ lane.lease.epoch = epoch then
      { lane with lease := lane.lease.renew leaseUntil }
    else lane,
   fun lane => by split <;> rfl⟩

/-- `job_transition`; the updates come `elapsed` after the guard. -/
def jobTransition (state : Scheduler) (context : ResourceContext) (jobId owner : String)
    (epoch : Nat) (action : JobAction) (seconds : Nat) (proposal : Option String)
    (elapsed : Nat) : Except Failure (Scheduler × Unit) :=
  if !validJobLease seconds then .error (.valueError "invalid_job_lease")
  else if action = .stage ∧ proposal = none then .error (.valueError "proposal_required")
  else do
    let (state, _, lane) ← guardJob state context jobId owner epoch
    let now := state.now + elapsed
    match action with
    | .heartbeat =>
        .ok
          ({ state with
             now := now
             jobs := state.jobs.modify jobId (renewal (now + seconds))
             lanes :=
               if lane.isSome then
                 state.lanes.modify context (extend jobId epoch (now + seconds))
               else state.lanes },
            ())
    | .stage =>
        .ok
          ({ state with
             now := now
             jobs := state.jobs.modify jobId (staging proposal) },
            ())
    | _ =>
        .ok
          ({ state with
             now := now
             jobs := state.jobs.modify jobId (departure now action)
             lanes :=
               if lane.isSome then state.lanes.modify context (vacate jobId epoch)
               else state.lanes },
            ())

/-! ## Recovering and retrying -/

inductive RecoveryClass where
  | staged
  | replaySafe
  | unknown
  | exhausted
deriving DecidableEq

/-- The columns `recover_job` sets. -/
def recovery (disposition : RecoveryClass) : Change Job.id :=
  ⟨fun job =>
    { job with
      status :=
        if 3 ≤ job.attempt then .blocked
        else if disposition = .staged ∨ disposition = .replaySafe then .retryWait else .blocked
      lease := job.lease.release },
   fun _ => rfl⟩

/-- `recover_job`. -/
def recoverJob (state : Scheduler) (context : ResourceContext) (jobId : String)
    (disposition : RecoveryClass) : Except Failure (Scheduler × Bool) :=
  let (state, _) := lockLane state context
  match (state.jobs.lookup jobId).filter fun job => job.context = context with
  | none => .ok (state, false)
  | some job =>
      if job.status ≠ .running ∨ job.lease.live state.now then .ok (state, false)
      else if disposition = .staged ∧ job.proposalJson = none then
        .error (.coordinationConflict "proposal_missing")
      else
        .ok
          ({ state with
             jobs := state.jobs.modify jobId (recovery disposition)
             lanes := state.lanes.modify context (vacate jobId job.lease.epoch) },
            true)

/-- The columns `retry_job` sets. -/
def requeue (now : Instant) (payload : JobPayload) : Change Job.id :=
  ⟨fun job =>
    { job with
      status := .queued
      notBefore := now
      payload := payload
      lease := job.lease.release
      lastErrorCode := none
      lastErrorMessage := none
      completedAt := none },
   fun _ => rfl⟩

/-- `retry_job`; `uuid` names the batch that continues an exhausted one. -/
def retryJob (state : Scheduler) (context : ResourceContext) (jobId uuid : String) :
    Except Failure (Scheduler × Unit) :=
  match (state.jobs.lookup jobId).filter fun job => job.context = context with
  | none => .error .keyError
  | some job =>
      if ¬ (job.status = .blocked ∨ job.status = .failed ∨ job.status = .retryWait ∨
          job.status = .budgetWait) then
        .error (.assistantConflict "job_not_retryable")
      else if job.lastErrorCode = some "external_side_effect_unknown" then
        .error (.assistantConflict "job_outcome_resolution_required")
      else if job.status = .budgetWait ∧
          job.lastErrorCode = some "maintenance_budget_wait" then
        match job.payload.maintenanceBatchId.bind fun batchId =>
            (state.batches.lookup batchId).filter fun batch => batch.context = context with
        | none => .error (.assistantConflict "maintenance_batch_missing")
        | some prior =>
            let batch : MaintenanceBatch :=
              { id := "amb_" ++ uuid
                context := context
                spaceId := prior.spaceId
                sourceLimit := 1
                modelLimit := prior.modelLimit
                callsUsed := 0 }
            .ok
              ({ state with
                 batches := state.batches.insert batch
                 jobs :=
                   state.jobs.modify jobId
                     (requeue state.now
                       { job.payload with maintenanceBatchId := some batch.id }) },
                ())
      else
        .ok ({ state with jobs := state.jobs.modify jobId (requeue state.now job.payload) }, ())

/-! ## The transactions -/

/-- A row as `enqueue_job` inserts it. -/
def freshJob (context : ResourceContext) (uuid : String) (kind : JobKind) (payload : JobPayload)
    (notBefore now : Instant) : Job :=
  { id := "ajob_" ++ uuid
    context := context
    kind := kind
    status := .queued
    payload := payload
    attempt := 0
    notBefore := notBefore
    lease := { owner := none, expiry := none, epoch := 0 }
    proposalJson := none
    lastErrorCode := none
    lastErrorMessage := none
    createdAt := now
    completedAt := none }

/-- What the callers of `job_transition` and `recover_job` still write on a job that has left
`running`, in the same transaction (`fail_job`, `defer_maintenance_job`,
`recover_expired_jobs`). -/
def parking (status : JobStatus) (notBefore : Instant) (code message : Option String) :
    Change Job.id :=
  ⟨fun job =>
    if job.status = .running ∨ status = .running then job
    else
      { job with
        status := status
        notBefore := notBefore
        lastErrorCode := code
        lastErrorMessage := message },
   fun job => by split <;> rfl⟩

/-- One transaction of any principal, something the scheduler only reads, or the passage of
time. -/
inductive SchedulerAction where
  | tick (elapsed : Nat)
  | enqueue (context : ResourceContext) (uuid : String) (kind : JobKind) (payload : JobPayload)
      (notBefore : Instant)
  | hold (holds : List JobHold)
  | openBatch (batch : MaintenanceBatch)
  | park (jobId : String) (status : JobStatus) (notBefore : Instant) (code message : Option String)
  | claim (context : ResourceContext) (owner : String) (request : ClaimRequest)
  | claimBackfill (context : ResourceContext) (owner jobId runId : String) (seconds elapsed : Nat)
  | transition (context : ResourceContext) (jobId owner : String) (epoch : Nat)
      (action : JobAction) (seconds : Nat) (proposal : Option String) (elapsed : Nat)
  | recover (context : ResourceContext) (jobId : String) (disposition : RecoveryClass)
  | retry (context : ResourceContext) (jobId uuid : String)

/-- One transaction: the state it commits with the job it hands out, or why it is refused. -/
def performScheduler (state : Scheduler) :
    SchedulerAction → Except Failure (Scheduler × Option Job)
  | .tick elapsed => .ok ({ state with now := state.now + elapsed }, none)
  | .enqueue context uuid kind payload notBefore =>
      let job := freshJob context uuid kind payload notBefore state.now
      .ok ({ state with jobs := state.jobs.insert job }, none)
  | .hold holds => .ok ({ state with holds := holds }, none)
  | .openBatch batch => .ok ({ state with batches := state.batches.insert batch }, none)
  | .park jobId status notBefore code message =>
      let change := parking status notBefore code message
      .ok ({ state with jobs := state.jobs.modify jobId change }, none)
  | .claim context owner request => claimJob state context owner request
  | .claimBackfill context owner jobId runId seconds elapsed =>
      claimBackfillJob state context owner jobId runId seconds elapsed
  | .transition context jobId owner epoch action seconds proposal elapsed => do
      let (state, _) ←
        jobTransition state context jobId owner epoch action seconds proposal elapsed
      .ok (state, none)
  | .recover context jobId disposition => do
      let (state, _) ← recoverJob state context jobId disposition
      .ok (state, none)
  | .retry context jobId uuid => do
      let (state, _) ← retryJob state context jobId uuid
      .ok (state, none)

end Shiliu.Storage
