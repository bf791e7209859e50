/-
Module: Shiliu.Research.Recovery
Purpose: `ResearchRecoveryCoordinator.run_once`: the scan for the task whose execution metadata was
  updated first, and the supervised run of that task with every way it ends. The metadata row is
  written by transactions of the ledger only, each of which sets `updated_at`; what the kernel, the
  product and the orchestrator answer, and the task row a transaction reads, come with the run, since
  other parties act on the task in between.
Trusted boundary: the answers of the kernel, the provider product and the orchestrator; clock
  readings
Main exports: Raised, Scheduled, ScannedTask, superviseTurns, runSegment, runSupervised, runOnce
-/
import Mathlib.Data.Prod.Lex
import Mathlib.Data.String.Basic
import Shiliu.Research.Ledger

set_option linter.all false

namespace Shiliu.Research

open Shiliu.Library Shiliu.Storage

/-! ## Exceptions -/

/-- What an exception is to the handlers of the coordinator. -/
inductive Raised where
  /-- `ResearchConflict` itself. -/
  | conflict
  /-- `ResearchUnsafeState`, a conflict too. -/
  | unsafeState
  /-- Another `ResearchError`. -/
  | research
  /-- `StorageError` of the categories `lock_timeout` and `transaction_retryable`. -/
  | storageBusy
  | storage
  | other
deriving DecidableEq

/-- `isinstance(exc, ResearchConflict)`. -/
def Raised.isConflict (raised : Raised) : Bool := raised ∈ [.conflict, .unsafeState]

/-- `isinstance(exc, ResearchError)`. -/
def Raised.isResearch (raised : Raised) : Bool := raised ∈ [.conflict, .unsafeState, .research]

/-- The class of a failure of the service. -/
def ResearchFailure.raised : ResearchFailure → Raised
  | .conflict _ => .conflict
  | .unsafeState _ => .unsafeState
  | .forbidden _ | .notFound _ | .validation _ => .research
  | .storageError => .storage
  | .valueError _ | .keyError => .other

/-! ## The scan -/

/-- The execution metadata of a task with its `updated_at`. -/
structure Scheduled where
  execution : ExecutionMetadata
  updatedAt : Instant
deriving DecidableEq

/-- A task of the scan. -/
structure ScannedTask where
  taskId : String
  status : TaskStatus
  scheduled : Scheduled
deriving DecidableEq

/-- The selection condition of `run_once`, at a time. -/
def selectable (now : Instant) (task : ScannedTask) : Bool :=
  task.status ∉ [.terminal, .waitingUser] &&
    task.scheduled.execution.schedulingIntent ∈ [.queued, .manual] &&
    (task.scheduled.execution.schedulingStatus ∈ [.queued, .running] ||
      (task.scheduled.execution.schedulingStatus = .backoff &&
        task.scheduled.execution.nextRetryAt.any fun retry => retry ≤ now))

/-- `ORDER BY m.updated_at, m.task_id`. -/
def ScannedTask.turn (task : ScannedTask) : Instant ×ₗ String :=
  toLex (task.scheduled.updatedAt, task.taskId)

/-- The task `run_once` selects. -/
def selectTask (now : Instant) (tasks : List ScannedTask) : Option ScannedTask :=
  (tasks.filter (selectable now)).argmin ScannedTask.turn

/-! ## What a run meets -/

/-- What a transaction of the ledger reads: the row of the task, the clock its lease is judged by,
and the clock of the service. -/
structure Visit where
  task : TaskRow
  leaseClock : Instant
  now : Instant

/-- A turn of the loop that waits for the worker: the clocks, the renewal of the lease when it is
due, and what the tick reads when it is due. -/
structure Turn where
  mono : Instant
  wall : Instant
  renewed : Except Raised Unit
  ticked : Except Raised Visit

/-- What the parts that are not the coordinator's answer during one run, each used where the run
gets to it. -/
structure Run where
  scannedAt : Instant
  runnerId : String
  reservationMs : Nat
  segmentId : Nat
  /-- `get_task`: some receipt or checkpoint says that the work is complete. -/
  complete : Except Raised Bool
  available : Bool
  hasRunLock : Bool
  /-- The task `_claim_and_recover` reads, and when. -/
  claimed : Except Raised (TaskRow × Instant)
  /-- `claim_owner`: the owner epoch. -/
  claimOwner : Except Raised Nat
  /-- `get_task` and `recover_in_flight`: there are effects of unknown outcome. -/
  recovered : Except Raised Bool
  budget : Except Raised Unit
  /-- `run_to_boundary`. -/
  boundary : Except Raised Unit
  /-- The closing transaction of a complete run: the epoch it reads, and the clock. -/
  completion : Except Raised (Nat × Instant)
  beginning : Except Raised Visit
  /-- The clocks when the worker is started. -/
  startedMono : Instant
  startedWall : Instant
  turns : List Turn
  endedMono : Instant
  settleTick : Except Raised Visit
  settling : Except Raised Visit
  /-- `close_provider_failure`. -/
  closing : Except Raised Unit
  /-- The effects that `_safe_local_completion_retry` reads allow a retry. -/
  safeRetry : Except Raised Bool
  /-- The `record_failure` for effects of unknown outcome, and the one for an exception. -/
  unknownRecord : Except Raised Visit
  failureRecord : Except Raised Visit
  /-- The status of the task when the run is over. -/
  statusAfter : TaskStatus

/-! ## Transactions on the metadata -/

/-- The call sets `updated_at`: not when an own segment is gone on with or an interval was slept. -/
def LedgerCall.writes (call : LedgerCall) (row : ExecutionMetadata) : Bool :=
  match call with
  | .beginSegment ownerId ownerEpoch =>
      !row.segment.any fun segment => segment.ownerId = ownerId ∧ segment.ownerEpoch = ownerEpoch
  | .tick _ _ .sleep => false
  | _ => true

/-- A call of the ledger on the metadata, behind its checks on the task. -/
def LedgerCall.attempt (call : LedgerCall) (run : Run) (visit : Visit) (row : ExecutionMetadata) :
    Except ResearchFailure ExecutionMetadata := do
  call.guard visit.leaseClock visit.task
  call.change run.reservationMs run.segmentId row

/-- One transaction of the ledger; one that raises is rolled back. -/
def ledgerCall (run : Run) (row : Scheduled) (visit : Except Raised Visit)
    (call : Visit → LedgerCall) : Scheduled × Except Raised ExecutionMetadata :=
  match visit with
  | .error raised => (row, .error raised)
  | .ok visit =>
      match (call visit).attempt run visit row.execution with
      | .error failure => (row, .error failure.raised)
      | .ok execution =>
          (⟨execution, if (call visit).writes row.execution then visit.now else row.updatedAt⟩,
            .ok execution)

/-- `record_failure`. -/
def recordFailure (run : Run) (row : Scheduled) (visit : Except Raised Visit) (code : String)
    (safeToRetry : Bool) : Scheduled × Except Raised Unit :=
  let recorded := ledgerCall run row visit fun visit =>
    .recordFailure visit.now code safeToRetry
  (recorded.1, recorded.2.map fun _ => ())

/-! ## The claim -/

/-- The task is not claimed: it waits or is over, or another runner has it. -/
def notClaimed (runnerId : String) (task : TaskRow) (now : Instant) : Bool :=
  task.status ∈ [.terminal, .waitingUser, .blocked] ||
    (truthy task.lease.owner && task.lease.owner.getD "" ≠ runnerId && task.lease.live now)

/-- The epoch under which the runner has the task. -/
def claimEpoch (run : Run) (task : TaskRow) (now : Instant) : Except Raised Nat :=
  if task.lease.owner.getD "" ≠ run.runnerId ∨ task.lease.live now = false then run.claimOwner
  else .ok task.lease.epoch

/-- What `_claim_and_recover` finds before it writes: no owner, effects of unknown outcome, or an
owner epoch. -/
inductive ClaimAnswer where
  | unclaimed
  | unknown
  | owner (ownerEpoch : Nat)

def claimAnswer (run : Run) : Except Raised ClaimAnswer := do
  let (task, now) ← run.claimed
  if notClaimed run.runnerId task now then return .unclaimed
  else
    let ownerEpoch ← claimEpoch run task now
    let unknown ← run.recovered
    return if unknown then .unknown else .owner ownerEpoch

/-- `_claim_and_recover`. -/
def claimAndRecover (run : Run) (row : Scheduled) : Scheduled × Except Raised (Option Nat) :=
  match claimAnswer run with
  | .error raised => (row, .error raised)
  | .ok .unclaimed => (row, .ok none)
  | .ok .unknown =>
      let recorded := recordFailure run row run.unknownRecord "provider_outcome_unknown" false
      (recorded.1, recorded.2.map fun _ => none)
  | .ok (.owner ownerEpoch) => (row, .ok (some ownerEpoch))

/-! ## A run that is complete already -/

/-- `scheduling_intent='none', scheduling_status='complete', resume_reason='completed'`. -/
def completedRow (row : ExecutionMetadata) : ExecutionMetadata :=
  { row with
    schedulingIntent := .none
    schedulingStatus := .complete
    resumeReason := some "completed" }

/-- The work on a complete run under an owner epoch, up to the clock of its closing transaction. -/
def completionClock (run : Run) (ownerEpoch : Nat) : Except Raised Instant := do
  run.budget
  run.boundary
  let (current, now) ← run.completion
  if current ≠ ownerEpoch then .error .conflict else return now

/-- The handlers of the branch: a plain conflict is let go, any other error of the service is
recorded. -/
def handleLocal (run : Run) (row : Scheduled) (raised : Raised) : Scheduled × Except Raised Unit :=
  if raised = .conflict then (row, .ok ())
  else if raised.isResearch then
    match run.safeRetry with
    | .error failure => (row, .error failure)
    | .ok safe => recordFailure run row run.failureRecord "research_error" safe
  else (row, .error raised)

/-- The branch of `_run_supervised` for a complete run. -/
def localCompletion (run : Run) (row : Scheduled) : Scheduled × Except Raised Unit :=
  match claimAndRecover run row with
  | (row, .error raised) => handleLocal run row raised
  | (row, .ok none) => (row, .ok ())
  | (row, .ok (some ownerEpoch)) =>
      match completionClock run ownerEpoch with
      | .error raised => handleLocal run row raised
      | .ok now => (⟨completedRow row.execution, now⟩, .ok ())

/-! ## The supervised worker -/

/-- `TICK_SECONDS`, `LEASE_RENEW_SECONDS` and two seconds, in the unit of the clocks. -/
def tickTime : Instant := 5 * microsPerSecond
def leaseRenewTime : Instant := 15 * microsPerSecond
def skewTime : Instant := 2 * microsPerSecond

/-- `round(seconds * 1000)`, which rounds a half to the even neighbour. -/
def roundMs (micros : Nat) : Nat :=
  let whole := micros / 1000
  let part := micros % 1000
  if 500 < part ∨ (part = 500 ∧ whole % 2 = 1) then whole + 1 else whole

/-- The variables of the loop. -/
structure LoopState where
  startMono : Instant
  previousMono : Instant
  previousWall : Instant
  activeElapsed : Nat
  lastLease : Instant
  timingUncertain : Bool

/-- How an interval between two readings is classified. -/
def classify (monoDelta wallDelta : Nat) : Interval :=
  if monoDelta + tickTime < wallDelta then .sleep
  else if 3 * tickTime < monoDelta ∧ wallDelta ≤ monoDelta + skewTime ∧
      monoDelta ≤ wallDelta + skewTime then .uncertain
  else .running

/-- The variables of the loop when the worker is started. -/
def Run.loopStart (run : Run) : LoopState where
  startMono := run.startedMono
  previousMono := run.startedMono
  previousWall := run.startedWall
  activeElapsed := 0
  lastLease := run.startedMono
  timingUncertain := false

/-- A turn has a tick to do. -/
def LoopState.tickDue (state : LoopState) (turn : Turn) : Bool :=
  !state.timingUncertain && tickTime ≤ turn.mono - state.startMono

/-- The interval of a turn. -/
def LoopState.interval (state : LoopState) (turn : Turn) : Interval :=
  classify (turn.mono - state.previousMono) (turn.wall - state.previousWall)

/-- `active_elapsed` with the interval of a turn. -/
def LoopState.elapsed (state : LoopState) (turn : Turn) : Nat :=
  state.activeElapsed +
    if state.interval turn = .running then turn.mono - state.previousMono else 0

/-- The renewal of the lease in a turn. -/
def LoopState.renewal (state : LoopState) (turn : Turn) : Except Raised LoopState :=
  if leaseRenewTime ≤ turn.mono - state.lastLease then
    turn.renewed.map fun _ => { state with lastLease := turn.mono }
  else .ok state

/-- The variables after a tick. -/
def LoopState.afterTick (state : LoopState) (turn : Turn) (snapshot : ExecutionMetadata) :
    LoopState :=
  { state with
    startMono := turn.mono
    previousMono := turn.mono
    previousWall := turn.wall
    activeElapsed := state.elapsed turn
    timingUncertain := state.interval turn = .uncertain ∨ snapshot.timingStatus = .uncertain }

/-- The tick of a turn. -/
def LoopState.tickCall (state : LoopState) (turn : Turn) (segment : Segment) : LedgerCall :=
  .tick segment (roundMs (state.elapsed turn)) (state.interval turn)

/-- The loop over the turns. -/
def superviseTurns (run : Run) (segment : Segment) :
    List Turn → LoopState → Scheduled → Scheduled × Except Raised LoopState
  | [], state, row => (row, .ok state)
  | turn :: rest, state, row =>
      match state.renewal turn with
      | .error raised => (row, .error raised)
      | .ok state =>
          if state.tickDue turn then
            match ledgerCall run row turn.ticked fun _ => state.tickCall turn segment with
            | (row, .error raised) => (row, .error raised)
            | (row, .ok snapshot) =>
                superviseTurns run segment rest (state.afterTick turn snapshot) row
          else superviseTurns run segment rest state row

/-- `settle`: a tick, and the transaction that closes the segment. -/
def settle (run : Run) (segment : Segment) (state : LoopState) (row : Scheduled) :
    Scheduled × Except Raised Unit :=
  let elapsed := roundMs (state.activeElapsed + (run.endedMono - state.previousMono))
  match ledgerCall run row run.settleTick fun _ => .tick segment elapsed .running with
  | (row, .error raised) => (row, .error raised)
  | (row, .ok _) =>
      let succeeded : Bool := run.boundary matches .ok ()
      let settled := ledgerCall run row run.settling fun _ =>
        .settle segment (if succeeded then .complete else .manualRequired)
          (if succeeded then some "completed" else none)
      (settled.1, settled.2.map fun _ => ())

/-- The settlement of a run whose timing is certain; a conflict is let go. -/
def settleCertain (run : Run) (segment : Segment) (state : LoopState) (row : Scheduled) :
    Scheduled × Except Raised Unit :=
  if state.timingUncertain then (row, .ok ())
  else
    match settle run segment state row with
    | (row, .ok ()) => (row, .ok ())
    | (row, .error raised) => (row, if raised.isConflict then .ok () else .error raised)

/-- `_safe_local_completion_retry` for the exception of the worker. -/
def safeRetryOf (run : Run) (raised : Raised) : Except Raised Bool :=
  if raised = .storageBusy then .ok true else run.safeRetry

/-- `close_provider_failure`, whose research errors are logged. -/
def closedFailure (run : Run) : Except Raised Unit :=
  match run.closing with
  | .ok () => .ok ()
  | .error failure => if failure.isResearch then .ok () else .error failure

/-- What is done about the exception of the worker. -/
def closeFailure (run : Run) (row : Scheduled) : Scheduled × Except Raised Unit :=
  match run.boundary with
  | .ok () => (row, .ok ())
  | .error raised =>
      if raised = .conflict then (row, .ok ())
      else
        match closedFailure run with
        | .error failure => (row, .error failure)
        | .ok () =>
            match safeRetryOf run raised with
            | .error failure => (row, .error failure)
            | .ok safe => recordFailure run row run.failureRecord "error" safe

/-- The end of a run: the segment is settled and a failure closed. -/
def finishSegment (run : Run) (segment : Segment) (state : LoopState) (row : Scheduled) :
    Scheduled × Except Raised Unit :=
  match settleCertain run segment state row with
  | (row, .error raised) => (row, .error raised)
  | (row, .ok ()) => closeFailure run row

/-- The worker is run under a segment. -/
def superviseSegment (run : Run) (segment : Segment) (row : Scheduled) :
    Scheduled × Except Raised Unit :=
  match run.budget with
  | .error raised => (row, .error raised)
  | .ok () =>
      match superviseTurns run segment run.turns run.loopStart row with
      | (row, .error raised) => (row, .error raised)
      | (row, .ok state) => finishSegment run segment state row

/-- The run of a claimed task: its segment is begun, the worker supervised, the segment settled and
a failure closed. -/
def runSegment (run : Run) (ownerEpoch : Nat) (row : Scheduled) :
    Scheduled × Except Raised Unit :=
  match ledgerCall run row run.beginning fun _ => .beginSegment run.runnerId ownerEpoch with
  | (row, .error raised) => (row, .error raised)
  | (row, .ok execution) =>
      superviseSegment run (execution.segment.getD ⟨run.segmentId, run.runnerId, ownerEpoch⟩) row

/-- The run without the ownership hooks of the orchestrator. -/
def runBounded (run : Run) : Except Raised Unit := do
  run.budget
  match run.boundary with
  | .ok () => return
  | .error raised => if raised.isConflict then return else .error raised

/-- The handlers around the claim. -/
def handleClaim (run : Run) (row : Scheduled) (raised : Raised) : Scheduled × Except Raised Unit :=
  if raised.isConflict then (row, .ok ())
  else if raised = .storageBusy then
    recordFailure run row run.failureRecord "database_busy" true
  else (row, .error raised)

/-- `_run_supervised`. -/
def runSupervised (run : Run) (row : Scheduled) : Scheduled × Except Raised Unit :=
  match run.complete with
  | .error raised => (row, .error raised)
  | .ok true => localCompletion run row
  | .ok false =>
      if !run.available then
        recordFailure run row run.failureRecord "provider_research_unavailable" false
      else if !run.hasRunLock then (row, runBounded run)
      else
        match claimAndRecover run row with
        | (row, .error raised) => handleClaim run row raised
        | (row, .ok none) => (row, .ok ())
        | (row, .ok (some ownerEpoch)) => runSegment run ownerEpoch row

/-- A task after the run. -/
def ScannedTask.afterRun (run : Run) (task : ScannedTask) : ScannedTask :=
  { task with
    status := run.statusAfter
    scheduled := (runSupervised run task.scheduled).1 }

/-- `run_once`: the task that is selected, and the tasks after it was run. -/
def runOnce (run : Run) (tasks : List ScannedTask) : Option (ScannedTask × List ScannedTask) :=
  (selectTask run.scannedAt tasks).map fun selected =>
    (selected, tasks.map fun task =>
      if task.taskId = selected.taskId then task.afterRun run else task)

end Shiliu.Research
