/-
Module: Shiliu.Research.Ledger
Purpose: `ResearchExecutionLedger`: the active time of a task, counted in segments. Each call is one
  transaction on the execution metadata of its task, `settle` is a `tick` and one more; commands of
  the kernel, such as the claim of a later owner, run in between. Beside the store the model remembers the
  elapsed time reported for each segment.
Trusted boundary: none
Main exports: beginRow, tickRow, settleRow, LedgerCall, runLedger, LedgerWorld, stepLedger
-/
import Mathlib.Logic.Function.Basic
import Shiliu.Research.Kernel

namespace Shiliu.Research

open Shiliu.Library Shiliu.Storage

variable {Digest : Type}

/-! ## The execution metadata -/

/-- What the tail of a dead segment adds. -/
def recoveredTail (row : ExecutionMetadata) : Nat :=
  min row.reservedTailMs (row.activeBudgetMs - row.consumedActiveMs)

/-- `begin_segment` on the segment of another owner. -/
def recoverSegment (row : ExecutionMetadata) : ExecutionMetadata :=
  { row with
    consumedActiveMs := row.consumedActiveMs + recoveredTail row
    reservedTailMs := 0
    segment := none
    segmentSettledMs := 0
    timingStatus :=
      if row.activeBudgetMs ≤ row.consumedActiveMs + recoveredTail row then .exhausted else .idle }

/-- An update followed by an exception: the transaction is rolled back, the update with it. -/
def raiseAfter (_written : ExecutionMetadata) (failure : ResearchFailure) :
    Except ResearchFailure ExecutionMetadata :=
  .error failure

/-- The second half of `begin_segment`, on a row without a segment. -/
def openSegment (reservationMs segmentId : Nat) (ownerId : String) (ownerEpoch : Nat)
    (row : ExecutionMetadata) : Except ResearchFailure ExecutionMetadata :=
  if row.timingStatus = .uncertain then .error (.unsafeState "execution_time_uncertain")
  else if row.activeBudgetMs ≤ row.consumedActiveMs then
    raiseAfter { row with timingStatus := .exhausted, schedulingStatus := .manualRequired }
      (.unsafeState "research active-time budget is exhausted")
  else
    .ok
      { row with
        segment := some ⟨segmentId, ownerId, ownerEpoch⟩
        segmentSettledMs := 0
        reservedTailMs := min reservationMs (row.activeBudgetMs - row.consumedActiveMs)
        tickSequence := row.tickSequence + 1
        timingStatus := .active
        schedulingStatus := .running }

/-- `begin_segment`: an own segment is gone on with, that of another owner is recovered first. -/
def beginRow (reservationMs segmentId : Nat) (ownerId : String) (ownerEpoch : Nat)
    (row : ExecutionMetadata) : Except ResearchFailure ExecutionMetadata :=
  match row.segment with
  | some segment =>
      if segment.ownerId = ownerId ∧ segment.ownerEpoch = ownerEpoch then .ok row
      else openSegment reservationMs segmentId ownerId ownerEpoch (recoverSegment row)
  | none => openSegment reservationMs segmentId ownerId ownerEpoch row

/-- `interval_classification`. -/
inductive Interval where
  | running
  | sleep
  | uncertain
deriving DecidableEq

/-- What `tick` makes of a running interval. -/
def runningRow (reservationMs elapsedMs : Nat) (row : ExecutionMetadata) : ExecutionMetadata :=
  let consumed := row.consumedActiveMs + (elapsedMs - row.segmentSettledMs)
  let exhausted : Bool := row.activeBudgetMs ≤ consumed
  { row with
    consumedActiveMs := consumed
    segmentSettledMs := elapsedMs
    reservedTailMs := min reservationMs (row.activeBudgetMs - consumed)
    tickSequence := row.tickSequence + 1
    timingStatus := if exhausted then .exhausted else .active
    schedulingStatus := if exhausted then .manualRequired else row.schedulingStatus
    resumeReason := if exhausted then some "active_time_exhausted" else row.resumeReason }

/-- What `tick` makes of an uncertain interval. -/
def uncertainRow (row : ExecutionMetadata) : ExecutionMetadata :=
  { row with
    timingStatus := .uncertain
    schedulingStatus := .manualRequired
    schedulingIntent := .none
    resumeReason := some "execution_time_uncertain"
    lastFailureCode := some "execution_time_uncertain" }

/-- `tick`, behind the owner's fence. -/
def tickRow (reservationMs : Nat) (segment : Segment) (elapsedMs : Nat) (interval : Interval)
    (row : ExecutionMetadata) : Except ResearchFailure ExecutionMetadata := do
  ensure (row.segment = some segment) (.conflict "stale active-time segment fence")
  match interval with
  | .uncertain => return uncertainRow row
  | .running => return runningRow reservationMs elapsedMs row
  | .sleep => return row

/-- The second transaction of `settle`, behind the owner's fence. -/
def settleRow (segment : Segment) (schedulingStatus : SchedulingStatus)
    (resumeReason : Option String) (row : ExecutionMetadata) :
    Except ResearchFailure ExecutionMetadata := do
  ensure (row.segment = some segment) (.conflict "stale active-time segment settle")
  let exhausted : Bool := row.activeBudgetMs ≤ row.consumedActiveMs
  return { row with
    segment := none
    segmentSettledMs := 0
    reservedTailMs := 0
    timingStatus := if exhausted then .exhausted else .idle
    schedulingStatus := if exhausted then .manualRequired else schedulingStatus
    schedulingIntent := .none
    resumeReason := resumeReason.or row.resumeReason }

/-- `enqueue`. -/
def enqueueRow (commandId : String) (manual : Bool) (reason : String) (row : ExecutionMetadata) :
    Except ResearchFailure ExecutionMetadata := do
  assertTiming row
  return { row with
    schedulingIntent := if manual then .manual else .queued
    schedulingStatus := .queued
    runCommandId := some commandId
    resumeReason := some reason
    manualGeneration := row.manualGeneration + if manual then 1 else 0
    automaticFailureCount := if manual then 0 else row.automaticFailureCount
    nextRetryAt := none }

/-- A failure is retried twice, after five seconds and after thirty. -/
def retries (row : ExecutionMetadata) (safeToRetry : Bool) : Bool :=
  safeToRetry ∧ row.automaticFailureCount < 2

/-- `record_failure`. -/
def failureRow (now : Instant) (code : String) (safeToRetry : Bool) (row : ExecutionMetadata) :
    ExecutionMetadata :=
  let delay := if row.automaticFailureCount = 0 then 5 else 30
  { row with
    automaticFailureCount :=
      row.automaticFailureCount + if retries row safeToRetry then 1 else 0
    lifetimeAutomaticFailureCount := row.lifetimeAutomaticFailureCount + 1
    schedulingStatus := if retries row safeToRetry then .backoff else .manualRequired
    schedulingIntent := if retries row safeToRetry then .queued else .none
    nextRetryAt := if retries row safeToRetry then some (now + delay * microsPerSecond) else none
    lastFailureCode := some code
    resumeReason := some (if retries row safeToRetry then "safe_retry_backoff" else code) }

/-! ## Calls -/

/-- One transaction of the ledger. -/
inductive LedgerCall where
  | beginSegment (ownerId : String) (ownerEpoch : Nat)
  | tick (segment : Segment) (elapsedMs : Nat) (interval : Interval)
  /-- The second transaction of `settle`; the first is a running `tick`. -/
  | settle (segment : Segment) (schedulingStatus : SchedulingStatus)
      (resumeReason : Option String)
  | enqueue (commandId : String) (manual : Bool) (reason : String)
  | recordFailure (now : Instant) (code : String) (safeToRetry : Bool)

/-- The checks on the row of the task. -/
def LedgerCall.guard (call : LedgerCall) (leaseClock : Instant) (task : TaskRow) :
    Except ResearchFailure Unit :=
  match call with
  | .beginSegment ownerId ownerEpoch => do
      task.assertNonterminal
      task.assertOwner ownerId ownerEpoch leaseClock
  | .tick segment _ _ | .settle segment _ _ =>
      task.assertOwner segment.ownerId segment.ownerEpoch leaseClock
  | .enqueue .. =>
      ensure (task.status ≠ .terminal) (.unsafeState "terminal Task cannot be scheduled")
  | .recordFailure .. => .ok ()

/-- What a call raises for a task without execution metadata. -/
def LedgerCall.missing : LedgerCall → ResearchFailure
  | .tick .. => .conflict "stale active-time segment fence"
  | .settle .. => .conflict "stale active-time segment settle"
  | .enqueue .. =>
      .unsafeState "legacy_time_unaccounted: old active Task cannot receive new budget"
  | .beginSegment .. | .recordFailure .. => .unsafeState "legacy_time_unaccounted"

/-- The update of the execution metadata; a new segment gets the next number. -/
def LedgerCall.change (call : LedgerCall) (reservationMs nextId : Nat) (row : ExecutionMetadata) :
    Except ResearchFailure ExecutionMetadata :=
  match call with
  | .beginSegment ownerId ownerEpoch => beginRow reservationMs nextId ownerId ownerEpoch row
  | .tick segment elapsedMs interval => tickRow reservationMs segment elapsedMs interval row
  | .settle segment status reason => settleRow segment status reason row
  | .enqueue commandId manual reason => enqueueRow commandId manual reason row
  | .recordFailure now code safeToRetry => .ok (failureRow now code safeToRetry row)

/-- A call on the task, up to the write. -/
def ledgerRow (reservationMs nextId : Nat) (task : ResearchTask Digest) (leaseClock : Instant)
    (call : LedgerCall) : Except ResearchFailure ExecutionMetadata := do
  call.guard leaseClock task.toTaskRow
  match task.execution with
  | none => .error call.missing
  | some row => call.change reservationMs nextId row

/-- A call of the ledger; it answers with the row it leaves, or raises and is rolled back. -/
def runLedger (reservationMs : Nat) (store : KernelStore Digest) (taskId : String)
    (leaseClock : Instant) (call : LedgerCall) :
    Except ResearchFailure (ResearchTask Digest × ExecutionMetadata) := do
  let task ← store.task taskId
  let row ← ledgerRow reservationMs store.nextId task leaseClock call
  return ({ task with execution := some row }, row)

/-! ## Worlds -/

/-- A segment that is over: settled, or given up, with what its tail has added. -/
structure ClosedSegment where
  reportedMs : Nat
  tailMs : Nat

/-- The elapsed time reported last for the open segment, and the segments that are over. -/
structure SegmentReports where
  currentMs : Nat
  closed : List ClosedSegment

structure LedgerWorld (Digest : Type) where
  store : KernelStore Digest
  reports : String → SegmentReports

def LedgerWorld.empty : LedgerWorld Digest :=
  ⟨KernelStore.empty, fun _ => ⟨0, []⟩⟩

/-- What a call that returned reports. -/
def SegmentReports.record (reports : SegmentReports) (row : ExecutionMetadata) :
    LedgerCall → SegmentReports
  | .beginSegment ownerId ownerEpoch =>
      match row.segment with
      | none => { reports with currentMs := 0 }
      | some segment =>
          if segment.ownerId = ownerId ∧ segment.ownerEpoch = ownerEpoch then reports
          else ⟨0, ⟨reports.currentMs, recoveredTail row⟩ :: reports.closed⟩
  | .tick _ elapsedMs .running => { reports with currentMs := elapsedMs }
  | .settle .. => ⟨0, ⟨reports.currentMs, 0⟩ :: reports.closed⟩
  | _ => reports

inductive LedgerAction where
  | command (call : Call)
  | ledger (taskId : String) (leaseClock : Instant) (call : LedgerCall)

variable [DecidableEq Digest]

def stepLedger (hashing : Hashing Digest) (reservationMs : Nat) (world : LedgerWorld Digest) :
    LedgerAction → LedgerWorld Digest
  | .command call => { world with store := stepKernel hashing world.store call }
  | .ledger taskId leaseClock call =>
      match world.store.tasks.lookup taskId with
      | none => world
      | some task =>
          match runLedger reservationMs world.store taskId leaseClock call, task.execution with
          | .ok (after, _), some row =>
              { store := world.store.write after
                reports := Function.update world.reports taskId
                  ((world.reports taskId).record row call) }
          | _, _ => world

end Shiliu.Research
