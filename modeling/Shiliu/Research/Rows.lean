/-
Module: Shiliu.Research.Rows
Purpose: The rows behind `ResearchTaskService`. A research task carries the rows of the other tables
  that belong to it (goals, attempts, checkpoints, results, side effects, events, receipts, execution
  metadata), since every one of them has a `task_id` that never changes. Rows belong to the one
  workspace and owner of the service. Identifiers minted by `uuid4` are numbers from a counter;
  the prefix tells the tables apart, so one number serves every table a command writes to.
Trusted boundary: none
Main exports: TaskStatus, Attempt, Checkpoint, Event, ResearchTask, KernelStore, ResearchFailure
-/
import Mathlib.Data.List.MinMax
import Shiliu.Library.FencedLease
import Shiliu.Library.Outcome
import Shiliu.Library.Table
import Shiliu.Storage.Basic

namespace Shiliu.Research

open Shiliu.Library Shiliu.Storage

/-! ## Enumerations of the contracts -/

inductive TaskStatus where
  | ready
  | running
  | blocked
  | waitingUser
  | terminal
deriving DecidableEq

inductive AttemptStatus where
  | pending
  | running
  | blocked
  | waitingUser
  | terminal
deriving DecidableEq

inductive AttemptCause where
  | initial
  | resume
  | retry
  | goalRevision
  | branch
  | replay
deriving DecidableEq

inductive AnswerStatus where
  | validSuccess
  | validPartial
  | validInsufficient
  | notProduced
deriving DecidableEq

inductive TerminationReason where
  | answerReady
  | budgetExhausted
  | noNewEvidence
  | repeatedAction
  | evidenceUnavailable
  | needsUserInput
  | cancelled
  | goalRevised
  | externalSideEffectUnknown
  | providerError
  | implementationError
  | targetedContinuation
  | constraintUnsatisfied
deriving DecidableEq

inductive FailureClass where
  | none
  | implementationFailure
  | providerFailure
  | productQualityFailure
  | infrastructureInvalidRun
  | evaluationInvalidRun
deriving DecidableEq

inductive SideEffectStatus where
  | reserved
  | inFlight
  | succeeded
  | failed
  | unknown
deriving DecidableEq

/-- `status.value`. -/
def SideEffectStatus.value : SideEffectStatus → String
  | .reserved => "reserved"
  | .inFlight => "in_flight"
  | .succeeded => "succeeded"
  | .failed => "failed"
  | .unknown => "unknown"

inductive TimingStatus where
  | idle
  | active
  | uncertain
  | exhausted
deriving DecidableEq

inductive SchedulingIntent where
  | none
  | queued
  | manual
deriving DecidableEq

inductive SchedulingStatus where
  | idle
  | queued
  | running
  | backoff
  | manualRequired
  | blocked
  | complete
deriving DecidableEq

/-- The exceptions of the service and of its database, with the texts they carry. -/
inductive ResearchFailure where
  | conflict (message : String)
  | forbidden (message : String)
  | notFound (message : String)
  | unsafeState (message : String)
  | validation (message : String)
  | valueError (message : String)
  | storageError
  | keyError
deriving DecidableEq

/-! ## The rows of a task -/

structure Goal where
  goalId : Nat
  revision : Nat
  parentGoalId : Option Nat
  objective : String
  successConstraints : List String
  /-- A JSON object in its canonical form. -/
  evidencePolicy : String

structure Attempt where
  attemptId : Nat
  goalId : Option Nat
  ordinal : Nat
  cause : AttemptCause
  parentAttemptId : Option Nat
  sourceCheckpointId : Option Nat
  status : AttemptStatus
  ownerEpoch : Nat
  resultId : Option Nat

/-- `status!='terminal'`. -/
def Attempt.unfinished (attempt : Attempt) : Bool := attempt.status ≠ .terminal

structure Checkpoint where
  checkpointId : Nat
  goalId : Option Nat
  attemptId : Nat
  parentCheckpointId : Option Nat
  sequence : Nat
  stateHash : String
  statePayload : String
  isComplete : Bool
  ownerEpoch : Nat

structure ResearchResult where
  resultId : Nat
  goalId : Option Nat
  attemptId : Nat
  checkpointId : Option Nat
  answerStatus : AnswerStatus
  terminationReason : TerminationReason
  failureClass : FailureClass
  reasonDetail : String
  isTaskTerminal : Bool
  ownerEpoch : Nat

structure SideEffect where
  sideEffectId : Nat
  attemptId : Nat
  commandId : String
  idempotencyKey : String
  effectKind : String
  requestHash : String
  requestJson : String
  status : SideEffectStatus
  ownerEpoch : Nat
  providerOperationId : Option String
  receiptHash : Option String
  resultReference : Option String
  createdAt : Instant

/-- `event_type` with the payload that goes with it. -/
inductive EventBody (Digest : Type) where
  | commandPayloadMismatchRejected (commandId : String) (stored received : Digest)
  | taskCreated (parentTaskId : Option String) (goalRevision : Nat)
      (serverConstraintProfile : Option String)
  | sideEffectReservedRebound (sideEffectId previousOwnerEpoch newOwnerEpoch : Nat)
  | ownerClaimed (ownerId : String) (leaseUntil : Instant)
  | ownerRenewed (ownerId : String) (leaseUntil : Instant)
  | attemptStarted (cause : AttemptCause) (ordinal : Nat)
  | checkpointCommitted (sequence : Nat) (stateHash : String)
  | attemptResumed (sequence : Nat) (stateHash : String)
  | attemptResultCommitted (resultId : Nat) (answerStatus : AnswerStatus)
      (terminationReason : TerminationReason) (failureClass : FailureClass)
  | taskTerminalResultCommitted (resultId : Nat) (answerStatus : AnswerStatus)
      (terminationReason : TerminationReason) (failureClass : FailureClass)
  | goalRevised (revision : Nat) (parentGoalId : Option Nat)
  | sideEffectReserved (sideEffectId : Nat) (effectKind idempotencyKey : String)
  | sideEffectDeduplicated (sideEffectId : Nat) (effectKind idempotencyKey : String)
  | sideEffectStarted (sideEffectId : Nat) (receiptHash : Option String)
  | sideEffectSucceeded (sideEffectId : Nat) (receiptHash : Option String)
  | sideEffectFailed (sideEffectId : Nat) (receiptHash : Option String)
  | sideEffectMarkedUnknown (sideEffectId fencedOwnerEpoch : Nat)
  | sideEffectResolved (sideEffectId : Nat) (outcome : SideEffectStatus)

structure Event (Digest : Type) where
  sequence : Nat
  body : EventBody Digest
  goalId : Option Nat
  attemptId : Option Nat
  checkpointId : Option Nat
  commandId : String
  ownerEpoch : Nat

/-- What a command answers beside `task_id` and `state_version`. -/
inductive ResponseBody where
  | created (goalId : Nat)
  | claimed (ownerId : String) (ownerEpoch : Nat) (leaseUntil : Instant)
      (reboundReservedSideEffectIds : List Nat)
  | renewed (ownerEpoch : Nat) (leaseUntil : Instant)
  | started (attemptId traceId : Nat)
  | checkpointed (attemptId checkpointId : Nat) (parentCheckpointId : Option Nat)
      (stateHash : String)
  | completed (attemptId resultId : Nat) (taskStatus : TaskStatus)
  | revised (goalId attemptId traceId : Nat)
  | reserved (sideEffectId : Nat)
  | moved (sideEffectId : Nat) (status : SideEffectStatus)
  | recovered (unknownSideEffectIds : List Nat)

structure Response where
  taskId : String
  stateVersion : Nat
  body : ResponseBody

/-- `response["side_effect_id"]`. -/
def Response.sideEffectId (response : Response) : Option Nat :=
  match response.body with
  | .reserved sideEffectId => some sideEffectId
  | .moved sideEffectId _ => some sideEffectId
  | _ => none

structure CommandReceipt (Digest : Type) where
  commandId : String
  commandType : String
  payloadHash : Digest
  response : Response
  ownerEpoch : Nat

/-- `segment_id`, `segment_owner_id` and `segment_owner_epoch`, which a check ties together. -/
structure Segment where
  segmentId : Nat
  ownerId : String
  ownerEpoch : Nat
deriving DecidableEq

/-- A row of `research_execution_metadata`. -/
structure ExecutionMetadata where
  timePolicyVersion : String
  activeBudgetMs : Nat
  consumedActiveMs : Nat := 0
  segment : Option Segment := none
  segmentSettledMs : Nat := 0
  reservedTailMs : Nat := 0
  tickSequence : Nat := 0
  timingStatus : TimingStatus := .idle
  schedulingIntent : SchedulingIntent := .none
  schedulingStatus : SchedulingStatus := .idle
  runCommandId : Option String := none
  resumeReason : Option String := none
  automaticFailureCount : Nat := 0
  lifetimeAutomaticFailureCount : Nat := 0
  manualGeneration : Nat := 0
  nextRetryAt : Option Instant := none
  lastFailureCode : Option String := none
deriving DecidableEq

/-- A row of `research_tasks`: `owner_id`, `lease_until` and `owner_epoch` are its lease. -/
structure TaskRow where
  taskId : String
  parentTaskId : Option String
  status : TaskStatus
  activeGoalId : Option Nat
  stateVersion : Nat
  lease : Lease String
  terminalResultId : Option Nat

/-- A task with the rows that belong to it, in the order of their insertion. -/
structure ResearchTask (Digest : Type) extends TaskRow where
  goals : List Goal
  attempts : Table Attempt.attemptId
  checkpoints : List Checkpoint
  results : List ResearchResult
  sideEffects : Table SideEffect.sideEffectId
  events : List (Event Digest)
  receipts : List (CommandReceipt Digest)
  execution : Option ExecutionMetadata

variable {Digest : Type}

/-- The primary key. -/
def ResearchTask.key (task : ResearchTask Digest) : String := task.taskId

structure KernelStore (Digest : Type) where
  tasks : Table (@ResearchTask.key Digest)
  nextId : Nat

def KernelStore.empty : KernelStore Digest :=
  ⟨Table.empty ResearchTask.key, 0⟩

/-! ## Reading -/

namespace KernelStore

variable (store : KernelStore Digest)

/-- `_task`. -/
def task (taskId : String) : Except ResearchFailure (ResearchTask Digest) :=
  match store.tasks.lookup taskId with
  | some task => .ok task
  | none => .error (.notFound ("Research Task 不存在: " ++ taskId))

/-- `_attempt`: the attempt, with the task it belongs to. -/
def attempt (attemptId : Nat) : Except ResearchFailure (String × Attempt) :=
  match store.tasks.rows.findSome? fun task =>
      (task.attempts.lookup attemptId).map (task.taskId, ·) with
  | some found => .ok found
  | none => .error (.notFound "Research Attempt 不存在")

/-- `_side_effect`: the effect, with the task it belongs to. -/
def sideEffect (sideEffectId : Nat) : Except ResearchFailure (String × SideEffect) :=
  match store.tasks.rows.findSome? fun task =>
      (task.sideEffects.lookup sideEffectId).map (task.taskId, ·) with
  | some found => .ok found
  | none => .error (.notFound "SideEffect 不存在")

/-- The checkpoint with an id, with the task it belongs to. -/
def checkpoint (checkpointId : Nat) : Option (String × Checkpoint) :=
  store.tasks.rows.findSome? fun task =>
    (task.checkpoints.find? fun checkpoint => checkpoint.checkpointId = checkpointId).map
      (task.taskId, ·)

end KernelStore

namespace ResearchTask

variable (task : ResearchTask Digest)

def checkpointsOf (attemptId : Nat) : List Checkpoint :=
  task.checkpoints.filter fun checkpoint => checkpoint.attemptId = attemptId

/-- `ORDER BY sequence DESC LIMIT 1`. -/
def latestCheckpoint (attemptId : Nat) : Option Checkpoint :=
  (task.checkpointsOf attemptId).argmax Checkpoint.sequence

/-- `COALESCE(MAX(ordinal), 0) + 1`. -/
def nextOrdinal : Nat :=
  (task.attempts.rows.map Attempt.ordinal).foldr max 0 + 1

/-- `MAX(revision) + 1`. -/
def nextRevision : Nat :=
  (task.goals.map Goal.revision).foldr max 0 + 1

/-- `COALESCE(MAX(sequence), 0) + 1`. -/
def nextSequence : Nat :=
  (task.events.map Event.sequence).foldr max 0 + 1

/-- The one effect with a kind and a key. -/
def effectFor (effectKind idempotencyKey : String) : Option SideEffect :=
  task.sideEffects.rows.find? fun effect =>
    effect.effectKind = effectKind ∧ effect.idempotencyKey = idempotencyKey

def receipt (commandId : String) : Option (CommandReceipt Digest) :=
  task.receipts.find? fun receipt => receipt.commandId = commandId

end ResearchTask

end Shiliu.Research
