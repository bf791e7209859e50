/-
Module: Shiliu.Research.Kernel
Purpose: The commands of `ResearchTaskService`, each as the transaction it runs. A command first looks
  for its receipt, which either answers it or stops it; otherwise its body checks its guards in its
  own order, writes to the rows of its task and leaves a receipt. The hash of a payload is a parameter
  without collisions; the clocks a transaction reads come with the call.
Trusted boundary: none
Main exports: Command, Call, Hashing, existingReceipt, perform, Outcome, transact, stepKernel
-/
import Mathlib.Data.List.Sort
import Shiliu.Library.Transition
import Shiliu.Research.Rows

set_option linter.all false

namespace Shiliu.Research

open Shiliu.Library Shiliu.Storage

/-! ## Commands -/

/-- `owner_id`, `owner_epoch` and `expected_state_version`. -/
structure Fence where
  ownerId : String
  ownerEpoch : Nat
  expectedStateVersion : Nat
deriving DecidableEq

/-- `_execution_metadata` of `create_task`. -/
structure ExecutionRequest where
  timePolicyVersion : String
  activeBudgetMs : Nat
  schedulingIntent : SchedulingIntent
  schedulingStatus : SchedulingStatus
  runCommandId : String
  resumeReason : Option String
deriving DecidableEq

/-- `_execution_enqueue` of `start_attempt`. -/
structure ExecutionEnqueue where
  runCommandId : Option String
  reason : Option String
deriving DecidableEq

/-- `_command_type` of `commit_checkpoint`, which decides `_event_type`. -/
inductive CheckpointOperation where
  | commitCheckpoint
  | resumeAttempt
deriving DecidableEq

/-- The commands with their arguments; texts that stand for JSON are canonical. -/
inductive Command where
  | createTask (objective : String) (successConstraints : List String) (evidencePolicy : String)
      (parentTaskId : Option String) (serverConstraintProfile : Option String)
      (executionMetadata : Option ExecutionRequest)
  | claimOwner (ownerId : String) (expectedStateVersion : Nat) (leaseSeconds : Int)
  | renewOwner (fence : Fence) (leaseSeconds : Int)
  | startAttempt (fence : Fence) (cause : AttemptCause) (parentAttemptId : Option Nat)
      (sourceCheckpointId : Option Nat) (executionEnqueue : Option ExecutionEnqueue)
  | commitCheckpoint (fence : Fence) (attemptId : Nat) (expectedCheckpointId : Option Nat)
      (statePayload : String) (operation : CheckpointOperation)
  | completeAttempt (fence : Fence) (attemptId : Nat) (answerStatus : AnswerStatus)
      (terminationReason : TerminationReason) (failureClass : FailureClass)
      (reasonDetail : String) (taskTerminal : Bool) (nextTaskStatus : TaskStatus)
      (checkpointId : Option Nat)
  | reviseGoal (fence : Fence) (objective : String) (successConstraints : List String)
      (evidencePolicy : String)
  | reserveSideEffect (fence : Fence) (attemptId : Nat) (effectKind idempotencyKey : String)
      (request : String)
  | transitionSideEffect (fence : Fence) (sideEffectId : Nat) (targetStatus : SideEffectStatus)
      (operationId receiptHash resultReference : Option String)
  | recoverInFlight (fence : Fence)
  | resolveUnknownSideEffect (fence : Fence) (sideEffectId : Nat) (outcome : SideEffectStatus)
deriving DecidableEq

/-- `retry_attempt`. -/
def retryAttempt (fence : Fence) (parentAttemptId : Nat)
    (executionEnqueue : Option ExecutionEnqueue) : Command :=
  .startAttempt fence .retry (some parentAttemptId) none executionEnqueue

/-- `cancel_task`. -/
def cancelTask (fence : Fence) (attemptId : Nat) (reasonDetail : String) : Command :=
  .completeAttempt fence attemptId .notProduced .cancelled .none reasonDetail true .blocked none

/-- One call: the command, and what its transaction reads from the clocks. The lease is judged at
`leaseClock`, a new expiry counts from `grantClock`, and `appClock` is the service's own clock. -/
structure Call where
  taskId : String
  commandId : String
  leaseClock : Instant
  grantClock : Instant
  appClock : Instant
  command : Command

/-- `_hash` of a payload, and of a JSON object alone. The keys of a payload tell the commands apart;
that of `reserve_side_effect` has the hash of the request in its place. -/
structure Hashing (Digest : Type) where
  payload : Command → Digest
  json : String → String
  payload_injective : Function.Injective payload

/-- The arguments as they enter the payload. -/
def Command.stripped {Digest : Type} (hashing : Hashing Digest) : Command → Command
  | .createTask objective constraints policy parent profile execution =>
      .createTask (strip objective) constraints policy parent profile execution
  | .reviseGoal fence objective constraints policy =>
      .reviseGoal fence (strip objective) constraints policy
  | .reserveSideEffect fence attemptId kind key request =>
      .reserveSideEffect fence attemptId kind key (hashing.json request)
  | command => command

/-- The owner a receipt is fenced by, with the epoch if the command names one. -/
def Command.receiptFence : Command → Option (String × Option Nat)
  | .createTask .. => none
  | .claimOwner ownerId _ _ => some (ownerId, none)
  | .renewOwner fence _ | .startAttempt fence .. | .commitCheckpoint fence ..
  | .completeAttempt fence .. | .reviseGoal fence .. | .reserveSideEffect fence ..
  | .transitionSideEffect fence .. | .recoverInFlight fence
  | .resolveUnknownSideEffect fence .. => some (fence.ownerId, some fence.ownerEpoch)

/-- `command_type`. -/
def Command.commandType : Command → String
  | .createTask .. => "create_task"
  | .claimOwner .. => "claim_owner"
  | .renewOwner .. => "renew_owner"
  | .startAttempt .. => "start_attempt"
  | .commitCheckpoint _ _ _ _ .commitCheckpoint => "commit_checkpoint"
  | .commitCheckpoint _ _ _ _ .resumeAttempt => "resume_attempt"
  | .completeAttempt .. => "complete_attempt"
  | .reviseGoal .. => "revise_goal"
  | .reserveSideEffect .. => "reserve_side_effect"
  | .transitionSideEffect _ _ targetStatus .. => "side_effect_" ++ targetStatus.value
  | .recoverInFlight .. => "recover_in_flight"
  | .resolveUnknownSideEffect .. => "resolve_unknown_side_effect"

/-! ## Guards -/

variable {Digest : Type}

namespace TaskRow

variable (task : TaskRow)

/-- `_assert_expected`. -/
def assertExpected (expected : Nat) : Except ResearchFailure Unit :=
  ensure (task.stateVersion = expected)
    (.conflict s!"stale task state: expected {expected}, current {task.stateVersion}")

/-- `_assert_nonterminal`. -/
def assertNonterminal : Except ResearchFailure Unit :=
  ensure (task.status ≠ .terminal) (.unsafeState "terminal Task 不可原地修改或复活")

/-- `_assert_owner`; `now` is when the row was read. -/
def assertOwner (ownerId : String) (ownerEpoch : Nat) (now : Instant) :
    Except ResearchFailure Unit := do
  ensure (task.lease.owner.getD "" = ownerId ∧ task.lease.epoch = ownerEpoch)
    (.conflict "stale owner fence")
  ensure (task.lease.live now = true) (.conflict "owner lease 已过期")

/-- The three guards every command but `claim_owner` makes in this order. -/
def assertFence (fence : Fence) (now : Instant) : Except ResearchFailure Unit := do
  task.assertNonterminal
  task.assertExpected fence.expectedStateVersion
  task.assertOwner fence.ownerId fence.ownerEpoch now

end TaskRow

/-- `type(lease_seconds) is int and 0<lease_seconds<=60`. -/
def assertLeaseSeconds (leaseSeconds : Int) : Except ResearchFailure Unit :=
  ensure (0 < leaseSeconds ∧ leaseSeconds ≤ 60) (.validation "invalid_owner_lease")

/-- `clock_timestamp() + timedelta(seconds=lease_seconds)`. -/
def leaseUntil (grantClock : Instant) (leaseSeconds : Int) : Instant :=
  grantClock + leaseSeconds.toNat * microsPerSecond

/-- The attempt is one of the task's, unfinished, and of the epoch. -/
def assertAttempt (task : TaskRow) (found : String × Attempt) (ownerEpoch : Nat)
    (message : String) : Except ResearchFailure Unit :=
  ensure (found.1 = task.taskId ∧ found.2.unfinished = true ∧ found.2.ownerEpoch = ownerEpoch)
    (.conflict message)

/-! ## Writes -/

namespace ResearchTask

variable (task : ResearchTask Digest)

/-- `_event`. -/
def event (call : Call) (ownerEpoch : Nat) (body : EventBody Digest) (goalId attemptId
    checkpointId : Option Nat) : ResearchTask Digest :=
  { task with
    events := task.events ++
      [{ sequence := task.nextSequence
         body := body
         goalId := goalId
         attemptId := attemptId
         checkpointId := checkpointId
         commandId := call.commandId
         ownerEpoch := ownerEpoch }] }

/-- `state_version=state_version+1`. -/
def advanced : ResearchTask Digest :=
  { task with stateVersion := task.stateVersion + 1 }

/-- `UPDATE research_attempts … WHERE attempt_id=…`. -/
def changeAttempt (attemptId : Nat) (change : Change Attempt.attemptId) : ResearchTask Digest :=
  { task with attempts := task.attempts.modify attemptId change }

/-- `UPDATE research_side_effects SET status=… WHERE side_effect_id=…`, with the columns that go
with the status. -/
def changeEffect (sideEffectId : Nat) (change : Change SideEffect.sideEffectId) :
    ResearchTask Digest :=
  { task with sideEffects := task.sideEffects.modify sideEffectId change }

/-- `_insert_receipt`. -/
def insertReceipt (receipt : CommandReceipt Digest) : ResearchTask Digest :=
  { task with receipts := task.receipts ++ [receipt] }

/-- `ORDER BY created_at, side_effect_id` of the effects a predicate selects. -/
def effectsWhere (select : SideEffect → Bool) : List SideEffect :=
  (task.sideEffects.rows.filter select).insertionSort fun one other =>
    one.createdAt < other.createdAt ∨
      (one.createdAt = other.createdAt ∧ one.sideEffectId ≤ other.sideEffectId)

end ResearchTask

/-- What a body leaves behind: the task with its rows, and the answer. -/
abbrev Commit (Digest : Type) := ResearchTask Digest × Response

/-! ## The bodies, after the receipt -/

section Bodies

variable (store : KernelStore Digest) (call : Call) (task : ResearchTask Digest)

/-- `owner_epoch=…` of the unfinished attempts. -/
def ResearchTask.bindAttempts (ownerEpoch : Nat) : ResearchTask Digest :=
  { task with
    attempts := task.attempts.updateWhere Attempt.unfinished
      ⟨fun attempt => { attempt with ownerEpoch := ownerEpoch }, fun _ => rfl⟩ }

/-- The update and the event of one reserved effect of an earlier owner. -/
def rebindEffect (ownerEpoch : Nat) (task : ResearchTask Digest) (effect : SideEffect) :
    ResearchTask Digest :=
  (task.changeEffect effect.sideEffectId
    ⟨fun row => { row with ownerEpoch := ownerEpoch }, fun _ => rfl⟩).event call ownerEpoch
      (.sideEffectReservedRebound effect.sideEffectId effect.ownerEpoch ownerEpoch) none
      (some effect.attemptId) none

/-- The reserved effects a claim takes over. -/
def takenOver (ownerEpoch : Nat) : List SideEffect :=
  task.effectsWhere fun effect => effect.status = .reserved ∧ effect.ownerEpoch < ownerEpoch

/-- The writes of `claim_owner`. -/
def claimedTask (ownerId : String) (expires : Instant) : ResearchTask Digest :=
  let ownerEpoch := task.lease.epoch + 1
  let claimed :=
    { task.advanced.bindAttempts ownerEpoch with lease := task.lease.grant ownerId expires }
  ((takenOver task ownerEpoch).foldl (rebindEffect call ownerEpoch) claimed).event call ownerEpoch
    (.ownerClaimed ownerId expires) none none none

/-- `claim_owner`. -/
def claimOwner (ownerId : String) (expectedStateVersion : Nat) (leaseSeconds : Int) :
    Except ResearchFailure (Commit Digest) := do
  task.assertNonterminal
  task.assertExpected expectedStateVersion
  ensure (¬(truthy task.lease.owner = true ∧ task.lease.live call.leaseClock = true))
    (.conflict "Task 已有未过期 active owner")
  let ownerEpoch := task.lease.epoch + 1
  let expires := leaseUntil call.grantClock leaseSeconds
  return (claimedTask call task ownerId expires,
    { taskId := task.taskId
      stateVersion := expectedStateVersion + 1
      body := .claimed ownerId ownerEpoch expires
        ((takenOver task ownerEpoch).map SideEffect.sideEffectId) })

/-- The writes of `renew_owner`. -/
def renewedTask (fence : Fence) (expires : Instant) : ResearchTask Digest :=
  { task.advanced with lease := task.lease.renew expires }.event call fence.ownerEpoch
    (.ownerRenewed fence.ownerId expires) none none none

/-- `renew_owner`. -/
def renewOwner (fence : Fence) (leaseSeconds : Int) : Except ResearchFailure (Commit Digest) := do
  task.assertFence fence call.leaseClock
  let expires := leaseUntil call.grantClock leaseSeconds
  return (renewedTask call task fence expires,
    { taskId := task.taskId
      stateVersion := fence.expectedStateVersion + 1
      body := .renewed fence.ownerEpoch expires })

/-- The walk of `start_attempt` along `parent_task_id`. A task met twice ends it, so as many steps
as there are tasks, and one more, are enough. -/
def lineageContains (source : String) : Nat → List String → String →
    Except ResearchFailure Bool
  | 0, _, _ => .error (.unsafeState "Task lineage cycle")
  | fuel + 1, visited, cursor =>
      if cursor ∈ visited then .error (.unsafeState "Task lineage cycle")
      else if cursor = source then .ok true
      else
        match store.tasks.lookup cursor with
        | none => .error (.unsafeState "Task lineage parent 不可寻址")
        | some row =>
            match row.parentTaskId with
            | none => .ok false
            | some parent => lineageContains source fuel (cursor :: visited) parent

/-- The parent and the source a new attempt may name, by its cause. -/
def assertLineage (cause : AttemptCause) (parentAttemptId sourceCheckpointId : Option Nat) :
    Except ResearchFailure Unit :=
  match cause with
  | .initial =>
      ensure (task.attempts.rows.length = 0 ∧ parentAttemptId = none ∧ sourceCheckpointId = none)
        (.validation "initial 只能创建首个 Attempt，且不得携带 parent/source")
  | .resume => .error (.validation "resume 不创建新 Attempt；必须调用 resume_attempt")
  | .goalRevision =>
      .error (.validation "goal_revision 只能由 revise_goal 原子创建 Goal 与 Attempt")
  | .retry =>
      match parentAttemptId, sourceCheckpointId with
      | some parentAttemptId, none => do
          let parent ← store.attempt parentAttemptId
          ensure (parent.1 = task.taskId ∧ parent.2.status = .terminal)
            (.validation "retry parent Attempt 必须属于同一 Task 且已终态")
      | _, _ => .error (.validation "retry 必须提供同 Task terminal parent，且不得伪造 source")
  | .branch | .replay =>
      match parentAttemptId with
      | none => .error (.validation "branch/replay 必须提供 source Attempt lineage")
      | some parentAttemptId =>
          match sourceCheckpointId with
          | none => .error (.validation "branch/replay 必须提供 source checkpoint")
          | some sourceCheckpointId =>
              match store.checkpoint sourceCheckpointId with
              | none => .error (.validation "source checkpoint 不存在或不完整")
              | some source => do
                  ensure (source.2.isComplete = true)
                    (.validation "source checkpoint 不存在或不完整")
                  let sourceAttempt ← store.attempt source.2.attemptId
                  ensure (sourceAttempt.2.attemptId = parentAttemptId)
                    (.validation "branch/replay parent Attempt 与 source checkpoint 不一致")
                  ensure (sourceAttempt.2.status = .terminal)
                    (.validation "source Attempt 必须已终态")
                  let isAncestor ← lineageContains store source.1 (store.tasks.rows.length + 1) []
                    task.taskId
                  ensure (isAncestor = true)
                    (.validation "source checkpoint 不属于当前 Task 或其祖先")

def TimingStatus.value : TimingStatus → String
  | .idle => "idle"
  | .active => "active"
  | .uncertain => "uncertain"
  | .exhausted => "exhausted"

/-- The check that keeps uncertain or exhausted time from being scheduled. -/
def assertTiming (execution : ExecutionMetadata) : Except ResearchFailure Unit :=
  ensure (execution.timingStatus ≠ .uncertain ∧ execution.timingStatus ≠ .exhausted)
    (.unsafeState ("active-time state is " ++ execution.timingStatus.value ++
      "; resolution is required before execution"))

/-- What `_execution_enqueue` makes of the execution metadata. -/
def enqueueExecution (execution : Option ExecutionMetadata) :
    Option ExecutionEnqueue → Except ResearchFailure (Option ExecutionMetadata)
  | none => .ok execution
  | some request =>
      match execution with
      | none =>
          .error (.unsafeState
            "legacy_time_unaccounted: old active Task cannot receive new budget")
      | some execution => do
          assertTiming execution
          let runCommandId := strip (request.runCommandId.getD "")
          let reason := strip (request.reason.getD "")
          ensure (runCommandId ≠ "" ∧ reason ≠ "")
            (.validation "execution enqueue requires run_command_id and reason")
          return some
            { execution with
              schedulingIntent := .manual
              schedulingStatus := .queued
              runCommandId := some runCommandId
              resumeReason := some reason
              manualGeneration := execution.manualGeneration + 1
              automaticFailureCount := 0
              nextRetryAt := none }

/-- A new running attempt. -/
def ResearchTask.insertAttempt (attemptId : Nat) (goalId : Option Nat) (cause : AttemptCause)
    (parentAttemptId sourceCheckpointId : Option Nat) (ownerEpoch : Nat) : ResearchTask Digest :=
  { task with
    status := .running
    attempts := task.attempts.insert
      { attemptId := attemptId
        goalId := goalId
        ordinal := task.nextOrdinal
        cause := cause
        parentAttemptId := parentAttemptId
        sourceCheckpointId := sourceCheckpointId
        status := .running
        ownerEpoch := ownerEpoch
        resultId := none } }

/-- The writes of `start_attempt`. -/
def startedTask (ownerEpoch : Nat) (cause : AttemptCause)
    (parentAttemptId sourceCheckpointId : Option Nat) (execution : Option ExecutionMetadata) :
    ResearchTask Digest :=
  { (task.advanced.insertAttempt store.nextId task.activeGoalId cause parentAttemptId
      sourceCheckpointId ownerEpoch).event call ownerEpoch (.attemptStarted cause task.nextOrdinal)
        task.activeGoalId (some store.nextId) none with execution := execution }

/-- `start_attempt`. -/
def startAttempt (fence : Fence) (cause : AttemptCause)
    (parentAttemptId sourceCheckpointId : Option Nat) (enqueue : Option ExecutionEnqueue) :
    Except ResearchFailure (Commit Digest) := do
  task.assertFence fence call.leaseClock
  ensure (task.attempts.count Attempt.unfinished = 0) (.conflict "Task 已存在非终态 Attempt")
  assertLineage store task cause parentAttemptId sourceCheckpointId
  let execution ← enqueueExecution task.execution enqueue
  return (startedTask store call task fence.ownerEpoch cause parentAttemptId sourceCheckpointId
      execution,
    { taskId := task.taskId
      stateVersion := fence.expectedStateVersion + 1
      body := .started store.nextId store.nextId })

/-- `status IN ('in_flight', 'unknown')`. -/
def SideEffect.unresolved (effect : SideEffect) : Bool :=
  effect.status = .inFlight ∨ effect.status = .unknown

/-- The row `commit_checkpoint` inserts. -/
def newCheckpoint (attempt : Attempt) (expectedCheckpointId : Option Nat)
    (latest : Option Checkpoint) (stateHash statePayload : String) (ownerEpoch : Nat) :
    Checkpoint :=
  { checkpointId := store.nextId
    goalId := attempt.goalId
    attemptId := attempt.attemptId
    parentCheckpointId := expectedCheckpointId
    sequence := (latest.map Checkpoint.sequence).getD 0 + 1
    stateHash := stateHash
    statePayload := statePayload
    isComplete := true
    ownerEpoch := ownerEpoch }

/-- The writes of `commit_checkpoint`; a resumed attempt runs again, and so does its task. -/
def checkpointedTask (checkpoint : Checkpoint) (operation : CheckpointOperation) :
    ResearchTask Digest :=
  let committed : ResearchTask Digest :=
    { task.advanced with checkpoints := task.checkpoints ++ [checkpoint] }
  match operation with
  | .commitCheckpoint =>
      committed.event call checkpoint.ownerEpoch
        (.checkpointCommitted checkpoint.sequence checkpoint.stateHash) checkpoint.goalId
        (some checkpoint.attemptId) (some checkpoint.checkpointId)
  | .resumeAttempt =>
      { committed.changeAttempt checkpoint.attemptId
          ⟨fun attempt => { attempt with status := .running }, fun _ => rfl⟩ with
        status := .running }.event call checkpoint.ownerEpoch
          (.attemptResumed checkpoint.sequence checkpoint.stateHash) checkpoint.goalId
          (some checkpoint.attemptId) (some checkpoint.checkpointId)

/-- `commit_checkpoint`. -/
def commitCheckpoint (hashing : Hashing Digest) (fence : Fence) (attemptId : Nat)
    (expectedCheckpointId : Option Nat) (statePayload : String)
    (operation : CheckpointOperation) : Except ResearchFailure (Commit Digest) := do
  let found ← store.attempt attemptId
  task.assertFence fence call.leaseClock
  assertAttempt task.toTaskRow found fence.ownerEpoch "Attempt 与当前 Task/owner fence 不一致"
  let latest := task.latestCheckpoint attemptId
  ensure (latest.map Checkpoint.checkpointId = expectedCheckpointId)
    (.conflict "stale expected checkpoint")
  ensure (task.sideEffects.count SideEffect.unresolved = 0)
    (.unsafeState "存在 unresolved SideEffect，不能提交安全 checkpoint")
  let stateHash := hashing.json statePayload
  let checkpoint := newCheckpoint store found.2 expectedCheckpointId latest stateHash statePayload
    fence.ownerEpoch
  return (checkpointedTask call task checkpoint operation,
    { taskId := task.taskId
      stateVersion := fence.expectedStateVersion + 1
      body := .checkpointed attemptId checkpoint.checkpointId expectedCheckpointId stateHash })

/-- The transaction `resume_attempt` runs first, which finds the payload of the checkpoint; the
command it then runs is a second transaction. Checkpoints are never changed in between. -/
def resumeAttempt (taskId : String) (fence : Fence) (attemptId expectedCheckpointId : Nat) :
    Except ResearchFailure Command := do
  match store.checkpoint expectedCheckpointId with
  | none => .error (.notFound "resume checkpoint 不存在")
  | some checkpoint =>
      ensure (checkpoint.1 = taskId ∧ checkpoint.2.attemptId = attemptId ∧
        checkpoint.2.isComplete = true) (.unsafeState "resume checkpoint identity/receipt 无效")
      return .commitCheckpoint fence attemptId (some expectedCheckpointId)
        checkpoint.2.statePayload .resumeAttempt

/-- The statuses a task may go on with after an attempt. -/
def TaskStatus.continues (status : TaskStatus) : Bool :=
  status ≠ .running ∧ status ≠ .terminal

/-- The writes of `complete_attempt`, by the result it inserts. -/
def completedTask (result : ResearchResult) (taskStatus : TaskStatus) : ResearchTask Digest :=
  let finished : ResearchTask Digest :=
    { task.advanced.changeAttempt result.attemptId
        ⟨fun attempt => { attempt with status := .terminal, resultId := some result.resultId },
          fun _ => rfl⟩ with
      results := task.results ++ [result]
      status := taskStatus
      terminalResultId := if result.isTaskTerminal then some result.resultId else none }
  let body := if result.isTaskTerminal then
      .taskTerminalResultCommitted result.resultId result.answerStatus result.terminationReason
        result.failureClass
    else
      .attemptResultCommitted result.resultId result.answerStatus result.terminationReason
        result.failureClass
  finished.event call result.ownerEpoch body result.goalId (some result.attemptId)
    result.checkpointId

/-- `complete_attempt`. The checkpoint it names is one of the attempt's own by the way it is
looked up, which the source checks once more. -/
def completeAttempt (fence : Fence) (attemptId : Nat) (answerStatus : AnswerStatus)
    (terminationReason : TerminationReason) (failureClass : FailureClass) (reasonDetail : String)
    (taskTerminal : Bool) (nextTaskStatus : TaskStatus) (checkpointId : Option Nat) :
    Except ResearchFailure (Commit Digest) := do
  let found ← store.attempt attemptId
  task.assertFence fence call.leaseClock
  assertAttempt task.toTaskRow found fence.ownerEpoch "Attempt 已终态或 owner fence 不一致"
  ensure (taskTerminal = true ∨ nextTaskStatus.continues = true)
    (.validation "非 Task-terminal completion 只能进入 ready/blocked/waiting_user")
  ensure (checkpointId = (task.latestCheckpoint attemptId).map Checkpoint.checkpointId)
    (.conflict "stale expected checkpoint for Result commit")
  let result : ResearchResult :=
    { resultId := store.nextId
      goalId := found.2.goalId
      attemptId := attemptId
      checkpointId := checkpointId
      answerStatus := answerStatus
      terminationReason := terminationReason
      failureClass := failureClass
      reasonDetail := reasonDetail
      isTaskTerminal := taskTerminal
      ownerEpoch := fence.ownerEpoch }
  let taskStatus := if taskTerminal then .terminal else nextTaskStatus
  return (completedTask call task result taskStatus,
    { taskId := task.taskId
      stateVersion := fence.expectedStateVersion + 1
      body := .completed attemptId store.nextId taskStatus })

/-- The writes of `revise_goal`. -/
def revisedTask (ownerEpoch : Nat) (objective : String) (successConstraints : List String)
    (evidencePolicy : String) : ResearchTask Digest :=
  let goal : Goal :=
    { goalId := store.nextId
      revision := task.nextRevision
      parentGoalId := task.activeGoalId
      objective := strip objective
      successConstraints := successConstraints
      evidencePolicy := evidencePolicy }
  { task.advanced.insertAttempt store.nextId (some goal.goalId) .goalRevision none none ownerEpoch
    with
    goals := task.goals ++ [goal]
    activeGoalId := some goal.goalId }.event call ownerEpoch
      (.goalRevised task.nextRevision task.activeGoalId) (some goal.goalId) (some store.nextId) none

/-- `revise_goal`. -/
def reviseGoal (fence : Fence) (objective : String) (successConstraints : List String)
    (evidencePolicy : String) : Except ResearchFailure (Commit Digest) := do
  task.assertFence fence call.leaseClock
  ensure (task.attempts.count Attempt.unfinished = 0)
    (.conflict "goal revision 前必须先终结当前 Attempt")
  return (revisedTask store call task fence.ownerEpoch objective successConstraints evidencePolicy,
    { taskId := task.taskId
      stateVersion := fence.expectedStateVersion + 1
      body := .revised store.nextId store.nextId store.nextId })

/-- The row `reserve_side_effect` inserts. -/
def newEffect (attemptId : Nat) (effectKind idempotencyKey requestHash request : String)
    (ownerEpoch : Nat) : SideEffect :=
  { sideEffectId := store.nextId
    attemptId := attemptId
    commandId := call.commandId
    idempotencyKey := idempotencyKey
    effectKind := effectKind
    requestHash := requestHash
    requestJson := request
    status := .reserved
    ownerEpoch := ownerEpoch
    providerOperationId := none
    receiptHash := none
    resultReference := none
    createdAt := call.appClock }

/-- The writes of `reserve_side_effect` for a kind and a key that are taken. -/
def deduplicatedTask (ownerEpoch : Nat) (attempt : Attempt) (effect : SideEffect) :
    ResearchTask Digest :=
  task.advanced.event call ownerEpoch
    (.sideEffectDeduplicated effect.sideEffectId effect.effectKind effect.idempotencyKey)
    attempt.goalId (some attempt.attemptId) none

/-- The writes of `reserve_side_effect` for a kind and a key that are new. -/
def reservedTask (attempt : Attempt) (effect : SideEffect) : ResearchTask Digest :=
  { task.advanced with sideEffects := task.sideEffects.insert effect }.event call effect.ownerEpoch
    (.sideEffectReserved effect.sideEffectId effect.effectKind effect.idempotencyKey)
    attempt.goalId (some attempt.attemptId) none

/-- The answer of `reserve_side_effect`. -/
def reservedResponse (fence : Fence) (sideEffectId : Nat) : Response :=
  { taskId := task.taskId
    stateVersion := fence.expectedStateVersion + 1
    body := .reserved sideEffectId }

/-- `reserve_side_effect`. -/
def reserveSideEffect (hashing : Hashing Digest) (fence : Fence) (attemptId : Nat)
    (effectKind idempotencyKey request : String) : Except ResearchFailure (Commit Digest) := do
  let found ← store.attempt attemptId
  task.assertFence fence call.leaseClock
  assertAttempt task.toTaskRow found fence.ownerEpoch "Attempt 与 SideEffect owner fence 不一致"
  let requestHash := hashing.json request
  match task.effectFor effectKind idempotencyKey with
  | some existing =>
      ensure (existing.requestHash = requestHash)
        (.unsafeState "同一 Task-scoped idempotency key 的 request hash 不一致")
      return (deduplicatedTask call task fence.ownerEpoch found.2 existing,
        reservedResponse task fence existing.sideEffectId)
  | none =>
      let effect := newEffect store call attemptId effectKind idempotencyKey requestHash request
        fence.ownerEpoch
      return (reservedTask call task found.2 effect,
        reservedResponse task fence effect.sideEffectId)

/-- The moves `transition_side_effect` makes. -/
def SideEffectStatus.mayMove (current target : SideEffectStatus) : Bool :=
  (current = .reserved ∧ target = .inFlight) ∨
    (current = .inFlight ∧ (target = .succeeded ∨ target = .failed))

/-- The event a move leaves. -/
def transitionEvent (sideEffectId : Nat) (receiptHash : Option String) :
    SideEffectStatus → EventBody Digest
  | .succeeded => .sideEffectSucceeded sideEffectId receiptHash
  | .failed => .sideEffectFailed sideEffectId receiptHash
  | _ => .sideEffectStarted sideEffectId receiptHash

/-- The columns a move fills; a missing value leaves the column alone. -/
def moveChange (targetStatus : SideEffectStatus)
    (operationId receiptHash resultReference : Option String) : Change SideEffect.sideEffectId :=
  ⟨fun effect =>
    { effect with
      status := targetStatus
      providerOperationId := operationId.or effect.providerOperationId
      receiptHash := receiptHash.or effect.receiptHash
      resultReference := resultReference.or effect.resultReference }, fun _ => rfl⟩

/-- The writes of `transition_side_effect`. -/
def movedTask (ownerEpoch : Nat) (effect : SideEffect) (targetStatus : SideEffectStatus)
    (operationId receiptHash resultReference : Option String) : ResearchTask Digest :=
  (task.advanced.changeEffect effect.sideEffectId
    (moveChange targetStatus operationId receiptHash resultReference)).event call ownerEpoch
      (transitionEvent effect.sideEffectId receiptHash targetStatus) none (some effect.attemptId) none

/-- `transition_side_effect`. -/
def transitionSideEffect (fence : Fence) (sideEffectId : Nat) (targetStatus : SideEffectStatus)
    (operationId receiptHash resultReference : Option String) :
    Except ResearchFailure (Commit Digest) := do
  let found ← store.sideEffect sideEffectId
  task.assertFence fence call.leaseClock
  ensure (found.1 = task.taskId ∧ found.2.ownerEpoch = fence.ownerEpoch)
    (.conflict "SideEffect stale owner fence")
  ensure (found.2.status.mayMove targetStatus = true)
    (.unsafeState ("非法 SideEffect transition: " ++ found.2.status.value ++ " -> " ++
      targetStatus.value))
  return (movedTask call task fence.ownerEpoch found.2 targetStatus operationId receiptHash
      resultReference,
    { taskId := task.taskId
      stateVersion := fence.expectedStateVersion + 1
      body := .moved sideEffectId targetStatus })

/-- The update and the event of one effect in flight of an earlier owner. -/
def markUnknown (ownerEpoch : Nat) (task : ResearchTask Digest) (effect : SideEffect) :
    ResearchTask Digest :=
  (task.changeEffect effect.sideEffectId
    ⟨fun row => { row with status := .unknown }, fun _ => rfl⟩).event call ownerEpoch
      (.sideEffectMarkedUnknown effect.sideEffectId effect.ownerEpoch) none
      (some effect.attemptId) none

/-- The effects in flight a recovery finds. -/
def abandoned (ownerEpoch : Nat) : List SideEffect :=
  task.effectsWhere fun effect => effect.status = .inFlight ∧ effect.ownerEpoch < ownerEpoch

/-- The writes of `recover_in_flight`. -/
def recoveredTask (ownerEpoch : Nat) : ResearchTask Digest :=
  let rows := abandoned task ownerEpoch
  { (rows.foldl (markUnknown call ownerEpoch) task).advanced with
    status := if rows.length = 0 then task.status else .blocked }

/-- `recover_in_flight`. -/
def recoverInFlight (fence : Fence) : Except ResearchFailure (Commit Digest) := do
  task.assertFence fence call.leaseClock
  return (recoveredTask call task fence.ownerEpoch,
    { taskId := task.taskId
      stateVersion := fence.expectedStateVersion + 1
      body := .recovered ((abandoned task fence.ownerEpoch).map SideEffect.sideEffectId) })

/-- The writes of `resolve_unknown_side_effect`. -/
def resolvedTask (ownerEpoch : Nat) (effect : SideEffect) (outcome : SideEffectStatus) :
    ResearchTask Digest :=
  (task.advanced.changeEffect effect.sideEffectId
    ⟨fun row => { row with status := outcome, ownerEpoch := ownerEpoch }, fun _ => rfl⟩).event
      call ownerEpoch (.sideEffectResolved effect.sideEffectId outcome) none
      (some effect.attemptId) none

/-- `resolve_unknown_side_effect`. -/
def resolveUnknownSideEffect (fence : Fence) (sideEffectId : Nat) (outcome : SideEffectStatus) :
    Except ResearchFailure (Commit Digest) := do
  let found ← store.sideEffect sideEffectId
  task.assertFence fence call.leaseClock
  ensure (found.1 = task.taskId ∧ found.2.status = .unknown)
    (.unsafeState "SideEffect 不是当前 Task 的 unknown record")
  return (resolvedTask call task fence.ownerEpoch found.2 outcome,
    { taskId := task.taskId
      stateVersion := fence.expectedStateVersion + 1
      body := .moved sideEffectId outcome })

end Bodies

/-- The row of `research_execution_metadata` for a new task; the table refuses an empty budget. -/
def newExecution (request : ExecutionRequest) : Except ResearchFailure ExecutionMetadata := do
  ensure (0 < request.activeBudgetMs) .storageError
  return { timePolicyVersion := request.timePolicyVersion
           activeBudgetMs := request.activeBudgetMs
           schedulingIntent := request.schedulingIntent
           schedulingStatus := request.schedulingStatus
           runCommandId := some request.runCommandId
           resumeReason := request.resumeReason }

/-- A parent has to be terminal. -/
def assertParent (store : KernelStore Digest) : Option String → Except ResearchFailure Unit
  | none => .ok ()
  | some parentTaskId => do
      let parent ← store.task parentTaskId
      ensure (parent.status = .terminal)
        (.validation "parent_task_id 必须指向 terminal Task")

/-- `create_task`, for a task that is not there. -/
def createTask (store : KernelStore Digest) (call : Call) (objective : String)
    (successConstraints : List String) (evidencePolicy : String) (parentTaskId : Option String)
    (serverConstraintProfile : Option String) (executionMetadata : Option ExecutionRequest) :
    Except ResearchFailure (Commit Digest) := do
  assertParent store parentTaskId
  let execution ← executionMetadata.mapM newExecution
  let goalId := store.nextId
  let created : ResearchTask Digest :=
    { taskId := call.taskId
      parentTaskId := parentTaskId
      status := .ready
      activeGoalId := some goalId
      stateVersion := 0
      lease := ⟨none, none, 0⟩
      terminalResultId := none
      goals :=
        [{ goalId := goalId
           revision := 1
           parentGoalId := none
           objective := strip objective
           successConstraints := successConstraints
           evidencePolicy := evidencePolicy }]
      attempts := Table.empty Attempt.attemptId
      checkpoints := []
      results := []
      sideEffects := Table.empty SideEffect.sideEffectId
      events := []
      receipts := []
      execution := execution }
  return (created.event call 0 (.taskCreated parentTaskId 1 serverConstraintProfile) (some goalId)
      none none,
    { taskId := call.taskId, stateVersion := 0, body := .created goalId })

/-! ## Transactions -/

/-- What a command refuses before it opens its transaction, by its arguments as they enter the
payload. -/
def precheck : Command → Except ResearchFailure Unit
  | .createTask objective .. | .reviseGoal _ objective .. =>
      ensure (objective ≠ "") (.validation "objective 不能为空")
  | .claimOwner _ _ leaseSeconds | .renewOwner _ leaseSeconds => assertLeaseSeconds leaseSeconds
  | .transitionSideEffect _ _ targetStatus .. =>
      ensure (targetStatus = .inFlight ∨ targetStatus = .succeeded ∨ targetStatus = .failed)
        (.validation "不支持的 SideEffect transition")
  | .resolveUnknownSideEffect _ _ outcome =>
      ensure (outcome = .succeeded ∨ outcome = .failed)
        (.validation "unknown SideEffect 只能解析为 succeeded/failed")
  | _ => .ok ()

/-- The body of a command on a task that is there, which a second `create_task` has not. -/
def perform (hashing : Hashing Digest) (store : KernelStore Digest) (call : Call)
    (task : ResearchTask Digest) : Except ResearchFailure (Commit Digest) :=
  match call.command with
  | .createTask .. => .error (.conflict "task_id 已存在但 command receipt 不匹配")
  | .claimOwner ownerId expected leaseSeconds => claimOwner call task ownerId expected leaseSeconds
  | .renewOwner fence leaseSeconds => renewOwner call task fence leaseSeconds
  | .startAttempt fence cause parent source enqueue =>
      startAttempt store call task fence cause parent source enqueue
  | .commitCheckpoint fence attemptId expected payload operation =>
      commitCheckpoint store call task hashing fence attemptId expected payload operation
  | .completeAttempt fence attemptId answer reason failure detail terminal next checkpointId =>
      completeAttempt store call task fence attemptId answer reason failure detail terminal next
        checkpointId
  | .reviseGoal fence objective constraints policy =>
      reviseGoal store call task fence objective constraints policy
  | .reserveSideEffect fence attemptId kind key request =>
      reserveSideEffect store call task hashing fence attemptId kind key request
  | .transitionSideEffect fence sideEffectId target operationId receiptHash reference =>
      transitionSideEffect store call task fence sideEffectId target operationId receiptHash
        reference
  | .recoverInFlight fence => recoverInFlight call task fence
  | .resolveUnknownSideEffect fence sideEffectId outcome =>
      resolveUnknownSideEffect store call task fence sideEffectId outcome

/-- The body of a command on a task that is not there. -/
def performAbsent (store : KernelStore Digest) (call : Call) :
    Except ResearchFailure (Commit Digest) :=
  match call.command with
  | .createTask objective constraints policy parent profile execution =>
      createTask store call objective constraints policy parent profile execution
  | _ => .error (.notFound ("Research Task 不存在: " ++ call.taskId))

variable [DecidableEq Digest]

/-- What a command finds under its identifier. -/
inductive Existing (Digest : Type) where
  | absent
  | answered (response : Response)
  | mismatched (stored : Digest)

omit [DecidableEq Digest] in
/-- The owner check of `_existing_receipt`, by the epoch of the receipt when the command names
none. -/
def assertReceiptOwner (call : Call) (task : ResearchTask Digest)
    (receipt : CommandReceipt Digest) : Except ResearchFailure Unit :=
  match call.command.receiptFence with
  | none => .ok ()
  | some (ownerId, ownerEpoch) =>
      task.assertOwner ownerId (ownerEpoch.getD receipt.ownerEpoch) call.leaseClock

/-- `_existing_receipt`, up to the event a mismatch leaves. -/
def existingReceipt (hashing : Hashing Digest) (call : Call) (task : ResearchTask Digest) :
    Except ResearchFailure (Existing Digest) :=
  match task.receipt call.commandId with
  | none => .ok .absent
  | some receipt => do
      assertReceiptOwner call task receipt
      if receipt.payloadHash = hashing.payload (call.command.stripped hashing) then
        return .answered receipt.response
      else return .mismatched receipt.payloadHash

/-- The event a mismatch leaves, which is committed although the command is refused. -/
def auditMismatch (hashing : Hashing Digest) (call : Call) (task : ResearchTask Digest)
    (stored : Digest) : ResearchTask Digest :=
  task.event call task.lease.epoch
    (.commandPayloadMismatchRejected call.commandId stored
      (hashing.payload (call.command.stripped hashing))) task.activeGoalId none none

/-- The receipt of a command; the epoch it was fenced by is the task's afterwards. -/
def receiptOf (hashing : Hashing Digest) (call : Call) (commit : Commit Digest) :
    CommandReceipt Digest :=
  { commandId := call.commandId
    commandType := call.command.commandType
    payloadHash := hashing.payload (call.command.stripped hashing)
    response := commit.2
    ownerEpoch := commit.1.lease.epoch }

omit [DecidableEq Digest] in
/-- The store with the rows of one task replaced, and the numbers used up. -/
def KernelStore.write (store : KernelStore Digest) (task : ResearchTask Digest) :
    KernelStore Digest :=
  ⟨store.tasks.assign task, store.nextId + 1⟩

/-- How a transaction ends: it answers from a receipt, it commits, it commits the audit of a
mismatch and raises, or it raises and is rolled back. -/
inductive Outcome (Digest : Type) where
  | replayed (response : Response)
  | committed (after : ResearchTask Digest) (response : Response)
  | rejected (audited : ResearchTask Digest) (failure : ResearchFailure)
  | raised (failure : ResearchFailure)

/-- A body, and the receipt it leaves. -/
def commitBody (hashing : Hashing Digest) (call : Call) :
    Except ResearchFailure (Commit Digest) → Outcome Digest
  | .error failure => .raised failure
  | .ok commit => .committed (commit.1.insertReceipt (receiptOf hashing call commit)) commit.2

/-- One command. -/
def transact (hashing : Hashing Digest) (store : KernelStore Digest) (call : Call) :
    Outcome Digest :=
  match precheck (call.command.stripped hashing) with
  | .error failure => .raised failure
  | .ok () =>
      match store.tasks.lookup call.taskId with
      | none => commitBody hashing call (performAbsent store call)
      | some task =>
          match existingReceipt hashing call task with
          | .error failure => .raised failure
          | .ok (.answered response) => .replayed response
          | .ok (.mismatched stored) =>
              .rejected (auditMismatch hashing call task stored)
                (.conflict "同一 command_id 的 payload hash 不一致，已 fail closed")
          | .ok .absent => commitBody hashing call (perform hashing store call task)

omit [DecidableEq Digest] in
/-- What an outcome leaves in the database. -/
def KernelStore.after (store : KernelStore Digest) : Outcome Digest → KernelStore Digest
  | .committed task _ | .rejected task _ => store.write task
  | .replayed _ | .raised _ => store

def stepKernel (hashing : Hashing Digest) (store : KernelStore Digest) (call : Call) :
    KernelStore Digest :=
  store.after (transact hashing store call)

end Shiliu.Research
