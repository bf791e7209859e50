/-
Module: Shiliu.Research.KernelMoves
Purpose: What the commands of the research kernel can do, said once. A body that returns has passed the
  guards listed in `Performed` and leaves the task listed there; a transaction ends in one of the ways listed in
  `TransactOutline`. Later results take these lists apart and never unfold a body again.
Trusted boundary: none
Main exports: FenceHolds, Performed, perform_ok, created_ok, TransactOutline, transact_outline
-/
import Shiliu.Library.Chain
import Shiliu.Research.Kernel

set_option linter.all false

namespace Shiliu.Research

open Shiliu.Library Shiliu.Storage

variable {Digest : Type}

/-! ## What the guards have found -/

/-- The command names the task's version, owner and epoch, and the task is open and leased. -/
structure FenceHolds (task : TaskRow) (fence : Fence) (now : Instant) : Prop where
  nonterminal : task.status ≠ .terminal
  version : task.stateVersion = fence.expectedStateVersion
  owner : task.lease.owner.getD "" = fence.ownerId
  epoch : task.lease.epoch = fence.ownerEpoch
  live : task.lease.live now = true

variable {now : Instant} {done : Unit} {fence : Fence}

theorem assertOwner_eq_ok {task : TaskRow} {ownerId : String} {ownerEpoch : Nat} :
    task.assertOwner ownerId ownerEpoch now = .ok done ↔
      (task.lease.owner.getD "" = ownerId ∧ task.lease.epoch = ownerEpoch) ∧
        task.lease.live now = true := by
  simp only [TaskRow.assertOwner, ensure_then_eq_ok, ensure_eq_ok]

theorem assertFence_eq_ok {task : TaskRow} :
    task.assertFence fence now = .ok done ↔ FenceHolds task fence now := by
  simp only [TaskRow.assertFence, TaskRow.assertNonterminal, TaskRow.assertExpected,
    ensure_then_eq_ok, assertOwner_eq_ok]
  constructor
  · rintro ⟨nonterminal, version, ⟨owner, epoch⟩, live⟩
    exact ⟨nonterminal, version, owner, epoch, live⟩
  · rintro ⟨nonterminal, version, owner, epoch, live⟩
    exact ⟨nonterminal, version, ⟨owner, epoch⟩, live⟩

theorem fence_then_eq_ok {task : TaskRow} {Result : Type}
    {next : Unit → Except ResearchFailure Result} {result : Result} :
    (task.assertFence fence now >>= next) = .ok result ↔
      FenceHolds task fence now ∧ next () = .ok result := by
  simp only [bind_eq_ok, assertFence_eq_ok]
  exact ⟨fun ⟨_, holds, rest⟩ => ⟨holds, rest⟩, fun ⟨holds, rest⟩ => ⟨(), holds, rest⟩⟩

/-- The attempt is the task's, unfinished and of the epoch. -/
structure AttemptHolds (task : ResearchTask Digest) (attempt : Attempt) (attemptId ownerEpoch : Nat) :
    Prop where
  member : attempt ∈ task.attempts
  isAttempt : attempt.attemptId = attemptId
  unfinished : attempt.unfinished = true
  epoch : attempt.ownerEpoch = ownerEpoch

/-- The effect is the task's. -/
structure EffectHolds (task : ResearchTask Digest) (effect : SideEffect) (sideEffectId : Nat) :
    Prop where
  member : effect ∈ task.sideEffects
  isEffect : effect.sideEffectId = sideEffectId

section Lookup

variable {store : KernelStore Digest} {task : ResearchTask Digest}

variable {attemptId : Nat} {found : String × Attempt}

theorem attempt_ok (isFound : store.attempt attemptId = .ok found) (isTask : task ∈ store.tasks)
    (same : found.1 = task.taskId) :
    found.2 ∈ task.attempts ∧ found.2.attemptId = attemptId := by
  unfold KernelStore.attempt at isFound
  split at isFound
  case h_2 => nomatch isFound
  case h_1 hit search =>
      obtain rfl := Except.ok.inj isFound
      obtain ⟨home, isHome, lookup⟩ := List.exists_of_findSome?_eq_some search
      obtain ⟨attempt, isAttempt, rfl⟩ := Option.map_eq_some_iff.mp lookup
      obtain rfl := Table.eq_of_key (Table.mem_rows.mpr isHome) isTask same
      exact Table.lookup_eq_some.mp isAttempt

theorem sideEffect_ok {sideEffectId : Nat} {found : String × SideEffect}
    (isFound : store.sideEffect sideEffectId = .ok found) (isTask : task ∈ store.tasks)
    (same : found.1 = task.taskId) : EffectHolds task found.2 sideEffectId := by
  unfold KernelStore.sideEffect at isFound
  split at isFound
  case h_2 => nomatch isFound
  case h_1 hit search =>
      obtain rfl := Except.ok.inj isFound
      obtain ⟨home, isHome, lookup⟩ := List.exists_of_findSome?_eq_some search
      obtain ⟨effect, isEffect, rfl⟩ := Option.map_eq_some_iff.mp lookup
      obtain rfl := Table.eq_of_key (Table.mem_rows.mpr isHome) isTask same
      exact ⟨(Table.lookup_eq_some.mp isEffect).1, (Table.lookup_eq_some.mp isEffect).2⟩

theorem assertAttempt_ok {ownerEpoch : Nat} {message : String} {done : Unit}
    (isFound : store.attempt attemptId = .ok found) (isTask : task ∈ store.tasks)
    (passed : assertAttempt task.toTaskRow found ownerEpoch message = .ok done) :
    AttemptHolds task found.2 attemptId ownerEpoch := by
  obtain ⟨same, unfinished, epoch⟩ := ensure_eq_ok.mp passed
  obtain ⟨member, isAttempt⟩ := attempt_ok isFound isTask same
  exact ⟨member, isAttempt, unfinished, epoch⟩

end Lookup

/-! ## The bodies that return -/

section Bodies

variable (hashing : Hashing Digest) (store : KernelStore Digest) (call : Call)
  (task : ResearchTask Digest)

/-- What a body that returned has checked, and what it leaves. -/
inductive Performed : Commit Digest → Prop where
  | claimed (ownerId : String) (expected : Nat) (leaseSeconds : Int)
      (isCommand : call.command = .claimOwner ownerId expected leaseSeconds)
      (nonterminal : task.status ≠ .terminal) (version : task.stateVersion = expected)
      (free : ¬(truthy task.lease.owner = true ∧ task.lease.live call.leaseClock = true)) :
      Performed (claimedTask call task ownerId (leaseUntil call.grantClock leaseSeconds),
        { taskId := task.taskId
          stateVersion := expected + 1
          body := .claimed ownerId (task.lease.epoch + 1)
            (leaseUntil call.grantClock leaseSeconds)
            ((takenOver task (task.lease.epoch + 1)).map SideEffect.sideEffectId) })
  | renewed (fence : Fence) (leaseSeconds : Int)
      (isCommand : call.command = .renewOwner fence leaseSeconds)
      (fenced : FenceHolds task.toTaskRow fence call.leaseClock) :
      Performed (renewedTask call task fence (leaseUntil call.grantClock leaseSeconds),
        { taskId := task.taskId
          stateVersion := fence.expectedStateVersion + 1
          body := .renewed fence.ownerEpoch (leaseUntil call.grantClock leaseSeconds) })
  | started (fence : Fence) (cause : AttemptCause) (parent source : Option Nat)
      (enqueue : Option ExecutionEnqueue) (execution : Option ExecutionMetadata)
      (isCommand : call.command = .startAttempt fence cause parent source enqueue)
      (fenced : FenceHolds task.toTaskRow fence call.leaseClock)
      (idle : task.attempts.count Attempt.unfinished = 0)
      (enqueued : enqueueExecution task.execution enqueue = .ok execution) :
      Performed (startedTask store call task fence.ownerEpoch cause parent source execution,
        { taskId := task.taskId
          stateVersion := fence.expectedStateVersion + 1
          body := .started store.nextId store.nextId })
  | checkpointed (fence : Fence) (attempt : Attempt) (attemptId : Nat) (expected : Option Nat)
      (payload : String) (operation : CheckpointOperation)
      (isCommand : call.command = .commitCheckpoint fence attemptId expected payload operation)
      (fenced : FenceHolds task.toTaskRow fence call.leaseClock)
      (holds : AttemptHolds task attempt attemptId fence.ownerEpoch)
      (latest : (task.latestCheckpoint attemptId).map Checkpoint.checkpointId = expected)
      (resolved : task.sideEffects.count SideEffect.unresolved = 0) :
      Performed (checkpointedTask call task
          (newCheckpoint store attempt expected (task.latestCheckpoint attemptId)
            (hashing.json payload) payload fence.ownerEpoch) operation,
        { taskId := task.taskId
          stateVersion := fence.expectedStateVersion + 1
          body := .checkpointed attemptId store.nextId expected (hashing.json payload) })
  | completed (fence : Fence) (attempt : Attempt) (result : ResearchResult) (terminal : Bool)
      (next : TaskStatus)
      (isCommand : call.command = .completeAttempt fence result.attemptId result.answerStatus
        result.terminationReason result.failureClass result.reasonDetail terminal next
        result.checkpointId)
      (fenced : FenceHolds task.toTaskRow fence call.leaseClock)
      (holds : AttemptHolds task attempt result.attemptId fence.ownerEpoch)
      (continues : terminal = true ∨ next.continues = true)
      (isResult : result.resultId = store.nextId ∧ result.ownerEpoch = fence.ownerEpoch ∧
        result.isTaskTerminal = terminal ∧ result.goalId = attempt.goalId)
      (latest : result.checkpointId =
        (task.latestCheckpoint result.attemptId).map Checkpoint.checkpointId) :
      Performed (completedTask call task result (if terminal then .terminal else next),
        { taskId := task.taskId
          stateVersion := fence.expectedStateVersion + 1
          body := .completed result.attemptId store.nextId (if terminal then .terminal else next) })
  | revised (fence : Fence) (objective : String) (constraints : List String) (policy : String)
      (isCommand : call.command = .reviseGoal fence objective constraints policy)
      (fenced : FenceHolds task.toTaskRow fence call.leaseClock)
      (idle : task.attempts.count Attempt.unfinished = 0) :
      Performed (revisedTask store call task fence.ownerEpoch objective constraints policy,
        { taskId := task.taskId
          stateVersion := fence.expectedStateVersion + 1
          body := .revised store.nextId store.nextId store.nextId })
  | deduplicated (fence : Fence) (attempt : Attempt) (effect : SideEffect) (attemptId : Nat)
      (kind key request : String)
      (isCommand : call.command = .reserveSideEffect fence attemptId kind key request)
      (fenced : FenceHolds task.toTaskRow fence call.leaseClock)
      (holds : AttemptHolds task attempt attemptId fence.ownerEpoch)
      (isEffect : task.effectFor kind key = some effect)
      (sameRequest : effect.requestHash = hashing.json request) :
      Performed (deduplicatedTask call task fence.ownerEpoch attempt effect,
        reservedResponse task fence effect.sideEffectId)
  | reserved (fence : Fence) (attempt : Attempt) (attemptId : Nat) (kind key request : String)
      (isCommand : call.command = .reserveSideEffect fence attemptId kind key request)
      (fenced : FenceHolds task.toTaskRow fence call.leaseClock)
      (holds : AttemptHolds task attempt attemptId fence.ownerEpoch)
      (absent : task.effectFor kind key = none) :
      Performed (reservedTask call task attempt
          (newEffect store call attemptId kind key (hashing.json request) request fence.ownerEpoch),
        reservedResponse task fence store.nextId)
  | moved (fence : Fence) (effect : SideEffect) (target : SideEffectStatus)
      (operationId receiptHash reference : Option String)
      (isCommand : call.command = .transitionSideEffect fence effect.sideEffectId target
        operationId receiptHash reference)
      (fenced : FenceHolds task.toTaskRow fence call.leaseClock)
      (holds : EffectHolds task effect effect.sideEffectId)
      (epoch : effect.ownerEpoch = fence.ownerEpoch)
      (mayMove : effect.status.mayMove target = true) :
      Performed (movedTask call task fence.ownerEpoch effect target operationId receiptHash
          reference,
        { taskId := task.taskId
          stateVersion := fence.expectedStateVersion + 1
          body := .moved effect.sideEffectId target })
  | recovered (fence : Fence) (isCommand : call.command = .recoverInFlight fence)
      (fenced : FenceHolds task.toTaskRow fence call.leaseClock) :
      Performed (recoveredTask call task fence.ownerEpoch,
        { taskId := task.taskId
          stateVersion := fence.expectedStateVersion + 1
          body := .recovered ((abandoned task fence.ownerEpoch).map SideEffect.sideEffectId) })
  | resolved (fence : Fence) (effect : SideEffect) (outcome : SideEffectStatus)
      (isCommand : call.command = .resolveUnknownSideEffect fence effect.sideEffectId outcome)
      (fenced : FenceHolds task.toTaskRow fence call.leaseClock)
      (holds : EffectHolds task effect effect.sideEffectId)
      (unknown : effect.status = .unknown) :
      Performed (resolvedTask call task fence.ownerEpoch effect outcome,
        { taskId := task.taskId
          stateVersion := fence.expectedStateVersion + 1
          body := .moved effect.sideEffectId outcome })

variable {hashing store call task}

/-- A body that returns is one of the list. -/
theorem perform_ok {commit : Commit Digest} (isTask : task ∈ store.tasks)
    (performed : perform hashing store call task = .ok commit) :
    Performed hashing store call task commit := by
  unfold perform at performed
  split at performed
  case h_1 => nomatch performed
  case h_2 ownerId expected leaseSeconds isCommand =>
      obtain ⟨nonterminal, performed⟩ := ensure_then_eq_ok.mp performed
      obtain ⟨version, performed⟩ := ensure_then_eq_ok.mp performed
      obtain ⟨free, performed⟩ := ensure_then_eq_ok.mp performed
      obtain rfl := pure_eq_ok.mp performed
      exact .claimed ownerId expected leaseSeconds isCommand nonterminal version free
  case h_3 fence leaseSeconds isCommand =>
      obtain ⟨fenced, performed⟩ := fence_then_eq_ok.mp performed
      obtain rfl := pure_eq_ok.mp performed
      exact .renewed fence leaseSeconds isCommand fenced
  case h_4 fence cause parent source enqueue isCommand =>
      obtain ⟨fenced, performed⟩ := fence_then_eq_ok.mp performed
      obtain ⟨idle, performed⟩ := ensure_then_eq_ok.mp performed
      obtain ⟨-, -, performed⟩ := bind_eq_ok.mp performed
      obtain ⟨execution, enqueued, performed⟩ := bind_eq_ok.mp performed
      obtain rfl := pure_eq_ok.mp performed
      exact .started fence cause parent source enqueue execution isCommand fenced idle enqueued
  case h_5 fence attemptId expected payload operation isCommand =>
      obtain ⟨found, isFound, performed⟩ := bind_eq_ok.mp performed
      obtain ⟨fenced, performed⟩ := fence_then_eq_ok.mp performed
      obtain ⟨done, passed, performed⟩ := bind_eq_ok.mp performed
      obtain ⟨latest, performed⟩ := ensure_then_eq_ok.mp performed
      obtain ⟨resolved, performed⟩ := ensure_then_eq_ok.mp performed
      obtain rfl := pure_eq_ok.mp performed
      exact .checkpointed fence found.2 attemptId expected payload operation isCommand fenced
        (assertAttempt_ok isFound isTask passed) latest resolved
  case h_6 fence attemptId answer reason failure detail terminal next checkpointId isCommand =>
      obtain ⟨found, isFound, performed⟩ := bind_eq_ok.mp performed
      obtain ⟨fenced, performed⟩ := fence_then_eq_ok.mp performed
      obtain ⟨done, passed, performed⟩ := bind_eq_ok.mp performed
      obtain ⟨continues, performed⟩ := ensure_then_eq_ok.mp performed
      obtain ⟨latest, performed⟩ := ensure_then_eq_ok.mp performed
      obtain rfl := pure_eq_ok.mp performed
      exact .completed fence found.2 _ terminal next isCommand fenced
        (assertAttempt_ok isFound isTask passed) continues ⟨rfl, rfl, rfl, rfl⟩ latest
  case h_7 fence objective constraints policy isCommand =>
      obtain ⟨fenced, performed⟩ := fence_then_eq_ok.mp performed
      obtain ⟨idle, performed⟩ := ensure_then_eq_ok.mp performed
      obtain rfl := pure_eq_ok.mp performed
      exact .revised fence objective constraints policy isCommand fenced idle
  case h_8 fence attemptId kind key request isCommand =>
      obtain ⟨found, isFound, performed⟩ := bind_eq_ok.mp performed
      obtain ⟨fenced, performed⟩ := fence_then_eq_ok.mp performed
      obtain ⟨done, passed, performed⟩ := bind_eq_ok.mp performed
      have holds := assertAttempt_ok isFound isTask passed
      cases existing : task.effectFor kind key with
      | some effect =>
          rw [existing] at performed
          obtain ⟨sameRequest, performed⟩ := ensure_then_eq_ok.mp performed
          obtain rfl := pure_eq_ok.mp performed
          exact .deduplicated fence found.2 effect attemptId kind key request isCommand fenced
            holds existing sameRequest
      | none =>
          rw [existing] at performed
          obtain rfl := pure_eq_ok.mp performed
          exact .reserved fence found.2 attemptId kind key request isCommand fenced holds existing
  case h_9 fence sideEffectId target operationId receiptHash reference isCommand =>
      obtain ⟨found, isFound, performed⟩ := bind_eq_ok.mp performed
      obtain ⟨fenced, performed⟩ := fence_then_eq_ok.mp performed
      obtain ⟨⟨same, epoch⟩, performed⟩ := ensure_then_eq_ok.mp performed
      obtain ⟨mayMove, performed⟩ := ensure_then_eq_ok.mp performed
      obtain rfl := pure_eq_ok.mp performed
      have holds := sideEffect_ok isFound isTask same
      obtain rfl := holds.isEffect
      exact .moved fence found.2 target operationId receiptHash reference isCommand fenced holds
        epoch mayMove
  case h_10 fence isCommand =>
      obtain ⟨fenced, performed⟩ := fence_then_eq_ok.mp performed
      obtain rfl := pure_eq_ok.mp performed
      exact .recovered fence isCommand fenced
  case h_11 fence sideEffectId outcome isCommand =>
      obtain ⟨found, isFound, performed⟩ := bind_eq_ok.mp performed
      obtain ⟨fenced, performed⟩ := fence_then_eq_ok.mp performed
      obtain ⟨⟨same, unknown⟩, performed⟩ := ensure_then_eq_ok.mp performed
      obtain rfl := pure_eq_ok.mp performed
      have holds := sideEffect_ok isFound isTask same
      obtain rfl := holds.isEffect
      exact .resolved fence found.2 outcome isCommand fenced holds unknown

end Bodies

/-! ## A new task -/

/-- A task as `create_task` leaves it. -/
structure Created (call : Call) (commit : Commit Digest) : Prop where
  isCommand : ∃ objective constraints policy parent profile execution,
    call.command = .createTask objective constraints policy parent profile execution
  key : commit.1.taskId = call.taskId
  status : commit.1.status = .ready
  version : commit.1.stateVersion = 0
  lease : commit.1.lease = ⟨none, none, 0⟩
  attempts : commit.1.attempts = Table.empty Attempt.attemptId
  checkpoints : commit.1.checkpoints = []
  sideEffects : commit.1.sideEffects = Table.empty SideEffect.sideEffectId
  events : commit.1.events.map Event.sequence = [1]
  receipts : commit.1.receipts = []
  execution : ∀ execution, commit.1.execution = some execution →
    ∃ request, newExecution request = .ok execution
  answer : commit.2.taskId = call.taskId ∧ commit.2.stateVersion = 0 ∧
    ∃ goalId, commit.2.body = .created goalId

theorem created_ok {store : KernelStore Digest} {call : Call} {commit : Commit Digest}
    (performed : performAbsent store call = .ok commit) : Created call commit := by
  unfold performAbsent at performed
  split at performed
  case h_2 => nomatch performed
  case h_1 objective constraints policy parent profile metadata isCommand =>
      obtain ⟨done, -, performed⟩ := bind_eq_ok.mp performed
      obtain ⟨execution, isExecution, performed⟩ := bind_eq_ok.mp performed
      obtain rfl := pure_eq_ok.mp performed
      refine ⟨⟨_, _, _, _, _, _, isCommand⟩, rfl, rfl, rfl, rfl, rfl, rfl, rfl, rfl, rfl, ?_,
        rfl, rfl, _, rfl⟩
      intro row isRow
      cases metadata with
      | none =>
          obtain rfl := pure_eq_ok.mp isExecution
          nomatch isRow
      | some request =>
          obtain ⟨made, isMade, same⟩ := bind_eq_ok.mp isExecution
          obtain rfl := pure_eq_ok.mp same
          obtain rfl := Option.some.inj isRow
          exact ⟨request, isMade⟩

/-! ## The transactions -/

section Transactions

variable [DecidableEq Digest] (hashing : Hashing Digest) (store : KernelStore Digest) (call : Call)

/-- The owner a receipt is fenced by holds the task. -/
def ReceiptHolds (task : TaskRow) (receipt : CommandReceipt Digest) : Prop :=
  ∀ ownerId ownerEpoch, call.command.receiptFence = some (ownerId, ownerEpoch) →
    (task.lease.owner.getD "" = ownerId ∧ task.lease.epoch = ownerEpoch.getD receipt.ownerEpoch) ∧
      task.lease.live call.leaseClock = true

/-- How a transaction can end, with what it has found. -/
inductive TransactOutline : Outcome Digest → Prop where
  | replayed (task : ResearchTask Digest) (receipt : CommandReceipt Digest)
      (isTask : store.tasks.lookup call.taskId = some task)
      (isReceipt : task.receipt call.commandId = some receipt)
      (holds : ReceiptHolds call task.toTaskRow receipt)
      (same : receipt.payloadHash = hashing.payload (call.command.stripped hashing)) :
      TransactOutline (.replayed receipt.response)
  | rejected (task : ResearchTask Digest) (receipt : CommandReceipt Digest)
      (failure : ResearchFailure) (isTask : store.tasks.lookup call.taskId = some task)
      (isReceipt : task.receipt call.commandId = some receipt)
      (holds : ReceiptHolds call task.toTaskRow receipt)
      (different : receipt.payloadHash ≠ hashing.payload (call.command.stripped hashing)) :
      TransactOutline (.rejected (auditMismatch hashing call task receipt.payloadHash) failure)
  | created (commit : Commit Digest) (checked : precheck (call.command.stripped hashing) = .ok ())
      (absent : store.tasks.lookup call.taskId = none) (created : Created call commit) :
      TransactOutline
        (.committed (commit.1.insertReceipt (receiptOf hashing call commit)) commit.2)
  | performed (task : ResearchTask Digest) (commit : Commit Digest)
      (checked : precheck (call.command.stripped hashing) = .ok ())
      (isTask : store.tasks.lookup call.taskId = some task)
      (isNew : task.receipt call.commandId = none)
      (performed : Performed hashing store call task commit) :
      TransactOutline
        (.committed (commit.1.insertReceipt (receiptOf hashing call commit)) commit.2)
  | raised (failure : ResearchFailure) : TransactOutline (.raised failure)

variable {hashing store call}

omit [DecidableEq Digest] in
theorem assertReceiptOwner_ok {task : ResearchTask Digest} {receipt : CommandReceipt Digest}
    {done : Unit} (passed : assertReceiptOwner call task receipt = .ok done) :
    ReceiptHolds call task.toTaskRow receipt := by
  intro ownerId ownerEpoch isFence
  rw [assertReceiptOwner, isFence] at passed
  exact assertOwner_eq_ok.mp passed

variable (hashing store call) in
theorem transact_outline : TransactOutline hashing store call (transact hashing store call) := by
  unfold transact
  split
  case h_1 failure _ => exact .raised failure
  case h_2 checked =>
      split
      case h_1 absent =>
          cases performed : performAbsent store call with
          | error failure => exact .raised failure
          | ok commit => exact .created commit checked absent (created_ok performed)
      case h_2 task isTask =>
          cases isReceipt : task.receipt call.commandId with
          | none =>
              simp only [existingReceipt, isReceipt]
              cases performed : perform hashing store call task with
              | error failure => exact .raised failure
              | ok commit =>
                  exact .performed task commit checked isTask isReceipt
                    (perform_ok (Table.mem_of_lookup isTask) performed)
          | some receipt =>
              cases existing : existingReceipt hashing call task with
              | error failure => exact .raised failure
              | ok found =>
                  simp only [existingReceipt, isReceipt] at existing
                  obtain ⟨done, passed, existing⟩ := bind_eq_ok.mp existing
                  have holds := assertReceiptOwner_ok passed
                  split at existing
                  case isTrue same =>
                      obtain rfl := pure_eq_ok.mp existing
                      exact .replayed task receipt isTask isReceipt holds same
                  case isFalse different =>
                      obtain rfl := pure_eq_ok.mp existing
                      exact .rejected task receipt _ isTask isReceipt holds different

/-! ## What one call leaves of one task -/

variable {taskId : String}

omit [DecidableEq Digest] in
theorem write_lookup_self {task : ResearchTask Digest} (key : task.taskId = taskId) :
    (store.write task).tasks.lookup taskId = some task := by
  subst key
  exact Table.lookup_assign_self

omit [DecidableEq Digest] in
theorem write_lookup_of_ne {task : ResearchTask Digest} (different : taskId ≠ task.taskId) :
    (store.write task).tasks.lookup taskId = store.tasks.lookup taskId :=
  Table.lookup_assign_of_ne different

variable (hashing store call)

/-- What a call may leave of a task that is there. -/
inductive TaskStep (task : ResearchTask Digest) : ResearchTask Digest → Prop where
  | kept : TaskStep task task
  | audited (stored : Digest) (isCall : task.taskId = call.taskId) :
      TaskStep task (auditMismatch hashing call task stored)
  | performed (commit : Commit Digest) (isCall : task.taskId = call.taskId)
      (checked : precheck (call.command.stripped hashing) = .ok ()) (isNew : task.receipt call.commandId = none)
      (performed : Performed hashing store call task commit) :
      TaskStep task (commit.1.insertReceipt (receiptOf hashing call commit))

end Transactions

end Shiliu.Research
