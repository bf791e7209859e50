/-
Module: Shiliu.Research.OfferedOperations
Purpose: The operations `get_status` lists, against the guards `apply_control` makes, in every state
  the services around a task can lead it to. A running task always has an unfinished attempt, so an
  interrupt or a cancel that is listed succeeds. A resume is listed by the pause lineage alone,
  while the command also asks the time ledger.
Trusted boundary: none
Main exports: OuterDecision, settleOuter, TimeAllows, offered_operations, resume_offered_refused
-/
import Mathlib.Logic.Relation
import Shiliu.Research.InputRuns
import Shiliu.Research.Ledger

set_option linter.all false

namespace Shiliu.Research

open Shiliu.Library Shiliu.Storage

variable {Digest : Type}

/-! ## The audit that goes on or ends -/

/-- The decisions of an audit that do not wait for the user, with the state of the child a
continuation starts. -/
inductive OuterDecision where
  | targetedContinue (childHash childPayload : String)
  | conclude
  | implementationFailure
deriving DecidableEq

section Outer

variable (store : KernelStore Digest) (task : ResearchTask Digest) (fence : Fence)
  (attempt : Attempt) (audited : Checkpoint)

/-- `_commit_continuation`: the child attempt. -/
def childAttempt : Attempt :=
  { attemptId := store.nextId
    goalId := attempt.goalId
    ordinal := task.nextOrdinal
    cause := .retry
    parentAttemptId := some attempt.attemptId
    sourceCheckpointId := some audited.checkpointId
    status := .running
    ownerEpoch := fence.ownerEpoch
    resultId := none }

/-- `_seed_child_inner_state`: the checkpoint of the child, a row beside that of the audit. -/
def childCheckpoint (stateHash statePayload : String) : Checkpoint :=
  { checkpointId := store.nextId + 1
    goalId := attempt.goalId
    attemptId := store.nextId
    parentCheckpointId := some audited.checkpointId
    sequence := 1
    stateHash := stateHash
    statePayload := statePayload
    isComplete := true
    ownerEpoch := fence.ownerEpoch }

/-- The task after a decision, with the checkpoint of the audit. -/
def decidedTask : OuterDecision → ResearchTask Digest
  | .targetedContinue childHash childPayload =>
      let ended := task.advanced.endAttempt (some attempt) store.nextId
      { ended with
        checkpoints := task.checkpoints ++
          [audited, childCheckpoint store fence attempt audited childHash childPayload]
        attempts := ended.attempts.insert (childAttempt store task fence attempt audited)
        status := .running
        terminalResultId := none }
  | .conclude =>
      { task.advanced.endAttempt (some attempt) store.nextId with
        checkpoints := task.checkpoints ++ [audited]
        status := .terminal
        terminalResultId := some store.nextId }
  | .implementationFailure =>
      { task.advanced with checkpoints := task.checkpoints ++ [audited] }.setStatus
        attempt.attemptId .blocked .blocked

end Outer

/-- `_advance` and `_commit_implementation_failure`, behind the guards of `_guard_source` that look at
the task. -/
def settleOuter (store : KernelStore Digest) (task : ResearchTask Digest) (fence : Fence)
    (leaseClock : Instant) (attemptId expectedCheckpointId : Nat) (stateHash statePayload : String)
    (decision : OuterDecision) : Except ResearchFailure (ResearchTask Digest) := do
  let found ← store.attempt attemptId
  task.assertFence fence leaseClock
  ensure (found.1 = task.taskId ∧ found.2.status = .running ∧
      found.2.ownerEpoch = fence.ownerEpoch)
    (.conflict "Attempt identity/status/owner fence 不匹配")
  ensure (task.activeGoalId = found.2.goalId) (.conflict "Attempt 不属于 active Goal")
  match task.latestCheckpoint attemptId with
  | none => .error (.conflict "outer audit 要求最新完整 Stage 2 checkpoint")
  | some checkpoint => do
      ensure (checkpoint.checkpointId = expectedCheckpointId)
        (.conflict "outer audit 要求最新完整 Stage 2 checkpoint")
      ensure (decision = .implementationFailure ∨ task.sideEffects.count SideEffect.unresolved = 0)
        (.unsafeState "存在 unresolved SideEffect，不能提交 outer audit")
      return decidedTask store task fence found.2
        (newCheckpoint store found.2 (some expectedCheckpointId) (some checkpoint) stateHash
          statePayload fence.ownerEpoch) decision

/-! ## What the services do to a task -/

/-- The commits of the inner loop and of the provider wiring, and the suppression of a repeated
question: they add checkpoints, effects and versions, and the last two may block the task and its
attempt. -/
structure Noted (task after : ResearchTask Digest) : Prop where
  key : after.taskId = task.taskId
  attempts : after.attempts = task.attempts ∨ (after.status = .blocked ∧ ∃ attemptId,
    after.attempts = task.attempts.modify attemptId
      ⟨fun attempt => { attempt with status := .blocked }, fun _ => rfl⟩)
  status : after.status = task.status ∨ after.status = .blocked

/-- The rows of a task that another one gives rise to: `derive_task` makes it blocked with a blocked
attempt, a continuation of the knowledge service makes it ready without one. -/
structure Derived (taskId : String) (nextId : Nat) (child : ResearchTask Digest) : Prop where
  key : child.taskId = taskId
  status : child.status = .blocked ∨ child.status = .ready
  attempts : ∀ attemptId, (child.attempts.lookup attemptId).isSome = true → attemptId = nextId

section Steps

variable [DecidableEq Digest] (hashing : Hashing Digest) (policy : ControlPolicy)
  (reservationMs : Nat) (taskId : String)

/-- One transaction of any service on the task, or a status reading. -/
inductive OperationStep (store : ControlStore Digest) : ControlStore Digest → Prop where
  | input (action : InputAction) :
      OperationStep store (stepInputs hashing policy taskId store action)
  | ledger (leaseClock : Instant) (call : LedgerCall) (after : ResearchTask Digest)
      (row : ExecutionMetadata)
      (ran : runLedger reservationMs store.kernel taskId leaseClock call = .ok (after, row)) :
      OperationStep store ⟨store.kernel.write after, store.rows⟩
  | outer (task : ResearchTask Digest) (fence : Fence) (leaseClock : Instant)
      (attemptId expectedCheckpointId : Nat) (stateHash statePayload : String)
      (decision : OuterDecision) (after : ResearchTask Digest)
      (isTask : store.kernel.tasks.lookup taskId = some task)
      (settled : settleOuter store.kernel task fence leaseClock attemptId expectedCheckpointId
        stateHash statePayload decision = .ok after) :
      OperationStep store
        ⟨⟨store.kernel.tasks.assign after, store.kernel.nextId + 2⟩, store.rows⟩
  | noted (task after : ResearchTask Digest)
      (isTask : store.kernel.tasks.lookup taskId = some task) (noted : Noted task after) :
      OperationStep store ⟨store.kernel.write after, store.rows⟩
  | derived (child : ResearchTask Digest) (absent : store.kernel.tasks.lookup taskId = none)
      (derived : Derived taskId store.kernel.nextId child) :
      OperationStep store ⟨store.kernel.write child, store.rows⟩

/-- The states of the store that the services lead to. -/
def Reachable (store : ControlStore Digest) : Prop :=
  Relation.ReflTransGen (OperationStep hashing policy reservationMs taskId) ControlStore.empty store

end Steps

/-! ## A running task has an unfinished attempt -/

/-- Some attempt of the task is not terminal. -/
def HasUnfinished (task : ResearchTask Digest) : Prop :=
  ∃ attemptId status, task.attemptStatus attemptId = some status ∧ status ≠ .terminal

theorem HasUnfinished.active {task : ResearchTask Digest} (unfinished : HasUnfinished task) :
    ∃ attempt, task.activeAttempt = some attempt := by
  obtain ⟨attemptId, status, isStatus, notEnded⟩ := unfinished
  cases isActive : task.activeAttempt with
  | none => exact absurd (activeAttempt_none isActive isStatus) notEnded
  | some attempt => exact ⟨attempt, rfl⟩

theorem HasUnfinished.of_same {task after : ResearchTask Digest} (unfinished : HasUnfinished task)
    (same : ∀ attemptId, after.attemptStatus attemptId = task.attemptStatus attemptId) :
    HasUnfinished after := by
  obtain ⟨attemptId, status, isStatus, notEnded⟩ := unfinished
  exact ⟨attemptId, status, (same attemptId).trans isStatus, notEnded⟩

theorem hasUnfinished_running {task after : ResearchTask Digest} {attemptId : Nat}
    {before : AttemptStatus} (isThere : task.attemptStatus attemptId = some before)
    {change : Change Attempt.attemptId}
    (attempts : after.attempts = task.attempts.modify attemptId change)
    (runs : ∀ row, (change.apply row).status = .running) : HasUnfinished after := by
  refine ⟨attemptId, .running, ?_, by decide⟩
  rw [ResearchTask.attemptStatus, attempts]
  exact ResearchTask.attemptStatus_changeAttempt_self runs isThere

theorem hasUnfinished_insert {after : ResearchTask Digest} {attempts : Table Attempt.attemptId}
    {attempt : Attempt} (inserted : after.attempts = attempts.insert attempt)
    (free : attempts.lookup attempt.attemptId = none) (runs : attempt.status = .running) :
    HasUnfinished after := by
  refine ⟨attempt.attemptId, .running, ?_, by decide⟩
  rw [ResearchTask.attemptStatus, inserted, Table.lookup_insert_self free, Option.map_some, runs]

/-- The status says that the task runs only while an attempt is unfinished, and the numbers of its
attempts are used up. -/
structure RunsSound (nextId : Nat) (task : ResearchTask Digest) : Prop where
  runs : task.status = .running → HasUnfinished task
  used : ∀ attemptId, (task.attempts.lookup attemptId).isSome = true → attemptId < nextId

namespace RunsSound

variable {nextId : Nat} {task after : ResearchTask Digest}

theorem free (sound : RunsSound nextId task) : task.attempts.lookup nextId = none := by
  by_contra taken
  exact Nat.lt_irrefl _ (sound.used nextId (Option.isSome_iff_ne_none.mpr taken))

theorem mono (sound : RunsSound nextId task) {greater : Nat} (grown : nextId ≤ greater) :
    RunsSound greater task :=
  ⟨sound.runs, fun attemptId isThere => (sound.used attemptId isThere).trans_le grown⟩

/-- A step that adds at most the attempt with the next number. -/
theorem onward (sound : RunsSound nextId task)
    (from_ : AttemptsFrom nextId task.attempts after.attempts)
    (runs : after.status = .running → HasUnfinished after) : RunsSound (nextId + 1) after := by
  refine ⟨runs, fun attemptId isThere => ?_⟩
  rcases from_ attemptId isThere with rfl | wasThere
  · exact Nat.lt_succ_self _
  · exact (sound.used attemptId wasThere).trans (Nat.lt_succ_self _)

theorem still (sound : RunsSound nextId task) (attempts : after.attempts = task.attempts)
    (status : after.status = .running → task.status = .running) :
    RunsSound (nextId + 1) after := by
  refine sound.onward (attempts ▸ .refl _) fun isRunning => ?_
  refine (sound.runs (status isRunning)).of_same fun attemptId => ?_
  rw [ResearchTask.attemptStatus, attempts, ResearchTask.attemptStatus]

end RunsSound

section Kernel

variable {hashing : Hashing Digest} {store : KernelStore Digest} {call : Call}
  {task : ResearchTask Digest} {commit : Commit Digest}

theorem Performed.recovered_status (performed : Performed hashing store call task commit)
    {fence : Fence} (isCommand : call.command = .recoverInFlight fence)
    (found : abandoned task fence.ownerEpoch ≠ []) : commit.1.status = .blocked := by
  cases performed with
  | recovered other isOther =>
      obtain rfl := Command.recoverInFlight.inj (isCommand.symm.trans isOther)
      simp [recoveredTask, found]
  | _ => simp_all

theorem Performed.completed_status (performed : Performed hashing store call task commit)
    (isCommand : ∃ fence attemptId answer reason failure detail terminal next checkpointId,
      call.command = .completeAttempt fence attemptId answer reason failure detail terminal next
        checkpointId) : commit.1.status ≠ .running := by
  obtain ⟨fence, attemptId, answer, reason, failure, detail, terminal, next, checkpointId,
    isCommand⟩ := isCommand
  cases performed with
  | completed fence attempt result terminal next isOther fenced holds continues =>
      change (if terminal = true then TaskStatus.terminal else next) ≠ .running
      rcases continues with isTerminal | continues
      · rw [if_pos isTerminal]
        decide
      · split
        · decide
        · rintro rfl
          simp [TaskStatus.continues] at continues
  | _ => simp_all

/-- A command of the kernel keeps an unfinished attempt under a running task. -/
theorem RunsSound.performed (sound : RunsSound store.nextId task)
    (performed : Performed hashing store call task commit) :
    RunsSound (store.nextId + 1) commit.1 := by
  refine sound.onward performed.attemptsMove.attemptsFrom fun isRunning => ?_
  cases performed.attemptsMove with
  | still attempts ids checkpoints status =>
      rcases status with same | ⟨fence, isCommand, found⟩
      · exact (sound.runs (same ▸ isRunning)).of_same attempts
      · rw [performed.recovered_status isCommand found] at isRunning
        cases isRunning
  | started attempt idle isNext isRunningAttempt attempts =>
      exact hasUnfinished_insert attempts (isNext ▸ sound.free) isRunningAttempt
  | checkpointed fence attempt expected payload operation checkpoint isCommand member unfinished
      isNext checkpoints attempts =>
      rcases attempts with ⟨same, status⟩ | running
      · refine (sound.runs (status ▸ isRunning)).of_same fun attemptId => ?_
        rw [ResearchTask.attemptStatus, same, ResearchTask.attemptStatus]
      · have isThere := ResearchTask.attemptStatus_eq_some.mpr ⟨attempt, member, rfl, rfl⟩
        exact hasUnfinished_running isThere running fun _ => rfl
  | completed attempt resultId isCommand =>
      obtain ⟨fence, answer, reason, failure, detail, terminal, next, checkpointId, isCommand⟩ :=
        isCommand
      exact absurd isRunning (performed.completed_status
        ⟨fence, _, answer, reason, failure, detail, terminal, next, checkpointId, isCommand⟩)

end Kernel

section Control

variable {store : KernelStore Digest} {rows : ControlRows} {call : ControlCall}
  {task : ResearchTask Digest} {commit : ControlCommit Digest}

/-- So does a command of the control service. -/
theorem RunsSound.control (sound : RunsSound store.nextId task)
    (move : ControlMove store rows call task commit) :
    RunsSound (store.nextId + 1) commit.task := by
  refine sound.onward move.attemptsFrom fun isRunning => ?_
  cases move with
  | resumed attempt checkpoint authority version checkpointId generation reason isCommand isActive =>
      obtain ⟨member, -⟩ := activeAttempt_some isActive
      have isThere : task.fenced.attemptStatus attempt.attemptId = some attempt.status :=
        (ResearchTask.attemptStatus_bindAttempts _).trans
          (ResearchTask.attemptStatus_eq_some.mpr ⟨attempt, member, rfl, rfl⟩)
      exact hasUnfinished_running isThere rfl fun _ => rfl
  | clarified request attempt goal =>
      refine hasUnfinished_insert rfl ?_ rfl
      change ((task.fenced.attempts.modify attempt.attemptId _).lookup store.nextId) = none
      rw [Table.modify, Table.lookup_updateWhere, ResearchTask.fenced]
      change ((Table.lookup (task.attempts.updateWhere _ _) store.nextId).map _) = none
      rw [Table.lookup_updateWhere, sound.free]
      rfl
  | interrupted => cases isRunning
  | cancelled =>
      have ended : (cancelledTask store task task.activeAttempt).status ≠ .running := by
        unfold cancelledTask
        split
        · exact fun same => TaskStatus.noConfusion same
        · cases task.activeAttempt <;> exact fun same => TaskStatus.noConfusion same
      exact absurd isRunning ended
  | asked fence attempt checkpointId kind prompt choices schema constraintId expiresAt isCommand
      member status =>
      have same : task.status = .running := isRunning
      rw [status] at same
      cases same
  | _ => cases isRunning

end Control

/-! ## Every state the services lead to -/

/-- The invariant of the store, for the task. -/
def StoreRuns (taskId : String) (store : ControlStore Digest) : Prop :=
  ∀ task, store.kernel.tasks.lookup taskId = some task → RunsSound store.kernel.nextId task

section Runs

variable {hashing : Hashing Digest} {policy : ControlPolicy} {reservationMs : Nat}
  {taskId : String} {store after : ControlStore Digest}

/-- The task that is written back is the one the invariant speaks of. -/
theorem StoreRuns.of_assign {kernel : KernelStore Digest} {rows : ControlRows} {nextId : Nat}
    {task : ResearchTask Digest} (key : task.taskId = taskId) (sound : RunsSound nextId task) :
    StoreRuns taskId ⟨⟨kernel.tasks.assign task, nextId⟩, rows⟩ := by
  intro found isFound
  have written : (kernel.write task).tasks.lookup taskId = some task := write_lookup_self key
  obtain rfl := Option.some.inj (written.symm.trans isFound)
  exact sound

theorem StoreRuns.control (runs : StoreRuns taskId store) {call : ControlCall}
    {response : ControlResponse}
    (done : transactControl policy taskId store call = .ok (response, after)) :
    StoreRuns taskId after := by
  rcases transactControl_ok done with rfl | ⟨task, commit, isTask, performed, -, rfl⟩
  · exact runs
  · have move := performControl_move (Table.mem_of_lookup isTask) performed
    exact .of_assign (move.key.trans (taskId_of_lookup isTask)) ((runs task isTask).control move)

theorem StoreRuns.getStatus (runs : StoreRuns taskId store) {now : Instant} {view : StatusView}
    (done : getStatus taskId store now = .ok (view, after)) : StoreRuns taskId after := by
  obtain ⟨task, isTask, rfl⟩ := getStatus_ok done
  have key := taskId_of_lookup isTask
  split
  · exact .of_assign key ((runs task isTask).still rfl id)
  · exact .of_assign key ((runs task isTask).still rfl id)

theorem RunsSound.outer {kernel : KernelStore Digest} {task : ResearchTask Digest}
    (sound : RunsSound kernel.nextId task) (fence : Fence) (attempt : Attempt)
    (audited : Checkpoint) (decision : OuterDecision) :
    RunsSound (kernel.nextId + 1) (decidedTask kernel task fence attempt audited decision) := by
  cases decision with
  | targetedContinue childHash childPayload =>
      refine sound.onward ((AttemptsFrom.modify _ _).trans (.insert rfl)) fun _ => ?_
      refine hasUnfinished_insert rfl ?_ rfl
      change ((task.attempts.modify attempt.attemptId _).lookup kernel.nextId) = none
      rw [Table.modify, Table.lookup_updateWhere, sound.free]
      rfl
  | conclude => exact sound.onward (.modify _ _) (by intros; contradiction)
  | implementationFailure => exact sound.onward (.modify _ _) (by intros; contradiction)

theorem runLedger_ok {leaseClock : Instant} {call : LedgerCall} {task : ResearchTask Digest}
    {row : ExecutionMetadata} {kernel : KernelStore Digest}
    (ran : runLedger reservationMs kernel taskId leaseClock call = .ok (task, row)) :
    ∃ before, kernel.tasks.lookup taskId = some before ∧
      task = { before with execution := some row } := by
  obtain ⟨before, isTask, ran⟩ := bind_eq_ok.mp ran
  obtain ⟨later, -, ran⟩ := bind_eq_ok.mp ran
  obtain ⟨rfl, rfl⟩ := Prod.mk.inj (pure_eq_ok.mp ran)
  exact ⟨before, KernelStore.task_ok isTask, rfl⟩

theorem settleOuter_ok {kernel : KernelStore Digest} {task later : ResearchTask Digest}
    {fence : Fence} {leaseClock : Instant} {attemptId expectedCheckpointId : Nat}
    {stateHash statePayload : String} {decision : OuterDecision}
    (settled : settleOuter kernel task fence leaseClock attemptId expectedCheckpointId stateHash
      statePayload decision = .ok later) :
    ∃ attempt audited, later = decidedTask kernel task fence attempt audited decision := by
  obtain ⟨found, -, settled⟩ := bind_eq_ok.mp settled
  obtain ⟨-, settled⟩ := fence_then_eq_ok.mp settled
  obtain ⟨-, settled⟩ := ensure_then_eq_ok.mp settled
  obtain ⟨-, settled⟩ := ensure_then_eq_ok.mp settled
  cases latest : task.latestCheckpoint attemptId with
  | none =>
      rw [latest] at settled
      cases settled
  | some checkpoint =>
      rw [latest] at settled
      obtain ⟨-, settled⟩ := ensure_then_eq_ok.mp settled
      obtain ⟨-, settled⟩ := ensure_then_eq_ok.mp settled
      exact ⟨_, _, (pure_eq_ok.mp settled).symm⟩

variable [DecidableEq Digest]

theorem StoreRuns.kernel (runs : StoreRuns taskId store) (call : Call) :
    StoreRuns taskId { store with kernel := stepKernel hashing store.kernel call } := by
  intro after isAfter
  change (stepKernel hashing store.kernel call).tasks.lookup taskId = some after at isAfter
  rcases stepKernel_nextId hashing store.kernel call with same | next
  · rw [same] at isAfter ⊢
    exact runs after isAfter
  · rw [next]
    cases isTask : store.kernel.tasks.lookup taskId with
    | none =>
        obtain ⟨commit, created, -, -, rfl⟩ := stepKernel_absent isTask isAfter
        have status : (commit.1.insertReceipt (receiptOf hashing call commit)).status = .ready :=
          created.status
        refine ⟨fun isRunning => ?_, fun attemptId isThere => ?_⟩
        · rw [status] at isRunning
          cases isRunning
        · change (commit.1.attempts.lookup attemptId).isSome = true at isThere
          rw [created.attempts] at isThere
          cases isThere
    | some task =>
        obtain ⟨later, isLater, step⟩ := stepKernel_task hashing call isTask
        obtain rfl := Option.some.inj (isLater.symm.trans isAfter)
        cases step with
        | kept => exact (runs task isTask).mono (Nat.le_succ _)
        | audited stored isCall => exact (runs task isTask).still rfl id
        | performed commit isCall checked isNew performed =>
            have moved := (runs task isTask).performed performed
            exact ⟨moved.runs, moved.used⟩

theorem StoreRuns.input (runs : StoreRuns taskId store) (action : InputAction) :
    StoreRuns taskId (stepInputs hashing policy taskId store action) := by
  cases action with
  | kernel call =>
      change StoreRuns taskId (kernelCall hashing taskId store call)
      unfold kernelCall
      split
      · exact runs
      · exact runs.kernel call
  | control call =>
      cases done : transactControl policy taskId store call with
      | error failure =>
          simp only [stepInputs, done]
          exact runs
      | ok result =>
          simp only [stepInputs, done]
          exact runs.control done
  | getStatus now =>
      cases done : Research.getStatus taskId store now with
      | error failure =>
          simp only [stepInputs, done]
          exact runs
      | ok result =>
          simp only [stepInputs, done]
          exact runs.getStatus done

theorem StoreRuns.step (runs : StoreRuns taskId store)
    (step : OperationStep hashing policy reservationMs taskId store after) :
    StoreRuns taskId after := by
  cases step with
  | input action => exact runs.input action
  | ledger leaseClock call later row ran =>
      obtain ⟨task, isTask, rfl⟩ := runLedger_ok ran
      have key := taskId_of_lookup isTask
      exact .of_assign key ((runs task isTask).still rfl id)
  | outer task fence leaseClock attemptId expectedCheckpointId stateHash statePayload decision later
      isTask settled =>
      obtain ⟨attempt, audited, rfl⟩ := settleOuter_ok settled
      have decided := (runs task isTask).outer fence attempt audited decision
      have key : (decidedTask store.kernel task fence attempt audited decision).taskId = taskId := by
        rw [← taskId_of_lookup isTask]
        cases decision <;> rfl
      exact .of_assign key (decided.mono (Nat.le_succ _))
  | noted task later isTask noted =>
      have key := noted.key.trans (taskId_of_lookup isTask)
      refine .of_assign key ?_
      have quiet : later.status = .running → task.status = .running := by
        intro isRunning
        rcases noted.status with same | blocked
        · exact same ▸ isRunning
        · rw [blocked] at isRunning
          cases isRunning
      rcases noted.attempts with same | ⟨blocked, attemptId, changed⟩
      · exact (runs task isTask).still same quiet
      · refine (runs task isTask).onward (changed ▸ .modify _ _) fun isRunning => ?_
        rw [blocked] at isRunning
        cases isRunning
  | derived child absent derived =>
      refine .of_assign derived.key ⟨fun isRunning => ?_, fun attemptId isThere => ?_⟩
      · rcases derived.status with blocked | ready
        · rw [blocked] at isRunning
          cases isRunning
        · rw [ready] at isRunning
          cases isRunning
      · rw [derived.attempts attemptId isThere]
        exact Nat.lt_succ_self _

end Runs

/-! ## The operations that are listed -/

/-- The latest checkpoint of the active attempt, as a caller reads it. -/
def ResearchTask.currentCheckpoint (task : ResearchTask Digest) : Option Checkpoint :=
  task.activeAttempt.bind fun attempt => task.latestCheckpoint attempt.attemptId

/-- A control command of an admitted principal, under a new command id, with the state version, the
control generation and the checkpoint of now. -/
structure CurrentCall (policy : ControlPolicy) (store : ControlStore Digest)
    (task : ResearchTask Digest) (kind : ControlKind) (call : ControlCall) : Prop where
  isCommand : ∃ reason, call.command = .applyControl kind task.stateVersion
    (task.currentCheckpoint.map Checkpoint.checkpointId) store.rows.controlGeneration reason
  allowed : policy.allows call.principalId ("control:" ++ kind.value) = true
  unused : Unused store task call

/-- The command returns. -/
def Admits (policy : ControlPolicy) (taskId : String) (store : ControlStore Digest)
    (call : ControlCall) : Prop :=
  ∃ result, transactControl policy taskId store call = .ok result

/-- The active attempt has a checkpoint, and a pause on it that nothing has consumed. -/
def Lineage (rows : ControlRows) (task : ResearchTask Digest) : Prop :=
  ∃ attempt checkpoint authority, task.activeAttempt = some attempt ∧
    task.latestCheckpoint attempt.attemptId = some checkpoint ∧
    resumeAuthority rows attempt.attemptId checkpoint.checkpointId task = some authority

/-- The time ledger does not stand against the pause lineage, if there is one. -/
def TimeAllows (rows : ControlRows) (task : ResearchTask Digest) : Prop :=
  Lineage rows task → ∀ execution, task.execution = some execution →
    execution.timingStatus ≠ .uncertain ∧ execution.timingStatus ≠ .exhausted

section Offered

variable {policy : ControlPolicy} {taskId : String} {store : ControlStore Digest}
  {task : ResearchTask Digest} {call : ControlCall} {kind : ControlKind}

theorem Lineage.paused {rows : ControlRows} (lineage : Lineage rows task) :
    task.status = .blocked ∨ task.status = .waitingUser := by
  obtain ⟨attempt, checkpoint, authority, -, -, authorized⟩ := lineage
  by_contra moving
  rw [not_or] at moving
  rw [resumeAuthority, if_pos moving] at authorized
  cases authorized

theorem Lineage.nonterminal {rows : ControlRows} (lineage : Lineage rows task) :
    task.status ≠ .terminal := by
  rcases lineage.paused with blocked | waiting
  · rw [blocked]
    decide
  · rw [waiting]
    decide

theorem resume_listed_iff {rows : ControlRows} :
    "resume" ∈ allowedOperations rows task ↔ Lineage rows task := by
  by_cases ended : task.status = .terminal
  · constructor
    · simp [allowedOperations, ended]
    · intro lineage
      exact absurd ended lineage.nonterminal
  · have others : "resume" ∉
        ["cancel", "derive"] ++ (if task.status = .running then ["interrupt"] else []) := by
      split <;> simp
    simp only [allowedOperations, if_neg ended, List.mem_append] at others ⊢
    rw [or_iff_right others]
    cases isActive : task.activeAttempt with
    | none => simp [Lineage, isActive]
    | some attempt =>
        cases latest : task.latestCheckpoint attempt.attemptId with
        | none => simp [Lineage, isActive, latest]
        | some checkpoint =>
            simp [Lineage, isActive, latest, Option.isSome_iff_exists]

theorem interrupt_listed {rows : ControlRows} (listed : "interrupt" ∈ allowedOperations rows task) :
    task.status = .running := by
  unfold allowedOperations at listed
  split at listed
  · cases listed
  · simp only [List.mem_append] at listed
    by_contra idle
    rcases listed with (known | running) | resume
    · simp at known
    · simp [idle] at running
    · rw [List.mem_ite_nil_right] at resume
      simp at resume

theorem cancel_listed {rows : ControlRows} (listed : "cancel" ∈ allowedOperations rows task) :
    task.status ≠ .terminal := by
  intro ended
  simp [allowedOperations, ended] at listed

/-- A current call gets as far as the body of its command. -/
theorem CurrentCall.admits_iff (current : CurrentCall policy store task kind call)
    (isTask : store.kernel.tasks.lookup taskId = some task) :
    Admits policy taskId store call ↔
      ∃ commit, performControl policy store.kernel store.rows call task = .ok commit := by
  obtain ⟨reason, isCommand⟩ := current.isCommand
  have admitted : precheckControl policy call = .ok () := by
    simp only [precheckControl, ControlCommand.capability, isCommand, ControlPolicy.require,
      ensure_true current.allowed]
    rfl
  rw [Admits, transactControl_new isTask admitted current.unused]
  cases performControl policy store.kernel store.rows call task <;> simp [Except.map]

/-- Where the task is not over, the guards every control command makes pass on a call of now. -/
theorem applyControl_current {rows : ControlRows} {kernel : KernelStore Digest} {reason : String}
    (nonterminal : task.status ≠ .terminal) :
    applyControl kernel rows call task kind task.stateVersion
        (task.currentCheckpoint.map Checkpoint.checkpointId) rows.controlGeneration reason =
      let admitted := admitControl kernel rows call task kind
        (task.activeAttempt.map Attempt.attemptId) task.stateVersion
        (task.currentCheckpoint.map Checkpoint.checkpointId) rows.controlGeneration
      match kind, task.activeAttempt, task.currentCheckpoint with
      | .cancel, attempt, _ =>
          return applyCancel kernel rows call task attempt task.stateVersion
            (task.currentCheckpoint.map Checkpoint.checkpointId) admitted reason
      | kind, none, _ => .error (.unsafeState (kind.value ++ " requires an active Attempt"))
      | .interrupt, some attempt, latest =>
          return applyInterrupt kernel rows task attempt latest task.stateVersion admitted reason
      | .resume, some _, none =>
          .error (.unsafeState "resume requires a complete current checkpoint")
      | .resume, some attempt, some checkpoint => do
          match resumeAuthority rows attempt.attemptId checkpoint.checkpointId task with
          | none => .error (.unsafeState "resume lacks unconsumed current pause lineage")
          | some authority => do
              assertResumable task.execution
              return applyResume kernel rows task attempt checkpoint authority task.stateVersion
                admitted reason := by
  have going : task.assertNonterminal = .ok () := ensure_true nonterminal _
  have version : assertControlExpected task.toTaskRow rows task.stateVersion
      rows.controlGeneration = .ok () := by
    rw [assertControlExpected, ensure_true rfl]
    exact ensure_true rfl _
  have latest : assertCheckpoint task.currentCheckpoint
      (task.currentCheckpoint.map Checkpoint.checkpointId) = .ok () := ensure_true rfl _
  rw [applyControl, going, version]
  change (assertCheckpoint task.currentCheckpoint _ >>= _) = _
  rw [latest]
  rfl

theorem resume_applies_iff {rows : ControlRows} {kernel : KernelStore Digest} {reason : String}
    (nonterminal : task.status ≠ .terminal) :
    (∃ commit, applyControl kernel rows call task .resume task.stateVersion
        (task.currentCheckpoint.map Checkpoint.checkpointId) rows.controlGeneration reason =
          .ok commit) ↔
      Lineage rows task ∧ assertResumable task.execution = .ok () := by
  rw [applyControl_current nonterminal]
  cases isActive : task.activeAttempt with
  | none => simp [Lineage, isActive]
  | some attempt =>
      cases latest : task.latestCheckpoint attempt.attemptId with
      | none => simp [Lineage, ResearchTask.currentCheckpoint, isActive, latest]
      | some checkpoint =>
          cases authorized : resumeAuthority rows attempt.attemptId checkpoint.checkpointId task with
          | none => simp [Lineage, ResearchTask.currentCheckpoint, isActive, latest, authorized]
          | some authority =>
              cases assertResumable task.execution <;>
                simp [Lineage, ResearchTask.currentCheckpoint, isActive, latest, authorized, bind,
                  Except.bind, pure, Except.pure]

theorem assertResumable_ok_iff {execution : Option ExecutionMetadata} :
    assertResumable execution = .ok () ↔ ∀ row, execution = some row →
      row.timingStatus ≠ .uncertain ∧ row.timingStatus ≠ .exhausted := by
  cases execution with
  | none => simp [assertResumable]
  | some row => simp [assertResumable, assertTiming, ensure_eq_ok]

/-- What a reader is shown of the operations is computed from the state the reading leaves. -/
theorem getStatus_operations {now : Instant} {view : StatusView} {after : ControlStore Digest}
    (shown : getStatus taskId store now = .ok (view, after))
    (isTask : after.kernel.tasks.lookup taskId = some task) :
    view.allowedOperations = allowedOperations after.rows task := by
  obtain ⟨before, isBefore, shown⟩ := bind_eq_ok.mp shown
  obtain ⟨rfl, rfl⟩ := Prod.mk.inj (pure_eq_ok.mp shown)
  have key : before.taskId = taskId := by
    exact taskId_of_lookup (KernelStore.task_ok isBefore)
  have kept : (if (store.rows.expireOpenInputs now).2 = [] then before
      else before.advanced).taskId = taskId := by
    split <;> exact key
  obtain rfl := Option.some.inj ((write_lookup_self kept).symm.trans isTask)
  rfl

/-- What the listed operations are worth in the state `get_status` leaves. -/
structure OperationsAgree (policy : ControlPolicy) (taskId : String) (store : ControlStore Digest)
    (task : ResearchTask Digest) (allowed : List String) : Prop where
  /-- A resume is listed exactly when it succeeds, exactly when the time ledger allows it. -/
  resume : ∀ call, CurrentCall policy store task .resume call →
    (("resume" ∈ allowed ↔ Admits policy taskId store call) ↔ TimeAllows store.rows task)
  interrupt : ∀ call, CurrentCall policy store task .interrupt call → "interrupt" ∈ allowed →
    Admits policy taskId store call
  cancel : ∀ call, CurrentCall policy store task .cancel call → "cancel" ∈ allowed →
    Admits policy taskId store call

theorem RunsSound.operationsAgree {nextId : Nat} (sound : RunsSound nextId task)
    (isTask : store.kernel.tasks.lookup taskId = some task) :
    OperationsAgree policy taskId store task (allowedOperations store.rows task) where
  resume := by
    intro call current
    obtain ⟨reason, isCommand⟩ := current.isCommand
    rw [current.admits_iff isTask, performControl, isCommand, resume_listed_iff, TimeAllows,
      ← assertResumable_ok_iff]
    constructor
    · intro agree lineage
      exact ((resume_applies_iff lineage.nonterminal).mp (agree.mp lineage)).2
    · intro timed
      constructor
      · intro lineage
        exact (resume_applies_iff lineage.nonterminal).mpr ⟨lineage, timed lineage⟩
      · rintro ⟨commit, performed⟩
        obtain ⟨nonterminal, -⟩ := ensure_then_eq_ok.mp performed
        exact ((resume_applies_iff nonterminal).mp ⟨commit, performed⟩).1
  interrupt := by
    intro call current listed
    have isRunning := interrupt_listed listed
    obtain ⟨reason, isCommand⟩ := current.isCommand
    obtain ⟨attempt, isActive⟩ := (sound.runs isRunning).active
    rw [current.admits_iff isTask, performControl, isCommand]
    have nonterminal : task.status ≠ .terminal := by
      rw [isRunning]
      decide
    simp only [applyControl_current nonterminal, isActive]
    exact ⟨_, rfl⟩
  cancel := by
    intro call current listed
    obtain ⟨reason, isCommand⟩ := current.isCommand
    rw [current.admits_iff isTask, performControl, isCommand]
    simp only [applyControl_current (cancel_listed listed)]
    exact ⟨_, rfl⟩

end Offered

theorem Reachable.runs [DecidableEq Digest] {hashing : Hashing Digest} {policy : ControlPolicy}
    {reservationMs : Nat} {taskId : String} {store : ControlStore Digest}
    (reached : Reachable hashing policy reservationMs taskId store) : StoreRuns taskId store := by
  induction reached with
  | refl => exact fun _ absent => nomatch absent
  | tail _ step sound => exact sound.step step

/-- In every state the services lead to, what `get_status` lists agrees with what `apply_control`
does, up to a resume that the time ledger stands against. -/
theorem offered_operations [DecidableEq Digest] (hashing : Hashing Digest) (policy : ControlPolicy)
    (reservationMs : Nat) (taskId : String) {store after : ControlStore Digest}
    (reached : Reachable hashing policy reservationMs taskId store) {now : Instant}
    {view : StatusView} (shown : getStatus taskId store now = .ok (view, after))
    {task : ResearchTask Digest} (isTask : after.kernel.tasks.lookup taskId = some task) :
    OperationsAgree policy taskId after task view.allowedOperations := by
  rw [getStatus_operations shown isTask]
  exact ((reached.runs.getStatus shown) task isTask).operationsAgree isTask

/-! ## A resume that is offered and refused -/

/-- A task with a budget of active time, whose attempt has a checkpoint. -/
def timedRun : List InputAction :=
  [ kernelAt "create" (.createTask "objective" [] "" none none
      (some ⟨"v1", 60000, .queued, .queued, "run", none⟩))
  , kernelAt "claim" (.claimOwner "owner" 0 60)
  , kernelAt "start" (.startAttempt (ownerFence 1) .initial none none none)
  , kernelAt "checkpoint" (.commitCheckpoint (ownerFence 2) 2 none "" .commitCheckpoint) ]

/-- The store after one call of the ledger on the task. -/
def ledgerAfter (store : ControlStore Command) (call : LedgerCall) : ControlStore Command :=
  match runLedger 5000 store.kernel "task" 0 call with
  | .ok (after, _) => ⟨store.kernel.write after, store.rows⟩
  | .error _ => store

theorem reachable_inputs {store : ControlStore Command}
    (reached : Reachable plainHashing openPolicy 5000 "task" store) (actions : List InputAction) :
    Reachable plainHashing openPolicy 5000 "task"
      (runFrom (stepInputs plainHashing openPolicy "task") store actions) :=
  invariant_run (fun _ action reached => reached.tail (.input action)) reached actions

theorem reachable_ledger {store : ControlStore Command}
    (reached : Reachable plainHashing openPolicy 5000 "task" store) (call : LedgerCall) :
    Reachable plainHashing openPolicy 5000 "task" (ledgerAfter store call) := by
  unfold ledgerAfter
  split
  · rename_i after row ran
    exact reached.tail (.ledger 0 call after row ran)
  · exact reached

/-- The ledger begins a segment and finds its time uncertain; then the user interrupts. -/
def uncertainStore : ControlStore Command :=
  runFrom (stepInputs plainHashing openPolicy "task")
    (ledgerAfter
      (ledgerAfter (runFrom (stepInputs plainHashing openPolicy "task") ControlStore.empty timedRun)
        (.beginSegment "owner" 1))
      (.tick ⟨4, "owner", 1⟩ 0 .uncertain))
    [.control (controlAt 0 "interrupt" (.applyControl .interrupt 3 (some 3) 0 ""))]

theorem reachable_uncertainStore :
    Reachable plainHashing openPolicy 5000 "task" uncertainStore :=
  reachable_inputs (reachable_ledger (reachable_ledger (reachable_inputs .refl timedRun) _) _) _

/-- The reading that follows, and the task it leaves. -/
def shownStatus : StatusView × ControlStore Command :=
  (getStatus "task" uncertainStore 0).toOption.get (by decide +kernel)

def shownTask : ResearchTask Command :=
  (shownStatus.2.kernel.tasks.lookup "task").get (by decide +kernel)

theorem toOption_eq_some {Failure Result : Type} {outcome : Except Failure Result}
    {result : Result} (isSome : outcome.toOption = some result) : outcome = .ok result := by
  cases outcome with
  | error failure => cases isSome
  | ok other => rw [Option.some.inj isSome]

theorem shown_uncertain : getStatus "task" uncertainStore 0 = .ok shownStatus :=
  toOption_eq_some (Option.some_get _).symm

theorem lookup_shownTask : shownStatus.2.kernel.tasks.lookup "task" = some shownTask :=
  (Option.some_get _).symm

theorem offered_operations_uncertain :
    OperationsAgree openPolicy "task" shownStatus.2 shownTask shownStatus.1.allowedOperations :=
  offered_operations plainHashing openPolicy 5000 "task" reachable_uncertainStore shown_uncertain
    lookup_shownTask

def resumeCall : ControlCall :=
  controlAt 0 "resume" (.applyControl .resume 4 (some 6) 1 "")

/-- The resume is listed, and the call of now that makes it raises. -/
theorem resume_offered_refused :
    Reachable plainHashing openPolicy 5000 "task" uncertainStore ∧
      getStatus "task" uncertainStore 0 = .ok shownStatus ∧
      CurrentCall openPolicy shownStatus.2 shownTask .resume resumeCall ∧
      "resume" ∈ shownStatus.1.allowedOperations ∧
      ¬Admits openPolicy "task" shownStatus.2 resumeCall := by
  have isCommand : resumeCall.command = .applyControl .resume shownTask.stateVersion
      (shownTask.currentCheckpoint.map Checkpoint.checkpointId)
      shownStatus.2.rows.controlGeneration "" := by decide +kernel
  have control : ∀ receipt ∈ shownStatus.2.rows.receipts,
      receipt.commandId ≠ resumeCall.commandId := by decide +kernel
  have kernel : (shownTask.receipt resumeCall.commandId).isNone = true := by decide +kernel
  have refused : (transactControl openPolicy "task" shownStatus.2 resumeCall).toOption.isNone =
      true := by decide +kernel
  refine ⟨reachable_uncertainStore, shown_uncertain,
    ⟨⟨"", isCommand⟩, rfl, ⟨control, Option.isNone_iff_eq_none.mp kernel⟩⟩, by decide +kernel, ?_⟩
  rintro ⟨result, admitted⟩
  rw [admitted] at refused
  cases refused

end Shiliu.Research
