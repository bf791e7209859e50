/-
Module: Shiliu.Research.ControlMoves
Purpose: What the kernel and the control service can do to the attempts, the checkpoints and the
  questions of a task, said once for each command. Statuses of attempts are read by id, so that a
  command that only fences or renews is an equation, and every other one names the attempt it moves.
Trusted boundary: none
Main exports: AttemptsMove, Performed.attemptsMove, statusesOf, ControlMove, performControl_move
-/
import Shiliu.Research.Control
import Shiliu.Research.KernelSafety

set_option linter.all false

namespace Shiliu.Research

open Shiliu.Library Shiliu.Storage

variable {Digest : Type}

/-! ## Statuses of attempts -/

namespace ResearchTask

variable {task : ResearchTask Digest} {attemptId : Nat}

theorem attemptStatus_eq_some {status : AttemptStatus} :
    task.attemptStatus attemptId = some status ↔
      ∃ attempt ∈ task.attempts, attempt.attemptId = attemptId ∧ attempt.status = status := by
  rw [attemptStatus, Option.map_eq_some_iff]
  constructor
  · rintro ⟨attempt, found, isStatus⟩
    obtain ⟨member, isAttempt⟩ := Table.lookup_eq_some.mp found
    exact ⟨attempt, member, isAttempt, isStatus⟩
  · rintro ⟨attempt, member, isAttempt, isStatus⟩
    exact ⟨attempt, Table.lookup_eq_some.mpr ⟨member, isAttempt⟩, isStatus⟩

variable {change : Change Attempt.attemptId}

theorem attemptStatus_updateWhere {select : Attempt → Bool}
    (keeps : ∀ attempt, (change.apply attempt).status = attempt.status) :
    ((task.attempts.updateWhere select change).lookup attemptId).map Attempt.status =
      task.attemptStatus attemptId := by
  rw [Table.lookup_updateWhere, attemptStatus, Option.map_map]
  congr 1
  funext attempt
  simp only [Function.comp_apply]
  split
  · exact keeps attempt
  · rfl

@[simp] theorem attemptStatus_bindAttempts (ownerEpoch : Nat) :
    (task.bindAttempts ownerEpoch).attemptStatus attemptId = task.attemptStatus attemptId :=
  attemptStatus_updateWhere fun _ => rfl

theorem attemptStatus_changeAttempt_of_ne {other : Nat} (different : attemptId ≠ other) :
    (task.changeAttempt other change).attemptStatus attemptId = task.attemptStatus attemptId := by
  rw [attemptStatus, changeAttempt, Table.lookup_modify_of_ne different, attemptStatus]

theorem attemptStatus_changeAttempt_self {status : AttemptStatus}
    (sets : ∀ attempt, (change.apply attempt).status = status) {before : AttemptStatus}
    (isThere : task.attemptStatus attemptId = some before) :
    (task.changeAttempt attemptId change).attemptStatus attemptId = some status := by
  obtain ⟨attempt, found, -⟩ := Option.map_eq_some_iff.mp isThere
  rw [attemptStatus, changeAttempt, Table.lookup_modify_self, found]
  exact congrArg some (sets attempt)

end ResearchTask

/-- No attempt of the task waits for its user. -/
def NoneWaiting (task : ResearchTask Digest) : Prop :=
  ∀ attemptId, task.attemptStatus attemptId ≠ some .waitingUser

/-- Two attempts that are not terminal are one. -/
def OneUnfinished (task : ResearchTask Digest) : Prop :=
  ∀ one other oneStatus otherStatus, task.attemptStatus one = some oneStatus →
    task.attemptStatus other = some otherStatus → oneStatus ≠ .terminal →
    otherStatus ≠ .terminal → one = other

section Unfinished

variable {task after : ResearchTask Digest} {attemptId : Nat} {status : AttemptStatus}

theorem OneUnfinished.same (one : OneUnfinished task)
    (same : ∀ attemptId, after.attemptStatus attemptId = task.attemptStatus attemptId) :
    OneUnfinished after := by
  intro first second firstStatus secondStatus isFirst isSecond
  rw [same] at isFirst isSecond
  exact one first second firstStatus secondStatus isFirst isSecond

theorem OneUnfinished.others (one : OneUnfinished task)
    (isThere : task.attemptStatus attemptId = some status) (unfinished : status ≠ .terminal)
    {change : Change Attempt.attemptId} {other : Nat} {otherStatus : AttemptStatus}
    (isOther : (task.changeAttempt attemptId change).attemptStatus other = some otherStatus)
    (otherUnfinished : otherStatus ≠ .terminal) : other = attemptId := by
  by_contra different
  rw [ResearchTask.attemptStatus_changeAttempt_of_ne different] at isOther
  exact different (one other attemptId otherStatus status isOther isThere otherUnfinished unfinished)

theorem OneUnfinished.changeAttempt (one : OneUnfinished task)
    (isThere : task.attemptStatus attemptId = some status) (unfinished : status ≠ .terminal)
    (change : Change Attempt.attemptId) : OneUnfinished (task.changeAttempt attemptId change) := by
  intro first second firstStatus secondStatus isFirst isSecond firstOpen secondOpen
  rw [one.others isThere unfinished isFirst firstOpen, one.others isThere unfinished isSecond
    secondOpen]

theorem OneUnfinished.stop (one : OneUnfinished task)
    (isThere : task.attemptStatus attemptId = some status) (unfinished : status ≠ .terminal)
    {change : Change Attempt.attemptId}
    (attempts : after.attempts = task.attempts.modify attemptId change) (next : AttemptStatus)
    (sets : ∀ attempt, (change.apply attempt).status = next) (active : next ≠ .waitingUser) :
    OneUnfinished after ∧ NoneWaiting after := by
  have statuses : ∀ other,
      after.attemptStatus other = (task.changeAttempt attemptId change).attemptStatus other := by
    intro other
    rw [ResearchTask.attemptStatus, attempts]
    rfl
  refine ⟨(one.changeAttempt isThere unfinished change).same statuses, fun other waits => ?_⟩
  rw [statuses] at waits
  obtain rfl := one.others isThere unfinished waits nofun
  rw [ResearchTask.attemptStatus_changeAttempt_self sets isThere] at waits
  exact active (Option.some.inj waits)

variable {attempt : Attempt}

theorem oneUnfinished_insert (attempts : after.attempts = task.attempts.insert attempt)
    (idle : ∀ attemptId status, task.attemptStatus attemptId = some status → status = .terminal) :
    OneUnfinished after ∧ (attempt.status ≠ .waitingUser → NoneWaiting after) := by
  have isNew : ∀ other status, after.attemptStatus other = some status → status ≠ .terminal →
      other = attempt.attemptId ∧ status = attempt.status := by
    intro other status isOther unfinished
    rw [ResearchTask.attemptStatus, attempts] at isOther
    obtain ⟨found, lookup, rfl⟩ := Option.map_eq_some_iff.mp isOther
    rcases Table.lookup_insert_cases lookup with old | ⟨-, isKey, rfl⟩
    · exact absurd (idle other found.status (by rw [ResearchTask.attemptStatus, old]; rfl))
        unfinished
    · exact ⟨isKey, rfl⟩
  refine ⟨?_, ?_⟩
  · intro one other oneStatus otherStatus isOne isOther oneOpen otherOpen
    rw [(isNew one _ isOne oneOpen).1, (isNew other _ isOther otherOpen).1]
  · intro active other waits
    exact active (isNew other _ waits nofun).2.symm

theorem activeAttempt_some (isActive : task.activeAttempt = some attempt) :
    attempt ∈ task.attempts ∧ attempt.status ≠ .terminal := by
  have member := List.argmax_mem (Option.mem_def.mpr isActive)
  obtain ⟨isAttempt, unfinished⟩ := List.mem_filter.mp member
  exact ⟨isAttempt, by simpa [Attempt.unfinished] using unfinished⟩

theorem activeAttempt_none (isActive : task.activeAttempt = none)
    (isThere : task.attemptStatus attemptId = some status) : status = .terminal := by
  obtain ⟨attempt, member, -, rfl⟩ := ResearchTask.attemptStatus_eq_some.mp isThere
  have none := List.filter_eq_nil_iff.mp (List.argmax_eq_none.mp isActive) attempt member
  simpa [Attempt.unfinished] using none

theorem OneUnfinished.ended (one : OneUnfinished task) {resultId other : Nat}
    {otherStatus : AttemptStatus} (isThere : task.attemptStatus attempt.attemptId = some status)
    (unfinished : status ≠ .terminal)
    (isOther : (task.endAttempt (some attempt) resultId).attemptStatus other = some otherStatus) :
    otherStatus = .terminal := by
  by_contra otherUnfinished
  obtain rfl := one.others isThere unfinished isOther otherUnfinished
  have ends : (task.endAttempt (some attempt) resultId).attemptStatus attempt.attemptId =
      some .terminal := ResearchTask.attemptStatus_changeAttempt_self (fun _ => rfl) isThere
  rw [ends] at isOther
  exact otherUnfinished (Option.some.inj isOther).symm

theorem OneUnfinished.endActive (base : ResearchTask Digest) (one : OneUnfinished task)
    (statuses : ∀ attemptId, base.attemptStatus attemptId = task.attemptStatus attemptId)
    (resultId : Nat) :
    OneUnfinished (base.endAttempt task.activeAttempt resultId) ∧
      NoneWaiting (base.endAttempt task.activeAttempt resultId) := by
  cases isActive : task.activeAttempt with
  | none =>
      refine ⟨one.same statuses, fun other waits => ?_⟩
      rw [ResearchTask.endAttempt, statuses] at waits
      nomatch activeAttempt_none isActive waits
  | some attempt =>
      obtain ⟨member, unfinished⟩ := activeAttempt_some isActive
      have isThere : base.attemptStatus attempt.attemptId = some attempt.status :=
        (statuses _).trans (ResearchTask.attemptStatus_eq_some.mpr ⟨attempt, member, rfl, rfl⟩)
      exact (one.same statuses).stop isThere unfinished rfl .terminal (fun _ => rfl) (by decide)

end Unfinished

/-! ## The latest checkpoint -/

theorem latestCheckpoint_append {task after : ResearchTask Digest} {checkpoint : Checkpoint}
    (appended : after.checkpoints = task.checkpoints ++ [checkpoint])
    (isNext : checkpoint.sequence =
      ((task.latestCheckpoint checkpoint.attemptId).map Checkpoint.sequence).getD 0 + 1)
    (attemptId : Nat) :
    after.latestCheckpoint attemptId =
      if checkpoint.attemptId = attemptId then some checkpoint
      else task.latestCheckpoint attemptId := by
  have split : after.checkpointsOf attemptId = task.checkpointsOf attemptId ++
      [checkpoint].filter fun row => row.attemptId = attemptId := by
    rw [ResearchTask.checkpointsOf, appended, List.filter_append, ResearchTask.checkpointsOf]
  by_cases same : checkpoint.attemptId = attemptId
  · subst same
    rw [ResearchTask.latestCheckpoint, split, List.filter_singleton, decide_eq_true rfl, cond_true,
      List.argmax_concat, if_pos rfl]
    rw [ResearchTask.latestCheckpoint] at isNext
    cases latest : (task.checkpointsOf checkpoint.attemptId).argmax Checkpoint.sequence with
    | none => rfl
    | some last =>
        have later : last.sequence < checkpoint.sequence := by
          rw [isNext, latest]
          exact Nat.lt_succ_self _
        simp only [if_pos later]
  · rw [ResearchTask.latestCheckpoint, split, List.filter_singleton, decide_eq_false same,
      cond_false, List.append_nil, if_neg same, ResearchTask.latestCheckpoint]

theorem latestCheckpoint_same {task after : ResearchTask Digest}
    (same : after.checkpoints = task.checkpoints) (attemptId : Nat) :
    after.latestCheckpoint attemptId = task.latestCheckpoint attemptId := by
  rw [ResearchTask.latestCheckpoint, ResearchTask.checkpointsOf, same,
    ResearchTask.latestCheckpoint, ResearchTask.checkpointsOf]

/-! ## What the kernel does to the attempts -/

/-- How a body of the kernel moves the attempts and the checkpoints of its task. -/
inductive AttemptsMove (nextId : Nat) (call : Call) (task after : ResearchTask Digest) : Prop where
  /-- Only a recovery that finds effects of an earlier owner blocks the task. -/
  | still (attempts : ∀ attemptId, after.attemptStatus attemptId = task.attemptStatus attemptId)
      (ids : ∀ attempt ∈ after.attempts, ∃ before ∈ task.attempts,
        before.attemptId = attempt.attemptId)
      (checkpoints : after.checkpoints = task.checkpoints)
      (status : after.status = task.status ∨
        ∃ fence, call.command = .recoverInFlight fence ∧ abandoned task fence.ownerEpoch ≠ [])
  | started (attempt : Attempt) (idle : ∀ attempt ∈ task.attempts, attempt.unfinished = false)
      (isNext : attempt.attemptId = nextId) (isRunning : attempt.status = .running)
      (attempts : after.attempts = task.attempts.insert attempt)
      (checkpoints : after.checkpoints = task.checkpoints)
  | checkpointed (fence : Fence) (attempt : Attempt) (expected : Option Nat) (payload : String)
      (operation : CheckpointOperation) (checkpoint : Checkpoint)
      (isCommand : call.command =
        .commitCheckpoint fence attempt.attemptId expected payload operation)
      (member : attempt ∈ task.attempts) (unfinished : attempt.unfinished = true)
      (isNext : checkpoint.checkpointId = nextId ∧ checkpoint.attemptId = attempt.attemptId ∧
        checkpoint.sequence =
          ((task.latestCheckpoint checkpoint.attemptId).map Checkpoint.sequence).getD 0 + 1)
      (checkpoints : after.checkpoints = task.checkpoints ++ [checkpoint])
      (attempts : (after.attempts = task.attempts ∧ after.status = task.status) ∨
        after.attempts = task.attempts.modify attempt.attemptId
          ⟨fun attempt => { attempt with status := .running }, fun _ => rfl⟩)
  | completed (attempt : Attempt) (resultId : Nat)
      (isCommand : ∃ fence answer reason failure detail terminal next checkpointId,
        call.command = .completeAttempt fence attempt.attemptId answer reason failure detail terminal
          next checkpointId)
      (member : attempt ∈ task.attempts) (unfinished : attempt.unfinished = true)
      (attempts : after.attempts = task.attempts.modify attempt.attemptId
        ⟨fun attempt => { attempt with status := .terminal, resultId := some resultId },
          fun _ => rfl⟩)
      (checkpoints : after.checkpoints = task.checkpoints)

section Kernel

variable {hashing : Hashing Digest} {store : KernelStore Digest} {call : Call}
  {task : ResearchTask Digest}

theorem AttemptsMove.of_attempts {nextId : Nat} {after : ResearchTask Digest}
    (attempts : after.attempts = task.attempts) (checkpoints : after.checkpoints = task.checkpoints)
    (status : after.status = task.status ∨
      ∃ fence, call.command = .recoverInFlight fence ∧ abandoned task fence.ownerEpoch ≠ []) :
    AttemptsMove nextId call task after := by
  refine .still (fun attemptId => ?_) (fun attempt member => ⟨attempt, attempts ▸ member, rfl⟩)
    checkpoints status
  rw [ResearchTask.attemptStatus, attempts, ResearchTask.attemptStatus]

theorem Performed.attemptsMove {commit : Commit Digest}
    (performed : Performed hashing store call task commit) :
    AttemptsMove store.nextId call task commit.1 := by
  cases performed with
  | claimed ownerId expected leaseSeconds =>
      have frame := EffectsOnly.foldl (EffectsOnly.rebindEffect call (task.lease.epoch + 1))
        { task.advanced.bindAttempts (task.lease.epoch + 1) with
          lease := task.lease.grant ownerId (leaseUntil call.grantClock leaseSeconds) }
        (takenOver task (task.lease.epoch + 1))
      have attempts : (claimedTask call task ownerId
          (leaseUntil call.grantClock leaseSeconds)).attempts =
            (task.bindAttempts (task.lease.epoch + 1)).attempts := frame.attempts
      have status : (claimedTask call task ownerId
          (leaseUntil call.grantClock leaseSeconds)).status = task.status := by
        have same := congrArg TaskRow.status frame.row
        exact same
      refine .still (fun attemptId => ?_) (fun attempt member => ?_) frame.checkpoints (.inl status)
      · rw [ResearchTask.attemptStatus, attempts]
        exact ResearchTask.attemptStatus_bindAttempts (task.lease.epoch + 1)
      · rw [attempts] at member
        obtain ⟨before, isBefore, rfl⟩ := Table.mem_updateWhere.mp member
        refine ⟨before, isBefore, ?_⟩
        split <;> rfl
  | started fence cause parent source enqueue execution isCommand fenced idle =>
      exact .started _ (TaskSafe.idle_of_count idle) rfl rfl rfl rfl
  | revised fence objective constraints policy isCommand fenced idle =>
      exact .started _ (TaskSafe.idle_of_count idle) rfl rfl rfl rfl
  | checkpointed fence attempt attemptId expected payload operation isCommand fenced holds latest =>
      obtain rfl := holds.isAttempt
      cases operation with
      | commitCheckpoint =>
          exact .checkpointed fence attempt expected payload _ _ isCommand holds.member
            holds.unfinished ⟨rfl, rfl, rfl⟩ rfl (.inl ⟨rfl, rfl⟩)
      | resumeAttempt =>
          exact .checkpointed fence attempt expected payload _ _ isCommand holds.member
            holds.unfinished ⟨rfl, rfl, rfl⟩ rfl (.inr rfl)
  | completed fence attempt result terminal next isCommand fenced holds =>
      have same := holds.isAttempt
      refine .completed attempt result.resultId
        ⟨_, _, _, _, _, _, _, _, same ▸ isCommand⟩ holds.member holds.unfinished ?_ rfl
      rw [same]
      rfl
  | recovered fence isCommand fenced =>
      have frame := EffectsOnly.foldl (EffectsOnly.markUnknown call fence.ownerEpoch) task
        (abandoned task fence.ownerEpoch)
      refine .of_attempts frame.attempts frame.checkpoints ?_
      by_cases none : abandoned task fence.ownerEpoch = []
      · left
        simp [recoveredTask, none]
      · exact .inr ⟨fence, isCommand, none⟩
  | _ => exact .of_attempts rfl rfl (.inl rfl)

end Kernel

/-! ## The statuses of a question -/

namespace ControlRows

variable {rows : ControlRows}

/-- The statuses of a request, oldest first. -/
def statusesOf (rows : ControlRows) (inputRequestId : Nat) : List InputStatus :=
  (rows.dispositionsOf inputRequestId).map InputDisposition.status

variable {inputRequestId : Nat}

theorem isOpen_iff :
    rows.isOpen inputRequestId = true ↔
      (rows.statusesOf inputRequestId).getLast? = some .opened := by
  rw [isOpen, decide_eq_true_iff, latestInputDisposition, statusesOf, List.getLast?_map]

theorem disposed_iff :
    rows.disposed inputRequestId = true ↔
      ∃ status ∈ rows.statusesOf inputRequestId, status ≠ .opened := by
  simp [disposed, statusesOf]

theorem statusesOf_insert (inputRequestId other : Nat) (status : InputStatus) (reason : String)
    (resultingReference : Option Nat) :
    (rows.insertInputDisposition inputRequestId status reason resultingReference).statusesOf
        other =
      rows.statusesOf other ++ if inputRequestId = other then [status] else [] := by
  by_cases same : inputRequestId = other <;>
    simp [statusesOf, dispositionsOf, insertInputDisposition, same]

theorem statusesOf_disposeAll {requests : List InputRequest}
    (unique : (requests.map InputRequest.inputRequestId).Nodup) (status : InputStatus)
    (reason : String) (resultingReference : Option Nat) (other : Nat) :
    (rows.disposeAll requests status reason resultingReference).statusesOf other =
      rows.statusesOf other ++
        if other ∈ requests.map InputRequest.inputRequestId then [status] else [] := by
  induction requests generalizing rows with
  | nil => simp [disposeAll]
  | cons request rest inductionHypothesis =>
      obtain ⟨fresh, restUnique⟩ := List.nodup_cons.mp unique
      have next := @inductionHypothesis
        (rows.insertInputDisposition request.inputRequestId status reason resultingReference)
        restUnique
      rw [disposeAll] at next ⊢
      rw [List.foldl_cons, next, statusesOf_insert]
      by_cases same : request.inputRequestId = other
      · subst same
        simp [fresh]
      · have apart : other ≠ request.inputRequestId := fun isIt => same isIt.symm
        simp [same, apart]

theorem isOpen_of_append {after : ControlRows} {more : List InputStatus}
    (statuses : after.statusesOf inputRequestId = rows.statusesOf inputRequestId ++ more)
    (never : .opened ∉ more) (isOpen : after.isOpen inputRequestId = true) :
    rows.isOpen inputRequestId = true ∧ more = [] := by
  rw [isOpen_iff, statuses] at isOpen
  cases more with
  | nil => exact ⟨isOpen_iff.mpr (by simpa using isOpen), rfl⟩
  | cons status rest =>
      rw [List.getLast?_append_of_ne_nil _ (List.cons_ne_nil status rest)] at isOpen
      exact absurd (List.mem_of_getLast? isOpen) never

theorem disposeAll_frame (rows : ControlRows) (requests : List InputRequest) (status : InputStatus) (reason : String)
    (resultingReference : Option Nat) :
    ∃ dispositions, rows.disposeAll requests status reason resultingReference =
      { rows with inputDispositions := dispositions } := by
  induction requests generalizing rows with
  | nil => exact ⟨rows.inputDispositions, rfl⟩
  | cons request rest inductionHypothesis =>
      obtain ⟨dispositions, same⟩ := inductionHypothesis
        (rows.insertInputDisposition request.inputRequestId status reason resultingReference)
      exact ⟨dispositions, same⟩

/-- An expiry writes dispositions only. -/
theorem expireOpenInputs_frame (rows : ControlRows) (now : Instant) :
    ∃ dispositions, (rows.expireOpenInputs now).1 =
      { rows with inputDispositions := dispositions } :=
  disposeAll_frame rows (rows.dueInputs now) .superseded "expired" none

end ControlRows

/-! ## What a command has checked, and what it leaves -/

section Commands

variable (policy : ControlPolicy) (store : KernelStore Digest) (rows : ControlRows)
  (call : ControlCall) (task : ResearchTask Digest)

/-- The bodies that return. -/
inductive ControlMove : ControlCommit Digest → Prop where
  | interrupted (attempt : Attempt) (version : Nat) (checkpointId : Option Nat) (generation : Nat)
      (reason : String)
      (isCommand : call.command = .applyControl .interrupt version checkpointId generation reason)
      (isActive : task.activeAttempt = some attempt) :
      ControlMove (applyInterrupt store rows task attempt (task.latestCheckpoint attempt.attemptId)
        version (admitControl store rows call task .interrupt (some attempt.attemptId) version
          checkpointId generation) reason)
  | cancelled (version : Nat) (checkpointId : Option Nat) (generation : Nat) (reason : String)
      (isCommand : call.command = .applyControl .cancel version checkpointId generation reason)
      (latest : (task.activeAttempt.bind fun attempt =>
        task.latestCheckpoint attempt.attemptId).map Checkpoint.checkpointId = checkpointId) :
      ControlMove (applyCancel store rows call task task.activeAttempt version checkpointId
        (admitControl store rows call task .cancel (task.activeAttempt.map Attempt.attemptId) version
          checkpointId generation) reason)
  | resumed (attempt : Attempt) (checkpoint : Checkpoint) (authority : ResumeAuthority)
      (version : Nat) (checkpointId : Option Nat) (generation : Nat) (reason : String)
      (isCommand : call.command = .applyControl .resume version checkpointId generation reason)
      (isActive : task.activeAttempt = some attempt)
      (latest : task.latestCheckpoint attempt.attemptId = some checkpoint)
      (authorized : resumeAuthority rows attempt.attemptId checkpoint.checkpointId task =
        some authority) :
      ControlMove (applyResume store rows task attempt checkpoint authority version
        (admitControl store rows call task .resume (some attempt.attemptId) version checkpointId
          generation) reason)
  | asked (fence : Fence) (attempt : Attempt) (checkpointId : Nat) (kind : InputKind)
      (prompt : String) (choices : List String) (schema : Option ResponseSchema)
      (constraintId : Option String) (expiresAt : Option Instant)
      (isCommand : call.command = .createInput fence attempt.attemptId checkpointId kind prompt
        choices schema constraintId expiresAt)
      (member : attempt ∈ task.attempts) (status : task.status = .waitingUser)
      (waits : attempt.status = .waitingUser)
      (latest : (task.latestCheckpoint attempt.attemptId).map Checkpoint.checkpointId =
        some checkpointId)
      (noneOpen : ∀ request ∈ (rows.expireOpenInputs call.now).1.inputRequests,
        (rows.expireOpenInputs call.now).1.disposed request.inputRequestId = true)
      (response : ControlResponse) :
      ControlMove
        { task := task.advanced
          rows := (rows.expireOpenInputs call.now).1.ask (newInputRequest store call fence attempt
            checkpointId kind prompt choices constraintId expiresAt)
          response := response }
  | clarified (request : InputRequest) (attempt : Attempt) (goal : Goal) (version : Nat)
      (generation : Nat) (response : HumanResponse) (action : AppliedAction)
      (result : ControlResult) (answer : ControlResponse)
      (isCommand : call.command = .decideInput request.inputRequestId version generation
        .clarifyGoal response)
      (isRequest : request ∈ rows.inputRequests)
      (undisposed : rows.disposed request.inputRequestId = false)
      (unexpired : request.expired call.checkClock = false)
      (isAttempt : attempt.attemptId = request.attemptId)
      (waits : attempt.status = .waitingUser) :
      ControlMove
        { task := clarifiedTask store task request attempt goal
          rows :=
            { decidedRows store rows call request .clarifyGoal response action with
              results := rows.results ++ [result] }
          response := answer }
  | chosen (request : InputRequest) (attempt : Attempt) (version : Nat) (generation : Nat)
      (response : HumanResponse) (action : AppliedAction) (observation : HumanObservation)
      (answer : ControlResponse)
      (isCommand : call.command = .decideInput request.inputRequestId version generation
        .selectConstraintOption response)
      (isRequest : request ∈ rows.inputRequests)
      (undisposed : rows.disposed request.inputRequestId = false)
      (unexpired : request.expired call.checkClock = false)
      (isAttempt : attempt.attemptId = request.attemptId)
      (waits : attempt.status = .waitingUser) :
      ControlMove
        { task := task.fenced.setStatus attempt.attemptId .blocked .blocked
          rows :=
            { decidedRows store rows call request .selectConstraintOption response action with
              humanObservations := rows.humanObservations ++ [observation] }
          response := answer }
  | resolved (effect : SideEffect) (version generation : Nat) (resolution : EffectResolution)
      (reason : String) (receiptHash reference : Option String) (answer : ControlResponse)
      (isCommand : call.command = .resolveSideEffect effect.sideEffectId version generation
        resolution reason receiptHash reference) :
      ControlMove
        { task :=
            { resolvedEffect task effect resolution receiptHash reference with status := .blocked }
          rows := resolutionRows store rows call task effect.sideEffectId resolution reason
            receiptHash reference
          response := answer }
  | resolvedLast (effect : SideEffect) (version generation : Nat) (resolution : EffectResolution)
      (reason : String) (receiptHash reference : Option String) (result : ControlResult)
      (answer : ControlResponse)
      (isCommand : call.command = .resolveSideEffect effect.sideEffectId version generation
        resolution reason receiptHash reference) :
      ControlMove
        { task := terminalCancel store
            (resolvedEffect task effect resolution receiptHash reference) task.activeAttempt
          rows :=
            { resolutionRows store rows call task effect.sideEffectId resolution reason
                receiptHash reference with
              results := rows.results ++ [result] }
          response := answer }
  | waiting (fence : Fence) (attempt : Attempt) (checkpoint : Checkpoint) (answer : ControlResponse)
      (isCommand : call.command = .advanceOuter fence attempt.attemptId checkpoint.checkpointId)
      (fenced : FenceHolds task.toTaskRow fence call.leaseClock)
      (member : attempt ∈ task.attempts) (isRunning : attempt.status = .running)
      (latest : task.latestCheckpoint attempt.attemptId = some checkpoint) :
      ControlMove
        { task :=
            { task.advanced with
              checkpoints := task.checkpoints ++
                [newCheckpoint store attempt (some checkpoint.checkpointId) (some checkpoint)
                  call.audit.stateHash call.audit.statePayload fence.ownerEpoch] }.setStatus
              attempt.attemptId .waitingUser .waitingUser
          rows := { rows with constraintSpecs := rows.constraintSpecs ++ call.audit.specs }
          response := answer }

variable {policy store rows call task}

theorem controlExpected_then {expectedStateVersion expectedControlGeneration : Nat}
    {Result : Type} {next : Unit → Except ResearchFailure Result} {result : Result}
    (performed : (assertControlExpected task.toTaskRow rows expectedStateVersion
      expectedControlGeneration >>= next) = .ok result) : next () = .ok result := by
  obtain ⟨done, -, performed⟩ := bind_eq_ok.mp performed
  exact performed

theorem attempt_id {attemptId : Nat} {found : String × Attempt}
    (isFound : store.attempt attemptId = .ok found) : found.2.attemptId = attemptId := by
  unfold KernelStore.attempt at isFound
  split at isFound
  case h_2 => nomatch isFound
  case h_1 hit search =>
      obtain rfl := Except.ok.inj isFound
      obtain ⟨home, -, lookup⟩ := List.exists_of_findSome?_eq_some search
      obtain ⟨attempt, isAttempt, rfl⟩ := Option.map_eq_some_iff.mp lookup
      exact (Table.lookup_eq_some.mp isAttempt).2

variable {version generation : Nat} {commit : ControlCommit Digest}

theorem applyControl_move {kind : ControlKind} {checkpointId : Option Nat} {reason : String}
    (isCommand : call.command = .applyControl kind version checkpointId generation reason)
    (performed : applyControl store rows call task kind version checkpointId generation reason =
      .ok commit) : ControlMove store rows call task commit := by
  obtain ⟨-, performed⟩ := ensure_then_eq_ok.mp performed
  have performed := controlExpected_then performed
  obtain ⟨latest, performed⟩ := ensure_then_eq_ok.mp performed
  cases isActive : task.activeAttempt with
  | none =>
      rw [isActive] at performed
      cases kind with
      | cancel =>
          obtain rfl := pure_eq_ok.mp performed
          have move : ControlMove store rows call task _ :=
            .cancelled version checkpointId generation reason isCommand latest
          rw [isActive] at move
          exact move
      | interrupt => nomatch performed
      | resume => nomatch performed
  | some attempt =>
      rw [isActive, Option.bind_some] at performed
      cases kind with
      | cancel =>
          obtain rfl := pure_eq_ok.mp performed
          have move : ControlMove store rows call task _ :=
            .cancelled version checkpointId generation reason isCommand latest
          rw [isActive] at move
          exact move
      | interrupt =>
          obtain rfl := pure_eq_ok.mp performed
          exact .interrupted attempt version checkpointId generation reason isCommand isActive
      | resume =>
          cases latest : task.latestCheckpoint attempt.attemptId with
          | none =>
              rw [latest] at performed
              nomatch performed
          | some checkpoint =>
              rw [latest] at performed
              cases authorized : resumeAuthority rows attempt.attemptId checkpoint.checkpointId
                  task with
              | none =>
                  simp only [authorized] at performed
                  nomatch performed
              | some authority =>
                  simp only [authorized] at performed
                  obtain ⟨done, -, performed⟩ := bind_eq_ok.mp performed
                  obtain rfl := pure_eq_ok.mp performed
                  exact .resumed attempt checkpoint authority version checkpointId generation reason
                    isCommand isActive latest authorized

theorem createInput_move {fence : Fence} {attemptId checkpointId : Nat} {kind : InputKind}
    {prompt : String} {choices : List String} {schema : Option ResponseSchema}
    {constraintId : Option String} {expiresAt : Option Instant} (isTask : task ∈ store.tasks)
    (isCommand : call.command = .createInput fence attemptId checkpointId kind prompt choices
      schema constraintId expiresAt)
    (performed : createInput store rows call task fence attemptId checkpointId kind prompt choices
      constraintId expiresAt = .ok commit) : ControlMove store rows call task commit := by
  obtain ⟨found, isFound, performed⟩ := bind_eq_ok.mp performed
  obtain ⟨-, performed⟩ := fence_then_eq_ok.mp performed
  obtain ⟨⟨status, waits⟩, performed⟩ := ensure_then_eq_ok.mp performed
  obtain ⟨same, performed⟩ := ensure_then_eq_ok.mp performed
  obtain ⟨latest, performed⟩ := ensure_then_eq_ok.mp performed
  obtain ⟨noneOpen, performed⟩ := ensure_then_eq_ok.mp performed
  obtain ⟨done, -, performed⟩ := bind_eq_ok.mp performed
  obtain rfl := pure_eq_ok.mp performed
  obtain ⟨member, rfl⟩ := attempt_ok isFound isTask same
  exact .asked fence found.2 checkpointId kind prompt choices schema constraintId expiresAt
    isCommand member status waits latest (List.all_eq_true.mp noneOpen) _

theorem decideInput_move {policy : ControlPolicy} {inputRequestId : Nat}
    {decisionKind : DecisionKind} {response : HumanResponse}
    (isCommand : call.command = .decideInput inputRequestId version generation decisionKind
      response)
    (performed : decideInput store rows call task policy inputRequestId version generation
      decisionKind response = .ok commit) : ControlMove store rows call task commit := by
  obtain ⟨-, performed⟩ := ensure_then_eq_ok.mp performed
  have performed := controlExpected_then performed
  cases lookup : rows.inputRequest inputRequestId with
  | none =>
      rw [lookup] at performed
      nomatch performed
  | some request =>
      have isRequest := List.mem_of_find?_eq_some lookup
      have isId : request.inputRequestId = inputRequestId := by
        simpa using List.find?_some lookup
      subst isId
      rw [lookup] at performed
      obtain ⟨undisposed, performed⟩ := ensure_then_eq_ok.mp performed
      cases isExpired : request.expired call.checkClock with
      | true =>
          simp only [isExpired, if_true] at performed
          split at performed <;> nomatch performed
      | false =>
          simp only [isExpired, Bool.false_eq_true, if_false] at performed
          obtain ⟨done, -, performed⟩ := bind_eq_ok.mp performed
          obtain ⟨found, isFound, performed⟩ := bind_eq_ok.mp performed
          obtain ⟨waits, performed⟩ := ensure_then_eq_ok.mp performed
          have isAttempt := attempt_id isFound
          cases decisionKind with
          | clarifyGoal =>
              obtain ⟨-, performed⟩ := ensure_then_eq_ok.mp performed
              cases constraints : response.successConstraints with
              | none => simp only [constraints] at performed; nomatch performed
              | some constraints' =>
                  simp only [constraints] at performed
                  cases given : response.evidencePolicy with
                  | none => simp only [given] at performed; nomatch performed
                  | some given' =>
                      simp only [given] at performed
                      cases source : task.goals.find? fun goal =>
                          some goal.goalId = found.2.goalId with
                      | none => simp only [source] at performed; nomatch performed
                      | some source' =>
                          simp only [source] at performed
                          obtain rfl := pure_eq_ok.mp performed
                          exact .clarified request found.2 _ version generation response _ _ _
                            isCommand isRequest undisposed isExpired isAttempt waits
          | selectConstraintOption =>
              simp only [selectConstraintOption] at performed
              cases selected : response.selectedOption with
              | none => simp only [selected] at performed; nomatch performed
              | some selected' =>
                  simp only [selected] at performed
                  obtain ⟨-, performed⟩ := ensure_then_eq_ok.mp performed
                  cases spec : request.constraintId.bind rows.constraintSpec with
                  | none => simp only [spec] at performed; nomatch performed
                  | some spec' =>
                      simp only [spec] at performed
                      obtain ⟨-, performed⟩ := ensure_then_eq_ok.mp performed
                      obtain rfl := pure_eq_ok.mp performed
                      exact .chosen request found.2 version generation response _ _ _ isCommand
                        isRequest undisposed isExpired isAttempt waits

theorem resolveSideEffect_move {sideEffectId : Nat} {resolution : EffectResolution}
    {reason : String} {receiptHash reference : Option String} (isTask : task ∈ store.tasks)
    (isCommand : call.command = .resolveSideEffect sideEffectId version generation resolution
      reason receiptHash reference)
    (performed : resolveSideEffect store rows call task sideEffectId version generation resolution
      reason receiptHash reference = .ok commit) : ControlMove store rows call task commit := by
  obtain ⟨-, performed⟩ := ensure_then_eq_ok.mp performed
  have performed := controlExpected_then performed
  obtain ⟨found, isFound, performed⟩ := bind_eq_ok.mp performed
  obtain ⟨⟨same, -⟩, performed⟩ := ensure_then_eq_ok.mp performed
  obtain rfl := (sideEffect_ok isFound isTask same).isEffect
  dsimp only at performed
  split at performed
  case isTrue =>
      obtain rfl := pure_eq_ok.mp performed
      exact .resolvedLast found.2 version generation resolution reason receiptHash reference _ _
        isCommand
  case isFalse =>
      obtain rfl := pure_eq_ok.mp performed
      exact .resolved found.2 version generation resolution reason receiptHash reference _ isCommand

theorem advanceOuter_move {fence : Fence} {attemptId checkpointId : Nat}
    (isTask : task ∈ store.tasks)
    (isCommand : call.command = .advanceOuter fence attemptId checkpointId)
    (performed : advanceOuter store rows call task fence attemptId checkpointId = .ok commit) :
    ControlMove store rows call task commit := by
  obtain ⟨found, isFound, performed⟩ := bind_eq_ok.mp performed
  obtain ⟨fenced, performed⟩ := fence_then_eq_ok.mp performed
  obtain ⟨⟨same, isRunning, -⟩, performed⟩ := ensure_then_eq_ok.mp performed
  obtain ⟨-, performed⟩ := ensure_then_eq_ok.mp performed
  obtain ⟨member, rfl⟩ := attempt_ok isFound isTask same
  cases latest : task.latestCheckpoint found.2.attemptId with
  | none =>
      rw [latest] at performed
      nomatch performed
  | some checkpoint =>
      rw [latest] at performed
      obtain ⟨rfl, performed⟩ := ensure_then_eq_ok.mp performed
      obtain ⟨-, performed⟩ := ensure_then_eq_ok.mp performed
      obtain rfl := pure_eq_ok.mp performed
      exact .waiting fence found.2 checkpoint _ isCommand fenced member isRunning latest

/-- A body that returns is one of the list. -/
theorem performControl_move {policy : ControlPolicy} (isTask : task ∈ store.tasks)
    (performed : performControl policy store rows call task = .ok commit) :
    ControlMove store rows call task commit := by
  unfold performControl at performed
  split at performed
  case h_1 isCommand => exact applyControl_move isCommand performed
  case h_2 isCommand => exact createInput_move isTask isCommand performed
  case h_3 isCommand => exact decideInput_move isCommand performed
  case h_4 isCommand => exact resolveSideEffect_move isTask isCommand performed
  case h_5 isCommand => exact advanceOuter_move isTask isCommand performed

end Commands

end Shiliu.Research
