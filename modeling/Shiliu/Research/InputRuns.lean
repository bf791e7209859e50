/-
Module: Shiliu.Research.InputRuns
Purpose: Questions to the user over every run of the kernel, of the control service and of the status
  reader on one task. In a clean run an open question belongs to the one unfinished attempt, which
  waits on the checkpoint it was asked at, and an attempt that waits without an answerable question
  can be asked one. An answer given after the expiry raises a storage error and leaves nothing, in
  any state.
Trusted boundary: none
Main exports: CleanStep, ControlSound, Answerable, InputsSound, LateAnswer, inputs_answered_once
-/
import Shiliu.Research.InputSafety

set_option linter.all false

namespace Shiliu.Research

open Shiliu.Library Shiliu.Storage

variable {Digest : Type}

/-! ## Attempts of different tasks -/

/-- The attempts of a table are those of another one, and perhaps one with the next number. -/
def AttemptsFrom (nextId : Nat) (before after : Table Attempt.attemptId) : Prop :=
  ∀ attemptId, (after.lookup attemptId).isSome = true →
    attemptId = nextId ∨ (before.lookup attemptId).isSome = true

namespace AttemptsFrom

variable {nextId : Nat} {before middle after : Table Attempt.attemptId}

theorem refl (attempts : Table Attempt.attemptId) : AttemptsFrom nextId attempts attempts :=
  fun _ isThere => .inr isThere

theorem trans (one : AttemptsFrom nextId before middle) (two : AttemptsFrom nextId middle after) :
    AttemptsFrom nextId before after := by
  intro attemptId isThere
  rcases two attemptId isThere with isNext | wasThere
  · exact .inl isNext
  · exact one attemptId wasThere

theorem updateWhere (select : Attempt → Bool) (change : Change Attempt.attemptId) :
    AttemptsFrom nextId before (before.updateWhere select change) := by
  intro attemptId isThere
  rw [Table.lookup_updateWhere, Option.isSome_map] at isThere
  exact .inr isThere

theorem modify (attemptId : Nat) (change : Change Attempt.attemptId) :
    AttemptsFrom nextId before (before.modify attemptId change) := updateWhere _ change

theorem insert {attempt : Attempt} (isNext : attempt.attemptId = nextId) :
    AttemptsFrom nextId before (before.insert attempt) := by
  intro attemptId isThere
  obtain ⟨found, lookup⟩ := Option.isSome_iff_exists.mp isThere
  rcases Table.lookup_insert_cases lookup with old | ⟨-, isKey, -⟩
  · exact .inr (by rw [old]; rfl)
  · exact .inl (isKey.trans isNext)

end AttemptsFrom

theorem AttemptsMove.attemptsFrom {nextId : Nat} {call : Call} {task later : ResearchTask Digest}
    (move : AttemptsMove nextId call task later) :
    AttemptsFrom nextId task.attempts later.attempts := by
  cases move with
  | still attempts ids =>
      intro attemptId isThere
      obtain ⟨attempt, lookup⟩ := Option.isSome_iff_exists.mp isThere
      obtain ⟨member, rfl⟩ := Table.lookup_eq_some.mp lookup
      obtain ⟨before, isBefore, same⟩ := ids attempt member
      rw [← same, Table.lookup_of_mem isBefore]
      exact .inr rfl
  | started attempt idle isNext isRunning attempts =>
      rw [attempts]
      exact .insert isNext
  | checkpointed fence attempt expected payload operation checkpoint isCommand member unfinished
      isNext checkpoints attempts =>
      rcases attempts with ⟨same, -⟩ | running
      · rw [same]
        exact .refl _
      · rw [running]
        exact .modify _ _
  | completed attempt resultId isCommand member unfinished attempts =>
      rw [attempts]
      exact .modify _ _

theorem endAttempt_attemptsFrom (nextId : Nat) (task : ResearchTask Digest)
    (attempt : Option Attempt) (resultId : Nat) :
    AttemptsFrom nextId task.attempts (task.endAttempt attempt resultId).attempts := by
  cases attempt with
  | none => exact .refl _
  | some attempt => exact .modify _ _

theorem ControlMove.attemptsFrom {store : KernelStore Digest} {rows : ControlRows}
    {call : ControlCall} {task : ResearchTask Digest} {commit : ControlCommit Digest}
    (move : ControlMove store rows call task commit) :
    AttemptsFrom store.nextId task.attempts commit.task.attempts := by
  have fenced : AttemptsFrom store.nextId task.attempts task.fenced.attempts := .updateWhere _ _
  cases move with
  | interrupted attempt =>
      refine fenced.trans ?_
      change AttemptsFrom _ _ (interruptedTask store task attempt _).attempts
      rw [interruptedTask_attempts store attempt]
      exact .modify _ _
  | cancelled version checkpointId generation reason isCommand latest =>
      refine fenced.trans ?_
      change AttemptsFrom _ _ (cancelledTask store task task.activeAttempt).attempts
      dsimp only [cancelledTask]
      split
      case isTrue => exact endAttempt_attemptsFrom store.nextId _ task.activeAttempt store.nextId
      case isFalse =>
          cases task.activeAttempt with
          | none => exact .refl _
          | some attempt => exact .modify _ _
  | resumed => exact fenced.trans (.modify _ _)
  | asked => exact .refl _
  | clarified => exact fenced.trans ((AttemptsFrom.modify _ _).trans (.insert rfl))
  | chosen => exact fenced.trans (.modify _ _)
  | resolved => exact fenced
  | resolvedLast effect version generation resolution reason receiptHash reference =>
      exact fenced.trans (endAttempt_attemptsFrom store.nextId
        (resolvedEffect task effect resolution receiptHash reference) task.activeAttempt store.nextId)
  | waiting => exact .modify _ _

/-- Attempts have numbers that are used up, and different tasks have different ones. -/
structure AttemptsApart (store : KernelStore Digest) : Prop where
  used : ∀ task ∈ store.tasks, ∀ attemptId, (task.attempts.lookup attemptId).isSome = true →
    attemptId < store.nextId
  owned : ∀ one ∈ store.tasks, ∀ other ∈ store.tasks, ∀ attemptId,
    (one.attempts.lookup attemptId).isSome = true →
    (other.attempts.lookup attemptId).isSome = true → one.taskId = other.taskId

theorem AttemptsApart.empty : AttemptsApart (KernelStore.empty : KernelStore Digest) :=
  ⟨(fun _ isTask => nomatch isTask), (fun _ isTask => nomatch isTask)⟩

theorem AttemptsApart.write {store : KernelStore Digest} (apart : AttemptsApart store)
    {after : ResearchTask Digest}
    (attempts : ∀ attemptId, (after.attempts.lookup attemptId).isSome = true →
      attemptId = store.nextId ∨ ∃ before ∈ store.tasks, before.taskId = after.taskId ∧
        (before.attempts.lookup attemptId).isSome = true) :
    AttemptsApart (store.write after) where
  used := by
    intro task isTask attemptId isThere
    rcases Table.mem_assign.mp isTask with rfl | ⟨old, -⟩
    · rcases attempts attemptId isThere with isNext | ⟨before, isBefore, -, wasThere⟩
      · exact isNext ▸ Nat.lt_succ_self _
      · exact Nat.lt_succ_of_lt (apart.used before isBefore attemptId wasThere)
    · exact Nat.lt_succ_of_lt (apart.used task old attemptId isThere)
  owned := by
    have mixed : ∀ other ∈ store.tasks, ∀ attemptId,
        (after.attempts.lookup attemptId).isSome = true →
        (other.attempts.lookup attemptId).isSome = true → after.taskId = other.taskId := by
      intro other isOther attemptId isThere otherThere
      rcases attempts attemptId isThere with isNext | ⟨before, isBefore, same, wasThere⟩
      · have used := apart.used other isOther attemptId otherThere
        omega
      · exact same.symm.trans (apart.owned before isBefore other isOther attemptId wasThere
          otherThere)
    intro one isOne other isOther attemptId oneThere otherThere
    rcases Table.mem_assign.mp isOne with rfl | ⟨oldOne, -⟩ <;>
      rcases Table.mem_assign.mp isOther with rfl | ⟨oldOther, -⟩
    · rfl
    · exact mixed other oldOther attemptId oneThere otherThere
    · exact (mixed one oldOne attemptId otherThere oneThere).symm
    · exact apart.owned one oldOne other oldOther attemptId oneThere otherThere

/-- The lookup across tasks finds an attempt in the task it belongs to. -/
theorem AttemptsApart.attempt {store : KernelStore Digest} (apart : AttemptsApart store)
    {task : ResearchTask Digest} (isTask : task ∈ store.tasks) {attempt : Attempt}
    (member : attempt ∈ task.attempts) :
    store.attempt attempt.attemptId = .ok (task.taskId, attempt) := by
  have isThere := Table.lookup_of_mem member
  unfold KernelStore.attempt
  cases search : store.tasks.rows.findSome? fun home =>
      (home.attempts.lookup attempt.attemptId).map (home.taskId, ·) with
  | none =>
      have missing := List.findSome?_eq_none_iff.mp search task isTask
      rw [isThere] at missing
      nomatch missing
  | some found =>
      obtain ⟨home, isHome, lookup⟩ := List.exists_of_findSome?_eq_some search
      obtain ⟨other, isOther, rfl⟩ := Option.map_eq_some_iff.mp lookup
      have same := apart.owned home isHome task isTask attempt.attemptId (by rw [isOther]; rfl)
        (by rw [isThere]; rfl)
      obtain rfl := Table.eq_of_key (Table.mem_rows.mpr isHome) isTask same
      rw [isThere] at isOther
      obtain rfl := Option.some.inj isOther
      rfl

/-! ## The store -/

/-- What holds of the task, its questions and the other tasks. -/
structure ControlSound (taskId : String) (store : ControlStore Digest) : Prop where
  questions : QuestionsSound store.kernel.nextId store.rows
  absent : store.kernel.tasks.lookup taskId = none → store.rows = ControlRows.empty
  task : ∀ task, store.kernel.tasks.lookup taskId = some task →
    WaitSound store.rows task ∧ Bounded store.kernel.nextId store.rows task
  apart : AttemptsApart store.kernel

/-- A store before its first command. -/
def ControlStore.empty : ControlStore Digest := ⟨KernelStore.empty, ControlRows.empty⟩

theorem ControlSound.empty (taskId : String) :
    ControlSound taskId (ControlStore.empty : ControlStore Digest) where
  questions := QuestionsSound.empty 0
  absent := fun _ => rfl
  task := fun _ isTask => nomatch isTask
  apart := AttemptsApart.empty

section Steps

variable {hashing : Hashing Digest} {policy : ControlPolicy} {taskId : String}
  {store : ControlStore Digest}

theorem waitSound_created {call : Call} {commit : Commit Digest} (created : Created call commit)
    (nextId : Nat) :
    WaitSound ControlRows.empty commit.1 ∧ Bounded nextId ControlRows.empty commit.1 := by
  have nothing : ∀ attemptId, commit.1.attemptStatus attemptId = none := by
    intro attemptId
    rw [ResearchTask.attemptStatus, created.attempts]
    rfl
  have noRow {Row : Type} {holds : Row → Prop} : ∀ row ∈ ([] : List Row), holds row := by simp
  refine ⟨.of_noneWaiting (fun one _ _ _ isOne => ?_) (fun one waits => ?_) noRow,
    ⟨fun checkpoint member => ?_, noRow, noRow, noRow⟩⟩
  · rw [nothing] at isOne
    cases isOne
  · rw [nothing] at waits
    cases waits
  · rw [created.checkpoints] at member
    cases member

variable [DecidableEq Digest]

/-- The call leaves the attempt of an open question alone. -/
def CleanCall (taskId : String) (store : ControlStore Digest) (call : Call) : Prop :=
  ∀ task, store.kernel.tasks.lookup taskId = some task → call.taskId = taskId →
    CleanCommand store.rows task call.command

theorem AttemptsApart.kernel {kernel : KernelStore Digest} (apart : AttemptsApart kernel)
    (call : Call) : AttemptsApart (stepKernel hashing kernel call) := by
  have outline := transact_outline hashing kernel call
  unfold stepKernel
  generalize transact hashing kernel call = outcome at outline
  cases outline with
  | replayed => exact apart
  | raised => exact apart
  | rejected task receipt failure isTask =>
      exact apart.write fun attemptId isThere =>
        .inr ⟨task, Table.mem_of_lookup isTask, rfl, isThere⟩
  | created commit checked absent created =>
      refine apart.write fun attemptId isThere => ?_
      change (commit.1.attempts.lookup attemptId).isSome = true at isThere
      rw [created.attempts] at isThere
      nomatch isThere
  | performed task commit checked isTask isNew performed =>
      refine apart.write fun attemptId isThere => ?_
      rcases performed.attemptsMove.attemptsFrom attemptId isThere with isNext | wasThere
      · exact .inl isNext
      · exact .inr ⟨task, Table.mem_of_lookup isTask, performed.advance.key.symm, wasThere⟩

theorem ControlSound.kernel (sound : ControlSound taskId store) {call : Call}
    (clean : CleanCall taskId store call) :
    ControlSound taskId { store with kernel := stepKernel hashing store.kernel call } where
  questions := sound.questions.mono stepKernel_nextId_le
  absent := by
    intro absent
    refine sound.absent ?_
    cases isTask : store.kernel.tasks.lookup taskId with
    | none => rfl
    | some task =>
        obtain ⟨after, isAfter, -⟩ := stepKernel_task hashing call isTask
        rw [isAfter] at absent
        nomatch absent
  task := by
    intro after isAfter
    rcases stepKernel_nextId hashing store.kernel call with same | next
    · rw [same] at isAfter ⊢
      exact sound.task after isAfter
    · rw [next]
      cases isTask : store.kernel.tasks.lookup taskId with
      | none =>
          obtain ⟨commit, created, -, -, rfl⟩ := stepKernel_absent isTask isAfter
          rw [sound.absent isTask]
          obtain ⟨waits, bounded⟩ := waitSound_created created (store.kernel.nextId + 1)
          exact ⟨waits.congr (fun _ => rfl) (fun _ => rfl) (.inl rfl), { bounded with }⟩
      | some task =>
          obtain ⟨waits, bounded⟩ := sound.task task isTask
          obtain ⟨later, isLater, step⟩ := stepKernel_task hashing call isTask
          obtain rfl := Option.some.inj (isLater.symm.trans isAfter)
          have kept := bounded.mono (Nat.le_succ store.kernel.nextId)
          cases step with
          | kept => exact ⟨waits, kept⟩
          | audited stored isCall =>
              exact ⟨waits.congr (fun _ => rfl) (fun _ => rfl) (.inl rfl), { kept with }⟩
          | performed commit isCall checked isNew performed =>
              have key := taskId_of_lookup isTask
              obtain ⟨moved, boundedMoved⟩ := waits.kernel bounded performed.attemptsMove
                (clean task isTask (isCall.symm.trans key))
              exact ⟨moved.congr (fun _ => rfl) (fun _ => rfl) (.inl rfl),
                { boundedMoved with }⟩
  apart := sound.apart.kernel call

variable {response : ControlResponse} {rows : ControlRows} {now : Instant} {view : StatusView}

omit [DecidableEq Digest] in
/-- A command that answers: from its receipt, or by its body. -/
theorem transactControl_ok {call : ControlCall} {after : ControlStore Digest}
    (done : transactControl policy taskId store call = .ok (response, after)) :
    after = store ∨ ∃ task commit, store.kernel.tasks.lookup taskId = some task ∧
      performControl policy store.kernel store.rows call task = .ok commit ∧
      response = commit.response ∧ after = store.write call commit := by
  obtain ⟨-, -, done⟩ := bind_eq_ok.mp done
  obtain ⟨task, isTask, done⟩ := bind_eq_ok.mp done
  obtain ⟨prior, -, done⟩ := bind_eq_ok.mp done
  cases prior with
  | some answer =>
      obtain ⟨-, rfl⟩ := Prod.mk.inj (pure_eq_ok.mp done)
      exact .inl rfl
  | none =>
      obtain ⟨commit, performed, done⟩ := bind_eq_ok.mp done
      obtain ⟨rfl, rfl⟩ := Prod.mk.inj (pure_eq_ok.mp done)
      exact .inr ⟨task, commit, KernelStore.task_ok isTask, performed, rfl, rfl⟩

omit [DecidableEq Digest] in
theorem ControlMove.key {kernel : KernelStore Digest} {call : ControlCall}
    {task : ResearchTask Digest} {commit : ControlCommit Digest}
    (move : ControlMove kernel rows call task commit) : commit.task.taskId = task.taskId := by
  cases move with
  | interrupted attempt =>
      change (interruptedTask kernel task attempt _).taskId = _
      cases task.latestCheckpoint attempt.attemptId with
      | none => rfl
      | some checkpoint =>
          dsimp only [interruptedTask]
          split <;> rfl
  | cancelled =>
      change (cancelledTask kernel task task.activeAttempt).taskId = _
      dsimp only [cancelledTask]
      cases task.activeAttempt <;> split <;> rfl
  | resolvedLast effect version generation resolution reason receiptHash reference =>
      change ((resolvedEffect task effect resolution receiptHash reference).endAttempt
        task.activeAttempt kernel.nextId).taskId = _
      cases task.activeAttempt <;> rfl
  | _ => rfl

omit [DecidableEq Digest] in
theorem ControlSound.write (sound : ControlSound taskId store) {task after : ResearchTask Digest}
    (isTask : store.kernel.tasks.lookup taskId = some task) (key : after.taskId = task.taskId)
    (questions : QuestionsSound (store.kernel.nextId + 1) rows) (waits : WaitSound rows after)
    (bounded : Bounded (store.kernel.nextId + 1) rows after)
    (attempts : AttemptsFrom store.kernel.nextId task.attempts after.attempts) :
    ControlSound taskId ⟨store.kernel.write after, rows⟩ := by
  have written : (store.kernel.write after).tasks.lookup taskId = some after :=
    write_lookup_self (key.trans (taskId_of_lookup isTask))
  refine ⟨questions, fun absent => ?_, fun found isFound => ?_, sound.apart.write fun attemptId
    isThere => ?_⟩
  · rw [written] at absent
    nomatch absent
  · obtain rfl := Option.some.inj (written.symm.trans isFound)
    exact ⟨waits, bounded⟩
  · exact (attempts attemptId isThere).imp_right fun wasThere =>
      ⟨task, Table.mem_of_lookup isTask, key.symm, wasThere⟩

omit [DecidableEq Digest] in
theorem ControlSound.control (sound : ControlSound taskId store) {call : ControlCall}
    {after : ControlStore Digest} (clean : ∀ task, store.kernel.tasks.lookup taskId = some task →
      CleanControl store.rows task call)
    (done : transactControl policy taskId store call = .ok (response, after)) :
    ControlSound taskId after := by
  rcases transactControl_ok done with rfl | ⟨task, commit, isTask, performed, -, rfl⟩
  · exact sound
  · obtain ⟨waits, bounded⟩ := sound.task task isTask
    have move := performControl_move (Table.mem_of_lookup isTask) performed
    have later := waits.control sound.questions bounded move (clean task isTask)
    exact sound.write isTask move.key ((move.questions sound.questions).same rfl rfl rfl)
      { later with } { bounded.control move with } move.attemptsFrom

omit [DecidableEq Digest] in
theorem getStatus_ok {after : ControlStore Digest}
    (done : getStatus taskId store now = .ok (view, after)) :
    ∃ task, store.kernel.tasks.lookup taskId = some task ∧
      after = ⟨store.kernel.write
        (if (store.rows.expireOpenInputs now).2 = [] then task else task.advanced),
        (store.rows.expireOpenInputs now).1⟩ := by
  obtain ⟨task, isTask, done⟩ := bind_eq_ok.mp done
  obtain ⟨-, rfl⟩ := Prod.mk.inj (pure_eq_ok.mp done)
  exact ⟨task, KernelStore.task_ok isTask, rfl⟩

omit [DecidableEq Digest] in
theorem ControlSound.getStatus (sound : ControlSound taskId store) {after : ControlStore Digest}
    (done : getStatus taskId store now = .ok (view, after)) : ControlSound taskId after := by
  obtain ⟨task, isTask, rfl⟩ := getStatus_ok done
  obtain ⟨waits, bounded⟩ := sound.task task isTask
  have expired := waits.expire sound.questions now
  obtain ⟨dispositions, isRows⟩ := store.rows.expireOpenInputs_frame now
  have kept : Bounded (store.kernel.nextId + 1) (store.rows.expireOpenInputs now).1 task := by
    rw [isRows]
    exact { bounded.mono (Nat.le_succ store.kernel.nextId) with }
  have questions := (sound.questions.expire now).mono (Nat.le_succ store.kernel.nextId)
  split
  case isTrue => exact sound.write isTask rfl questions expired kept (.refl _)
  case isFalse =>
      exact sound.write isTask rfl questions (expired.congr (fun _ => rfl) (fun _ => rfl) (.inl rfl))
        { kept with } (.refl _)

/-- No question is answered after its expiry; and while a question is open nothing moves its
attempt but the answer, a cancel, and what ends the question. -/
def CleanStep (taskId : String) (store : ControlStore Digest) : InputAction → Prop
  | .kernel call => CleanCall taskId store call
  | .control call => ∀ task, store.kernel.tasks.lookup taskId = some task →
      CleanControl store.rows task call
  | .getStatus _ => True

theorem ControlSound.step (sound : ControlSound taskId store) {action : InputAction}
    (clean : CleanStep taskId store action) :
    ControlSound taskId (stepInputs hashing policy taskId store action) := by
  cases action with
  | kernel call =>
      change ControlSound taskId (kernelCall hashing taskId store call)
      unfold kernelCall
      split
      case isTrue => exact sound
      case isFalse => exact sound.kernel clean
  | control call =>
      cases done : transactControl policy taskId store call with
      | error failure =>
          simp only [stepInputs, done]
          exact sound
      | ok result =>
          obtain ⟨response, after⟩ := result
          simp only [stepInputs, done]
          exact sound.control clean done
  | getStatus now =>
      cases done : Research.getStatus taskId store now with
      | error failure =>
          simp only [stepInputs, done]
          exact sound
      | ok result =>
          obtain ⟨view, after⟩ := result
          simp only [stepInputs, done]
          exact sound.getStatus done

theorem ControlSound.run {actions : List InputAction}
    (each : EachStep (stepInputs hashing policy taskId) (CleanStep taskId) ControlStore.empty
      actions) :
    ControlSound taskId (runFrom (stepInputs hashing policy taskId) ControlStore.empty actions) :=
  invariant_run_of_each (fun _ _ sound clean => sound.step clean) (.empty taskId) each

theorem QuestionsSound.step (sound : QuestionsSound store.kernel.nextId store.rows)
    (action : InputAction) :
    QuestionsSound (stepInputs hashing policy taskId store action).kernel.nextId
      (stepInputs hashing policy taskId store action).rows := by
  cases action with
  | kernel call =>
      change QuestionsSound (kernelCall hashing taskId store call).kernel.nextId
        (kernelCall hashing taskId store call).rows
      unfold kernelCall
      split
      case isTrue => exact sound
      case isFalse => exact sound.mono stepKernel_nextId_le
  | control call =>
      cases done : transactControl policy taskId store call with
      | error failure =>
          simp only [stepInputs, done]
          exact sound
      | ok result =>
          obtain ⟨response, after⟩ := result
          simp only [stepInputs, done]
          rcases transactControl_ok done with rfl | ⟨task, commit, isTask, performed, -, rfl⟩
          · exact sound
          · have move := performControl_move (Table.mem_of_lookup isTask) performed
            exact (move.questions sound).same rfl rfl rfl
  | getStatus now =>
      cases done : Research.getStatus taskId store now with
      | error failure =>
          simp only [stepInputs, done]
          exact sound
      | ok result =>
          obtain ⟨view, after⟩ := result
          simp only [stepInputs, done]
          obtain ⟨task, -, rfl⟩ := getStatus_ok done
          exact (sound.expire now).mono (Nat.le_succ store.kernel.nextId)

theorem QuestionsSound.run (actions : List InputAction) :
    QuestionsSound
      (runFrom (stepInputs hashing policy taskId) ControlStore.empty actions).kernel.nextId
      (runFrom (stepInputs hashing policy taskId) ControlStore.empty actions).rows := by
  have kept : ∀ (store : ControlStore Digest) action,
      QuestionsSound store.kernel.nextId store.rows →
      QuestionsSound (stepInputs hashing policy taskId store action).kernel.nextId
        (stepInputs hashing policy taskId store action).rows :=
    fun _ action sound => sound.step action
  exact invariant_run kept (QuestionsSound.empty 0) actions

end Steps

/-! ## Answers and new questions -/

section Calls

variable {policy : ControlPolicy} {taskId : String} {store : ControlStore Digest}
  {task : ResearchTask Digest} {call : ControlCall}

/-- No receipt is recorded under the command. -/
structure Unused (store : ControlStore Digest) (task : ResearchTask Digest) (call : ControlCall) :
    Prop where
  control : ∀ receipt ∈ store.rows.receipts, receipt.commandId ≠ call.commandId
  kernel : task.receipt call.commandId = none

/-- A new command that passes its first checks is what its body makes of it. -/
theorem transactControl_new (isTask : store.kernel.tasks.lookup taskId = some task)
    (admitted : precheckControl policy call = .ok ()) (unused : Unused store task call) :
    transactControl policy taskId store call =
      (performControl policy store.kernel store.rows call task).map fun commit =>
        (commit.response, store.write call commit) := by
  have noReceipt : (store.rows.receipts.find? fun receipt =>
      receipt.commandId = call.commandId) = none := by
    rw [List.find?_eq_none]
    intro receipt isReceipt
    simpa using unused.control receipt isReceipt
  have prior : priorResponse call store.rows task = .ok none := by
    rw [priorResponse, noReceipt]
    simp only [unused.kernel]
  have isThere : store.kernel.task taskId = .ok task := by
    rw [KernelStore.task, isTask]
  rw [transactControl, admitted, isThere]
  change (priorResponse call store.rows task >>= _) = _
  rw [prior]
  change (performControl policy store.kernel store.rows call task >>= _) = _
  cases performControl policy store.kernel store.rows call task <;> rfl

/-- The call answers a question after its expiry, under the version and the generation of now. -/
structure LateAnswer (policy : ControlPolicy) (store : ControlStore Digest)
    (task : ResearchTask Digest) (call : ControlCall) (request : InputRequest) : Prop where
  isCommand : ∃ decisionKind response, call.command = .decideInput request.inputRequestId
    task.stateVersion store.rows.controlGeneration decisionKind response
  isRequest : store.rows.inputRequest request.inputRequestId = some request
  late : request.expired call.checkClock = true
  nonterminal : task.status ≠ .terminal
  admitted : precheckControl policy call = .ok ()
  unused : Unused store task call

theorem ensure_true {condition : Prop} [Decidable condition] (holds : condition)
    (failure : ResearchFailure) : ensure condition failure = .ok () :=
  ensure_eq_ok.mpr holds

variable {request : InputRequest}

theorem LateAnswer.transact (answer : LateAnswer policy store task call request)
    (isTask : store.kernel.tasks.lookup taskId = some task) :
    transactControl policy taskId store call =
      if store.rows.disposed request.inputRequestId = true then
        .error (.conflict "InputRequest already disposed")
      else if request.inputRequestId ∈ (store.rows.expireOpenInputs call.expireClock).2 then
        .error .storageError
      else .error (.conflict "InputRequest expired") := by
  obtain ⟨decisionKind, response, isCommand⟩ := answer.isCommand
  rw [transactControl_new isTask answer.admitted answer.unused, performControl, isCommand]
  simp only [decideInput, TaskRow.assertNonterminal, assertControlExpected,
    ensure_true answer.nonterminal, answer.isRequest, answer.late]
  cases store.rows.disposed request.inputRequestId with
  | true => rfl
  | false =>
      by_cases isDue : request.inputRequestId ∈ (store.rows.expireOpenInputs call.expireClock).2 <;>
        simp [ensure, isDue, explicitCommit, bind, Except.bind, Except.map]

theorem LateAnswer.isDue (answer : LateAnswer policy store task call request)
    (isOpen : store.rows.isOpen request.inputRequestId = true) :
    request.inputRequestId ∈ (store.rows.expireOpenInputs call.expireClock).2 := by
  refine List.mem_map.mpr ⟨request, List.mem_filter.mpr
    ⟨List.mem_of_find?_eq_some answer.isRequest, ?_⟩, rfl⟩
  have late := answer.late
  rw [isOpen, Bool.true_and]
  unfold InputRequest.expired at late ⊢
  cases expiry : request.expiresAt with
  | none => simp [expiry] at late
  | some expiresAt =>
      simp only [expiry, decide_eq_true_eq] at late ⊢
      exact late.trans call.forward

/-- The question is open, its attempt waits, and its expiry has not come. -/
def Answerable (store : ControlStore Digest) (task : ResearchTask Digest) (now : Instant)
    (request : InputRequest) : Prop :=
  store.rows.isOpen request.inputRequestId = true ∧
    task.attemptStatus request.attemptId = some .waitingUser ∧ request.expired now = false

/-- The current owner asks, under a new command, on a checkpoint of an attempt, and what it asks is
a clarification or a choice the server has registered. -/
structure OwnersQuestion (policy : ControlPolicy) (store : ControlStore Digest)
    (task : ResearchTask Digest) (attemptId checkpointId : Nat) (call : ControlCall) : Prop where
  isCommand : ∃ fence kind prompt choices schema constraintId expiresAt,
    call.command = .createInput fence attemptId checkpointId kind prompt choices schema constraintId
      expiresAt ∧ FenceHolds task.toTaskRow fence call.leaseClock ∧
    assertConstraintChoice store.rows task kind choices constraintId = .ok ()
  admitted : precheckControl policy call = .ok ()
  unused : Unused store task call

theorem expire_disposed (questions : QuestionsSound store.kernel.nextId store.rows)
    (waits : WaitSound store.rows task) {now : Instant}
    (unanswerable : ∀ request ∈ store.rows.inputRequests, ¬Answerable store task now request) :
    ∀ request ∈ (store.rows.expireOpenInputs now).1.inputRequests,
      (store.rows.expireOpenInputs now).1.disposed request.inputRequestId = true := by
  intro request isRequest
  obtain ⟨dispositions, expired⟩ := store.rows.expireOpenInputs_frame now
  have isThere : request ∈ store.rows.inputRequests := by rwa [expired] at isRequest
  rw [ControlRows.disposed_iff, questions.statusesOf_expire]
  cases isOpen : store.rows.isOpen request.inputRequestId with
  | false =>
      have disposed : store.rows.disposed request.inputRequestId = true := by
        by_contra undisposed
        rw [Bool.not_eq_true, ← questions.isOpen_iff isThere, isOpen] at undisposed
        nomatch undisposed
      obtain ⟨status, member, ends⟩ := ControlRows.disposed_iff.mp disposed
      exact ⟨status, List.mem_append_left _ member, ends⟩
  | true =>
      have late : request.expired now = true := by
        by_contra unexpired
        exact unanswerable request isThere
          ⟨isOpen, (waits.openWaits request isThere isOpen).1, by simpa using unexpired⟩
      have isDue : request.inputRequestId ∈
          (store.rows.dueInputs now).map InputRequest.inputRequestId :=
        List.mem_map.mpr ⟨request, List.mem_filter.mpr ⟨isThere, by rw [isOpen, late]; rfl⟩, rfl⟩
      rw [if_pos isDue]
      exact ⟨.superseded, by simp, by decide⟩

theorem ControlSound.welcome (sound : ControlSound taskId store)
    (isTask : store.kernel.tasks.lookup taskId = some task) {attemptId checkpointId : Nat}
    (isWaiting : task.attemptStatus attemptId = some .waitingUser)
    (latest : (task.latestCheckpoint attemptId).map Checkpoint.checkpointId = some checkpointId)
    (question : OwnersQuestion policy store task attemptId checkpointId call)
    (unanswerable : ∀ request ∈ store.rows.inputRequests,
      ¬Answerable store task call.now request) :
    ∃ response after, transactControl policy taskId store call = .ok (response, after) ∧
      response.answer = .asked store.kernel.nextId := by
  obtain ⟨fence, kind, prompt, choices, schema, constraintId, expiresAt, isCommand, fenced, allowed⟩ :=
    question.isCommand
  obtain ⟨attempt, member, rfl, waits⟩ := ResearchTask.attemptStatus_eq_some.mp isWaiting
  have found := sound.apart.attempt (Table.mem_of_lookup isTask) member
  have status := (sound.task task isTask).1.taskWaits attempt.attemptId isWaiting
  have disposed := List.all_eq_true.mpr
    (expire_disposed sound.questions (sound.task task isTask).1 unanswerable)
  have fenceOk : task.assertFence fence call.leaseClock = .ok () := assertFence_eq_ok.mpr fenced
  rw [transactControl_new isTask question.admitted question.unused, performControl, isCommand]
  simp only [createInput, found, fenceOk, assertCheckpoint, allowed, ensure_true latest,
    ensure_true disposed]
  simp only [status, waits, ensure, bind, Except.bind, Except.map, pure, Except.pure, and_self,
    if_true]
  exact ⟨_, _, rfl, rfl⟩

end Calls

/-! ## A question, a late answer and an interrupt -/

/-- Everybody may do everything. -/
def openPolicy : ControlPolicy := ⟨fun _ _ => true, id, fun _ => false⟩

def ownerFence (version : Nat) : Fence := ⟨"owner", 1, version⟩

def kernelAt (commandId : String) (command : Command) : InputAction :=
  .kernel ⟨"task", commandId, 0, 0, 0, command⟩

/-- A call of the control service, at one reading of its clock. -/
def controlAt (now : Instant) (commandId : String) (command : ControlCommand) : ControlCall :=
  ⟨commandId, "user", 0, now, now, now, .notProduced, ⟨[], "", ""⟩, command, Nat.le_refl _⟩

/-- A task whose attempt waits for the answer to a question that expires at ten. -/
def askedRun : List InputAction :=
  [ kernelAt "create" (.createTask "objective" [] "" none none none)
  , kernelAt "claim" (.claimOwner "owner" 0 60)
  , kernelAt "start" (.startAttempt (ownerFence 1) .initial none none none)
  , kernelAt "checkpoint" (.commitCheckpoint (ownerFence 2) 2 none "" .commitCheckpoint)
  , .control (controlAt 0 "audit" (.advanceOuter (ownerFence 3) 2 3))
  , .control (controlAt 0 "ask" (.createInput (ownerFence 4) 2 4 .clarification "which one?" [] none
      none (some 10))) ]

def askedStore : ControlStore Command :=
  runFrom (stepInputs plainHashing openPolicy "task") ControlStore.empty askedRun

/-- The answer comes at twenty. -/
def lateCall : ControlCall :=
  controlAt 20 "answer" (.decideInput 5 5 0 .clarifyGoal ⟨"", ["objective"], "this one", some [],
    some "", none⟩)

def interruptCall : ControlCall :=
  controlAt 0 "interrupt" (.applyControl .interrupt 5 (some 4) 0 "")

/-- The task that was asked. -/
def askedTask : ResearchTask Command :=
  (askedStore.kernel.tasks.lookup "task").get (by decide +kernel)

/-! ## The result -/

/-- Questions to the user are answered once and strand no task. -/
structure InputsSound (policy : ControlPolicy) (taskId : String) (store : ControlStore Digest)
    (task : ResearchTask Digest) : Prop where
  oneOpen : ∀ one ∈ store.rows.inputRequests, ∀ other ∈ store.rows.inputRequests,
    store.rows.isOpen one.inputRequestId = true → store.rows.isOpen other.inputRequestId = true →
      one = other
  /-- The attempt of an open question is the one that is not terminal; it waits, and its latest
  checkpoint is the one the question was asked on. -/
  openWaits : ∀ request ∈ store.rows.inputRequests,
    store.rows.isOpen request.inputRequestId = true →
      task.attemptStatus request.attemptId = some .waitingUser ∧
      (∀ attempt ∈ task.attempts, attempt.unfinished = true →
        attempt.attemptId = request.attemptId) ∧
      (task.latestCheckpoint request.attemptId).map Checkpoint.checkpointId =
        some request.sourceCheckpointId
  leavesOnce : ∀ request ∈ store.rows.inputRequests, ∃ left,
    store.rows.statusesOf request.inputRequestId = .opened :: left ∧ .opened ∉ left
  decidedOnce : (store.rows.humanDecisions.map HumanDecision.inputRequestId).Nodup
  /-- A clean answer after the expiry finds the question disposed of, and raises a conflict. -/
  lateAnswer : ∀ call request, LateAnswer policy store task call request →
    CleanControl store.rows task call →
      store.rows.disposed request.inputRequestId = true ∧
        transactControl policy taskId store call =
          .error (.conflict "InputRequest already disposed")
  welcome : ∀ attemptId, task.attemptStatus attemptId = some .waitingUser →
    ∃ checkpoint, task.latestCheckpoint attemptId = some checkpoint ∧
      ∀ call, OwnersQuestion policy store task attemptId checkpoint.checkpointId call →
        (∀ request ∈ store.rows.inputRequests, ¬Answerable store task call.now request) →
        ∃ response after, transactControl policy taskId store call = .ok (response, after) ∧
          response.answer = .asked store.kernel.nextId

theorem ControlSound.inputsSound {policy : ControlPolicy} {taskId : String}
    {store : ControlStore Digest} {task : ResearchTask Digest} (sound : ControlSound taskId store)
    (isTask : store.kernel.tasks.lookup taskId = some task) :
    InputsSound policy taskId store task where
  oneOpen := sound.questions.oneOpen
  openWaits := by
    intro request isRequest isOpen
    have waits := (sound.task task isTask).1
    obtain ⟨isWaiting, isSource⟩ := waits.openWaits request isRequest isOpen
    refine ⟨isWaiting, fun attempt member unfinished => ?_, isSource⟩
    exact waits.oneUnfinished _ _ _ _ (attemptStatus_of_mem member) isWaiting
      (unfinished_status unfinished) (by simp)
  leavesOnce := sound.questions.leavesOnce
  decidedOnce := sound.questions.decidedOnce
  lateAnswer := by
    intro call request answer clean
    have isRequest := List.mem_of_find?_eq_some answer.isRequest
    have disposed : store.rows.disposed request.inputRequestId = true := by
      by_contra undisposed
      rw [Bool.not_eq_true, ← sound.questions.isOpen_iff isRequest] at undisposed
      obtain ⟨decisionKind, response, isCommand⟩ := answer.isCommand
      rw [CleanControl, isCommand] at clean
      have unexpired := clean request isRequest rfl undisposed
      rw [answer.late] at unexpired
      cases unexpired
    exact ⟨disposed, (answer.transact isTask).trans (if_pos disposed)⟩
  welcome := by
    intro attemptId isWaiting
    obtain ⟨checkpoint, latest⟩ := (sound.task task isTask).1.checkpointed attemptId isWaiting
    refine ⟨checkpoint, latest, fun call question unanswerable => ?_⟩
    exact sound.welcome isTask isWaiting (by rw [latest]; rfl) question unanswerable

/-- In a clean run the questions are sound in every state, for every policy and every choice of the
clocks. The answer that is not clean, to an open question after its expiry, ends in every run in a
storage error, with nothing written. -/
theorem inputs_answered_once [DecidableEq Digest] (hashing : Hashing Digest)
    (policy : ControlPolicy) (taskId : String) (actions : List InputAction)
    (task : ResearchTask Digest)
    (isTask : (runFrom (stepInputs hashing policy taskId) ControlStore.empty
      actions).kernel.tasks.lookup taskId = some task) :
    (EachStep (stepInputs hashing policy taskId) (CleanStep taskId) ControlStore.empty actions →
      InputsSound policy taskId
        (runFrom (stepInputs hashing policy taskId) ControlStore.empty actions) task) ∧
    ∀ call request,
      LateAnswer policy (runFrom (stepInputs hashing policy taskId) ControlStore.empty actions) task
        call request →
      (runFrom (stepInputs hashing policy taskId) ControlStore.empty actions).rows.isOpen
        request.inputRequestId = true →
      transactControl policy taskId
        (runFrom (stepInputs hashing policy taskId) ControlStore.empty actions) call =
          .error .storageError := by
  refine ⟨fun each => (ControlSound.run each).inputsSound isTask, fun call request answer isOpen => ?_⟩
  have undisposed := ((QuestionsSound.run actions).isOpen_iff
    (List.mem_of_find?_eq_some answer.isRequest)).mp isOpen
  rw [answer.transact isTask, undisposed, if_neg (by decide), if_pos (answer.isDue isOpen)]

theorem inputs_answered_once_asked : InputsSound openPolicy "task" askedStore askedTask :=
  (inputs_answered_once plainHashing openPolicy "task" askedRun askedTask
    (Option.some_get _).symm).1
    ⟨fun _ _ _ => trivial, fun _ _ _ => trivial, fun _ _ _ => trivial,
      fun _ _ _ => (by decide +kernel : _ = []), fun _ _ => trivial, fun _ _ => trivial, trivial⟩

/-- The late answer raises a storage error, no conflict, and the question stays open under the old
version; and after an interrupt a question is open whose attempt does not wait. -/
theorem late_answer_lost :
    transactControl openPolicy "task" askedStore lateCall = .error .storageError ∧
      (stepInputs plainHashing openPolicy "task" askedStore (.control lateCall)).rows.isOpen 5 =
        true ∧
      ((stepInputs plainHashing openPolicy "task" askedStore
        (.control lateCall)).kernel.tasks.lookup "task").map
          (fun task : ResearchTask Command => task.stateVersion) = some 5 ∧
      (stepInputs plainHashing openPolicy "task" askedStore (.control interruptCall)).rows.isOpen
        5 = true ∧
      ((stepInputs plainHashing openPolicy "task" askedStore
        (.control interruptCall)).kernel.tasks.lookup "task").map
          (fun task : ResearchTask Command => task.attemptStatus 2) = some (some .blocked) :=
  ⟨rfl, by decide +kernel, by decide +kernel, by decide +kernel, by decide +kernel⟩

end Shiliu.Research
