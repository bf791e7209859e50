/-
Module: Shiliu.Research.KernelSafety
Purpose: The safety of the research kernel over every run of its commands: one unfinished attempt at
  most, terminal tasks that stay as they are, fenced changes, versions and epochs that only
  grow, events and checkpoints without gaps, and receipts that answer a replay.
Trusted boundary: none
Main exports: TaskSafe, Performed.safe, Performed.advance, CallSafe, kernel_safety
-/
import Shiliu.Research.KernelMoves

set_option linter.all false

namespace Shiliu.Research

open Shiliu.Library Shiliu.Storage

variable {Digest : Type}

/-! ## Safe tasks -/

/-- The checkpoints are linked from the first one on and numbered from one. -/
def CheckpointChain (checkpoints : List Checkpoint) : Prop :=
  Chain Checkpoint.sequence Checkpoint.parentCheckpointId
    (fun checkpoint => some checkpoint.checkpointId) 1 none checkpoints

structure TaskSafe (task : ResearchTask Digest) : Prop where
  /-- At most one attempt is unfinished. -/
  oneActive : ∀ one ∈ task.attempts, ∀ other ∈ task.attempts,
    one.unfinished = true → other.unfinished = true → one = other
  /-- A terminal task has none. -/
  closed : task.status = .terminal → ∀ attempt ∈ task.attempts, attempt.unfinished = false
  numbered : Numbered Event.sequence task.events
  chained : ∀ attemptId, CheckpointChain (task.checkpointsOf attemptId)

namespace TaskSafe

variable {task : ResearchTask Digest}

theorem event (safe : TaskSafe task) (call : Call) (ownerEpoch : Nat) (body : EventBody Digest)
    (goalId attemptId checkpointId : Option Nat) :
    TaskSafe (task.event call ownerEpoch body goalId attemptId checkpointId) :=
  { safe with numbered := safe.numbered.concat rfl }

theorem idle_of_count {task : ResearchTask Digest}
    (idle : task.attempts.count Attempt.unfinished = 0) :
    ∀ attempt ∈ task.attempts, attempt.unfinished = false := by
  intro attempt isAttempt
  have none := List.filter_eq_nil_iff.mp (List.length_eq_zero_iff.mp idle) attempt isAttempt
  simpa using none

theorem insertAttempt (safe : TaskSafe task)
    (idle : ∀ attempt ∈ task.attempts, attempt.unfinished = false) (attemptId : Nat)
    (goalId : Option Nat) (cause : AttemptCause) (parent source : Option Nat) (ownerEpoch : Nat) :
    TaskSafe (task.insertAttempt attemptId goalId cause parent source ownerEpoch) where
  oneActive := by
    intro one isOne other isOther oneUnfinished otherUnfinished
    simp only [ResearchTask.insertAttempt] at isOne isOther
    have isNew : ∀ {new : Attempt} {attempt : Attempt}, attempt ∈ task.attempts.insert new →
        attempt.unfinished = true → attempt = new := by
      intro new attempt member unfinished
      cases found : task.attempts.lookup new.attemptId with
      | some present =>
          rw [Table.insert_of_lookup found] at member
          rw [idle attempt member] at unfinished
          nomatch unfinished
      | none =>
          rcases (Table.mem_insert found).mp member with old | rfl
          · rw [idle attempt old] at unfinished
            nomatch unfinished
          · rfl
    rw [isNew isOne oneUnfinished, isNew isOther otherUnfinished]
  closed := fun isTerminal => nomatch isTerminal
  numbered := safe.numbered
  chained := safe.chained

theorem changeAttempt (safe : TaskSafe task) {attempt : Attempt} (member : attempt ∈ task.attempts)
    (unfinished : attempt.unfinished = true) (change : Change Attempt.attemptId) :
    ∀ one ∈ task.attempts.modify attempt.attemptId change, one.unfinished = true →
      one = change.apply attempt := by
  intro one isOne oneUnfinished
  rcases Table.mem_modify.mp isOne with ⟨before, isBefore, same, rfl⟩ | ⟨old, different⟩
  · rw [Table.eq_of_key isBefore member same]
  · exact absurd (congrArg Attempt.attemptId
      (safe.oneActive one old attempt member oneUnfinished unfinished)) different

theorem bindAttempts (safe : TaskSafe task) (ownerEpoch : Nat) :
    TaskSafe (task.bindAttempts ownerEpoch) where
  oneActive := by
    intro one isOne other isOther oneUnfinished otherUnfinished
    obtain ⟨before, isBefore, rfl⟩ := Table.mem_updateWhere.mp isOne
    obtain ⟨present, isPresent, rfl⟩ := Table.mem_updateWhere.mp isOther
    have oneWas : before.unfinished = true := by
      by_contra finished
      rw [if_neg finished] at oneUnfinished
      exact finished oneUnfinished
    have otherWas : present.unfinished = true := by
      by_contra finished
      rw [if_neg finished] at otherUnfinished
      exact finished otherUnfinished
    rw [safe.oneActive before isBefore present isPresent oneWas otherWas]
  closed := by
    intro isTerminal attempt isAttempt
    obtain ⟨before, isBefore, rfl⟩ := Table.mem_updateWhere.mp isAttempt
    have finished := safe.closed isTerminal before isBefore
    simp only [finished, Bool.false_eq_true, if_false]
  numbered := safe.numbered
  chained := safe.chained

theorem checkpointed (safe : TaskSafe task) (checkpoint : Checkpoint)
    (isNext : checkpoint.sequence =
      ((task.latestCheckpoint checkpoint.attemptId).map Checkpoint.sequence).getD 0 + 1)
    (linked : checkpoint.parentCheckpointId =
      (task.latestCheckpoint checkpoint.attemptId).map Checkpoint.checkpointId) (attemptId : Nat) :
    CheckpointChain ((task.checkpoints ++ [checkpoint]).filter fun row =>
      row.attemptId = attemptId) := by
  rw [List.filter_append]
  by_cases same : checkpoint.attemptId = attemptId
  · subst same
    have chain := safe.chained checkpoint.attemptId
    have last : task.latestCheckpoint checkpoint.attemptId =
        (task.checkpointsOf checkpoint.attemptId).getLast? := chain.argmax
    rw [List.filter_singleton, decide_eq_true rfl, ← ResearchTask.checkpointsOf]
    refine Chain.concat.mpr ⟨chain, ?_, ?_⟩
    · rw [isNext, last, chain.last_number, Nat.zero_add, Nat.add_comm]
    · rw [linked, last, endOf]
      cases (task.checkpointsOf checkpoint.attemptId).getLast? <;> rfl
  · rw [List.filter_singleton, decide_eq_false same, cond_false, List.append_nil]
    exact safe.chained attemptId

end TaskSafe

/-! ## Rows that stay -/

/-- Only side effects and events differ. -/
structure EffectsOnly (before after : ResearchTask Digest) : Prop where
  row : after.toTaskRow = before.toTaskRow
  goals : after.goals = before.goals
  attempts : after.attempts = before.attempts
  checkpoints : after.checkpoints = before.checkpoints
  results : after.results = before.results
  receipts : after.receipts = before.receipts
  execution : after.execution = before.execution

namespace EffectsOnly

variable {task : ResearchTask Digest}

theorem foldl {mark : ResearchTask Digest → SideEffect → ResearchTask Digest}
    (each : ∀ task effect, EffectsOnly task (mark task effect)) (task : ResearchTask Digest)
    (effects : List SideEffect) : EffectsOnly task (effects.foldl mark task) := by
  induction effects generalizing task with
  | nil => exact ⟨rfl, rfl, rfl, rfl, rfl, rfl, rfl⟩
  | cons effect rest inductionHypothesis =>
      have first := each task effect
      have others := inductionHypothesis (mark task effect)
      exact ⟨others.row.trans first.row, others.goals.trans first.goals,
        others.attempts.trans first.attempts, others.checkpoints.trans first.checkpoints,
        others.results.trans first.results, others.receipts.trans first.receipts,
        others.execution.trans first.execution⟩

theorem rebindEffect (call : Call) (ownerEpoch : Nat) (task : ResearchTask Digest)
    (effect : SideEffect) : EffectsOnly task (rebindEffect call ownerEpoch task effect) :=
  ⟨rfl, rfl, rfl, rfl, rfl, rfl, rfl⟩

theorem markUnknown (call : Call) (ownerEpoch : Nat) (task : ResearchTask Digest)
    (effect : SideEffect) : EffectsOnly task (markUnknown call ownerEpoch task effect) :=
  ⟨rfl, rfl, rfl, rfl, rfl, rfl, rfl⟩

end EffectsOnly

theorem TaskSafe.foldl {mark : ResearchTask Digest → SideEffect → ResearchTask Digest}
    (each : ∀ task effect, TaskSafe task → TaskSafe (mark task effect))
    {task : ResearchTask Digest} (safe : TaskSafe task) (effects : List SideEffect) :
    TaskSafe (effects.foldl mark task) :=
  List.foldlRecOn effects mark safe fun task safe effect _ => each task effect safe

/-! ## What one body does -/

/-- The fence of a command that names an epoch. -/
def Command.fence : Command → Option Fence
  | .createTask .. | .claimOwner .. => none
  | .renewOwner fence _ | .startAttempt fence .. | .commitCheckpoint fence ..
  | .completeAttempt fence .. | .reviseGoal fence .. | .reserveSideEffect fence ..
  | .transitionSideEffect fence .. | .recoverInFlight fence
  | .resolveUnknownSideEffect fence .. => some fence

/-- `expected_state_version`. -/
def Command.expectedStateVersion : Command → Option Nat
  | .claimOwner _ expected _ => some expected
  | command => command.fence.map Fence.expectedStateVersion

def Command.isClaim : Command → Bool
  | .claimOwner .. => true
  | _ => false

/-- The command carries the current owner, its epoch and an unexpired lease, or it is a claim on a
task that nobody holds. -/
def Admitted (call : Call) (task : TaskRow) : Prop :=
  (∃ fence, call.command.fence = some fence ∧ task.lease.owner.getD "" = fence.ownerId ∧
    task.lease.epoch = fence.ownerEpoch ∧ task.lease.live call.leaseClock = true) ∨
  (call.command.isClaim = true ∧
    ¬(truthy task.lease.owner = true ∧ task.lease.live call.leaseClock = true))

/-- What every body that returns has in common. -/
structure Advance (call : Call) (task : ResearchTask Digest) (commit : Commit Digest) : Prop where
  nonterminal : task.status ≠ .terminal
  admitted : Admitted call task.toTaskRow
  expected : call.command.expectedStateVersion = some task.stateVersion
  key : commit.1.taskId = task.taskId
  version : commit.1.stateVersion = task.stateVersion + 1
  epoch : commit.1.lease.epoch = task.lease.epoch + if call.command.isClaim then 1 else 0
  receipts : commit.1.receipts = task.receipts
  answer : commit.2.taskId = task.taskId ∧ commit.2.stateVersion = commit.1.stateVersion

section Bodies

variable {hashing : Hashing Digest} {store : KernelStore Digest} {call : Call}
  {task : ResearchTask Digest} {commit : Commit Digest}

theorem Advance.of_fence {fence : Fence} (isFence : call.command.fence = some fence)
    (fenced : FenceHolds task.toTaskRow fence call.leaseClock)
    (key : commit.1.taskId = task.taskId)
    (version : commit.1.stateVersion = task.stateVersion + 1)
    (epoch : commit.1.lease.epoch = task.lease.epoch)
    (receipts : commit.1.receipts = task.receipts)
    (answer : commit.2.taskId = task.taskId ∧
      commit.2.stateVersion = fence.expectedStateVersion + 1) : Advance call task commit := by
  have noClaim : call.command.isClaim = false := by
    cases isCommand : call.command <;> simp [Command.isClaim, isCommand, Command.fence] at isFence ⊢
  have expected : call.command.expectedStateVersion = some task.stateVersion := by
    have named : call.command.expectedStateVersion =
        call.command.fence.map Fence.expectedStateVersion := by
      cases isCommand : call.command <;>
        simp [isCommand, Command.isClaim] at noClaim <;> rfl
    rw [named, isFence, Option.map_some, fenced.version]
  exact
    { nonterminal := fenced.nonterminal
      admitted := .inl ⟨fence, isFence, fenced.owner, fenced.epoch, fenced.live⟩
      expected := expected
      key := key
      version := version
      epoch := by simp [noClaim, epoch]
      receipts := receipts
      answer := ⟨answer.1, by rw [answer.2, version, fenced.version]⟩ }

theorem Performed.advance (performed : Performed hashing store call task commit) :
    Advance call task commit := by
  cases performed with
  | claimed ownerId expected leaseSeconds isCommand nonterminal version free =>
      have frame := EffectsOnly.foldl (EffectsOnly.rebindEffect call (task.lease.epoch + 1))
        { task.advanced.bindAttempts (task.lease.epoch + 1) with
          lease := task.lease.grant ownerId (leaseUntil call.grantClock leaseSeconds) }
        (takenOver task (task.lease.epoch + 1))
      have sameVersion : (claimedTask call task ownerId
          (leaseUntil call.grantClock leaseSeconds)).stateVersion = task.stateVersion + 1 :=
        congrArg TaskRow.stateVersion frame.row
      exact
        { nonterminal := nonterminal
          admitted := .inr ⟨by rw [isCommand]; rfl, free⟩
          expected := by rw [isCommand, version]; rfl
          key := (congrArg TaskRow.taskId frame.row :)
          version := sameVersion
          epoch := by
            rw [isCommand]
            exact congrArg (fun row => row.lease.epoch) frame.row
          receipts := frame.receipts
          answer := ⟨rfl, by rw [sameVersion, version]⟩ }
  | renewed fence leaseSeconds isCommand fenced =>
      exact .of_fence (by rw [isCommand]; rfl) fenced rfl rfl rfl rfl ⟨rfl, rfl⟩
  | started fence cause parent source enqueue execution isCommand fenced idle enqueued =>
      exact .of_fence (by rw [isCommand]; rfl) fenced rfl rfl rfl rfl ⟨rfl, rfl⟩
  | checkpointed fence attempt attemptId expected payload operation isCommand fenced holds latest
      resolved =>
      cases operation with
      | commitCheckpoint =>
          exact .of_fence (by rw [isCommand]; rfl) fenced rfl rfl rfl rfl ⟨rfl, rfl⟩
      | resumeAttempt =>
          exact .of_fence (by rw [isCommand]; rfl) fenced rfl rfl rfl rfl ⟨rfl, rfl⟩
  | completed fence attempt result terminal next isCommand fenced holds continues isResult latest =>
      exact .of_fence (by rw [isCommand]; rfl) fenced rfl rfl rfl rfl ⟨rfl, rfl⟩
  | revised fence objective constraints policy isCommand fenced idle =>
      exact .of_fence (by rw [isCommand]; rfl) fenced rfl rfl rfl rfl ⟨rfl, rfl⟩
  | deduplicated fence attempt effect attemptId kind key request isCommand fenced holds isEffect
      sameRequest =>
      exact .of_fence (by rw [isCommand]; rfl) fenced rfl rfl rfl rfl ⟨rfl, rfl⟩
  | reserved fence attempt attemptId kind key request isCommand fenced holds absent =>
      exact .of_fence (by rw [isCommand]; rfl) fenced rfl rfl rfl rfl ⟨rfl, rfl⟩
  | moved fence effect target operationId receiptHash reference isCommand fenced holds epoch
      mayMove =>
      exact .of_fence (by rw [isCommand]; rfl) fenced rfl rfl rfl rfl ⟨rfl, rfl⟩
  | recovered fence isCommand fenced =>
      have frame := EffectsOnly.foldl (EffectsOnly.markUnknown call fence.ownerEpoch) task
        (abandoned task fence.ownerEpoch)
      refine .of_fence (by rw [isCommand]; rfl) fenced ?_ ?_ ?_ frame.receipts ⟨rfl, rfl⟩
      · exact (congrArg TaskRow.taskId frame.row :)
      · exact (congrArg (fun row => row.stateVersion + 1) frame.row :)
      · exact (congrArg (fun row => row.lease.epoch) frame.row :)
  | resolved fence effect outcome isCommand fenced holds unknown =>
      exact .of_fence (by rw [isCommand]; rfl) fenced rfl rfl rfl rfl ⟨rfl, rfl⟩

/-- A body keeps a task safe. -/
theorem Performed.safe (performed : Performed hashing store call task commit)
    (safe : TaskSafe task) : TaskSafe commit.1 := by
  cases performed with
  | claimed ownerId expected leaseSeconds isCommand nonterminal version free =>
      have claimed : TaskSafe { task.advanced.bindAttempts (task.lease.epoch + 1) with
          lease := task.lease.grant ownerId (leaseUntil call.grantClock leaseSeconds) } :=
        { safe.bindAttempts (task.lease.epoch + 1) with }
      refine TaskSafe.event (claimed.foldl ?_ _) call _ _ _ _ _
      intro task effect safe
      refine TaskSafe.event ?_ call _ _ _ _ _
      exact { safe with }
  | renewed fence leaseSeconds isCommand fenced =>
      refine TaskSafe.event ?_ call _ _ _ _ _
      exact { safe with }
  | started fence cause parent source enqueue execution isCommand fenced idle enqueued =>
      have advanced : TaskSafe task.advanced := { safe with }
      exact { (advanced.insertAttempt (TaskSafe.idle_of_count idle) _ _ _ _ _ _).event call _ _ _ _ _
        with }
  | checkpointed fence attempt attemptId expected payload operation isCommand fenced holds latest
      resolved =>
      obtain rfl := holds.isAttempt
      have chained := safe.checkpointed (newCheckpoint store attempt expected
        (task.latestCheckpoint attempt.attemptId) (hashing.json payload) payload fence.ownerEpoch)
        rfl latest.symm
      cases operation with
      | commitCheckpoint =>
          refine TaskSafe.event ?_ call _ _ _ _ _
          exact { safe with chained := chained }
      | resumeAttempt =>
          refine TaskSafe.event ?_ call _ _ _ _ _
          refine ⟨?_, (fun isTerminal => nomatch isTerminal), safe.numbered, chained⟩
          intro one isOne other isOther oneUnfinished otherUnfinished
          have only := safe.changeAttempt holds.member holds.unfinished
            ⟨fun attempt => { attempt with status := .running }, fun _ => rfl⟩
          rw [only one isOne oneUnfinished, only other isOther otherUnfinished]
  | completed fence attempt result terminal next isCommand fenced holds continues isResult latest =>
      have finished : ∀ one ∈ task.attempts.modify result.attemptId
          ⟨fun attempt =>
            { attempt with status := .terminal, resultId := some result.resultId },
            fun _ => rfl⟩, one.unfinished = false := by
        intro one isOne
        by_contra unfinished
        rw [Bool.not_eq_false] at unfinished
        rw [← holds.isAttempt] at isOne
        rw [safe.changeAttempt holds.member holds.unfinished _ one isOne unfinished] at unfinished
        nomatch unfinished
      refine TaskSafe.event ?_ call _ _ _ _ _
      refine ⟨?_, fun _ => finished, safe.numbered, safe.chained⟩
      intro one isOne other isOther oneUnfinished
      rw [finished one isOne] at oneUnfinished
      nomatch oneUnfinished
  | revised fence objective constraints policy isCommand fenced idle =>
      have advanced : TaskSafe task.advanced := { safe with }
      refine TaskSafe.event ?_ call _ _ _ _ _
      exact { advanced.insertAttempt (TaskSafe.idle_of_count idle) _ _ _ _ _ _ with }
  | deduplicated fence attempt effect attemptId kind key request isCommand fenced holds isEffect
      sameRequest =>
      refine TaskSafe.event ?_ call _ _ _ _ _
      exact { safe with }
  | reserved fence attempt attemptId kind key request isCommand fenced holds absent =>
      refine TaskSafe.event ?_ call _ _ _ _ _
      exact { safe with }
  | moved fence effect target operationId receiptHash reference isCommand fenced holds epoch
      mayMove =>
      refine TaskSafe.event ?_ call _ _ _ _ _
      exact { safe with }
  | recovered fence isCommand fenced =>
      have marked : TaskSafe ((abandoned task fence.ownerEpoch).foldl
          (markUnknown call fence.ownerEpoch) task) := by
        refine safe.foldl ?_ _
        intro task effect safe
        refine TaskSafe.event ?_ call _ _ _ _ _
        exact { safe with }
      -- no status it may leave is terminal
      refine { marked with closed := fun isTerminal => ?_ }
      simp only [recoveredTask] at isTerminal
      split at isTerminal
      · exact absurd isTerminal fenced.nonterminal
      · nomatch isTerminal
  | resolved fence effect outcome isCommand fenced holds unknown =>
      refine TaskSafe.event ?_ call _ _ _ _ _
      exact { safe with }

end Bodies

/-! ## What one call does -/

section Calls

variable [DecidableEq Digest] {hashing : Hashing Digest} {store : KernelStore Digest} {call : Call}

variable {taskId : String}

omit [DecidableEq Digest] in
theorem taskId_of_lookup {task : ResearchTask Digest}
    (isTask : store.tasks.lookup taskId = some task) : task.taskId = taskId := by
  have isKey : task.key = taskId := Table.key_of_lookup isTask
  exact isKey

omit [DecidableEq Digest] in
theorem KernelStore.task_ok {task : ResearchTask Digest} (isTask : store.task taskId = .ok task) :
    store.tasks.lookup taskId = some task := by
  unfold KernelStore.task at isTask
  split at isTask
  case h_1 found lookup => exact lookup.trans (congrArg some (Except.ok.inj isTask))
  case h_2 => cases isTask

theorem stepKernel_other (different : taskId ≠ call.taskId) :
    (stepKernel hashing store call).tasks.lookup taskId = store.tasks.lookup taskId := by
  have outline := transact_outline hashing store call
  unfold stepKernel
  generalize transact hashing store call = outcome at outline
  cases outline with
  | replayed => rfl
  | raised => rfl
  | rejected other receipt failure isOther isReceipt holds _ =>
      have isKey : other.taskId = call.taskId := taskId_of_lookup isOther
      exact write_lookup_of_ne fun isCall => different (isCall.trans isKey)
  | created commit checked absent created =>
      exact write_lookup_of_ne fun isCall => different (isCall.trans created.key)
  | performed other commit checked isOther isNew performed =>
      exact write_lookup_of_ne fun isCall =>
        different (isCall.trans (performed.advance.key.trans (taskId_of_lookup isOther)))

variable (hashing call) in
/-- A task that is there stays, in one of the ways of the list. -/
theorem stepKernel_task {task : ResearchTask Digest}
    (isTask : store.tasks.lookup taskId = some task) :
    ∃ after, (stepKernel hashing store call).tasks.lookup taskId = some after ∧
      TaskStep hashing store call task after := by
  by_cases same : taskId = call.taskId
  · subst same
    have isKey := taskId_of_lookup isTask
    have outline := transact_outline hashing store call
    unfold stepKernel
    generalize transact hashing store call = outcome at outline
    cases outline with
    | replayed => exact ⟨task, isTask, .kept⟩
    | raised => exact ⟨task, isTask, .kept⟩
    | rejected other receipt failure isOther isReceipt holds different =>
        obtain rfl := Option.some.inj (isOther.symm.trans isTask)
        exact ⟨_, write_lookup_self isKey, .audited receipt.payloadHash isKey⟩
    | created commit checked absent created =>
        rw [absent] at isTask
        nomatch isTask
    | performed other commit checked isOther isNew performed =>
        obtain rfl := Option.some.inj (isOther.symm.trans isTask)
        exact ⟨_, write_lookup_self (performed.advance.key.trans isKey),
          .performed commit isKey checked isNew performed⟩
  · exact ⟨task, (stepKernel_other same).trans isTask, .kept⟩

theorem stepKernel_absent {after : ResearchTask Digest} (absent : store.tasks.lookup taskId = none)
    (isAfter : (stepKernel hashing store call).tasks.lookup taskId = some after) :
    ∃ commit, Created call commit ∧ precheck (call.command.stripped hashing) = .ok () ∧
      taskId = call.taskId ∧ after = commit.1.insertReceipt (receiptOf hashing call commit) := by
  by_cases same : taskId = call.taskId
  · subst same
    have outline := transact_outline hashing store call
    unfold stepKernel at isAfter
    generalize transact hashing store call = outcome at outline isAfter
    have notKept : store.tasks.lookup call.taskId ≠ some after := by rw [absent]; nofun
    cases outline with
    | replayed => exact absurd isAfter notKept
    | raised => exact absurd isAfter notKept
    | rejected other receipt failure isOther =>
        rw [absent] at isOther
        nomatch isOther
    | created commit checked _ created =>
        have written : (store.write (commit.1.insertReceipt
            (receiptOf hashing call commit))).tasks.lookup call.taskId = some _ :=
          write_lookup_self created.key
        exact ⟨commit, created, checked, rfl, Option.some.inj (isAfter.symm.trans written)⟩
    | performed other commit checked isOther =>
        rw [absent] at isOther
        nomatch isOther
  · rw [stepKernel_other same, absent] at isAfter
    nomatch isAfter

end Calls

/-! ## Runs -/

section Runs

variable [DecidableEq Digest] {hashing : Hashing Digest} {store : KernelStore Digest} {call : Call}

omit [DecidableEq Digest] in
/-- Every receipt answers a payload that passed its checks. -/
def Answers (hashing : Hashing Digest) (task : ResearchTask Digest) : Prop :=
  ∀ receipt ∈ task.receipts, ∃ payload : Command,
    receipt.payloadHash = hashing.payload payload ∧ precheck payload = .ok ()

omit [DecidableEq Digest] in
theorem Answers.insertReceipt {task : ResearchTask Digest} {commit : Commit Digest}
    (answers : Answers hashing task) (receipts : commit.1.receipts = task.receipts)
    (checked : precheck (call.command.stripped hashing) = .ok ()) :
    Answers hashing (commit.1.insertReceipt (receiptOf hashing call commit)) := by
  intro receipt isReceipt
  rcases List.mem_append.mp isReceipt with old | new
  · exact answers receipt (receipts ▸ old)
  · obtain rfl := List.mem_singleton.mp new
    exact ⟨_, rfl, checked⟩

/-- The invariant of the kernel. -/
structure StoreSafe (hashing : Hashing Digest) (store : KernelStore Digest) : Prop where
  tasks : ∀ taskId task, store.tasks.lookup taskId = some task → TaskSafe task
  answers : ∀ taskId task, store.tasks.lookup taskId = some task → Answers hashing task

omit [DecidableEq Digest] in
theorem StoreSafe.empty : StoreSafe hashing (KernelStore.empty : KernelStore Digest) :=
  ⟨(fun _ _ isTask => nomatch isTask), (fun _ _ isTask => nomatch isTask)⟩

omit [DecidableEq Digest] in
theorem Created.safe {commit : Commit Digest} (created : Created call commit) :
    TaskSafe commit.1 where
  oneActive := by
    rw [created.attempts]
    exact fun one isOne => absurd isOne (Table.not_mem_empty one)
  closed := by
    rw [created.status]
    exact fun isTerminal => nomatch isTerminal
  numbered := by
    have one := congrArg List.length created.events
    rw [List.length_map] at one
    rw [Numbered, created.events, one]
    rfl
  chained := by
    intro attemptId
    rw [ResearchTask.checkpointsOf, created.checkpoints]
    exact trivial

theorem StoreSafe.step (safe : StoreSafe hashing store) (call : Call) :
    StoreSafe hashing (stepKernel hashing store call) := by
  have both : ∀ taskId after, (stepKernel hashing store call).tasks.lookup taskId = some after →
      TaskSafe after ∧ Answers hashing after := by
    intro taskId after isAfter
    cases isTask : store.tasks.lookup taskId with
    | none =>
        obtain ⟨commit, created, checked, -, rfl⟩ := stepKernel_absent isTask isAfter
        have noReceipts : commit.1.receipts = commit.1.receipts := rfl
        have noAnswers : Answers hashing commit.1 := by
          rw [Answers, created.receipts]
          exact fun receipt isReceipt => nomatch isReceipt
        exact ⟨{ created.safe with }, noAnswers.insertReceipt rfl checked⟩
    | some task =>
        obtain ⟨later, isLater, step⟩ := stepKernel_task hashing call isTask
        obtain rfl := Option.some.inj (isLater.symm.trans isAfter)
        cases step with
        | kept => exact ⟨safe.tasks taskId task isTask, safe.answers taskId task isTask⟩
        | audited stored isCall =>
            exact ⟨(safe.tasks taskId task isTask).event call _ _ _ _ _,
              safe.answers taskId task isTask⟩
        | performed commit isCall checked isNew performed =>
            exact ⟨{ performed.safe (safe.tasks taskId task isTask) with },
              (safe.answers taskId task isTask).insertReceipt performed.advance.receipts checked⟩
  exact ⟨fun taskId after isAfter => (both taskId after isAfter).1,
    fun taskId after isAfter => (both taskId after isAfter).2⟩

/-- A task has come at least as far as a version and an epoch, and still has a receipt. -/
def Settled (taskId commandId : String) (receipt : CommandReceipt Digest) (version epoch : Nat)
    (store : KernelStore Digest) : Prop :=
  ∃ task, store.tasks.lookup taskId = some task ∧ version ≤ task.stateVersion ∧
    epoch ≤ task.lease.epoch ∧ task.receipt commandId = some receipt

variable {commandId : String} {receipt : CommandReceipt Digest}

omit [DecidableEq Digest] in
theorem receipt_insertReceipt {task : ResearchTask Digest} {new : CommandReceipt Digest}
    (isReceipt : task.receipt commandId = some receipt) :
    (task.insertReceipt new).receipt commandId = some receipt := by
  simp only [ResearchTask.receipt] at isReceipt
  simp only [ResearchTask.receipt, ResearchTask.insertReceipt, List.find?_append, isReceipt,
    Option.some_or]

omit [DecidableEq Digest] in
theorem receipt_insertReceipt_self {task : ResearchTask Digest} {new : CommandReceipt Digest}
    (isNew : task.receipt new.commandId = none) :
    (task.insertReceipt new).receipt new.commandId = some new := by
  simp only [ResearchTask.receipt] at isNew
  simp only [ResearchTask.receipt, ResearchTask.insertReceipt, List.find?_append, isNew,
    Option.none_or]
  simp

theorem Settled.step {taskId : String} {version epoch : Nat}
    (settled : Settled taskId commandId receipt version epoch store) (call : Call) :
    Settled taskId commandId receipt version epoch (stepKernel hashing store call) := by
  obtain ⟨task, isTask, versionLe, epochLe, isReceipt⟩ := settled
  obtain ⟨after, isAfter, step⟩ := stepKernel_task hashing call isTask
  refine ⟨after, isAfter, ?_⟩
  cases step with
  | kept => exact ⟨versionLe, epochLe, isReceipt⟩
  | audited stored isCall => exact ⟨versionLe, epochLe, isReceipt⟩
  | performed commit isCall checked isNew performed =>
      have advance := performed.advance
      have sameReceipt : commit.1.receipt commandId = some receipt := by
        rw [← isReceipt, ResearchTask.receipt, advance.receipts]
        rfl
      have isVersion := advance.version
      have isEpoch := advance.epoch
      refine ⟨?_, ?_, receipt_insertReceipt sameReceipt⟩
      · change version ≤ commit.1.stateVersion
        omega
      · change epoch ≤ commit.1.lease.epoch
        omega

theorem Settled.run {taskId : String} {version epoch : Nat}
    (settled : Settled taskId commandId receipt version epoch store) (calls : List Call) :
    Settled taskId commandId receipt version epoch
      (runFrom (stepKernel hashing) store calls) := by
  have kept : ∀ (store : KernelStore Digest) call,
      Settled taskId commandId receipt version epoch store →
        Settled taskId commandId receipt version epoch (stepKernel hashing store call) :=
    fun _ call settled => settled.step call
  exact invariant_run kept settled calls

theorem StoreSafe.run (safe : StoreSafe hashing store) (calls : List Call) :
    StoreSafe hashing (runFrom (stepKernel hashing) store calls) := by
  have kept : ∀ (store : KernelStore Digest) call, StoreSafe hashing store →
      StoreSafe hashing (stepKernel hashing store call) := fun _ call safe => safe.step call
  exact invariant_run kept safe calls

theorem committed_settled {after : ResearchTask Digest} {response : Response}
    (committed : transact hashing store call = .committed after response) :
    (stepKernel hashing store call).tasks.lookup call.taskId = some after ∧
      response.stateVersion = after.stateVersion ∧
      ∃ receipt, receipt.response = response ∧
        receipt.payloadHash = hashing.payload (call.command.stripped hashing) ∧
        after.receipt call.commandId = some receipt := by
  have outline := transact_outline hashing store call
  rw [stepKernel, committed]
  rw [committed] at outline
  cases outline with
  | created commit checked absent created =>
      refine ⟨write_lookup_self created.key, ?_, receiptOf hashing call commit, rfl, rfl, ?_⟩
      · exact created.answer.2.1.trans created.version.symm
      · refine receipt_insertReceipt_self ?_
        rw [ResearchTask.receipt, created.receipts]
        rfl
  | performed task commit checked isTask isNew performed =>
      have advance := performed.advance
      refine ⟨write_lookup_self (advance.key.trans (taskId_of_lookup isTask)), advance.answer.2,
        receiptOf hashing call commit, rfl, rfl, receipt_insertReceipt_self ?_⟩
      rw [← isNew, ResearchTask.receipt, advance.receipts]
      rfl

/-- A call that finds a receipt with its payload answers from it, or is kept off by the owner of
the task; either way it writes nothing. -/
theorem transact_of_receipt (safe : StoreSafe hashing store) {task : ResearchTask Digest}
    (isTask : store.tasks.lookup call.taskId = some task)
    (isReceipt : task.receipt call.commandId = some receipt)
    (same : receipt.payloadHash = hashing.payload (call.command.stripped hashing)) :
    (ReceiptHolds call task.toTaskRow receipt ∧
        transact hashing store call = .replayed receipt.response) ∨
      (¬ReceiptHolds call task.toTaskRow receipt ∧
        ∃ failure, transact hashing store call = .raised failure) := by
  obtain ⟨payload, isPayload, checked⟩ := safe.answers _ task isTask receipt
    (List.mem_of_find?_eq_some isReceipt)
  obtain rfl := hashing.payload_injective (isPayload.symm.trans same)
  have owner : transact hashing store call =
      match assertReceiptOwner call task receipt with
      | .ok _ => .replayed receipt.response
      | .error failure => .raised failure := by
    simp only [transact, checked, isTask, existingReceipt, isReceipt]
    cases assertReceiptOwner call task receipt with
    | error failure => rfl
    | ok done => simp [bind, Except.bind, same, pure, Except.pure]
  rw [owner]
  cases passed : assertReceiptOwner call task receipt with
  | ok done => exact .inl ⟨assertReceiptOwner_ok passed, rfl⟩
  | error failure =>
      refine .inr ⟨fun holds => ?_, failure, rfl⟩
      unfold assertReceiptOwner at passed
      split at passed
      · cases passed
      case h_2 ownerId ownerEpoch isFence =>
          have isOwner : task.assertOwner ownerId (ownerEpoch.getD receipt.ownerEpoch) _ = .ok () :=
            assertOwner_eq_ok.mpr (holds ownerId ownerEpoch isFence)
          rw [isOwner] at passed
          cases passed

/-- What the kernel promises of a state, of the next call, and of what comes after it. -/
structure KernelSafe (hashing : Hashing Digest) (store : KernelStore Digest) : Prop where
  tasks : ∀ taskId task, store.tasks.lookup taskId = some task → TaskSafe task
  /-- A call touches no other task. -/
  others : ∀ call taskId, taskId ≠ call.taskId →
    (stepKernel hashing store call).tasks.lookup taskId = store.tasks.lookup taskId
  /-- A terminal task, and a task whose fence a call does not pass, gets at most the event of a
  mismatch. -/
  guarded : ∀ call task, store.tasks.lookup call.taskId = some task →
    (task.status = .terminal ∨ ¬Admitted call task.toTaskRow) →
      ∃ events, (stepKernel hashing store call).tasks.lookup call.taskId =
        some { task with events := events }
  /-- A call that succeeds makes one version of the one it expects; a claim, one epoch more. -/
  advances : ∀ call after response, transact hashing store call = .committed after response →
    (stepKernel hashing store call).tasks.lookup call.taskId = some after ∧
      response.stateVersion = after.stateVersion ∧
      (store.tasks.lookup call.taskId = none → after.stateVersion = 0) ∧
      ∀ task, store.tasks.lookup call.taskId = some task →
        call.command.expectedStateVersion = some task.stateVersion ∧
          after.stateVersion = task.stateVersion + 1 ∧
          after.lease.epoch = task.lease.epoch + if call.command.isClaim then 1 else 0
  /-- Of two calls that succeed on one task, the later one expects more and a claim gets more. -/
  ordered : ∀ call after response between later afterLater responseLater,
    transact hashing store call = .committed after response →
    transact hashing (runFrom (stepKernel hashing) (stepKernel hashing store call) between) later =
      .committed afterLater responseLater → later.taskId = call.taskId →
      (∀ expected expectedLater, call.command.expectedStateVersion = some expected →
        later.command.expectedStateVersion = some expectedLater → expected < expectedLater) ∧
      (later.command.isClaim = true → after.lease.epoch < afterLater.lease.epoch)
  /-- A call that succeeded answers its replays as long as the owner the receipt names holds the
  task, and refuses them otherwise. No replay writes anything. -/
  replays : ∀ call after response between later,
    transact hashing store call = .committed after response → later.taskId = call.taskId →
    later.commandId = call.commandId →
    later.command.stripped hashing = call.command.stripped hashing →
      let reached := runFrom (stepKernel hashing) (stepKernel hashing store call) between
      stepKernel hashing reached later = reached ∧
        ∃ task receipt, reached.tasks.lookup later.taskId = some task ∧
          task.receipt later.commandId = some receipt ∧
          ((ReceiptHolds later task.toTaskRow receipt ∧
              transact hashing reached later = .replayed response) ∨
            (¬ReceiptHolds later task.toTaskRow receipt ∧
              ∃ failure, transact hashing reached later = .raised failure))

theorem stepKernel_guarded {task : ResearchTask Digest}
    (isTask : store.tasks.lookup call.taskId = some task)
    (refused : task.status = .terminal ∨ ¬Admitted call task.toTaskRow) :
    ∃ events, (stepKernel hashing store call).tasks.lookup call.taskId =
      some { task with events := events } := by
  obtain ⟨after, isAfter, step⟩ := stepKernel_task hashing call isTask
  cases step with
  | kept => exact ⟨task.events, isAfter⟩
  | audited stored isCall => exact ⟨_, isAfter⟩
  | performed commit isCall checked isNew performed =>
      rcases refused with isTerminal | notAdmitted
      · exact absurd isTerminal performed.advance.nonterminal
      · exact absurd performed.advance.admitted notAdmitted

theorem stepKernel_advances {after : ResearchTask Digest} {response : Response}
    (committed : transact hashing store call = .committed after response) :
    (store.tasks.lookup call.taskId = none → after.stateVersion = 0) ∧
      ∀ task, store.tasks.lookup call.taskId = some task →
        call.command.expectedStateVersion = some task.stateVersion ∧
          after.stateVersion = task.stateVersion + 1 ∧
          after.lease.epoch = task.lease.epoch + if call.command.isClaim then 1 else 0 := by
  have outline := transact_outline hashing store call
  rw [committed] at outline
  cases outline with
  | created commit checked absent created =>
      refine ⟨fun _ => created.version, fun task isTask => ?_⟩
      rw [absent] at isTask
      nomatch isTask
  | performed task commit checked isTask isNew performed =>
      have advance := performed.advance
      refine ⟨fun absent => ?_, fun other isOther => ?_⟩
      · rw [isTask] at absent
        nomatch absent
      · obtain rfl := Option.some.inj (isTask.symm.trans isOther)
        exact ⟨advance.expected, advance.version, advance.epoch⟩

theorem StoreSafe.kernelSafe (safe : StoreSafe hashing store) : KernelSafe hashing store where
  tasks := safe.tasks
  others call taskId different := stepKernel_other different
  guarded call task isTask refused := stepKernel_guarded isTask refused
  advances call after response committed :=
    ⟨(committed_settled committed).1, (committed_settled committed).2.1,
      stepKernel_advances committed⟩
  ordered := by
    intro call after response between later afterLater responseLater committed committedLater same
    obtain ⟨isAfter, -, receipt, -, -, isReceipt⟩ := committed_settled committed
    have settled : Settled call.taskId call.commandId receipt after.stateVersion after.lease.epoch
        (stepKernel hashing store call) :=
      ⟨after, isAfter, Nat.le_refl _, Nat.le_refl _, isReceipt⟩
    obtain ⟨task, isTask, versionLe, epochLe, -⟩ := settled.run between
    rw [← same] at isTask
    obtain ⟨isExpected, -, isEpoch⟩ := (stepKernel_advances committedLater).2 task isTask
    constructor
    · intro expected expectedLater ofCall ofLater
      obtain rfl := Option.some.inj (ofLater.symm.trans isExpected)
      cases isBefore : store.tasks.lookup call.taskId with
      | none =>
          -- the first call created the task, and such a call expects nothing
          have outline := transact_outline hashing store call
          rw [committed] at outline
          cases outline with
          | created commit checked absent created =>
              obtain ⟨_, _, _, _, _, _, isCommand⟩ := created.isCommand
              rw [isCommand] at ofCall
              nomatch ofCall
          | performed other commit checked isOther =>
              rw [isBefore] at isOther
              nomatch isOther
      | some before =>
          obtain ⟨wasExpected, isVersion, -⟩ := (stepKernel_advances committed).2 before isBefore
          obtain rfl := Option.some.inj (ofCall.symm.trans wasExpected)
          omega
    · intro isClaim
      rw [isClaim, if_pos rfl] at isEpoch
      omega
  replays := by
    intro call after response between later committed sameTask sameCommand samePayload reached
    obtain ⟨isAfter, -, receipt, isResponse, isPayload, isReceipt⟩ := committed_settled committed
    have settled : Settled call.taskId call.commandId receipt after.stateVersion after.lease.epoch
        (stepKernel hashing store call) :=
      ⟨after, isAfter, Nat.le_refl _, Nat.le_refl _, isReceipt⟩
    obtain ⟨task, isTask, -, -, hasReceipt⟩ := settled.run between
    have reachedSafe : StoreSafe hashing reached := (safe.step call).run between
    rw [← sameTask] at isTask
    rw [← sameCommand] at hasReceipt
    rw [← samePayload] at isPayload
    have answered := transact_of_receipt reachedSafe isTask hasReceipt isPayload
    rw [isResponse] at answered
    refine ⟨?_, task, receipt, isTask, hasReceipt, answered⟩
    rcases answered with ⟨-, replayed⟩ | ⟨-, failure, raised⟩
    · rw [stepKernel, replayed]
      rfl
    · rw [stepKernel, raised]
      rfl

/-- In every state that commands lead to, with every clock, the kernel keeps its promises. -/
theorem kernel_safety (hashing : Hashing Digest) (calls : List Call) :
    KernelSafe hashing (runFrom (stepKernel hashing) KernelStore.empty calls) :=
  (StoreSafe.empty.run calls).kernelSafe

end Runs

/-! ## A replay after the lease has expired -/

/-- Payloads that are their own hashes. -/
def plainHashing : Hashing Command := ⟨id, id, fun _ _ same => same⟩

/-- One task, created at the start. -/
def createCall : Call :=
  ⟨"task", "create", 0, 0, 0, .createTask "objective" [] "" none none none⟩

/-- A claim for one second. -/
def claimCall (now : Instant) : Call :=
  ⟨"task", "claim", now, now, now, .claimOwner "owner" 0 1⟩

/-- A claim that succeeded, presented again two seconds later, does not get its answer. -/
theorem expired_replay_refused :
    ∃ after response failure,
      let created := stepKernel plainHashing KernelStore.empty createCall
      transact plainHashing created (claimCall 0) = .committed after response ∧
        (claimCall 2000000).command = (claimCall 0).command ∧
        transact plainHashing (stepKernel plainHashing created (claimCall 0))
          (claimCall 2000000) = .raised failure := by
  refine ⟨_, _, .conflict "owner lease 已过期", rfl, rfl, ?_⟩
  rfl

end Shiliu.Research
