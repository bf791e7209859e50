/-
Module: Shiliu.Research.LedgerSafety
Purpose: What the active-time ledger keeps over every run of its calls and of the kernel's commands: the
  time consumed is the time reported plus one tail for each segment given up, and a spent budget
  is marked. Some calls break this; `LedgerCall.Regular` says which, and the runs at the end
  show three of them.
Trusted boundary: none
Main exports: LedgerCall.Regular, RowSound, LedgerSound, LedgerSafe, active_time_ledger
-/
import Shiliu.Research.KernelSafety
import Shiliu.Research.Ledger

set_option linter.all false

namespace Shiliu.Research

open Shiliu.Library Shiliu.Storage

variable {Digest : Type}

/-! ## The calls that keep the ledger -/

/-- The execution metadata of a task. -/
def KernelStore.executionOf (store : KernelStore Digest) (taskId : String) :
    Option ExecutionMetadata :=
  (store.tasks.lookup taskId).bind ResearchTask.execution

/-- The row a call comes to, past its guard. -/
def LedgerCall.reached (call : LedgerCall) (store : KernelStore Digest) (taskId : String)
    (leaseClock : Instant) : Option ExecutionMetadata :=
  match store.tasks.lookup taskId with
  | none => none
  | some task =>
      match call.guard leaseClock task.toTaskRow with
      | .ok _ => task.execution
      | .error _ => none

/-- The call meets none of the branches that lose time or a mark: a takeover of a segment whose
time is uncertain or whose tail spends the budget, running or settled time after uncertain time,
elapsed time that goes back, uncertain time or a retry after the budget is spent. -/
def LedgerCall.Regular (row : ExecutionMetadata) : LedgerCall → Prop
  | .beginSegment ownerId ownerEpoch =>
      ∀ segment ∈ row.segment, ¬(segment.ownerId = ownerId ∧ segment.ownerEpoch = ownerEpoch) →
        row.timingStatus ≠ .uncertain ∧
          (row.consumedActiveMs < row.activeBudgetMs →
            row.consumedActiveMs + recoveredTail row < row.activeBudgetMs)
  | .tick segment elapsedMs .running =>
      row.segment = some segment →
        row.timingStatus ≠ .uncertain ∧ row.segmentSettledMs ≤ elapsedMs
  | .tick segment _ .uncertain =>
      row.segment = some segment → row.consumedActiveMs < row.activeBudgetMs
  | .settle segment _ _ => row.segment = some segment → row.timingStatus ≠ .uncertain
  | .recordFailure _ _ safeToRetry =>
      retries row safeToRetry = true → row.consumedActiveMs < row.activeBudgetMs
  | .tick _ _ .sleep | .enqueue .. => True

instance (row : ExecutionMetadata) : ∀ call : LedgerCall, Decidable (call.Regular row)
  | .beginSegment _ _ => inferInstanceAs (Decidable (∀ segment ∈ row.segment, _))
  | .tick _ _ .running => inferInstanceAs (Decidable (_ → _))
  | .tick _ _ .uncertain => inferInstanceAs (Decidable (_ → _))
  | .settle _ _ _ => inferInstanceAs (Decidable (_ → _))
  | .recordFailure _ _ _ => inferInstanceAs (Decidable (_ → _))
  | .tick _ _ .sleep => inferInstanceAs (Decidable True)
  | .enqueue _ _ _ => inferInstanceAs (Decidable True)

def LedgerAction.Regular (world : LedgerWorld Digest) : LedgerAction → Prop
  | .command _ => True
  | .ledger taskId leaseClock call =>
      ∀ row ∈ call.reached world.store taskId leaseClock, call.Regular row

instance (world : LedgerWorld Digest) : ∀ action : LedgerAction, Decidable (action.Regular world)
  | .command _ => inferInstanceAs (Decidable True)
  | .ledger taskId leaseClock call =>
      inferInstanceAs (Decidable (∀ row ∈ call.reached world.store taskId leaseClock, _))

/-! ## Rows -/

/-- The time reported for the segments of a task, with the tails of those given up. -/
def SegmentReports.total (reports : SegmentReports) : Nat :=
  (reports.closed.map fun segment => segment.reportedMs + segment.tailMs).sum + reports.currentMs

/-- The invariant of the execution metadata. -/
structure RowSound (reservationMs : Nat) (row : ExecutionMetadata) (reports : SegmentReports) :
    Prop where
  accounted : row.consumedActiveMs = reports.total
  settled : row.segmentSettledMs = reports.currentMs
  unopened : row.segment = none → row.segmentSettledMs = 0
  reserved : row.reservedTailMs ≤ reservationMs
  tails : ∀ segment ∈ reports.closed, segment.tailMs ≤ reservationMs
  spent : row.activeBudgetMs ≤ row.consumedActiveMs →
    row.timingStatus = .exhausted ∧ row.schedulingStatus = .manualRequired

/-- A row that is scheduled anew: its time stays. -/
structure Rescheduled (row later : ExecutionMetadata) : Prop where
  certain : row.timingStatus ≠ .uncertain
  unspent : row.timingStatus ≠ .exhausted
  budget : later.activeBudgetMs = row.activeBudgetMs
  consumed : later.consumedActiveMs = row.consumedActiveMs
  segment : later.segment = row.segment
  settled : later.segmentSettledMs = row.segmentSettledMs
  reserved : later.reservedTailMs = row.reservedTailMs
  timing : later.timingStatus = row.timingStatus

variable {row : ExecutionMetadata}

theorem assertTiming_then_eq_ok {Result : Type} {next : Unit → Except ResearchFailure Result}
    {result : Result} :
    (assertTiming row >>= next) = .ok result ↔
      (row.timingStatus ≠ .uncertain ∧ row.timingStatus ≠ .exhausted) ∧ next () = .ok result := by
  rw [assertTiming]
  exact ensure_then_eq_ok

theorem enqueueRow_ok {commandId : String} {manual : Bool} {reason : String}
    {later : ExecutionMetadata} (enqueued : enqueueRow commandId manual reason row = .ok later) :
    Rescheduled row later := by
  obtain ⟨⟨certain, unspent⟩, enqueued⟩ := assertTiming_then_eq_ok.mp enqueued
  obtain rfl := pure_eq_ok.mp enqueued
  exact ⟨certain, unspent, rfl, rfl, rfl, rfl, rfl, rfl⟩

/-- Execution metadata that stay, or are scheduled anew. -/
def KeptTime (execution later : Option ExecutionMetadata) : Prop :=
  later = execution ∨
    ∃ row rescheduled, execution = some row ∧ later = some rescheduled ∧
      Rescheduled row rescheduled

theorem enqueueExecution_ok {execution later : Option ExecutionMetadata}
    {enqueue : Option ExecutionEnqueue}
    (enqueued : enqueueExecution execution enqueue = .ok later) : KeptTime execution later := by
  cases enqueue with
  | none => exact .inl (Except.ok.inj enqueued).symm
  | some request =>
      cases execution with
      | none => nomatch enqueued
      | some row =>
          obtain ⟨⟨certain, unspent⟩, enqueued⟩ := assertTiming_then_eq_ok.mp enqueued
          obtain ⟨-, enqueued⟩ := ensure_then_eq_ok.mp enqueued
          obtain rfl := pure_eq_ok.mp enqueued
          exact .inr ⟨row, _, rfl, rfl, certain, unspent, rfl, rfl, rfl, rfl, rfl, rfl⟩

theorem RowSound.rescheduled {reservationMs : Nat} {later : ExecutionMetadata}
    {reports : SegmentReports} (sound : RowSound reservationMs row reports)
    (rescheduled : Rescheduled row later) : RowSound reservationMs later reports where
  accounted := rescheduled.consumed.trans sound.accounted
  settled := rescheduled.settled.trans sound.settled
  unopened := by
    rw [rescheduled.segment, rescheduled.settled]
    exact sound.unopened
  reserved := by
    rw [rescheduled.reserved]
    exact sound.reserved
  tails := sound.tails
  spent := by
    rw [rescheduled.budget, rescheduled.consumed]
    exact fun spent => absurd (sound.spent spent).1 rescheduled.unspent

/-! ## What a call makes of a row -/

section Rows

variable (reservationMs segmentId : Nat)

/-- A row with a segment that has just begun. -/
def begunRow (ownerId : String) (ownerEpoch : Nat) (row : ExecutionMetadata) : ExecutionMetadata :=
  { row with
    segment := some ⟨segmentId, ownerId, ownerEpoch⟩
    segmentSettledMs := 0
    reservedTailMs := min reservationMs (row.activeBudgetMs - row.consumedActiveMs)
    tickSequence := row.tickSequence + 1
    timingStatus := .active
    schedulingStatus := .running }

/-- A row whose segment has been settled. -/
def settledRow (schedulingStatus : SchedulingStatus) (resumeReason : Option String)
    (row : ExecutionMetadata) : ExecutionMetadata :=
  let exhausted : Bool := row.activeBudgetMs ≤ row.consumedActiveMs
  { row with
    segment := none
    segmentSettledMs := 0
    reservedTailMs := 0
    timingStatus := if exhausted then .exhausted else .idle
    schedulingStatus := if exhausted then .manualRequired else schedulingStatus
    schedulingIntent := .none
    resumeReason := resumeReason.or row.resumeReason }

/-- What a call that is not refused makes of the row. -/
inductive RowChange (row : ExecutionMetadata) : LedgerCall → ExecutionMetadata → Prop where
  | resumed (segment : Segment) (isOpen : row.segment = some segment) :
      RowChange row (.beginSegment segment.ownerId segment.ownerEpoch) row
  | begun (ownerId : String) (ownerEpoch : Nat) (unopened : row.segment = none)
      (certain : row.timingStatus ≠ .uncertain)
      (unspent : row.consumedActiveMs < row.activeBudgetMs) :
      RowChange row (.beginSegment ownerId ownerEpoch)
        (begunRow reservationMs segmentId ownerId ownerEpoch row)
  | takenOver (ownerId : String) (ownerEpoch : Nat) (segment : Segment)
      (isOpen : row.segment = some segment)
      (foreign : ¬(segment.ownerId = ownerId ∧ segment.ownerEpoch = ownerEpoch))
      (unspent : row.consumedActiveMs + recoveredTail row < row.activeBudgetMs) :
      RowChange row (.beginSegment ownerId ownerEpoch)
        (begunRow reservationMs segmentId ownerId ownerEpoch (recoverSegment row))
  | ran (segment : Segment) (elapsedMs : Nat) (isOpen : row.segment = some segment) :
      RowChange row (.tick segment elapsedMs .running) (runningRow reservationMs elapsedMs row)
  | slept (segment : Segment) (elapsedMs : Nat) (isOpen : row.segment = some segment) :
      RowChange row (.tick segment elapsedMs .sleep) row
  | doubted (segment : Segment) (elapsedMs : Nat) (isOpen : row.segment = some segment) :
      RowChange row (.tick segment elapsedMs .uncertain) (uncertainRow row)
  | settled (segment : Segment) (status : SchedulingStatus) (reason : Option String)
      (isOpen : row.segment = some segment) :
      RowChange row (.settle segment status reason) (settledRow status reason row)
  | enqueued (commandId : String) (manual : Bool) (reason : String) (later : ExecutionMetadata)
      (rescheduled : Rescheduled row later) : RowChange row (.enqueue commandId manual reason) later
  | failed (now : Instant) (code : String) (safeToRetry : Bool) :
      RowChange row (.recordFailure now code safeToRetry) (failureRow now code safeToRetry row)

variable {reservationMs segmentId}

variable {ownerId : String} {ownerEpoch : Nat} {row later : ExecutionMetadata}

theorem openSegment_ok
    (opened : openSegment reservationMs segmentId ownerId ownerEpoch row = .ok later) :
    row.timingStatus ≠ .uncertain ∧ row.consumedActiveMs < row.activeBudgetMs ∧
      later = begunRow reservationMs segmentId ownerId ownerEpoch row := by
  unfold openSegment at opened
  split at opened
  case isTrue => nomatch opened
  case isFalse certain =>
      split at opened
      case isTrue => nomatch opened
      case isFalse unspent =>
          obtain rfl := Except.ok.inj opened
          exact ⟨certain, Nat.lt_of_not_le unspent, rfl⟩

theorem change_ok {call : LedgerCall}
    (changed : call.change reservationMs segmentId row = .ok later) :
    RowChange reservationMs segmentId row call later := by
  cases call with
  | beginSegment ownerId ownerEpoch =>
      simp only [LedgerCall.change, beginRow] at changed
      split at changed
      case h_1 segment isOpen =>
          split at changed
          case isTrue own =>
              obtain rfl := Except.ok.inj changed
              obtain ⟨rfl, rfl⟩ := own
              exact .resumed segment isOpen
          case isFalse foreign =>
              obtain ⟨-, unspent, rfl⟩ := openSegment_ok changed
              exact .takenOver ownerId ownerEpoch segment isOpen foreign unspent
      case h_2 unopened =>
          obtain ⟨certain, unspent, rfl⟩ := openSegment_ok changed
          exact .begun ownerId ownerEpoch unopened certain unspent
  | tick segment elapsedMs interval =>
      obtain ⟨isOpen, changed⟩ := ensure_then_eq_ok.mp changed
      cases interval with
      | running =>
          obtain rfl := pure_eq_ok.mp changed
          exact .ran segment elapsedMs isOpen
      | sleep =>
          obtain rfl := pure_eq_ok.mp changed
          exact .slept segment elapsedMs isOpen
      | uncertain =>
          obtain rfl := pure_eq_ok.mp changed
          exact .doubted segment elapsedMs isOpen
  | settle segment status reason =>
      obtain ⟨isOpen, changed⟩ := ensure_then_eq_ok.mp changed
      obtain rfl := pure_eq_ok.mp changed
      exact .settled segment status reason isOpen
  | enqueue commandId manual reason =>
      exact .enqueued commandId manual reason later (enqueueRow_ok changed)
  | recordFailure now code safeToRetry =>
      obtain rfl := Except.ok.inj changed
      exact .failed now code safeToRetry

theorem recoveredTail_le (row : ExecutionMetadata) : recoveredTail row ≤ row.reservedTailMs :=
  Nat.min_le_left _ _

theorem RowChange.sound {call : LedgerCall} {reports : SegmentReports}
    (change : RowChange reservationMs segmentId row call later)
    (sound : RowSound reservationMs row reports) (regular : call.Regular row) :
    RowSound reservationMs later (reports.record row call) := by
  have accounted := sound.accounted
  have settledMs := sound.settled
  simp only [SegmentReports.total] at accounted
  cases change with
  | resumed segment isOpen =>
      simpa only [SegmentReports.record, isOpen, and_self, if_true] using sound
  | begun ownerId ownerEpoch unopened certain unspent =>
      have noTime := sound.unopened unopened
      simp only [SegmentReports.record, unopened]
      refine ⟨?_, rfl, (nomatch ·), Nat.min_le_left _ _, sound.tails, ?_⟩
      · simp only [begunRow, SegmentReports.total]
        omega
      · exact fun spent => absurd spent (Nat.not_le_of_lt unspent)
  | takenOver ownerId ownerEpoch segment isOpen foreign unspent =>
      have tail := recoveredTail_le row
      have reserved := sound.reserved
      simp only [SegmentReports.record, isOpen, foreign, if_false]
      refine ⟨?_, rfl, (nomatch ·), Nat.min_le_left _ _, ?_, ?_⟩
      · simp only [begunRow, recoverSegment, SegmentReports.total, List.map_cons, List.sum_cons]
        omega
      · exact List.forall_mem_cons.mpr ⟨le_trans tail reserved, sound.tails⟩
      · exact fun spent => absurd spent (Nat.not_le_of_lt unspent)
  | ran segment elapsedMs isOpen =>
      obtain ⟨certain, forward⟩ := regular isOpen
      refine ⟨?_, rfl, ?_, Nat.min_le_left _ _, sound.tails, ?_⟩
      · simp only [runningRow, SegmentReports.record, SegmentReports.total]
        omega
      · intro unopened
        exact absurd (isOpen.symm.trans unopened) (by nofun)
      · intro spent
        simp only [runningRow] at spent ⊢
        simp only [spent, decide_true, if_true, and_self]
  | slept segment elapsedMs isOpen => exact sound
  | doubted segment elapsedMs isOpen =>
      exact { sound with spent := fun spent => absurd spent (Nat.not_le_of_lt (regular isOpen)) }
  | settled segment status reason isOpen =>
      refine ⟨?_, rfl, fun _ => rfl, Nat.zero_le _, ?_, ?_⟩
      · simp only [settledRow, SegmentReports.record, SegmentReports.total, List.map_cons,
          List.sum_cons]
        omega
      · exact List.forall_mem_cons.mpr ⟨Nat.zero_le _, sound.tails⟩
      · intro spent
        simp only [settledRow] at spent ⊢
        simp only [spent, decide_true, if_true, and_self]
  | enqueued commandId manual reason later rescheduled => exact sound.rescheduled rescheduled
  | failed now code safeToRetry =>
      refine { sound with spent := fun spent => ?_ }
      have noRetry : ¬retries row safeToRetry = true := fun retried =>
        absurd spent (Nat.not_le_of_lt (regular retried))
      refine ⟨(sound.spent spent).1, ?_⟩
      simp [failureRow, noRetry]

/-- No call gives time back, and only a takeover or running time takes any. -/
theorem RowChange.consumed_le {call : LedgerCall}
    (change : RowChange reservationMs segmentId row call later) :
    row.consumedActiveMs ≤ later.consumedActiveMs := by
  cases change with
  | resumed | slept => exact le_refl _
  | begun | doubted | settled | failed => exact le_refl row.consumedActiveMs
  | takenOver => exact Nat.le_add_right row.consumedActiveMs _
  | ran => exact Nat.le_add_right row.consumedActiveMs _
  | enqueued commandId manual reason later rescheduled => exact rescheduled.consumed.ge

theorem RowChange.uncertain {call : LedgerCall}
    (change : RowChange reservationMs segmentId row call later) (regular : call.Regular row)
    (isUncertain : row.timingStatus = .uncertain) : later.timingStatus = .uncertain := by
  cases change with
  | resumed | slept => exact isUncertain
  | begun ownerId ownerEpoch unopened certain => exact absurd isUncertain certain
  | takenOver ownerId ownerEpoch segment isOpen foreign =>
      exact absurd isUncertain (regular segment isOpen foreign).1
  | ran segment elapsedMs isOpen => exact absurd isUncertain (regular isOpen).1
  | doubted => rfl
  | settled segment status reason isOpen => exact absurd isUncertain (regular isOpen)
  | enqueued commandId manual reason later rescheduled =>
      exact absurd isUncertain rescheduled.certain
  | failed => exact isUncertain

theorem RowChange.spent
    (change : RowChange reservationMs segmentId row (.beginSegment ownerId ownerEpoch) later)
    (spent : row.activeBudgetMs ≤ row.consumedActiveMs) : later = row := by
  cases change with
  | resumed => rfl
  | begun unopened certain unspent => omega
  | takenOver segment isOpen foreign unspent => omega

theorem RowChange.takeover_le
    (change : RowChange reservationMs segmentId row (.beginSegment ownerId ownerEpoch) later) :
    later.consumedActiveMs ≤ row.consumedActiveMs + row.reservedTailMs := by
  cases change with
  | resumed | begun => exact Nat.le_add_right _ _
  | takenOver => exact Nat.add_le_add_left (recoveredTail_le row) _

end Rows

/-! ## What a command does to the row -/

section Commands

variable {hashing : Hashing Digest} {store : KernelStore Digest} {call : Call}
  {task : ResearchTask Digest} {commit : Commit Digest}

/-- A command leaves the row, or schedules it anew. -/
theorem Performed.execution (performed : Performed hashing store call task commit) :
    KeptTime task.execution commit.1.execution := by
  cases performed with
  | claimed ownerId expected leaseSeconds isCommand nonterminal version free =>
      have frame := EffectsOnly.foldl (EffectsOnly.rebindEffect call (task.lease.epoch + 1))
        { task.advanced.bindAttempts (task.lease.epoch + 1) with
          lease := task.lease.grant ownerId (leaseUntil call.grantClock leaseSeconds) }
        (takenOver task (task.lease.epoch + 1))
      exact .inl frame.execution
  | started fence cause parent source enqueue execution isCommand fenced idle enqueued =>
      exact enqueueExecution_ok enqueued
  | checkpointed fence attempt attemptId expected payload operation =>
      cases operation with
      | commitCheckpoint => exact .inl rfl
      | resumeAttempt => exact .inl rfl
  | recovered fence isCommand fenced =>
      have frame := EffectsOnly.foldl (EffectsOnly.markUnknown call fence.ownerEpoch) task
        (abandoned task fence.ownerEpoch)
      exact .inl frame.execution
  | renewed | completed | revised | deduplicated | reserved | moved | resolved => exact .inl rfl

variable [DecidableEq Digest]

variable (hashing call) in
theorem stepKernel_execution (taskId : String) :
    KeptTime (store.executionOf taskId) ((stepKernel hashing store call).executionOf taskId) ∨
      (store.tasks.lookup taskId = none ∧ ∃ row request, newExecution request = .ok row ∧
        (stepKernel hashing store call).executionOf taskId = some row) := by
  cases isTask : store.tasks.lookup taskId with
  | none =>
      simp only [KernelStore.executionOf, isTask, Option.bind_none]
      cases isAfter : (stepKernel hashing store call).tasks.lookup taskId with
      | none => exact .inl (.inl rfl)
      | some after =>
          obtain ⟨commit, created, -, -, rfl⟩ := stepKernel_absent isTask isAfter
          cases isRow : commit.1.execution with
          | none => exact .inl (.inl isRow)
          | some row =>
              obtain ⟨request, made⟩ := created.execution row isRow
              exact .inr ⟨trivial, row, request, made, isRow⟩
  | some task =>
      obtain ⟨after, isAfter, step⟩ := stepKernel_task hashing call isTask
      simp only [KernelStore.executionOf, isTask, isAfter, Option.bind_some]
      cases step with
      | kept => exact .inl (.inl rfl)
      | audited => exact .inl (.inl rfl)
      | performed commit isCall checked isNew performed => exact .inl performed.execution

end Commands

/-! ## Worlds -/

section Worlds

variable [DecidableEq Digest] {hashing : Hashing Digest} {reservationMs : Nat}
  {world : LedgerWorld Digest}

variable (hashing reservationMs world) in
/-- What becomes of a call of the ledger: nothing, or one change of the row it comes to. -/
inductive LedgerOutline (taskId : String) (leaseClock : Instant) (call : LedgerCall) :
    LedgerWorld Digest → Prop where
  | refused : LedgerOutline taskId leaseClock call world
  | changed (task : ResearchTask Digest) (row later : ExecutionMetadata)
      (isTask : world.store.tasks.lookup taskId = some task)
      (passed : call.guard leaseClock task.toTaskRow = .ok ())
      (isRow : task.execution = some row)
      (change : RowChange reservationMs world.store.nextId row call later) :
      LedgerOutline taskId leaseClock call
        { store := world.store.write { task with execution := some later }
          reports := Function.update world.reports taskId
            ((world.reports taskId).record row call) }

variable (hashing reservationMs world) in
theorem stepLedger_outline (taskId : String) (leaseClock : Instant) (call : LedgerCall) :
    LedgerOutline reservationMs world taskId leaseClock call
      (stepLedger hashing reservationMs world (.ledger taskId leaseClock call)) := by
  simp only [stepLedger]
  cases isTask : world.store.tasks.lookup taskId with
  | none => exact .refused
  | some task =>
      cases ran : runLedger reservationMs world.store taskId leaseClock call with
      | error failure => exact .refused
      | ok result =>
          simp only [runLedger, KernelStore.task, isTask] at ran
          obtain ⟨found, isFound, ran⟩ := bind_eq_ok.mp ran
          obtain rfl := Except.ok.inj isFound
          obtain ⟨later, isLater, ran⟩ := bind_eq_ok.mp ran
          obtain rfl := pure_eq_ok.mp ran
          obtain ⟨done, passed, isLater⟩ := bind_eq_ok.mp isLater
          cases isRow : task.execution with
          | none =>
              rw [isRow] at isLater
              cases isLater
          | some row =>
              simp only [isRow] at isLater ⊢
              exact .changed task row later isTask passed isRow (change_ok isLater)

/-- The invariant of the ledger. -/
structure LedgerSound (reservationMs : Nat) (world : LedgerWorld Digest) : Prop where
  rows : ∀ taskId row, world.store.executionOf taskId = some row →
    RowSound reservationMs row (world.reports taskId)
  /-- Nothing has been reported for a task that is not there. -/
  fresh : ∀ taskId, world.store.tasks.lookup taskId = none → world.reports taskId = ⟨0, []⟩

omit [DecidableEq Digest] in
theorem LedgerSound.empty : LedgerSound reservationMs (LedgerWorld.empty : LedgerWorld Digest) :=
  ⟨(fun _ _ isRow => nomatch isRow), fun _ _ => rfl⟩

variable {row : ExecutionMetadata} {taskId : String} {leaseClock : Instant}

theorem newExecution_ok {request : ExecutionRequest} (made : newExecution request = .ok row) :
    RowSound reservationMs row ⟨0, []⟩ := by
  obtain ⟨positive, made⟩ := ensure_then_eq_ok.mp made
  obtain rfl := pure_eq_ok.mp made
  refine ⟨rfl, rfl, fun _ => rfl, Nat.zero_le _, (fun _ isClosed => nomatch isClosed), ?_⟩
  exact fun spent => absurd spent (Nat.not_le_of_lt positive)

theorem LedgerSound.command (sound : LedgerSound reservationMs world) (call : Call) :
    LedgerSound reservationMs (stepLedger hashing reservationMs world (.command call)) where
  rows := by
    intro taskId later isLater
    rcases stepKernel_execution hashing call taskId with
      kept | ⟨absent, row, request, made, isRow⟩
    · rcases kept with same | ⟨row, rescheduled, isRow, isRescheduled, change⟩
      · exact sound.rows taskId later (same.symm.trans isLater)
      · obtain rfl := Option.some.inj (isRescheduled.symm.trans isLater)
        exact (sound.rows taskId row isRow).rescheduled change
    · obtain rfl := Option.some.inj (isRow.symm.trans isLater)
      have fresh := sound.fresh taskId absent
      simp only [stepLedger]
      rw [fresh]
      exact newExecution_ok made
  fresh := by
    intro taskId absent
    refine sound.fresh taskId ?_
    cases isTask : world.store.tasks.lookup taskId with
    | none => rfl
    | some task =>
        obtain ⟨after, isAfter, -⟩ := stepKernel_task hashing call isTask
        exact absurd (isAfter.symm.trans absent) (by nofun)

omit [DecidableEq Digest] in
/-- A task whose row is written is found with it, and the others as they were. -/
theorem lookup_write_execution {store : KernelStore Digest} {task : ResearchTask Digest}
    (isTask : store.tasks.lookup taskId = some task) (later : ExecutionMetadata) (other : String) :
    (store.write { task with execution := some later }).tasks.lookup other =
      if other = taskId then some { task with execution := some later }
      else store.tasks.lookup other := by
  have isKey := taskId_of_lookup isTask
  by_cases same : other = taskId
  · subst same
    rw [if_pos rfl]
    exact write_lookup_self isKey
  · rw [if_neg same]
    exact write_lookup_of_ne fun isOther => same (isOther.trans isKey)

omit [DecidableEq Digest] in
theorem executionOf_write {store : KernelStore Digest} {task : ResearchTask Digest}
    (isTask : store.tasks.lookup taskId = some task) (later : ExecutionMetadata) (other : String) :
    (store.write { task with execution := some later }).executionOf other =
      if other = taskId then some later else store.executionOf other := by
  rw [KernelStore.executionOf, lookup_write_execution isTask]
  split <;> rfl

omit [DecidableEq Digest] in
theorem LedgerSound.changed (sound : LedgerSound reservationMs world) {task : ResearchTask Digest}
    {later : ExecutionMetadata} {call : LedgerCall}
    (isTask : world.store.tasks.lookup taskId = some task) (isRow : task.execution = some row)
    (change : RowChange reservationMs world.store.nextId row call later)
    (regular : call.Regular row) :
    LedgerSound reservationMs
      { store := world.store.write { task with execution := some later }
        reports := Function.update world.reports taskId
          ((world.reports taskId).record row call) } where
  rows := by
    intro other found isFound
    rw [executionOf_write isTask] at isFound
    by_cases same : other = taskId
    · subst same
      rw [if_pos rfl] at isFound
      obtain rfl := Option.some.inj isFound
      simp only [Function.update_self]
      have isStored : world.store.executionOf other = some row := by
        rw [KernelStore.executionOf, isTask, Option.bind_some, isRow]
      exact change.sound (sound.rows other row isStored) regular
    · rw [if_neg same] at isFound
      simp only [Function.update_of_ne same]
      exact sound.rows other found isFound
  fresh := by
    intro other absent
    rw [lookup_write_execution isTask] at absent
    by_cases same : other = taskId
    · rw [if_pos same] at absent
      nomatch absent
    · rw [if_neg same] at absent
      simp only [Function.update_of_ne same]
      exact sound.fresh other absent

omit [DecidableEq Digest] in
theorem reached_eq {call : LedgerCall} {task : ResearchTask Digest}
    (isTask : world.store.tasks.lookup taskId = some task)
    (passed : call.guard leaseClock task.toTaskRow = .ok ()) :
    call.reached world.store taskId leaseClock = task.execution := by
  simp only [LedgerCall.reached, isTask, passed]

theorem LedgerSound.step (sound : LedgerSound reservationMs world) {action : LedgerAction}
    (regular : action.Regular world) :
    LedgerSound reservationMs (stepLedger hashing reservationMs world action) := by
  cases action with
  | command call => exact sound.command call
  | ledger taskId leaseClock call =>
      have outline := stepLedger_outline hashing reservationMs world taskId leaseClock call
      generalize stepLedger hashing reservationMs world (.ledger taskId leaseClock call) = next
        at outline
      cases outline with
      | refused => exact sound
      | changed task row later isTask passed isRow change =>
          refine sound.changed isTask isRow change (regular row ?_)
          rw [reached_eq isTask passed, isRow]
          rfl

/-- The call is made under an owner, an epoch or a segment that is no longer the task's. -/
def LedgerCall.Superseded (task : ResearchTask Digest) : LedgerCall → Prop
  | .beginSegment ownerId ownerEpoch =>
      task.lease.owner.getD "" ≠ ownerId ∨ task.lease.epoch ≠ ownerEpoch
  | .tick segment _ _ | .settle segment _ _ =>
      task.lease.owner.getD "" ≠ segment.ownerId ∨ task.lease.epoch ≠ segment.ownerEpoch ∨
        ∀ row, task.execution = some row → row.segment ≠ some segment
  | .enqueue .. | .recordFailure .. => False

/-- What the ledger promises of a state and of the next action. -/
structure LedgerSafe (hashing : Hashing Digest) (reservationMs : Nat)
    (world : LedgerWorld Digest) : Prop where
  /-- The time consumed is the time reported, with one tail for each segment given up. -/
  accounted : ∀ taskId row, world.store.executionOf taskId = some row →
    row.consumedActiveMs = (world.reports taskId).total ∧
      ∀ segment ∈ (world.reports taskId).closed, segment.tailMs ≤ reservationMs
  /-- A spent budget is marked. -/
  spent : ∀ taskId row, world.store.executionOf taskId = some row →
    row.activeBudgetMs ≤ row.consumedActiveMs →
      row.timingStatus = .exhausted ∧ row.schedulingStatus = .manualRequired
  /-- No time is given back. -/
  grows : ∀ (action : LedgerAction) taskId row, world.store.executionOf taskId = some row →
    ∃ later, (stepLedger hashing reservationMs world action).store.executionOf taskId =
        some later ∧ row.consumedActiveMs ≤ later.consumedActiveMs
  /-- The tail of a segment given up is at most what was reserved for it. -/
  tails : ∀ taskId leaseClock ownerId ownerEpoch row,
    world.store.executionOf taskId = some row → row.reservedTailMs ≤ reservationMs ∧
      ∃ later, (stepLedger hashing reservationMs world
          (.ledger taskId leaseClock (.beginSegment ownerId ownerEpoch))).store.executionOf taskId =
        some later ∧ later.consumedActiveMs ≤ row.consumedActiveMs + row.reservedTailMs
  superseded : ∀ taskId leaseClock (call : LedgerCall) task,
    world.store.tasks.lookup taskId = some task → call.Superseded task →
      stepLedger hashing reservationMs world (.ledger taskId leaseClock call) = world
  /-- No segment begins on a spent budget. -/
  closed : ∀ taskId leaseClock ownerId ownerEpoch row,
    world.store.executionOf taskId = some row → row.activeBudgetMs ≤ row.consumedActiveMs →
      (stepLedger hashing reservationMs world
        (.ledger taskId leaseClock (.beginSegment ownerId ownerEpoch))).store.executionOf taskId =
          some row
  /-- The budget that `begin_segment` reports as spent is marked. -/
  raised : ∀ taskId leaseClock ownerId ownerEpoch,
    (LedgerAction.ledger taskId leaseClock (.beginSegment ownerId ownerEpoch)).Regular world →
    runLedger reservationMs world.store taskId leaseClock (.beginSegment ownerId ownerEpoch) =
        .error (.unsafeState "research active-time budget is exhausted") →
      ∃ row, (stepLedger hashing reservationMs world
          (.ledger taskId leaseClock (.beginSegment ownerId ownerEpoch))).store.executionOf taskId =
        some row ∧ row.timingStatus = .exhausted ∧ row.schedulingStatus = .manualRequired
  /-- Uncertain time stays uncertain. -/
  uncertain : ∀ (action : LedgerAction) taskId row, action.Regular world →
    world.store.executionOf taskId = some row → row.timingStatus = .uncertain →
      ∃ later, (stepLedger hashing reservationMs world action).store.executionOf taskId =
        some later ∧ later.timingStatus = .uncertain

omit [DecidableEq Digest] in
theorem superseded_refused {task : ResearchTask Digest} {segmentId : Nat}
    {later : ExecutionMetadata} {call : LedgerCall} (superseded : call.Superseded task)
    (passed : call.guard leaseClock task.toTaskRow = .ok ()) (isRow : task.execution = some row)
    (change : RowChange reservationMs segmentId row call later) : False := by
  have notOwner : ∀ {ownerId : String} {ownerEpoch : Nat},
      task.assertOwner ownerId ownerEpoch leaseClock = .ok () →
        ¬(task.lease.owner.getD "" ≠ ownerId ∨ task.lease.epoch ≠ ownerEpoch) := by
    intro ownerId ownerEpoch owned
    obtain ⟨⟨owner, epoch⟩, -⟩ := assertOwner_eq_ok.mp owned
    exact not_or.mpr ⟨not_not.mpr owner, not_not.mpr epoch⟩
  have notSegment : ∀ {segment : Segment}, row.segment = some segment →
      task.assertOwner segment.ownerId segment.ownerEpoch leaseClock = .ok () →
        ¬(task.lease.owner.getD "" ≠ segment.ownerId ∨ task.lease.epoch ≠ segment.ownerEpoch ∨
          ∀ row, task.execution = some row → row.segment ≠ some segment) := by
    intro segment isOpen owned
    rw [← or_assoc, not_or]
    exact ⟨notOwner owned, fun all => all row isRow isOpen⟩
  cases change with
  | resumed | begun | takenOver =>
      exact notOwner (ensure_then_eq_ok.mp passed).2 superseded
  | ran segment elapsedMs isOpen | slept segment elapsedMs isOpen
  | doubted segment elapsedMs isOpen | settled segment status reason isOpen =>
      exact notSegment isOpen passed superseded
  | enqueued | failed => exact superseded

variable (hashing reservationMs) in
theorem stepLedger_execution (action : LedgerAction)
    (isRow : world.store.executionOf taskId = some row) :
    ∃ later, (stepLedger hashing reservationMs world action).store.executionOf taskId =
      some later ∧
        (later = row ∨ Rescheduled row later ∨
          ∃ leaseClock call, action = .ledger taskId leaseClock call ∧
            call.reached world.store taskId leaseClock = some row ∧
            RowChange reservationMs world.store.nextId row call later) := by
  cases action with
  | command call =>
      rcases stepKernel_execution hashing call taskId with
        kept | ⟨absent, -⟩
      · rcases kept with same | ⟨other, later, isOther, isLater, rescheduled⟩
        · exact ⟨row, same.trans isRow, .inl rfl⟩
        · obtain rfl := Option.some.inj (isOther.symm.trans isRow)
          exact ⟨later, isLater, .inr (.inl rescheduled)⟩
      · rw [KernelStore.executionOf, absent] at isRow
        nomatch isRow
  | ledger other leaseClock call =>
      have outline := stepLedger_outline hashing reservationMs world other leaseClock call
      generalize stepLedger hashing reservationMs world (.ledger other leaseClock call) = next
        at outline
      cases outline with
      | refused => exact ⟨row, isRow, .inl rfl⟩
      | changed task found later isTask passed isFound change =>
          simp only [executionOf_write isTask]
          by_cases same : taskId = other
          · subst same
            rw [KernelStore.executionOf, isTask, Option.bind_some, isFound] at isRow
            obtain rfl := Option.some.inj isRow
            have isReached := (reached_eq isTask passed).trans isFound
            exact ⟨later, if_pos rfl, .inr (.inr ⟨leaseClock, call, rfl, isReached, change⟩)⟩
          · exact ⟨row, (if_neg same).trans isRow, .inl rfl⟩

/-- The error of a spent budget is raised on a spent budget, or on one that the tail of the segment
taken over would spend. -/
theorem beginRow_exhausted {ownerId : String} {ownerEpoch segmentId : Nat}
    (regular : (LedgerCall.beginSegment ownerId ownerEpoch).Regular row)
    (raised : beginRow reservationMs segmentId ownerId ownerEpoch row =
      .error (.unsafeState "research active-time budget is exhausted")) :
    row.activeBudgetMs ≤ row.consumedActiveMs := by
  have spends : ∀ {row : ExecutionMetadata},
      openSegment reservationMs segmentId ownerId ownerEpoch row =
        .error (.unsafeState "research active-time budget is exhausted") →
      row.activeBudgetMs ≤ row.consumedActiveMs := by
    intro row raised
    unfold openSegment at raised
    split at raised
    case isTrue => simp at raised
    case isFalse =>
        split at raised
        case isTrue spent => exact spent
        case isFalse => nomatch raised
  unfold beginRow at raised
  split at raised
  case h_2 => exact spends raised
  case h_1 segment isOpen =>
      split at raised
      case isTrue => nomatch raised
      case isFalse foreign =>
          by_contra unspent
          have below := (regular segment isOpen foreign).2 (Nat.lt_of_not_le unspent)
          exact absurd (spends raised) (Nat.not_le_of_lt below)

omit [DecidableEq Digest] in
theorem exhausted_reached {ownerId : String} {ownerEpoch : Nat}
    (raised : runLedger reservationMs world.store taskId leaseClock
        (.beginSegment ownerId ownerEpoch) =
      .error (.unsafeState "research active-time budget is exhausted")) :
    ∃ row, (LedgerCall.beginSegment ownerId ownerEpoch).reached world.store taskId leaseClock =
        some row ∧ world.store.executionOf taskId = some row ∧
      beginRow reservationMs world.store.nextId ownerId ownerEpoch row =
        .error (.unsafeState "research active-time budget is exhausted") := by
  rcases bind_eq_error.mp raised with noTask | ⟨task, isTask, raised⟩
  · unfold KernelStore.task at noTask
    split at noTask <;> simp at noTask
  have isTask := KernelStore.task_ok isTask
  rcases bind_eq_error.mp raised with raised | ⟨later, -, raised⟩
  · rcases bind_eq_error.mp raised with refused | ⟨done, passed, raised⟩
    · rcases bind_eq_error.mp refused with terminal | ⟨-, -, refused⟩
      · have message := (ensure_eq_error.mp terminal).2
        simp at message
      · rcases bind_eq_error.mp refused with stale | ⟨-, -, expired⟩
        · exact absurd (ensure_eq_error.mp stale).2 (by simp)
        · exact absurd (ensure_eq_error.mp expired).2 (by simp)
    · split at raised
      case h_1 noRow => simp [LedgerCall.missing] at raised
      case h_2 row isRow =>
          refine ⟨row, (reached_eq isTask passed).trans isRow, ?_, raised⟩
          rw [KernelStore.executionOf, isTask, Option.bind_some, isRow]
  · cases raised

theorem LedgerSound.safe (sound : LedgerSound reservationMs world) :
    LedgerSafe hashing reservationMs world where
  accounted := fun taskId row isRow =>
    ⟨(sound.rows taskId row isRow).accounted, (sound.rows taskId row isRow).tails⟩
  spent := fun taskId row isRow => (sound.rows taskId row isRow).spent
  grows := by
    intro action taskId row isRow
    obtain ⟨later, isLater, same | rescheduled | ⟨leaseClock, call, -, -, change⟩⟩ :=
      stepLedger_execution hashing reservationMs action isRow
    · exact ⟨later, isLater, same.symm ▸ le_refl _⟩
    · exact ⟨later, isLater, rescheduled.consumed.ge⟩
    · exact ⟨later, isLater, change.consumed_le⟩
  tails := by
    intro taskId leaseClock ownerId ownerEpoch row isRow
    refine ⟨(sound.rows taskId row isRow).reserved, ?_⟩
    obtain ⟨later, isLater, same | rescheduled | ⟨_, call, isCall, -, change⟩⟩ :=
      stepLedger_execution hashing reservationMs
        (.ledger taskId leaseClock (.beginSegment ownerId ownerEpoch)) isRow
    · exact ⟨later, isLater, same.symm ▸ Nat.le_add_right _ _⟩
    · exact ⟨later, isLater, by rw [rescheduled.consumed]; exact Nat.le_add_right _ _⟩
    · obtain ⟨-, -, rfl⟩ := LedgerAction.ledger.inj isCall
      exact ⟨later, isLater, change.takeover_le⟩
  superseded := by
    intro taskId leaseClock call task isTask superseded
    have outline := stepLedger_outline hashing reservationMs world taskId leaseClock call
    generalize stepLedger hashing reservationMs world (.ledger taskId leaseClock call) = next
      at outline
    cases outline with
    | refused => rfl
    | changed other row later isOther passed isRow change =>
        obtain rfl := Option.some.inj (isOther.symm.trans isTask)
        exact absurd change fun change => superseded_refused superseded passed isRow change
  closed := by
    intro taskId leaseClock ownerId ownerEpoch row isRow spent
    obtain ⟨later, isLater, same | rescheduled | ⟨_, call, isCall, -, change⟩⟩ :=
      stepLedger_execution hashing reservationMs
        (.ledger taskId leaseClock (.beginSegment ownerId ownerEpoch)) isRow
    · rw [isLater, same]
    · exact absurd ((sound.rows taskId row isRow).spent spent).1 rescheduled.unspent
    · obtain ⟨-, -, rfl⟩ := LedgerAction.ledger.inj isCall
      rw [isLater, change.spent spent]
  raised := by
    intro taskId leaseClock ownerId ownerEpoch regular raised
    have unchanged : stepLedger hashing reservationMs world
        (.ledger taskId leaseClock (.beginSegment ownerId ownerEpoch)) = world := by
      simp only [stepLedger, raised]
      cases world.store.tasks.lookup taskId <;> rfl
    obtain ⟨row, isReached, isRow, spends⟩ := exhausted_reached raised
    rw [unchanged]
    have spent := beginRow_exhausted (regular row isReached) spends
    exact ⟨row, isRow, (sound.rows taskId row isRow).spent spent⟩
  uncertain := by
    intro action taskId row regular isRow isUncertain
    obtain ⟨later, isLater, same | rescheduled | ⟨leaseClock, call, isCall, isReached, change⟩⟩ :=
      stepLedger_execution hashing reservationMs action isRow
    · exact ⟨later, isLater, same.symm ▸ isUncertain⟩
    · exact absurd isUncertain rescheduled.certain
    · subst isCall
      exact ⟨later, isLater, change.uncertain (regular row isReached) isUncertain⟩

end Worlds

/-! ## Runs -/

section Runs

variable [DecidableEq Digest]

/-- Over every run of regular actions the ledger accounts for the time, marks a spent budget and
keeps uncertain time uncertain. -/
theorem active_time_ledger (hashing : Hashing Digest) (reservationMs : Nat)
    (actions : List LedgerAction)
    (regular : EachStep (stepLedger hashing reservationMs) LedgerAction.Regular LedgerWorld.empty
      actions) :
    LedgerSafe hashing reservationMs
      (runFrom (stepLedger hashing reservationMs) LedgerWorld.empty actions) := by
  have kept : ∀ (world : LedgerWorld Digest) action, LedgerSound reservationMs world →
      action.Regular world →
        LedgerSound reservationMs (stepLedger hashing reservationMs world action) :=
    fun _ _ sound regular => sound.step regular
  exact (invariant_run_of_each kept LedgerSound.empty regular).safe

/-- A task with a budget of five seconds, claimed by an owner who begins a segment. -/
def begunActions : List LedgerAction :=
  [.command ⟨"task", "create", 0, 0, 0,
      .createTask "objective" [] "" none none (some ⟨"policy", 5000, .none, .idle, "run", none⟩)⟩,
    .command ⟨"task", "claim", 0, 0, 0, .claimOwner "owner" 0 1⟩,
    .ledger "task" 0 (.beginSegment "owner" 1)]

/-- The segment of `begunActions`. -/
def begunSegment : Segment := ⟨2, "owner", 1⟩

theorem active_time_ledger_settled :
    LedgerSafe plainHashing 5000 (runFrom (stepLedger plainHashing 5000) LedgerWorld.empty
      (begunActions ++
        [.ledger "task" 0 (.tick begunSegment 700 .running),
          .ledger "task" 0 (.settle begunSegment .idle none)])) :=
  active_time_ledger plainHashing 5000 _ (by decide +kernel)

end Runs

/-! ## Runs that are not regular -/

/-- `begunActions` and further actions, with the whole budget as the reservation. -/
def afterBegun (actions : List LedgerAction) : LedgerWorld Command :=
  runFrom (stepLedger plainHashing 5000) LedgerWorld.empty (begunActions ++ actions)

/-- A later owner, once the lease of the first one is over. -/
def secondClaim : LedgerAction :=
  .command ⟨"task", "second claim", 2000000, 2000000, 2000000, .claimOwner "other" 1 1⟩

/-- The takeover of the segment raises on a spent budget and leaves the row active and running, with
nothing consumed. A running tick makes uncertain time active. Elapsed time that goes back is
counted twice. -/
theorem spent_budget_unmarked :
    runLedger 5000 (afterBegun [secondClaim]).store "task" 2000000 (.beginSegment "other" 2) =
        .error (.unsafeState "research active-time budget is exhausted") ∧
      ((afterBegun [secondClaim, .ledger "task" 2000000 (.beginSegment "other" 2)]).store.executionOf
          "task").map (fun row => (row.timingStatus, row.schedulingStatus, row.consumedActiveMs)) =
        some (.active, .running, 0) ∧
      ((afterBegun [.ledger "task" 0 (.tick begunSegment 0 .uncertain)]).store.executionOf
          "task").map ExecutionMetadata.timingStatus = some .uncertain ∧
      ((afterBegun [.ledger "task" 0 (.tick begunSegment 0 .uncertain),
          .ledger "task" 0 (.tick begunSegment 100 .running)]).store.executionOf
          "task").map ExecutionMetadata.timingStatus = some .active ∧
      ((afterBegun [.ledger "task" 0 (.tick begunSegment 100 .running),
          .ledger "task" 0 (.tick begunSegment 40 .running),
          .ledger "task" 0 (.tick begunSegment 100 .running),
          .ledger "task" 0 (.settle begunSegment .idle none)]).store.executionOf
          "task").map ExecutionMetadata.consumedActiveMs = some 160 := by
  refine ⟨rfl, ?_, ?_, ?_, ?_⟩
  · decide +kernel
  · decide +kernel
  · decide +kernel
  · decide +kernel

end Shiliu.Research
