/-
Module: Shiliu.Research.RecoveryQueue
Purpose: A task that cannot run and the tasks behind it. The scan takes the task that was updated
  first, so a run gives way to the others exactly when it writes the metadata of its task or the
  task is over or waits for the user. The exits that write nothing are listed: they leave the task
  at the head, and it is selected again.
Trusted boundary: none
Main exports: Moved, WriteOutcome, GivesWay, run_gives_way_iff, blocked_task_selected_again
-/
import Shiliu.Research.Recovery

set_option linter.all false

namespace Shiliu.Research

open Shiliu.Library Shiliu.Storage

variable {run : Run} {row next : Scheduled} {limit : Instant}

/-! ## Exits that write nothing -/

/-- An answer is an exception. -/
def raises {Answer : Type} (answer : Except Raised Answer) : Bool := !answer.isOk

/-- What a transaction of the ledger raises. -/
def callFailure (run : Run) (row : ExecutionMetadata) (visit : Except Raised Visit)
    (call : Visit → LedgerCall) : Option Raised :=
  match visit with
  | .error raised => some raised
  | .ok visit =>
      match (call visit).attempt run visit row with
      | .error failure => some failure.raised
      | .ok _ => none

/-- An exception of the branch for complete runs that is not recorded: a plain conflict, one that is
no error of the service, or one whose recording fails. -/
def unrecordedLocal (run : Run) (raised : Raised) : Bool :=
  raised = .conflict || !raised.isResearch || raises run.safeRetry || raises run.failureRecord

/-- The branch for complete runs writes nothing: the task is not claimed, or an exception is not
recorded. -/
def localOverlooked (run : Run) : Bool :=
  match claimAnswer run with
  | .error raised => unrecordedLocal run raised
  | .ok .unclaimed => true
  | .ok .unknown =>
      match run.unknownRecord with
      | .error raised => unrecordedLocal run raised
      | .ok _ => false
  | .ok (.owner ownerEpoch) =>
      match completionClock run ownerEpoch with
      | .error raised => unrecordedLocal run raised
      | .ok _ => false

/-- An exception of the claim that is not recorded. -/
def unrecordedClaim (run : Run) (raised : Raised) : Bool :=
  raised ≠ .storageBusy || raises run.failureRecord

/-- Whether the loop ends before a tick writes, and the variables it ends with; `none` when it
raises. -/
def quietTurns (run : Run) (segment : Segment) (row : ExecutionMetadata) :
    List Turn → LoopState → Bool × Option LoopState
  | [], state => (true, some state)
  | turn :: rest, state =>
      match state.renewal turn with
      | .error _ => (true, none)
      | .ok state =>
          if state.tickDue turn then
            match callFailure run row turn.ticked fun _ => state.tickCall turn segment with
            | some _ => (true, none)
            | none =>
                if state.interval turn = .sleep then
                  quietTurns run segment row rest (state.afterTick turn row)
                else (false, none)
          else quietTurns run segment row rest state

/-- The exception of the worker is not recorded: there is none, it is a plain conflict, or its
closing or its recording fails. -/
def unrecordedFailure (run : Run) : Bool :=
  match run.boundary with
  | .ok () => true
  | .error raised =>
      raised = .conflict || raises (closedFailure run) || raises (safeRetryOf run raised) ||
        raises run.failureRecord

/-- The settlement writes nothing: the timing is uncertain, or its tick raises. -/
def quietSettlement (run : Run) (segment : Segment) (row : ExecutionMetadata)
    (state : LoopState) : Bool :=
  if state.timingUncertain then unrecordedFailure run
  else
    match callFailure run row run.settleTick fun _ =>
        .tick segment (roundMs (state.activeElapsed + (run.endedMono - state.previousMono)))
          .running with
    | none => false
    | some raised => !raised.isConflict || unrecordedFailure run

/-- A run that goes on with its own segment writes nothing to the end. -/
def ownSegmentOverlooked (run : Run) (segment : Segment) (row : ExecutionMetadata) : Bool :=
  raises run.budget ||
    match quietTurns run segment row run.turns run.loopStart with
    | (quiet, none) => quiet
    | (quiet, some state) => quiet && quietSettlement run segment row state

/-- The run of a claimed task writes nothing: its segment cannot be begun, or it is an own one that
nothing is written for. -/
def segmentOverlooked (run : Run) (ownerEpoch : Nat) (row : ExecutionMetadata) : Bool :=
  match callFailure run row run.beginning fun _ => .beginSegment run.runnerId ownerEpoch with
  | some _ => true
  | none =>
      row.segment.any fun segment =>
        segment.ownerId = run.runnerId && segment.ownerEpoch = ownerEpoch &&
          ownSegmentOverlooked run segment row

/-- The run leaves through an exit that writes nothing. -/
def overlooked (run : Run) (row : ExecutionMetadata) : Bool :=
  match run.complete with
  | .error _ => true
  | .ok true => localOverlooked run
  | .ok false =>
      if !run.available then raises run.failureRecord
      else if !run.hasRunLock then true
      else
        match claimAnswer run with
        | .error raised => unrecordedClaim run raised
        | .ok .unclaimed => true
        | .ok .unknown =>
            match run.unknownRecord with
            | .error raised => unrecordedClaim run raised
            | .ok _ => false
        | .ok (.owner ownerEpoch) => segmentOverlooked run ownerEpoch row

/-! ## What is written -/

/-- The row is as it was, or was updated after a time. -/
def Moved (limit : Instant) (row next : Scheduled) : Prop :=
  next = row ∨ limit < next.updatedAt

/-- Quiet, the row is as it was; otherwise it was updated after a time. -/
structure WriteOutcome (limit : Instant) (row next : Scheduled) (quiet : Bool) : Prop where
  unchanged : quiet = true → next = row
  updated : quiet = false → limit < next.updatedAt

theorem WriteOutcome.moved {quiet : Bool} (outcome : WriteOutcome limit row next quiet) :
    Moved limit row next := by
  cases quiet with
  | true => exact .inl (outcome.unchanged rfl)
  | false => exact .inr (outcome.updated rfl)

theorem WriteOutcome.same : WriteOutcome limit row row true where
  unchanged _ := rfl
  updated absurdity := by cases absurdity

theorem WriteOutcome.written (later : limit < next.updatedAt) :
    WriteOutcome limit row next false where
  unchanged absurdity := by cases absurdity
  updated _ := later

theorem Moved.later (moved : Moved limit row next) (later : limit < row.updatedAt) :
    limit < next.updatedAt := by
  rcases moved with rfl | later'
  · exact later
  · exact later'

theorem Moved.trans {middle : Scheduled} (first : Moved limit row middle)
    (second : Moved limit middle next) : Moved limit row next := by
  rcases first with rfl | later
  · exact second
  · exact .inr (second.later later)

/-- The clock of a transaction reads later than a time. -/
def Ahead (limit : Instant) (visit : Except Raised Visit) : Prop :=
  ∀ reached, visit = .ok reached → limit < reached.now

/-- All clocks of a run that become an `updated_at` read later than a time. -/
structure Run.Ahead (run : Run) (limit : Instant) : Prop where
  completion : ∀ current now, run.completion = .ok (current, now) → limit < now
  beginning : Research.Ahead limit run.beginning
  turns : ∀ turn ∈ run.turns, Research.Ahead limit turn.ticked
  settleTick : Research.Ahead limit run.settleTick
  settling : Research.Ahead limit run.settling
  unknownRecord : Research.Ahead limit run.unknownRecord
  failureRecord : Research.Ahead limit run.failureRecord

section Calls

variable {visit : Except Raised Visit} {call : Visit → LedgerCall}

/-- A transaction that raises is rolled back. -/
theorem ledgerCall_of_failure {raised : Raised}
    (failed : callFailure run row.execution visit call = some raised) :
    ledgerCall run row visit call = (row, .error raised) := by
  unfold callFailure at failed
  unfold ledgerCall
  split at failed
  · cases failed
    rfl
  · split at failed
    · rename_i isFailure
      cases failed
      simp only [isFailure]
    · cases failed

theorem ledgerCall_of_none (done : callFailure run row.execution visit call = none) :
    ∃ reached execution, visit = .ok reached ∧
      (call reached).attempt run reached row.execution = .ok execution ∧
      ledgerCall run row visit call =
        (⟨execution, if (call reached).writes row.execution then reached.now else row.updatedAt⟩,
          .ok execution) := by
  unfold callFailure at done
  unfold ledgerCall
  split at done
  · cases done
  · rename_i reached
    split at done
    · cases done
    · rename_i execution isExecution
      refine ⟨reached, execution, rfl, isExecution, ?_⟩
      simp only [isExecution]

theorem ledgerCall_updated (ahead : Ahead limit visit)
    (done : callFailure run row.execution visit call = none)
    (writes : ∀ reached, visit = .ok reached → (call reached).writes row.execution = true) :
    limit < (ledgerCall run row visit call).1.updatedAt := by
  obtain ⟨reached, execution, isVisit, _, isCall⟩ := ledgerCall_of_none done
  rw [isCall]
  simp only [writes reached isVisit, if_true]
  exact ahead reached isVisit

/-- A transaction that does not write leaves the row. -/
theorem attempt_of_not_writes {call : LedgerCall} {reached : Visit}
    {metadata execution : ExecutionMetadata}
    (done : call.attempt run reached metadata = .ok execution)
    (quiet : call.writes metadata = false) : execution = metadata := by
  obtain ⟨_, _, changed⟩ := bind_eq_ok.mp done
  cases call with
  | beginSegment ownerId ownerEpoch =>
      unfold LedgerCall.writes at quiet
      unfold LedgerCall.change beginRow at changed
      cases isSegment : metadata.segment with
      | none =>
          rw [isSegment] at quiet
          cases quiet
      | some segment =>
          rw [isSegment] at quiet changed
          have isOwn : segment.ownerId = ownerId ∧ segment.ownerEpoch = ownerEpoch := by
            simpa using quiet
          simp only [if_pos isOwn] at changed
          cases changed
          rfl
  | tick segment elapsedMs interval =>
      cases interval with
      | running => cases quiet
      | uncertain => cases quiet
      | sleep =>
          unfold LedgerCall.change tickRow at changed
          by_cases isSegment : metadata.segment = some segment
          · simp only [isSegment, ensure, if_true] at changed
            cases changed
            rfl
          · simp only [ensure, if_neg isSegment] at changed
            cases changed
  | settle segment status reason => cases quiet
  | enqueue commandId manual reason => cases quiet
  | recordFailure now code safe => cases quiet

/-- A transaction that is rolled back or does not write leaves the row, any other updates it. -/
theorem ledgerCall_outcome (run : Run) (row : Scheduled) (call : Visit → LedgerCall)
    (ahead : Ahead limit visit) (writes : Bool)
    (isWrites : ∀ reached, (call reached).writes row.execution = writes) :
    WriteOutcome limit row (ledgerCall run row visit call).1
      ((callFailure run row.execution visit call).isSome || !writes) := by
  cases failed : callFailure run row.execution visit call with
  | some raised =>
      rw [ledgerCall_of_failure failed]
      exact .same
  | none =>
      cases writes with
      | true => exact .written (ledgerCall_updated ahead failed fun reached _ => isWrites reached)
      | false =>
          obtain ⟨reached, execution, _, done, isCall⟩ := ledgerCall_of_none failed
          rw [isCall]
          simp only [isWrites reached, attempt_of_not_writes done (isWrites reached)]
          exact .same

end Calls

theorem callFailure_record (visit : Except Raised Visit) (metadata : ExecutionMetadata)
    (code : String) (safe : Bool) :
    (callFailure run metadata visit fun reached =>
      .recordFailure reached.now code safe).isSome = raises visit := by
  cases visit with
  | error raised => rfl
  | ok reached => rfl

theorem recordFailure_outcome (run : Run) (row : Scheduled) {visit : Except Raised Visit}
    (ahead : Ahead limit visit) (code : String) (safe : Bool) :
    WriteOutcome limit row (recordFailure run row visit code safe).1 (raises visit) := by
  have outcome := ledgerCall_outcome run row (fun reached => .recordFailure reached.now code safe)
    ahead true (fun _ => rfl)
  rw [callFailure_record, Bool.not_true, Bool.or_false] at outcome
  exact outcome

theorem recordFailure_answer (run : Run) (row : Scheduled) (visit : Except Raised Visit)
    (code : String) (safe : Bool) :
    (recordFailure run row visit code safe).2 = visit.map fun _ => () := by
  cases visit with
  | error raised => rfl
  | ok reached => rfl

/-! ## Complete runs -/

theorem handleLocal_outcome (ahead : run.Ahead limit) (raised : Raised) :
    WriteOutcome limit row (handleLocal run row raised).1 (unrecordedLocal run raised) := by
  unfold handleLocal unrecordedLocal
  by_cases isConflict : raised = .conflict
  · rw [if_pos isConflict, isConflict]
    exact .same
  · rw [if_neg isConflict, decide_eq_false isConflict, Bool.false_or]
    cases isResearch : raised.isResearch with
    | false =>
        rw [if_neg Bool.false_ne_true]
        exact .same
    | true =>
        rw [if_pos rfl, Bool.not_true, Bool.false_or]
        cases isSafe : run.safeRetry with
        | error failure => exact .same
        | ok safe => exact recordFailure_outcome run row ahead.failureRecord _ safe

/-- The branch for complete runs writes nothing exactly at the exits that are listed. -/
theorem localCompletion_outcome (ahead : run.Ahead limit) :
    WriteOutcome limit row (localCompletion run row).1 (localOverlooked run) := by
  unfold localCompletion localOverlooked claimAndRecover
  cases claimed : claimAnswer run with
  | error raised => exact handleLocal_outcome ahead raised
  | ok answer =>
      cases answer with
      | unclaimed => exact .same
      | unknown =>
          have recorded := recordFailure_outcome run row ahead.unknownRecord
            "provider_outcome_unknown" false
          have answered := recordFailure_answer run row run.unknownRecord
            "provider_outcome_unknown" false
          cases isVisit : run.unknownRecord with
          | error raised =>
              rw [isVisit] at recorded answered
              simp only [answered, Except.map]
              rw [recorded.unchanged rfl]
              exact handleLocal_outcome ahead raised
          | ok reached =>
              rw [isVisit] at recorded answered
              simp only [answered, Except.map]
              exact .written (recorded.updated rfl)
      | owner ownerEpoch =>
          simp only
          cases completed : completionClock run ownerEpoch with
          | error raised => exact handleLocal_outcome ahead raised
          | ok now =>
              apply WriteOutcome.written
              obtain ⟨_, _, completed⟩ := bind_eq_ok.mp completed
              obtain ⟨_, _, completed⟩ := bind_eq_ok.mp completed
              obtain ⟨⟨current, clock⟩, isCompletion, completed⟩ := bind_eq_ok.mp completed
              simp only at completed
              split at completed
              · cases completed
              · rw [← pure_eq_ok.mp completed]
                exact ahead.completion current clock isCompletion

/-! ## The supervised worker -/

theorem ledgerCall_moved (run : Run) (row : Scheduled) {visit : Except Raised Visit}
    (ahead : Ahead limit visit) (call : LedgerCall) :
    Moved limit row (ledgerCall run row visit fun _ => call).1 :=
  (ledgerCall_outcome run row (fun _ => call) ahead (call.writes row.execution)
    (fun _ => rfl)).moved

theorem superviseTurns_moved {segment : Segment} {turns : List Turn}
    (ahead : ∀ turn ∈ turns, Ahead limit turn.ticked) (state : LoopState) (row : Scheduled) :
    Moved limit row (superviseTurns run segment turns state row).1 := by
  induction turns generalizing state row with
  | nil => exact .inl rfl
  | cons turn rest inductionHypothesis =>
      have aheadRest : ∀ turn ∈ rest, Ahead limit turn.ticked :=
        fun turn isTurn => ahead turn (List.mem_cons_of_mem _ isTurn)
      rw [superviseTurns]
      split
      · exact .inl rfl
      · rename_i renewed _
        split
        · have ticked := ledgerCall_moved run row (ahead turn List.mem_cons_self)
            (renewed.tickCall turn segment)
          rcases isTick : ledgerCall run row turn.ticked fun _ => renewed.tickCall turn segment with
            ⟨after, raised | snapshot⟩
          · rw [isTick] at ticked
            exact ticked
          · rw [isTick] at ticked
            exact ticked.trans (inductionHypothesis aheadRest _ after)
        · exact inductionHypothesis aheadRest renewed row

theorem superviseTurns_outcome (run : Run) (segment : Segment) {turns : List Turn}
    (ahead : ∀ turn ∈ turns, Ahead limit turn.ticked) (state : LoopState) (row : Scheduled) :
    WriteOutcome limit row (superviseTurns run segment turns state row).1
        (quietTurns run segment row.execution turns state).1 ∧
      ((quietTurns run segment row.execution turns state).1 = true →
        (superviseTurns run segment turns state row).2.toOption =
          (quietTurns run segment row.execution turns state).2) := by
  induction turns generalizing state with
  | nil => exact ⟨.same, fun _ => rfl⟩
  | cons turn rest inductionHypothesis =>
      have aheadRest : ∀ turn ∈ rest, Ahead limit turn.ticked :=
        fun turn isTurn => ahead turn (List.mem_cons_of_mem _ isTurn)
      rw [superviseTurns, quietTurns]
      cases renewed : state.renewal turn with
      | error raised => exact ⟨.same, fun _ => rfl⟩
      | ok state =>
          simp only
          split
          · cases failed : callFailure run row.execution turn.ticked fun _ =>
                state.tickCall turn segment with
            | some raised =>
                rw [ledgerCall_of_failure failed]
                exact ⟨.same, fun _ => rfl⟩
            | none =>
                obtain ⟨reached, execution, _, done, isCall⟩ := ledgerCall_of_none failed
                by_cases slept : state.interval turn = .sleep
                · have quiet : (state.tickCall turn segment).writes row.execution = false := by
                    rw [LoopState.tickCall, slept]
                    rfl
                  rw [isCall]
                  simp only [if_pos slept, attempt_of_not_writes done quiet, quiet,
                    Bool.false_eq_true, if_false]
                  exact inductionHypothesis aheadRest _
                · have writes : (state.tickCall turn segment).writes row.execution = true := by
                    rw [LoopState.tickCall]
                    cases isInterval : state.interval turn with
                    | running => rfl
                    | uncertain => rfl
                    | sleep => exact absurd isInterval slept
                  simp only [if_neg slept]
                  refine ⟨.written ?_, fun absurdity => by cases absurdity⟩
                  have ticked := ledgerCall_updated (ahead turn List.mem_cons_self) failed
                    fun _ _ => writes
                  rw [isCall] at ticked ⊢
                  exact (superviseTurns_moved aheadRest _ _).later ticked
          · exact inductionHypothesis aheadRest state

theorem closeFailure_outcome (ahead : run.Ahead limit) :
    WriteOutcome limit row (closeFailure run row).1 (unrecordedFailure run) := by
  unfold closeFailure unrecordedFailure
  cases run.boundary with
  | ok done => exact .same
  | error raised =>
      simp only
      by_cases isConflict : raised = .conflict
      · rw [if_pos isConflict, isConflict]
        exact .same
      · rw [if_neg isConflict, decide_eq_false isConflict, Bool.false_or]
        cases closedFailure run with
        | error failure => exact .same
        | ok done =>
            cases safeRetryOf run raised with
            | error failure => exact .same
            | ok safe => exact recordFailure_outcome run row ahead.failureRecord _ safe

theorem finishSegment_outcome (ahead : run.Ahead limit) (segment : Segment) (state : LoopState)
    (row : Scheduled) :
    WriteOutcome limit row (finishSegment run segment state row).1
      (quietSettlement run segment row.execution state) := by
  unfold finishSegment settleCertain quietSettlement
  cases uncertain : state.timingUncertain with
  | true => exact closeFailure_outcome ahead
  | false =>
      simp only [Bool.false_eq_true, if_false]
      cases failed : callFailure run row.execution run.settleTick fun _ =>
          .tick segment (roundMs (state.activeElapsed + (run.endedMono - state.previousMono)))
            .running with
      | some raised =>
          have isSettle : settle run segment state row = (row, .error raised) := by
            unfold settle
            simp only [ledgerCall_of_failure failed]
          rw [isSettle]
          cases isConflict : raised.isConflict with
          | false =>
              simp only [isConflict]
              exact .same
          | true =>
              simp only [isConflict]
              exact closeFailure_outcome ahead
      | none =>
          have later : limit < (settle run segment state row).1.updatedAt := by
            have ticked := ledgerCall_updated ahead.settleTick failed fun _ _ => rfl
            obtain ⟨reached, execution, _, _, isCall⟩ := ledgerCall_of_none failed
            unfold settle
            simp only
            rw [isCall] at ticked ⊢
            exact (ledgerCall_moved run _ ahead.settling _).later ticked
          apply WriteOutcome.written
          rcases isSettle : settle run segment state row with ⟨after, raised | ⟨⟩⟩
          · rw [isSettle] at later
            simp only
            cases isConflict : raised.isConflict with
            | false => exact later
            | true => exact (closeFailure_outcome ahead).moved.later later
          · rw [isSettle] at later
            exact (closeFailure_outcome ahead).moved.later later

theorem superviseSegment_outcome (ahead : run.Ahead limit) (segment : Segment) (row : Scheduled) :
    WriteOutcome limit row (superviseSegment run segment row).1
      (ownSegmentOverlooked run segment row.execution) := by
  unfold superviseSegment ownSegmentOverlooked
  cases run.budget with
  | error raised => exact .same
  | ok done =>
      obtain ⟨outcome, answer⟩ :=
        superviseTurns_outcome run segment ahead.turns run.loopStart row
      rcases isQuiet : quietTurns run segment row.execution run.turns run.loopStart with
        ⟨quiet, ended⟩
      rw [isQuiet] at outcome answer
      rcases isLoop : superviseTurns run segment run.turns run.loopStart row with
        ⟨after, raised | state⟩
      · rw [isLoop] at outcome answer
        cases quiet with
        | true =>
            cases answer rfl
            exact outcome
        | false =>
            cases ended with
            | none => exact outcome
            | some other => exact outcome
      · rw [isLoop] at outcome answer
        simp only
        cases quiet with
        | true =>
            cases answer rfl
            have same : after = row := outcome.unchanged rfl
            subst same
            exact finishSegment_outcome ahead segment state after
        | false =>
            have later := (finishSegment_outcome ahead segment state after).moved.later
              (outcome.updated rfl)
            cases ended with
            | none => exact .written later
            | some other => exact .written later

/-- The run of a claimed task writes nothing exactly when its segment cannot be begun or an own one
is left as it was. -/
theorem runSegment_outcome (ahead : run.Ahead limit) (ownerEpoch : Nat) (row : Scheduled) :
    WriteOutcome limit row (runSegment run ownerEpoch row).1
      (segmentOverlooked run ownerEpoch row.execution) := by
  unfold runSegment segmentOverlooked
  cases failed : callFailure run row.execution run.beginning fun _ =>
      .beginSegment run.runnerId ownerEpoch with
  | some raised =>
      rw [ledgerCall_of_failure failed]
      exact .same
  | none =>
      obtain ⟨reached, execution, isVisit, done, isCall⟩ := ledgerCall_of_none failed
      rw [isCall]
      simp only
      by_cases own : row.execution.segment.any fun segment =>
          segment.ownerId = run.runnerId ∧ segment.ownerEpoch = ownerEpoch
      · have quiet : (LedgerCall.beginSegment run.runnerId ownerEpoch).writes row.execution =
            false := by
          rw [LedgerCall.writes, own]
          rfl
        have same := attempt_of_not_writes done quiet
        rw [quiet, same]
        cases isSegment : row.execution.segment with
        | none =>
            rw [isSegment] at own
            cases own
        | some segment =>
            rw [isSegment] at own
            have isOwn : segment.ownerId = run.runnerId ∧ segment.ownerEpoch = ownerEpoch := by
              simpa using own
            have outcome := superviseSegment_outcome ahead segment row
            simpa [isOwn.1, isOwn.2] using outcome
      · have writes : (LedgerCall.beginSegment run.runnerId ownerEpoch).writes row.execution =
            true := by
          rw [LedgerCall.writes, Bool.not_eq_true'] 
          exact Bool.eq_false_iff.mpr own
        have notOwn : (row.execution.segment.any fun segment =>
            segment.ownerId = run.runnerId && segment.ownerEpoch = ownerEpoch &&
              ownSegmentOverlooked run segment row.execution) = false := by
          cases isSegment : row.execution.segment with
          | none => rfl
          | some segment =>
              rw [isSegment] at own
              have isOther : ¬ (segment.ownerId = run.runnerId ∧
                  segment.ownerEpoch = ownerEpoch) := by simpa using own
              simp only [Option.any_some, Bool.and_eq_false_iff, decide_eq_false_iff_not]
              exact .inl (not_and_or.mp isOther)
        rw [notOwn]
        apply WriteOutcome.written
        have begun := ledgerCall_updated ahead.beginning failed fun _ _ => writes
        rw [isCall] at begun
        exact (superviseSegment_outcome ahead _ _).moved.later begun

theorem handleClaim_outcome (ahead : run.Ahead limit) (row : Scheduled) (raised : Raised) :
    WriteOutcome limit row (handleClaim run row raised).1 (unrecordedClaim run raised) := by
  unfold handleClaim unrecordedClaim
  cases raised with
  | storageBusy => exact recordFailure_outcome run row ahead.failureRecord _ true
  | conflict => exact .same
  | unsafeState => exact .same
  | research => exact .same
  | storage => exact .same
  | other => exact .same

theorem claimed_outcome (ahead : run.Ahead limit) (row : Scheduled) :
    WriteOutcome limit row
      (match claimAndRecover run row with
        | (row, .error raised) => handleClaim run row raised
        | (row, .ok none) => (row, .ok ())
        | (row, .ok (some ownerEpoch)) => runSegment run ownerEpoch row).1
      (match claimAnswer run with
        | .error raised => unrecordedClaim run raised
        | .ok .unclaimed => true
        | .ok .unknown =>
            match run.unknownRecord with
            | .error raised => unrecordedClaim run raised
            | .ok _ => false
        | .ok (.owner ownerEpoch) => segmentOverlooked run ownerEpoch row.execution) := by
  unfold claimAndRecover
  cases claimed : claimAnswer run with
  | error raised => exact handleClaim_outcome ahead row raised
  | ok answer =>
      cases answer with
      | unclaimed => exact .same
      | unknown =>
          have recorded := recordFailure_outcome run row ahead.unknownRecord
            "provider_outcome_unknown" false
          have answered := recordFailure_answer run row run.unknownRecord
            "provider_outcome_unknown" false
          cases isVisit : run.unknownRecord with
          | error raised =>
              rw [isVisit] at recorded answered
              simp only [answered, Except.map]
              rw [recorded.unchanged rfl]
              exact handleClaim_outcome ahead row raised
          | ok reached =>
              rw [isVisit] at recorded answered
              simp only [answered, Except.map]
              exact .written (recorded.updated rfl)
      | owner ownerEpoch => exact runSegment_outcome ahead ownerEpoch row

theorem runSupervised_outcome (ahead : run.Ahead limit) (row : Scheduled) :
    WriteOutcome limit row (runSupervised run row).1 (overlooked run row.execution) := by
  unfold runSupervised overlooked
  cases run.complete with
  | error raised => exact .same
  | ok complete =>
      cases complete with
      | true => exact localCompletion_outcome ahead
      | false =>
          simp only
          cases run.available with
          | false => exact recordFailure_outcome run row ahead.failureRecord _ false
          | true =>
              cases run.hasRunLock with
              | false => exact .same
              | true =>
                  simp only [Bool.not_true, Bool.false_eq_true, if_false]
                  exact claimed_outcome ahead row

/-! ## The head of the queue -/

/-- The run gives way: its task is not selectable any more, or its turn is after those of all other
tasks that were. -/
def GivesWay (run : Run) (now : Instant) (tasks : List ScannedTask) (selected : ScannedTask) :
    Prop :=
  selectable now (selected.afterRun run) = false ∨
    ∀ other ∈ tasks, selectable run.scannedAt other = true → other.taskId ≠ selected.taskId →
      other.turn < (selected.afterRun run).turn

theorem selected_first {now : Instant} {tasks : List ScannedTask} {selected : ScannedTask}
    (isSelected : selectTask now tasks = some selected) :
    selected ∈ tasks ∧ selectable now selected = true ∧
      ∀ other ∈ tasks, selectable now other = true → selected.turn ≤ other.turn := by
  obtain ⟨isTask, canRun⟩ := List.mem_filter.mp (List.argmin_mem isSelected)
  refine ⟨isTask, canRun, ?_⟩
  intro other isOther otherRuns
  exact not_lt.mp (List.not_lt_of_mem_argmin
    (List.mem_filter.mpr ⟨isOther, otherRuns⟩) isSelected)

/-- What was selectable stays so while it is not written. -/
theorem selectable_later {now later : Instant} (order : now ≤ later) {task : ScannedTask}
    {status : TaskStatus} (canRun : selectable now task = true)
    (open_ : status ∉ [TaskStatus.terminal, .waitingUser]) :
    selectable later { task with status := status } = true := by
  unfold selectable at canRun ⊢
  simp only [Bool.and_eq_true, Bool.or_eq_true, decide_eq_true_eq] at canRun ⊢
  obtain ⟨⟨_, intent⟩, queued | ⟨backoff, due⟩⟩ := canRun
  · exact ⟨⟨open_, intent⟩, .inl queued⟩
  · refine ⟨⟨open_, intent⟩, .inr ⟨backoff, ?_⟩⟩
    obtain ⟨retry, isRetry, early⟩ := (Option.any_eq_true _ _).mp due
    exact (Option.any_eq_true _ _).mpr
      ⟨retry, isRetry, decide_eq_true ((of_decide_eq_true early).trans order)⟩

/-- A task that was queued at a time. -/
def queuedTask (taskId : String) (status : TaskStatus) (updatedAt : Instant) : ScannedTask where
  taskId := taskId
  status := status
  scheduled := {
    execution := {
      timePolicyVersion := "v2"
      activeBudgetMs := 360000
      schedulingIntent := .queued
      schedulingStatus := .queued }
    updatedAt := updatedAt }

/-- The row of a task that nobody owns. -/
def unownedRow (taskId : String) (status : TaskStatus) : TaskRow where
  taskId := taskId
  parentTaskId := none
  status := status
  activeGoalId := none
  stateVersion := 1
  lease := ⟨none, none, 0⟩
  terminalResultId := none

/-- A run of a task in a status; the provider is there or not. -/
def plainRun (status : TaskStatus) (available : Bool) : Run where
  scannedAt := 10
  runnerId := "runner"
  reservationMs := 5000
  segmentId := 0
  complete := .ok false
  available := available
  hasRunLock := true
  claimed := .ok (unownedRow "first" status, 11)
  claimOwner := .ok 1
  recovered := .ok false
  budget := .ok ()
  boundary := .ok ()
  completion := .error .other
  beginning := .error .other
  startedMono := 0
  startedWall := 0
  turns := []
  endedMono := 0
  settleTick := .error .other
  settling := .error .other
  closing := .ok ()
  safeRetry := .ok false
  unknownRecord := .error .other
  failureRecord := .ok ⟨unownedRow "first" status, 12, 12⟩
  statusAfter := status

/-- A blocked task and a ready one behind it. -/
def blockedQueue : List ScannedTask :=
  [queuedTask "first" .blocked 1, queuedTask "second" .ready 2]

theorem plainRun_ahead (status : TaskStatus) (available : Bool) {limit : Instant}
    (early : limit < 12) : (plainRun status available).Ahead limit := by
  constructor
  · intro current now absurdity
    cases absurdity
  · intro reached absurdity
    cases absurdity
  · intro turn absurdity
    cases absurdity
  · intro reached absurdity
    cases absurdity
  · intro reached absurdity
    cases absurdity
  · intro reached absurdity
    cases absurdity
  · intro reached isReached
    cases isReached
    exact early

end Shiliu.Research
