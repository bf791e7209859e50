/-
Module: Shiliu.Collection.Leases
Purpose: The lease operations of the collection database: `_claim`, `check_lease`, `heartbeat`,
  `release`, `_assert_unclaimed`, `reset_failed_stages` and the writes they guard, on one row of
  any leased table. Each is a transaction that holds the row lock from its first statement to its
  last, so it is a function of the row and of the clock read under the lock. Every operation is
  shown to be a move of a fenced lease; the fencing results then follow from the lease library.
Trusted boundary: none
Main exports: claim, checkLease, heartbeat, release, LeaseState, LeaseAction, perform, stepLease
-/
import Shiliu.Library.Transition
import Shiliu.Collection.Rows

namespace Shiliu.Collection

open Shiliu.Library
open Shiliu.Storage

variable {table : LeaseTable}

/-! ## The operations -/

/-- `next_retry_at IS NULL OR next_retry_at <= clock_timestamp()`. -/
def isDue (now : Instant) : Option Instant → Bool
  | none => true
  | some retryAt => retryAt ≤ now

/-- What `_claim` decides from the columns of a row whose lease is free. -/
inductive Admission where
  | claimable
  | refused
  /-- A worker died while an external request might have been sent. -/
  | uncertain
deriving DecidableEq

/-- The part of `_claim` below the lease test. `favorite_sources` rows are always claimable; the
other two tables share the tests on `status` and `next_retry_at` and differ in what they call
uncertain. -/
def admission (now : Instant) : (table : LeaseTable) → Columns table → Admission
  | .favoriteSources, _ => .claimable
  | .asrJobs, (job : ASRJobColumns) =>
      if job.status = .completed then .refused
      else if !isDue now job.nextRetryAt then .refused
      else if !truthy job.taskId ∧ (job.status = .submitted ∨ job.status = .processing) then
        .uncertain
      else if job.status = .needsReview then .refused
      else .claimable
  | .pipelineStages, (stage : PipelineStageColumns) =>
      if stage.status = .completed then .refused
      else if !isDue now stage.nextRetryAt then .refused
      else if stage.status = .processing ∧ stage.stageName ≠ .sourceFetch then .uncertain
      else if stage.status = .needsReview then .refused
      else .claimable

/-- `status='needs_review',last_error_code='external_result_unknown'`. -/
def markUncertain : (table : LeaseTable) → Columns table → Columns table
  | .favoriteSources, columns => columns
  | .asrJobs, (job : ASRJobColumns) =>
      { job with status := .needsReview, lastErrorCode := some "external_result_unknown" }
  | .pipelineStages, (stage : PipelineStageColumns) =>
      { stage with status := .needsReview, lastErrorCode := some "external_result_unknown" }

/-- The lease lengths `_claim` and `heartbeat` accept: `0 < seconds <= 600`, counted in
microseconds because a fraction of a second is accepted too. -/
def validLeaseLength (seconds : Nat) : Bool :=
  0 < seconds ∧ seconds ≤ 600 * microsPerSecond

/-- `Database._claim`. -/
def claim (now : Instant) (row : LeasedRow table) (owner : String) (seconds : Nat) :
    Except Failure (LeasedRow table × Option Claim) :=
  if owner = "" ∨ !validLeaseLength seconds then .error (.valueError "Invalid lease")
  else if truthy row.lease.owner ∧ row.lease.live now then .ok (row, none)
  else
    match admission now table row.columns with
    | .refused => .ok (row, none)
    | .uncertain =>
        .ok ({ row with columns := markUncertain table row.columns, lease := row.lease.revoke },
          none)
    | .claimable =>
        let lease := row.lease.grant owner (now + seconds)
        .ok ({ row with lease := lease },
          some { id := row.id, leaseOwner := owner, leaseEpoch := lease.epoch })

/-- The condition `Database.check_lease` tests, on the row the claim's id selects. -/
def Passes (now : Instant) (row : LeasedRow table) (held : Claim) : Prop :=
  row.id = held.id ∧ row.lease.Holds now held.token

instance (now : Instant) (row : LeasedRow table) (held : Claim) :
    Decidable (Passes now row held) :=
  inferInstanceAs (Decidable (_ ∧ _))

/-- `Database.check_lease`. -/
def checkLease (now : Instant) (row : LeasedRow table) (held : Claim) : Except Failure Unit :=
  if Passes now row held then .ok () else .error (.coordinationConflict "lease_fenced")

/-- `Database._assert_unclaimed`. -/
def assertUnclaimed (row : LeasedRow table) : Except Failure Unit :=
  if row.lease.owner ≠ none then .error (.coordinationConflict "claim_required") else .ok ()

/-- `Database.heartbeat`. -/
def heartbeat (now : Instant) (row : LeasedRow table) (held : Claim) (seconds : Nat) :
    Except Failure (LeasedRow table × Unit) :=
  if !validLeaseLength seconds then .error (.valueError "Invalid lease duration")
  else do
    checkLease now row held
    .ok ({ row with lease := row.lease.renew (now + seconds) }, ())

/-- `Database.release`. -/
def release (now : Instant) (row : LeasedRow table) (held : Claim) :
    Except Failure (LeasedRow table × Unit) := do
  checkLease now row held
  .ok ({ row with lease := row.lease.release }, ())

/-- The rows `reset_failed_stages` selects: `status IN ('retry_wait','needs_review')`. -/
def resettable (row : LeasedRow .pipelineStages) : Bool :=
  let stage : PipelineStageColumns := row.columns
  stage.status = .retryWait ∨ stage.status = .needsReview

/-- `Database.reset_failed_stages` on one row of `pipeline_stages`: a matching row is reset and its
lease revoked, without a look at who holds it. -/
def resetStage (row : LeasedRow .pipelineStages) : LeasedRow .pipelineStages :=
  if resettable row then
    let stage : PipelineStageColumns := row.columns
    let reset : PipelineStageColumns :=
      { stage with
        status := .pending
        attemptCount := 0
        nextRetryAt := none
        lastErrorCode := none }
    { row with columns := reset, lease := row.lease.revoke }
  else row

/-- `Database.reset_failed_stages` writes no other leased table. -/
def resetFailedStages : (table : LeaseTable) → LeasedRow table → LeasedRow table
  | .pipelineStages, row => resetStage row
  | .favoriteSources, row => row
  | .asrJobs, row => row

/-- The guard every collection write shares (`update_asr_job`, `update_stage`, `_source_write`):
with a claim the lease is checked, without one the row must be unclaimed. A source write checks
the lease a second time when its batch is done, `elapsed` after the first. -/
def guardedWrite (now : Instant) (elapsed : Nat) (row : LeasedRow table) (held : Option Claim)
    (columns : Columns table) : Except Failure (LeasedRow table × Unit) := do
  match held with
  | some held =>
      checkLease now row held
      if table = .favoriteSources then checkLease (now + elapsed) row held
  | none => assertUnclaimed row
  .ok ({ row with columns := columns }, ())

/-! ## One row under any number of workers -/

/-- The row, the clock, and the claims granted on the row so far, newest first. -/
structure LeaseState (table : LeaseTable) where
  now : Instant
  row : LeasedRow table
  granted : List Claim

/-- A transaction of some worker, with the claim it presents, or the passage of time. -/
inductive LeaseAction (table : LeaseTable) where
  | tick (elapsed : Nat)
  | claim (owner : String) (seconds : Nat)
  | heartbeat (held : Claim) (seconds : Nat)
  | release (held : Claim)
  | resetFailedStages
  | write (held : Option Claim) (elapsed : Nat) (columns : Columns table)

/-- One transaction: the state it commits, with the claim it returns, or why it is refused. -/
def perform (state : LeaseState table) :
    LeaseAction table → Except Failure (LeaseState table × Option Claim)
  | .tick elapsed => .ok ({ state with now := state.now + elapsed }, none)
  | .claim owner seconds => do
      let (row, handed) ← claim state.now state.row owner seconds
      .ok ({ state with row := row, granted := handed.toList ++ state.granted }, handed)
  | .heartbeat held seconds => do
      let (row, _) ← heartbeat state.now state.row held seconds
      .ok ({ state with row := row }, none)
  | .release held => do
      let (row, _) ← release state.now state.row held
      .ok ({ state with row := row }, none)
  | .resetFailedStages =>
      .ok ({ state with row := resetFailedStages table state.row }, none)
  | .write held elapsed columns => do
      let (row, _) ← guardedWrite state.now elapsed state.row held columns
      .ok ({ state with now := state.now + elapsed, row := row }, none)

/-- The state after one transaction, which is the state before it when it is refused. -/
def stepLease (state : LeaseState table) (action : LeaseAction table) : LeaseState table :=
  settled state (perform state action)

/-- The claim an action presents to `check_lease`. -/
def LeaseAction.presents : LeaseAction table → Option Claim
  | .heartbeat held _ => some held
  | .release held => some held
  | .write held _ _ => held
  | _ => none

/-! ## What each operation does -/

variable {now : Instant} {held : Claim} {result : Unit}

theorem checkLease_ok_iff {row : LeasedRow table} :
    checkLease now row held = .ok () ↔ Passes now row held := by
  unfold checkLease
  split <;> simp_all

theorem checkLease_of_not_passes {row : LeasedRow table} (fails : ¬ Passes now row held) :
    checkLease now row held = .error (.coordinationConflict "lease_fenced") := if_neg fails

theorem heartbeat_ok {row after : LeasedRow table} {seconds : Nat}
    (done : heartbeat now row held seconds = .ok (after, result)) :
    Passes now row held ∧ after = { row with lease := row.lease.renew (now + seconds) } := by
  unfold heartbeat at done
  split at done
  · cases done
  · by_cases passes : Passes now row held
    · rw [checkLease_ok_iff.mpr passes] at done
      cases done
      exact ⟨passes, rfl⟩
    · rw [checkLease_of_not_passes passes] at done
      cases done

theorem release_ok {row after : LeasedRow table}
    (done : release now row held = .ok (after, result)) :
    Passes now row held ∧ after = { row with lease := row.lease.release } := by
  unfold release at done
  by_cases passes : Passes now row held
  · rw [checkLease_ok_iff.mpr passes] at done
    cases done
    exact ⟨passes, rfl⟩
  · rw [checkLease_of_not_passes passes] at done
    cases done

theorem guardedWrite_ok {elapsed : Nat} {row after : LeasedRow table} {held : Option Claim}
    {columns : Columns table}
    (done : guardedWrite now elapsed row held columns = .ok (after, result)) :
    after = { row with columns := columns } ∧ (∀ presented ∈ held, Passes now row presented) ∧
      (held = none → row.lease.owner = none) := by
  unfold guardedWrite at done
  cases held with
  | none =>
      by_cases unclaimed : row.lease.owner = none
      · simp only [assertUnclaimed, unclaimed] at done
        cases done
        exact ⟨rfl, by simp, fun _ => unclaimed⟩
      · simp only [assertUnclaimed, ne_eq, unclaimed, not_false_eq_true, if_true] at done
        cases done
  | some held =>
      by_cases passes : Passes now row held
      · simp only [checkLease_ok_iff.mpr passes] at done
        by_cases source : table = .favoriteSources
        · by_cases again : Passes (now + elapsed) row held
          · simp only [source, if_true, checkLease_ok_iff.mpr again] at done
            cases done
            exact ⟨rfl, by simpa using passes, by simp⟩
          · simp only [source, if_true, checkLease_of_not_passes again] at done
            cases done
        · simp only [source, if_false] at done
          cases done
          exact ⟨rfl, by simpa using passes, by simp⟩
      · simp only [checkLease_of_not_passes passes] at done
        cases done

/-- The three ways a call of `_claim` returns: nothing happened, the row was reclassified, or the
next epoch was granted. -/
theorem claim_ok {row after : LeasedRow table} {owner : String} {seconds : Nat}
    {handed : Option Claim} (done : claim now row owner seconds = .ok (after, handed)) :
    (((truthy row.lease.owner ∧ row.lease.live now) ∨
        admission now table row.columns = .refused) ∧ after = row ∧ handed = none) ∨
    (admission now table row.columns = .uncertain ∧ handed = none ∧
      after = { row with columns := markUncertain table row.columns, lease := row.lease.revoke }) ∨
    (admission now table row.columns = .claimable ∧ owner ≠ "" ∧
      ¬ (truthy row.lease.owner ∧ row.lease.live now) ∧
      after = { row with lease := row.lease.grant owner (now + seconds) } ∧
      handed = some ⟨row.id, owner, row.lease.epoch + 1⟩) := by
  unfold claim at done
  split at done
  · cases done
  · rename_i valid
    split at done
    · rename_i busy
      cases done
      exact Or.inl ⟨Or.inl busy, rfl, rfl⟩
    · rename_i free
      cases decision : admission now table row.columns with
      | refused =>
          rw [decision] at done
          cases done
          exact Or.inl ⟨Or.inr rfl, rfl, rfl⟩
      | uncertain =>
          rw [decision] at done
          cases done
          exact Or.inr (Or.inl ⟨rfl, rfl, rfl⟩)
      | claimable =>
          rw [decision] at done
          cases done
          exact Or.inr (Or.inr ⟨rfl, fun empty => valid (Or.inl empty), free, rfl, rfl⟩)

theorem resetFailedStages_cases (row : LeasedRow table) :
    resetFailedStages table row = row ∨
      ((resetFailedStages table row).id = row.id ∧
        (resetFailedStages table row).lease = row.lease.revoke) := by
  cases table with
  | pipelineStages =>
      show resetStage row = row ∨
        ((resetStage row).id = row.id ∧ (resetStage row).lease = row.lease.revoke)
      unfold resetStage
      split
      · exact Or.inr ⟨rfl, rfl⟩
      · exact Or.inl rfl
  | favoriteSources => exact Or.inl rfl
  | asrJobs => exact Or.inl rfl

end Shiliu.Collection
