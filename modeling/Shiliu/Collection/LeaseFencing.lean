/-
Module: Shiliu.Collection.LeaseFencing
Purpose: Every transaction on a leased row is a move of the row's fenced lease, so the claims
  granted over a run form a lease history. From that: epochs strictly increase over successful
  claims, at most one claim passes `check_lease`, a superseded claim is refused for ever, and a
  write without a claim is refused while an owner is recorded.
Trusted boundary: none
Main exports: perform_move, leaseState_invariant, Supersedes, collection_lease_fencing
-/
import Shiliu.Collection.Leases

namespace Shiliu.Collection

open Shiliu.Library
open Shiliu.Storage

variable {table : LeaseTable}

/-! ## Refinement: the row operations are lease moves -/

theorem claim_move {now : Instant} {row after : LeasedRow table} {owner : String} {seconds : Nat}
    {handed : Option Claim} (done : claim now row owner seconds = .ok (after, handed)) :
    after.id = row.id ∧ (∀ granted ∈ handed, granted.id = row.id) ∧
      Lease.Move now row.lease (handed.map Claim.token) after.lease := by
  rcases claim_ok done with ⟨_, rfl, rfl⟩ | ⟨_, rfl, rfl⟩ | ⟨_, _, _, rfl, rfl⟩
  · exact ⟨rfl, by simp, .keep _⟩
  · exact ⟨rfl, by simp, .revoke _⟩
  · exact ⟨rfl, by simp, .grant _ _ _⟩

theorem resetFailedStages_move (now : Instant) (row : LeasedRow table) :
    (resetFailedStages table row).id = row.id ∧
      Lease.Move now row.lease none (resetFailedStages table row).lease := by
  rcases resetFailedStages_cases row with untouched | ⟨sameId, revoked⟩
  · rw [untouched]
    exact ⟨rfl, .keep _⟩
  · rw [revoked]
    exact ⟨sameId, .revoke _⟩

/-- One transaction on a row moves its lease by one library move, keeps the row's identity, and
records exactly the claim it returns. -/
theorem perform_move {state after : LeaseState table} {action : LeaseAction table}
    {handed : Option Claim} (done : perform state action = .ok (after, handed)) :
    after.row.id = state.row.id ∧ after.granted = handed.toList ++ state.granted ∧
      (∀ granted ∈ handed, granted.id = state.row.id) ∧
      Lease.Move state.now state.row.lease (handed.map Claim.token) after.row.lease := by
  cases action with
  | tick elapsed =>
      cases done
      exact ⟨rfl, rfl, by simp, .keep _⟩
  | claim owner seconds =>
      cases inner : claim state.now state.row owner seconds with
      | error failure =>
          simp only [perform, inner] at done
          cases done
      | ok returned =>
          simp only [perform, inner] at done
          cases done
          obtain ⟨sameId, handedId, moved⟩ := claim_move inner
          exact ⟨sameId, rfl, handedId, moved⟩
  | heartbeat held seconds =>
      cases inner : heartbeat state.now state.row held seconds with
      | error failure =>
          simp only [perform, inner] at done
          cases done
      | ok returned =>
          simp only [perform, inner] at done
          cases done
          obtain ⟨passes, same⟩ := heartbeat_ok inner
          rw [same]
          exact ⟨rfl, rfl, by simp, .renew _ held.token _ passes.2⟩
  | release held =>
      cases inner : release state.now state.row held with
      | error failure =>
          simp only [perform, inner] at done
          cases done
      | ok returned =>
          simp only [perform, inner] at done
          cases done
          obtain ⟨passes, same⟩ := release_ok inner
          rw [same]
          exact ⟨rfl, rfl, by simp, .release _ held.token passes.2⟩
  | resetFailedStages =>
      cases done
      obtain ⟨sameId, moved⟩ := resetFailedStages_move state.now state.row
      exact ⟨sameId, rfl, by simp, moved⟩
  | write held elapsed columns =>
      cases inner : guardedWrite state.now elapsed state.row held columns with
      | error failure =>
          simp only [perform, inner] at done
          cases done
      | ok returned =>
          simp only [perform, inner] at done
          cases done
          obtain ⟨same, _⟩ := guardedWrite_ok inner
          rw [same]
          exact ⟨rfl, rfl, by simp, .keep _⟩

/-! ## The invariant of a row's history -/

/-- The granted claims all name the row, and form a history of its lease. -/
structure LeaseState.Fenced (state : LeaseState table) : Prop where
  named : ∀ granted ∈ state.granted, granted.id = state.row.id
  history : LeaseHistory state.row.lease (state.granted.map Claim.token)

theorem stepLease_fenced (state : LeaseState table) (action : LeaseAction table)
    (fenced : state.Fenced) : (stepLease state action).Fenced := by
  unfold stepLease
  cases outcome : perform state action with
  | error failure => exact fenced
  | ok returned =>
      obtain ⟨after, handed⟩ := returned
      obtain ⟨sameId, granted, handedId, moved⟩ := perform_move outcome
      simp only [settled_ok]
      constructor
      · intro held member
        rw [granted, List.mem_append, Option.mem_toList] at member
        rw [sameId]
        rcases member with new | old
        · exact handedId held new
        · exact fenced.named held old
      · have tokens : after.granted.map Claim.token =
            (handed.map Claim.token).toList ++ state.granted.map Claim.token := by
          rw [granted]
          cases handed <;> simp
        rw [tokens]
        exact fenced.history.move moved

theorem stepLease_epoch_mono (state : LeaseState table) (action : LeaseAction table) :
    state.row.lease.epoch ≤ (stepLease state action).row.lease.epoch := by
  unfold stepLease
  cases outcome : perform state action with
  | error failure => exact Nat.le_refl _
  | ok returned => exact (perform_move outcome).2.2.2.epoch_mono

/-- A row as it stands when the first worker meets it: nothing granted yet. -/
def LeaseState.start (row : LeasedRow table) (now : Instant) : LeaseState table :=
  { now := now, row := row, granted := [] }

theorem leaseState_invariant (row : LeasedRow table) (now : Instant)
    (actions : List (LeaseAction table)) :
    (runFrom stepLease (LeaseState.start row now) actions).Fenced :=
  invariant_run stepLease_fenced ⟨by simp [LeaseState.start], LeaseHistory.empty _⟩ actions

/-! ## Superseded claims -/

/-- The three ways an action supersedes every claim granted before it: it is granted a claim, it
reclassifies the row as uncertain, or it resets a failed stage. -/
inductive Supersedes (state : LeaseState table) : LeaseAction table → Prop where
  | granted {owner : String} {seconds : Nat} {after : LeasedRow table} {handed : Claim}
      (returned : claim state.now state.row owner seconds = .ok (after, some handed)) :
      Supersedes state (.claim owner seconds)
  | reclassified {owner : String} {seconds : Nat} {after : LeasedRow table}
      (returned : claim state.now state.row owner seconds = .ok (after, none))
      (uncertain : admission state.now table state.row.columns = .uncertain)
      (free : ¬ (truthy state.row.lease.owner ∧ state.row.lease.live state.now)) :
      Supersedes state (.claim owner seconds)
  | reset (touched : resetFailedStages table state.row ≠ state.row) :
      Supersedes state .resetFailedStages

theorem resetFailedStages_epoch_of_ne {row : LeasedRow table}
    (touched : resetFailedStages table row ≠ row) :
    (resetFailedStages table row).lease.epoch = row.lease.epoch + 1 := by
  rcases resetFailedStages_cases row with untouched | ⟨_, revoked⟩
  · exact absurd untouched touched
  · rw [revoked]
    rfl

theorem Supersedes.epoch_lt {state : LeaseState table} {action : LeaseAction table}
    (supersedes : Supersedes state action) :
    state.row.lease.epoch < (stepLease state action).row.lease.epoch := by
  cases supersedes with
  | granted returned =>
      simp only [stepLease, perform, returned]
      have epochs := (claim_move returned).2.2.handed_epoch
      exact Nat.lt_of_lt_of_eq (Nat.lt_succ_self _) (epochs.1.symm.trans epochs.2.symm)
  | @reclassified owner seconds after returned uncertain free =>
      simp only [stepLease, perform, returned]
      rcases claim_ok returned with ⟨busy | refused, _⟩ | ⟨_, _, rfl⟩ | ⟨_, _, _, _, handed⟩
      · exact absurd busy free
      · rw [uncertain] at refused
        cases refused
      · exact Nat.lt_succ_self _
      · cases handed
  | reset touched =>
      have raised := resetFailedStages_epoch_of_ne touched
      simp only [stepLease, perform, settled_ok]
      omega

theorem not_passes_of_epoch_lt {now : Instant} {row : LeasedRow table} {held : Claim}
    (passed : held.leaseEpoch < row.lease.epoch) : ¬ Passes now row held :=
  fun passes => Lease.not_holds_of_epoch_lt passed passes.2

theorem perform_error_of_not_passes {state : LeaseState table} {action : LeaseAction table}
    {held : Claim} (presents : action.presents = some held)
    (fails : ¬ Passes state.now state.row held) :
    ∃ failure, perform state action = .error failure := by
  cases outcome : perform state action with
  | error failure => exact ⟨failure, rfl⟩
  | ok returned =>
      exfalso
      apply fails
      cases action with
      | heartbeat presented seconds =>
          obtain rfl : presented = held := Option.some.inj presents
          cases inner : heartbeat state.now state.row presented seconds with
          | error failure =>
              simp only [perform, inner] at outcome
              cases outcome
          | ok renewed => exact (heartbeat_ok inner).1
      | release presented =>
          obtain rfl : presented = held := Option.some.inj presents
          cases inner : release state.now state.row presented with
          | error failure =>
              simp only [perform, inner] at outcome
              cases outcome
          | ok released => exact (release_ok inner).1
      | write presented elapsed columns =>
          obtain rfl : presented = some held := presents
          cases inner : guardedWrite state.now elapsed state.row (some held) columns with
          | error failure =>
              simp only [perform, inner] at outcome
              cases outcome
          | ok written => exact (guardedWrite_ok inner).2.1 held rfl
      | tick => cases presents
      | claim => cases presents
      | resetFailedStages => cases presents

/-- A claim below the current epoch is refused now and after any continuation, and the refused
transaction changes nothing. -/
theorem superseded_refused {state : LeaseState table} {held : Claim}
    (passed : held.leaseEpoch < state.row.lease.epoch) (more : List (LeaseAction table))
    {action : LeaseAction table} (presents : action.presents = some held) :
    (∃ failure, perform (runFrom stepLease state more) action = .error failure) ∧
      stepLease (runFrom stepLease state more) action = runFrom stepLease state more := by
  have grown : state.row.lease.epoch ≤ (runFrom stepLease state more).row.lease.epoch :=
    measure_run_mono stepLease_epoch_mono state more
  obtain ⟨failure, refused⟩ := perform_error_of_not_passes presents
    (not_passes_of_epoch_lt (Nat.lt_of_lt_of_le passed grown))
  exact ⟨⟨failure, refused⟩, by simp [stepLease, refused]⟩

theorem unclaimed_write_refused {state : LeaseState table}
    (owned : state.row.lease.owner ≠ none) (elapsed : Nat) (columns : Columns table) :
    perform state (.write none elapsed columns) =
      .error (.coordinationConflict "claim_required") := by
  simp only [perform, guardedWrite, assertUnclaimed, if_pos owned]
  rfl

/-! ## The fencing theorem -/

/-- Collection leases are fenced on every leased row, under any interleaving of claims,
heartbeats, releases, resets and guarded writes, with the clock advancing in between. -/
theorem collection_lease_fencing (table : LeaseTable) (row : LeasedRow table) (now : Instant)
    (actions : List (LeaseAction table)) :
    let state := runFrom stepLease (LeaseState.start row now) actions
    -- epochs strictly increase over successful claims, the newest being listed first
    (state.granted.Pairwise fun later earlier => earlier.leaseEpoch < later.leaseEpoch) ∧
    -- at most one claim passes `check_lease`
    (∀ first second, Passes state.now state.row first → Passes state.now state.row second →
      first = second) ∧
    -- a superseded claim never succeeds again, whichever operation presents it
    (∀ action, Supersedes state action → ∀ held ∈ state.granted,
      ∀ (more : List (LeaseAction table)) (later : LeaseAction table),
        later.presents = some held →
        let reached := runFrom stepLease (stepLease state action) more
        (∃ failure, perform reached later = .error failure) ∧ stepLease reached later = reached) ∧
    -- a write without a claim is refused while an owner is recorded
    (state.row.lease.owner ≠ none → ∀ elapsed columns,
      perform state (.write none elapsed columns) =
        .error (.coordinationConflict "claim_required")) := by
  intro state
  have fenced : state.Fenced := leaseState_invariant row now actions
  refine ⟨?_, ?_, ?_, ?_⟩
  · simpa [List.pairwise_map] using fenced.history.increasing
  · intro first second one two
    exact Claim.eq_of_token (one.1.symm.trans two.1) (one.2.unique two.2)
  · intro action supersedes held member more later presents
    have known : held.leaseEpoch ≤ state.row.lease.epoch :=
      fenced.history.bounded held.token (List.mem_map.mpr ⟨held, member, rfl⟩)
    exact superseded_refused (Nat.lt_of_le_of_lt known supersedes.epoch_lt) more presents
  · intro owned elapsed columns
    exact unclaimed_write_refused owned elapsed columns

end Shiliu.Collection
