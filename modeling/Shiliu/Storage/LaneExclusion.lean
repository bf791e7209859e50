/-
Module: Shiliu.Storage.LaneExclusion
Purpose: At most one model job of a principal runs under a live lease, and the lane names it. What
  a transaction can do to jobs and lanes is said once (`SchedulerMove`); the invariant of the
  lanes and the one of the history of grants and departures are then read off each kind of move.
Trusted boundary: none
Main exports: SchedulerMove, performScheduler_move, Exclusive, History, model_lane_exclusion
-/
import Shiliu.Storage.Scheduler

set_option linter.all false

namespace Shiliu.Storage

open Shiliu.Library

/-! ## What a transaction can do -/

/-- The lanes of `before` are still there, unchanged; others may have been inserted. -/
def LanesKept (before after : Table SchedulerLane.context) : Prop :=
  ∀ context lane, before.lookup context = some lane → after.lookup context = some lane

theorem LanesKept.refl (lanes : Table SchedulerLane.context) : LanesKept lanes lanes :=
  fun _ _ found => found

/-- The lane that follows a job. -/
def laneOfJob (row : Job) : SchedulerLane :=
  { context := row.context
    lease := { owner := some row.id, expiry := row.lease.expiry, epoch := row.lease.epoch } }

/-- The lane of `row`, if its kind has one, is `lane` afterwards; all other lanes are kept. -/
def LaneSet (before after : Table SchedulerLane.context) (row : Job) (lane : SchedulerLane) :
    Prop :=
  (row.kind ∉ localKinds → after.lookup row.context = some lane) ∧
    ∀ context other, (row.kind ∉ localKinds → context ≠ row.context) →
      before.lookup context = some other → after.lookup context = some other

/-- Everything a transaction can do to the jobs and the lanes, with the job it hands out. -/
inductive SchedulerMove (before : Scheduler) : Scheduler → Option Job → Prop where
  /-- No job changes. -/
  | idle (after : Scheduler) (later : before.now ≤ after.now) (jobs : after.jobs = before.jobs)
      (lanes : LanesKept before.lanes after.lanes) : SchedulerMove before after none
  /-- A queued job appears. -/
  | enqueued (after : Scheduler) (job : Job) (later : before.now ≤ after.now)
      (jobs : after.jobs = before.jobs.insert job) (named : job.id ≠ "")
      (queued : job.status = .queued) (lanes : LanesKept before.lanes after.lanes) :
      SchedulerMove before after none
  /-- A runnable job is granted to an owner; a model job takes a lane that was not busy. -/
  | assigned (after : Scheduler) (row : Job) (owner : String) (leaseUntil : Instant)
      (later : before.now ≤ after.now) (found : before.jobs.lookup row.id = some row)
      (runnable : row.runnable = true)
      (jobs : after.jobs = before.jobs.modify row.id (assignment owner leaseUntil))
      (free : row.kind ∉ localKinds → ∀ lane, before.lanes.lookup row.context = some lane →
        lane.busy before.now = false)
      (lanes : LaneSet before.lanes after.lanes row
        (laneOfJob ((assignment owner leaseUntil).apply row))) :
      SchedulerMove before after (some ((assignment owner leaseUntil).apply row))
  /-- The holder of a job extends its lease, and that of the lane it owns. -/
  | renewed (after : Scheduler) (row : Job) (leaseUntil : Instant)
      (later : before.now ≤ after.now) (found : before.jobs.lookup row.id = some row)
      (running : row.status = .running)
      (jobs : after.jobs = before.jobs.modify row.id (renewal leaseUntil))
      (held : row.kind ∉ localKinds → ∀ lane, before.lanes.lookup row.context = some lane →
        lane.lease.owner = some row.id)
      (lanes : LaneSet before.lanes after.lanes row
        (laneOfJob ((renewal leaseUntil).apply row))) :
      SchedulerMove before after none
  /-- A job is written that does not run afterwards; the lane it owns may be vacated. -/
  | stopped (after : Scheduler) (row : Job) (change : Change Job.id)
      (later : before.now ≤ after.now) (found : before.jobs.lookup row.id = some row)
      (jobs : after.jobs = before.jobs.modify row.id change)
      (sameEpoch : (change.apply row).lease.epoch = row.lease.epoch)
      (stops : (change.apply row).status ≠ .running)
      (lanes : ∀ context lane, lane.lease.owner ≠ some row.id →
        before.lanes.lookup context = some lane → after.lanes.lookup context = some lane) :
      SchedulerMove before after none
  /-- Columns of a job that no lease depends on. -/
  | annotated (after : Scheduler) (row : Job) (change : Change Job.id)
      (later : before.now ≤ after.now) (found : before.jobs.lookup row.id = some row)
      (jobs : after.jobs = before.jobs.modify row.id change)
      (sameKind : (change.apply row).context = row.context ∧ (change.apply row).kind = row.kind)
      (sameLease : (change.apply row).status = row.status ∧ (change.apply row).lease = row.lease)
      (lanes : LanesKept before.lanes after.lanes) : SchedulerMove before after none

/-- `_lane` returns the row it leaves in the table, and changes no other. -/
theorem lockLane_spec (state : Scheduler) (context : ResourceContext) :
    (lockLane state context).1.now = state.now ∧ (lockLane state context).1.jobs = state.jobs ∧
      LanesKept state.lanes (lockLane state context).1.lanes ∧
      (lockLane state context).1.lanes.lookup context = some (lockLane state context).2 := by
  refine ⟨rfl, rfl, fun _ _ found => Table.lookup_insert_of_lookup found, ?_⟩
  show (state.lanes.insert (freshLane context)).lookup context =
    some (((state.lanes.insert (freshLane context)).lookup context).getD (freshLane context))
  cases found : state.lanes.lookup context with
  | some lane => rw [Table.lookup_insert_of_lookup found, Option.getD_some]
  | none =>
      have inserted : (state.lanes.insert (freshLane context)).lookup context =
          some (freshLane context) :=
        Table.lookup_insert_self (show state.lanes.lookup (freshLane context).context = none from
          found)
      rw [inserted, Option.getD_some]

variable {state before locked after : Scheduler} {context : ResourceContext} {jobId owner : String}
  {job row old : Job} {seconds elapsed epoch : Nat} {handed : Option Job}

theorem found_in_context
    (found : ((state.jobs.lookup jobId).filter fun job => job.context = context) = some job) :
    state.jobs.lookup job.id = some job ∧ job.id = jobId ∧ job.context = context := by
  rw [Option.filter_eq_some_iff] at found
  obtain ⟨isJob, inContext⟩ := found
  have isId : job.id = jobId := Table.key_of_lookup isJob
  exact ⟨by rwa [isId], isId, by simpa using inContext⟩

variable {kinds : List JobKind} {request : ClaimRequest} {kind : JobKind}
  {lane : Option SchedulerLane} {result : Unit}

theorem candidate_spec {skipped : List String}
    (chosen : candidate state context kinds skipped = some row) :
    state.jobs.lookup row.id = some row ∧ row.context = context ∧ row.kind ∈ kinds ∧
      row.runnable = true := by
  have member := (List.mem_insertionSort claimOrder).mp (List.mem_of_head? chosen)
  obtain ⟨isRow, isEligible⟩ := List.mem_filter.mp member
  simp only [eligible, decide_eq_true_eq, Bool.decide_and, Bool.and_eq_true] at isEligible
  exact ⟨Table.lookup_of_mem isRow, isEligible.1, isEligible.2.1, isEligible.2.2.1⟩

theorem mem_of_mem_restrict (member : kind ∈ request.restrict kinds) : kind ∈ kinds :=
  (List.mem_filter.mp member).1

theorem not_local_of_model (model : kind ∈ modelKinds) : kind ∉ localKinds := by
  revert kind
  decide

theorem assignJob_move (sameNow : locked.now = before.now) (sameJobs : locked.jobs = before.jobs)
    (kept : LanesKept before.lanes locked.lanes) {model : Bool}
    (found : before.jobs.lookup row.id = some row) (runnable : row.runnable = true)
    (isModel : model = true ↔ row.kind ∉ localKinds)
    (free : model = true → ∃ lane, locked.lanes.lookup row.context = some lane ∧
      lane.busy before.now = false) :
    SchedulerMove before (assignJob locked row.context owner row model seconds elapsed).1
      (assignJob locked row.context owner row model seconds elapsed).2 := by
  refine SchedulerMove.assigned _ row owner (locked.now + elapsed + seconds) ?_ found runnable ?_
    ?_ ⟨?_, ?_⟩
  · exact sameNow ▸ Nat.le_add_right locked.now elapsed
  · show locked.jobs.modify row.id _ = _
    rw [sameJobs]
  · intro nonlocal lane isLane
    obtain ⟨locked', isLocked, notBusy⟩ := free (isModel.mpr nonlocal)
    rwa [Option.some.inj ((kept _ _ isLane).symm.trans isLocked)]
  · intro nonlocal
    obtain ⟨lane, isLane, _⟩ := free (isModel.mpr nonlocal)
    have sameContext : lane.context = row.context := Table.key_of_lookup isLane
    simp only [assignJob, isModel.mpr nonlocal, if_true, Table.lookup_modify_self, isLane]
    simp [follow, laneOfJob, sameContext, assignment]
  · intro context lane elsewhere isLane
    cases model with
    | false => exact kept _ _ isLane
    | true =>
        simp only [assignJob, if_true]
        rw [Table.lookup_modify_of_ne (elsewhere (isModel.mp rfl))]
        exact kept _ _ isLane

theorem lockLane_idle (state : Scheduler) (context : ResourceContext) :
    SchedulerMove state (lockLane state context).1 none :=
  SchedulerMove.idle _ (Nat.le_refl _) rfl (lockLane_spec state context).2.2.1

theorem claimJob_move (done : claimJob state context owner request = .ok (after, handed)) :
    SchedulerMove state after handed := by
  have idle : SchedulerMove state state none :=
    SchedulerMove.idle _ (Nat.le_refl _) rfl (LanesKept.refl _)
  unfold claimJob at done
  split at done
  · cases done
  split at done
  · rename_i row chosen
    obtain ⟨found, rfl, isKind, runnable⟩ := candidate_spec chosen
    cases done
    exact assignJob_move rfl rfl (LanesKept.refl _) found runnable
      (by simp [mem_of_mem_restrict isKind]) (by simp)
  · split at done
    · obtain ⟨sameNow, sameJobs, kept, isLane⟩ := lockLane_spec state context
      dsimp only at done
      split at done
      · cases done
        exact lockLane_idle state context
      · rename_i notBusy
        split at done
        · cases done
          exact lockLane_idle state context
        · rename_i row chosen
          obtain ⟨found, rfl, isKind, runnable⟩ := candidate_spec chosen
          cases done
          refine assignJob_move sameNow sameJobs kept found runnable ?_ fun _ => ⟨_, isLane, ?_⟩
          · simpa using not_local_of_model (mem_of_mem_restrict isKind)
          · rwa [Bool.not_eq_true, sameNow] at notBusy
    · cases done
      exact idle

theorem claimBackfillJob_move {runId : String}
    (done : claimBackfillJob state context owner jobId runId seconds elapsed =
      .ok (after, handed)) : SchedulerMove state after handed := by
  have idle : SchedulerMove state state none :=
    SchedulerMove.idle _ (Nat.le_refl _) rfl (LanesKept.refl _)
  unfold claimBackfillJob at done
  split at done
  · cases done
  split at done
  · cases done
    exact idle
  · rename_i job isJob
    obtain ⟨found, _, rfl⟩ := found_in_context isJob
    have runnable : ∀ {held : Scheduler}, heldForRun held job.context runId job = true →
        job.runnable = true := by
      intro held isHeld
      simp only [heldForRun, Bool.decide_and, decide_eq_true_eq, Bool.and_eq_true] at isHeld
      exact isHeld.2.1
    split at done
    · rename_i isLocal
      split at done
      · rename_i isHeld
        cases done
        exact assignJob_move rfl rfl (LanesKept.refl _) found (runnable isHeld) (by simp [isLocal])
          (by simp)
      · cases done
        exact idle
    · rename_i nonlocal
      obtain ⟨sameNow, sameJobs, kept, isLane⟩ := lockLane_spec state job.context
      dsimp only at done
      split at done
      · cases done
        exact lockLane_idle state job.context
      · rename_i notBusy
        split at done
        · rename_i isHeld
          cases done
          refine assignJob_move sameNow sameJobs kept found (runnable isHeld) (by simp [nonlocal])
            fun _ => ⟨_, isLane, ?_⟩
          rwa [Bool.not_eq_true, sameNow] at notBusy
        · cases done
          exact lockLane_idle state job.context

theorem guardJob_ok (done : guardJob state context jobId owner epoch = .ok (locked, job, lane)) :
    state.jobs.lookup jobId = some job ∧ job.context = context ∧ job.status = .running ∧
      job.lease.Holds state.now ⟨owner, epoch⟩ ∧
      ((job.kind ∈ localKinds ∧ locked = state ∧ lane = none) ∨
        (job.kind ∉ localKinds ∧ locked = (lockLane state context).1 ∧
          lane = some (lockLane state context).2 ∧
          (lockLane state context).2.lease.Holds state.now ⟨jobId, epoch⟩)) := by
  unfold guardJob at done
  split at done
  · cases done
  · rename_i row isJob
    obtain ⟨found, isId, inContext⟩ := found_in_context isJob
    split at done
    · cases done
    · rename_i fenced
      obtain ⟨running, held⟩ := not_not.mp fenced
      split at done
      · rename_i isLocal
        cases done
        exact ⟨isId ▸ found, inContext, running, held, Or.inl ⟨isLocal, rfl, rfl⟩⟩
      · rename_i nonlocal
        dsimp only at done
        split at done
        · cases done
        · rename_i laneFenced
          cases done
          exact ⟨isId ▸ found, inContext, running, held,
            Or.inr ⟨nonlocal, rfl, rfl, not_not.mp laneFenced⟩⟩

theorem guardJob_lane (done : guardJob state context jobId owner epoch = .ok (locked, job, lane)) :
    locked.now = state.now ∧ locked.jobs = state.jobs ∧ LanesKept state.lanes locked.lanes ∧
      (lane.isSome = true ↔ job.kind ∉ localKinds) ∧
      (job.kind ∉ localKinds → ∃ row, locked.lanes.lookup context = some row ∧
        row.lease.owner = some jobId ∧ row.lease.epoch = epoch) := by
  obtain ⟨_, _, _, _, ⟨isLocal, rfl, rfl⟩ | ⟨nonlocal, rfl, rfl, held⟩⟩ := guardJob_ok done
  · exact ⟨rfl, rfl, LanesKept.refl _, by simp [isLocal], fun nonlocal => absurd isLocal nonlocal⟩
  · obtain ⟨sameNow, sameJobs, kept, isLane⟩ := lockLane_spec state context
    exact ⟨sameNow, sameJobs, kept, by simp [nonlocal], fun _ => ⟨_, isLane, held.1, held.2.1⟩⟩

theorem lookup_vacate {lanes : Table SchedulerLane.context} {other : ResourceContext}
    {lane : SchedulerLane} (notOwned : lane.lease.owner ≠ some jobId)
    (found : lanes.lookup other = some lane) :
    (lanes.modify context (vacate jobId epoch)).lookup other = some lane := by
  by_cases same : other = context
  · subst same
    rw [Table.lookup_modify_self, found]
    simp [vacate, notOwned]
  · rw [Table.lookup_modify_of_ne same, found]

theorem jobTransition_move {action : JobAction} {proposal : Option String}
    (done : jobTransition state context jobId owner epoch action seconds proposal elapsed =
      .ok (after, result)) : SchedulerMove state after none := by
  unfold jobTransition at done
  split at done
  · cases done
  split at done
  · cases done
  cases guarded : guardJob state context jobId owner epoch with
  | error failure =>
      rw [guarded] at done
      cases done
  | ok returned =>
      obtain ⟨locked, job, lane⟩ := returned
      rw [guarded] at done
      obtain ⟨found, inContext, running, held, _⟩ := guardJob_ok guarded
      obtain ⟨sameNow, sameJobs, kept, hasLane, isLane⟩ := guardJob_lane guarded
      have isId : job.id = jobId := Table.key_of_lookup found
      have later : state.now ≤ locked.now + elapsed := sameNow ▸ Nat.le_add_right _ _
      subst isId inContext
      have leave : ∀ leaving : JobAction, leaving ≠ .heartbeat → leaving ≠ .stage →
          SchedulerMove state
            { locked with
              now := locked.now + elapsed
              jobs := locked.jobs.modify job.id (departure (locked.now + elapsed) leaving)
              lanes :=
                if lane.isSome then locked.lanes.modify job.context (vacate job.id epoch)
                else locked.lanes } none := by
        intro leaving _ _
        refine SchedulerMove.stopped _ job (departure (locked.now + elapsed) leaving) later found
          (by rw [sameJobs]) rfl ?_ ?_
        · cases leaving <;> simp only [departure] <;> split_ifs <;> simp_all
        · intro other row notOwned isRow
          have isRow := kept _ _ isRow
          dsimp only
          split
          · exact lookup_vacate notOwned isRow
          · exact isRow
      cases action with
      | heartbeat =>
          cases done
          refine SchedulerMove.renewed _ job (locked.now + elapsed + seconds) later found running
            (by rw [sameJobs]) ?_ ⟨?_, ?_⟩
          · intro nonlocal row isRow
            obtain ⟨now, isNow, owned, _⟩ := isLane nonlocal
            rwa [Option.some.inj ((kept _ _ isRow).symm.trans isNow)]
          · intro nonlocal
            obtain ⟨row, isRow, owned, sameEpoch⟩ := isLane nonlocal
            have sameContext : row.context = job.context := Table.key_of_lookup isRow
            simp only [hasLane.mpr nonlocal, if_true, Table.lookup_modify_self, isRow]
            have sameJobEpoch : job.lease.epoch = epoch := held.2.1
            simp [extend, owned, sameEpoch, laneOfJob, renewal, Lease.renew, sameContext,
              sameJobEpoch]
          · intro other row elsewhere isRow
            have isRow := kept _ _ isRow
            dsimp only
            split
            · rename_i some
              rw [Table.lookup_modify_of_ne (elsewhere (hasLane.mp some)), isRow]
            · exact isRow
      | stage =>
          cases done
          exact SchedulerMove.annotated _ job (staging proposal) later found (by rw [sameJobs])
            ⟨rfl, rfl⟩ ⟨rfl, rfl⟩ kept
      | complete =>
          cases done
          exact leave .complete (by decide) (by decide)
      | fail =>
          cases done
          exact leave .fail (by decide) (by decide)
      | defer =>
          cases done
          exact leave .defer (by decide) (by decide)

theorem recoverJob_move {disposition : RecoveryClass} {result : Bool}
    (done : recoverJob state context jobId disposition = .ok (after, result)) :
    SchedulerMove state after none := by
  obtain ⟨_, _, kept, _⟩ := lockLane_spec state context
  unfold recoverJob at done
  dsimp only at done
  split at done
  · cases done
    exact lockLane_idle state context
  · rename_i job isJob
    obtain ⟨found, rfl, _⟩ := found_in_context isJob
    split at done
    · cases done
      exact lockLane_idle state context
    · split at done
      · cases done
      · cases done
        refine SchedulerMove.stopped _ job (recovery disposition) (Nat.le_refl _) found rfl rfl
          ?_ ?_
        · simp only [recovery]
          split_ifs <;> simp
        · intro other row notOwned isRow
          exact lookup_vacate notOwned (kept _ _ isRow)

theorem retryJob_move {uuid : String}
    (done : retryJob state context jobId uuid = .ok (after, result)) :
    SchedulerMove state after none := by
  have requeued : ∀ {job : Job} (payload : JobPayload) (batches : Table MaintenanceBatch.id),
      state.jobs.lookup job.id = some job →
      SchedulerMove state
        { state with
          batches := batches
          jobs := state.jobs.modify job.id (requeue state.now payload) } none :=
    fun {job} payload _ found => SchedulerMove.stopped _ job (requeue state.now payload)
      (Nat.le_refl _) found rfl rfl (by simp [requeue]) fun _ _ _ isLane => isLane
  unfold retryJob at done
  split at done
  · cases done
  · rename_i job isJob
    obtain ⟨found, rfl, _⟩ := found_in_context isJob
    split at done
    · cases done
    split at done
    · cases done
    split at done
    · split at done
      · cases done
      · cases done
        exact requeued _ _ found
    · cases done
      exact requeued _ _ found

theorem ajob_ne_empty (uuid : String) : "ajob_" ++ uuid ≠ "" := by
  simp

theorem dropped_ok {Result : Type} {outcome : Except Failure (Scheduler × Result)}
    (done : (do let (state, _) ← outcome; .ok (state, none)) = Except.ok (after, handed)) :
    handed = none ∧ ∃ result, outcome = .ok (after, result) := by
  cases outcome with
  | error failure => cases done
  | ok returned =>
      cases done
      exact ⟨rfl, returned.2, rfl⟩

theorem park_move (state : Scheduler) (jobId : String) (status : JobStatus)
    (notBefore : Instant) (code message : Option String) :
    SchedulerMove state
      { state with
        jobs := state.jobs.modify jobId (parking status notBefore code message) } none := by
  cases found : state.jobs.lookup jobId with
  | none =>
      exact SchedulerMove.idle _ (Nat.le_refl _) (Table.modify_of_absent found _)
        (LanesKept.refl _)
  | some job =>
      obtain rfl := Table.key_of_lookup found
      by_cases runs : job.status = .running ∨ status = .running
      · have same : (parking status notBefore code message).apply job = job := by
          simp [parking, runs]
        exact SchedulerMove.annotated _ job _ (Nat.le_refl _) found rfl (by simp [same])
          (by simp [same]) (LanesKept.refl _)
      · have set : ((parking status notBefore code message).apply job).status = status ∧
            ((parking status notBefore code message).apply job).lease = job.lease := by
          simp [parking, runs]
        refine SchedulerMove.stopped _ job _ (Nat.le_refl _) found rfl (by rw [set.2]) ?_
          fun _ _ _ isLane => isLane
        rw [set.1]
        exact fun isRunning => runs (Or.inr isRunning)

/-- Every transaction is one of the moves. -/
theorem performScheduler_move {action : SchedulerAction}
    (done : performScheduler state action = .ok (after, handed)) :
    SchedulerMove state after handed := by
  cases action with
  | tick elapsed =>
      cases done
      exact SchedulerMove.idle _ (Nat.le_add_right _ _) rfl (LanesKept.refl _)
  | enqueue context uuid kind payload notBefore =>
      cases done
      exact SchedulerMove.enqueued _ _ (Nat.le_refl _) rfl (ajob_ne_empty uuid) rfl
        (LanesKept.refl _)
  | hold holds =>
      cases done
      exact SchedulerMove.idle _ (Nat.le_refl _) rfl (LanesKept.refl _)
  | openBatch batch =>
      cases done
      exact SchedulerMove.idle _ (Nat.le_refl _) rfl (LanesKept.refl _)
  | park jobId status notBefore code message =>
      cases done
      exact park_move state jobId status notBefore code message
  | claim context owner request => exact claimJob_move done
  | claimBackfill context owner jobId runId seconds elapsed => exact claimBackfillJob_move done
  | transition context jobId owner epoch action seconds proposal elapsed =>
      obtain ⟨rfl, _, outcome⟩ := dropped_ok done
      exact jobTransition_move outcome
  | recover context jobId disposition =>
      obtain ⟨rfl, _, outcome⟩ := dropped_ok done
      exact recoverJob_move outcome
  | retry context jobId uuid =>
      obtain ⟨rfl, _, outcome⟩ := dropped_ok done
      exact retryJob_move outcome

/-! ## The lanes -/

/-- A model job that runs under a live lease. -/
def Job.active (now : Instant) (job : Job) : Prop :=
  job.status = .running ∧ job.kind ∉ localKinds ∧ job.lease.live now = true

/-- Every active job is the one its lane follows. -/
structure Exclusive (state : Scheduler) : Prop where
  named : ∀ job ∈ state.jobs, job.id ≠ ""
  followed : ∀ job ∈ state.jobs, job.active state.now →
    state.lanes.lookup job.context = some (laneOfJob job)

theorem Job.active.earlier {now later : Instant} (order : now ≤ later) (active : job.active later) :
    job.active now :=
  ⟨active.1, active.2.1, Lease.live_of_le order active.2.2⟩

theorem Exclusive.busy (exclusive : Exclusive state) (member : job ∈ state.jobs)
    (active : job.active state.now) :
    (laneOfJob job).busy state.now = true := by
  have named := exclusive.named job member
  have live : (laneOfJob job).lease.live state.now = true := active.2.2
  unfold SchedulerLane.busy
  rw [live]
  simp [laneOfJob, truthy, named]

theorem Exclusive.modify (exclusive : Exclusive before) {change : Change Job.id}
    (later : before.now ≤ after.now) (found : before.jobs.lookup row.id = some row)
    (jobs : after.jobs = before.jobs.modify row.id change)
    (self : (change.apply row).active after.now →
      after.lanes.lookup (change.apply row).context = some (laneOfJob (change.apply row)))
    (others : ∀ job ∈ before.jobs, job.id ≠ row.id → job.active before.now →
      before.lanes.lookup job.context = some (laneOfJob job) →
      after.lanes.lookup job.context = some (laneOfJob job)) :
    Exclusive after := by
  constructor
  case named =>
      intro job member
      rw [jobs] at member
      rcases Table.mem_modify.mp member with ⟨old, isOld, _, rfl⟩ | ⟨old, _⟩
      · rw [change.keeps]
        exact exclusive.named old isOld
      · exact exclusive.named job old
  case followed =>
      intro job member active
      rw [jobs] at member
      rcases Table.mem_modify.mp member with ⟨old, isOld, isRow, rfl⟩ | ⟨old, different⟩
      · obtain rfl := Table.eq_of_key isOld (Table.mem_of_lookup found) isRow
        exact self active
      · have activeBefore := active.earlier later
        exact others job old different activeBefore (exclusive.followed job old activeBefore)

/-- No move breaks the lanes. -/
theorem Exclusive.move (exclusive : Exclusive before) (moved : SchedulerMove before after handed) :
    Exclusive after := by
  cases moved with
  | idle later jobs lanes =>
      constructor
      case named => rw [jobs]; exact exclusive.named
      case followed =>
          intro job member active
          rw [jobs] at member
          exact lanes _ _ (exclusive.followed job member (active.earlier later))
  | enqueued job later jobs named queued lanes =>
      have cases : ∀ other ∈ after.jobs, other ∈ before.jobs ∨ other = job := by
        intro other member
        rw [jobs] at member
        cases found : before.jobs.lookup job.id with
        | some present =>
            rw [Table.insert_of_lookup found] at member
            exact Or.inl member
        | none => exact (Table.mem_insert found).mp member
      constructor
      case named =>
          intro other member
          rcases cases other member with old | rfl
          · exact exclusive.named other old
          · exact named
      case followed =>
          intro other member active
          rcases cases other member with old | rfl
          · exact lanes _ _ (exclusive.followed other old (active.earlier later))
          · exact absurd active.1 (by simp [queued])
  | assigned row owner leaseUntil later found runnable jobs free lanes =>
      refine exclusive.modify later found jobs (fun active => lanes.1 active.2.1) ?_
      intro job member _ active isLane
      -- the lane of another active job is busy, so it is not the one just taken
      refine lanes.2 _ _ (fun nonlocal same => ?_) isLane
      rw [same] at isLane
      have busy := exclusive.busy member active
      rw [free nonlocal _ isLane] at busy
      cases busy
  | renewed row leaseUntil later found running jobs held lanes =>
      refine exclusive.modify later found jobs (fun active => lanes.1 active.2.1) ?_
      intro job member different active isLane
      refine lanes.2 _ _ (fun nonlocal same => ?_) isLane
      rw [same] at isLane
      exact different (Option.some.inj (held nonlocal _ isLane))
  | stopped row change later found jobs sameEpoch stops lanes =>
      refine exclusive.modify later found jobs (fun active => absurd active.1 stops) ?_
      intro job member different active isLane
      exact lanes _ _ (fun owned => different (Option.some.inj owned)) isLane
  | annotated row change later found jobs sameKind sameLease lanes =>
      refine exclusive.modify later found jobs ?_ fun job _ _ _ isLane => lanes _ _ isLane
      intro active
      have same : laneOfJob (change.apply row) = laneOfJob row := by
        simp [laneOfJob, sameKind.1, sameLease.2, change.keeps]
      have activeBefore : row.active after.now := by
        unfold Job.active at active ⊢
        rwa [sameKind.2, sameLease.1, sameLease.2] at active
      rw [same, sameKind.1]
      exact lanes _ _
        (exclusive.followed row (Table.mem_of_lookup found) (activeBefore.earlier later))

/-! ## Grants and departures -/

/-- A claim of a job: whom it went to under which epoch. -/
structure JobGrant where
  job : String
  epoch : Nat
  owner : String

/-- The scheduler with the grants made and the departures from `running`, newest first. -/
structure History where
  scheduler : Scheduler
  granted : List JobGrant
  left : List (String × Nat)

def History.empty (now : Instant) : History :=
  { scheduler := Scheduler.empty now
    granted := []
    left := [] }

/-- The grant a job handed out stands for. -/
def grantOf (job : Job) : Option JobGrant :=
  job.lease.owner.map fun owner => ⟨job.id, job.lease.epoch, owner⟩

/-- The jobs, with their epochs, that ran before and do not run after. -/
def departed (before after : Scheduler) : List (String × Nat) :=
  (before.jobs.rows.filter fun job =>
    job.status = .running ∧
      (after.jobs.lookup job.id).all fun now => now.status ≠ .running).map
    fun job => (job.id, job.lease.epoch)

/-- One transaction, recorded; a refused one changes nothing. -/
def stepHistory (history : History) (action : SchedulerAction) : History :=
  match performScheduler history.scheduler action with
  | .ok (after, handed) =>
      { scheduler := after
        granted := (handed.bind grantOf).toList ++ history.granted
        left := departed history.scheduler after ++ history.left }
  | .error _ => history

/-- A job that was not granted anew: it runs only if it ran, for the same owner. -/
def JobKept (old job : Job) : Prop :=
  job.lease.epoch = old.lease.epoch ∧
    (job.status = .running → old.status = .running ∧ job.lease.owner = old.lease.owner)

/-- A job that was granted: it did not run, and runs now under the next epoch. -/
def JobGranted (old job : Job) : Prop :=
  old.status ≠ .running ∧ job.lease.epoch = old.lease.epoch + 1 ∧ job.lease.owner.isSome

theorem not_running_of_runnable (runnable : job.runnable = true) :
    job.status ≠ .running := by
  intro running
  simp [Job.runnable, running] at runnable

theorem SchedulerMove.handed_spec (moved : SchedulerMove before after (some job)) :
    after.jobs.lookup job.id = some job ∧
      ∃ old, before.jobs.lookup job.id = some old ∧ JobGranted old job := by
  cases moved with
  | assigned row owner leaseUntil later found runnable jobs free lanes =>
      refine ⟨?_, row, found, not_running_of_runnable runnable, rfl, rfl⟩
      show after.jobs.lookup row.id = _
      rw [jobs, Table.lookup_modify_self, found]
      rfl

theorem SchedulerMove.jobs_spec (moved : SchedulerMove before after handed)
    (member : job ∈ after.jobs) :
    (before.jobs.lookup job.id = none ∧ job.status ≠ .running) ∨
      ∃ old, before.jobs.lookup job.id = some old ∧ (JobKept old job ∨ handed = some job) := by
  have unchanged : job ∈ before.jobs →
      ∃ old, before.jobs.lookup job.id = some old ∧ (JobKept old job ∨ handed = some job) :=
    fun old => ⟨job, Table.lookup_of_mem old, Or.inl ⟨rfl, fun running => ⟨running, rfl⟩⟩⟩
  have modified : ∀ {row : Job} {change : Change Job.id},
      before.jobs.lookup row.id = some row → after.jobs = before.jobs.modify row.id change →
      (JobKept row (change.apply row) ∨ handed = some (change.apply row)) →
      ∃ old, before.jobs.lookup job.id = some old ∧ (JobKept old job ∨ handed = some job) := by
    intro row change found jobs outcome
    rw [jobs] at member
    rcases Table.mem_modify.mp member with ⟨old, isOld, isRow, rfl⟩ | ⟨old, _⟩
    · obtain rfl := Table.eq_of_key isOld (Table.mem_of_lookup found) isRow
      rw [change.keeps]
      exact ⟨old, found, outcome⟩
    · exact unchanged old
  cases moved with
  | idle later jobs lanes =>
      rw [jobs] at member
      exact Or.inr (unchanged member)
  | enqueued fresh later jobs named queued lanes =>
      rw [jobs] at member
      cases found : before.jobs.lookup fresh.id with
      | some present =>
          rw [Table.insert_of_lookup found] at member
          exact Or.inr (unchanged member)
      | none =>
          rcases (Table.mem_insert found).mp member with old | rfl
          · exact Or.inr (unchanged old)
          · exact Or.inl ⟨found, by simp [queued]⟩
  | assigned row owner leaseUntil later found runnable jobs free lanes =>
      exact Or.inr (modified found jobs (Or.inr rfl))
  | renewed row leaseUntil later found running jobs held lanes =>
      exact Or.inr (modified found jobs (Or.inl ⟨rfl, fun _ => ⟨running, rfl⟩⟩))
  | stopped row change later found jobs sameEpoch stops lanes =>
      exact Or.inr (modified found jobs
        (Or.inl ⟨sameEpoch, fun running => absurd running stops⟩))
  | annotated row change later found jobs sameKind sameLease lanes =>
      refine Or.inr (modified found jobs (Or.inl ⟨by rw [sameLease.2], fun running => ?_⟩))
      exact ⟨by rwa [sameLease.1] at running, by rw [sameLease.2]⟩

theorem SchedulerMove.lookup_after (moved : SchedulerMove before after handed)
    (found : before.jobs.lookup jobId = some old) : ∃ job, after.jobs.lookup jobId = some job := by
  cases moved with
  | idle later jobs lanes => exact ⟨old, by rw [jobs, found]⟩
  | enqueued job later jobs named queued lanes =>
      exact ⟨old, by rw [jobs, Table.lookup_insert_of_lookup found]⟩
  | assigned row owner leaseUntil later isRow runnable jobs free lanes =>
      rw [jobs]
      exact Table.exists_lookup_modify ⟨old, found⟩ _ _
  | renewed row leaseUntil later isRow running jobs held lanes =>
      rw [jobs]
      exact Table.exists_lookup_modify ⟨old, found⟩ _ _
  | stopped row change later isRow jobs sameEpoch stops lanes =>
      rw [jobs]
      exact Table.exists_lookup_modify ⟨old, found⟩ _ _
  | annotated row change later isRow jobs sameKind sameLease lanes =>
      rw [jobs]
      exact Table.exists_lookup_modify ⟨old, found⟩ _ _

theorem SchedulerMove.successor (moved : SchedulerMove before after handed)
    (found : before.jobs.lookup jobId = some old) :
    ∃ job, after.jobs.lookup jobId = some job ∧
      (JobKept old job ∨ (handed = some job ∧ JobGranted old job)) := by
  obtain ⟨job, isJob⟩ := moved.lookup_after found
  refine ⟨job, isJob, ?_⟩
  have sameId : job.id = jobId := Table.key_of_lookup isJob
  rcases moved.jobs_spec (Table.mem_of_lookup isJob) with ⟨absent, _⟩ | ⟨other, isOther, outcome⟩
  · rw [sameId, found] at absent
    cases absent
  · rw [sameId, found] at isOther
    obtain rfl := Option.some.inj isOther
    rcases outcome with kept | rfl
    · exact Or.inl kept
    · obtain ⟨_, other, isOther, granted⟩ := moved.handed_spec
      rw [sameId, found] at isOther
      obtain rfl := Option.some.inj isOther
      exact Or.inr ⟨rfl, granted⟩

/-- The history is in step with the jobs. -/
structure Recorded (history : History) : Prop where
  once : (history.granted.map fun grant => (grant.job, grant.epoch)).Nodup
  passed : ∀ grant ∈ history.granted, ∃ job,
    history.scheduler.jobs.lookup grant.job = some job ∧ grant.epoch ≤ job.lease.epoch
  owned : ∀ job ∈ history.scheduler.jobs, job.status = .running →
    ∃ owner, job.lease.owner = some owner ∧ ⟨job.id, job.lease.epoch, owner⟩ ∈ history.granted
  leftOnce : history.left.Nodup
  gone : ∀ jobId epoch, (jobId, epoch) ∈ history.left → ∃ job,
    history.scheduler.jobs.lookup jobId = some job ∧ epoch ≤ job.lease.epoch ∧
      (job.lease.epoch = epoch → job.status ≠ .running)

/-- A departure is that of a job which ran and was not granted anew. -/
theorem mem_departed (moved : SchedulerMove before after handed)
    (member : (jobId, epoch) ∈ departed before after) :
    ∃ old job, before.jobs.lookup jobId = some old ∧ old.status = .running ∧
      old.lease.epoch = epoch ∧ after.jobs.lookup jobId = some job ∧ JobKept old job ∧
      job.status ≠ .running := by
  obtain ⟨old, isOld, same⟩ := List.mem_map.mp member
  obtain ⟨isRow, left⟩ := List.mem_filter.mp isOld
  simp only [Bool.decide_and, Bool.and_eq_true, decide_eq_true_eq] at left
  obtain ⟨rfl, rfl⟩ := Prod.mk.inj same
  have found := Table.lookup_of_mem (Table.mem_rows.mpr isRow)
  obtain ⟨job, isJob, outcome⟩ := moved.successor found
  have stopped : job.status ≠ .running := by simpa [isJob] using left.2
  refine ⟨old, job, found, left.1, rfl, isJob, ?_, stopped⟩
  rcases outcome with kept | ⟨_, notRunning, _⟩
  · exact kept
  · exact absurd left.1 notRunning

theorem departed_nodup (before after : Scheduler) : (departed before after).Nodup := by
  have ids : ((departed before after).map Prod.fst).Nodup := by
    unfold departed
    rw [List.map_map]
    exact before.jobs.unique.sublist (List.filter_sublist.map _)
  exact List.Nodup.of_map Prod.fst ids

theorem epoch_mono_of_successor
    (outcome : JobKept old job ∨ (handed = some job ∧ JobGranted old job)) :
    old.lease.epoch ≤ job.lease.epoch := by
  rcases outcome with kept | ⟨_, _, next, _⟩
  · exact kept.1.ge
  · omega

variable {history : History}

theorem Recorded.move (recorded : Recorded history)
    (moved : SchedulerMove history.scheduler after handed) :
    Recorded
      { scheduler := after
        granted := (handed.bind grantOf).toList ++ history.granted
        left := departed history.scheduler after ++ history.left } := by
  -- the only new grant is that of the job handed out, under an epoch no older grant has reached
  have fresh : ∀ grant ∈ handed.bind grantOf, ∃ job old,
      handed = some job ∧ grantOf job = some grant ∧ after.jobs.lookup grant.job = some job ∧
        grant.epoch = job.lease.epoch ∧
        history.scheduler.jobs.lookup grant.job = some old ∧ JobGranted old job := by
    intro grant member
    obtain ⟨job, rfl, isGrant⟩ := Option.bind_eq_some_iff.mp member
    obtain ⟨isJob, old, isOld, granted⟩ := moved.handed_spec
    obtain ⟨owner, _, rfl⟩ := Option.map_eq_some_iff.mp isGrant
    exact ⟨job, old, rfl, isGrant, isJob, rfl, isOld, granted⟩
  constructor
  case once =>
      cases isGrant : handed.bind grantOf with
      | none => exact recorded.once
      | some grant =>
          obtain ⟨job, old, _, _, _, sameEpoch, isOld, _, next, _⟩ := fresh grant isGrant
          refine List.nodup_cons.mpr ⟨fun again => ?_, recorded.once⟩
          obtain ⟨earlier, member, same⟩ := List.mem_map.mp again
          obtain ⟨sameJob, sameGrantEpoch⟩ := Prod.mk.inj same
          obtain ⟨now, isNow, atMost⟩ := recorded.passed earlier member
          rw [sameJob, isOld] at isNow
          obtain rfl := Option.some.inj isNow
          omega
  case passed =>
      intro grant member
      rcases List.mem_append.mp member with new | old
      · obtain ⟨job, _, _, _, isJob, sameEpoch, _⟩ := fresh grant (Option.mem_toList.mp new)
        exact ⟨job, isJob, sameEpoch.le⟩
      · obtain ⟨before, isBefore, atMost⟩ := recorded.passed grant old
        obtain ⟨job, isJob, outcome⟩ := moved.successor isBefore
        exact ⟨job, isJob, atMost.trans (epoch_mono_of_successor outcome)⟩
  case owned =>
      intro job member running
      rcases moved.jobs_spec member with ⟨_, notRunning⟩ | ⟨old, isOld, kept | rfl⟩
      · exact absurd running notRunning
      · obtain ⟨wasRunning, sameOwner⟩ := kept.2 running
        obtain ⟨owner, isOwner, granted⟩ :=
          recorded.owned old (Table.mem_of_lookup isOld) wasRunning
        refine ⟨owner, by rw [sameOwner, isOwner], List.mem_append_right _ ?_⟩
        rw [kept.1, ← Table.key_of_lookup isOld]
        exact granted
      · obtain ⟨_, old, _, _, _, hasOwner⟩ := moved.handed_spec
        obtain ⟨owner, isOwner⟩ := Option.isSome_iff_exists.mp hasOwner
        refine ⟨owner, isOwner, List.mem_append_left _ ?_⟩
        simp [grantOf, isOwner]
  case leftOnce =>
      refine List.nodup_append.mpr ⟨departed_nodup _ _, recorded.leftOnce, ?_⟩
      rintro ⟨jobId, epoch⟩ new other old rfl
      obtain ⟨before, _, isBefore, running, sameEpoch, _⟩ := mem_departed moved new
      obtain ⟨now, isNow, _, notRunning⟩ := recorded.gone jobId epoch old
      rw [isBefore] at isNow
      obtain rfl := Option.some.inj isNow
      exact notRunning sameEpoch running
  case gone =>
      intro jobId epoch member
      rcases List.mem_append.mp member with new | old
      · obtain ⟨_, job, _, _, rfl, isJob, kept, notRunning⟩ := mem_departed moved new
        exact ⟨job, isJob, kept.1.ge, fun _ => notRunning⟩
      · obtain ⟨before, isBefore, atMost, notRunning⟩ := recorded.gone jobId epoch old
        obtain ⟨job, isJob, outcome⟩ := moved.successor isBefore
        refine ⟨job, isJob, atMost.trans (epoch_mono_of_successor outcome), ?_⟩
        intro sameEpoch running
        rcases outcome with kept | ⟨_, _, next, _⟩
        · exact notRunning (kept.1.symm.trans sameEpoch) (kept.2 running).1
        · omega

/-! ## Whole runs -/

theorem stepHistory_keeps (history : History) (action : SchedulerAction)
    (both : Exclusive history.scheduler ∧ Recorded history) :
    Exclusive (stepHistory history action).scheduler ∧ Recorded (stepHistory history action) := by
  unfold stepHistory
  cases outcome : performScheduler history.scheduler action with
  | error failure => exact both
  | ok returned =>
      have moved := performScheduler_move outcome
      exact ⟨both.1.move moved, both.2.move moved⟩

theorem empty_keeps (now : Instant) :
    Exclusive (History.empty now).scheduler ∧ Recorded (History.empty now) := by
  constructor
  · constructor
    case named => exact fun job member => absurd member (Table.not_mem_empty job)
    case followed => exact fun job member => absurd member (Table.not_mem_empty job)
  · constructor
    case once => exact List.nodup_nil
    case passed => intro grant member; cases member
    case owned => exact fun job member => absurd member (Table.not_mem_empty job)
    case leftOnce => exact List.nodup_nil
    case gone => intro jobId epoch member; cases member

/-- The claim of a worker on a job is current: the job runs, unexpired, for this owner under this
epoch. -/
def CurrentJob (state : Scheduler) (context : ResourceContext) (jobId owner : String)
    (epoch : Nat) : Prop :=
  ∃ job, state.jobs.lookup jobId = some job ∧ job.context = context ∧ job.status = .running ∧
    job.lease.Holds state.now ⟨owner, epoch⟩

/-- A transition that presents a claim which is not current changes no row. -/
theorem transition_fenced (stale : ¬ CurrentJob history.scheduler context jobId owner epoch)
    (action : JobAction) (seconds : Nat) (proposal : Option String) (elapsed : Nat) :
    stepHistory history
      (.transition context jobId owner epoch action seconds proposal elapsed) = history := by
  unfold stepHistory
  cases outcome : performScheduler history.scheduler
      (.transition context jobId owner epoch action seconds proposal elapsed) with
  | error failure => rfl
  | ok returned =>
      exfalso
      obtain ⟨_, _, done⟩ := dropped_ok outcome
      unfold jobTransition at done
      split at done
      · cases done
      split at done
      · cases done
      cases guarded : guardJob history.scheduler context jobId owner epoch with
      | error failure =>
          rw [guarded] at done
          cases done
      | ok passed =>
          obtain ⟨locked, job, lane⟩ := passed
          obtain ⟨found, inContext, running, held, _⟩ := guardJob_ok guarded
          exact stale ⟨job, found, inContext, running, held⟩

/-- Exclusion on the model-maintenance lane, for every interleaving: a principal has at most one
model job running under a live lease, the lane names it with its epoch and expiry; a job's epoch
is granted once and left once, its owner is the one it was granted to; and a worker whose claim is
not current changes nothing. -/
theorem model_lane_exclusion (now : Instant) (actions : List SchedulerAction) :
    let history := runFrom stepHistory (History.empty now) actions
    let state := history.scheduler
    (∀ first ∈ state.jobs, ∀ second ∈ state.jobs, first.context = second.context →
      first.active state.now → second.active state.now → first = second) ∧
    (∀ job ∈ state.jobs, job.active state.now →
      ∃ lane, state.lanes.lookup job.context = some lane ∧ lane.lease.owner = some job.id ∧
        lane.lease.epoch = job.lease.epoch ∧ lane.lease.expiry = job.lease.expiry) ∧
    (history.granted.map fun grant => (grant.job, grant.epoch)).Nodup ∧
    (∀ job ∈ state.jobs, job.status = .running → ∃ owner, job.lease.owner = some owner ∧
      ⟨job.id, job.lease.epoch, owner⟩ ∈ history.granted) ∧
    history.left.Nodup ∧
    ∀ context jobId owner epoch, ¬ CurrentJob state context jobId owner epoch →
      ∀ action seconds proposal elapsed,
        stepHistory history
          (.transition context jobId owner epoch action seconds proposal elapsed) = history := by
  intro history state
  have both : Exclusive history.scheduler ∧ Recorded history :=
    invariant_run stepHistory_keeps (empty_keeps now) actions
  obtain ⟨exclusive, recorded⟩ := both
  refine ⟨?_, ?_, recorded.once, recorded.owned, recorded.leftOnce, ?_⟩
  · intro first isFirst second isSecond sameContext firstActive secondActive
    have one := exclusive.followed first isFirst firstActive
    have two := exclusive.followed second isSecond secondActive
    rw [sameContext, two] at one
    have sameLane := congrArg (fun lane => lane.lease.owner) (Option.some.inj one)
    exact (Table.eq_of_key isSecond isFirst (Option.some.inj sameLane)).symm
  · intro job member active
    exact ⟨laneOfJob job, exclusive.followed job member active, rfl, rfl, rfl⟩
  · intro context jobId owner epoch stale action seconds proposal elapsed
    exact transition_fenced stale action seconds proposal elapsed

end Shiliu.Storage
