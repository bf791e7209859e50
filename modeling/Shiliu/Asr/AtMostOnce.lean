/-
Module: Shiliu.Asr.AtMostOnce
Purpose: How often `provider.submit` is started for a video. The write-ahead mark, the uncertain
  classification of `_claim` and the failure path keep a started submit without a task id visible
  in the row as `external_result_unknown` or `asr_submit_unknown`; the invariant below ties that
  mark to the local knowledge of whichever worker the lease still recognizes. The only writer
  that can erase the mark is the reset `acquire` makes without a claim, on the strength of an
  earlier read.
Trusted boundary: none
Main exports: Sound, stepWorld_sound, submit_started_at_most_once, unknown_submit_resubmitted
-/
import Shiliu.Asr.Service

set_option linter.all false

namespace Shiliu.Asr

open Shiliu.Library
open Shiliu.Storage
open Shiliu.Collection

/-! ## The vocabulary of the invariant -/

/-- The lease still names the claim's owner and epoch. -/
def Current (row : JobRow) (held : Claim) : Prop :=
  row.lease.owner = some held.leaseOwner ∧ row.lease.epoch = held.leaseEpoch

/-- A durable upstream identity is stored. -/
def HasTask (job : ASRJobColumns) : Prop := truthy job.taskId = true

instance (job : ASRJobColumns) : Decidable (HasTask job) :=
  inferInstanceAs (Decidable (_ = _))

/-- The row says that a submit may have reached the provider. -/
def Marked (job : ASRJobColumns) : Prop :=
  (job.status = .submitted ∨ job.status = .needsReview) ∧ unknownOutcome job.lastErrorCode = true

/-- The worker is about to start `provider.submit`. -/
def Pc.pending : Pc → Bool
  | .submitting _ => true
  | _ => false

/-- A submit has been started or is about to be. -/
def Dispatched (world : World) : Prop :=
  world.submits ≠ [] ∨ ∃ index, (world.workers index).pc.pending = true

/-- What the program order alone guarantees about the locals. -/
def Pc.Local : Pc → Prop
  | .downloading session | .markingUpload session | .uploading session | .storingUrl session _
  | .dispatching session => truthy session.job.taskId = false
  | .polling session | .completing session _ | .markingProcessing session
  | .announcing session => truthy session.job.taskId = true
  | .storingTask _ taskId => taskId ≠ ""
  | _ => True

/-- What a worker whose claim is still current knows about the row. `dispatched` says whether
some submit has been started or is about to be. -/
def Pc.Fits (dispatched : Prop) (job : ASRJobColumns) : Pc → Prop
  | .claimed _ | .reading _ _ => dispatched → HasTask job
  | .reopening session | .retriggering session | .preparing session | .downloading session
  | .markingUpload session | .uploading session | .storingUrl session _ | .dispatching session
  | .polling session | .completing session _ | .markingProcessing session
  | .announcing session =>
      session.job.taskId = job.taskId ∧ (dispatched → HasTask job)
  | .submitting _ | .awaiting _ | .storingTask _ _ | .failing _ _ =>
      dispatched → HasTask job ∨ job.status = .submitted
  | .recording _ _ unknown => unknown = false → dispatched → HasTask job
  | _ => True

/-- A counter a worker may reach without starting a submit while it keeps its claim. -/
structure Pc.Lands (held : Claim) (pc : Pc) : Prop where
  stays : pc.pending = false
  holds : pc.held = some held
  program : pc.Local

/-- The invariant of every run whose resets leave marked rows alone. -/
structure Sound (world : World) : Prop where
  jobless : world.job = none → ∀ index, (world.workers index).pc.held = none
  bounded : ∀ row, world.job = some row → ∀ index held,
    (world.workers index).pc.held = some held → held.leaseEpoch ≤ row.lease.epoch
  distinct : ∀ first second one two, first ≠ second →
    (world.workers first).pc.held = some one → (world.workers second).pc.held = some two →
    one.leaseEpoch ≠ two.leaseEpoch
  program : ∀ index, (world.workers index).pc.Local
  once : world.submits.length ≤ 1
  pendingFirst : ∀ index, (world.workers index).pc.pending = true →
    world.submits = [] ∧ ∀ other, (world.workers other).pc.pending = true → other = index
  jobbed : Dispatched world → world.job ≠ none
  marked : ∀ row, world.job = some row → Dispatched world →
    HasTask (columnsOf row) ∨ Marked (columnsOf row)
  fits : ∀ row, world.job = some row → ∀ index held,
    (world.workers index).pc.held = some held → Current row held →
    (world.workers index).pc.Fits (Dispatched world) (columnsOf row)

variable {now : Instant} {row after written : JobRow} {held : Claim} {world : World} {index : Nat}
  {pc before : Pc} {result : Unit} {fields : ASRJobColumns → ASRJobColumns} {session : Session}
  {job : ASRJobColumns} {answer : Answer} {dispatched : Prop}

theorem Current.of_passes (passes : Passes now row held) : Current row held :=
  ⟨passes.2.1, passes.2.2.1⟩

theorem Sound.current_unique (sound : Sound world) {first second : Nat} {one two : Claim}
    (heldOne : (world.workers first).pc.held = some one)
    (heldTwo : (world.workers second).pc.held = some two) (currentOne : Current row one)
    (currentTwo : Current row two) : first = second := by
  by_contra different
  exact sound.distinct first second one two different heldOne heldTwo
    (currentOne.2.symm.trans currentTwo.2)

/-! ## Moving one worker -/

@[simp] theorem goto_job (world : World) (index : Nat) (pc : Pc) :
    (world.goto index pc).job = world.job := rfl

@[simp] theorem goto_submits (world : World) (index : Nat) (pc : Pc) :
    (world.goto index pc).submits = world.submits := rfl

@[simp] theorem goto_pc_self (world : World) (index : Nat) (pc : Pc) :
    ((world.goto index pc).workers index).pc = pc := by
  simp [World.goto]

theorem goto_pc_other (world : World) {other : Nat} (pc : Pc) (different : other ≠ index) :
    ((world.goto index pc).workers other).pc = (world.workers other).pc := by
  simp [World.goto, Function.update_of_ne different]

/-- A worker that keeps its claim moves nobody's claim. -/
theorem held_of_goto {moved : World} (workers : moved.workers = world.workers)
    (holds : (world.workers index).pc.held = some held) (keeps : pc.held = some held) (other : Nat)
    (claim : Claim) (isHeld : ((moved.goto index pc).workers other).pc.held = some claim) :
    (world.workers other).pc.held = some claim := by
  by_cases self : other = index
  · rw [self, goto_pc_self, keeps] at isHeld
    rw [self, holds, isHeld]
  · rwa [goto_pc_other moved pc self, workers] at isHeld

theorem local_goto (before : ∀ other, (world.workers other).pc.Local) (program : pc.Local)
    (other : Nat) : ((world.goto index pc).workers other).pc.Local := by
  by_cases self : other = index
  · rw [self, goto_pc_self]
    exact program
  · rw [goto_pc_other world pc self]
    exact before other

/-- Moving a worker between counters that start no submit leaves `Dispatched` alone. -/
theorem dispatched_goto (world : World) (before : (world.workers index).pc.pending = false)
    (after : pc.pending = false) :
    Dispatched (world.goto index pc) ↔ Dispatched world := by
  unfold Dispatched
  rw [goto_submits]
  refine or_congr_right (exists_congr fun other => ?_)
  by_cases same : other = index
  · subst same
    rw [goto_pc_self, after, before]
  · rw [goto_pc_other world pc same]

/-- One worker moves and the row may change with it. The row's epoch only grows, a claim that is
current afterwards was current before or is new, and both the mark and the knowledge of current
workers have to be re-established. -/
theorem Sound.move (sound : Sound world) (raw : Option String) (job : world.job = some row)
    (epochs : row.lease.epoch ≤ after.lease.epoch)
    (notPending : (world.workers index).pc.pending = false) (stays : pc.pending = false)
    (heldFrom : ∀ held, pc.held = some held → (world.workers index).pc.held = some held ∨
      (row.lease.epoch < held.leaseEpoch ∧ held.leaseEpoch ≤ after.lease.epoch))
    (program : pc.Local)
    (marked : Dispatched world → HasTask (columnsOf after) ∨ Marked (columnsOf after))
    (others : ∀ other held, other ≠ index → (world.workers other).pc.held = some held →
      Current after held → (world.workers other).pc.Fits (Dispatched world) (columnsOf after))
    (self : ∀ held, pc.held = some held → Current after held →
      pc.Fits (Dispatched world) (columnsOf after)) :
    Sound ({ world with job := some after, rawSubtitlePath := raw }.goto index pc) := by
  have same : Dispatched ({ world with job := some after, rawSubtitlePath := raw }.goto index pc)
      ↔ Dispatched world :=
    dispatched_goto { world with job := some after, rawSubtitlePath := raw } notPending stays
  have otherPc : ∀ other, other ≠ index →
      (({ world with job := some after, rawSubtitlePath := raw }.goto index pc).workers other).pc =
        (world.workers other).pc := fun other different => goto_pc_other _ pc different
  constructor
  case jobless => intro absent; simp at absent
  case bounded =>
      intro now isNow other held holds
      obtain rfl : after = now := Option.some.inj isNow
      by_cases self : other = index
      · subst self
        rw [goto_pc_self] at holds
        rcases heldFrom held holds with old | new
        · exact Nat.le_trans (sound.bounded row job other held old) epochs
        · exact new.2
      · rw [otherPc other self] at holds
        exact Nat.le_trans (sound.bounded row job other held holds) epochs
  case distinct =>
      -- a claim new to `index` lies above every claim held before
      have fresh : ∀ other one two, other ≠ index → pc.held = some one →
          (world.workers other).pc.held = some two → one.leaseEpoch ≠ two.leaseEpoch := by
        intro other one two different holdsOne holdsTwo
        rcases heldFrom one holdsOne with old | new
        · exact sound.distinct index other one two (Ne.symm different) old holdsTwo
        · have := sound.bounded row job other two holdsTwo
          omega
      intro first second one two different holdsOne holdsTwo
      by_cases firstSelf : first = index
      · have secondOther : second ≠ index := fun equal => different (firstSelf.trans equal.symm)
        rw [firstSelf, goto_pc_self] at holdsOne
        rw [otherPc second secondOther] at holdsTwo
        exact fresh second one two secondOther holdsOne holdsTwo
      · rw [otherPc first firstSelf] at holdsOne
        by_cases secondSelf : second = index
        · rw [secondSelf, goto_pc_self] at holdsTwo
          exact (fresh first two one firstSelf holdsTwo holdsOne).symm
        · rw [otherPc second secondSelf] at holdsTwo
          exact sound.distinct first second one two different holdsOne holdsTwo
  case program => exact local_goto sound.program program
  case once => exact sound.once
  case pendingFirst =>
      have wasPending : ∀ other,
          (({ world with job := some after, rawSubtitlePath := raw }.goto index pc).workers
            other).pc.pending = true → (world.workers other).pc.pending = true := by
        intro other isPending
        by_cases self : other = index
        · subst self
          rw [goto_pc_self, stays] at isPending
          cases isPending
        · rwa [otherPc other self] at isPending
      intro other isPending
      obtain ⟨noneStarted, only⟩ := sound.pendingFirst other (wasPending other isPending)
      exact ⟨noneStarted, fun third thirdPending => only third (wasPending third thirdPending)⟩
  case jobbed => simp
  case marked =>
      intro now isNow dispatched
      obtain rfl : after = now := Option.some.inj isNow
      exact marked (same.mp dispatched)
  case fits =>
      intro now isNow other held holds current
      obtain rfl : after = now := Option.some.inj isNow
      rw [propext same]
      by_cases isSelf : other = index
      · subst isSelf
        rw [goto_pc_self] at holds ⊢
        exact self held holds current
      · rw [otherPc other isSelf] at holds ⊢
        exact others other held isSelf holds current

/-- A worker moves and the database stays. -/
theorem Sound.quiet (sound : Sound world) (job : world.job = some row)
    (atPc : (world.workers index).pc = before) (notPending : before.pending = false)
    (stays : pc.pending = false) (heldFrom : ∀ held, pc.held = some held → before.held = some held)
    (program : pc.Local) (knows : before.Fits (Dispatched world) (columnsOf row) →
      pc.Fits (Dispatched world) (columnsOf row)) :
    Sound (world.goto index pc) := by
  subst atPc
  have same : world = { world with job := some row, rawSubtitlePath := world.rawSubtitlePath } := by
    rw [← job]
  rw [same]
  refine sound.move world.rawSubtitlePath job (Nat.le_refl _) notPending stays
    (fun held holds => Or.inl (heldFrom held holds)) program (sound.marked row job) ?_ ?_
  · intro other held _ holds current
    exact sound.fits row job other held holds current
  · intro held holds current
    exact knows (sound.fits row job index held (heldFrom held holds) current)

theorem Sound.leave (sound : Sound world) (job : world.job = some row)
    (atPc : (world.workers index).pc = before) (notPending : before.pending = false) :
    Sound (world.goto index .finished) :=
  sound.quiet job atPc notPending rfl (by intro held impossible; cases impossible) trivial
    (fun _ => trivial)

/-- A worker goes on under its claim. -/
theorem Sound.follow (sound : Sound world) (job : world.job = some row)
    (atPc : (world.workers index).pc = before) (notPending : before.pending = false)
    (holds : before.held = some held) (lands : pc.Lands held)
    (knows : before.Fits (Dispatched world) (columnsOf row) →
      pc.Fits (Dispatched world) (columnsOf row)) :
    Sound (world.goto index pc) :=
  sound.quiet job atPc notPending lands.stays
    (fun other same => by rw [holds, ← lands.holds, same]) lands.program knows

/-- The `finally` of `renewing_lease` is always a way on. -/
theorem Pc.releasing_lands (held : Claim) : (Pc.releasing held).Lands held := ⟨rfl, rfl, trivial⟩

/-- A worker goes to the `finally` of `renewing_lease`. -/
theorem Sound.abandon (sound : Sound world) (job : world.job = some row)
    (atPc : (world.workers index).pc = before) (notPending : before.pending = false)
    (holds : before.held = some held) : Sound (world.goto index (.releasing held)) :=
  sound.follow job atPc notPending holds (Pc.releasing_lands held) (fun _ => trivial)

theorem updateASRJob_ok (done : updateASRJob now row (some held) fields = .ok (written, result)) :
    Current row held ∧ written.lease = row.lease ∧
      columnsOf written = fields (columnsOf row) := by
  obtain ⟨rfl, passes, _⟩ := guardedWrite_ok done
  exact ⟨Current.of_passes (passes held rfl), rfl, rfl⟩

theorem updateASRJob_unclaimed_ok
    (done : updateASRJob now row none fields = .ok (written, result)) :
    row.lease.owner = none ∧ written.lease = row.lease ∧
      columnsOf written = fields (columnsOf row) := by
  obtain ⟨rfl, _, unclaimed⟩ := guardedWrite_ok done
  exact ⟨unclaimed rfl, rfl, rfl⟩

/-- A claimed update: the mark and the worker's own knowledge have to be re-established from what
a current worker knew; every other worker's claim is stale. -/
theorem Sound.claimedUpdate (sound : Sound world) (raw : Option String) (job : world.job = some row)
    (atPc : (world.workers index).pc = before)
    (done : updateASRJob world.now row (some held) fields = .ok (written, result))
    (notPending : before.pending = false) (holds : before.held = some held) (lands : pc.Lands held)
    (kept : before.Fits (Dispatched world) (columnsOf row) →
      (Dispatched world → HasTask (fields (columnsOf row)) ∨ Marked (fields (columnsOf row))) ∧
        pc.Fits (Dispatched world) (fields (columnsOf row))) :
    Sound ({ world with job := some written, rawSubtitlePath := raw }.goto index pc) := by
  subst atPc
  obtain ⟨current, sameLease, columns⟩ := updateASRJob_ok done
  obtain ⟨marked, fits⟩ := kept (sound.fits row job index held holds current)
  refine sound.move raw job (by rw [sameLease]) notPending lands.stays ?_ lands.program
    (columns ▸ marked) ?_ ?_
  · intro now holdsNow
    left
    rw [holds, ← lands.holds, holdsNow]
  · intro other stale different holdsStale currentStale
    have currentBefore : Current row stale := by
      unfold Current at currentStale ⊢
      rwa [sameLease] at currentStale
    exact absurd (sound.current_unique holdsStale holds currentBefore current) different
  · intro _ _ _
    rw [columns]
    exact fits

/-- `World.write` as a whole: the update, or the way out through `finally`. -/
theorem Sound.write (sound : Sound world) (job : world.job = some row)
    (atPc : (world.workers index).pc = before) (notPending : before.pending = false)
    (holds : before.held = some session.held) (lands : pc.Lands session.held)
    (kept : before.Fits (Dispatched world) (columnsOf row) →
      (Dispatched world → HasTask (fields (columnsOf row)) ∨ Marked (fields (columnsOf row))) ∧
        pc.Fits (Dispatched world) (fields (columnsOf row))) :
    Sound (world.write index row session fields pc) := by
  unfold World.write
  cases done : updateASRJob world.now row (some session.held) fields with
  | ok returned =>
      exact sound.claimedUpdate world.rawSubtitlePath job atPc done notPending holds
        lands kept
  | error failure => exact sound.abandon job atPc notPending holds

/-! ## The two steps that start a submit -/

/-- Before the write-ahead mark nothing has been started: a current worker without a task id
would otherwise know better. -/
theorem Sound.undispatched (sound : Sound world) (job : world.job = some row)
    (atPc : (world.workers index).pc = .dispatching session) (current : Current row session.held) :
    ¬ Dispatched world := by
  intro dispatched
  have noTask : truthy session.job.taskId = false := by
    have := sound.program index
    rwa [atPc] at this
  have fits := sound.fits row job index session.held (by rw [atPc]; rfl) current
  rw [atPc] at fits
  have hasTask : truthy (columnsOf row).taskId = true := fits.2 dispatched
  rw [← fits.1, noTask] at hasTask
  cases hasTask

/-- The write-ahead mark: the worker becomes the only one about to start a submit. -/
theorem Sound.mark (sound : Sound world) (job : world.job = some row)
    (atPc : (world.workers index).pc = .dispatching session)
    (done : updateASRJob world.now row (some session.held) fields = .ok (written, result))
    (submitted : (fields (columnsOf row)).status = .submitted)
    (marked : Marked (fields (columnsOf row))) :
    Sound ({ world with job := some written }.goto index (.submitting session)) := by
  obtain ⟨current, sameLease, columns⟩ := updateASRJob_ok done
  have undispatched := sound.undispatched job atPc current
  have noSubmits : world.submits = [] := by
    by_contra started
    exact undispatched (Or.inl started)
  have nonePending : ∀ other, (world.workers other).pc.pending = true → False :=
    fun other isPending => undispatched (Or.inr ⟨other, isPending⟩)
  have holds : (world.workers index).pc.held = some session.held := by rw [atPc]; rfl
  let after := { world with job := some written }.goto index (.submitting session)
  have otherPc : ∀ other, other ≠ index → (after.workers other).pc = (world.workers other).pc :=
    fun other different => goto_pc_other _ _ different
  have heldBefore : ∀ other held, (after.workers other).pc.held = some held →
      (world.workers other).pc.held = some held := held_of_goto rfl holds rfl
  constructor
  case jobless => intro absent; simp at absent
  case bounded =>
      intro now isNow other held isHeld
      obtain rfl : written = now := Option.some.inj isNow
      rw [sameLease]
      exact sound.bounded row job other held (heldBefore other held isHeld)
  case distinct =>
      intro first second one two different holdsOne holdsTwo
      exact sound.distinct first second one two different (heldBefore first one holdsOne)
        (heldBefore second two holdsTwo)
  case program => exact local_goto sound.program trivial
  case once => exact sound.once
  case pendingFirst =>
      have only : ∀ other, (after.workers other).pc.pending = true → other = index := by
        intro other isPending
        by_contra different
        rw [otherPc other different] at isPending
        exact nonePending other isPending
      intro other isPending
      refine ⟨noSubmits, fun third thirdPending => ?_⟩
      rw [only third thirdPending, only other isPending]
  case jobbed => simp
  case marked =>
      intro now isNow _
      obtain rfl : written = now := Option.some.inj isNow
      rw [columns]
      exact Or.inr marked
  case fits =>
      intro now isNow other held isHeld currentNow
      obtain rfl : written = now := Option.some.inj isNow
      have currentBefore : Current row held := by
        unfold Current at currentNow ⊢
        rwa [sameLease] at currentNow
      obtain rfl := sound.current_unique (heldBefore other held isHeld) holds currentBefore current
      rw [goto_pc_self, columns]
      exact fun _ => Or.inr submitted

/-- The submit itself: it was pending, so it is the first. -/
theorem Sound.submit (sound : Sound world) (job : world.job = some row)
    (atPc : (world.workers index).pc = .submitting session) :
    Sound ({ world with submits := index :: world.submits }.goto index (.awaiting session)) := by
  have isPending : (world.workers index).pc.pending = true := by rw [atPc]; rfl
  obtain ⟨noSubmits, only⟩ := sound.pendingFirst index isPending
  have dispatched : Dispatched world := Or.inr ⟨index, isPending⟩
  let after := { world with submits := index :: world.submits }.goto index (.awaiting session)
  have otherPc : ∀ other, other ≠ index → (after.workers other).pc = (world.workers other).pc :=
    fun other different => goto_pc_other _ _ different
  have holds : (world.workers index).pc.held = some session.held := by rw [atPc]; rfl
  have heldBefore : ∀ other held, (after.workers other).pc.held = some held →
      (world.workers other).pc.held = some held := held_of_goto rfl holds rfl
  constructor
  case jobless =>
      intro absent
      rw [goto_job, job] at absent
      cases absent
  case bounded =>
      intro now isNow other held isHeld
      exact sound.bounded now isNow other held (heldBefore other held isHeld)
  case distinct =>
      intro first second one two different holdsOne holdsTwo
      exact sound.distinct first second one two different (heldBefore first one holdsOne)
        (heldBefore second two holdsTwo)
  case program => exact local_goto sound.program trivial
  case once => simp [noSubmits]
  case pendingFirst =>
      intro other otherPending
      by_cases self : other = index
      · subst self
        rw [goto_pc_self] at otherPending
        cases otherPending
      · rw [otherPc other self] at otherPending
        exact absurd (only other otherPending) self
  case jobbed =>
      intro _ absent
      rw [goto_job, job] at absent
      cases absent
  case marked => exact fun now isNow _ => sound.marked now isNow dispatched
  case fits =>
      intro now isNow other held isHeld current
      have fits := sound.fits now isNow other held (heldBefore other held isHeld) current
      have same : Dispatched after ↔ Dispatched world :=
        iff_of_true (Or.inl (List.cons_ne_nil index world.submits)) dispatched
      rw [propext same]
      by_cases self : other = index
      · subst self
        rw [goto_pc_self]
        rw [atPc] at fits
        exact fits
      · rw [otherPc other self]
        exact fits

/-! ## Steps that move no worker -/

theorem Sound.renewed (sound : Sound world) (job : world.job = some row)
    (columns : columnsOf after = columnsOf row) (owner : after.lease.owner = row.lease.owner)
    (epoch : after.lease.epoch = row.lease.epoch) :
    Sound { world with job := some after } := by
  constructor
  case jobless => intro absent; simp at absent
  case bounded =>
      intro now isNow other held isHeld
      obtain rfl : after = now := Option.some.inj isNow
      rw [epoch]
      exact sound.bounded row job other held isHeld
  case distinct => exact sound.distinct
  case program => exact sound.program
  case once => exact sound.once
  case pendingFirst => exact sound.pendingFirst
  case jobbed => simp
  case marked =>
      intro now isNow dispatched
      obtain rfl : after = now := Option.some.inj isNow
      rw [columns]
      exact sound.marked row job dispatched
  case fits =>
      intro now isNow other held isHeld current
      obtain rfl : after = now := Option.some.inj isNow
      unfold Current at current
      rw [owner, epoch] at current
      rw [columns]
      exact sound.fits row job other held isHeld current

/-- `ensure_asr_job` inserts the row: nobody holds a claim and nothing has been started. -/
theorem Sound.ensured (sound : Sound world) (absent : world.job = none) (row : JobRow) :
    Sound { world with job := some row } := by
  have undispatched : ¬ Dispatched world := fun dispatched => sound.jobbed dispatched absent
  constructor
  case jobless => intro none; simp at none
  case bounded =>
      intro _ _ other held isHeld
      rw [sound.jobless absent other] at isHeld
      cases isHeld
  case distinct => exact sound.distinct
  case program => exact sound.program
  case once => exact sound.once
  case pendingFirst => exact sound.pendingFirst
  case jobbed => simp
  case marked => exact fun _ _ dispatched => absurd dispatched undispatched
  case fits =>
      intro _ _ other held isHeld _
      rw [sound.jobless absent other] at isHeld
      cases isHeld

/-- A worker without a claim moves while there is no row. -/
theorem Sound.idle (sound : Sound world) (absent : world.job = none)
    (notPending : (world.workers index).pc.pending = false) (stays : pc.pending = false)
    (unheld : pc.held = none) (program : pc.Local) :
    Sound (world.goto index pc) := by
  have same : Dispatched (world.goto index pc) ↔ Dispatched world :=
    dispatched_goto world notPending stays
  have noneHeld : ∀ other, ((world.goto index pc).workers other).pc.held = none := by
    intro other
    by_cases self : other = index
    · subst self
      rwa [goto_pc_self]
    · rw [goto_pc_other world pc self]
      exact sound.jobless absent other
  have nonePending : ∀ other, ((world.goto index pc).workers other).pc.pending = true → False :=
    fun other isPending => sound.jobbed (same.mp (Or.inr ⟨other, isPending⟩)) absent
  constructor
  case jobless => exact fun _ => noneHeld
  case bounded =>
      intro row isRow
      rw [goto_job, absent] at isRow
      cases isRow
  case distinct =>
      intro first _ one _ _ holdsOne _
      rw [noneHeld first] at holdsOne
      cases holdsOne
  case program =>
      intro other
      by_cases self : other = index
      · subst self
        rwa [goto_pc_self]
      · rw [goto_pc_other world pc self]
        exact sound.program other
  case once => exact sound.once
  case pendingFirst => exact fun other isPending => (nonePending other isPending).elim
  case jobbed => exact fun dispatched => sound.jobbed (same.mp dispatched)
  case marked =>
      intro row isRow
      rw [goto_job, absent] at isRow
      cases isRow
  case fits =>
      intro row isRow
      rw [goto_job, absent] at isRow
      cases isRow

/-! ## The lease and the reset -/

theorem Sound.stale (sound : Sound world) (job : world.job = some row)
    (next : after.lease.epoch = row.lease.epoch + 1)
    (isHeld : (world.workers index).pc.held = some held) : ¬ Current after held := by
  intro current
  have atMost := sound.bounded row job index held isHeld
  have equal := current.2
  omega

/-- `_claim` grants a marked row to nobody. -/
theorem hasTask_of_claimable (claimable : admission now .asrJobs job = .claimable)
    (marked : HasTask job ∨ Marked job) :
    HasTask job := by
  rcases marked with hasTask | ⟨status, _⟩
  · exact hasTask
  · unfold HasTask
    by_contra noTask
    rw [Bool.not_eq_true] at noTask
    simp only [admission] at claimable
    split_ifs at claimable with _ _ uncertain review
    rcases status with submitted | needsReview
    · exact uncertain ⟨by simp [noTask], Or.inl submitted⟩
    · exact review needsReview

theorem Sound.claiming (sound : Sound world) (job : world.job = some row)
    (atPc : (world.workers index).pc = .claiming) :
    Sound (advanceOn world index answer row) := by
  have notPending : (world.workers index).pc.pending = false := by rw [atPc]; rfl
  have stops : Sound (world.goto index .finished) := sound.leave job atPc rfl
  simp only [advanceOn, atPc]
  cases outcome : claim world.now row (world.workers index).owner leaseSeconds with
  | error failure => exact stops
  | ok returned =>
      obtain ⟨after, handed⟩ := returned
      rcases claim_ok outcome with ⟨_, rfl, rfl⟩ | ⟨_, rfl, rfl⟩ | ⟨claimable, _, _, rfl, rfl⟩
      · have same : { world with job := some after } = world := by rw [← job]
        simp only [same]
        exact stops
      · -- reclassified: the row is marked, and the epoch leaves every claim behind
        refine sound.move world.rawSubtitlePath job (Nat.le_succ _) notPending rfl
          (by intro held impossible; cases impossible) trivial
          (fun _ => Or.inr ⟨Or.inr rfl, rfl⟩) ?_ (by intro held impossible; cases impossible)
        intro other held _ isHeld current
        exact absurd current (sound.stale job rfl isHeld)
      · refine sound.move world.rawSubtitlePath job (Nat.le_succ _) notPending rfl
          ?_ trivial (sound.marked row job) ?_ ?_
        · intro held isHeld
          obtain rfl := Option.some.inj isHeld
          exact Or.inr ⟨Nat.lt_succ_self _, Nat.le_refl _⟩
        · intro other held _ isHeld current
          exact absurd current (sound.stale job rfl isHeld)
        · intro _ _ _ dispatched
          exact hasTask_of_claimable claimable (sound.marked row job dispatched)

/-- The reset overwrites the mark of an unknown outcome: the row `acquire` resets without a claim
is no longer the row it looked at. -/
def overwritesUnknown (world : World) : Action → Bool
  | .advance index _ =>
      match (world.workers index).pc, world.job with
      | .reset, some row =>
          row.lease.owner = none ∧ !truthy (columnsOf row).taskId ∧
            unknownOutcome (columnsOf row).lastErrorCode
      | _, _ => false
  | _ => false

/-- The reset without a claim, on a row that carries no mark. -/
theorem Sound.reset (sound : Sound world) (job : world.job = some row)
    (atPc : (world.workers index).pc = .reset)
    (harmless : overwritesUnknown world (.advance index answer) = false) :
    Sound (advanceOn world index answer row) := by
  have notPending : (world.workers index).pc.pending = false := by rw [atPc]; rfl
  simp only [advanceOn, atPc]
  cases outcome : updateASRJob world.now row none reopenFields with
  | error failure => exact sound.leave job atPc rfl
  | ok returned =>
      obtain ⟨unclaimed, sameLease, columns⟩ := updateASRJob_unclaimed_ok outcome
      have keepsTask : Dispatched world → HasTask (columnsOf row) := by
        intro dispatched
        rcases sound.marked row job dispatched with hasTask | ⟨_, unknown⟩
        · exact hasTask
        · by_contra noTask
          simp [overwritesUnknown, atPc, job, unclaimed, unknown] at harmless
          exact noTask harmless
      refine sound.move world.rawSubtitlePath job (by rw [sameLease]) notPending rfl
        (by intro held impossible; cases impossible) trivial ?_ ?_
        (by intro held impossible; cases impossible)
      · intro dispatched
        rw [columns]
        exact Or.inl (keepsTask dispatched)
      · intro other held _ _ current
        unfold Current at current
        rw [sameLease, unclaimed] at current
        cases current.1

theorem Sound.releasing (sound : Sound world) (job : world.job = some row)
    (atPc : (world.workers index).pc = .releasing held) :
    Sound (advanceOn world index answer row) := by
  have notPending : (world.workers index).pc.pending = false := by rw [atPc]; rfl
  simp only [advanceOn, atPc]
  cases outcome : release world.now row held with
  | error failure => exact sound.leave job atPc rfl
  | ok returned =>
      obtain ⟨released, _⟩ := returned
      obtain ⟨_, rfl⟩ := release_ok outcome
      refine sound.move world.rawSubtitlePath job (Nat.le_refl _) notPending rfl
        (by intro held impossible; cases impossible) trivial (sound.marked row job) ?_
        (by intro held impossible; cases impossible)
      intro other held _ _ current
      cases current.1

/-! ## One step -/

/-- Where `acquire` goes after its read: no claim, nothing pending, nothing to know. -/
theorem Pc.afterEnsure_cases (worker : Worker) (raw : Option String) (job : ASRJobColumns) :
    afterEnsure worker raw job = .finished ∨ afterEnsure worker raw job = .reset ∨
      afterEnsure worker raw job = .claiming := by
  unfold afterEnsure
  split_ifs <;> simp

theorem Pc.afterReopen_lands (now : Instant) (worker : Worker) (holds : session.held = held) :
    (afterReopen now worker session).Lands held := by
  subst holds
  unfold afterReopen
  split_ifs <;> exact ⟨rfl, rfl, trivial⟩

theorem Pc.afterReopen_fits (now : Instant) (worker : Worker)
    (sameTask : session.job.taskId = job.taskId) (knows : dispatched → HasTask job) :
    (afterReopen now worker session).Fits dispatched job := by
  unfold afterReopen
  split_ifs
  · exact trivial
  · exact ⟨sameTask, knows⟩
  · exact ⟨sameTask, knows⟩

theorem Pc.afterRead_lands (now : Instant) (worker : Worker) (holds : session.held = held) :
    (afterRead now worker session).Lands held := by
  subst holds
  unfold afterRead
  split_ifs
  · exact Pc.releasing_lands session.held
  · exact Pc.releasing_lands session.held
  · exact ⟨rfl, rfl, trivial⟩
  · exact Pc.afterReopen_lands now worker rfl

theorem Pc.afterRead_fits (now : Instant) (worker : Worker)
    (knows : dispatched → HasTask session.job) :
    (afterRead now worker session).Fits dispatched session.job := by
  unfold afterRead
  split_ifs
  · exact trivial
  · exact trivial
  · exact ⟨rfl, knows⟩
  · exact Pc.afterReopen_fits now worker rfl knows

theorem Pc.afterUpload_lands (session : Session) : (afterUpload session).Lands session.held := by
  unfold afterUpload
  split_ifs with task
  · exact ⟨rfl, rfl, task⟩
  · exact ⟨rfl, rfl, by simpa [Pc.Local] using task⟩

theorem Pc.afterUpload_fits (sameTask : session.job.taskId = job.taskId)
    (knows : dispatched → HasTask job) :
    (afterUpload session).Fits dispatched job := by
  unfold afterUpload
  split_ifs
  · exact ⟨sameTask, knows⟩
  · exact ⟨sameTask, knows⟩

/-- The provider's answer: a task id that can be stored, or a failure. -/
theorem Pc.submitReply_lands (session : Session) (reply : Reply) :
    (submitReply session reply).Lands session.held := by
  cases reply with
  | returned taskId =>
      by_cases empty : taskId = ""
      · simp only [submitReply, empty, if_true]
        exact ⟨rfl, rfl, trivial⟩
      · simp only [submitReply, empty, if_false]
        exact ⟨rfl, rfl, empty⟩
  | raised error => exact ⟨rfl, rfl, trivial⟩
  | aborted => exact Pc.releasing_lands session.held

theorem Pc.submitReply_fits (session : Session) (reply : Reply)
    (knows : dispatched → HasTask job ∨ job.status = .submitted) :
    (submitReply session reply).Fits dispatched job := by
  cases reply with
  | returned taskId =>
      by_cases empty : taskId = ""
      · simp only [submitReply, empty, if_true]
        exact knows
      · simp only [submitReply, empty, if_false]
        exact knows
  | raised error => exact knows
  | aborted => exact trivial

/-- What `_record_failure` leaves behind is marked, unless a task id is stored. -/
theorem marked_failureFields {error : PipelineError} {unknown : Bool}
    (knows : unknown = false → dispatched → HasTask job) (happened : dispatched) :
    HasTask (failureFields now session error unknown job) ∨
      Marked (failureFields now session error unknown job) := by
  cases unknown with
  | true => exact Or.inr ⟨Or.inr rfl, rfl⟩
  | false => exact Or.inl (knows rfl happened)

/-- The test of `_record_failure` reads off whether the task id is the missing piece. -/
theorem hasTask_of_not_submitUnknown (knows : dispatched → HasTask job ∨ job.status = .submitted)
    (known : submitUnknown job = false) (happened : dispatched) : HasTask job := by
  rcases knows happened with hasTask | submitted
  · exact hasTask
  · simpa [submitUnknown, submitted, HasTask] using known

/-- The file checks of `_acquire_claimed`. -/
theorem Sound.preparing (sound : Sound world) (job : world.job = some row)
    (atPc : (world.workers index).pc = .preparing session) :
    Sound (advanceOn world index answer row) := by
  simp only [advanceOn, atPc]
  cases audioInput session.job answer.files with
  | error error =>
      exact sound.follow job atPc rfl rfl ⟨rfl, rfl, trivial⟩
        (fun knows happened => Or.inl (knows.2 happened))
  | ok path =>
      set prepared : Session := { session with audioPath := path }
      split_ifs with upload present
      · have untasked : truthy session.job.taskId = false := by simpa using upload.1
        exact sound.write job atPc rfl rfl ⟨rfl, rfl, untasked⟩
          (fun knows => ⟨fun happened => Or.inl (knows.2 happened), knows⟩)
      · have untasked : truthy session.job.taskId = false := by simpa using upload.1
        exact sound.follow job atPc rfl rfl ⟨rfl, rfl, untasked⟩ (fun knows => knows)
      · exact sound.follow job atPc rfl rfl (Pc.afterUpload_lands prepared)
          (fun knows => Pc.afterUpload_fits knows.1 knows.2)

/-- One step of one worker on the row, submits and resets included. -/
theorem advanceOn_sound (sound : Sound world) (job : world.job = some row)
    (harmless : overwritesUnknown world (.advance index answer) = false) :
    Sound (advanceOn world index answer row) := by
  have program := sound.program index
  cases atPc : (world.workers index).pc with
  | start =>
      simp only [advanceOn, atPc]
      exact sound.quiet job atPc rfl rfl (fun _ same => same) trivial (fun _ => trivial)
  | ensuring raw =>
      simp only [advanceOn, atPc]
      rcases Pc.afterEnsure_cases (world.workers index) raw (columnsOf row) with
        goes | goes | goes <;>
      · rw [goes]
        exact sound.quiet job atPc rfl rfl (by intro held impossible; cases impossible) trivial
          (fun _ => trivial)
  | reset => exact sound.reset job atPc harmless
  | claiming => exact sound.claiming job atPc
  | claimed held =>
      simp only [advanceOn, atPc]
      exact sound.follow job atPc rfl rfl ⟨rfl, rfl, trivial⟩ (fun knows => knows)
  | reading held raw =>
      simp only [advanceOn, atPc]
      exact sound.follow job atPc rfl rfl (Pc.afterRead_lands _ _ rfl)
        (fun knows => Pc.afterRead_fits _ _ knows)
  | reopening session =>
      simp only [advanceOn, atPc]
      exact sound.write job atPc rfl rfl (Pc.afterReopen_lands _ _ rfl)
        (fun knows => ⟨fun happened => Or.inl (knows.2 happened),
          Pc.afterReopen_fits _ _ knows.1 knows.2⟩)
  | retriggering session =>
      simp only [advanceOn, atPc]
      exact sound.write job atPc rfl rfl ⟨rfl, rfl, trivial⟩
        (fun knows => ⟨fun happened => Or.inl (knows.2 happened), knows⟩)
  | preparing session => exact sound.preparing job atPc
  | downloading session =>
      rw [atPc] at program
      simp only [advanceOn, atPc]
      cases answer.reply with
      | returned text => exact sound.follow job atPc rfl rfl ⟨rfl, rfl, program⟩ (fun knows => knows)
      | raised error =>
          exact sound.follow job atPc rfl rfl ⟨rfl, rfl, trivial⟩
            (fun knows happened => Or.inl (knows.2 happened))
      | aborted => exact sound.abandon job atPc rfl rfl
  | markingUpload session =>
      rw [atPc] at program
      simp only [advanceOn, atPc]
      exact sound.write job atPc rfl rfl ⟨rfl, rfl, program⟩
        (fun knows => ⟨fun happened => Or.inl (knows.2 happened), knows⟩)
  | uploading session =>
      rw [atPc] at program
      simp only [advanceOn, atPc]
      cases answer.reply with
      | returned url => exact sound.follow job atPc rfl rfl ⟨rfl, rfl, program⟩ (fun knows => knows)
      | raised error =>
          exact sound.follow job atPc rfl rfl ⟨rfl, rfl, trivial⟩
            (fun knows happened => Or.inl (knows.2 happened))
      | aborted => exact sound.abandon job atPc rfl rfl
  | storingUrl session url =>
      rw [atPc] at program
      simp only [advanceOn, atPc]
      exact sound.write job atPc rfl rfl ⟨rfl, rfl, program⟩
        (fun knows => ⟨fun happened => Or.inl (knows.2 happened), knows⟩)
  | dispatching session =>
      simp only [advanceOn, atPc, World.write]
      split
      · rename_i written result done
        exact sound.mark job atPc done rfl ⟨Or.inl rfl, rfl⟩
      · exact sound.abandon job atPc rfl rfl
  | submitting session =>
      simp only [advanceOn, atPc]
      exact sound.submit job atPc
  | awaiting session =>
      simp only [advanceOn, atPc]
      exact sound.follow job atPc rfl rfl (Pc.submitReply_lands session answer.reply)
        (fun knows => Pc.submitReply_fits session answer.reply knows)
  | storingTask session taskId =>
      rw [atPc] at program
      simp only [advanceOn, atPc]
      have stored : truthy (some taskId) = true := by simpa [truthy, Pc.Local] using program
      exact sound.write job atPc rfl rfl ⟨rfl, rfl, stored⟩
        (fun _ => ⟨fun _ => Or.inl stored, rfl, fun _ => stored⟩)
  | polling session =>
      rw [atPc] at program
      simp only [advanceOn, atPc]
      cases answer.queryReply with
      | completed resultUrl =>
          dsimp only
          split_ifs
          · exact sound.follow job atPc rfl rfl ⟨rfl, rfl, trivial⟩
              (fun knows happened => Or.inl (knows.2 happened))
          · exact sound.follow job atPc rfl rfl ⟨rfl, rfl, program⟩ (fun knows => knows)
      | processing => exact sound.follow job atPc rfl rfl ⟨rfl, rfl, program⟩ (fun knows => knows)
      | raised error =>
          exact sound.follow job atPc rfl rfl ⟨rfl, rfl, trivial⟩
            (fun knows happened => Or.inl (knows.2 happened))
      | aborted => exact sound.abandon job atPc rfl rfl
  | completing session resultUrl =>
      simp only [advanceOn, atPc]
      split_ifs
      · exact sound.abandon job atPc rfl rfl
      · split
        · rename_i written result done
          exact sound.claimedUpdate _ job atPc done rfl rfl (Pc.releasing_lands session.held)
            (fun knows => ⟨fun happened => Or.inl (knows.2 happened), trivial⟩)
        · exact sound.abandon job atPc rfl rfl
  | markingProcessing session =>
      rw [atPc] at program
      simp only [advanceOn, atPc]
      exact sound.write job atPc rfl rfl ⟨rfl, rfl, program⟩
        (fun knows => ⟨fun happened => Or.inl (knows.2 happened), knows⟩)
  | announcing session =>
      rw [atPc] at program
      simp only [advanceOn, atPc]
      split
      · split_ifs
        · exact sound.abandon job atPc rfl rfl
        · exact sound.follow job atPc rfl rfl ⟨rfl, rfl, program⟩ (fun knows => knows)
      · exact sound.abandon job atPc rfl rfl
  | failing session error =>
      simp only [advanceOn, atPc]
      exact sound.follow job atPc rfl rfl ⟨rfl, rfl, trivial⟩ (hasTask_of_not_submitUnknown)
  | recording session error unknown =>
      simp only [advanceOn, atPc]
      exact sound.write job atPc rfl rfl ⟨rfl, rfl, trivial⟩
        (fun knows => ⟨marked_failureFields knows, trivial⟩)
  | notifying session =>
      simp only [advanceOn, atPc]
      exact sound.abandon job atPc rfl rfl
  | releasing held => exact sound.releasing job atPc
  | finished =>
      simp only [advanceOn, atPc]
      exact sound

theorem advance_sound (sound : Sound world)
    (harmless : overwritesUnknown world (.advance index answer) = false) :
    Sound (advance world index answer) := by
  cases job : world.job with
  | some row =>
      simp only [advance, job]
      exact advanceOn_sound sound job harmless
  | none =>
      cases atPc : (world.workers index).pc with
      | start =>
          simp only [advance, job, atPc]
          exact sound.idle job (by rw [atPc]; rfl) rfl rfl trivial
      | ensuring raw =>
          simp only [advance, job, atPc]
          refine advanceOn_sound (sound.ensured job _) rfl ?_
          simp [overwritesUnknown, atPc]
      | _ =>
          simp only [advance, job, atPc]
          exact sound

theorem renew_sound (sound : Sound world) (index : Nat) :
    Sound (renew world index) := by
  unfold renew
  split
  · rename_i row held job isHeld
    cases outcome : heartbeat world.now row held leaseSeconds with
    | ok returned =>
        obtain ⟨renewed, _⟩ := returned
        obtain ⟨_, rfl⟩ := heartbeat_ok outcome
        exact sound.renewed job rfl rfl rfl
    | error failure => exact sound
  · exact sound

/-- The clock decides nothing here. -/
theorem Sound.tick (sound : Sound world) (elapsed : Nat) :
    Sound { world with now := world.now + elapsed } :=
  ⟨sound.jobless, sound.bounded, sound.distinct, sound.program, sound.once, sound.pendingFirst,
    sound.jobbed, sound.marked, sound.fits⟩

/-- Every step that leaves marked rows alone keeps the invariant. -/
theorem stepWorld_sound (world : World) (action : Action) (sound : Sound world)
    (harmless : overwritesUnknown world action = false) : Sound (stepWorld world action) := by
  cases action with
  | tick elapsed => exact sound.tick elapsed
  | advance worker answer => exact advance_sound sound harmless
  | renew worker => exact renew_sound sound worker

theorem start_sound (calls : Calls) (now : Instant) (job : Option JobRow) (raw : Option String) :
    Sound (World.start calls now job raw) := by
  have undispatched : ¬ Dispatched (World.start calls now job raw) := by
    rintro (started | ⟨index, isPending⟩)
    · exact started rfl
    · cases isPending
  constructor
  case jobless => exact fun _ _ => rfl
  case bounded => intro _ _ index held impossible; cases impossible
  case distinct => intro first _ one _ _ impossible; cases impossible
  case program => exact fun _ => trivial
  case once => exact Nat.zero_le 1
  case pendingFirst => intro index impossible; cases impossible
  case jobbed => exact fun dispatched => absurd dispatched undispatched
  case marked => exact fun _ _ dispatched => absurd dispatched undispatched
  case fits => exact fun _ _ _ _ _ _ => trivial

/-! ## Whole runs -/

@[simp] theorem write_submits (world : World) (index : Nat) (row : JobRow) (session : Session)
    (fields : ASRJobColumns → ASRJobColumns) (onward : Pc) :
    (world.write index row session fields onward).submits = world.submits := by
  unfold World.write
  split <;> rfl

theorem advanceOn_submits (world : World) (notPending : (world.workers index).pc.pending = false) :
    (advanceOn world index answer row).submits = world.submits := by
  cases atPc : (world.workers index).pc with
  | submitting session =>
      rw [atPc] at notPending
      cases notPending
  | _ =>
      simp only [advanceOn, atPc]
      repeat' split
      all_goals first | rfl | exact write_submits ..

theorem submits_kept (sound : Sound world) (started : world.submits ≠ []) (action : Action) :
    (stepWorld world action).submits = world.submits := by
  have notPending : ∀ index, (world.workers index).pc.pending = false := by
    intro index
    by_contra isPending
    exact started (sound.pendingFirst index (by simpa using isPending)).1
  cases action with
  | tick elapsed => rfl
  | advance worker answer =>
      simp only [stepWorld, advance]
      split
      · exact advanceOn_submits world (notPending worker)
      · rfl
      · exact advanceOn_submits { world with job := some _ } (notPending worker)
      · rfl
  | renew worker =>
      simp only [stepWorld, renew]
      split
      · split <;> rfl
      · rfl

/-- A submit has been started and no task id has been stored for it. -/
def Outstanding (world : World) : Prop :=
  world.submits ≠ [] ∧ ∀ row ∈ world.job, ¬ HasTask (columnsOf row)

instance (world : World) : Decidable (Outstanding world) :=
  inferInstanceAs (Decidable (_ ∧ _))

/-- What `acquire` promises about a run that goes on after `first`: while a submit is outstanding
the row stays marked, and no further submit is ever started. -/
def NeverResubmits (start : World) (first second : List Action) : Prop :=
  Outstanding (runFrom stepWorld start first) →
    (runFrom stepWorld start (first ++ second)).submits = (runFrom stepWorld start first).submits ∧
    ∃ row, (runFrom stepWorld start first).job = some row ∧ Marked (columnsOf row)

/-- As long as no reset without a claim overwrites the mark of an unknown outcome, submission is
at most once: for any workers, any answers and any order of their transactions. -/
theorem submit_started_at_most_once (calls : Calls) (now : Instant) (job : Option JobRow)
    (raw : Option String) (first second : List Action)
    (each : EachStep stepWorld (fun world action => overwritesUnknown world action = false)
      (World.start calls now job raw) (first ++ second)) :
    NeverResubmits (World.start calls now job raw) first second := by
  obtain ⟨eachFirst, eachSecond⟩ := EachStep.append.mp each
  have sound : Sound (runFrom stepWorld (World.start calls now job raw) first) :=
    invariant_run_of_each stepWorld_sound (start_sound calls now job raw) eachFirst
  rintro ⟨started, untasked⟩
  have kept : ∀ world action,
      (Sound world ∧
        world.submits = (runFrom stepWorld (World.start calls now job raw) first).submits) →
      overwritesUnknown world action = false →
      (Sound (stepWorld world action) ∧
        (stepWorld world action).submits =
          (runFrom stepWorld (World.start calls now job raw) first).submits) := by
    rintro world action ⟨soundNow, same⟩ harmless
    refine ⟨stepWorld_sound world action soundNow harmless, ?_⟩
    rw [submits_kept soundNow (by rwa [same]) action, same]
  constructor
  · rw [runFrom_append]
    exact (invariant_run_of_each kept ⟨sound, rfl⟩ eachSecond).2
  · have dispatched : Dispatched (runFrom stepWorld (World.start calls now job raw) first) :=
      Or.inl started
    obtain ⟨row, isRow⟩ := Option.ne_none_iff_exists'.mp (sound.jobbed dispatched)
    refine ⟨row, isRow, ?_⟩
    rcases sound.marked row isRow dispatched with hasTask | marked
    · exact absurd hasTask (untasked row isRow)
    · exact marked

/-! ## A delayed reset -/

/-- Calls that differ in their owner only, all of them manual. -/
def manualCalls : Calls where
  owner index := String.ofList (List.replicate (index + 1) 'w')
  provider _ := "dashscope"
  model _ := "paraformer-v2"
  triggerMode _ := .manual

/-- An answer in which the audio is on disk and every call ends in `reply`. -/
def answering (reply : Reply) : Answer :=
  { reply := reply
    queryReply := .processing
    files :=
      { insideRoot := some "temp/asr-input.m4a"
        managed := none
        scratch := "temp/asr-input.m4a"
        isFile := true }
    segmentsEmpty := false
    artifactVersion := "1"
    deadlinePassed := false }

/-- `count` steps of one worker under the same answer. -/
def steps (count worker : Nat) (reply : Reply) : List Action :=
  List.replicate count (.advance worker (answering reply))

/-- Worker 0 uploads with a rejected key, which puts the job under review. -/
def reviewed : List Action :=
  steps 12 0 (.raised ⟨"asr_authentication", "语音识别 API Key 无效、地域不匹配或无权限", false⟩)

/-- A manual call reopens the job, uploads, marks the row and starts `provider.submit`. -/
def submitStarted (worker : Nat) : List Action :=
  steps 12 worker (.returned "oss://audio")

/-- The started submit of worker 1 times out, and the job goes back under review. -/
def timedOut : List Action :=
  steps 5 1 (.raised ⟨"asr_provider_error", "timed out", true⟩)

/-- The invariant at work: a second manual call comes after the time-out and gives up. -/
theorem submit_started_at_most_once_timedOut :
    Outstanding
        (runFrom stepWorld (World.start manualCalls 0 none none) (reviewed ++ submitStarted 1)) ∧
      NeverResubmits (World.start manualCalls 0 none none) (reviewed ++ submitStarted 1)
        (timedOut ++ submitStarted 2) :=
  ⟨by decide +kernel,
    submit_started_at_most_once manualCalls 0 none none (reviewed ++ submitStarted 1)
      (timedOut ++ submitStarted 2) (by decide +kernel)⟩

/-- Worker 2 reads the review of worker 0 and is about to reset when worker 1 runs its whole call.
Its reset then erases what worker 1 left behind, and it submits the audio once more. -/
theorem unknown_submit_resubmitted :
    ¬ ∀ calls now job raw first second,
      NeverResubmits (World.start calls now job raw) first second := by
  intro promise
  have kept := promise manualCalls 0 none none
    (reviewed ++ steps 2 2 (.returned "oss://audio") ++ submitStarted 1)
    (timedOut ++ submitStarted 2)
  exact absurd (kept (by decide +kernel)).1 (by decide +kernel)

end Shiliu.Asr
