/-
Module: Shiliu.Pipeline.CallBound
Purpose: How often a stage calls its model. A call is made under a claim, behind a write that marks
  the stage as processing under the next attempt number; only recording its outcome makes the stage
  claimable again, and an attempt number of three ends that. The argument needs the attempt number
  to be that of the row at the claim, which the two refinement stages do not check, and the lease to
  be held when the call starts.
Trusted boundary: none
Main exports: Sound, stepWorld_sound, ClaimsAsRead, model_calls_bounded, stale_attempts_exceed_bound
-/
import Shiliu.Pipeline.ModelStages

set_option linter.all false

namespace Shiliu.Pipeline

open Shiliu.Library
open Shiliu.Storage
open Shiliu.Collection

variable {program : StageProgram} {world : World}

/-! ## The invariant -/

/-- The stage waits for a worker. -/
def Open (stage : PipelineStageColumns) : Prop :=
  stage.status = .pending ∨ stage.status = .retryWait

/-- The outcome of every call is recorded. -/
def Settled (calls : List ModelCall) : Prop :=
  ∀ call ∈ calls, call.recorded = true

/-- Every outcome is recorded, except perhaps that of the call made under an epoch. -/
def SettledBut (epoch : Nat) (calls : List ModelCall) : Prop :=
  ∀ call ∈ calls, call.recorded = true ∨ call.epoch = epoch

/-- What the row says about the calls so far. -/
structure RowSound (program : StageProgram) (stage : PipelineStageColumns)
    (calls : List ModelCall) : Prop where
  named : stage.stageName = program.name
  few : calls.length ≤ 3
  settled : Open stage → Settled calls
  room : Open stage → calls.length < 3
  counted : Open stage → calls.length ≤ stage.attemptCount

/-- What a worker knows while its claim is current. -/
def Pc.Knows (program : StageProgram) (stage : PipelineStageColumns) (calls : List ModelCall) :
    Pc → Prop
  | .reading seen _ =>
      Open stage ∧ (program.rereads = false → seen.attemptCount = stage.attemptCount)
  | .marking _ attempt => Open stage ∧ attempt = stage.attemptCount + 1
  | .announcing _ attempt | .naming _ attempt | .calling _ attempt =>
      stage.status = .processing ∧ stage.attemptCount = attempt ∧ Settled calls ∧
        calls.length < 3 ∧ calls.length < attempt
  | .awaiting held attempt | .publishing held attempt =>
      stage.attemptCount = attempt ∧ SettledBut held.leaseEpoch calls ∧ calls.length ≤ attempt
  | .failing held attempt _ _ =>
      (program.failureWritesAttempt = false → stage.attemptCount = attempt) ∧
        SettledBut held.leaseEpoch calls ∧ calls.length ≤ attempt
  | _ => True

/-- The tokens the workers remember. -/
def World.tokens (world : World) (worker : Nat) : Option (Token String) :=
  (world.workers worker).claim?.map Claim.token

structure Sound (program : StageProgram) (world : World) : Prop where
  absent : world.stage = none → world.calls = [] ∧ ∀ worker, (world.workers worker).claim? = none
  fenced : ∀ row, world.stage = some row → Fenced row.lease.epoch world.tokens
  row : ∀ row, world.stage = some row → RowSound program (columnsOf row) world.calls
  knows : ∀ row, world.stage = some row → ∀ worker held,
    (world.workers worker).claim? = some held → Current row.lease held.token →
      (world.workers worker).Knows program (columnsOf row) world.calls

/-! ## Calls -/

variable {calls : List ModelCall} {index attempt : Nat} {pc : Pc} {row after : StageRow}
  {held : Claim} {seen : PipelineStageColumns} {answer : Answer}

theorem Settled.but (settled : Settled calls) (epoch : Nat) :
    SettledBut epoch calls :=
  fun call isCall => Or.inl (settled call isCall)

theorem SettledBut.record {epoch : Nat} (settled : SettledBut epoch calls) :
    Settled (record epoch calls) := by
  intro call isCall
  obtain ⟨before, isBefore, rfl⟩ := List.mem_map.mp isCall
  split
  · rfl
  · rename_i other
    exact (settled before isBefore).resolve_right other

@[simp] theorem length_record (epoch : Nat) (calls : List ModelCall) :
    (record epoch calls).length = calls.length :=
  List.length_map _

variable {stage : PipelineStageColumns} {other : Nat} {now : Instant}
  {fields : PipelineStageColumns → PipelineStageColumns}

/-- A row that is not open says only that there were at most three calls. -/
theorem RowSound.closed (named : stage.stageName = program.name) (few : calls.length ≤ 3)
    (closed : ¬ Open stage) :
    RowSound program stage calls where
  named := named
  few := few
  settled isOpen := absurd isOpen closed
  room isOpen := absurd isOpen closed
  counted isOpen := absurd isOpen closed

/-- A reset stage has no calls. -/
theorem RowSound.fresh (named : stage.stageName = program.name) :
    RowSound program stage [] where
  named := named
  few := Nat.zero_le _
  settled _ _ isCall := nomatch isCall
  room _ := Nat.zero_lt_succ _
  counted _ := Nat.zero_le _

/-! ## Moving one worker -/

@[simp] theorem goto_stage (index : Nat) (pc : Pc) :
    (world.goto index pc).stage = world.stage := rfl

@[simp] theorem goto_self (index : Nat) (pc : Pc) : (world.goto index pc).workers index = pc := by
  simp [World.goto]

theorem goto_other (pc : Pc) (different : other ≠ index) :
    (world.goto index pc).workers other = world.workers other := by
  simp [World.goto, Function.update_of_ne different]

/-- A token someone remembers after a worker has moved was remembered before, unless it is new. -/
theorem tokens_goto {worker : Nat} {token : Token String}
    (forgets : ∀ held, pc.claim? = some held → (world.workers index).claim? = some held)
    (isHeld : (world.goto index pc).tokens worker = some token) :
    world.tokens worker = some token := by
  unfold World.tokens at isHeld ⊢
  by_cases same : worker = index
  · subst same
    rw [goto_self] at isHeld
    obtain ⟨held, isClaim, rfl⟩ := Option.map_eq_some_iff.mp isHeld
    rw [forgets held isClaim, Option.map_some]
  · rwa [goto_other pc same] at isHeld

theorem Sound.move (sound : Sound program world) (isRow : world.stage = some row)
    (epochs : row.lease.epoch ≤ after.lease.epoch)
    (forgets : ∀ held, pc.claim? = some held → (world.workers index).claim? = some held)
    (rowSound : RowSound program (columnsOf after) calls)
    (others : ∀ other held, other ≠ index → (world.workers other).claim? = some held →
      Current after.lease held.token →
        (world.workers other).Knows program (columnsOf after) calls)
    (self : ∀ held, pc.claim? = some held → Current after.lease held.token →
      pc.Knows program (columnsOf after) calls) :
    Sound program ({ world with stage := some after, calls := calls }.goto index pc) where
  absent isNone := nomatch isNone
  fenced := by
    intro other isOther
    obtain rfl := Option.some.inj isOther
    refine (sound.fenced row isRow).keep epochs fun worker token isHeld => ?_
    have isHeldBefore : ({ world with stage := some after, calls := calls } : World).tokens worker =
        some token := tokens_goto forgets isHeld
    exact isHeldBefore
  row := by
    intro other isOther
    obtain rfl := Option.some.inj isOther
    exact rowSound
  knows := by
    intro other isOther worker held isHeld current
    obtain rfl := Option.some.inj isOther
    by_cases same : worker = index
    · subst same
      rw [goto_self] at isHeld ⊢
      exact self held isHeld current
    · rw [goto_other pc same] at isHeld ⊢
      exact others worker held same isHeld current

/-- One worker moves and nothing else changes. -/
theorem Sound.goto (sound : Sound program world) (isRow : world.stage = some row)
    (forgets : ∀ held, pc.claim? = some held → (world.workers index).claim? = some held)
    (self : ∀ held, pc.claim? = some held → Current row.lease held.token →
      pc.Knows program (columnsOf row) world.calls) :
    Sound program (world.goto index pc) := by
  have same : world = { world with stage := some row } := by rw [← isRow]
  rw [same]
  exact sound.move isRow (Nat.le_refl _) forgets (sound.row row isRow)
    (fun other held _ => sound.knows row isRow other held) self

/-- A worker that gives up its claim, or never had one. -/
theorem Sound.leave (sound : Sound program world) (isRow : world.stage = some row)
    (without : pc.claim? = none) :
    Sound program (world.goto index pc) := by
  refine sound.goto isRow (fun held isHeld => ?_) (fun held isHeld => ?_) <;>
    rw [without] at isHeld <;> cases isHeld

/-- A worker on its way out keeps its claim and needs to know nothing. -/
theorem Sound.quit (sound : Sound program world) (isRow : world.stage = some row)
    (isHeld : (world.workers index).claim? = some held) :
    Sound program (world.goto index (.releasing held)) :=
  sound.goto isRow (fun _ isOther => isHeld.trans isOther) (fun _ _ _ => trivial)

theorem Sound.restage (sound : Sound program world) (isRow : world.stage = some row)
    (epochs : row.lease.epoch ≤ after.lease.epoch)
    (rowSound : RowSound program (columnsOf after) calls)
    (knows : ∀ worker held, (world.workers worker).claim? = some held →
      Current after.lease held.token →
        (world.workers worker).Knows program (columnsOf after) calls) :
    Sound program { world with stage := some after, calls := calls } where
  absent isNone := nomatch isNone
  fenced := by
    intro other isOther
    obtain rfl := Option.some.inj isOther
    exact (sound.fenced row isRow).keep epochs fun _ _ isHeld => isHeld
  row := by
    intro other isOther
    obtain rfl := Option.some.inj isOther
    exact rowSound
  knows := by
    intro other isOther
    obtain rfl := Option.some.inj isOther
    exact knows

theorem Sound.alone (sound : Sound program world) {otherHeld : Claim}
    (isRow : world.stage = some row) (isHeld : (world.workers index).claim? = some held)
    (current : Current row.lease held.token) (different : other ≠ index)
    (isOther : (world.workers other).claim? = some otherHeld) :
    ¬ Current row.lease otherHeld.token :=
  (sound.fenced row isRow).others_stale index other held.token otherHeld.token
    (by rw [World.tokens, isHeld, Option.map_some]) current different
    (by rw [World.tokens, isOther, Option.map_some])

/-! ## Transactions on the row -/

theorem updateStage_ok {held : Option Claim} {result : Unit}
    (done : updateStage now row held fields = .ok (after, result)) :
    columnsOf after = fields (columnsOf row) ∧ after.lease = row.lease ∧
      (∀ presented ∈ held, Current row.lease presented.token) ∧
      (held = none → row.lease.owner = none) := by
  obtain ⟨rfl, passes, unclaimed⟩ := guardedWrite_ok done
  exact ⟨rfl, rfl, fun presented isHeld => .of_holds (passes presented isHeld).2, unclaimed⟩

theorem Sound.write (sound : Sound program world) {onward : Pc} (isRow : world.stage = some row)
    (isHeld : (world.workers index).claim? = some held) (isOnward : onward.claim? = some held)
    (justified : (world.workers index).Knows program (columnsOf row) world.calls →
      RowSound program (fields (columnsOf row)) calls ∧
        onward.Knows program (fields (columnsOf row)) calls) :
    Sound program (world.write index row held fields calls onward) := by
  unfold World.write
  cases done : updateStage world.now row (some held) fields with
  | error failure => exact sound.quit isRow isHeld
  | ok written =>
      obtain ⟨after, result⟩ := written
      obtain ⟨columns, lease, passes, _⟩ := updateStage_ok done
      have current : Current row.lease held.token := passes held rfl
      obtain ⟨rowSound, knows⟩ := justified (sound.knows row isRow index held isHeld current)
      refine sound.move isRow (Nat.le_of_eq (congrArg Lease.epoch lease.symm)) ?_ ?_ ?_ ?_
      · intro other isOther
        rw [isOnward] at isOther
        rw [isHeld, isOther]
      · rwa [columns]
      · intro other otherHeld different isOther otherCurrent
        rw [lease] at otherCurrent
        exact absurd otherCurrent (sound.alone isRow isHeld current different isOther)
      · intro _ _ _
        rwa [columns]

theorem Sound.revoke (sound : Sound program world) (isRow : world.stage = some row)
    (revoked : after.lease = row.lease.revoke)
    (rowSound : RowSound program (columnsOf after) calls) :
    Sound program { world with stage := some after, calls := calls } := by
  have grown : after.lease.epoch = row.lease.epoch + 1 := by rw [revoked, Lease.revoke_epoch]
  refine sound.restage isRow (by omega) rowSound fun worker held isHeld current => ?_
  have known := (sound.fenced row isRow).bounded worker held.token
    (by rw [World.tokens, isHeld, Option.map_some])
  exact absurd current (not_current_of_epoch_lt (by omega))

/-! ## What the programs share -/

/-- The properties of the four programs the argument uses. -/
structure StageProgram.Regular (program : StageProgram) : Prop where
  named : program.name ≠ .sourceFetch
  checked : program.needsFastSummary = true →
    program.rereads = false ∧ program.failureWritesAttempt = true

theorem ModelStage.regular (stage : ModelStage) : stage.program.Regular := by
  cases stage <;> exact ⟨by decide, by decide⟩

/-- A stage that can be claimed waits for a worker. -/
theorem open_of_claimable (named : (columnsOf row).stageName ≠ .sourceFetch)
    (claimable : admission now .pipelineStages row.columns = .claimable) :
    Open (columnsOf row) := by
  revert claimable
  simp only [admission, columnsOf] at named ⊢
  cases status : row.columns.status with
  | pending => exact fun _ => Or.inl status
  | retryWait => exact fun _ => Or.inr status
  | completed => simp
  | needsReview => simp
  | processing =>
      simp only [reduceCtorEq, if_false, named, ne_eq, not_false_eq_true, and_self, if_true]
      split <;> simp

theorem not_open_markUncertain (columns : PipelineStageColumns) :
    ¬ Open (markUncertain .pipelineStages columns : PipelineStageColumns) := by
  simp [Open, markUncertain]

/-! ## The claim -/

/-- The claim hands a worker the next epoch; until it marks the stage it knows what the claim
found. -/
theorem Sound.claimed (sound : Sound program world) (regular : program.Regular) {expiry : Nat}
    (isRow : world.stage = some row) (epoch : held.leaseEpoch = row.lease.epoch + 1)
    (claimable : admission world.now .pipelineStages row.columns = .claimable)
    (unchanged : program.rereads = false → seen.attemptCount = (columnsOf row).attemptCount) :
    Sound program
      ({ world with
        stage := some { row with lease := row.lease.grant (world.owner index) expiry } }.goto index
          (.reading seen held)) := by
  have rowSound := sound.row row isRow
  have isOpen := open_of_claimable (rowSound.named ▸ regular.named) claimable
  have fenced := sound.fenced row isRow
  refine ⟨(fun isNone => nomatch isNone), ?_, ?_, ?_⟩
  · intro other isOther
    obtain rfl := Option.some.inj isOther
    refine fenced.grant index held.token epoch ?_ fun other different => ?_
    · simp [World.tokens, Pc.claim?]
    · rw [World.tokens, goto_other _ different]
      rfl
  · intro other isOther
    obtain rfl := Option.some.inj isOther
    exact rowSound
  · intro other isOther worker otherHeld isHeld current
    obtain rfl := Option.some.inj isOther
    by_cases same : worker = index
    · subst same
      rw [goto_self]
      exact ⟨isOpen, unchanged⟩
    · -- a token from before the grant lies below its epoch
      rw [goto_other _ same] at isHeld
      have known := fenced.bounded worker otherHeld.token
        (by rw [World.tokens, isHeld, Option.map_some])
      exact absurd current (not_current_of_epoch_lt (Nat.lt_succ_of_le known))

/-! ## The condition -/

/-- The claim of a worker would be granted. -/
def Grantable (now : Instant) (row : StageRow) : Prop :=
  ¬ (truthy row.lease.owner ∧ row.lease.live now) ∧
    admission now .pipelineStages row.columns = .claimable

instance (now : Instant) (row : StageRow) : Decidable (Grantable now row) :=
  inferInstanceAs (Decidable (_ ∧ _))

/-- A worker that does not read the stage again claims it with the attempt number it has read. -/
def ClaimsAsRead (program : StageProgram) (world : World) : Action → Prop
  | .advance worker _ =>
      match world.stage, world.workers worker with
      | some row, .claiming seen =>
          program.rereads = false → Grantable world.now row →
            seen.attemptCount = (columnsOf row).attemptCount
      | _, _ => True
  | _ => True

/-- A call is started only while the claim is held. -/
def StartsHeld (world : World) : Action → Prop
  | .advance worker answer =>
      match world.stage, world.workers worker with
      | some row, .calling held _ => answer.reply ≠ .aborted → Passes world.now row held
      | _, _ => True
  | _ => True

def Admitted (program : StageProgram) (world : World) (action : Action) : Prop :=
  ClaimsAsRead program world action ∧ StartsHeld world action

/-- What a step that starts a call finds: fewer than three calls, all of them recorded, and a stage
that is neither completed nor under review. -/
def StartsSoundly (world : World) (action : Action) : Prop :=
  startsCall world action = true →
    world.calls.length < 3 ∧ Settled world.calls ∧
      ∀ row, world.stage = some row →
        (columnsOf row).status ≠ .completed ∧ (columnsOf row).status ≠ .needsReview

instance (calls : List ModelCall) : Decidable (Settled calls) :=
  inferInstanceAs (Decidable (∀ call ∈ calls, call.recorded = true))

instance (program : StageProgram) (world : World) (action : Action) :
    Decidable (ClaimsAsRead program world action) := by
  unfold ClaimsAsRead
  split
  · split <;> infer_instance
  · infer_instance

instance (world : World) (action : Action) : Decidable (StartsHeld world action) := by
  unfold StartsHeld
  split
  · split <;> infer_instance
  · infer_instance

instance (program : StageProgram) (world : World) (action : Action) :
    Decidable (Admitted program world action) :=
  inferInstanceAs (Decidable (_ ∧ _))

/-! ## One step keeps the invariant -/

/-- The claim transaction, whichever way it ends. -/
theorem Sound.claiming (sound : Sound program world) (regular : program.Regular)
    (isRow : world.stage = some row) (isPc : world.workers index = .claiming seen)
    (unchanged : program.rereads = false → Grantable world.now row →
      seen.attemptCount = (columnsOf row).attemptCount) :
    Sound program (advanceOn program world index answer row) := by
  simp only [advanceOn, isPc]
  cases done : claim world.now row (world.owner index) leaseSeconds with
  | error failure => exact sound.leave isRow rfl
  | ok result =>
      obtain ⟨after, handed⟩ := result
      rcases claim_ok done with ⟨_, rfl, rfl⟩ | ⟨_, rfl, rfl⟩ | ⟨claimable, _, free, rfl, rfl⟩
      · exact (sound.restage isRow (Nat.le_refl _) (sound.row _ isRow)
          (sound.knows _ isRow)).leave rfl rfl
      · have named := (sound.row row isRow).named
        have few := (sound.row row isRow).few
        refine Sound.leave (sound.revoke isRow ?_ ?_) rfl rfl
        · rfl
        · exact .closed named few (not_open_markUncertain (columnsOf row))
      · exact sound.claimed regular isRow rfl claimable fun reads =>
          unchanged reads ⟨free, claimable⟩

/-- Under its claim a worker knows what the row says, up to its attempt number. -/
theorem Sound.reading (sound : Sound program world) (regular : program.Regular)
    (isRow : world.stage = some row) (isPc : world.workers index = .reading seen held) :
    Sound program (advanceOn program world index answer row) := by
  simp only [advanceOn, isPc]
  have isHeld : (world.workers index).claim? = some held := by rw [isPc]; rfl
  have knows := sound.knows row isRow index held isHeld
  rw [isPc] at knows
  have rowSound := sound.row row isRow
  unfold afterClaim
  cases answer.reply with
  | aborted => exact sound.quit isRow isHeld
  | raised code retryable =>
      simp only
      split
      · rename_i needs
        obtain ⟨reads, writes⟩ := regular.checked needs
        refine sound.goto isRow (fun _ isOther => isHeld.trans isOther) fun _ isOther current => ?_
        obtain rfl := Option.some.inj isOther
        obtain ⟨isOpen, unchanged⟩ := knows current
        have counted := rowSound.counted isOpen
        have read := unchanged reads
        refine ⟨fun other => ?_, (rowSound.settled isOpen).but _, by omega⟩
        rw [writes] at other
        cases other
      · exact sound.quit isRow isHeld
  | returned =>
      simp only
      split
      · split
        · refine sound.goto isRow (fun _ isOther => isHeld.trans isOther) fun _ isOther current => ?_
          obtain rfl := Option.some.inj isOther
          exact ⟨(knows current).1, rfl⟩
        · exact sound.quit isRow isHeld
      · rename_i reads
        refine sound.goto isRow (fun _ isOther => isHeld.trans isOther) fun _ isOther current => ?_
        obtain rfl := Option.some.inj isOther
        obtain ⟨isOpen, unchanged⟩ := knows current
        exact ⟨isOpen, by rw [unchanged (by simpa using reads)]⟩

/-- The write before the call. -/
theorem Sound.marking (sound : Sound program world) (isRow : world.stage = some row)
    (isPc : world.workers index = .marking held attempt) :
    Sound program (advanceOn program world index answer row) := by
  simp only [advanceOn, isPc]
  have rowSound := sound.row row isRow
  refine sound.write isRow (by rw [isPc]; rfl) (by split <;> rfl) fun knows => ?_
  rw [isPc] at knows
  obtain ⟨isOpen, rfl⟩ := knows
  have settled := rowSound.settled isOpen
  have room := rowSound.room isOpen
  have counted := rowSound.counted isOpen
  refine ⟨.closed rowSound.named rowSound.few (by simp [Open, startedColumns]), ?_⟩
  split <;> exact ⟨rfl, rfl, settled, room, Nat.lt_succ_of_le counted⟩

/-- The start of the call: the row is marked, and no other worker's claim is current. -/
theorem Sound.calling (sound : Sound program world) (isRow : world.stage = some row)
    (isPc : world.workers index = .calling held attempt)
    (passes : answer.reply ≠ .aborted → Passes world.now row held) :
    Sound program (advanceOn program world index answer row) := by
  simp only [advanceOn, isPc]
  have isHeld : (world.workers index).claim? = some held := by rw [isPc]; rfl
  split
  · exact sound.quit isRow isHeld
  · rename_i starts
    have current : Current row.lease held.token := .of_holds (passes starts).2
    have knows := sound.knows row isRow index held isHeld current
    rw [isPc] at knows
    obtain ⟨status, attempts, settled, room, counted⟩ := knows
    have same : world = { world with stage := some row } := by rw [← isRow]
    rw [same]
    refine sound.move isRow (Nat.le_refl _) (fun _ isOther => isHeld.trans isOther) ?_ ?_ ?_
    · exact .closed (sound.row row isRow).named room (by simp [Open, status])
    · intro other otherHeld different isOther otherCurrent
      exact absurd otherCurrent (sound.alone isRow isHeld current different isOther)
    · intro _ isOther _
      obtain rfl := Option.some.inj isOther
      refine ⟨attempts, fun call isCall => ?_, counted⟩
      rcases List.mem_cons.mp isCall with rfl | before
      · exact Or.inr rfl
      · exact Or.inl (settled call before)

/-- The write of the failure path records the outcome of the call. -/
theorem Sound.failing (sound : Sound program world) {code : String} {retryable : Bool}
    (isRow : world.stage = some row)
    (isPc : world.workers index = .failing held attempt code retryable) :
    Sound program (advanceOn program world index answer row) := by
  simp only [advanceOn, isPc]
  have rowSound := sound.row row isRow
  refine sound.write isRow (by rw [isPc]; rfl) rfl fun knows => ⟨?_, trivial⟩
  rw [isPc] at knows
  obtain ⟨unwritten, settled, few⟩ := knows
  -- only a retryable failure of the first two attempts leaves the stage open
  have again : Open (failedColumns program world.now attempt code retryable (columnsOf row)) →
      attempt < 3 := by
    simp only [Open, failedColumns]
    split <;> simp_all
  refine ⟨rowSound.named, by simpa using rowSound.few, fun _ => settled.record, ?_, ?_⟩
  · intro isOpen
    have := again isOpen
    rw [length_record]
    omega
  · intro _
    simp only [length_record, failedColumns]
    split
    · exact few
    · rename_i unwritten'
      rw [unwritten (by simpa using unwritten')]
      exact few

theorem Sound.forcing (sound : Sound program world) (isRow : world.stage = some row)
    (isPc : world.workers index = .forcing) :
    Sound program (advanceOn program world index answer row) := by
  simp only [advanceOn, isPc]
  cases done : updateStage world.now row none forcedColumns with
  | error failure => exact sound.leave isRow rfl
  | ok written =>
      obtain ⟨after, result⟩ := written
      obtain ⟨columns, lease, _, unclaimed⟩ := updateStage_ok done
      refine Sound.leave (sound.restage isRow (Nat.le_of_eq ?_) ?_ ?_) rfl rfl
      · rw [lease]
      · refine .fresh ?_
        rw [columns]
        exact (sound.row row isRow).named
      · intro worker held isHeld current
        rw [lease] at current
        exact absurd current (not_current_of_unowned (unclaimed rfl) _)

theorem Sound.releasing (sound : Sound program world) (isRow : world.stage = some row)
    (isPc : world.workers index = .releasing held) :
    Sound program (advanceOn program world index answer row) := by
  simp only [advanceOn, isPc]
  cases done : release world.now row held with
  | error failure => exact sound.leave isRow rfl
  | ok released =>
      obtain ⟨after, result⟩ := released
      obtain ⟨_, rfl⟩ := release_ok done
      refine Sound.leave (sound.restage isRow ?_ ?_ ?_) rfl rfl
      · exact Nat.le_refl _
      · exact sound.row row isRow
      · intro worker other isHeld current
        exact absurd current (not_current_of_unowned rfl _)

/-- A caller's tests on the stage it read take no claim. -/
theorem afterCheck_claim (now : Instant) (force : Bool) (seen : PipelineStageColumns) :
    (afterCheck program now force seen).claim? = none := by
  unfold afterCheck
  split
  · rfl
  · split <;> rfl

theorem Sound.onward (sound : Sound program world) (isRow : world.stage = some row)
    (isHeld : (world.workers index).claim? = some held) (isOnward : pc.claim? = some held)
    (knows : (world.workers index).Knows program (columnsOf row) world.calls →
      pc.Knows program (columnsOf row) world.calls) :
    Sound program (world.goto index pc) := by
  refine sound.goto isRow (fun _ isOther => ?_) fun _ isOther current => ?_
  · rw [isHeld, ← isOnward, isOther]
  · obtain rfl := Option.some.inj (isOnward.symm.trans isOther)
    exact knows (sound.knows row isRow index held isHeld current)

theorem Sound.advanceOn (sound : Sound program world) (regular : program.Regular)
    (isRow : world.stage = some row) (admitted : Admitted program world (.advance index answer)) :
    Sound program (advanceOn program world index answer row) := by
  obtain ⟨claims, starts⟩ := admitted
  simp only [ClaimsAsRead, StartsHeld, isRow] at claims starts
  cases isPc : world.workers index with
  | idle => simpa only [Pipeline.advanceOn, isPc] using sound.leave isRow rfl
  | checking force =>
      simpa only [Pipeline.advanceOn, isPc] using sound.leave isRow (afterCheck_claim _ _ _)
  | forcing => exact sound.forcing isRow isPc
  | rechecking =>
      simpa only [Pipeline.advanceOn, isPc] using sound.leave isRow (afterCheck_claim _ _ _)
  | ensuring seen => simpa only [Pipeline.advanceOn, isPc] using sound.leave isRow rfl
  | claiming seen => exact sound.claiming regular isRow isPc (by simpa only [isPc] using claims)
  | reading seen held => exact sound.reading regular isRow isPc
  | marking held attempt => exact sound.marking isRow isPc
  | calling held attempt => exact sound.calling isRow isPc (by simpa only [isPc] using starts)
  | failing held attempt code retryable => exact sound.failing isRow isPc
  | releasing held => exact sound.releasing isRow isPc
  | announcing held attempt =>
      have isHeld : (world.workers index).claim? = some held := by rw [isPc]; rfl
      simp only [Pipeline.advanceOn, isPc]
      split
      · exact sound.onward isRow isHeld rfl (by rw [isPc]; exact id)
      · exact sound.quit isRow isHeld
  | naming held attempt =>
      have isHeld : (world.workers index).claim? = some held := by rw [isPc]; rfl
      simp only [Pipeline.advanceOn, isPc]
      split
      · refine sound.write isRow isHeld rfl fun knows => ⟨sound.row row isRow, ?_⟩
        rwa [isPc] at knows
      · refine sound.onward isRow isHeld rfl fun knows => ?_
        rw [isPc] at knows
        obtain ⟨_, attempts, settled, _, counted⟩ := knows
        exact ⟨fun _ => attempts, settled.but _, Nat.le_of_lt counted⟩
      · exact sound.quit isRow isHeld
  | awaiting held attempt =>
      have isHeld : (world.workers index).claim? = some held := by rw [isPc]; rfl
      simp only [Pipeline.advanceOn, isPc]
      split
      · exact sound.onward isRow isHeld rfl (by rw [isPc]; exact id)
      · refine sound.onward isRow isHeld rfl fun knows => ?_
        rw [isPc] at knows
        obtain ⟨attempts, settled, few⟩ := knows
        exact ⟨fun _ => attempts, settled, few⟩
      · exact sound.quit isRow isHeld
  | notifying held =>
      have isHeld : (world.workers index).claim? = some held := by rw [isPc]; rfl
      simpa only [Pipeline.advanceOn, isPc] using sound.quit isRow isHeld
  | publishing held attempt =>
      have isHeld : (world.workers index).claim? = some held := by rw [isPc]; rfl
      simp only [Pipeline.advanceOn, isPc]
      split
      · exact sound.quit isRow isHeld
      · refine sound.write isRow isHeld rfl fun _ => ⟨?_, trivial⟩
        refine .closed (sound.row row isRow).named ?_ (by simp [Open, publishedColumns])
        rw [length_record]
        exact (sound.row row isRow).few

/-- Without a row nobody has a claim; the first caller inserts it. -/
theorem Sound.advance (sound : Sound program world) (regular : program.Regular)
    (admitted : Admitted program world (.advance index answer)) :
    Sound program (advance program world index answer) := by
  cases isRow : world.stage with
  | some row =>
      rw [Pipeline.advance, isRow]
      exact sound.advanceOn regular isRow admitted
  | none =>
      obtain ⟨noCalls, unclaimed⟩ := sound.absent isRow
      have nobody : ∀ worker, world.tokens worker = none := fun worker => by
        rw [World.tokens, unclaimed worker, Option.map_none]
      cases isPc : world.workers index with
      | idle =>
          rw [Pipeline.advance, isRow, isPc]
          refine ⟨fun _ => ⟨noCalls, fun worker => ?_⟩, ?_, ?_, ?_⟩
          · by_cases same : worker = index
            · rw [same, goto_self]
              rfl
            · rw [goto_other _ same]
              exact unclaimed worker
          all_goals
            intro row isOther
            rw [goto_stage, isRow] at isOther
            cases isOther
      | checking force =>
          rw [Pipeline.advance, isRow, isPc]
          have inserted : Sound program { world with stage := some (freshStage program.name) } := by
            refine ⟨(fun isNone => nomatch isNone), ?_, ?_, ?_⟩
            · intro row _
              refine (Fenced.none row.lease.epoch).keep (Nat.le_refl _) fun worker token isHeld => ?_
              exact absurd isHeld (by simp [World.tokens, unclaimed worker])
            · intro row isOther
              obtain rfl := Option.some.inj isOther
              rw [noCalls]
              exact .fresh rfl
            · intro row _ worker held isHeld
              rw [unclaimed worker] at isHeld
              cases isHeld
          refine inserted.advanceOn regular rfl ?_
          simp [Admitted, ClaimsAsRead, StartsHeld, isPc]
      | _ =>
          rw [Pipeline.advance, isRow, isPc]
          exact sound

theorem Sound.renew (sound : Sound program world) (index : Nat) :
    Sound program (renew world index) := by
  unfold Pipeline.renew
  split
  · rename_i row held isRow isHeld
    split
    · rename_i renewed _ done
      obtain ⟨_, rfl⟩ := heartbeat_ok done
      exact sound.restage isRow (Nat.le_refl _) (sound.row row isRow) (sound.knows row isRow)
    · exact sound
  · exact sound

/-- A reset stage starts a new count; any other row is left alone. -/
theorem Sound.reset (sound : Sound program world) : Sound program (resetWorld world) := by
  unfold resetWorld
  split
  · rename_i row isRow
    cases isReset : resettable row with
    | true =>
        simp only [resetStage, isReset, if_true]
        refine sound.revoke isRow rfl (.fresh ?_)
        exact (sound.row row isRow).named
    | false =>
        simp only [resetStage, isReset, Bool.false_eq_true, if_false]
        exact sound.restage isRow (Nat.le_refl _) (sound.row row isRow) (sound.knows row isRow)
  · exact sound

theorem stepWorld_sound (regular : program.Regular) (action : Action) (sound : Sound program world)
    (admitted : Admitted program world action) : Sound program (stepWorld program world action) := by
  cases action with
  | tick elapsed => exact { sound with }
  | advance index answer => exact sound.advance regular admitted
  | renew index => exact sound.renew index
  | resetFailedStages => exact sound.reset

theorem start_sound (program : StageProgram) (owner : Nat → String) (now : Instant) (stage : Option StageRow)
    (named : ∀ row ∈ stage, (columnsOf row).stageName = program.name) :
    Sound program (.start owner now stage) where
  absent _ := ⟨rfl, fun _ => rfl⟩
  fenced row _ := (Fenced.none row.lease.epoch).keep (Nat.le_refl _) fun _ _ isHeld => isHeld
  row row isRow := .fresh (named row isRow)
  knows _ _ _ _ isHeld := nomatch isHeld

/-! ## The bound -/

theorem Sound.startsSoundly (sound : Sound program world) (action : Action)
    (admitted : Admitted program world action) : StartsSoundly world action := by
  intro starts
  cases action with
  | advance index answer =>
      cases isPc : world.workers index with
      | calling held attempt =>
          have unaborted : answer.reply ≠ .aborted := by simpa [startsCall, isPc] using starts
          have isHeld : (world.workers index).claim? = some held := by rw [isPc]; rfl
          cases isRow : world.stage with
          | none => exact absurd isHeld (by simp [(sound.absent isRow).2 index])
          | some row =>
              have passes : Passes world.now row held := by
                have held := admitted.2
                simp only [StartsHeld, isRow, isPc] at held
                exact held unaborted
              have knows := sound.knows row isRow index held isHeld (.of_holds passes.2)
              rw [isPc] at knows
              obtain ⟨status, _, settled, room, _⟩ := knows
              refine ⟨room, settled, fun other isOther => ?_⟩
              obtain rfl := Option.some.inj isOther
              simp [status]
      | _ => simp [startsCall, isPc] at starts
  | _ => simp [startsCall] at starts

/-- Between two resets a stage starts at most three provider calls, each behind the recorded
outcome of the one before and never on a completed or reviewed stage, in every run that claims a
refinement stage with the attempt number it has read and starts a call only while its lease is
held. -/
theorem model_calls_bounded (stage : ModelStage) (owner : Nat → String) (now : Instant)
    (row : Option StageRow) (named : ∀ found ∈ row, (columnsOf found).stageName = stage.program.name)
    (actions : List Action)
    (each : EachStep (stepWorld stage.program) (Admitted stage.program) (.start owner now row)
      actions) :
    EachStep (stepWorld stage.program) StartsSoundly (.start owner now row) actions ∧
      (runFrom (stepWorld stage.program) (.start owner now row) actions).calls.length ≤ 3 := by
  have start := start_sound stage.program owner now row named
  have kept : ∀ world action, Sound stage.program world → Admitted stage.program world action →
      Sound stage.program (stepWorld stage.program world action) :=
    fun world action sound admitted => stepWorld_sound stage.regular action sound admitted
  refine ⟨each.of_invariant kept (fun _ action sound => sound.startsSoundly action) start, ?_⟩
  have sound := invariant_run_of_each kept start each
  cases isRow : (runFrom (stepWorld stage.program) (.start owner now row) actions).stage with
  | none => simp [(sound.absent isRow).1]
  | some found => exact (sound.row found isRow).few

/-- A worker summarises a stage after one recorded failure, up to its publication. -/
theorem model_calls_bounded_summary :
    let waiting : StageRow :=
      { freshStage .summary with
        columns := ({ columnsOf (freshStage .summary) with
          status := .retryWait
          attemptCount := 1 } : PipelineStageColumns) }
    let start := World.start (fun _ => "worker") 0 (some waiting)
    let actions := List.replicate 12 (.advance 0 ⟨.returned, false⟩)
    EachStep (stepWorld runSummaryStage) StartsSoundly start actions ∧
      (runFrom (stepWorld runSummaryStage) start actions).calls.length ≤ 3 :=
  model_calls_bounded .summary (fun _ => "worker") 0 _
    (fun found isRow => by obtain rfl := Option.some.inj isRow; rfl) _ (by decide +kernel)

/-- A worker reads the stage and stalls before its claim. -/
def stalls (worker : Nat) : List Action :=
  List.replicate 3 (.advance worker ⟨.returned, false⟩)

/-- It goes on: claim, attempt number, mark, provider name, call; the call fails, and the failure is
recorded five minutes before the next worker goes on. -/
def failsLater (worker : Nat) : List Action :=
  List.replicate 5 (.advance worker ⟨.returned, false⟩) ++
    [.advance worker ⟨.raised "model_timeout" true, false⟩] ++
    List.replicate 3 (.advance worker ⟨.returned, false⟩) ++ [.tick (minutes 5)]

/-- Four workers read `refined_transcript` before any of them claims it: each writes attempt one and
calls the model, the fourth call after three recorded failures. -/
theorem stale_attempts_exceed_bound :
    let workers := [0, 1, 2, 3]
    let actions := workers.flatMap stalls ++ workers.flatMap failsLater
    let start := World.start (fun _ => "worker") 0 none
    EachStep (stepWorld runRefinedTranscriptStage) StartsHeld start actions ∧
      (runFrom (stepWorld runRefinedTranscriptStage) start actions).calls.length = 4 := by
  decide +kernel

end Shiliu.Pipeline
