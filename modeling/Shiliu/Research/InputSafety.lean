/-
Module: Shiliu.Research.InputSafety
Purpose: Questions to the user over every run. A request leaves `open` once and is decided once, in any
  run; in a run that moves no attempt while its question is open, and answers no question after its
  expiry, an open question also belongs to the attempt that waits at the checkpoint it was asked
  on, and an attempt that waits without a question can be asked one. An answer after the expiry
  never gets what the service means to give it.
Trusted boundary: none
Main exports: QuestionsSound, WaitSound, CleanStep, InputsSound, LateAnswer, inputs_answered_once
-/
import Shiliu.Research.ControlMoves
import Shiliu.Research.EffectsOnce

set_option linter.all false

namespace Shiliu.Research

open Shiliu.Library Shiliu.Storage

variable {Digest : Type}

/-! ## Questions -/

/-- What holds of the questions of a task in every state. -/
structure QuestionsSound (nextId : Nat) (rows : ControlRows) : Prop where
  unique : (rows.inputRequests.map InputRequest.inputRequestId).Nodup
  used : ∀ request ∈ rows.inputRequests, request.inputRequestId < nextId
  unknown : ∀ inputRequestId, nextId ≤ inputRequestId → rows.statusesOf inputRequestId = []
  leavesOnce : ∀ request ∈ rows.inputRequests, ∃ left,
    rows.statusesOf request.inputRequestId = .opened :: left ∧ .opened ∉ left
  oneOpen : ∀ one ∈ rows.inputRequests, ∀ other ∈ rows.inputRequests,
    rows.isOpen one.inputRequestId = true → rows.isOpen other.inputRequestId = true → one = other
  decidedOnce : (rows.humanDecisions.map HumanDecision.inputRequestId).Nodup
  decided : ∀ decision ∈ rows.humanDecisions,
    InputStatus.resolved ∈ rows.statusesOf decision.inputRequestId

namespace QuestionsSound

variable {nextId : Nat} {rows after : ControlRows}

theorem empty (nextId : Nat) : QuestionsSound nextId ControlRows.empty where
  unique := List.nodup_nil
  used := fun _ isRequest => nomatch isRequest
  unknown := fun _ _ => rfl
  leavesOnce := fun _ isRequest => nomatch isRequest
  oneOpen := fun _ isRequest => nomatch isRequest
  decidedOnce := List.nodup_nil
  decided := fun _ isDecision => nomatch isDecision

theorem mono {later : Nat} (sound : QuestionsSound nextId rows) (grown : nextId ≤ later) :
    QuestionsSound later rows :=
  { sound with
    used := fun request isRequest => Nat.lt_of_lt_of_le (sound.used request isRequest) grown
    unknown := fun inputRequestId bound => sound.unknown inputRequestId (grown.trans bound) }

variable {request : InputRequest}

theorem isOpen_iff (sound : QuestionsSound nextId rows) (isRequest : request ∈ rows.inputRequests) :
    rows.isOpen request.inputRequestId = true ↔ rows.disposed request.inputRequestId = false := by
  obtain ⟨left, statuses, never⟩ := sound.leavesOnce request isRequest
  rw [ControlRows.isOpen_iff, ← Bool.not_eq_true, ControlRows.disposed_iff, statuses]
  cases left with
  | nil => simp
  | cons status rest =>
      have notOpen : status ≠ .opened := fun same => never (same ▸ List.mem_cons_self)
      have last : ((.opened :: status :: rest : List InputStatus).getLast? = some .opened) →
          False := by
        intro isLast
        have member := List.mem_of_getLast? isLast
        rw [List.getLast?_cons_cons] at isLast
        exact never (List.mem_of_getLast? isLast)
      constructor
      · exact fun isLast => absurd isLast last
      · exact fun none => absurd ⟨status, by simp, notOpen⟩ none

theorem extend (sound : QuestionsSound nextId rows)
    (requests : after.inputRequests = rows.inputRequests)
    (statuses : ∀ other, ∃ more, after.statusesOf other = rows.statusesOf other ++ more ∧
      .opened ∉ more ∧ (nextId ≤ other → more = []))
    (decisions : (after.humanDecisions.map HumanDecision.inputRequestId).Nodup)
    (decided : ∀ decision ∈ after.humanDecisions, decision ∈ rows.humanDecisions ∨
      InputStatus.resolved ∈ after.statusesOf decision.inputRequestId) :
    QuestionsSound nextId after where
  unique := requests ▸ sound.unique
  used := requests ▸ sound.used
  unknown := by
    intro other bound
    obtain ⟨more, same, -, none⟩ := statuses other
    rw [same, none bound, sound.unknown other bound]
    rfl
  leavesOnce := by
    intro request isRequest
    rw [requests] at isRequest
    obtain ⟨left, old, never⟩ := sound.leavesOnce request isRequest
    obtain ⟨more, same, notMore, -⟩ := statuses request.inputRequestId
    refine ⟨left ++ more, by rw [same, old]; rfl, ?_⟩
    simp [never, notMore]
  oneOpen := by
    have wasOpen : ∀ other, after.isOpen other = true → rows.isOpen other = true := by
      intro other isOpen
      obtain ⟨more, same, notMore, -⟩ := statuses other
      exact (ControlRows.isOpen_of_append same notMore isOpen).1
    intro one isOne other isOther oneOpen otherOpen
    rw [requests] at isOne isOther
    exact sound.oneOpen one isOne other isOther (wasOpen _ oneOpen) (wasOpen _ otherOpen)
  decidedOnce := decisions
  decided := by
    intro decision isDecision
    rcases decided decision isDecision with old | new
    · obtain ⟨more, same, -⟩ := statuses decision.inputRequestId
      rw [same]
      exact List.mem_append_left more (sound.decided decision old)
    · exact new

/-- The three tables of questions are all that counts. -/
theorem same (sound : QuestionsSound nextId rows)
    (requests : after.inputRequests = rows.inputRequests)
    (dispositions : after.inputDispositions = rows.inputDispositions)
    (decisions : after.humanDecisions = rows.humanDecisions) : QuestionsSound nextId after := by
  refine sound.extend requests (fun other => ⟨[], ?_, List.not_mem_nil, fun _ => rfl⟩)
    (decisions ▸ sound.decidedOnce) (fun decision isDecision => .inl (decisions ▸ isDecision))
  rw [ControlRows.statusesOf, ControlRows.dispositionsOf, dispositions, List.append_nil]
  rfl

theorem disposeAll (sound : QuestionsSound nextId rows) {requests : List InputRequest}
    (part : requests.Sublist rows.inputRequests) {status : InputStatus} (ends : status ≠ .opened)
    (reason : String) (resultingReference : Option Nat) :
    QuestionsSound nextId (rows.disposeAll requests status reason resultingReference) := by
  have unique : (requests.map InputRequest.inputRequestId).Nodup :=
    sound.unique.sublist (part.map _)
  obtain ⟨dispositions, frame⟩ := ControlRows.disposeAll_frame rows requests status reason
    resultingReference
  refine sound.extend (by rw [frame]) (fun other => ?_) (by rw [frame]; exact sound.decidedOnce)
    (fun decision isDecision => .inl (by rw [frame] at isDecision; exact isDecision))
  refine ⟨_, ControlRows.statusesOf_disposeAll unique status reason resultingReference other, ?_, ?_⟩
  · split
    · simpa using ends.symm
    · exact List.not_mem_nil
  · intro bound
    refine if_neg fun member => ?_
    obtain ⟨request, isRequest, rfl⟩ := List.mem_map.mp member
    have used := sound.used request (part.subset isRequest)
    omega

theorem expire (sound : QuestionsSound nextId rows) (now : Instant) :
    QuestionsSound nextId (rows.expireOpenInputs now).1 :=
  sound.disposeAll List.filter_sublist (by decide) "expired" none

theorem statusesOf_expire (sound : QuestionsSound nextId rows) (now : Instant) (other : Nat) :
    (rows.expireOpenInputs now).1.statusesOf other = rows.statusesOf other ++
      if other ∈ (rows.dueInputs now).map InputRequest.inputRequestId then [.superseded] else [] :=
  ControlRows.statusesOf_disposeAll (sound.unique.sublist (List.filter_sublist.map _)) .superseded
    "expired" none other

theorem cancel (sound : QuestionsSound nextId rows) (controlRequestId : Nat) :
    QuestionsSound nextId (rows.cancelOpenInputs controlRequestId).1 :=
  sound.disposeAll List.filter_sublist (by decide) "task_cancelled" (some controlRequestId)

theorem insert (sound : QuestionsSound nextId rows) (isRequest : request ∈ rows.inputRequests)
    {status : InputStatus} (ends : status ≠ .opened) (reason : String)
    (resultingReference : Option Nat) :
    QuestionsSound nextId
      (rows.insertInputDisposition request.inputRequestId status reason resultingReference) :=
  sound.disposeAll (List.singleton_sublist.mpr isRequest) ends reason resultingReference

theorem ask (sound : QuestionsSound nextId rows)
    (noneOpen : ∀ request ∈ rows.inputRequests, rows.disposed request.inputRequestId = true)
    (isNext : request.inputRequestId = nextId) :
    QuestionsSound (nextId + 1) (rows.ask request) := by
  have statuses : ∀ other, (rows.ask request).statusesOf other = rows.statusesOf other ++
      if nextId = other then [.opened] else [] := by
    intro other
    rw [ControlRows.ask, isNext]
    exact ControlRows.statusesOf_insert nextId other .opened "" none
  have old : ∀ earlier ∈ rows.inputRequests,
      (rows.ask request).statusesOf earlier.inputRequestId =
        rows.statusesOf earlier.inputRequestId := by
    intro earlier isEarlier
    have used := sound.used earlier isEarlier
    rw [statuses, if_neg (by omega), List.append_nil]
  have closed : ∀ earlier ∈ rows.inputRequests,
      (rows.ask request).isOpen earlier.inputRequestId = true → False := by
    intro earlier isEarlier isOpen
    rw [ControlRows.isOpen_iff, old earlier isEarlier, ← ControlRows.isOpen_iff,
      sound.isOpen_iff isEarlier, noneOpen earlier isEarlier] at isOpen
    nomatch isOpen
  have members : ∀ other ∈ (rows.ask request).inputRequests,
      other ∈ rows.inputRequests ∨ other = request := by
    intro other isOther
    rcases List.mem_append.mp isOther with isEarlier | isNew
    · exact .inl isEarlier
    · exact .inr (List.mem_singleton.mp isNew)
  constructor
  · change (((rows.inputRequests ++ [request]).map InputRequest.inputRequestId)).Nodup
    rw [List.map_append, List.nodup_append]
    refine ⟨sound.unique, List.nodup_singleton _, ?_⟩
    intro one isOne other isOther same
    obtain ⟨earlier, isEarlier, rfl⟩ := List.mem_map.mp isOne
    have used := sound.used earlier isEarlier
    rw [List.mem_singleton.mp isOther, isNext] at same
    omega
  · intro other isOther
    rcases members other isOther with isEarlier | rfl
    · exact Nat.lt_succ_of_lt (sound.used other isEarlier)
    · omega
  · intro other bound
    rw [statuses, sound.unknown other (by omega), if_neg (by omega)]
    rfl
  · intro other isOther
    rcases members other isOther with isEarlier | rfl
    · rw [old other isEarlier]
      exact sound.leavesOnce other isEarlier
    · refine ⟨[], ?_, List.not_mem_nil⟩
      rw [statuses, isNext, if_pos rfl, sound.unknown nextId (Nat.le_refl _)]
      rfl
  · intro one isOne other isOther oneOpen otherOpen
    rcases members one isOne with isEarlier | rfl
    · exact (closed one isEarlier oneOpen).elim
    · rcases members other isOther with isEarlier | rfl
      · exact (closed other isEarlier otherOpen).elim
      · rfl
  · exact sound.decidedOnce
  · intro decision isDecision
    rw [statuses]
    exact List.mem_append_left _ (sound.decided decision isDecision)

theorem decide (sound : QuestionsSound nextId rows) {store : KernelStore Digest}
    {call : ControlCall} (isRequest : request ∈ rows.inputRequests)
    (undisposed : rows.disposed request.inputRequestId = false) (decisionKind : DecisionKind)
    (response : HumanResponse) (action : AppliedAction) :
    QuestionsSound nextId (decidedRows store rows call request decisionKind response action) := by
  have statuses : ∀ other,
      (decidedRows store rows call request decisionKind response action).statusesOf other =
        rows.statusesOf other ++
          if request.inputRequestId = other then [InputStatus.resolved] else [] := by
    intro other
    exact ControlRows.statusesOf_insert request.inputRequestId other .resolved "decision_applied"
      (some store.nextId)
  have fresh : request.inputRequestId ∉ rows.humanDecisions.map HumanDecision.inputRequestId := by
    intro isDecided
    obtain ⟨decision, isDecision, same⟩ := List.mem_map.mp isDecided
    have resolved := sound.decided decision isDecision
    rw [same] at resolved
    have disposed := ControlRows.disposed_iff.mpr ⟨.resolved, resolved, nofun⟩
    rw [undisposed] at disposed
    nomatch disposed
  refine sound.extend rfl (fun other => ⟨_, statuses other, ?_, ?_⟩) ?_ ?_
  · split <;> simp
  · intro bound
    have used := sound.used request isRequest
    exact if_neg (by omega)
  · change ((rows.humanDecisions ++ [_]).map HumanDecision.inputRequestId).Nodup
    rw [List.map_append, List.nodup_append]
    refine ⟨sound.decidedOnce, List.nodup_singleton _, ?_⟩
    intro one isOne other isOther same
    rw [same, List.mem_singleton.mp isOther] at isOne
    exact fresh isOne
  · intro decision isDecision
    rcases List.mem_append.mp isDecision with old | new
    · exact .inl old
    · right
      rw [List.mem_singleton.mp new, statuses, if_pos rfl]
      exact List.mem_append_right _ (List.mem_singleton.mpr rfl)

end QuestionsSound

/-! ## One command and the questions -/

section Commands

variable {policy : ControlPolicy} {store : KernelStore Digest} {rows : ControlRows}
  {call : ControlCall} {task : ResearchTask Digest} {commit : ControlCommit Digest}

variable {attemptId checkpointId : Nat} {authority : ResumeAuthority}

theorem inputAuthority_some (found : inputAuthority rows attemptId checkpointId = some authority) :
    ∃ request ∈ rows.inputRequests, ∃ decisionId,
      authority = .input request.inputRequestId decisionId ∧ request.attemptId = attemptId ∧
        request.sourceCheckpointId = checkpointId ∧
        InputStatus.resolved ∈ rows.statusesOf request.inputRequestId := by
  obtain ⟨disposition, isDisposition, found⟩ := List.exists_of_findSome?_eq_some found
  split at found
  case isFalse => nomatch found
  case isTrue holds =>
      cases lookup : rows.inputRequest disposition.inputRequestId with
      | none =>
          rw [lookup] at found
          nomatch found
      | some request =>
          have isId : request.inputRequestId = disposition.inputRequestId := by
            simpa using List.find?_some lookup
          rw [lookup] at found
          dsimp only at found
          split at found
          case isFalse => nomatch found
          case isTrue asked =>
              obtain ⟨decision, -, rfl⟩ := Option.map_eq_some_iff.mp found
              refine ⟨request, List.mem_of_find?_eq_some lookup, decision.decisionId, rfl, asked.1,
                asked.2, List.mem_map.mpr ⟨disposition, ?_, holds.2.1⟩⟩
              rw [ControlRows.dispositionsOf, List.mem_filter]
              exact ⟨List.mem_reverse.mp isDisposition, by simp [isId]⟩

theorem interruptAuthority_some
    (found : interruptAuthority rows attemptId checkpointId = some authority) :
    ∃ request ∈ rows.controlRequests, ∃ disposition ∈ rows.controlDispositions,
      authority = .interrupt request.controlRequestId ∧ request.attemptId = some attemptId ∧
        request.requestKind = .interrupt ∧
        disposition.controlRequestId = request.controlRequestId ∧
        disposition.references.checkpointId = some checkpointId := by
  obtain ⟨request, isRequest, rfl⟩ := Option.map_eq_some_iff.mp found
  have stands := List.find?_some isRequest
  have member := List.mem_reverse.mp (List.mem_of_find?_eq_some isRequest)
  unfold interruptStands at stands
  cases latest : rows.latestControlDisposition request.controlRequestId with
  | none =>
      rw [latest] at stands
      nomatch stands
  | some disposition =>
      rw [latest] at stands
      have isDisposition := List.mem_filter.mp (List.mem_of_getLast? latest)
      simp only [Bool.and_eq_true, decide_eq_true_eq] at stands
      obtain ⟨⟨⟨⟨isAttempt, isKind⟩, -⟩, isCheckpoint⟩, -⟩ := stands
      exact ⟨request, member, disposition, isDisposition.1, rfl, isAttempt, isKind,
        of_decide_eq_true isDisposition.2, isCheckpoint⟩

theorem QuestionsSound.consume {resumeRequestId ownerEpoch : Nat} {nextId : Nat}
    {admitted : ControlRows} (sound : QuestionsSound nextId rows)
    (requests : admitted.inputRequests = rows.inputRequests)
    (dispositions : admitted.inputDispositions = rows.inputDispositions)
    (decisions : admitted.humanDecisions = rows.humanDecisions)
    (authorized : resumeAuthority rows attemptId checkpointId task = some authority) :
    QuestionsSound nextId
      (consumeResumeAuthority admitted authority resumeRequestId ownerEpoch) := by
  have admittedSound : QuestionsSound nextId admitted := sound.same requests dispositions decisions
  cases authority with
  | interrupt controlRequestId => exact admittedSound.same rfl rfl rfl
  | input inputRequestId decisionId =>
      unfold resumeAuthority at authorized
      split at authorized
      case isTrue => nomatch authorized
      case isFalse =>
          split at authorized
          case isTrue => nomatch authorized
          case isFalse =>
              cases found : inputAuthority rows attemptId checkpointId with
              | none =>
                  rw [found] at authorized
                  obtain ⟨_, _, _, _, absurdity, _⟩ := interruptAuthority_some authorized
                  nomatch absurdity
              | some authority =>
                  rw [found] at authorized
                  obtain rfl := Option.some.inj authorized
                  obtain ⟨request, isRequest, _, isInput, _⟩ := inputAuthority_some found
                  obtain ⟨rfl, -⟩ := ResumeAuthority.input.inj isInput
                  exact admittedSound.insert (requests ▸ isRequest) (by decide) "consumed_by_resume" _

theorem ControlMove.questions (move : ControlMove store rows call task commit)
    (sound : QuestionsSound store.nextId rows) : QuestionsSound (store.nextId + 1) commit.rows := by
  have later := sound.mono (Nat.le_succ store.nextId)
  cases move with
  | interrupted => exact later.same rfl rfl rfl
  | cancelled version checkpointId generation reason =>
      have admitted : QuestionsSound (store.nextId + 1) (admitControl store rows call task .cancel
          (task.activeAttempt.map Attempt.attemptId) version checkpointId generation) :=
        later.same rfl rfl rfl
      refine (admitted.cancel store.nextId).same ?_ ?_ ?_ <;>
        (simp only [applyCancel, appliedControl, ControlRows.insertDisposition]; split <;> rfl)
  | resumed attempt checkpoint authority version checkpointId generation reason isCommand isActive
      latest authorized =>
      have consumed : QuestionsSound (store.nextId + 1) (consumeResumeAuthority
          (admitControl store rows call task .resume (some attempt.attemptId) version checkpointId
            generation) authority store.nextId task.fenced.lease.epoch) :=
        later.consume rfl rfl rfl authorized
      exact consumed.same rfl rfl rfl
  | asked fence attempt checkpointId kind prompt choices schema constraintId expiresAt isCommand
      member status waits latest noneOpen response =>
      exact (sound.expire call.now).ask noneOpen rfl
  | clarified request attempt goal version generation response action result answer isCommand
      isRequest undisposed =>
      exact (later.decide isRequest undisposed .clarifyGoal response action).same rfl rfl rfl
  | chosen request attempt version generation response action observation answer isCommand
      isRequest undisposed =>
      exact (later.decide isRequest undisposed .selectConstraintOption response action).same rfl
        rfl rfl
  | resolved => exact later.same rfl rfl rfl
  | resolvedLast => exact later.same rfl rfl rfl
  | waiting => exact later.same rfl rfl rfl

end Commands

/-! ## Questions and attempts -/

/-- What a task and its control rows refer to has been used up. -/
structure Bounded (nextId : Nat) (rows : ControlRows) (task : ResearchTask Digest) : Prop where
  checkpoints : ∀ checkpoint ∈ task.checkpoints, checkpoint.checkpointId < nextId
  sources : ∀ request ∈ rows.inputRequests, request.sourceCheckpointId < nextId
  controls : ∀ request ∈ rows.controlRequests, request.controlRequestId < nextId
  dispositions : ∀ disposition ∈ rows.controlDispositions,
    disposition.controlRequestId < nextId ∧
      ∀ checkpointId, disposition.references.checkpointId = some checkpointId →
        checkpointId < nextId

/-- What ties the questions of a task to its attempts. -/
structure WaitSound (rows : ControlRows) (task : ResearchTask Digest) : Prop where
  oneUnfinished : OneUnfinished task
  openWaits : ∀ request ∈ rows.inputRequests, rows.isOpen request.inputRequestId = true →
    task.attemptStatus request.attemptId = some .waitingUser ∧
      (task.latestCheckpoint request.attemptId).map Checkpoint.checkpointId =
        some request.sourceCheckpointId
  taskWaits : ∀ attemptId, task.attemptStatus attemptId = some .waitingUser →
    task.status = .waitingUser
  checkpointed : ∀ attemptId, task.attemptStatus attemptId = some .waitingUser →
    ∃ checkpoint, task.latestCheckpoint attemptId = some checkpoint
  /-- An attempt that waits has gone on since the decisions it was given. -/
  inputPaused : ∀ request ∈ rows.inputRequests,
    InputStatus.resolved ∈ rows.statusesOf request.inputRequestId →
    task.attemptStatus request.attemptId = some .waitingUser →
    (task.latestCheckpoint request.attemptId).map Checkpoint.checkpointId ≠
      some request.sourceCheckpointId
  /-- And since it was interrupted. -/
  interruptPaused : ∀ request ∈ rows.controlRequests, request.requestKind = .interrupt →
    ∀ disposition ∈ rows.controlDispositions,
      disposition.controlRequestId = request.controlRequestId →
      ∀ attemptId, request.attemptId = some attemptId →
        task.attemptStatus attemptId = some .waitingUser →
        ∀ checkpointId, disposition.references.checkpointId = some checkpointId →
          (task.latestCheckpoint attemptId).map Checkpoint.checkpointId ≠ some checkpointId

section Waiting

variable {rows after : ControlRows} {task later : ResearchTask Digest} {nextId : Nat}

/-- Without waiting attempts and open questions nothing is tied. -/
theorem WaitSound.of_noneWaiting (oneUnfinished : OneUnfinished task) (none : NoneWaiting task)
    (closed : ∀ request ∈ rows.inputRequests, rows.isOpen request.inputRequestId = false) :
    WaitSound rows task where
  oneUnfinished := oneUnfinished
  openWaits := fun request isRequest isOpen => by
    rw [closed request isRequest] at isOpen
    nomatch isOpen
  taskWaits := fun attemptId waits => absurd waits (none attemptId)
  checkpointed := fun attemptId waits => absurd waits (none attemptId)
  inputPaused := fun _ _ _ waits => absurd waits (none _)
  interruptPaused := fun _ _ _ _ _ _ _ _ waits => absurd waits (none _)

/-- Questions belong to attempts that wait. -/
theorem WaitSound.closed (sound : WaitSound rows task) (none : NoneWaiting task) :
    ∀ request ∈ rows.inputRequests, rows.isOpen request.inputRequestId = false := by
  intro request isRequest
  by_contra isOpen
  rw [Bool.not_eq_false] at isOpen
  exact none _ (sound.openWaits request isRequest isOpen).1

theorem WaitSound.unauthorized (sound : WaitSound rows task) {attemptId checkpointId : Nat}
    (waits : task.attemptStatus attemptId = some .waitingUser)
    (latest : (task.latestCheckpoint attemptId).map Checkpoint.checkpointId = some checkpointId) :
    resumeAuthority rows attemptId checkpointId task = none := by
  cases authorized : resumeAuthority rows attemptId checkpointId task with
  | none => rfl
  | some authority =>
      exfalso
      unfold resumeAuthority at authorized
      split at authorized
      case isTrue => nomatch authorized
      case isFalse =>
          split at authorized
          case isTrue => nomatch authorized
          case isFalse =>
              cases found : inputAuthority rows attemptId checkpointId with
              | some authority =>
                  obtain ⟨request, isRequest, -, -, rfl, rfl, resolved⟩ := inputAuthority_some found
                  exact sound.inputPaused request isRequest resolved waits latest
              | none =>
                  rw [found] at authorized
                  obtain ⟨request, isRequest, disposition, isDisposition, -, isAttempt, isKind, same,
                    isCheckpoint⟩ := interruptAuthority_some authorized
                  exact sound.interruptPaused request isRequest isKind disposition isDisposition same
                    attemptId isAttempt waits checkpointId isCheckpoint latest

theorem closed_of_openInputs (none : rows.openInputs = []) :
    ∀ request ∈ rows.inputRequests, rows.isOpen request.inputRequestId = false := by
  intro request isRequest
  have notOpen := List.filter_eq_nil_iff.mp none request isRequest
  simpa using notOpen

theorem WaitSound.congr (sound : WaitSound rows task)
    (attempts : ∀ attemptId, later.attemptStatus attemptId = task.attemptStatus attemptId)
    (checkpoints : ∀ attemptId, later.latestCheckpoint attemptId = task.latestCheckpoint attemptId)
    (status : later.status = task.status ∨ NoneWaiting task) : WaitSound rows later where
  oneUnfinished := sound.oneUnfinished.same attempts
  openWaits := by
    intro request isRequest isOpen
    rw [attempts, checkpoints]
    exact sound.openWaits request isRequest isOpen
  taskWaits := by
    intro attemptId waits
    rw [attempts] at waits
    rcases status with same | none
    · exact same.trans (sound.taskWaits attemptId waits)
    · exact absurd waits (none attemptId)
  checkpointed := by
    intro attemptId waits
    rw [attempts] at waits
    rw [checkpoints]
    exact sound.checkpointed attemptId waits
  inputPaused := by
    intro request isRequest resolved waits
    rw [attempts] at waits
    rw [checkpoints]
    exact sound.inputPaused request isRequest resolved waits
  interruptPaused := by
    intro request isRequest isKind disposition isDisposition same attemptId isAttempt waits
    rw [attempts] at waits
    rw [checkpoints]
    exact sound.interruptPaused request isRequest isKind disposition isDisposition same attemptId
      isAttempt waits

/-- A new checkpoint of one attempt, while no question is open. Whatever waits, nothing recorded so
far refers to it. -/
theorem WaitSound.append (sound : WaitSound rows task) (bounded : Bounded nextId rows task)
    (closed : ∀ request ∈ rows.inputRequests, rows.isOpen request.inputRequestId = false)
    {checkpoint : Checkpoint} (isNext : checkpoint.checkpointId = nextId)
    (latest : ∀ attemptId, later.latestCheckpoint attemptId =
      if checkpoint.attemptId = attemptId then some checkpoint
      else task.latestCheckpoint attemptId)
    (oneUnfinished : OneUnfinished later)
    (waited : ∀ attemptId, later.attemptStatus attemptId = some .waitingUser →
      checkpoint.attemptId = attemptId ∨ task.attemptStatus attemptId = some .waitingUser)
    (status : ∀ attemptId, later.attemptStatus attemptId = some .waitingUser →
      later.status = .waitingUser) : WaitSound rows later where
  oneUnfinished := oneUnfinished
  openWaits := by
    intro request isRequest isOpen
    rw [closed request isRequest] at isOpen
    nomatch isOpen
  taskWaits := status
  checkpointed := by
    intro attemptId waits
    rw [latest]
    by_cases same : checkpoint.attemptId = attemptId
    · exact ⟨checkpoint, if_pos same⟩
    · obtain ⟨last, isLast⟩ := sound.checkpointed attemptId ((waited attemptId waits).resolve_left same)
      exact ⟨last, (if_neg same).trans isLast⟩
  inputPaused := by
    intro request isRequest resolved waits
    rw [latest]
    by_cases same : checkpoint.attemptId = request.attemptId
    · have used := bounded.sources request isRequest
      rw [if_pos same, Option.map_some, isNext]
      intro isSource
      have isNumber := Option.some.inj isSource
      omega
    · rw [if_neg same]
      exact sound.inputPaused request isRequest resolved ((waited _ waits).resolve_left same)
  interruptPaused := by
    intro request isRequest isKind disposition isDisposition isOf attemptId isAttempt waits
      checkpointId isCheckpoint
    rw [latest]
    by_cases same : checkpoint.attemptId = attemptId
    · have used := (bounded.dispositions disposition isDisposition).2 checkpointId isCheckpoint
      rw [if_pos same, Option.map_some, isNext]
      intro isSource
      have isNumber := Option.some.inj isSource
      omega
    · rw [if_neg same]
      exact sound.interruptPaused request isRequest isKind disposition isDisposition isOf attemptId
        isAttempt ((waited _ waits).resolve_left same) checkpointId isCheckpoint

theorem Bounded.mono {greater : Nat} (bounded : Bounded nextId rows task)
    (grown : nextId ≤ greater) : Bounded greater rows task where
  checkpoints := fun checkpoint member =>
    Nat.lt_of_lt_of_le (bounded.checkpoints checkpoint member) grown
  sources := fun request member => Nat.lt_of_lt_of_le (bounded.sources request member) grown
  controls := fun request member => Nat.lt_of_lt_of_le (bounded.controls request member) grown
  dispositions := fun disposition member =>
    ⟨Nat.lt_of_lt_of_le (bounded.dispositions disposition member).1 grown,
      fun checkpointId isCheckpoint => Nat.lt_of_lt_of_le
        ((bounded.dispositions disposition member).2 checkpointId isCheckpoint) grown⟩

theorem Bounded.move (bounded : Bounded nextId rows task)
    (checkpoints : ∀ checkpoint ∈ later.checkpoints,
      checkpoint ∈ task.checkpoints ∨ checkpoint.checkpointId = nextId) :
    Bounded (nextId + 1) rows later :=
  { bounded.mono (Nat.le_succ nextId) with
    checkpoints := by
      intro checkpoint member
      rcases checkpoints checkpoint member with old | new
      · exact Nat.lt_succ_of_lt (bounded.checkpoints checkpoint old)
      · omega }

/-! ### Commands of the kernel -/

/-- The command leaves the attempt of an open question where it is, and does not block a task whose
attempt waits. -/
def CleanCommand (rows : ControlRows) (task : ResearchTask Digest) : Command → Prop
  | .commitCheckpoint .. | .completeAttempt .. => rows.openInputs = []
  | .recoverInFlight fence => NoneWaiting task ∨ abandoned task fence.ownerEpoch = []
  | _ => True

theorem unfinished_status {attempt : Attempt} (unfinished : attempt.unfinished = true) :
    attempt.status ≠ .terminal := by
  simpa [Attempt.unfinished] using unfinished

theorem attemptStatus_of_mem {attempt : Attempt} (member : attempt ∈ task.attempts) :
    task.attemptStatus attempt.attemptId = some attempt.status :=
  ResearchTask.attemptStatus_eq_some.mpr ⟨attempt, member, rfl, rfl⟩

theorem WaitSound.kernel {call : Call} (sound : WaitSound rows task)
    (bounded : Bounded nextId rows task) (move : AttemptsMove nextId call task later)
    (clean : CleanCommand rows task call.command) :
    WaitSound rows later ∧ Bounded (nextId + 1) rows later := by
  cases move with
  | still attempts ids checkpoints status =>
      refine ⟨sound.congr attempts (latestCheckpoint_same checkpoints) ?_,
        bounded.move fun checkpoint member => .inl (checkpoints ▸ member)⟩
      rcases status with same | ⟨fence, isCommand, found⟩
      · exact .inl same
      · rw [isCommand] at clean
        exact .inr (clean.resolve_right found)
  | started attempt idle isNext isRunning attempts checkpoints =>
      have terminal : ∀ attemptId status, task.attemptStatus attemptId = some status →
          status = .terminal := by
        intro attemptId status isStatus
        obtain ⟨old, member, -, rfl⟩ := ResearchTask.attemptStatus_eq_some.mp isStatus
        simpa [Attempt.unfinished] using idle old member
      have before : NoneWaiting task := fun attemptId waits => by
        exact absurd (terminal attemptId _ waits) (by simp)
      obtain ⟨one, none⟩ := oneUnfinished_insert attempts terminal
      refine ⟨.of_noneWaiting one (none ?_) (sound.closed before),
        bounded.move fun checkpoint member => .inl (checkpoints ▸ member)⟩
      rw [isRunning]
      simp
  | checkpointed fence attempt expected payload operation checkpoint isCommand member unfinished
      isNext checkpoints attempts =>
      rw [isCommand] at clean
      have closed := closed_of_openInputs clean
      have isThere := attemptStatus_of_mem member
      have active := unfinished_status unfinished
      refine ⟨?_, bounded.move fun row isRow => ?_⟩
      · rcases attempts with ⟨same, status⟩ | running
        · have statuses : ∀ attemptId,
              later.attemptStatus attemptId = task.attemptStatus attemptId := by
            intro attemptId
            rw [ResearchTask.attemptStatus, same, ResearchTask.attemptStatus]
          refine sound.append bounded closed isNext.1 (latestCheckpoint_append checkpoints isNext.2.2)
            (sound.oneUnfinished.same statuses) (fun attemptId waits => ?_) fun attemptId waits => ?_
          · rw [statuses] at waits
            exact .inr waits
          · rw [statuses] at waits
            exact status.trans (sound.taskWaits attemptId waits)
        · obtain ⟨one, none⟩ := sound.oneUnfinished.stop isThere active running .running
            (fun _ => rfl) (by decide)
          exact .of_noneWaiting one none closed
      · rw [checkpoints] at isRow
        rcases List.mem_append.mp isRow with old | new
        · exact .inl old
        · exact .inr (List.mem_singleton.mp new ▸ isNext.1)
  | completed attempt resultId isCommand member unfinished attempts checkpoints =>
      obtain ⟨_, _, _, _, _, _, _, _, isCommand⟩ := isCommand
      rw [isCommand] at clean
      have isThere := attemptStatus_of_mem member
      have active := unfinished_status unfinished
      obtain ⟨one, none⟩ := sound.oneUnfinished.stop isThere active attempts .terminal
        (fun _ => rfl) (by decide)
      exact ⟨.of_noneWaiting one none (closed_of_openInputs clean),
        bounded.move fun checkpoint member => .inl (checkpoints ▸ member)⟩

/-! ### Commands of the control service -/

/-- Nobody interrupts an attempt while its question is open, answers a question after its expiry, or
resolves an effect while an attempt waits. -/
def CleanControl (rows : ControlRows) (task : ResearchTask Digest) (call : ControlCall) : Prop :=
  match call.command with
  | .applyControl .interrupt .. => rows.openInputs = []
  | .decideInput inputRequestId .. => ∀ request ∈ rows.inputRequests,
      request.inputRequestId = inputRequestId → rows.isOpen inputRequestId = true →
        request.expired call.checkClock = false
  | .resolveSideEffect .. => NoneWaiting task
  | _ => True

section Control

variable {store : KernelStore Digest} {call : ControlCall} {commit : ControlCommit Digest}

@[simp] theorem attemptStatus_fenced (attemptId : Nat) :
    task.fenced.attemptStatus attemptId = task.attemptStatus attemptId :=
  ResearchTask.attemptStatus_bindAttempts _

theorem interruptedTask_attempts (store : KernelStore Digest) (attempt : Attempt) (latest : Option Checkpoint) :
    (interruptedTask store task attempt latest).attempts =
      task.fenced.attempts.modify attempt.attemptId
        ⟨fun attempt => { attempt with status := .blocked }, fun _ => rfl⟩ := by
  cases latest with
  | none => rfl
  | some checkpoint =>
      dsimp only [interruptedTask]
      split <;> rfl

theorem interruptedTask_checkpoints {attempt : Attempt} {latest : Option Checkpoint}
    {checkpoint : Checkpoint}
    (member : checkpoint ∈ (interruptedTask store task attempt latest).checkpoints) :
    checkpoint ∈ task.checkpoints ∨ checkpoint.checkpointId = store.nextId := by
  cases latest with
  | none => exact .inl member
  | some last =>
      dsimp only [interruptedTask] at member
      split at member
      case isTrue =>
          rcases List.mem_append.mp member with old | new
          · exact .inl old
          · rw [List.mem_singleton.mp new]
            exact .inr rfl
      case isFalse => exact .inl member

theorem cancelledTask_stop (store : KernelStore Digest) (one : OneUnfinished task) :
    OneUnfinished (cancelledTask store task task.activeAttempt) ∧
      NoneWaiting (cancelledTask store task task.activeAttempt) := by
  have statuses : ∀ attemptId, task.fenced.loseEffects.failReserved.attemptStatus attemptId =
      task.attemptStatus attemptId := attemptStatus_fenced
  dsimp only [cancelledTask]
  split
  case isTrue => exact one.endActive _ statuses store.nextId
  case isFalse =>
      cases isActive : task.activeAttempt with
      | none =>
          refine ⟨one.same statuses, fun other waits => ?_⟩
          nomatch activeAttempt_none isActive ((statuses other).symm.trans waits)
      | some attempt =>
          obtain ⟨member, unfinished⟩ := activeAttempt_some isActive
          exact (one.same statuses).stop ((statuses _).trans (attemptStatus_of_mem member))
            unfinished rfl .blocked (fun _ => rfl) (by decide)

theorem cancelledTask_checkpoints (attempt : Option Attempt) :
    (cancelledTask store task attempt).checkpoints = task.checkpoints := by
  dsimp only [cancelledTask]
  split <;> cases attempt <;> rfl

theorem cancel_closed (questions : QuestionsSound nextId rows) (controlRequestId : Nat) :
    ∀ request ∈ rows.inputRequests,
      (rows.cancelOpenInputs controlRequestId).1.isOpen request.inputRequestId = false := by
  intro request isRequest
  by_contra isOpen
  rw [Bool.not_eq_false] at isOpen
  have unique : (rows.openInputs.map InputRequest.inputRequestId).Nodup :=
    questions.unique.sublist (List.filter_sublist.map _)
  have statuses : (rows.cancelOpenInputs controlRequestId).1.statusesOf request.inputRequestId =
      rows.statusesOf request.inputRequestId ++
        if request.inputRequestId ∈ rows.openInputs.map InputRequest.inputRequestId then
          [.cancelled] else [] :=
    ControlRows.statusesOf_disposeAll unique .cancelled "task_cancelled" (some controlRequestId) _
  obtain ⟨wasOpen, untouched⟩ := ControlRows.isOpen_of_append statuses (by split <;> simp) isOpen
  have isThere : request.inputRequestId ∈ rows.openInputs.map InputRequest.inputRequestId :=
    List.mem_map.mpr ⟨request, List.mem_filter.mpr ⟨isRequest, wasOpen⟩, rfl⟩
  rw [if_pos isThere] at untouched
  nomatch untouched

theorem decide_closed (questions : QuestionsSound nextId rows) {request : InputRequest}
    (isRequest : request ∈ rows.inputRequests)
    (undisposed : rows.disposed request.inputRequestId = false) (decisionKind : DecisionKind)
    (response : HumanResponse) (action : AppliedAction) :
    ∀ other ∈ rows.inputRequests, (decidedRows store rows call request decisionKind response
      action).isOpen other.inputRequestId = false := by
  intro other isOther
  by_contra isOpen
  rw [Bool.not_eq_false] at isOpen
  have statuses : (decidedRows store rows call request decisionKind response action).statusesOf
      other.inputRequestId = rows.statusesOf other.inputRequestId ++
        if request.inputRequestId = other.inputRequestId then [.resolved] else [] :=
    ControlRows.statusesOf_insert request.inputRequestId _ .resolved "decision_applied"
      (some store.nextId)
  obtain ⟨wasOpen, untouched⟩ := ControlRows.isOpen_of_append statuses (by split <;> simp) isOpen
  obtain rfl := questions.oneOpen request isRequest other isOther
    ((questions.isOpen_iff isRequest).mpr undisposed) wasOpen
  rw [if_pos rfl] at untouched
  nomatch untouched

theorem Bounded.extend (bounded : Bounded nextId rows task)
    (sources : ∀ request ∈ after.inputRequests,
      request ∈ rows.inputRequests ∨ request.sourceCheckpointId < nextId)
    (controls : ∀ request ∈ after.controlRequests,
      request ∈ rows.controlRequests ∨ request.controlRequestId = nextId)
    (dispositions : ∀ disposition ∈ after.controlDispositions,
      disposition ∈ rows.controlDispositions ∨ disposition.controlRequestId ≤ nextId ∧
        ∀ checkpointId, disposition.references.checkpointId = some checkpointId →
          checkpointId ≤ nextId)
    (checkpoints : ∀ checkpoint ∈ later.checkpoints,
      checkpoint ∈ task.checkpoints ∨ checkpoint.checkpointId = nextId) :
    Bounded (nextId + 1) after later where
  checkpoints := (bounded.move checkpoints).checkpoints
  sources := by
    intro request member
    rcases sources request member with old | new
    · exact Nat.lt_succ_of_lt (bounded.sources request old)
    · exact Nat.lt_succ_of_lt new
  controls := by
    intro request member
    rcases controls request member with old | new
    · exact Nat.lt_succ_of_lt (bounded.controls request old)
    · omega
  dispositions := by
    intro disposition member
    rcases dispositions disposition member with old | ⟨isOf, refers⟩
    · exact (bounded.mono (Nat.le_succ nextId)).dispositions disposition old
    · exact ⟨Nat.lt_succ_of_le isOf, fun checkpointId isCheckpoint =>
        Nat.lt_succ_of_le (refers checkpointId isCheckpoint)⟩

theorem latest_lt (bounded : Bounded nextId rows task) {attemptId checkpointId : Nat}
    (latest : (task.latestCheckpoint attemptId).map Checkpoint.checkpointId = some checkpointId) :
    checkpointId < nextId := by
  obtain ⟨checkpoint, isLatest, rfl⟩ := Option.map_eq_some_iff.mp latest
  have member := List.argmax_mem (Option.mem_def.mpr isLatest)
  exact bounded.checkpoints checkpoint (List.mem_filter.mp member).1

theorem mem_concat {Row : Type} {earlier : List Row} {new row : Row} (member : row ∈ earlier ++ [new]) :
    row ∈ earlier ∨ row = new := by
  rcases List.mem_append.mp member with old | isNew
  · exact .inl old
  · exact .inr (List.mem_singleton.mp isNew)

/-- A cancel records itself like the other control requests. -/
theorem applyCancel_frame (attempt : Option Attempt) (version : Nat) (checkpointId : Option Nat)
    (admitted : ControlRows) (reason : String) :
    let commit := applyCancel store rows call task attempt version checkpointId admitted reason
    commit.rows.inputRequests = admitted.inputRequests ∧
      commit.rows.controlRequests = admitted.controlRequests ∧
      ∃ disposition, commit.rows.controlDispositions = admitted.controlDispositions ++ [disposition] ∧
        disposition.controlRequestId = store.nextId ∧
        disposition.references.checkpointId = checkpointId := by
  obtain ⟨dispositions, frame⟩ := ControlRows.disposeAll_frame admitted admitted.openInputs
    .cancelled "task_cancelled" (some store.nextId)
  simp only [applyCancel, appliedControl, ControlRows.insertDisposition,
    ControlRows.cancelOpenInputs, frame]
  split <;> exact ⟨rfl, rfl, _, rfl, rfl, rfl⟩

theorem consume_dispositions (bounded : Bounded nextId rows task) {attemptId checkpointId : Nat}
    {authority : ResumeAuthority} {admitted : ControlRows} {resumeRequestId ownerEpoch : Nat}
    (authorized : resumeAuthority rows attemptId checkpointId task = some authority)
    {disposition : ControlDisposition}
    (member : disposition ∈
      (consumeResumeAuthority admitted authority resumeRequestId ownerEpoch).controlDispositions) :
    disposition ∈ admitted.controlDispositions ∨ disposition.controlRequestId ≤ nextId ∧
      disposition.references.checkpointId = none := by
  cases authority with
  | input inputRequestId decisionId => exact .inl member
  | interrupt controlRequestId =>
      refine (mem_concat member).imp_right fun new => ?_
      rw [new]
      refine ⟨?_, rfl⟩
      unfold resumeAuthority at authorized
      split at authorized
      case isTrue => nomatch authorized
      case isFalse =>
          split at authorized
          case isTrue => nomatch authorized
          case isFalse =>
              cases found : inputAuthority rows attemptId checkpointId with
              | some authority =>
                  rw [found] at authorized
                  obtain rfl := Option.some.inj authorized
                  obtain ⟨_, _, _, absurdity, _⟩ := inputAuthority_some found
                  nomatch absurdity
              | none =>
                  rw [found] at authorized
                  obtain ⟨request, isRequest, _, _, isInterrupt, _⟩ :=
                    interruptAuthority_some authorized
                  obtain rfl := ResumeAuthority.interrupt.inj isInterrupt
                  exact Nat.le_of_lt (bounded.controls request isRequest)

theorem Bounded.control (bounded : Bounded store.nextId rows task)
    (move : ControlMove store rows call task commit) :
    Bounded (store.nextId + 1) commit.rows commit.task := by
  cases move with
  | interrupted attempt version checkpointId generation reason isCommand isActive =>
      refine bounded.extend (fun request member => .inl member) (fun request member => ?_)
        (fun disposition member => ?_) fun checkpoint member => interruptedTask_checkpoints member
      · exact (mem_concat member).imp_right fun new => by rw [new]
      · refine (mem_concat member).imp_right fun new => ?_
        rw [new]
        refine ⟨Nat.le_refl _, fun id isCheckpoint => ?_⟩
        dsimp only [interruptedCheckpoint] at isCheckpoint
        split at isCheckpoint
        case isTrue =>
            obtain ⟨-, -, rfl⟩ := Option.map_eq_some_iff.mp isCheckpoint
            exact Nat.le_refl _
        case isFalse => exact Nat.le_of_lt (latest_lt bounded isCheckpoint)
  | cancelled version checkpointId generation reason isCommand latest =>
      obtain ⟨requests, controls, disposition, dispositions, isOf, refers⟩ :=
        @applyCancel_frame Digest rows task store call task.activeAttempt version checkpointId
          (admitControl store rows call task .cancel (task.activeAttempt.map Attempt.attemptId)
            version checkpointId generation) reason
      refine bounded.extend (fun request member => .inl (requests ▸ member))
        (fun request member => ?_) (fun row member => ?_)
        fun checkpoint member => .inl (@cancelledTask_checkpoints Digest task store _ ▸ member)
      · rw [controls] at member
        exact (mem_concat member).imp_right fun new => by rw [new]
      · rw [dispositions] at member
        refine (mem_concat member).imp_right fun new => ?_
        rw [new, isOf, refers]
        refine ⟨Nat.le_refl _, fun id isCheckpoint => ?_⟩
        subst isCheckpoint
        cases isActive : task.activeAttempt with
        | none =>
            rw [isActive] at latest
            nomatch latest
        | some attempt =>
            rw [isActive, Option.bind_some] at latest
            exact Nat.le_of_lt (latest_lt bounded latest)
  | resumed attempt checkpoint authority version checkpointId generation reason isCommand isActive
      latest authorized =>
      refine bounded.extend (fun request member => .inl ?_) (fun request member => ?_)
        (fun disposition member => ?_) fun checkpoint member => ?_
      · cases authority <;> exact member
      · have member : request ∈ (admitControl store rows call task .resume (some attempt.attemptId)
            version checkpointId generation).controlRequests := by
          cases authority <;> exact member
        exact (mem_concat member).imp_right fun new => by rw [new]
      · rcases mem_concat member with old | new
        · rcases consume_dispositions bounded authorized old with earlier | ⟨isOf, refers⟩
          · exact .inl earlier
          · exact .inr ⟨isOf, fun id isCheckpoint => by rw [refers] at isCheckpoint; nomatch isCheckpoint⟩
        · rw [new]
          exact .inr ⟨Nat.le_refl _, fun id isCheckpoint =>
            Nat.le_of_eq (Option.some.inj isCheckpoint).symm⟩
      · exact (mem_concat member).imp_right fun new => by rw [new]
  | asked fence attempt checkpointId kind prompt choices schema constraintId expiresAt isCommand
      member status waits latest noneOpen response =>
      obtain ⟨dispositions, expired⟩ := rows.expireOpenInputs_frame call.now
      rw [expired]
      refine bounded.extend (fun request member => ?_) (fun request member => .inl member)
        (fun disposition member => .inl member) fun checkpoint member => .inl member
      refine (mem_concat member).imp_right fun new => ?_
      rw [new]
      exact latest_lt bounded latest
  | clarified => exact bounded.extend (fun _ => .inl) (fun _ => .inl) (fun _ => .inl) fun _ => .inl
  | chosen => exact bounded.extend (fun _ => .inl) (fun _ => .inl) (fun _ => .inl) fun _ => .inl
  | resolved => exact bounded.extend (fun _ => .inl) (fun _ => .inl) (fun _ => .inl) fun _ => .inl
  | resolvedLast effect =>
      refine bounded.extend (fun _ => .inl) (fun _ => .inl) (fun _ => .inl)
        fun checkpoint member => .inl ?_
      cases isActive : task.activeAttempt with
      | none => rw [isActive] at member; exact member
      | some attempt => rw [isActive] at member; exact member
  | waiting fence attempt checkpoint =>
      refine bounded.extend (fun _ => .inl) (fun _ => .inl) (fun _ => .inl)
        fun checkpoint member => ?_
      exact (mem_concat member).imp_right fun new => by rw [new]; rfl

theorem consume_isOpen {authority : ResumeAuthority} {admitted : ControlRows}
    {resumeRequestId ownerEpoch inputRequestId : Nat}
    (dispositions : admitted.inputDispositions = rows.inputDispositions)
    (isOpen : (consumeResumeAuthority admitted authority resumeRequestId ownerEpoch).isOpen
      inputRequestId = true) : rows.isOpen inputRequestId = true := by
  have statuses : admitted.statusesOf inputRequestId = rows.statusesOf inputRequestId := by
    rw [ControlRows.statusesOf, ControlRows.dispositionsOf, dispositions]
    rfl
  rw [ControlRows.isOpen_iff, ← statuses, ← ControlRows.isOpen_iff]
  cases authority with
  | interrupt controlRequestId => exact isOpen
  | input consumed decisionId =>
      exact (ControlRows.isOpen_of_append
        (ControlRows.statusesOf_insert consumed inputRequestId .superseded "consumed_by_resume"
          (some resumeRequestId)) (by split <;> simp) isOpen).1

theorem WaitSound.rows_of_dispositions (sound : WaitSound rows task)
    {dispositions : List InputDisposition}
    (opens : ∀ other, ({ rows with inputDispositions := dispositions }).isOpen other = true →
      rows.isOpen other = true)
    (resolves : ∀ other, InputStatus.resolved ∈
        ({ rows with inputDispositions := dispositions }).statusesOf other →
      InputStatus.resolved ∈ rows.statusesOf other) :
    WaitSound { rows with inputDispositions := dispositions } task :=
  { sound with
    openWaits := fun request isRequest isOpen =>
      sound.openWaits request isRequest (opens _ isOpen)
    inputPaused := fun request isRequest resolved =>
      sound.inputPaused request isRequest (resolves _ resolved) }

theorem WaitSound.expire (sound : WaitSound rows task) (questions : QuestionsSound nextId rows)
    (now : Instant) : WaitSound (rows.expireOpenInputs now).1 task := by
  have statuses := questions.statusesOf_expire now
  obtain ⟨dispositions, expired⟩ := rows.expireOpenInputs_frame now
  rw [expired] at statuses ⊢
  refine sound.rows_of_dispositions (fun other isOpen => ?_) fun other resolved => ?_
  · exact (ControlRows.isOpen_of_append (statuses other) (by split <;> simp) isOpen).1
  · rw [statuses] at resolved
    exact (List.mem_append.mp resolved).resolve_right (by split <;> simp)

theorem WaitSound.ask (sound : WaitSound rows task) (questions : QuestionsSound nextId rows)
    {request : InputRequest} (isNext : request.inputRequestId = nextId)
    (noneOpen : ∀ earlier ∈ rows.inputRequests, rows.disposed earlier.inputRequestId = true)
    (waits : task.attemptStatus request.attemptId = some .waitingUser)
    (latest : (task.latestCheckpoint request.attemptId).map Checkpoint.checkpointId =
      some request.sourceCheckpointId) : WaitSound (rows.ask request) task := by
  have asked := questions.ask noneOpen isNext
  have statuses : ∀ other, (rows.ask request).statusesOf other = rows.statusesOf other ++
      if request.inputRequestId = other then [InputStatus.opened] else [] :=
    fun other => ControlRows.statusesOf_insert request.inputRequestId other .opened "" none
  have isNewOpen : (rows.ask request).isOpen request.inputRequestId = true := by
    rw [ControlRows.isOpen_iff, statuses, if_pos rfl]
    simp
  have member : request ∈ (rows.ask request).inputRequests :=
    List.mem_append_right _ (List.mem_singleton.mpr rfl)
  exact
    { sound with
      openWaits := by
        intro other isOther isOpen
        obtain rfl := asked.oneOpen other isOther request member isOpen isNewOpen
        exact ⟨waits, latest⟩
      inputPaused := by
        intro other isOther resolved
        rw [statuses] at resolved
        have wasResolved := (List.mem_append.mp resolved).resolve_right (by split <;> simp)
        rcases mem_concat isOther with old | rfl
        · exact sound.inputPaused other old wasResolved
        · rw [isNext, questions.unknown nextId (Nat.le_refl _)] at wasResolved
          nomatch wasResolved }

theorem WaitSound.control (sound : WaitSound rows task)
    (questions : QuestionsSound store.nextId rows) (bounded : Bounded store.nextId rows task)
    (move : ControlMove store rows call task commit) (clean : CleanControl rows task call) :
    WaitSound commit.rows commit.task := by
  have one : OneUnfinished task.fenced := sound.oneUnfinished.same attemptStatus_fenced
  cases move with
  | interrupted attempt version checkpointId generation reason isCommand isActive =>
      rw [CleanControl, isCommand] at clean
      obtain ⟨member, unfinished⟩ := activeAttempt_some isActive
      obtain ⟨later, none⟩ := one.stop
        ((attemptStatus_fenced _).trans (attemptStatus_of_mem member)) unfinished
        (interruptedTask_attempts store attempt _) .blocked (fun _ => rfl) (by decide)
      exact .of_noneWaiting later none (closed_of_openInputs clean)
  | cancelled version checkpointId generation reason isCommand latest =>
      obtain ⟨later, none⟩ := cancelledTask_stop store sound.oneUnfinished
      have admitted : QuestionsSound store.nextId (admitControl store rows call task .cancel
          (task.activeAttempt.map Attempt.attemptId) version checkpointId generation) :=
        questions.same rfl rfl rfl
      refine .of_noneWaiting later none fun request isRequest => ?_
      rw [(applyCancel_frame task.activeAttempt version checkpointId _ reason).1] at isRequest
      have closed := cancel_closed admitted store.nextId request isRequest
      simp only [applyCancel, appliedControl]
      split <;> exact closed
  | resumed attempt checkpoint authority version checkpointId generation reason isCommand isActive
      latest authorized =>
      obtain ⟨member, unfinished⟩ := activeAttempt_some isActive
      have isThere := attemptStatus_of_mem member
      have closed : ∀ request ∈ rows.inputRequests, rows.isOpen request.inputRequestId = false := by
        intro request isRequest
        by_contra isOpen
        rw [Bool.not_eq_false] at isOpen
        obtain ⟨waits, isSource⟩ := sound.openWaits request isRequest isOpen
        have same := sound.oneUnfinished _ _ _ _ waits isThere nofun unfinished
        rw [same] at waits isSource
        rw [sound.unauthorized waits (by rw [latest]; rfl)] at authorized
        nomatch authorized
      have attempts : (resumedTask store task attempt checkpoint).attempts =
          task.fenced.attempts.modify attempt.attemptId
            ⟨fun attempt => { attempt with status := .running }, fun _ => rfl⟩ := rfl
      obtain ⟨later, none⟩ := one.stop ((attemptStatus_fenced _).trans isThere) unfinished attempts
        .running (fun _ => rfl) (by decide)
      refine .of_noneWaiting later none fun request isRequest => ?_
      by_contra isOpen
      rw [Bool.not_eq_false] at isOpen
      have wasThere : request ∈ rows.inputRequests := by cases authority <;> exact isRequest
      have consumed : (consumeResumeAuthority (admitControl store rows call task .resume
          (some attempt.attemptId) version checkpointId generation) authority store.nextId
            task.fenced.lease.epoch).isOpen request.inputRequestId = true := isOpen
      have wasOpen : rows.isOpen request.inputRequestId = true := consume_isOpen (by rfl) consumed
      rw [closed request wasThere] at wasOpen
      nomatch wasOpen
  | asked fence attempt checkpointId kind prompt choices schema constraintId expiresAt isCommand
      member status waits latest noneOpen response =>
      have isThere := attemptStatus_of_mem member
      rw [waits] at isThere
      have asked : WaitSound ((rows.expireOpenInputs call.now).1.ask (newInputRequest store call
          fence attempt checkpointId kind prompt choices constraintId expiresAt)) task :=
        (sound.expire questions call.now).ask (questions.expire call.now) rfl noneOpen isThere latest
      exact asked.congr (fun _ => rfl) (fun _ => rfl) (.inl rfl)
  | clarified request attempt goal version generation response action result answer isCommand
      isRequest undisposed unexpired isAttempt waits =>
      have isOpen := (questions.isOpen_iff isRequest).mpr undisposed
      have isThere := (sound.openWaits request isRequest isOpen).1
      rw [← isAttempt] at isThere
      have attempts : (clarifiedTask store task request attempt goal).attempts =
          (task.fenced.endAttempt (some attempt) store.nextId).attempts.insert
            (clarifiedAttempt store task request attempt) := rfl
      obtain ⟨later, none⟩ := oneUnfinished_insert attempts fun other status isOther =>
        one.ended ((attemptStatus_fenced _).trans isThere) nofun isOther
      exact .of_noneWaiting later (none nofun)
        (decide_closed questions isRequest undisposed .clarifyGoal response action)
  | chosen request attempt version generation response action observation answer isCommand
      isRequest undisposed unexpired isAttempt waits =>
      have isOpen := (questions.isOpen_iff isRequest).mpr undisposed
      have isThere := (sound.openWaits request isRequest isOpen).1
      rw [← isAttempt] at isThere
      have attempts : (task.fenced.setStatus attempt.attemptId .blocked .blocked).attempts =
          task.fenced.attempts.modify attempt.attemptId
            ⟨fun attempt => { attempt with status := .blocked }, fun _ => rfl⟩ := rfl
      obtain ⟨later, none⟩ := one.stop ((attemptStatus_fenced _).trans isThere) nofun attempts
        .blocked (fun _ => rfl) (by decide)
      exact .of_noneWaiting later none
        (decide_closed questions isRequest undisposed .selectConstraintOption response action)
  | resolved effect version generation resolution reason receiptHash reference answer isCommand =>
      rw [CleanControl, isCommand] at clean
      exact .of_noneWaiting (one.same fun _ => rfl)
        (fun other waits => clean other ((attemptStatus_fenced other).symm.trans waits))
        (sound.closed clean)
  | resolvedLast effect version generation resolution reason receiptHash reference result answer
      isCommand =>
      rw [CleanControl, isCommand] at clean
      obtain ⟨later, none⟩ := sound.oneUnfinished.endActive
        (resolvedEffect task effect resolution receiptHash reference) attemptStatus_fenced
        store.nextId
      exact .of_noneWaiting (later.same fun _ => rfl) none (sound.closed clean)
  | waiting fence attempt checkpoint answer isCommand fenced member isRunning latest =>
      have isThere := attemptStatus_of_mem member
      have unfinished : attempt.status ≠ .terminal := by rw [isRunning]; nofun
      have none : NoneWaiting task := fun other waits => by
        rw [sound.oneUnfinished _ _ _ _ waits isThere nofun unfinished, isThere, isRunning] at waits
        nomatch waits
      have isNext : (newCheckpoint store attempt (some checkpoint.checkpointId) (some checkpoint)
          call.audit.stateHash call.audit.statePayload fence.ownerEpoch).sequence =
            ((task.latestCheckpoint attempt.attemptId).map Checkpoint.sequence).getD 0 + 1 := by
        rw [latest]
        rfl
      let later : ResearchTask Digest :=
        { task.advanced with
          checkpoints := task.checkpoints ++
            [newCheckpoint store attempt (some checkpoint.checkpointId) (some checkpoint)
              call.audit.stateHash call.audit.statePayload fence.ownerEpoch] }.setStatus
            attempt.attemptId .waitingUser .waitingUser
      have appended : WaitSound rows later := sound.append bounded (sound.closed none) rfl
        (latestCheckpoint_append rfl isNext)
        ((sound.oneUnfinished.changeAttempt isThere unfinished
          ⟨fun attempt => { attempt with status := .waitingUser }, fun _ => rfl⟩).same fun _ => rfl)
        (fun other waits =>
          .inl (sound.oneUnfinished.others isThere unfinished waits nofun).symm) fun _ _ => rfl
      exact { appended with }

end Control

end Waiting

end Shiliu.Research
