/-
Module: Shiliu.Drafts.Phases
Purpose: The commands on a draft one after another, each of which may stop for good between two of
  its transactions. The revisions are one chain. A preparation that is admitted leaves the draft
  ready with its candidates, or failed, or in need of revalidation, unless its command id has no room for
  a suffix, a first preparation finds a derived id taken, or the storage fails below it; and a
  draft is stranded when a preparation stops after it has marked it as materializing.
Trusted boundary: none
Main exports: Outcome, runCall, issue, prepare_keeps, stopsInside, prepare_reaches, stranded
-/
import Mathlib.Data.Fintype.EquivFin
import Shiliu.Drafts.DerivedIds
import Shiliu.Drafts.Moves
import Shiliu.Library.Transition

set_option linter.all false

namespace Shiliu.Drafts

open Shiliu.Library Shiliu.Research Shiliu.Storage Shiliu.Knowledge

/-! ## A call that runs alone -/

/-- How a call ended: it returned, it raised, or its process stopped between two transactions. -/
inductive Outcome where
  | returned (revision : DraftRevision)
  | raised (failure : DraftFailure)
  | stopped
deriving DecidableEq

/-- Run a call with the answers to its transactions. It stops where they run out. -/
def runCall (rules : KnowledgeRules) (call : DraftCall) :
    List Answer → DraftStore → DraftPc → DraftStore × Outcome
  | [], store, _ => (store, .stopped)
  | answer :: rest, store, pc =>
      match stepDraft call rules store answer pc with
      | (after, .goto next) => runCall rules call rest after next
      | (after, .returned revision) => (after, .returned revision)
      | (after, .raised failure) => (after, .raised failure)

/-- A command as it is sent, with the answers its transactions get. -/
structure Issued where
  call : DraftCall
  answers : List Answer

def issue (rules : KnowledgeRules) (store : DraftStore) (issued : Issued) : DraftStore × Outcome :=
  if issued.call.admitted then
    runCall rules issued.call issued.answers store issued.call.start
  else (store, .raised .invalidRequest)

/-- The draft after a command. -/
def stepIssued (rules : KnowledgeRules) (store : DraftStore) (issued : Issued) : DraftStore :=
  (issue rules store issued).1

variable {rules : KnowledgeRules} {call : DraftCall} {store after : DraftStore} {answer : Answer}
  {rest : List Answer} {pc next : DraftPc} {current started row : DraftRevision}

theorem runCall_goto (ran : stepDraft call rules store answer pc = (after, .goto next)) :
    runCall rules call (answer :: rest) store pc = runCall rules call rest after next := by
  rw [runCall, ran]

theorem runCall_returned (ran : stepDraft call rules store answer pc = (after, .returned row)) :
    runCall rules call (answer :: rest) store pc = (after, .returned row) := by
  rw [runCall, ran]

theorem runCall_raised {failure : DraftFailure}
    (ran : stepDraft call rules store answer pc = (after, .raised failure)) :
    runCall rules call (answer :: rest) store pc = (after, .raised failure) := by
  rw [runCall, ran]

theorem runCall_chain (answers : List Answer) (chain : DraftChain store)
    (holds : Reads call store pc.held) : DraftChain (runCall rules call answers store pc).1 := by
  induction answers generalizing store pc with
  | nil => exact chain
  | cons answer rest inductionHypothesis =>
      cases ran : stepDraft call rules store answer pc with
      | mk after next =>
          have outline := stepDraft_outline chain holds ran
          cases next with
          | goto next =>
              rw [runCall_goto ran]
              exact inductionHypothesis outline.chain outline.reads
          | returned row =>
              rw [runCall_returned ran]
              exact outline.chain
          | raised failure =>
              rw [runCall_raised ran]
              exact outline.chain

theorem stepIssued_chain (chain : DraftChain store) (issued : Issued) :
    DraftChain (stepIssued rules store issued) := by
  unfold stepIssued issue
  split
  · refine runCall_chain _ chain ?_
    cases issued.call <;> exact .nothing
  · exact chain

/-! ## Preparations -/

/-- A preparation that gets past its command id and its expected version. -/
structure Enters (store : DraftStore) (command : DraftCommand) (current : DraftRevision) : Prop where
  isCurrent : store.current = some current
  version : current.version = command.expectedVersion
  fresh : store.commandRow command.commandId = none
  status : current.status ∈ preparable

/-- The draft is ready, with the candidates that wait for review in its task. -/
structure Prepared (store : DraftStore) (row : DraftRevision) : Prop where
  isCurrent : store.current = some row
  status : row.status = .promotionReady
  recorded : ∃ taskId, row.materializationTaskId = some taskId ∧
    row.candidateIds = (pendingCandidates (store.tasks taskId)).map Candidate.candidateId
  candidates : row.candidateIds ≠ []

/-- What a preparation leaves the draft in. -/
def PrepareKeeps (after : DraftStore) : Outcome → Prop
  | .returned row => Prepared after row
  | .raised _ => after.status = some .failed ∨ after.status = some .needsRevalidation
  | .stopped => True

/-- Nothing is in the way of a preparation: its command id has room for a suffix; a first one finds
the ids of its two phases unused, and its source is answered by a draft error if at all; and the
storage does not fail below the materialization. -/
structure CleanPrepare (store : DraftStore) (command : DraftCommand) (answers : List Answer) :
    Prop where
  room : command.commandId.length < 160
  unused : store.status = some .saved →
    store.commandRow (derivedId command.commandId .started) = none ∧
      store.commandRow (derivedId command.commandId .blocked) = none
  source : store.status = some .saved → ∀ answer ∈ answers[2]?, ∀ failure ∈ answer.source,
    ∃ error, failure = .draft error
  storage : ∀ answer ∈ answers[4]?, answer.materialized ≠ .raised (.research .storageError)

/-- The call stops after the draft has been marked as materializing. -/
def stopsInside (answers : List Answer) : Bool :=
  (answers.length = 4 ∨ answers.length = 5) && answers[2]?.any (·.source.isNone)

theorem length_prefixOf (text : String) (length : Nat) :
    (prefixOf text length).length = min length text.length := by
  rw [prefixOf, String.length_ofList, List.length_take, String.length_toList]

theorem derivedId_ne {commandId : String} {phase : Phase} (room : commandId.length < 160)
    (notStripped : phase.stripped = false) (notOwn : 0 < phase.suffix.length) :
    derivedId commandId phase ≠ commandId := by
  intro same
  have lengths := congrArg String.length same
  rw [derivedId, notStripped] at lengths
  simp only [Bool.false_eq_true, if_false] at lengths
  rw [length_prefixOf, String.length_append] at lengths
  omega

section Prepare

variable {command : DraftCommand} {candidates : List Candidate} {taskId : Ident}

theorem run_readying (isCurrent : store.current = some started)
    (unused : store.commandRow call.commandId = none) :
    runCall rules call (answer :: rest) store (.readying started taskId candidates) =
      (store.add ((materializationReady call taskId candidates).row started),
        .returned ((materializationReady call taskId candidates).row started)) := by
  apply runCall_returned
  simp only [stepDraft]
  rw [append_current isCurrent unused]
  rfl

theorem run_failing {failure : DraftFailure} (isCurrent : store.current = some started)
    (unused : store.commandRow call.commandId = none) :
    runCall rules call (answer :: rest) store (.failing started failure) =
      (store.add ((materializationFailed call failure).row started), .raised failure) := by
  apply runCall_raised
  simp only [stepDraft]
  rw [append_current isCurrent unused]
  rfl

theorem run_checking (enters : Enters store command current) (first second : Answer)
    (rest : List Answer) :
    runCall rules (.prepare command) (first :: second :: rest) store .replaying =
      runCall rules (.prepare command) rest store (.checking current) := by
  have isFresh : store.commandRow (DraftCall.prepare command).commandId = none := enters.fresh
  have replays : stepDraft (.prepare command) rules store first .replaying =
      (store, .goto .expecting) := by
    simp only [stepDraft, commandReplay, isFresh, settleRead, afterReplay]
  have expects : stepDraft (.prepare command) rules store second .expecting =
      (store, .goto (.checking current)) := by
    simp only [stepDraft, expected, enters.isCurrent, enters.version, if_true, settleRead,
      DraftCall.afterExpected, enters.status]
  rw [runCall_goto replays, runCall_goto expects]

theorem DraftChain.status_add {new : NewRevision} (chain : DraftChain store)
    (isCurrent : store.current = some current) (unused : store.commandRow new.commandId = none)
    (isExpected : ∀ version ∈ new.payload.expectedVersion, version ≤ current.version) :
    (store.add (new.row current)).current = some (new.row current) ∧
      (store.add (new.row current)).status = some new.status := by
  have isLast := DraftStore.current_add (chain.continued isCurrent unused isExpected)
  exact ⟨isLast, congrArg (Option.map DraftRevision.status) isLast⟩

/-- A preparation that has marked the draft, and whose own command id is unused. -/
structure Started (store : DraftStore) (command : DraftCommand) (started : DraftRevision) :
    Prop where
  chain : DraftChain store
  isCurrent : store.current = some started
  unused : store.commandRow (DraftCall.prepare command).commandId = none
  version : command.expectedVersion ≤ started.version

theorem Started.expected (isStarted : Started store command started) :
    ∀ version ∈ (DraftCall.prepare command).payload.expectedVersion, version ≤ started.version :=
  fun _ isVersion => Option.some.inj isVersion ▸ isStarted.version

theorem Started.setTask (isStarted : Started store command started) (taskId : Ident)
    (task : TaskKnowledge) : Started (store.setTask taskId task) command started :=
  { isStarted with
    chain := ⟨isStarted.chain.linked, isStarted.chain.named, isStarted.chain.commands,
      isStarted.chain.expected⟩ }

theorem keeps_failing {failure : DraftFailure} (isStarted : Started store command started)
    (answers : List Answer) :
    let done := runCall rules (.prepare command) answers store (.failing started failure)
    PrepareKeeps done.1 done.2 := by
  cases answers with
  | nil => exact trivial
  | cons answer rest =>
      rw [run_failing isStarted.isCurrent isStarted.unused]
      exact .inl (isStarted.chain.status_add isStarted.isCurrent isStarted.unused
        isStarted.expected).2

/-- The revision that ends a preparation records the candidates it was given. -/
theorem prepared_readying (isStarted : Started store command started)
    (isPending : pendingCandidates (store.tasks taskId) = candidates) (nonempty : candidates ≠ []) :
    Prepared (store.add ((materializationReady (.prepare command) taskId candidates).row started))
      ((materializationReady (.prepare command) taskId candidates).row started) where
  isCurrent := (isStarted.chain.status_add isStarted.isCurrent isStarted.unused
    isStarted.expected).1
  status := rfl
  recorded := ⟨taskId, rfl, by rw [← isPending]; rfl⟩
  candidates := List.map_eq_nil_iff.not.mpr nonempty

theorem keeps_readying (isStarted : Started store command started)
    (isPending : pendingCandidates (store.tasks taskId) = candidates) (nonempty : candidates ≠ [])
    (answers : List Answer) :
    let done := runCall rules (.prepare command) answers store
      (.readying started taskId candidates)
    PrepareKeeps done.1 done.2 := by
  cases answers with
  | nil => exact trivial
  | cons answer rest =>
      rw [run_readying isStarted.isCurrent isStarted.unused]
      exact prepared_readying isStarted isPending nonempty

/-- A materialization that finds candidates goes on to record them. -/
theorem step_materialized {uses : List EvidenceUse} {items : List IntakeItem} {first : Candidate}
    {others : List Candidate} (isAnswer : answer.materialized = .done taskId uses items)
    (isPending : pendingCandidates ((store.tasks taskId).intake uses items) = first :: others) :
    stepDraft call rules store answer (.materializing started) =
      (store.setTask taskId ((store.tasks taskId).intake uses items),
        .goto (.readying started taskId (first :: others))) := by
  simp only [stepDraft, isAnswer, afterMaterialization, isPending]

theorem keeps_materializing (isStarted : Started store command started) (answers : List Answer)
    (storage : ∀ answer ∈ answers[0]?, answer.materialized ≠ .raised (.research .storageError)) :
    let done := runCall rules (.prepare command) answers store (.materializing started)
    PrepareKeeps done.1 done.2 := by
  cases answers with
  | nil => exact trivial
  | cons answer rest =>
      have notStorage := storage answer rfl
      cases isAnswer : answer.materialized with
      | done taskId uses items =>
          have onTask := isStarted.setTask taskId ((store.tasks taskId).intake uses items)
          cases isPending : pendingCandidates ((store.tasks taskId).intake uses items) with
          | nil =>
              have ran : stepDraft (.prepare command) rules store answer (.materializing started) =
                  (store.setTask taskId ((store.tasks taskId).intake uses items),
                    .goto (.failing started (.draft candidateMissing))) := by
                simp only [stepDraft, isAnswer, afterMaterialization, isPending]
              rw [runCall_goto ran]
              exact keeps_failing onTask rest
          | cons first others =>
              rw [runCall_goto (step_materialized isAnswer isPending)]
              exact keeps_readying onTask (by rw [DraftStore.tasks_setTask, isPending])
                (List.cons_ne_nil _ _) rest
      | raised failure =>
          have ran : stepDraft (.prepare command) rules store answer (.materializing started) =
              (store, .goto (.failing started failure)) := by
            change afterMaterialization started store answer.materialized = _
            rw [isAnswer] at notStorage ⊢
            unfold afterMaterialization
            split
            · rename_i isDone
              cases isDone
            · rename_i isStorage
              exact absurd isStorage notStorage
            · rename_i isFailure
              cases isFailure
              rfl
          rw [runCall_goto ran]
          exact keeps_failing isStarted rest

/-- A draft that is not prepared for the first time stays in the status it is in. -/
theorem keeps_unchanged (enters : Enters store command current)
    (notSaved : current.status ≠ .saved) :
    store.status = some .failed ∨ store.status = some .needsRevalidation := by
  have isStatus : store.status = some current.status :=
    congrArg (Option.map DraftRevision.status) enters.isCurrent
  have member := enters.status
  simp only [preparable, List.mem_cons, List.not_mem_nil, or_false] at member
  rcases member with isSaved | isStale | isFailed
  · exact absurd isSaved notSaved
  · exact .inr (isStatus.trans (congrArg some isStale))
  · exact .inl (isStatus.trans (congrArg some isFailed))

/-- A row that a preparation finds under a derived id is not its own: a row with its payload comes
after the version it expects, which is the last. -/
theorem append_refused (chain : DraftChain store) (enters : Enters store command current)
    {new : NewRevision} (payload : new.payload = (DraftCall.prepare command).payload)
    (found : store.commandRow new.commandId = some row) :
    append store current new = .error (.draft payloadMismatch) := by
  have isRow := (DraftStore.mem_of_commandRow found).1
  have isReplayed : replayed row new.payload = .error (.draft payloadMismatch) := by
    refine if_neg fun samePayload => ?_
    have isExpected := chain.expected row isRow command.expectedVersion
      (by rw [samePayload, payload]; rfl)
    have last := DraftStore.version_le enters.isCurrent isRow
    have version := enters.version
    omega
  unfold append
  rw [found]
  exact congrArg (Except.map _) isReplayed

theorem keeps_blocking {error : DraftError} (chain : DraftChain store)
    (enters : Enters store command current)
    (unused : current.status = .saved →
      store.commandRow (derivedId command.commandId .blocked) = none) (answers : List Answer) :
    let done := runCall rules (.prepare command) answers store (.blocking current error)
    PrepareKeeps done.1 done.2 := by
  cases answers with
  | nil => exact trivial
  | cons answer rest =>
      have ran : stepDraft (.prepare command) rules store answer (.blocking current error) =
          settleAppend store (fun _ => .raised (.draft error))
            (append store current (blocked (.prepare command) error)) := rfl
      cases found : store.commandRow (blocked (.prepare command) error).commandId with
      | none =>
          have isExpected : ∀ version ∈ (DraftCall.prepare command).payload.expectedVersion,
              version ≤ current.version :=
            fun version isVersion => Option.some.inj isVersion ▸ enters.version.ge
          rw [append_current enters.isCurrent found] at ran
          rw [runCall_raised ran]
          exact .inr (chain.status_add enters.isCurrent found isExpected).2
      | some present =>
          rw [append_refused chain enters rfl found] at ran
          rw [runCall_raised ran]
          refine keeps_unchanged enters fun isSaved => ?_
          have absent := (unused isSaved).symm.trans found
          cases absent

theorem step_marked (chain : DraftChain store) (enters : Enters store command current)
    (room : command.commandId.length < 160)
    (unused : store.commandRow (derivedId command.commandId .started) = none) (answer : Answer) :
    ∃ started, stepDraft (.prepare command) rules store answer (.starting current) =
        (store.add started, .goto (.materializing started)) ∧
      Started (store.add started) command started := by
  have isExpected : ∀ version ∈ (DraftCall.prepare command).payload.expectedVersion,
      version ≤ current.version :=
    fun version isVersion => Option.some.inj isVersion ▸ enters.version.ge
  have isUnused : store.commandRow (materializationStarted (.prepare command)).commandId = none :=
    unused
  have differs : derivedId command.commandId .started ≠ command.commandId :=
    derivedId_ne room rfl (by decide)
  refine ⟨(materializationStarted (.prepare command)).row current, ?_, ?_⟩
  · simp only [stepDraft]
    rw [append_current enters.isCurrent isUnused]
    rfl
  · exact
      { chain := chain.continued enters.isCurrent isUnused isExpected
        isCurrent := (chain.status_add enters.isCurrent isUnused isExpected).1
        unused := (DraftStore.commandRow_add_of_ne differs).trans enters.fresh
        version := enters.version.ge.trans (Nat.le_succ _) }

theorem keeps_starting (chain : DraftChain store) (enters : Enters store command current)
    (room : command.commandId.length < 160)
    (unused : current.status = .saved →
      store.commandRow (derivedId command.commandId .started) = none) (answers : List Answer)
    (storage : ∀ answer ∈ answers[1]?, answer.materialized ≠ .raised (.research .storageError)) :
    let done := runCall rules (.prepare command) answers store (.starting current)
    PrepareKeeps done.1 done.2 := by
  cases answers with
  | nil => exact trivial
  | cons answer rest =>
      cases found : store.commandRow (materializationStarted (.prepare command)).commandId with
      | none =>
          obtain ⟨started, ran, isStarted⟩ := step_marked chain enters room found answer
          rw [runCall_goto ran]
          exact keeps_materializing isStarted rest storage
      | some present =>
          have ran : stepDraft (.prepare command) rules store answer (.starting current) =
              settleAppend store (fun started => .goto (.materializing started))
                (append store current (materializationStarted (.prepare command))) := rfl
          rw [append_refused chain enters rfl found] at ran
          rw [runCall_raised ran]
          refine keeps_unchanged enters fun isSaved => ?_
          have absent := (unused isSaved).symm.trans found
          cases absent

theorem checking_refused {failure : DraftFailure} (isSource : answer.source = some failure) :
    (∃ error, failure = .draft error ∧
      stepDraft (.prepare command) rules store answer (.checking current) =
        (store, .goto (.blocking current error))) ∨
      ((∀ error, failure ≠ .draft error) ∧
        stepDraft (.prepare command) rules store answer (.checking current) =
          (store, .raised failure)) := by
  cases failure with
  | draft error => exact .inl ⟨error, rfl, by simp only [stepDraft, isSource]⟩
  | research failure => exact .inr ⟨by simp, by simp only [stepDraft, isSource]⟩
  | invalidRequest => exact .inr ⟨by simp, by simp only [stepDraft, isSource]⟩
  | other typeName => exact .inr ⟨by simp, by simp only [stepDraft, isSource]⟩

theorem Enters.saved (enters : Enters store command current) (isSaved : current.status = .saved) :
    store.status = some .saved :=
  (congrArg (Option.map DraftRevision.status) enters.isCurrent).trans (congrArg some isSaved)

/-- A clean preparation that is admitted returns with the draft ready, or raises with the draft failed
or in need of revalidation, or stops. -/
theorem prepare_keeps (chain : DraftChain store) (enters : Enters store command current)
    (answers : List Answer) (clean : CleanPrepare store command answers) :
    let done := runCall rules (.prepare command) answers store .replaying
    PrepareKeeps done.1 done.2 := by
  match answers with
  | [] => exact trivial
  | [first] =>
      have isFresh : store.commandRow (DraftCall.prepare command).commandId = none := enters.fresh
      have replays : stepDraft (.prepare command) rules store first .replaying =
          (store, .goto .expecting) := by
        simp only [stepDraft, commandReplay, isFresh, settleRead, afterReplay]
      rw [runCall_goto replays]
      exact trivial
  | [first, second] =>
      rw [run_checking enters]
      exact trivial
  | first :: second :: third :: rest =>
      rw [run_checking enters]
      cases isSource : third.source with
      | none =>
          have ran : stepDraft (.prepare command) rules store third (.checking current) =
              (store, .goto (.starting current)) := by
            simp only [stepDraft, isSource]
          rw [runCall_goto ran]
          exact keeps_starting chain enters clean.room
            (fun isSaved => (clean.unused (enters.saved isSaved)).1) rest clean.storage
      | some failure =>
          rcases checking_refused isSource with ⟨error, rfl, ran⟩ | ⟨notDraft, ran⟩
          · rw [runCall_goto ran]
            exact keeps_blocking chain enters
              (fun isSaved => (clean.unused (enters.saved isSaved)).2) rest
          · rw [runCall_raised ran]
            refine keeps_unchanged enters fun isSaved => ?_
            obtain ⟨error, isDraft⟩ :=
              clean.source (enters.saved isSaved) third rfl failure isSource
            exact notDraft error isDraft

/-! ## Stopping -/

theorem runCall_ends {answered : DraftStore × DraftNext}
    (ran : stepDraft call rules store answer pc = answered) (ends : ∀ pc, answered.2 ≠ .goto pc) :
    (runCall rules call (answer :: rest) store pc).2 ≠ .stopped := by
  obtain ⟨after, next⟩ := answered
  cases next with
  | goto pc => exact absurd rfl (ends pc)
  | returned row => rw [runCall_returned ran]; nofun
  | raised failure => rw [runCall_raised ran]; nofun

theorem settleAppend_ends {answers : DraftRevision → DraftNext}
    {outcome : Except DraftFailure (DraftStore × DraftRevision)}
    (ends : ∀ row pc, answers row ≠ .goto pc) (pc : DraftPc) :
    (settleAppend store answers outcome).2 ≠ .goto pc := by
  cases outcome with
  | error failure => nofun
  | ok done => exact ends done.2 pc

theorem blocking_ends {error : DraftError} :
    (runCall rules call (answer :: rest) store (.blocking current error)).2 ≠ .stopped :=
  runCall_ends rfl (settleAppend_ends fun _ _ => nofun)

/-- Two transactions end a materialization. -/
theorem materializing_ends {last : Answer} :
    (runCall rules call (answer :: last :: rest) store (.materializing started)).2 ≠ .stopped := by
  cases ran : stepDraft call rules store answer (.materializing started) with
  | mk after next =>
      cases next with
      | returned row => rw [runCall_returned ran]; nofun
      | raised failure => rw [runCall_raised ran]; nofun
      | goto next =>
          rw [runCall_goto ran]
          have isNext : (∃ failure, next = .failing started failure) ∨
              ∃ taskId candidates, next = .readying started taskId candidates := by
            have isAfter : (afterMaterialization started store answer.materialized).2 =
                .goto next := congrArg Prod.snd ran
            unfold afterMaterialization at isAfter
            split at isAfter
            · simp only at isAfter
              split at isAfter <;> cases isAfter
              · exact .inl ⟨_, rfl⟩
              · exact .inr ⟨_, _, rfl⟩
            · cases isAfter
            · cases isAfter
              exact .inl ⟨_, rfl⟩
          rcases isNext with ⟨failure, rfl⟩ | ⟨taskId, candidates, rfl⟩
          · exact runCall_ends rfl (settleAppend_ends fun _ _ => nofun)
          · exact runCall_ends rfl (settleAppend_ends fun _ _ => nofun)

theorem prepare_stops (enters : Enters store command current) (answers : List Answer)
    (stopped : (runCall rules (.prepare command) answers store .replaying).2 = .stopped)
    (outside : stopsInside answers = false) :
    (runCall rules (.prepare command) answers store .replaying).1 = store := by
  cases answers with
  | nil => rfl
  | cons first answers =>
      have isFresh : store.commandRow (DraftCall.prepare command).commandId = none := enters.fresh
      have replays : stepDraft (.prepare command) rules store first .replaying =
          (store, .goto .expecting) := by
        simp only [stepDraft, commandReplay, isFresh, settleRead, afterReplay]
      rcases answers with _ | ⟨second, _ | ⟨third, rest⟩⟩
      · rw [runCall_goto replays]
        rfl
      · rw [run_checking enters]
        rfl
      rw [run_checking enters] at stopped ⊢
      cases isSource : third.source with
      | some failure =>
          rcases checking_refused isSource with ⟨error, rfl, ran⟩ | ⟨-, ran⟩
          · rw [runCall_goto ran] at stopped ⊢
            cases rest with
            | nil => rfl
            | cons fourth rest => exact absurd stopped blocking_ends
          · rw [runCall_raised ran] at stopped
            cases stopped
      | none =>
          have ran : stepDraft (.prepare command) rules store third (.checking current) =
              (store, .goto (.starting current)) := by
            simp only [stepDraft, isSource]
          rw [runCall_goto ran] at stopped ⊢
          rcases rest with _ | ⟨fourth, _ | ⟨fifth, _ | ⟨sixth, rest⟩⟩⟩
          · rfl
          · simp [stopsInside, isSource] at outside
          · simp [stopsInside, isSource] at outside
          cases marked : stepDraft (.prepare command) rules store fourth (.starting current) with
          | mk after next =>
              have isMarked : settleAppend store (fun started => .goto (.materializing started))
                  (append store current (materializationStarted (.prepare command))) =
                    (after, next) := marked
              cases appended : append store current
                  (materializationStarted (.prepare command)) with
              | error failure =>
                  rw [appended] at isMarked
                  cases isMarked
                  rw [runCall_raised marked] at stopped
                  cases stopped
              | ok done =>
                  rw [appended] at isMarked
                  cases isMarked
                  rw [runCall_goto marked] at stopped
                  exact absurd stopped materializing_ends

/-! ## Preparing again -/

instance : Infinite Ident := Infinite.of_injective Ident.number fun _ _ same => by cases same; rfl

theorem pending_intake (task : TaskKnowledge) (item : IntakeItem)
    (fresh : task.candidates.lookup item.candidateId = none) :
    item.candidate ∈ pendingCandidates (task.intake [] [item]) := by
  refine List.mem_filter.mpr ⟨?_, rfl⟩
  exact Table.mem_of_lookup (Table.lookup_insert_self fresh)

/-- A draft that can be prepared is ready after a preparation whose answers are good. -/
theorem prepare_reaches (chain : DraftChain store) (enters : Enters store command current)
    (room : command.commandId.length < 160)
    (unused : store.commandRow (derivedId command.commandId .started) = none) :
    ∃ answers after row, runCall rules (.prepare command) answers store .replaying =
      (after, .returned row) ∧ Prepared after row := by
  let task := store.tasks (.text "task")
  obtain ⟨candidateId, isNew⟩ :=
    Infinite.exists_notMem_finset (task.candidates.rows.map Candidate.candidateId).toFinset
  have absent : task.candidates.lookup candidateId = none := by
    rw [Table.lookup_eq_none]
    intro candidate isRow same
    refine isNew (List.mem_toFinset.mpr ?_)
    exact same ▸ List.mem_map_of_mem isRow
  let item : IntakeItem := ⟨candidateId, .text "attempt", "claim", [], []⟩
  let answer : Answer :=
    ⟨none, .done (.text "task") [] [item], fun _ => ⟨.current, none, none⟩⟩
  have pending := pending_intake task item absent
  have checked : stepDraft (.prepare command) rules store answer (.checking current) =
      (store, .goto (.starting current)) := rfl
  obtain ⟨started, marked, isStarted⟩ := step_marked chain enters room unused answer
  have onTask := isStarted.setTask (.text "task") (task.intake [] [item])
  cases isPending : pendingCandidates (task.intake [] [item]) with
  | nil => exact absurd (isPending ▸ pending) List.not_mem_nil
  | cons first others =>
      have materialized : stepDraft (.prepare command) rules (store.add started) answer
          (.materializing started) =
          ((store.add started).setTask (.text "task") (task.intake [] [item]),
            .goto (.readying started (.text "task") (first :: others))) :=
        step_materialized rfl isPending
      have ended : runCall rules (.prepare command) [answer]
          ((store.add started).setTask (.text "task") (task.intake [] [item]))
          (.readying started (.text "task") (first :: others)) = _ :=
        run_readying onTask.isCurrent onTask.unused
      rw [← runCall_goto materialized, ← runCall_goto marked, ← runCall_goto checked,
        ← run_checking enters answer answer] at ended
      refine ⟨_, _, _, ended, prepared_readying onTask ?_ (List.cons_ne_nil _ _)⟩
      rw [DraftStore.tasks_setTask, isPending]

/-- A preparation of a draft that is marked as materializing changes nothing. -/
theorem stranded (isMaterializing : store.status = some .materializing) (answers : List Answer) :
    (runCall rules (.prepare command) answers store .replaying).1 = store := by
  match answers with
  | [] => rfl
  | first :: rest =>
      have replays : stepDraft (.prepare command) rules store first .replaying =
          settleRead store afterReplay (commandReplay store command.commandId
            (DraftCall.prepare command).payload) := rfl
      cases isReplay : commandReplay store command.commandId (DraftCall.prepare command).payload with
      | error failure =>
          rw [isReplay] at replays
          rw [runCall_raised replays]
      | ok found =>
          rw [isReplay] at replays
          cases found with
          | some row => rw [runCall_returned replays]
          | none =>
              rw [runCall_goto replays]
              cases rest with
              | nil => rfl
              | cons second rest =>
                  have expects : stepDraft (.prepare command) rules store second .expecting =
                      settleRead store (DraftCall.prepare command).afterExpected
                        (expected store command.expectedVersion) := rfl
                  cases isExpected : expected store command.expectedVersion with
                  | error failure =>
                      rw [isExpected] at expects
                      rw [runCall_raised expects]
                  | ok current =>
                      obtain ⟨isCurrent, -⟩ := expected_ok isExpected
                      have isStatus : current.status = .materializing := by
                        simpa [DraftStore.status, isCurrent] using isMaterializing
                      rw [isExpected] at expects
                      simp only [settleRead, DraftCall.afterExpected, isStatus, preparable,
                        List.mem_cons, List.not_mem_nil, reduceCtorEq, or_self, if_false] at expects
                      rw [runCall_returned expects]

end Prepare

/-! ## Every sequence of commands -/

/-- A preparation can bring the draft to `promotion_ready`, under any command id that is unused with
that of its mark. -/
def CanBePrepared (rules : KnowledgeRules) (store : DraftStore) : Prop :=
  ∃ current, store.current = some current ∧
    ∀ commandId, 1 ≤ commandId.length → commandId.length < 160 →
      store.commandRow commandId = none →
      store.commandRow (derivedId commandId .started) = none →
      ∃ answers after row,
        issue rules store ⟨.prepare ⟨commandId, current.version⟩, answers⟩ =
          (after, .returned row) ∧ Prepared after row

theorem canBePrepared (chain : DraftChain store) (isCurrent : store.current = some current)
    (status : current.status ∈ preparable) : CanBePrepared rules store := by
  refine ⟨current, isCurrent, fun commandId positive room fresh unused => ?_⟩
  have numbered : current.version ∈ store.revisions.map DraftRevision.version :=
    List.mem_map_of_mem (chain.mem_of_current isCurrent)
  rw [chain.linked.numbers, List.mem_range'_1] at numbered
  have admitted : (DraftCall.prepare ⟨commandId, current.version⟩).admitted = true := by
    simp [DraftCall.admitted, DraftCall.commandId, positive, room.le, numbered.1]
  have enters : Enters store ⟨commandId, current.version⟩ current :=
    ⟨isCurrent, rfl, fresh, status⟩
  simp only [issue, admitted, if_true]
  exact prepare_reaches chain enters room unused

/-- Every sequence of saves, preparations, confirmations and cancellations, each of which may stop
anywhere: the revisions are one chain numbered from one. A clean preparation that is admitted leaves
the draft ready with its candidates when it returns, and failed or in need of revalidation when
it raises; one that stops before it has marked the draft, or when it is over, leaves it to be
prepared again. Commands with roomy ids that are apart from one another use no id twice. -/
theorem draft_phases (rules : KnowledgeRules) (draftId : Ident) (userId : String)
    (commands : List Issued) :
    let store := runFrom (stepIssued rules) (DraftStore.empty draftId userId) commands
    DraftChain store ∧
    (∀ command current answers, (DraftCall.prepare command).admitted → Enters store command current →
      let done := issue rules store ⟨.prepare command, answers⟩
      (CleanPrepare store command answers → PrepareKeeps done.1 done.2) ∧
      (done.2 = .stopped → stopsInside answers = false → CanBePrepared rules done.1)) ∧
    ∀ (first second : DraftCall) (one other : Derivation), RoomyIds first → RoomyIds second →
      ApartIds first second → ApartIds second first → first.uses one → second.uses other →
      usedId first.commandId one = usedId second.commandId other →
        first.commandId = second.commandId ∧ one = other := by
  intro store
  have kept : ∀ store issued, DraftChain store → DraftChain (stepIssued rules store issued) :=
    fun _ issued chain => stepIssued_chain chain issued
  have chain : DraftChain store := invariant_run kept (DraftChain.empty draftId userId) commands
  refine ⟨chain, fun command current answers admitted enters => ?_,
    fun first second one other roomy roomy' apart apart' uses uses' =>
      usedId_inj roomy roomy' apart apart' uses uses'⟩
  have isIssue : issue rules store ⟨.prepare command, answers⟩ =
      runCall rules (.prepare command) answers store .replaying := by
    rw [issue, if_pos admitted]
    rfl
  rw [isIssue]
  refine ⟨prepare_keeps chain enters answers, fun stopped outside => ?_⟩
  rw [prepare_stops enters answers stopped outside]
  exact canBePrepared chain enters.isCurrent enters.status

/-- What is asked of a preparation that is admitted: it keeps the phases apart, and when it stops the
draft can be prepared by a later one. -/
def NeverStrands (rules : KnowledgeRules) (store : DraftStore) : Prop :=
  ∀ command current answers, (DraftCall.prepare command).admitted → Enters store command current →
    let done := issue rules store ⟨.prepare command, answers⟩
    PrepareKeeps done.1 done.2 ∧
      (done.2 = .stopped → ∃ again more after row,
        issue rules done.1 ⟨.prepare again, more⟩ = (after, .returned row) ∧ Prepared after row)

/-- A saved draft, and a preparation that stops when the draft is marked as materializing. -/
theorem stopped_preparation_strands_draft :
    ¬ ∀ (rules : KnowledgeRules) (draftId : Ident) (userId : String) (commands : List Issued),
      NeverStrands rules (runFrom (stepIssued rules) (DraftStore.empty draftId userId) commands) := by
  intro never
  let rules : KnowledgeRules := ⟨fun _ _ => true, id, fun _ _ => true⟩
  let answer : Answer := ⟨none, .raised .invalidRequest, fun _ => ⟨.current, none, none⟩⟩
  let source : DraftSource := ⟨"research", none, some "task", "{}", "hash", "[]", "{}", "[]"⟩
  let saved : Issued := ⟨.save ⟨.researchTask, "task", none, "save", source, true⟩, [answer]⟩
  let command : DraftCommand := ⟨"prepare", 1⟩
  have enters : Enters (runFrom (stepIssued rules) (DraftStore.empty (.text "draft") "user") [saved])
      command (SaveCommand.row ⟨.researchTask, "task", none, "save", source, true⟩ (.text "draft")) :=
    ⟨by decide +kernel, rfl, by decide +kernel, by decide⟩
  obtain ⟨-, later⟩ := never rules (.text "draft") "user" [saved] command _
    [answer, answer, answer, answer] (by decide +kernel) enters
  obtain ⟨again, more, after, row, ran, prepared⟩ := later (by decide +kernel)
  have isMarked : (issue rules (runFrom (stepIssued rules)
      (DraftStore.empty (.text "draft") "user") [saved])
      ⟨.prepare command, [answer, answer, answer, answer]⟩).1.status = some .materializing := by
    decide +kernel
  have same : ∀ store : DraftStore, store.status = some .materializing →
      (issue rules store ⟨.prepare again, more⟩).1 = store := by
    intro store isMaterializing
    unfold issue
    split
    · exact stranded isMaterializing more
    · rfl
  have isAfter : after.status = some .materializing := by
    rw [← isMarked, ← same _ isMarked, ran]
  rw [DraftStore.status, prepared.isCurrent, Option.map_some, prepared.status] at isAfter
  cases isAfter

end Shiliu.Drafts
