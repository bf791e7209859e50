/-
Module: Shiliu.Pipeline.SourceFetch
Purpose: The stage that fetches a video's source, execution after execution. The stage counts every
  execution it admits, and the failure path reads that count as the number of failures. The clock
  readings of an execution are one instant, because its renewal thread keeps its lease.
Trusted boundary: none
Main exports: FetchWorld, execute, stepFetch, CountsFailures, BudgetUnspent, countsFailures_iff
-/
import Shiliu.Library.Outcome
import Shiliu.Pipeline.ModelStages

set_option linter.all false

namespace Shiliu.Pipeline

open Shiliu.Library
open Shiliu.Storage
open Shiliu.Collection

/-! ## The video -/

/-- `VideoStatus`. -/
inductive VideoStatus where
  | discovered
  | subtitlePending
  | transcriptProcessing
  | summaryProcessing
  | retryWait
  | completed
  | skippedNoSubtitle
  | needsReview
deriving DecidableEq

/-- The columns of `videos` that the stage and the reset read, or write to say how it went. -/
structure FetchedVideo where
  status : VideoStatus
  durationSeconds : Int
  rawSubtitlePath : Option String
  transcriptPath : Option String
  subtitleCheckCount : Nat
  subtitleFirstCheckedAt : Option Instant
  subtitleNextCheckAt : Option Instant
  errorCode : Option String
  errorMessage : Option String

/-- `PipelineError`. -/
structure PipelineError where
  code : String
  message : String
  retryable : Bool

/-- `VideoBundle`; `subtitle` is the path the raw text is saved under, when there is a track with
segments. -/
structure VideoBundle where
  durationSeconds : Int
  subtitle : Option String

/-- What `fetch_video_bundle` answers. -/
inductive Fetch where
  | bundle (bundle : VideoBundle)
  | raised (error : PipelineError)

def Fetch.failed : Fetch → Bool
  | .bundle _ => false
  | .raised _ => true

/-- One call of `_fetch_source`, with the answers it gets. `worker_id` is never empty. -/
structure Execution where
  now : Instant
  worker : String
  named : worker ≠ ""
  fetch : Fetch
  /-- What `_acquire_asr` answers, and what it leaves of the video. -/
  acquired : Bool
  acquire : FetchedVideo → FetchedVideo

/-- The stage row, the video row, and what the executions since the last reset or the last success
were answered. -/
structure FetchWorld where
  stage : Option StageRow
  video : FetchedVideo
  since : List Fetch

/-! ## The stage function -/

/-- `_record_stage_failure` leaves `attempt_count` alone. -/
def fetchSource : StageProgram where
  name := .sourceFetch
  rereads := false
  announces := false
  needsFastSummary := false
  failureWritesAttempt := false
  forcible := false

/-- What `_record_stage_failure` writes on the video. -/
def failedVideo (attempt : Nat) (error : PipelineError) (video : FetchedVideo) : FetchedVideo :=
  { video with
    status := if error.retryable && decide (attempt < 3) then .retryWait else .needsReview
    errorCode := some error.code
    errorMessage := some error.message }

def hours (count : Nat) : Nat := minutes (60 * count)

/-- `_record_missing_subtitle`; `previous` is the video before the execution. -/
def recordMissingSubtitle (asrConfigured : Bool) (now : Instant) (previous : FetchedVideo)
    (durationSeconds : Int) (video : FetchedVideo) : FetchedVideo × Bool :=
  let count := previous.subtitleCheckCount + 1
  let first := previous.subtitleFirstCheckedAt.getD now
  if 3 ≤ count ∨ hours 24 ≤ now - first then
    let eligible : Bool := 0 < durationSeconds ∧ durationSeconds ≤ 300 ∧ asrConfigured
    ({ video with
        status := if eligible then .subtitlePending else .skippedNoSubtitle
        subtitleCheckCount := count
        subtitleFirstCheckedAt := some (wholeSecond first)
        subtitleNextCheckAt := none
        errorCode := some (if eligible then "asr_pending" else "no_supported_subtitle")
        errorMessage := some
          (if eligible then "未发现站内字幕，将尝试语音识别" else "无字幕 · 未自动处理") },
      eligible)
  else
    ({ video with
        status := .subtitlePending
        subtitleCheckCount := count
        subtitleFirstCheckedAt := some (wholeSecond first)
        subtitleNextCheckAt := some (wholeSecond (now + hours 1))
        errorCode := some "subtitle_pending"
        errorMessage := some "尚未发现中文或英文字幕，将在后续同步中重试" },
      false)

/-- `_fetch_source` under its claim: the rows it leaves, and what it returns. Nothing else writes
the raw subtitle in the meantime, so the publication guard is the check of the lease. -/
def runFetchSource (asrConfigured : Bool) (run : Execution) (row : StageRow) (held : Claim)
    (attempt : Nat) (video : FetchedVideo) : Except Failure (StageRow × FetchedVideo × Bool) :=
  match run.fetch with
  | .raised error => do
      let (failed, _) ← updateStage run.now row (some held)
        (failedColumns fetchSource run.now attempt error.code error.retryable)
      checkLease run.now failed held
      return (failed, failedVideo attempt error video, false)
  | .bundle bundle => do
      checkLease run.now row held
      let described : FetchedVideo :=
        { video with
          durationSeconds := bundle.durationSeconds
          errorCode := none
          errorMessage := none }
      if bundle.durationSeconds ≤ 0 then
        checkLease run.now row held
        let unknown : FetchedVideo :=
          { described with
            status := .needsReview
            errorCode := some "duration_unknown"
            errorMessage := some "时长未知 · 未自动处理" }
        return (row, unknown, false)
      else
        match bundle.subtitle with
        | none =>
            if truthy video.rawSubtitlePath then return (row, described, true)
            else
              checkLease run.now row held
              let missing :=
                recordMissingSubtitle asrConfigured run.now video bundle.durationSeconds described
              if missing.2 then return (row, run.acquire missing.1, run.acquired)
              else return (row, missing.1, false)
        | some rawTextPath =>
            checkLease run.now row held
            let fetched : FetchedVideo :=
              { described with
                rawSubtitlePath := some rawTextPath
                status := .transcriptProcessing
                subtitleNextCheckAt := none }
            return (row, fetched, true)

/-- What `leased_stage` writes before the function. -/
def attemptedColumns (attempt : Nat) (stage : PipelineStageColumns) : PipelineStageColumns :=
  { stage with status := .processing, attemptCount := attempt }

/-- What `leased_stage` writes after it, where it has left the stage in processing. -/
def settledColumns (result : Bool) (stage : PipelineStageColumns) : PipelineStageColumns :=
  { stage with status := if result then .completed else .retryWait }

/-- `leased_stage(SOURCE_FETCH)` around `_fetch_source`, under the claim. -/
def executeHeld (asrConfigured : Bool) (world : FetchWorld) (run : Execution) (row : StageRow)
    (held : Claim) : Except Failure (FetchWorld × Option Bool) := do
  let attempt := (columnsOf row).attemptCount + 1
  let (started, _) ← updateStage run.now row (some held) (attemptedColumns attempt)
  let (fetched, video, result) ←
    runFetchSource asrConfigured run started held attempt world.video
  let (settled, _) ←
    if (columnsOf fetched).status = .processing then
      updateStage run.now fetched (some held) (settledColumns result)
    else pure (fetched, ())
  let (released, _) ← release run.now settled held
  let since := if result then [] else world.since ++ [run.fetch]
  return (⟨some released, video, since⟩, some result)

/-- The row `ensure_stage` finds or inserts. -/
def FetchWorld.row (world : FetchWorld) : StageRow :=
  world.stage.getD (freshStage .sourceFetch)

/-- `leased_stage(SOURCE_FETCH)` around `_fetch_source`; without a claim it returns `None`. -/
def execute (asrConfigured : Bool) (world : FetchWorld) (run : Execution) :
    Except Failure (FetchWorld × Option Bool) := do
  let row := world.row
  let (claimed, held) ← claim run.now row run.worker leaseSeconds
  match held with
  | none => return ({ world with stage := some claimed }, none)
  | some held => executeHeld asrConfigured world run claimed held

/-! ## Histories -/

/-- What `reset_failed_stages` writes on the video. -/
def resetVideo (video : FetchedVideo) : FetchedVideo :=
  { video with
    status :=
      if video.transcriptPath.isSome then .summaryProcessing
      else if video.rawSubtitlePath.isSome then .transcriptProcessing
      else .discovered
    errorCode := none
    errorMessage := none
    subtitleNextCheckAt := none }

/-- `reset_failed_stages`. -/
def resetFetch (world : FetchWorld) : FetchWorld where
  stage := world.stage.map resetStage
  video := resetVideo world.video
  since := if world.stage.any resettable then [] else world.since

inductive FetchEvent where
  | execute (run : Execution)
  | resetFailedStages

/-- An event; a transaction that raises leaves the rows as they are. -/
def stepFetch (asrConfigured : Bool) (world : FetchWorld) : FetchEvent → FetchWorld
  | .execute run =>
      match execute asrConfigured world run with
      | .ok (next, _) => next
      | .error _ => world
  | .resetFailedStages => resetFetch world

/-- The world after a history. -/
def runFetch (asrConfigured : Bool) (world : FetchWorld) (history : List FetchEvent) : FetchWorld :=
  history.foldl (stepFetch asrConfigured) world

/-- A video whose source has not been fetched yet. -/
def FetchWorld.fresh (video : FetchedVideo) : FetchWorld := ⟨none, video, []⟩

/-- How many executions since the last reset or the last success ended in an error. -/
def FetchWorld.failures (world : FetchWorld) : Nat := world.since.countP Fetch.failed

/-! ## What the budget should count -/

/-- An execution that finds the stage due is admitted. -/
def FetchWorld.admits (world : FetchWorld) (now : Instant) : Bool :=
  stageIsDue now (columnsOf world.row)

/-- The error the fetch ends in, if another attempt may go better. -/
def Fetch.retryable : Fetch → Bool
  | .bundle _ => false
  | .raised error => error.retryable

/-- A retryable error puts the stage and the video under review only after three executions that
ended in an error. -/
def CountsFailures (asrConfigured : Bool) (world : FetchWorld) (run : Execution) : Prop :=
  ∀ next result, execute asrConfigured world run = .ok (next, some result) →
    run.fetch.retryable = true → (columnsOf next.row).status = .needsReview →
    next.video.status = .needsReview → 3 ≤ next.failures

/-- When a retryable error comes, fewer than two executions have been counted, or two of them ended
in an error. -/
def BudgetUnspent (world : FetchWorld) (run : Execution) : Prop :=
  world.admits run.now = true → run.fetch.retryable = true →
    world.since.length < 2 ∨ 2 ≤ world.failures

/-- What holds of every execution of a history, in the world it starts in. -/
def EveryExecution (asrConfigured : Bool) (Holds : FetchWorld → Execution → Prop)
    (world : FetchWorld) : List FetchEvent → Prop
  | [] => True
  | .execute run :: rest =>
      Holds world run ∧
        EveryExecution asrConfigured Holds (stepFetch asrConfigured world (.execute run)) rest
  | .resetFailedStages :: rest =>
      EveryExecution asrConfigured Holds (stepFetch asrConfigured world .resetFailedStages) rest

/-! ## Writes under the claim -/

variable {now : Instant} {row : StageRow} {held : Claim} {asrConfigured : Bool} {run : Execution}
  {world : FetchWorld}

theorem passes_columns (passes : Passes now row held) (columns : Columns .pipelineStages) :
    Passes now { row with columns := columns } held := passes

@[simp] theorem columnsOf_mk (id : Nat) (columns : PipelineStageColumns)
    (lease : Lease String) :
    columnsOf { id := id, columns := columns, lease := lease } = columns := rfl

theorem updateStage_held (passes : Passes now row held)
    (fields : PipelineStageColumns → PipelineStageColumns) :
    updateStage now row (some held) fields =
      .ok ({ row with columns := fields (columnsOf row) }, ()) := by
  unfold updateStage guardedWrite
  simp only [checkLease_ok_iff.mpr passes, reduceCtorEq, if_false]
  rfl

theorem release_held (passes : Passes now row held) :
    release now row held = .ok ({ row with lease := row.lease.release }, ()) := by
  unfold release
  rw [checkLease_ok_iff.mpr passes]
  rfl

theorem runFetchSource_raised {attempt : Nat} {video : FetchedVideo} {error : PipelineError}
    (passes : Passes run.now row held) (raised : run.fetch = .raised error) :
    runFetchSource asrConfigured run row held attempt video =
      .ok ({ row with
            columns := failedColumns fetchSource run.now attempt error.code error.retryable
              (columnsOf row) },
          failedVideo attempt error video, false) := by
  unfold runFetchSource
  rw [raised]
  simp only [updateStage_held passes]
  exact congrArg (fun checked : Except Failure Unit => checked >>= fun _ => _)
    (checkLease_ok_iff.mpr (passes_columns passes _))

theorem runFetchSource_bundle (asrConfigured : Bool) (attempt : Nat) (video : FetchedVideo)
    {bundle : VideoBundle} (passes : Passes run.now row held)
    (answered : run.fetch = .bundle bundle) :
    ∃ left result, runFetchSource asrConfigured run row held attempt video =
      .ok (row, left, result) := by
  have checked : checkLease run.now row held = .ok () := checkLease_ok_iff.mpr passes
  unfold runFetchSource
  rw [answered]
  simp only [checked, bind, Except.bind]
  by_cases unknown : bundle.durationSeconds ≤ 0
  · rw [if_pos unknown]
    exact ⟨_, _, rfl⟩
  · rw [if_neg unknown]
    cases bundle.subtitle with
    | none =>
        by_cases fetched : truthy video.rawSubtitlePath = true
        · simp only [fetched, if_true]
          exact ⟨_, _, rfl⟩
        · simp only [fetched, if_false, Bool.false_eq_true]
          split <;> exact ⟨_, _, rfl⟩
    | some rawTextPath => exact ⟨_, _, rfl⟩

/-! ## One execution -/

/-- An execution that ends in an error. -/
theorem executeHeld_raised {error : PipelineError} (passes : Passes run.now row held)
    (raised : run.fetch = .raised error) :
    executeHeld asrConfigured world run row held =
      .ok (⟨some { row with
              columns := failedColumns fetchSource run.now ((columnsOf row).attemptCount + 1)
                error.code error.retryable
                (attemptedColumns ((columnsOf row).attemptCount + 1) (columnsOf row))
              lease := row.lease.release },
            failedVideo ((columnsOf row).attemptCount + 1) error world.video,
            world.since ++ [run.fetch]⟩, some false) := by
  have started := passes_columns passes
    (attemptedColumns ((columnsOf row).attemptCount + 1) (columnsOf row))
  have failed := passes_columns passes
    (failedColumns fetchSource run.now ((columnsOf row).attemptCount + 1) error.code
      error.retryable (attemptedColumns ((columnsOf row).attemptCount + 1) (columnsOf row)))
  have settled :
      (failedColumns fetchSource run.now ((columnsOf row).attemptCount + 1) error.code
        error.retryable
        (attemptedColumns ((columnsOf row).attemptCount + 1) (columnsOf row))).status ≠
          .processing := by
    simp only [failedColumns]
    split <;> decide
  unfold executeHeld
  simp only [updateStage_held passes, bind, Except.bind, runFetchSource_raised started raised,
    columnsOf_mk, if_neg settled, pure, Except.pure, release_held failed, Bool.false_eq_true,
    if_false]

/-- An execution that ends in a bundle. -/
theorem executeHeld_bundle (asrConfigured : Bool) (world : FetchWorld) {bundle : VideoBundle}
    (passes : Passes run.now row held) (answered : run.fetch = .bundle bundle) :
    ∃ video result, executeHeld asrConfigured world run row held =
      .ok (⟨some { row with
              columns := settledColumns result
                (attemptedColumns ((columnsOf row).attemptCount + 1) (columnsOf row))
              lease := row.lease.release },
            video, if result then [] else world.since ++ [run.fetch]⟩, some result) := by
  have started := passes_columns passes
    (attemptedColumns ((columnsOf row).attemptCount + 1) (columnsOf row))
  obtain ⟨video, result, ran⟩ :=
    runFetchSource_bundle asrConfigured ((columnsOf row).attemptCount + 1)
      world.video started answered
  have settled := passes_columns passes
    (settledColumns result
      (attemptedColumns ((columnsOf row).attemptCount + 1) (columnsOf row)))
  have processing :
      (attemptedColumns ((columnsOf row).attemptCount + 1) (columnsOf row)).status =
        .processing := rfl
  refine ⟨video, result, ?_⟩
  unfold executeHeld
  simp only [updateStage_held passes, bind, Except.bind, ran, columnsOf_mk, if_pos processing,
    updateStage_held started, pure, Except.pure, release_held settled]

/-! ## What the stage counts -/

/-- Between executions the stage is free, and it has counted those since the last reset. -/
structure CountedRow (since : List Fetch) (row : StageRow) : Prop where
  named : (columnsOf row).stageName = .sourceFetch
  free : row.lease.owner = none
  rests : (columnsOf row).status ≠ .processing
  counts : (columnsOf row).status ≠ .completed → (columnsOf row).attemptCount = since.length

def Counted (world : FetchWorld) : Prop := CountedRow world.since world.row

theorem Counted.fresh (video : FetchedVideo) : Counted (.fresh video) where
  named := rfl
  free := rfl
  rests := nofun
  counts := fun _ => rfl

theorem CountedRow.claim {since : List Fetch} (counted : CountedRow since row) (now : Instant)
    {worker : String} (named : worker ≠ "") :
    claim now row worker leaseSeconds =
      if stageIsDue now (columnsOf row) = true then
        .ok ({ row with lease := row.lease.grant worker (now + leaseSeconds) },
          some { id := row.id, leaseOwner := worker, leaseEpoch := row.lease.epoch + 1 })
      else .ok (row, none) := by
  have valid : validLeaseLength leaseSeconds = true := by decide
  have free : ¬ (truthy row.lease.owner = true ∧ row.lease.live now = true) := by
    simp [counted.free, truthy]
  have admitted : admission now .pipelineStages row.columns =
      if stageIsDue now (columnsOf row) = true then .claimable else .refused := by
    have waits := counted.rests
    simp only [columnsOf] at waits ⊢
    simp only [admission, stageIsDue, decide_eq_true_eq]
    split <;> split <;> simp_all
  unfold Collection.claim
  rw [if_neg (by simp [named, valid]), if_neg free, admitted]
  by_cases due : stageIsDue now (columnsOf row) = true
  · rw [if_pos due, if_pos due]
    rfl
  · rw [if_neg due, if_neg due]

theorem passes_granted (now : Instant) (row : StageRow) (worker : String) :
    Passes now { row with lease := row.lease.grant worker (now + leaseSeconds) }
      { id := row.id, leaseOwner := worker, leaseEpoch := row.lease.epoch + 1 } := by
  refine ⟨rfl, rfl, rfl, ?_⟩
  simp [Lease.live, Lease.grant, leaseSeconds, microsPerSecond]

theorem Counted.execute (counted : Counted world) (asrConfigured : Bool) (run : Execution) :
    (world.admits run.now = false ∧
      Pipeline.execute asrConfigured world run =
        .ok ({ world with stage := some world.row }, none)) ∨
    (world.admits run.now = true ∧ ∃ next result,
      Pipeline.execute asrConfigured world run = .ok (next, some result) ∧
      CountedRow next.since next.row ∧
      next.since = (if result then [] else world.since ++ [run.fetch]) ∧
      ∀ error, run.fetch = .raised error → result = false ∧
        next.video = failedVideo (world.since.length + 1) error world.video ∧
        (columnsOf next.row).status =
          if error.retryable && decide (world.since.length + 1 < 3) then .retryWait
          else .needsReview) := by
  have claimed := CountedRow.claim counted run.now run.named
  unfold Pipeline.execute
  cases admitted : world.admits run.now with
  | false =>
      refine .inl ⟨rfl, ?_⟩
      rw [FetchWorld.admits] at admitted
      simp only [claimed, admitted]
      rfl
  | true =>
      refine .inr ⟨rfl, ?_⟩
      have passes := passes_granted run.now world.row run.worker
      have open_ : (columnsOf world.row).status ≠ .completed := by
        rw [FetchWorld.admits, stageIsDue] at admitted
        simp_all
      have attempts := counted.counts open_
      rw [FetchWorld.admits] at admitted
      simp only [claimed, admitted, if_true, bind, Except.bind]
      cases answered : run.fetch with
      | raised error =>
          rw [executeHeld_raised passes answered]
          refine ⟨_, _, rfl, ⟨counted.named, rfl, ?_, ?_⟩, by simp [answered], ?_⟩
          · show (failedColumns fetchSource _ _ _ _ _).status ≠ .processing
            simp only [failedColumns]
            split <;> decide
          · intro _
            rw [List.length_append]
            exact congrArg (· + 1) attempts
          · rintro raised same
            cases same
            refine ⟨rfl, ?_, ?_⟩
            · show failedVideo ((columnsOf world.row).attemptCount + 1) _ _ = _
              rw [attempts]
            · rw [← attempts]
              rfl
      | bundle bundle =>
          obtain ⟨video, result, ran⟩ :=
            executeHeld_bundle asrConfigured world passes answered
          rw [ran]
          refine ⟨_, _, rfl, ⟨counted.named, rfl, ?_, ?_⟩, by rw [answered], nofun⟩
          · show (settledColumns result _).status ≠ .processing
            cases result <;> nofun
          · intro unfinished
            cases result with
            | false =>
                rw [if_neg Bool.false_ne_true, List.length_append]
                exact congrArg (· + 1) attempts
            | true => exact absurd rfl unfinished

theorem Counted.reset (counted : Counted world) :
    Counted (resetFetch world) := by
  rcases world with ⟨_ | row, video, since⟩
  · exact counted
  · by_cases failed : resettable row = true
    · have reset : resetFetch ⟨some row, video, since⟩ =
          ⟨some (resetStage row), resetVideo video, []⟩ := by
        simp [resetFetch, failed]
      rw [reset]
      unfold resetStage
      rw [if_pos failed]
      exact ⟨counted.named, rfl, nofun, fun _ => rfl⟩
    · have kept : resetFetch ⟨some row, video, since⟩ = ⟨some row, resetVideo video, since⟩ := by
        simp [resetFetch, resetStage, failed]
      rw [kept]
      exact counted

theorem Counted.step (counted : Counted world) (asrConfigured : Bool) (event : FetchEvent) :
    Counted (stepFetch asrConfigured world event) := by
  cases event with
  | resetFailedStages => exact counted.reset
  | execute run =>
      rcases counted.execute asrConfigured run with
        ⟨_, done⟩ | ⟨_, next, result, done, countedNext, _⟩
      · simp only [stepFetch, done]
        exact counted
      · simp only [stepFetch, done]
        exact countedNext

theorem Counted.counts_iff_unspent (counted : Counted world) (asrConfigured : Bool)
    (run : Execution) :
    CountsFailures asrConfigured world run ↔ BudgetUnspent world run := by
  rcases counted.execute asrConfigured run with
    ⟨refused, done⟩ | ⟨admitted, next, result, done, _, since, failed⟩
  · constructor
    · intro _ admitted
      rw [refused] at admitted
      cases admitted
    · intro _ next result again
      rw [done] at again
      cases again
  · cases answered : run.fetch with
    | bundle bundle =>
        have final : run.fetch.retryable = false := by rw [answered, Fetch.retryable]
        constructor
        · intro _ _ retryable
          rw [final] at retryable
          cases retryable
        · intro _ _ _ _ retryable
          rw [final] at retryable
          cases retryable
    | raised error =>
        obtain ⟨rfl, video, status⟩ := failed error answered
        have failures : next.failures = world.failures + 1 := by
          simp [FetchWorld.failures, since, answered, Fetch.failed, List.countP_append]
        have retries : run.fetch.retryable = error.retryable := by rw [answered, Fetch.retryable]
        constructor
        · intro counts _ retryable
          by_cases spent : 2 ≤ world.since.length
          · have reviewed := counts next false done retryable
              (by rw [status, ← retries, retryable]; simp; omega)
              (by rw [video, failedVideo, ← retries, retryable]; simp; omega)
            right
            omega
          · left
            omega
        · intro unspent _ _ again retryable review _
          rw [done] at again
          cases again
          rcases unspent admitted retryable with early | failed
          · rw [status, ← retries, retryable] at review
            rw [if_pos (by simp; omega)] at review
            cases review
          · omega

/-! ## Every history -/

theorem everyExecution_congr {First Second : FetchWorld → Execution → Prop}
    (same : ∀ world, Counted world → ∀ run, First world run ↔ Second world run)
    (counted : Counted world) (history : List FetchEvent) :
    EveryExecution asrConfigured First world history ↔
      EveryExecution asrConfigured Second world history := by
  induction history generalizing world with
  | nil => exact Iff.rfl
  | cons event rest rests =>
      have onward := rests (counted.step asrConfigured event)
      cases event with
      | execute run => exact and_congr (same world counted run) onward
      | resetFailedStages => exact onward

/-- Over every history of a video, every retryable error that puts it under review comes after three
failures exactly when no execution spends the budget without failing. -/
theorem countsFailures_iff (asrConfigured : Bool) (video : FetchedVideo)
    (history : List FetchEvent) :
    EveryExecution asrConfigured (CountsFailures asrConfigured) (.fresh video) history ↔
      EveryExecution asrConfigured BudgetUnspent (.fresh video) history :=
  everyExecution_congr (fun _ counted => counted.counts_iff_unspent asrConfigured)
    (.fresh video) history

/-- A video without its source. -/
def newVideo : FetchedVideo where
  status := .discovered
  durationSeconds := 0
  rawSubtitlePath := none
  transcriptPath := none
  subtitleCheckCount := 0
  subtitleFirstCheckedAt := none
  subtitleNextCheckAt := none
  errorCode := none
  errorMessage := none

/-- An execution, some hours after the first. -/
def executeAfter (elapsed : Nat) (fetch : Fetch) : FetchEvent :=
  .execute {
    now := hours elapsed
    worker := "worker-1"
    named := by decide
    fetch := fetch
    acquired := false
    acquire := id }

/-- Two checks find no subtitle yet, and the first failure puts the video under review. -/
def checkedTwice : List FetchEvent :=
  [executeAfter 0 (.bundle ⟨600, none⟩),
   executeAfter 1 (.bundle ⟨600, none⟩),
   executeAfter 2 (.raised ⟨"upstream_timeout", "B 站只读桥超时", true⟩)]

theorem checkedTwice_reviews :
    (runFetch false (.fresh newVideo) checkedTwice).failures = 1 ∧
      (columnsOf (runFetch false (.fresh newVideo) checkedTwice).row).status = .needsReview ∧
      (runFetch false (.fresh newVideo) checkedTwice).video.status = .needsReview ∧
      ¬ EveryExecution false (CountsFailures false) (.fresh newVideo) checkedTwice := by
  refine ⟨by decide, by decide, by decide, fun counts => ?_⟩
  have third := counts.2.2.1 _ _ rfl rfl (by decide) (by decide)
  revert third
  decide

end Shiliu.Pipeline
