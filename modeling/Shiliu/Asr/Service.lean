/-
Module: Shiliu.Asr.Service
Purpose: `ASRService.acquire` as a program whose steps are its transactions and its external
  calls, run by any number of workers on the one `asr_jobs` row of a video. A worker is a program
  counter with the locals it carries; a worker that crashes is one that is never scheduled again,
  a delayed one is scheduled late. What the provider, the adapter, the file system and the timer
  answer is part of the action, so every list of actions is one interleaving.
Trusted boundary: none
Main exports: Pc, Worker, World, Answer, Action, advance, stepWorld
-/
import Mathlib.Logic.Function.Basic
import Shiliu.Collection.Leases

set_option linter.all false

namespace Shiliu.Asr

open Shiliu.Library
open Shiliu.Storage
open Shiliu.Collection

abbrev JobRow := LeasedRow .asrJobs

/-- The columns of the job row, under their own type. -/
def columnsOf (row : JobRow) : ASRJobColumns := row.columns

@[simp] theorem columnsOf_mk (id : Nat) (columns : ASRJobColumns) (lease : Lease String) :
    columnsOf ⟨id, columns, lease⟩ = columns := rfl

/-- `PipelineError`. -/
structure PipelineError where
  code : String
  message : String
  retryable : Bool
deriving DecidableEq

/-- How an external call ends. Any exception that is not a `PipelineError` leaves `acquire`
through `finally` alone. -/
inductive Reply where
  | returned (text : String)
  | raised (error : PipelineError)
  | aborted
deriving DecidableEq

/-- What `provider.query` returns: `("completed", url)` with a non-empty url, or `processing`. -/
inductive QueryReply where
  | completed (resultUrl : String)
  | processing
  | raised (error : PipelineError)
  | aborted

/-- What the file system says about the stored audio. -/
structure AudioFiles where
  /-- The resolved stored path, when it lies under the isolated content root. -/
  insideRoot : Option String
  /-- The managed file an `artifact:` reference resolves to. -/
  managed : Option String
  /-- `temp_dir / "asr-input.m4a"`. -/
  scratch : String
  isFile : Bool

/-- Everything the environment may have to answer in one step of one worker. -/
structure Answer where
  reply : Reply
  queryReply : QueryReply
  files : AudioFiles
  segmentsEmpty : Bool
  /-- The version id of the subtitle text the batch stores; `aborted` replies stop the batch. -/
  artifactVersion : String
  deadlinePassed : Bool

/-- The locals of `_acquire_claimed`: the claim, the `video` and `job` dictionaries as last read
or updated, and the audio path chosen. -/
structure Session where
  held : Claim
  inputRaw : Option String
  job : ASRJobColumns
  audioPath : String

/-- The next transaction or external call of a worker. -/
inductive Pc where
  /-- `acquire`: `get_video`. -/
  | start
  /-- `acquire`: `ensure_asr_job`, and the tests on the row it read. -/
  | ensuring (raw : Option String)
  /-- `acquire`: the `update_asr_job` without a claim. -/
  | reset
  | claiming
  /-- `_acquire_claimed`: `get_video`. -/
  | claimed (held : Claim)
  /-- `_acquire_claimed`: `ensure_asr_job`. -/
  | reading (held : Claim) (raw : Option String)
  /-- The claimed `update_asr_job` that reopens a reviewed job. -/
  | reopening (session : Session)
  /-- The claimed `update_asr_job` of `trigger_mode`. -/
  | retriggering (session : Session)
  /-- The file checks, and the `audio_downloading` mark when there is something to download. -/
  | preparing (session : Session)
  | downloading (session : Session)
  | markingUpload (session : Session)
  | uploading (session : Session)
  | storingUrl (session : Session) (url : String)
  /-- The write-ahead `submitted` mark. -/
  | dispatching (session : Session)
  /-- The mark is committed; `provider.submit` is the next thing the worker does. -/
  | submitting (session : Session)
  /-- `provider.submit` has been started. -/
  | awaiting (session : Session)
  | storingTask (session : Session) (taskId : String)
  | polling (session : Session)
  | completing (session : Session) (resultUrl : String)
  | markingProcessing (session : Session)
  | announcing (session : Session)
  /-- `_record_failure`: `get_asr_job`. -/
  | failing (session : Session) (error : PipelineError)
  /-- `_record_failure`: `update_asr_job`; `unknown` is the test made on the row just read. -/
  | recording (session : Session) (error : PipelineError) (unknown : Bool)
  /-- `_record_failure`: `update_video`. -/
  | notifying (session : Session)
  /-- `renewing_lease`: the `release` in `finally`. -/
  | releasing (held : Claim)
  | finished

/-- The claim a worker holds inside `renewing_lease`. -/
def Pc.held : Pc → Option Claim
  | .start | .ensuring _ | .reset | .claiming | .finished => none
  | .claimed held | .reading held _ | .releasing held => some held
  | .reopening session | .retriggering session | .preparing session | .downloading session
  | .markingUpload session | .uploading session | .storingUrl session _ | .dispatching session
  | .submitting session | .awaiting session | .storingTask session _ | .polling session
  | .completing session _ | .markingProcessing session | .announcing session
  | .failing session _ | .recording session _ _ | .notifying session => some session.held

/-- One call of `acquire`. -/
structure Worker where
  owner : String
  provider : String
  model : String
  triggerMode : ASRTriggerMode
  pc : Pc

/-- The database as `acquire` sees it, the workers, and the submit calls started so far (newest
first). -/
structure World where
  now : Instant
  job : Option JobRow
  rawSubtitlePath : Option String
  workers : Nat → Worker
  submits : List Nat

/-- The row `ensure_asr_job` inserts when there is none. -/
def freshJob (worker : Worker) : JobRow :=
  { id := 0
    columns :=
      ({ provider := worker.provider
         model := worker.model
         triggerMode := worker.triggerMode
         status := .pending
         taskId := none
         remoteFileUrl := none
         resultUrl := none
         audioPath := none
         attemptCount := 0
         nextRetryAt := none
         lastErrorCode := none
         lastErrorMessage := none
         submittedAt := none
         completedAt := none } : ASRJobColumns)
    lease := { owner := none, expiry := none, epoch := 0 } }

/-- `Database.ensure_asr_job`. -/
def ensureASRJob (world : World) (worker : Worker) : JobRow :=
  world.job.getD (freshJob worker)

/-- The error codes `acquire` reads as "a submit may have reached the provider". -/
def unknownOutcome (code : Option String) : Bool :=
  code = some "external_result_unknown" ∨ code = some "asr_submit_unknown"

/-- `Database.update_asr_job` with a claim, or without one. -/
def updateASRJob (now : Instant) (row : JobRow) (held : Option Claim)
    (fields : ASRJobColumns → ASRJobColumns) : Except Failure (JobRow × Unit) :=
  guardedWrite now 0 row held (fields (columnsOf row) : ASRJobColumns)

/-- Minutes, in microseconds. -/
def minutes (count : Nat) : Nat := count * 60 * microsPerSecond

def leaseSeconds : Nat := 120 * microsPerSecond

/-- `acquire` after its `ensure_asr_job`. -/
def afterEnsure (worker : Worker) (raw : Option String) (job : ASRJobColumns) : Pc :=
  if job.status = .completed ∧ truthy raw then .finished
  else if job.status = .needsReview then
    if unknownOutcome job.lastErrorCode ∨ worker.triggerMode ≠ .manual then .finished
    else .reset
  else .claiming

/-- The fields both reopening updates set. -/
def reopenFields (job : ASRJobColumns) : ASRJobColumns :=
  { job with
    status := .pending
    attemptCount := 0
    nextRetryAt := none
    lastErrorCode := none
    lastErrorMessage := none }

/-- The tests of `_acquire_claimed` below the reopening. -/
def afterReopen (now : Instant) (worker : Worker) (session : Session) : Pc :=
  if session.job.status = .retryWait ∧ !isDue now session.job.nextRetryAt then
    .releasing session.held
  else if worker.triggerMode = .manual ∧ session.job.triggerMode ≠ .manual then
    .retriggering session
  else .preparing session

/-- `_acquire_claimed` after its `ensure_asr_job`. -/
def afterRead (now : Instant) (worker : Worker) (session : Session) : Pc :=
  if session.job.status = .completed ∧ truthy session.inputRaw then .releasing session.held
  else if session.job.status = .needsReview then
    if worker.triggerMode ≠ .manual then .releasing session.held else .reopening session
  else afterReopen now worker session

/-- The choice of the audio path, which may raise before anything is written. -/
def audioInput (job : ASRJobColumns) (files : AudioFiles) : Except PipelineError String :=
  let stored := job.audioPath.getD ""
  let immutable := "artifact:".isPrefixOf stored
  if stored ≠ "" ∧ !immutable then
    match files.insideRoot with
    | some candidate => .ok candidate
    | none =>
        if !truthy job.taskId then
          .error ⟨"asr_audio_root_mismatch", "音频输入未绑定当前隔离内容根", false⟩
        else .ok files.scratch
  else if immutable ∧ !truthy job.taskId then
    match files.managed with
    | some path => .ok path
    | none => .error ⟨"asr_audio_unavailable", "历史音频输入不可用", false⟩
  else .ok files.scratch

/-- Where the worker goes once the upload URL, if one is needed, is known. -/
def afterUpload (session : Session) : Pc :=
  if truthy session.job.taskId then .polling session else .dispatching session

/-- `ParaformerProvider.submit` refuses an answer without a task id. -/
def submitReply (session : Session) : Reply → Pc
  | .returned taskId =>
      if taskId = "" then
        .failing session ⟨"asr_submit_schema", "语音识别服务没有返回任务 ID", true⟩
      else .storingTask session taskId
  | .raised error => .failing session error
  | .aborted => .releasing session.held

/-- The fields `_record_failure` writes. -/
def failureFields (now : Instant) (session : Session) (error : PipelineError) (unknown : Bool)
    (job : ASRJobColumns) : ASRJobColumns :=
  let attempt := session.job.attemptCount + 1
  let final := !error.retryable || 3 ≤ attempt
  if unknown then
    { job with
      status := .needsReview
      attemptCount := attempt
      nextRetryAt := none
      lastErrorCode := some "asr_submit_unknown"
      lastErrorMessage := some error.message }
  else
    { job with
      status := if final then .needsReview else .retryWait
      attemptCount := attempt
      nextRetryAt := if final then none else some (now + minutes (if attempt = 1 then 10 else 30))
      lastErrorCode := some error.code
      lastErrorMessage := some error.message }

/-- The test of `_record_failure` on the row it reads. -/
def submitUnknown (job : ASRJobColumns) : Bool :=
  !truthy job.taskId ∧ job.status = .submitted

/-! ## One step of one worker -/

/-- Replace a worker's program counter. -/
def World.goto (world : World) (worker : Nat) (pc : Pc) : World :=
  { world with
    workers := Function.update world.workers worker { world.workers worker with pc := pc } }

/-- A claimed update of the job row: on success the worker goes on, a `CoordinationConflict`
leaves through `finally`. -/
def World.write (world : World) (worker : Nat) (row : JobRow) (session : Session)
    (fields : ASRJobColumns → ASRJobColumns) (onward : Pc) : World :=
  match updateASRJob world.now row (some session.held) fields with
  | .ok (written, _) => { world with job := some written }.goto worker onward
  | .error _ => world.goto worker (.releasing session.held)

/-- The next transaction or external call of `acquire`, on the job row `row`. -/
def advanceOn (world : World) (index : Nat) (answer : Answer) (row : JobRow) : World :=
  let worker := world.workers index
  match worker.pc with
  | .start => world.goto index (.ensuring world.rawSubtitlePath)
  | .ensuring raw => world.goto index (afterEnsure worker raw (columnsOf row))
  | .reset =>
      match updateASRJob world.now row none reopenFields with
      | .ok (written, _) => { world with job := some written }.goto index .claiming
      | .error _ => world.goto index .finished
  | .claiming =>
      match claim world.now row worker.owner leaseSeconds with
      | .ok (claimedRow, some held) =>
          { world with job := some claimedRow }.goto index (.claimed held)
      | .ok (claimedRow, none) => { world with job := some claimedRow }.goto index .finished
      | .error _ => world.goto index .finished
  | .claimed held => world.goto index (.reading held world.rawSubtitlePath)
  | .reading held raw =>
      let session : Session :=
        { held := held
          inputRaw := raw
          job := columnsOf row
          audioPath := answer.files.scratch }
      world.goto index (afterRead world.now worker session)
  | .reopening session =>
      let reopened : Session :=
        { session with
          job :=
            { session.job with
              triggerMode := .manual
              status := .pending
              attemptCount := 0
              nextRetryAt := none } }
      world.write index row session
        (fun job => { reopenFields job with triggerMode := .manual })
        (afterReopen world.now worker reopened)
  | .retriggering session =>
      world.write index row session (fun job => { job with triggerMode := worker.triggerMode })
        (.preparing
          { session with job := { session.job with triggerMode := worker.triggerMode } })
  | .preparing session =>
      match audioInput session.job answer.files with
      | .error error =>
          world.goto index (.failing { session with audioPath := answer.files.scratch } error)
      | .ok path =>
          let prepared := { session with audioPath := path }
          if !truthy session.job.taskId ∧ !truthy session.job.remoteFileUrl then
            if !answer.files.isFile then
              world.write index row prepared
                (fun job => { job with status := .audioDownloading, audioPath := some path })
                (.downloading prepared)
            else world.goto index (.markingUpload prepared)
          else world.goto index (afterUpload prepared)
  | .downloading session =>
      match answer.reply with
      | .returned _ => world.goto index (.markingUpload session)
      | .raised error => world.goto index (.failing session error)
      | .aborted => world.goto index (.releasing session.held)
  | .markingUpload session =>
      world.write index row session (fun job => { job with status := .uploading })
        (.uploading session)
  | .uploading session =>
      match answer.reply with
      | .returned url => world.goto index (.storingUrl session url)
      | .raised error => world.goto index (.failing session error)
      | .aborted => world.goto index (.releasing session.held)
  | .storingUrl session url =>
      world.write index row session (fun job => { job with remoteFileUrl := some url })
        (.dispatching { session with job := { session.job with remoteFileUrl := some url } })
  | .dispatching session =>
      world.write index row session
        (fun job =>
          { job with
            status := .submitted
            submittedAt := some world.now
            lastErrorCode := some "external_result_unknown" })
        (.submitting session)
  | .submitting session =>
      { world with submits := index :: world.submits }.goto index (.awaiting session)
  | .awaiting session => world.goto index (submitReply session answer.reply)
  | .storingTask session taskId =>
      world.write index row session
        (fun job =>
          { job with
            status := .submitted
            taskId := some taskId
            lastErrorCode := none
            submittedAt := some world.now })
        (.polling { session with job := { session.job with taskId := some taskId } })
  | .polling session =>
      match answer.queryReply with
      | .completed resultUrl =>
          if answer.segmentsEmpty then
            world.goto index
              (.failing session ⟨"asr_empty_result", "语音识别结果没有有效文本", true⟩)
          else world.goto index (.completing session resultUrl)
      | .processing => world.goto index (.markingProcessing session)
      | .raised error => world.goto index (.failing session error)
      | .aborted => world.goto index (.releasing session.held)
  | .completing session resultUrl =>
      -- validate and publish share one transaction
      if answer.reply = .aborted ∨ world.rawSubtitlePath ≠ session.inputRaw then
        world.goto index (.releasing session.held)
      else
        match updateASRJob world.now row (some session.held)
            (fun job =>
              { job with
                status := .completed
                resultUrl := some resultUrl
                completedAt := some world.now
                nextRetryAt := none
                lastErrorCode := none
                lastErrorMessage := none }) with
        | .ok (written, _) =>
            { world with
              job := some written
              rawSubtitlePath := some ("artifact:" ++ answer.artifactVersion) }.goto index
                (.releasing session.held)
        | .error _ => world.goto index (.releasing session.held)
  | .markingProcessing session =>
      world.write index row session (fun job => { job with status := .processing })
        (.announcing session)
  | .announcing session =>
      -- `update_video` behind the same guard; it writes no column `acquire` reads
      match checkLease world.now row session.held with
      | .ok _ =>
          world.goto index
            (if answer.deadlinePassed then .releasing session.held else .polling session)
      | .error _ => world.goto index (.releasing session.held)
  | .failing session error =>
      world.goto index (.recording session error (submitUnknown (columnsOf row)))
  | .recording session error unknown =>
      world.write index row session (failureFields world.now session error unknown)
        (.notifying session)
  | .notifying session => world.goto index (.releasing session.held)
  | .releasing held =>
      match release world.now row held with
      | .ok (released, _) => { world with job := some released }.goto index .finished
      | .error _ => world.goto index .finished
  | .finished => world

/-- One step of one worker. Only `ensure_asr_job` runs without a row, and inserts it. -/
def advance (world : World) (index : Nat) (answer : Answer) : World :=
  match world.job, (world.workers index).pc with
  | some row, _ => advanceOn world index answer row
  | none, .start => world.goto index (.ensuring world.rawSubtitlePath)
  | none, .ensuring _ =>
      let row := ensureASRJob world (world.workers index)
      advanceOn { world with job := some row } index answer row
  | none, _ => world

/-- The renewal thread of `renewing_lease`; a failed renewal ends it and changes nothing. -/
def renew (world : World) (index : Nat) : World :=
  match world.job, (world.workers index).pc.held with
  | some row, some held =>
      match heartbeat world.now row held leaseSeconds with
      | .ok (renewed, _) => { world with job := some renewed }
      | .error _ => world
  | _, _ => world

/-- One thing that happens. -/
inductive Action where
  | tick (elapsed : Nat)
  | advance (worker : Nat) (answer : Answer)
  | renew (worker : Nat)

def stepWorld (world : World) : Action → World
  | .tick elapsed => { world with now := world.now + elapsed }
  | .advance worker answer => advance world worker answer
  | .renew worker => renew world worker

/-- The calls of `acquire` that are made, by owner, provider, model and trigger mode. -/
structure Calls where
  owner : Nat → String
  provider : Nat → String
  model : Nat → String
  triggerMode : Nat → ASRTriggerMode

/-- Before any of the calls: whatever row there is, no submit has been started. -/
def World.start (calls : Calls) (now : Instant) (job : Option JobRow) (raw : Option String) :
    World :=
  { now := now
    job := job
    rawSubtitlePath := raw
    workers := fun index =>
      { owner := calls.owner index
        provider := calls.provider index
        model := calls.model index
        triggerMode := calls.triggerMode index
        pc := .start }
    submits := [] }

end Shiliu.Asr
