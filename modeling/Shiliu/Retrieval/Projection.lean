/-
Module: Shiliu.Retrieval.Projection
Purpose: The projection of a collection into retrieval units: the queue of projection tasks that
  every formal change feeds, and the worker that claims a task, takes a snapshot of the video,
  builds its units and publishes them under a fenced lease. What a video holds and how its units
  are built are parameters, as are the tokenizer and the fingerprint.
Trusted boundary: the name of a unit says which video it belongs to
Main exports: ProjectionTask, ProjectionRules, ProjectionDatabase, touch, build, publish, fail
-/
import Shiliu.Library.Table
import Shiliu.Library.Outcome
import Shiliu.Library.Transition
import Shiliu.Storage.Basic
import Mathlib.Logic.Function.Basic
import Mathlib.Data.Prod.Lex

set_option linter.all false

namespace Shiliu.Retrieval

open Shiliu.Library Shiliu.Storage

/-! ## Rows -/

inductive TaskStatus where
  | queued
  | running
  | retryWait
  | completed
  | failed
deriving DecidableEq

/-- The keys a task's payload may have. -/
structure Payload where
  videoId : Nat
  reason : String
  targetProfile : Option String := none
  absent : Bool := false
  readyGeneration : Option Nat := none
  lexicalProfile : Option String := none
  readyProfile : Option String := none
deriving DecidableEq

/-- A row of `retrieval_projection_tasks` with the domain `collection`; its resource key is the
video's id. Rows are not deleted, so the id and the resource key name the same row. -/
structure ProjectionTask where
  id : Nat
  resourceKey : Nat
  requestedGeneration : Nat
  payload : Payload
  status : TaskStatus
  attempt : Nat
  notBefore : Instant
  leaseOwner : Option String
  leaseEpoch : Nat
  leaseUntil : Option Instant
  lastError : Option String

/-- `SearchUnit`; `content` stands for the columns and the folders that are only copied. -/
structure SearchUnit (Content : Type) where
  unitId : String
  videoId : Nat
  searchText : String
  content : Content

/-- A row of `retrieval_units`. -/
structure StoredUnit (Content : Type) extends SearchUnit Content where
  generation : Nat
  tokenizedText : String

/-- The primary key. -/
def StoredUnit.key {Content : Type} (row : StoredUnit Content) : String := row.unitId

abbrev UnitTable (Content : Type) := Table (@StoredUnit.key Content)

/-- A row of `retrieval_sync_state`. -/
structure SyncState where
  videoId : Nat
  desiredState : String
  denseState : String
  lastTrigger : String
  lastAttemptAt : Instant
  lastSuccessAt : Instant
  lastErrorStage : Option String
  lastErrorMessage : Option String

variable {Video Content : Type}

/-- What the worker takes from the rest of the program: whether a video is visible, the units of a
video, the hash of a snapshot, and the tokenizer. -/
structure ProjectionRules (Video Content : Type) where
  visible : Video → Bool
  buildVideoUnits : Nat → Video → List (SearchUnit Content)
  fingerprint : Option Video → String
  document : String → String
  tokenizerProfile : String
  /-- The video a unit's id is made from. -/
  videoOf : String → Nat
  named : ∀ videoId video, ∀ unit ∈ buildVideoUnits videoId video,
    unit.videoId = videoId ∧ videoOf unit.unitId = videoId

/-- The committed tables; `videos` is what `_state` reads of each video. -/
structure ProjectionDatabase (Video Content : Type) where
  clock : Instant
  videos : Nat → Option Video
  nextTaskId : Nat
  tasks : Table ProjectionTask.resourceKey
  units : UnitTable Content
  syncStates : Table SyncState.videoId

/-! ## Formal changes -/

/-- The `DO UPDATE` of `_touch`: a new request. The lease is left as it is. -/
def requestAgain (now : Instant) (payload : Payload) : Change ProjectionTask.resourceKey where
  apply task :=
    { task with
      requestedGeneration := task.requestedGeneration + 1
      payload := payload
      status := .queued
      attempt := 0
      notBefore := now
      lastError := none }
  keeps _ := rfl

def firstRequest (id : Nat) (now : Instant) (payload : Payload) : ProjectionTask :=
  { id := id
    resourceKey := payload.videoId
    requestedGeneration := 1
    payload := payload
    status := .queued
    attempt := 0
    notBefore := now
    leaseOwner := none
    leaseEpoch := 0
    leaseUntil := none
    lastError := none }

namespace ProjectionDatabase

/-- `_touch`, as far as it goes to the projection. -/
def touch (database : ProjectionDatabase Video Content) (videoId : Nat) (reason : String) :
    Except Failure (ProjectionDatabase Video Content) := do
  ensure (database.videos videoId).isSome .keyError
  let payload : Payload := { videoId := videoId, reason := reason }
  pure { database with
    nextTaskId := database.nextTaskId + 1
    tasks := database.tasks.upsert (firstRequest database.nextTaskId database.clock payload)
      (requestAgain database.clock payload) }

/-- A transaction that changes what is recorded of a video, and touches it. -/
def changeVideo (database : ProjectionDatabase Video Content) (videoId : Nat) (video : Video)
    (reason : String) : Except Failure (ProjectionDatabase Video Content) :=
  touch { database with videos := Function.update database.videos videoId (some video) }
    videoId reason

def markAbsent : Change ProjectionTask.resourceKey where
  apply task := { task with payload := { task.payload with absent := true } }
  keeps _ := rfl

/-- `RetrievalService.delete_video`. -/
def deleteVideo (database : ProjectionDatabase Video Content) (videoId : Nat) :
    Except Failure (ProjectionDatabase Video Content) := do
  let touched ← database.touch videoId "index_remove"
  pure { touched with
    tasks := touched.tasks.modify videoId markAbsent
    units := touched.units.deleteWhere fun row => row.videoId = videoId }

end ProjectionDatabase

/-! ## The worker's transactions -/

/-- What a `ProjectionWorker` is made with; `dense` is the profile of its dense index. -/
structure ProjectionWorker where
  owner : String
  dense : Option String
  leaseSeconds : Nat
  lease_positive : 0 < leaseSeconds
  lease_bounded : leaseSeconds ≤ 600

/-- `attempt>=5` ends the retries. -/
def afterFailure (attempt : Nat) : TaskStatus :=
  if 5 ≤ attempt then .failed else .retryWait

def interrupted (now : Instant) : Change ProjectionTask.resourceKey where
  apply task :=
    { task with
      status := afterFailure task.attempt
      notBefore := now + microsPerSecond
      leaseOwner := none
      leaseUntil := none
      lastError := some "local_projection_interrupted" }
  keeps _ := rfl

/-- `lease_until<=clock_timestamp()`; NULL compares to nothing. -/
def ProjectionTask.expired (task : ProjectionTask) (now : Instant) : Bool :=
  match task.leaseUntil with
  | some expiry => expiry ≤ now
  | none => false

/-- `lease_until>clock_timestamp()`. -/
def ProjectionTask.live (task : ProjectionTask) (now : Instant) : Bool :=
  match task.leaseUntil with
  | some expiry => now < expiry
  | none => false

namespace ProjectionDatabase

/-- `recover`; `locked` are the rows other transactions hold, which `SKIP LOCKED` passes over. -/
def recover (database : ProjectionDatabase Video Content) (locked : Nat → Bool) :
    ProjectionDatabase Video Content :=
  { database with
    tasks := database.tasks.updateWhere
      (fun task => task.status = .running ∧ task.expired database.clock ∧ ¬locked task.id)
      (interrupted database.clock) }

/-- The `WHERE` of `claim`. -/
def Claimable (database : ProjectionDatabase Video Content) (worker : ProjectionWorker)
    (locked : Nat → Bool) (videoId : Option Nat) (task : ProjectionTask) : Prop :=
  (task.status = .queued ∨ task.status = .retryWait) ∧ task.attempt < 5 ∧
    task.notBefore ≤ database.clock ∧ (videoId = none ∨ videoId = some task.resourceKey) ∧
      (worker.dense = none ∨ task.payload.targetProfile = none ∨
        task.payload.targetProfile = worker.dense) ∧ ¬locked task.id

instance (database : ProjectionDatabase Video Content) (worker : ProjectionWorker)
    (locked : Nat → Bool) (videoId : Option Nat) (task : ProjectionTask) :
    Decidable (database.Claimable worker locked videoId task) :=
  inferInstanceAs (Decidable (_ ∧ _))

/-- The row as `claim` returns it. -/
def grantedTo (worker : ProjectionWorker) (now : Instant) (task : ProjectionTask) :
    ProjectionTask :=
  { task with
    status := .running
    payload := match worker.dense with
      | some profile => { task.payload with targetProfile := some profile }
      | none => task.payload
    attempt := task.attempt + 1
    leaseOwner := some worker.owner
    leaseEpoch := task.leaseEpoch + 1
    leaseUntil := some (now + worker.leaseSeconds * microsPerSecond) }

/-- `claim`, after its `recover`: the first row that is due, `ORDER BY not_before,id`. -/
def claim (database : ProjectionDatabase Video Content) (worker : ProjectionWorker)
    (locked : Nat → Bool) (videoId : Option Nat) :
    Option (ProjectionDatabase Video Content × ProjectionTask) :=
  let due := database.tasks.rows.filter fun task =>
    database.Claimable worker locked videoId task
  let ordered := due.mergeSort fun first second =>
    toLex (first.notBefore, first.id) ≤ toLex (second.notBefore, second.id)
  ordered.head?.map fun task =>
    let granted := grantedTo worker database.clock task
    ({ database with tasks := database.tasks.put granted }, granted)

/-- The row is still the one the claim was granted on. -/
def Matches (task claim : ProjectionTask) (worker : ProjectionWorker) : Prop :=
  task.status = .running ∧ task.leaseOwner = some worker.owner ∧
    task.leaseEpoch = claim.leaseEpoch ∧
      task.requestedGeneration = claim.requestedGeneration ∧ task.payload = claim.payload

instance (task claim : ProjectionTask) (worker : ProjectionWorker) :
    Decidable (Matches task claim worker) :=
  inferInstanceAs (Decidable (_ ∧ _))

def requestChanged : Failure := .coordinationConflict "projection_request_changed"

/-- `_lock_claim`. -/
def lockClaim (database : ProjectionDatabase Video Content) (worker : ProjectionWorker)
    (claim : ProjectionTask) : Except Failure ProjectionTask :=
  match database.tasks.lookup claim.resourceKey with
  | none => .error requestChanged
  | some task => do
      ensure (Matches task claim worker) requestChanged
      ensure (task.live database.clock) (.coordinationConflict "projection_lease_fenced")
      pure task

def renewed (expiry : Instant) : Change ProjectionTask.resourceKey where
  apply task := { task with leaseUntil := some expiry }
  keeps _ := rfl

def heartbeat (database : ProjectionDatabase Video Content) (worker : ProjectionWorker)
    (claim : ProjectionTask) : Except Failure (ProjectionDatabase Video Content) := do
  let _ ← database.lockClaim worker claim
  pure { database with
    tasks := database.tasks.modify claim.resourceKey
      (renewed (database.clock + worker.leaseSeconds * microsPerSecond)) }

/-- `snapshot`: the check is the one of `_lock_claim`, in a transaction that only reads. -/
def takeSnapshot (database : ProjectionDatabase Video Content) (worker : ProjectionWorker)
    (claim : ProjectionTask) : Except Failure (Option Video) :=
  match database.tasks.lookup claim.resourceKey with
  | none => .error requestChanged
  | some task => do
      ensure (Matches task claim worker ∧ task.live database.clock) requestChanged
      pure (database.videos claim.resourceKey)

end ProjectionDatabase

/-! ## Building and publishing -/

namespace ProjectionRules

variable (rules : ProjectionRules Video Content)

/-- The units of `build`. -/
def build (videoId : Nat) (snapshot : Option Video) (payload : Payload) :
    List (SearchUnit Content) :=
  match snapshot with
  | some video =>
      if rules.visible video ∧ ¬payload.absent then rules.buildVideoUnits videoId video else []
  | none => []

/-- `tokens[unit_id]` of `build`: a dict keeps the last value of a key. -/
def tokens (units : List (SearchUnit Content)) (unitId : String) : String :=
  match units.reverse.find? fun unit => unit.unitId = unitId with
  | some unit => rules.document unit.searchText
  | none => ""

/-- The row a unit is stored as. -/
def stored (units : List (SearchUnit Content)) (generation : Nat) (unit : SearchUnit Content) :
    StoredUnit Content :=
  { unit with
    generation := generation
    tokenizedText := rules.tokens units unit.unitId }

end ProjectionRules

/-- `DO UPDATE SET` every column but the unit's id. -/
def storeOver (row : StoredUnit Content) : Change (@StoredUnit.key Content) where
  apply old := { row with unitId := old.unitId }
  keeps _ := rfl

/-- `ON CONFLICT(video_id) DO UPDATE` of the synchronisation state. -/
def setSyncState (row : SyncState) : Change SyncState.videoId where
  apply old := { row with videoId := old.videoId }
  keeps _ := rfl

namespace ProjectionDatabase

/-- `_publish_units`. -/
def publishUnits (rules : ProjectionRules Video Content)
    (database : ProjectionDatabase Video Content) (units : List (SearchUnit Content))
    (generation videoId : Nat) : UnitTable Content :=
  let ids := units.map SearchUnit.unitId
  let kept := database.units.deleteWhere fun row => row.videoId = videoId ∧ row.unitId ∉ ids
  (units.mergeSort fun first second => first.unitId ≤ second.unitId).foldl
    (fun table unit =>
      let row := rules.stored units generation unit
      table.upsert row (storeOver row))
    kept

/-- The update of a task by its claim's publication. -/
def published (task : ProjectionTask) : Change ProjectionTask.resourceKey where
  apply old :=
    { old with
      status := task.status
      payload := task.payload
      leaseOwner := none
      leaseUntil := none
      lastError := task.lastError
      notBefore := task.notBefore }
  keeps _ := rfl

/-- `publish`. The vectors are there if the encoding of the units returned; `error` is the name of
what it raised. -/
def publish (rules : ProjectionRules Video Content) (database : ProjectionDatabase Video Content)
    (worker : ProjectionWorker) (claim : ProjectionTask) (snapshot : Option Video)
    (units : List (SearchUnit Content)) (vectors : Bool) (error : Option String) :
    Except Failure (ProjectionDatabase Video Content) := do
  let videoId := claim.resourceKey
  ensure (database.videos videoId).isSome .keyError
  let task ← database.lockClaim worker claim
  ensure (rules.fingerprint (database.videos videoId) = rules.fingerprint snapshot)
    (.coordinationConflict "projection_source_changed")
  ensure (vectors = false ∨ task.payload.targetProfile = worker.dense)
    (.coordinationConflict "projection_profile_changed")
  let complete : Bool := units.isEmpty ∨ vectors
  let failure := if complete then none else some (error.getD "model_unavailable")
  let payload : Payload :=
    { task.payload with
      readyGeneration := some claim.requestedGeneration
      lexicalProfile := some rules.tokenizerProfile
      readyProfile := if vectors then worker.dense else task.payload.readyProfile }
  pure { database with
    units := publishUnits rules database units claim.requestedGeneration videoId
    tasks := database.tasks.modify videoId (published { task with
      status := if complete then .completed else afterFailure claim.attempt
      payload := payload
      lastError := failure
      notBefore := database.clock + min 300 (2 ^ claim.attempt) * microsPerSecond })
    syncStates :=
      let row : SyncState :=
        { videoId := videoId
          desiredState := if units.isEmpty then "absent" else "indexed"
          denseState := if complete then "current" else "partial"
          lastTrigger := payload.reason
          lastAttemptAt := database.clock
          lastSuccessAt := database.clock
          lastErrorStage := if complete then none else some "dense"
          lastErrorMessage := failure }
      database.syncStates.upsert row (setSyncState row) }

def failedWith (now : Instant) (error : String) : Change ProjectionTask.resourceKey where
  apply task :=
    { task with
      status := afterFailure task.attempt
      lastError := some error
      notBefore := now + min 300 (2 ^ task.attempt) * microsPerSecond
      leaseOwner := none
      leaseUntil := none }
  keeps _ := rfl

/-- `fail`. -/
def fail (database : ProjectionDatabase Video Content) (worker : ProjectionWorker)
    (claim : ProjectionTask) (error : String) :
    Except Failure (ProjectionDatabase Video Content) := do
  let _ ← database.lockClaim worker claim
  pure { database with
    tasks := database.tasks.modify claim.resourceKey (failedWith database.clock error) }

end ProjectionDatabase

/-! ## Any number of workers -/

/-- Where `run_one` of a worker has got to. -/
inductive WorkerPhase (Video : Type) where
  | idle
  | claimed (claim : ProjectionTask)
  | snapshotted (claim : ProjectionTask) (snapshot : Option Video)

def WorkerPhase.claim : WorkerPhase Video → Option ProjectionTask
  | .idle => none
  | .claimed claim => some claim
  | .snapshotted claim _ => some claim

/-- The database, the workers, and the claims that were granted. -/
structure ProjectionWorld (Video Content : Type) where
  database : ProjectionDatabase Video Content
  phases : Nat → WorkerPhase Video
  granted : List ProjectionTask

inductive ProjectionAction (Video : Type) where
  | tick (elapsed : Nat)
  | changeVideo (videoId : Nat) (video : Video) (reason : String)
  | request (videoId : Nat) (reason : String)
  | deleteVideo (videoId : Nat)
  | recover (locked : Nat → Bool)
  | claim (worker : Nat) (locked : Nat → Bool) (videoId : Option Nat)
  | heartbeat (worker : Nat)
  | snapshot (worker : Nat)
  /-- Build, encode and publish; `encoding` is the name of what the encoding raised, if it did. -/
  | publish (worker : Nat) (encoding : Option String)
  | fail (worker : Nat) (error : String)
  | crash (worker : Nat)

namespace ProjectionWorld

def setPhase (world : ProjectionWorld Video Content) (worker : Nat) (phase : WorkerPhase Video) :
    ProjectionWorld Video Content :=
  { world with phases := Function.update world.phases worker phase }

/-- A transaction that returned is committed, one that raised leaves no trace. -/
def commit (world : ProjectionWorld Video Content)
    (outcome : Except Failure (ProjectionDatabase Video Content)) :
    ProjectionWorld Video Content :=
  match outcome with
  | .ok database => { world with database := database }
  | .error _ => world

/-- The publication of what is built from a snapshot. -/
def publishSnapshot (rules : ProjectionRules Video Content)
    (database : ProjectionDatabase Video Content) (worker : ProjectionWorker)
    (claim : ProjectionTask) (snapshot : Option Video) (encoding : Option String) :
    Except Failure (ProjectionDatabase Video Content) :=
  let units := rules.build claim.resourceKey snapshot claim.payload
  -- Without a dense index, or without units, nothing is encoded.
  let encodes : Bool := worker.dense.isSome ∧ ¬units.isEmpty
  database.publish rules worker claim snapshot units (encodes && encoding.isNone)
    (if encodes then encoding else none)

end ProjectionWorld

open ProjectionWorld in
/-- The world after an action. The workers' settings stay what they are. -/
def projectionStep (rules : ProjectionRules Video Content) (workers : Nat → ProjectionWorker)
    (world : ProjectionWorld Video Content) :
    ProjectionAction Video → ProjectionWorld Video Content
  | .tick elapsed =>
      { world with database := { world.database with clock := world.database.clock + elapsed } }
  | .changeVideo videoId video reason =>
      world.commit (world.database.changeVideo videoId video reason)
  | .request videoId reason => world.commit (world.database.touch videoId reason)
  | .deleteVideo videoId => world.commit (world.database.deleteVideo videoId)
  | .recover locked => { world with database := world.database.recover locked }
  | .claim worker locked videoId =>
      match world.phases worker with
      | .idle =>
          match world.database.claim (workers worker) locked videoId with
          | none => world
          | some (database, claim) =>
              { world.setPhase worker (.claimed claim) with
                database := database
                granted := world.granted ++ [claim] }
      | _ => world
  | .heartbeat worker =>
      match (world.phases worker).claim with
      | some claim => world.commit (world.database.heartbeat (workers worker) claim)
      | none => world
  | .snapshot worker =>
      match world.phases worker with
      | .claimed claim =>
          match world.database.takeSnapshot (workers worker) claim with
          | .ok snapshot => world.setPhase worker (.snapshotted claim snapshot)
          | .error _ => world.setPhase worker .idle
      | _ => world
  | .publish worker encoding =>
      match world.phases worker with
      | .snapshotted claim snapshot =>
          match publishSnapshot rules world.database (workers worker) claim snapshot encoding with
          | .ok database => { world.setPhase worker .idle with database := database }
          | .error (.coordinationConflict _) => world.setPhase worker .idle
          -- `run_one` goes on to `fail`.
          | .error _ => world
      | _ => world
  | .fail worker error =>
      match (world.phases worker).claim with
      | some claim =>
          (world.commit (world.database.fail (workers worker) claim error)).setPhase worker .idle
      | none => world
  | .crash worker => world.setPhase worker .idle

end Shiliu.Retrieval
