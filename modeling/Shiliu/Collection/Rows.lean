/-
Module: Shiliu.Collection.Rows
Purpose: The leased rows of the collection database: a favourite source, a speech-recognition
  job, a pipeline stage. The three tables share the lease columns (`lease_owner`, `lease_until`,
  `lease_epoch`); their other columns are the ones the operations read or write.
Trusted boundary: none
Main exports: LeaseTable, Columns, LeasedRow, Claim
-/
import Shiliu.Library.FencedLease
import Shiliu.Storage.Basic

namespace Shiliu.Collection

open Shiliu.Library
open Shiliu.Storage

/-- `favorite_sources.status`. -/
inductive SourceStatus where
  | active
  | paused
  | needsAuth
  | unavailable
  | cooldown
deriving DecidableEq

/-- `favorite_sources.history_policy`. -/
inductive HistoryPolicy where
  | futureOnly
  | latestN
  | all
deriving DecidableEq

/-- The columns of `favorite_sources` besides its id and lease. -/
structure FavoriteSourceColumns where
  folderId : Nat
  folderTitle : String
  accountId : Option Nat
  accountName : String
  originalUrl : String
  mediaCount : Int
  status : SourceStatus
  historyPolicy : HistoryPolicy
  historyLimit : Option Int
  baselineInitialized : Bool
  cooldownUntil : Option Instant
  lastSyncAt : Option Instant
  lastErrorCode : Option String
  lastErrorMessage : Option String
  sortOrder : Int
  historyCutoffTime : Option Int
  discoveryComplete : Bool
  lastSnapshotComplete : Bool
  historyUpdatedAt : Option Instant

/-- `ASRJobStatus`. -/
inductive ASRJobStatus where
  | pending
  | audioDownloading
  | uploading
  | submitted
  | processing
  | retryWait
  | completed
  | needsReview
deriving DecidableEq

/-- `ASRTriggerMode`. -/
inductive ASRTriggerMode where
  | automatic
  | manual
deriving DecidableEq

/-- The columns of `asr_jobs` besides its id and lease. -/
structure ASRJobColumns where
  provider : String
  model : String
  triggerMode : ASRTriggerMode
  status : ASRJobStatus
  taskId : Option String
  remoteFileUrl : Option String
  resultUrl : Option String
  audioPath : Option String
  attemptCount : Nat
  nextRetryAt : Option Instant
  lastErrorCode : Option String
  lastErrorMessage : Option String
  submittedAt : Option Instant
  completedAt : Option Instant

/-- `StageStatus`. -/
inductive StageStatus where
  | pending
  | processing
  | retryWait
  | completed
  | needsReview
deriving DecidableEq

/-- `StageName`. -/
inductive StageName where
  | sourceFetch
  | transcript
  | summary
  | refinedTranscript
  | refinementReview
deriving DecidableEq

/-- The columns of `pipeline_stages` the lease operations and the reset read or write. -/
structure PipelineStageColumns where
  stageName : StageName
  status : StageStatus
  attemptCount : Nat
  nextRetryAt : Option Instant
  lastErrorCode : Option String

/-- The tables `check_lease` accepts. -/
inductive LeaseTable where
  | favoriteSources
  | asrJobs
  | pipelineStages
deriving DecidableEq

/-- The columns of a leased table besides id and lease. -/
def Columns : LeaseTable → Type
  | .favoriteSources => FavoriteSourceColumns
  | .asrJobs => ASRJobColumns
  | .pipelineStages => PipelineStageColumns

/-- One row of a leased table. -/
structure LeasedRow (table : LeaseTable) where
  id : Nat
  columns : Columns table
  lease : Lease String

/-- What `_claim` returns to the new holder, as far as the guards read it. -/
structure Claim where
  id : Nat
  leaseOwner : String
  leaseEpoch : Nat

/-- The owner and epoch a claim presents. -/
def Claim.token (claim : Claim) : Token String :=
  ⟨claim.leaseOwner, claim.leaseEpoch⟩

@[simp] theorem Claim.token_owner (claim : Claim) : claim.token.owner = claim.leaseOwner := rfl

@[simp] theorem Claim.token_epoch (claim : Claim) : claim.token.epoch = claim.leaseEpoch := rfl

theorem Claim.eq_of_token {first second : Claim} (sameId : first.id = second.id)
    (sameToken : first.token = second.token) : first = second := by
  cases first
  cases second
  simp_all [Claim.token]

end Shiliu.Collection
