/-
Module: Shiliu.Collection.Store
Purpose: The collection database of one workspace: favourite sources, videos, and the memberships
  that say which source listed which video. The writes the public operations share (`create_video`,
  `_membership`, `_observe_video`) are functions of the store; each is an upsert or an update whose
  change names exactly the columns the statement sets.
Trusted boundary: none
Main exports: FavoriteItem, Video, SourceMembership, membership, observeVideo, videoHasActiveSource
-/
import Shiliu.Library.Table
import Shiliu.Collection.Rows

namespace Shiliu.Collection

open Shiliu.Library
open Shiliu.Storage

/-! ## Rows -/

/-- `FavoriteItem`, one item of a folder scan. -/
structure FavoriteItem where
  bvid : String
  title : String
  uploader : String
  durationSeconds : Int
  favoriteTime : Option Int
deriving DecidableEq

/-- `ProcessingProfile`. -/
inductive ProcessingProfile where
  | fast
  | formal
deriving DecidableEq

/-- `videos.active_revision`. -/
inductive ActiveRevision where
  | fast
  | refined

/-- `RefinementStatus`. -/
inductive RefinementStatus where
  | notRequired
  | pending
  | processing
  | completed
  | failed

/-- `ReadingState`. -/
inductive ReadingState where
  | unread
  | inProgress
  | read

/-- A row of `videos`. Its `bvid` is the column `source_id`, unique in the workspace. -/
structure Video where
  id : Nat
  bvid : String
  title : String
  uploader : String
  processingProfile : ProcessingProfile
  activeRevision : ActiveRevision
  refinementStatus : RefinementStatus
  displayFavoriteTime : Option Int
  durationSeconds : Int
  discoveredAt : Instant
  removedAt : Option Instant
  archivedAt : Option Instant
  readingState : ReadingState
  isIgnored : Bool
  ignoredAt : Option Instant
  isMarked : Bool
  markedAt : Option Instant

/-- A row of `video_source_memberships`. -/
structure SourceMembership where
  sourceId : Nat
  bvid : String
  membershipSeq : Nat
  videoId : Option Nat
  title : String
  uploader : String
  favoriteTime : Option Int
  sourcePosition : Nat
  isBaseline : Bool
  queuedHistory : Bool
  firstObservedAt : Instant
  lastObservedAt : Instant
  removedAt : Option Instant
deriving DecidableEq

/-- The primary key, `(source_id, bvid)`. -/
def SourceMembership.key (row : SourceMembership) : Nat × String := (row.sourceId, row.bvid)

/-- Nothing has removed the membership: `removed_at IS NULL`. -/
def SourceMembership.present (row : SourceMembership) : Bool := row.removedAt.isNone

/-- A row of `favorite_sources`. -/
abbrev FavoriteSource := LeasedRow .favoriteSources

def FavoriteSource.key (source : FavoriteSource) : Nat := source.id

/-- The columns besides id and lease, under their own names. -/
def FavoriteSource.fields (source : FavoriteSource) : FavoriteSourceColumns := source.columns

/-- A row of `video_notes`, as far as the library pages read it. -/
structure VideoNote where
  videoId : Nat
  ownerUserId : String
  content : String

/-- The collection tables of one workspace, with the counters its ids come from. -/
structure CollectionStore where
  sources : Table FavoriteSource.key
  videos : Table Video.bvid
  memberships : Table SourceMembership.key
  notes : List VideoNote
  sourceHighwater : Nat
  videoHighwater : Nat
  /-- `workspace_guards.membership_highwater`. -/
  membershipHighwater : Nat

/-- A workspace nothing has been added to. -/
def CollectionStore.empty : CollectionStore where
  sources := Table.empty _
  videos := Table.empty _
  memberships := Table.empty _
  notes := []
  sourceHighwater := 0
  videoHighwater := 0
  membershipHighwater := 0

/-! ## Queries -/

/-- `get_video`. -/
def CollectionStore.video (store : CollectionStore) (id : Nat) : Option Video :=
  store.videos.rows.find? fun video => video.id = id

/-- `get_video_by_source`. -/
def CollectionStore.videoBySource (store : CollectionStore) (bvid : String) : Option Video :=
  store.videos.lookup bvid

/-- The membership of a source that has a bvid. -/
def CollectionStore.member (store : CollectionStore) (sourceId : Nat) (bvid : String) :
    Option SourceMembership :=
  store.memberships.lookup (sourceId, bvid)

/-- A source exists and has `status='active'`. -/
def CollectionStore.sourceActive (store : CollectionStore) (sourceId : Nat) : Bool :=
  (store.sources.lookup sourceId).any fun source => source.fields.status = .active

/-- `video_has_active_source`, for all sources. -/
def CollectionStore.videoHasActiveSource (store : CollectionStore) (videoId : Nat) : Bool :=
  store.memberships.rows.any fun row =>
    row.videoId = some videoId ∧ row.present ∧ store.sourceActive row.sourceId

/-! ## Python values -/

/-- `favorite_time or epoch`: a missing time and the time 0 are both replaced. -/
def timeOr (time : Option Int) (epoch : Nat) : Int :=
  match time with
  | some time => if time = 0 then epoch else time
  | none => epoch

/-- `values[:stop]`. -/
def upTo {Value : Type*} (values : List Value) (stop : Int) : List Value :=
  if 0 ≤ stop then values.take stop.toNat else values.take (values.length - (-stop).toNat)

/-- What the clocks show while one item is written: the database clock and the clock of the
process, the latter in whole seconds. -/
structure ItemClock where
  created : Instant
  createdEpoch : Nat
  observed : Instant
  observedEpoch : Nat

/-! ## The writes the operations share -/

/-- The conflict branch of `create_video`. -/
def Video.createdAgain (title uploader : String) (displayFavoriteTime : Option Int)
    (durationSeconds : Int) : Change Video.bvid where
  apply video :=
    { video with
      title := title
      uploader := uploader
      removedAt := none
      displayFavoriteTime := displayFavoriteTime.or video.displayFavoriteTime
      durationSeconds := if 0 < durationSeconds then durationSeconds else video.durationSeconds }
  keeps _ := rfl

/-- The row `create_video` inserts. -/
def newVideo (id : Nat) (bvid title uploader : String) (profile : ProcessingProfile)
    (displayFavoriteTime : Option Int) (durationSeconds : Int) (now : Instant) : Video where
  id := id
  bvid := bvid
  title := title
  uploader := uploader
  processingProfile := profile
  activeRevision := if profile = .fast then .fast else .refined
  refinementStatus := if profile = .fast then .pending else .notRequired
  displayFavoriteTime := displayFavoriteTime
  durationSeconds := durationSeconds
  discoveredAt := now
  removedAt := none
  archivedAt := none
  readingState := .unread
  isIgnored := false
  ignoredAt := none
  isMarked := false
  markedAt := none

/-- `create_video`, with the id it returns. -/
def createVideo (store : CollectionStore) (bvid title uploader : String)
    (profile : ProcessingProfile) (displayFavoriteTime : Option Int) (durationSeconds : Int)
    (now : Instant) : CollectionStore × Nat :=
  let duration := max 0 durationSeconds
  let fresh := store.videoHighwater + 1
  let videos := store.videos.upsert
    (newVideo fresh bvid title uploader profile displayFavoriteTime duration now)
    (Video.createdAgain title uploader displayFavoriteTime duration)
  match store.videoBySource bvid with
  | some video => ({ store with videos := videos }, video.id)
  | none => ({ store with videos := videos, videoHighwater := fresh }, fresh)

/-- The conflict branch of `_membership`: it leaves `is_baseline` and `queued_history` alone. -/
def SourceMembership.listedAgain (item : FavoriteItem) (position : Nat) (videoId : Option Nat)
    (now : Instant) : Change SourceMembership.key where
  apply row :=
    { row with
      videoId := row.videoId.or videoId
      title := item.title
      uploader := item.uploader
      favoriteTime := item.favoriteTime.or row.favoriteTime
      sourcePosition := position
      lastObservedAt := now
      removedAt := none }
  keeps _ := rfl

/-- The row `_membership` inserts. -/
def newMembership (seq sourceId : Nat) (item : FavoriteItem) (position : Nat)
    (videoId : Option Nat) (baseline queued : Bool) (now : Instant) : SourceMembership where
  sourceId := sourceId
  bvid := item.bvid
  membershipSeq := seq
  videoId := videoId
  title := item.title
  uploader := item.uploader
  favoriteTime := item.favoriteTime
  sourcePosition := position
  isBaseline := baseline
  queuedHistory := queued
  firstObservedAt := now
  lastObservedAt := now
  removedAt := none

/-- `_membership`. -/
def membership (store : CollectionStore) (sourceId : Nat) (item : FavoriteItem) (position : Nat)
    (videoId : Option Nat) (baseline queued : Bool) (now : Instant) : CollectionStore :=
  let seq := store.membershipHighwater + 1
  { store with
    memberships := store.memberships.upsert
      (newMembership seq sourceId item position videoId baseline queued now)
      (SourceMembership.listedAgain item position videoId now)
    membershipHighwater :=
      if (store.member sourceId item.bvid).isNone then seq else store.membershipHighwater }

/-- The first statement of `_observe_video`, when the video comes back. -/
def Video.reentered (displayFavoriteTime : Int) : Change Video.bvid where
  apply video :=
    { video with
      archivedAt := none
      readingState := .unread
      isIgnored := false
      ignoredAt := none
      removedAt := none
      displayFavoriteTime := some displayFavoriteTime }
  keeps _ := rfl

/-- The second statement of `_observe_video`. -/
def Video.observed (item : FavoriteItem) : Change Video.bvid where
  apply video :=
    { video with
      title := if item.title ≠ "" then item.title else video.title
      uploader := if item.uploader ≠ "" then item.uploader else video.uploader
      durationSeconds :=
        if 0 < item.durationSeconds then item.durationSeconds else video.durationSeconds
      removedAt := none
      displayFavoriteTime :=
        some (max (video.displayFavoriteTime.getD 0) (item.favoriteTime.getD 0)) }
  keeps _ := rfl

/-- Change the video with an id, if there is one. -/
def CollectionStore.updateVideo (store : CollectionStore) (id : Nat)
    (change : Change Video.bvid) : CollectionStore :=
  { store with videos := store.videos.updateWhere (fun video => video.id = id) change }

/-- Change the membership of a source that has a bvid, if there is one. -/
def CollectionStore.updateMembership (store : CollectionStore) (sourceId : Nat) (bvid : String)
    (change : Change SourceMembership.key) : CollectionStore :=
  { store with memberships := store.memberships.modify (sourceId, bvid) change }

/-- `_observe_video`. -/
def observeVideo (store : CollectionStore) (id : Nat) (item : FavoriteItem) (reenter : Bool)
    (now : ItemClock) : CollectionStore :=
  let returned := if reenter
    then store.updateVideo id (Video.reentered (timeOr item.favoriteTime now.observedEpoch))
    else store
  returned.updateVideo id (Video.observed item)

end Shiliu.Collection
