/-
Module: Shiliu.Collection.Sync
Purpose: The public operations on sources and memberships, each a transaction: it returns the store
  it commits or the reason it is refused. A scan of a folder reaches the database as
  `initialize_source_memberships` the first time and as `record_source_snapshot` afterwards; the
  history of a folder is queued and then turned into videos one membership at a time.
Trusted boundary: none
Main exports: CallClock, sourceGuard, listHistoryBacklog, CollectionAction, transact, stepCollection
-/
import Mathlib.Data.List.Sort
import Mathlib.Data.Prod.Lex
import Mathlib.Data.String.Basic
import Shiliu.Collection.Leases
import Shiliu.Collection.Store

set_option linter.all false

namespace Shiliu.Collection

open Shiliu.Library
open Shiliu.Storage

/-- What the clocks show during one call: at the first lease test, at the statements that close
the batch, at the second lease test, and while each item is written. -/
structure CallClock where
  started : Instant
  closing : Instant
  finished : Instant
  epoch : Nat
  item : Nat → ItemClock

/-! ## Sources -/

/-- A change of the columns of a source. -/
def sourceChange (change : FavoriteSourceColumns → FavoriteSourceColumns) :
    Change FavoriteSource.key where
  apply source := { source with columns := change source.fields }
  keeps _ := rfl

/-- A change of the lease of a source. -/
def leaseChange (lease : Lease String) : Change FavoriteSource.key where
  apply source := { source with lease := lease }
  keeps _ := rfl

def CollectionStore.updateSource (store : CollectionStore) (sourceId : Nat)
    (change : Change FavoriteSource.key) : CollectionStore :=
  { store with sources := store.sources.modify sourceId change }

/-- The arguments of `create_favorite_source`. -/
structure FavoriteSourceInput where
  folderId : Nat
  folderTitle : String
  accountId : Option Nat
  accountName : String
  originalUrl : String
  mediaCount : Int
  historyPolicy : HistoryPolicy
  historyLimit : Option Int

/-- The columns of the row `create_favorite_source` inserts. -/
def FavoriteSourceInput.columns (input : FavoriteSourceInput) (sortOrder : Int) :
    FavoriteSourceColumns where
  folderId := input.folderId
  folderTitle := input.folderTitle
  accountId := input.accountId
  accountName := input.accountName
  originalUrl := input.originalUrl
  mediaCount := input.mediaCount
  status := .active
  historyPolicy := input.historyPolicy
  historyLimit := input.historyLimit
  baselineInitialized := false
  cooldownUntil := none
  lastSyncAt := none
  lastErrorCode := none
  lastErrorMessage := none
  sortOrder := sortOrder
  historyCutoffTime := none
  discoveryComplete := false
  lastSnapshotComplete := false
  historyUpdatedAt := none

/-- The conflict branch of `create_favorite_source`. -/
def FavoriteSourceInput.merge (input : FavoriteSourceInput) (columns : FavoriteSourceColumns) :
    FavoriteSourceColumns :=
  { columns with
    originalUrl := if input.originalUrl = "" then columns.originalUrl else input.originalUrl
    accountId := input.accountId.or columns.accountId
    accountName := if input.accountName = "" then columns.accountName else input.accountName
    folderTitle := if input.folderTitle = "" then columns.folderTitle else input.folderTitle
    mediaCount := input.mediaCount }

/-- `create_favorite_source`. -/
def createFavoriteSource (store : CollectionStore) (input : FavoriteSourceInput) :
    Except Failure (CollectionStore × Nat) :=
  match store.sources.rows.find? fun source => source.fields.folderId = input.folderId with
  | some source => .ok (store.updateSource source.id (sourceChange input.merge), source.id)
  | none =>
      let id := store.sourceHighwater + 1
      let order := ((store.sources.rows.map fun source => source.fields.sortOrder).max?.getD (-1)) + 1
      let source : FavoriteSource := ⟨id, input.columns order, ⟨none, none, 0⟩⟩
      .ok ({ store with sources := store.sources.insert source, sourceHighwater := id }, id)

/-- `set_source_status`. -/
def setSourceStatus (store : CollectionStore) (sourceId : Nat) (status : SourceStatus) :
    Except Failure (CollectionStore × Unit) :=
  match store.sources.lookup sourceId with
  | none => .error .keyError
  | some _ =>
      .ok (store.updateSource sourceId (sourceChange fun columns =>
        { columns with status := status }), ())

/-- The row `_source(…, lock=True)` returns to a source write, and the two lease tests around the
batch. The batch writes no lease column, so both tests read the row as it is at the start; the
row they read is the one the claim names. -/
def sourceGuard (store : CollectionStore) (clock : CallClock) (sourceId : Nat)
    (held : Option Claim) : Except Failure FavoriteSource :=
  match store.sources.lookup sourceId with
  | none => .error .keyError
  | some source =>
      match held with
      | none => do
          assertUnclaimed source
          .ok source
      | some held =>
          match store.sources.lookup held.id with
          | none => .error (.coordinationConflict "lease_fenced")
          | some claimed => do
              checkLease clock.started claimed held
              checkLease clock.finished claimed held
              .ok source

/-- `claim_source`. -/
def claimSource (store : CollectionStore) (now : Instant) (sourceId : Nat) (owner : String)
    (seconds : Nat) : Except Failure (CollectionStore × Option Claim) :=
  match store.sources.lookup sourceId with
  | none => if owner = "" ∨ !validLeaseLength seconds then .error (.valueError "Invalid lease")
      else .error .keyError
  | some source => do
      let (row, handed) ← claim now source owner seconds
      .ok (store.updateSource sourceId (leaseChange row.lease), handed)

/-- `heartbeat("favorite_sources", …)`. -/
def heartbeatSource (store : CollectionStore) (now : Instant) (held : Claim) (seconds : Nat) :
    Except Failure (CollectionStore × Unit) :=
  if !validLeaseLength seconds then .error (.valueError "Invalid lease duration")
  else
    match store.sources.lookup held.id with
    | none => .error (.coordinationConflict "lease_fenced")
    | some source => do
        let (row, _) ← heartbeat now source held seconds
        .ok (store.updateSource held.id (leaseChange row.lease), ())

/-- `release("favorite_sources", …)`. -/
def releaseSource (store : CollectionStore) (now : Instant) (held : Claim) :
    Except Failure (CollectionStore × Unit) :=
  match store.sources.lookup held.id with
  | none => .error (.coordinationConflict "lease_fenced")
  | some source => do
      let (row, _) ← release now source held
      .ok (store.updateSource held.id (leaseChange row.lease), ())

/-! ## The first scan -/

/-- The sort key of `ordered`: dated items first, the latest first, then in the order given. -/
def FavoriteItem.historyKey (entry : FavoriteItem × Nat) : Bool ×ₗ Int ×ₗ Nat :=
  toLex (entry.1.favoriteTime.isNone, toLex (-(entry.1.favoriteTime.getD 0), entry.2))

/-- `[item for _, item in ordered[:n]]`. -/
def newestItems (items : List FavoriteItem) (count : Int) : List FavoriteItem :=
  (upTo (items.zipIdx.insertionSort fun first second =>
    FavoriteItem.historyKey first ≤ FavoriteItem.historyKey second) count).map Prod.fst

/-- `n`, the number of items whose history a source wants. -/
def historyCount (columns : FavoriteSourceColumns) (items : List FavoriteItem) : Int :=
  match columns.historyPolicy with
  | .all => items.length
  | .latestN => columns.historyLimit.getD 0
  | .futureOnly => 0

/-- `history_cutoff_time`, from the times of the selected history. -/
def historyCutoff (policy : HistoryPolicy) (times : List Int) (epoch : Nat) : Option Int :=
  match times.min? with
  | some oldest => some oldest
  | none => if policy = .futureOnly then some epoch else none

/-- `selected`, the bvids whose history is queued: none unless the scan is authoritative. -/
def selectedHistory (columns : FavoriteSourceColumns) (items : List FavoriteItem)
    (authoritative : Bool) : List String :=
  if authoritative then
    ((newestItems items (historyCount columns items)).map FavoriteItem.bvid).dedup
  else []

/-- The body of the loop of `initialize_source_memberships`. -/
def initializeItem (sourceId : Nat) (selected : List String) (clock : CallClock)
    (store : CollectionStore) (entry : FavoriteItem × Nat) : CollectionStore :=
  let item := entry.1
  let now := clock.item entry.2
  let video := store.videoBySource item.bvid
  let active := video.any fun video => store.videoHasActiveSource video.id
  let listed := membership store sourceId item entry.2 (video.map Video.id)
    (item.bvid ∉ selected) (item.bvid ∈ selected) now.observed
  match video with
  | none => listed
  | some video => observeVideo listed video.id item (video.archivedAt.isSome || !active) now

/-- The last statement of `initialize_source_memberships`. -/
def initializedSource (items : List FavoriteItem) (authoritative : Bool)
    (remoteTotal : Option Int) (clock : CallClock) (columns : FavoriteSourceColumns) :
    FavoriteSourceColumns :=
  if authoritative then
    let times := (newestItems items (historyCount columns items)).filterMap
      FavoriteItem.favoriteTime
    { columns with
      baselineInitialized := true
      mediaCount := remoteTotal.getD items.length
      lastSyncAt := some clock.closing
      historyCutoffTime := historyCutoff columns.historyPolicy times clock.epoch
      discoveryComplete := true
      lastSnapshotComplete := true
      historyUpdatedAt := some clock.closing
      lastErrorCode := none
      lastErrorMessage := none }
  else { columns with lastSnapshotComplete := false }

/-- `initialize_source_memberships`. -/
def initializeSourceMemberships (store : CollectionStore) (clock : CallClock) (sourceId : Nat)
    (items : List FavoriteItem) (authoritative : Bool) (remoteTotal : Option Int)
    (held : Option Claim) : Except Failure (CollectionStore × Nat) :=
  match sourceGuard store clock sourceId held with
  | .error failure => .error failure
  | .ok source =>
      let selected := selectedHistory source.fields items authoritative
      let listed := items.zipIdx.foldl (initializeItem sourceId selected clock) store
      .ok (listed.updateSource sourceId
        (sourceChange (initializedSource items authoritative remoteTotal clock)), selected.length)

/-! ## The scans after it -/

/-- `prior is None or prior["removed_at"]`: the source did not list the item before. -/
def isReturning (prior : Option SourceMembership) : Bool :=
  prior.all fun row => row.removedAt.isSome

/-- `prior is None or (prior["removed_at"] and vid is None)`: the item gets a video. -/
def getsVideo (prior : Option SourceMembership) : Bool :=
  prior.all fun row => row.removedAt.isSome && row.videoId.isNone

/-- The body of the loop of `record_source_snapshot`; `known` are the memberships of the source
when the call began, and the ids of the videos created so far are threaded through. -/
def recordItem (sourceId : Nat) (known : String → Option SourceMembership)
    (profile : ProcessingProfile) (clock : CallClock) (progress : CollectionStore × List Nat)
    (entry : FavoriteItem × Nat) : CollectionStore × List Nat :=
  let item := entry.1
  let now := clock.item entry.2
  let prior := known item.bvid
  let existing := progress.1.videoBySource item.bvid
  let (store, created, id, video) := if getsVideo prior then
      let (store, id) := createVideo progress.1 item.bvid item.title item.uploader profile
        (some (timeOr item.favoriteTime now.createdEpoch)) item.durationSeconds now.created
      (store, if existing.isNone then progress.2 ++ [id] else progress.2, some id, store.video id)
    else (progress.1, progress.2, prior.bind SourceMembership.videoId, existing)
  let active := id.any store.videoHasActiveSource
  let listed := membership store sourceId item entry.2 id false false now.observed
  match id with
  | none => (listed, created)
  | some id =>
      let archived := video.any fun video => video.archivedAt.isSome
      (observeVideo listed id item (isReturning prior && (archived || !active)) now, created)

/-- `removed_at=COALESCE(removed_at,clock_timestamp())`. -/
def SourceMembership.unlisted (now : Instant) : Change SourceMembership.key where
  apply row := { row with removedAt := some (row.removedAt.getD now) }
  keeps _ := rfl

/-- Some source still lists a video. -/
def CollectionStore.listsVideo (store : CollectionStore) (videoId : Nat) : Bool :=
  store.memberships.rows.any fun row => row.videoId = some videoId ∧ row.present

/-- The video of an authoritative snapshot's second update: removed unless a source lists it. -/
def Video.settledRemoval (store : CollectionStore) (now : Instant) : Change Video.bvid where
  apply video :=
    { video with
      removedAt := if store.listsVideo video.id then none else some (video.removedAt.getD now) }
  keeps _ := rfl

/-- The first update of an authoritative snapshot: memberships of the source that the scan does not
list are removed. -/
def unlistMemberships (store : CollectionStore) (sourceId : Nat) (items : List FavoriteItem)
    (now : Instant) : CollectionStore :=
  { store with
    memberships := store.memberships.updateWhere
      (fun row => row.sourceId = sourceId ∧ row.bvid ∉ items.map FavoriteItem.bvid)
      (SourceMembership.unlisted now) }

/-- The second update: each video linked to the source is settled. -/
def settleVideos (store : CollectionStore) (sourceId : Nat) (now : Instant) : CollectionStore :=
  { store with
    videos := store.videos.updateWhere
      (fun video => store.memberships.rows.any fun row =>
        row.sourceId = sourceId ∧ row.videoId = some video.id)
      (Video.settledRemoval store now) }

/-- What an authoritative snapshot does after its loop. -/
def removeUnlisted (store : CollectionStore) (sourceId : Nat) (items : List FavoriteItem)
    (now : Instant) : CollectionStore :=
  settleVideos (unlistMemberships store sourceId items now) sourceId now

/-- The last statement of `record_source_snapshot`. -/
def recordedSource (items : List FavoriteItem) (authoritative : Bool) (remoteTotal : Option Int)
    (now : Instant) (columns : FavoriteSourceColumns) : FavoriteSourceColumns :=
  { columns with
    mediaCount := if authoritative then remoteTotal.getD items.length else columns.mediaCount
    lastSyncAt := some now
    status := if columns.status = .paused then columns.status else .active
    cooldownUntil := if columns.status = .paused then columns.cooldownUntil else none
    discoveryComplete := columns.discoveryComplete || authoritative
    lastSnapshotComplete := authoritative
    lastErrorCode := none
    lastErrorMessage := none }

/-- `record_source_snapshot`, which returns the ids of the videos it created. -/
def recordSourceSnapshot (store : CollectionStore) (clock : CallClock) (sourceId : Nat)
    (items : List FavoriteItem) (profile : ProcessingProfile) (authoritative : Bool)
    (remoteTotal : Option Int) (held : Option Claim) :
    Except Failure (CollectionStore × List Nat) :=
  match sourceGuard store clock sourceId held with
  | .error failure => .error failure
  | .ok _ =>
      let (listed, created) :=
        items.zipIdx.foldl (recordItem sourceId (store.member sourceId) profile clock) (store, [])
      let settled := if authoritative
        then removeUnlisted listed sourceId items clock.closing else listed
      .ok (settled.updateSource sourceId
        (sourceChange (recordedSource items authoritative remoteTotal clock.closing)), created)

/-! ## History -/

/-- The sort key of the rows of `update_source_history_coverage`:
`favorite_time DESC NULLS LAST,source_position,bvid`. -/
def SourceMembership.coverageKey (row : SourceMembership) : Bool ×ₗ Int ×ₗ Nat ×ₗ String :=
  toLex (row.favoriteTime.isNone, toLex (-(row.favoriteTime.getD 0),
    toLex (row.sourcePosition, row.bvid)))

/-- The rows of `update_source_history_coverage`. -/
def coverageRows (store : CollectionStore) (sourceId : Nat) : List SourceMembership :=
  (store.memberships.rows.filter fun row => row.sourceId = sourceId ∧ row.present).insertionSort
    fun first second => first.coverageKey ≤ second.coverageKey

/-- The rows a policy covers. -/
def coveredRows (rows : List SourceMembership) (policy : HistoryPolicy) (limit : Option Int) :
    List SourceMembership :=
  match policy with
  | .all => rows
  | .latestN => upTo rows (limit.getD 0)
  | .futureOnly => []

/-- The update of one row: queued when the policy covers it and it has no video yet. -/
def SourceMembership.covered (ids : List String) : Change SourceMembership.key where
  apply row :=
    { row with
      queuedHistory := row.bvid ∈ ids ∧ row.videoId.isNone
      isBaseline := if row.bvid ∈ ids then false else row.isBaseline }
  keeps _ := rfl

/-- The updates of the present memberships of a source, one for each row. -/
def coverMemberships (store : CollectionStore) (sourceId : Nat) (ids : List String) :
    CollectionStore :=
  { store with
    memberships := store.memberships.updateWhere
      (fun row => row.sourceId = sourceId ∧ row.present) (SourceMembership.covered ids) }

/-- `update_source_history_coverage`, which returns the number of memberships now queued. -/
def updateSourceHistoryCoverage (store : CollectionStore) (clock : CallClock) (sourceId : Nat)
    (policy : HistoryPolicy) (limit : Option Int) : Except Failure (CollectionStore × Nat) :=
  if policy = .latestN ∧ limit.getD 0 < 1 then
    .error (.valueError "Unsupported history policy/limit")
  else
    match store.sources.lookup sourceId with
    | none => .error .keyError
    | some source =>
        let columns := source.fields
        let kept := if policy = .latestN then limit else none
        let rows := coverageRows store sourceId
        if !columns.discoveryComplete then .error (.valueError "历史范围只能基于完整收藏夹发现结果更新")
        else if columns.historyPolicy = policy ∧ columns.historyLimit = kept ∧
            columns.historyUpdatedAt.isSome then
          .ok (store, (rows.filter SourceMembership.queuedHistory).length)
        else
          let selected := coveredRows rows policy limit
          let ids := selected.map SourceMembership.bvid
          let covered := coverMemberships store sourceId ids
          let cutoff := historyCutoff policy
            (selected.filterMap SourceMembership.favoriteTime) clock.epoch
          .ok (covered.updateSource sourceId (sourceChange fun columns =>
              { columns with
                historyPolicy := policy
                historyLimit := kept
                historyCutoffTime := cutoff
                historyUpdatedAt := some clock.closing }),
            (rows.filter fun row => row.bvid ∈ ids ∧ row.videoId.isNone).length)

/-- A membership waits in the history queue. -/
def SourceMembership.pending (row : SourceMembership) : Bool := row.queuedHistory && row.present

/-- The sort key of the backlog: `first_observed_at,source_id,source_position`. -/
def SourceMembership.backlogKey (row : SourceMembership) : Instant ×ₗ Nat ×ₗ Nat :=
  toLex (row.firstObservedAt, toLex (row.sourceId, row.sourcePosition))

/-- `source_ids IS NULL OR source_id=ANY(source_ids)`. -/
def inScope (sourceIds : Option (List Nat)) (sourceId : Nat) : Bool :=
  sourceIds.all fun ids => sourceId ∈ ids

/-- The memberships `list_history_backlog` selects, before its limit. -/
def backlogRows (store : CollectionStore) (sourceIds : Option (List Nat)) :
    List SourceMembership :=
  (store.memberships.rows.filter fun row =>
      row.pending ∧ store.sourceActive row.sourceId ∧ inScope sourceIds row.sourceId).insertionSort
    fun first second => first.backlogKey ≤ second.backlogKey

/-- `list_history_backlog`. -/
def listHistoryBacklog (store : CollectionStore) (limit : Nat) (sourceIds : Option (List Nat)) :
    List SourceMembership :=
  (backlogRows store sourceIds).take limit

/-- The update that links a membership to its video and takes it out of the queue. -/
def SourceMembership.materialized (videoId : Nat) : Change SourceMembership.key where
  apply row := { row with videoId := some videoId, queuedHistory := false, isBaseline := false }
  keeps _ := rfl

/-- `materialize_history_membership`, which returns the id of the video. -/
def materializeHistoryMembership (store : CollectionStore) (now : Instant) (sourceId : Nat)
    (bvid : String) : Except Failure (CollectionStore × Nat) :=
  match store.sources.lookup sourceId with
  | none => .error .keyError
  | some source =>
      match store.member sourceId bvid with
      | none => .error .keyError
      | some row =>
          if !row.present ∨ source.fields.status ≠ .active then .error .keyError
          else
            match row.videoId with
            | some videoId => .ok (store, videoId)
            | none =>
                if !row.queuedHistory then .error .keyError
                else
                  let time := timeOr row.favoriteTime (row.firstObservedAt / microsPerSecond)
                  let (created, id) :=
                    createVideo store bvid row.title row.uploader .formal (some time) 0 now
                  .ok (created.updateMembership sourceId bvid (SourceMembership.materialized id),
                    id)

/-- `history_pending_count`. -/
def historyPendingCount (store : CollectionStore) : Nat :=
  store.memberships.count SourceMembership.pending

/-! ## What the user does to a video -/

def Video.archived (archivedAt : Option Instant) : Change Video.bvid where
  apply video := { video with archivedAt := archivedAt }
  keeps _ := rfl

def Video.marked (markedAt : Option Instant) : Change Video.bvid where
  apply video := { video with isMarked := markedAt.isSome, markedAt := markedAt }
  keeps _ := rfl

/-- `update_video`, which raises when there is no such video. -/
def changeVideo (store : CollectionStore) (videoId : Nat) (change : Change Video.bvid) :
    Except Failure (CollectionStore × Unit) :=
  match store.video videoId with
  | none => .error .keyError
  | some _ => .ok (store.updateVideo videoId change, ())

/-- `set_archived`. -/
def setArchived (store : CollectionStore) (now : Instant) (videoId : Nat) (archived : Bool) :
    Except Failure (CollectionStore × Unit) :=
  changeVideo store videoId (Video.archived (if archived then some now else none))

/-- `set_marked`. -/
def setMarked (store : CollectionStore) (now : Instant) (videoId : Nat) (marked : Bool) :
    Except Failure (CollectionStore × Unit) :=
  changeVideo store videoId (Video.marked (if marked then some now else none))

/-- `create_note`. -/
def createNote (store : CollectionStore) (ownerUserId : String) (videoId : Nat)
    (content : String) : Except Failure (CollectionStore × Unit) :=
  match store.video videoId with
  | none => .error .keyError
  | some _ => .ok ({ store with notes := store.notes ++ [⟨videoId, ownerUserId, content⟩] }, ())

/-! ## Runs -/

/-- A call of one of the operations, with what the clocks show. -/
inductive CollectionAction where
  | createFavoriteSource (input : FavoriteSourceInput)
  | setSourceStatus (sourceId : Nat) (status : SourceStatus)
  | claimSource (now : Instant) (sourceId : Nat) (owner : String) (seconds : Nat)
  | heartbeatSource (now : Instant) (held : Claim) (seconds : Nat)
  | releaseSource (now : Instant) (held : Claim)
  | initializeSourceMemberships (clock : CallClock) (sourceId : Nat) (items : List FavoriteItem)
      (authoritative : Bool) (remoteTotal : Option Int) (held : Option Claim)
  | recordSourceSnapshot (clock : CallClock) (sourceId : Nat) (items : List FavoriteItem)
      (profile : ProcessingProfile) (authoritative : Bool) (remoteTotal : Option Int)
      (held : Option Claim)
  | updateSourceHistoryCoverage (clock : CallClock) (sourceId : Nat) (policy : HistoryPolicy)
      (limit : Option Int)
  | materializeHistoryMembership (now : Instant) (sourceId : Nat) (bvid : String)
  | setArchived (now : Instant) (videoId : Nat) (archived : Bool)
  | setMarked (now : Instant) (videoId : Nat) (marked : Bool)
  | createNote (ownerUserId : String) (videoId : Nat) (content : String)

/-- A transaction without its result. -/
def outcome {Result : Type} (done : Except Failure (CollectionStore × Result)) :
    Except Failure (CollectionStore × Unit) :=
  done.map fun committed => (committed.1, ())

/-- The transaction of a call. -/
def transact (store : CollectionStore) :
    CollectionAction → Except Failure (CollectionStore × Unit)
  | .createFavoriteSource input => outcome (createFavoriteSource store input)
  | .setSourceStatus sourceId status => setSourceStatus store sourceId status
  | .claimSource now sourceId owner seconds =>
      outcome (claimSource store now sourceId owner seconds)
  | .heartbeatSource now held seconds => heartbeatSource store now held seconds
  | .releaseSource now held => releaseSource store now held
  | .initializeSourceMemberships clock sourceId items authoritative remoteTotal held =>
      outcome (initializeSourceMemberships store clock sourceId items authoritative remoteTotal held)
  | .recordSourceSnapshot clock sourceId items profile authoritative remoteTotal held =>
      outcome
        (recordSourceSnapshot store clock sourceId items profile authoritative remoteTotal held)
  | .updateSourceHistoryCoverage clock sourceId policy limit =>
      outcome (updateSourceHistoryCoverage store clock sourceId policy limit)
  | .materializeHistoryMembership now sourceId bvid =>
      outcome (materializeHistoryMembership store now sourceId bvid)
  | .setArchived now videoId archived => setArchived store now videoId archived
  | .setMarked now videoId marked => setMarked store now videoId marked
  | .createNote ownerUserId videoId content => createNote store ownerUserId videoId content

/-- The store after a call, which is the store before it when the call raises. -/
def stepCollection (store : CollectionStore) (action : CollectionAction) : CollectionStore :=
  settled store (transact store action)

end Shiliu.Collection
