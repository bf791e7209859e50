/-
Module: Shiliu.Sources.Scope
Purpose: Which videos a scope sees. Four places ask: `read` and `refresh_metadata` before they touch
  a video, `search` when it collects its candidates, `visible_video_ids`, and the notification of
  the spaces a changed video belongs to. Each has its own query; here each is its own definition,
  over the same tables.
Trusted boundary: none
Main exports: SourceScope, allowedSources, searchCandidates, visibleVideoIds, notifiedSpaces
-/
import Shiliu.Assistant.Rows
import Shiliu.Collection.Upkeep

namespace Shiliu.Sources

open Shiliu.Library
open Shiliu.Storage
open Shiliu.Collection
open Shiliu.Assistant (Space)

/-- `SourceScope`. No video ids means every video. -/
structure SourceScope where
  sourceDbIds : List Int
  videoIds : List Int
  allActive : Bool

/-- The scope a space gives its tools. -/
def SourceScope.ofSpace (space : Space) : SourceScope where
  sourceDbIds := space.sourceIds
  videoIds := space.videoIds
  allActive := space.allActive

/-! ## `read` and `refresh_metadata` -/

/-- `_allowed_sources`. -/
def allowedSources (store : CollectionStore) (scope : SourceScope)
    (requestedFolderIds : Option (List Nat)) : List Nat :=
  (store.sources.rows.filter fun source =>
    source.fields.status = .active ∧
      (scope.allActive ∨ (source.id : Int) ∈ scope.sourceDbIds) ∧
      inScope requestedFolderIds source.fields.folderId).map FavoriteSource.key

/-- `video_has_active_source`, among some of the sources. -/
def videoHasActiveSourceIn (store : CollectionStore) (videoId : Nat) (allowedSourceIds : List Nat) :
    Bool :=
  store.memberships.rows.any fun row =>
    row.videoId = some videoId ∧ row.present ∧ store.sourceActive row.sourceId ∧
      row.sourceId ∈ allowedSourceIds

/-- `_video_is_available`, with the scope. -/
def videoIsAvailable (store : CollectionStore) (videoId : Nat) (allowedSourceIds : List Nat)
    (scope : SourceScope) : Bool :=
  if allowedSourceIds = [] ∨ !videoHasActiveSourceIn store videoId allowedSourceIds then false
  else if scope.videoIds ≠ [] ∧ (videoId : Int) ∉ scope.videoIds then false
  else (store.video videoId).any fun video => !video.isIgnored && video.archivedAt.isNone

/-- The test `read` and `refresh_metadata` make. -/
def readAccepts (store : CollectionStore) (scope : SourceScope) (videoId : Nat) : Bool :=
  videoIsAvailable store videoId (allowedSources store scope none) scope

/-! ## `search` -/

/-- `_candidate_video_ids` without filters: the videos, by id. -/
def candidateVideoIds (store : CollectionStore) (sourceIds : List Nat) (videoIds : List Int) :
    List Nat :=
  ((store.videos.rows.filter fun video =>
    (store.memberships.rows.any fun row =>
      row.videoId = some video.id ∧ row.sourceId ∈ sourceIds ∧ row.present ∧
        store.sourceActive row.sourceId) ∧
      !video.isIgnored ∧ video.archivedAt = none ∧ video.removedAt = none ∧
      (videoIds = [] ∨ (video.id : Int) ∈ videoIds)).map Video.id).insertionSort (· ≤ ·)

/-- What `search` starts from; without an allowed source it stops before the query. -/
def searchCandidates (store : CollectionStore) (scope : SourceScope) : List Nat :=
  let allowed := allowedSources store scope none
  if allowed = [] then [] else candidateVideoIds store allowed scope.videoIds

/-! ## `visible_video_ids` -/

/-- `visible_video_ids`, by id. -/
def visibleVideoIds (store : CollectionStore) (scope : SourceScope) : List Nat :=
  ((store.videos.rows.filter fun video =>
    (store.memberships.rows.any fun row =>
      row.videoId = some video.id ∧ row.present ∧ store.sourceActive row.sourceId ∧
        (scope.allActive ∨ (row.sourceId : Int) ∈ scope.sourceDbIds)) ∧
      !video.isIgnored ∧ video.archivedAt = none ∧ video.removedAt = none ∧
      (scope.videoIds = [] ∨ (video.id : Int) ∈ scope.videoIds)).map Video.id).insertionSort
    (· ≤ ·)

/-! ## `_notify_assistant_source_change` -/

/-- `memberships`: the active sources that list the video, none when the video is hidden. -/
def notifiedMemberships (store : CollectionStore) (video : Video) : List Nat :=
  if video.isIgnored ∨ video.archivedAt ≠ none ∨ video.removedAt ≠ none then []
  else
    (store.memberships.rows.filter fun row =>
      row.videoId = some video.id ∧ row.present ∧ store.sourceActive row.sourceId).map
        SourceMembership.sourceId

/-- The body of the loop over the enabled spaces. -/
def spaceSees (memberships : List Nat) (videoId : Nat) (space : Space) : Bool :=
  if space.videoIds ≠ [] ∧ (videoId : Int) ∉ space.videoIds then false
  else memberships ≠ [] ∧
    (space.allActive ∨ memberships.any fun sourceId => (sourceId : Int) ∈ space.sourceIds)

/-- `visible`: the enabled spaces that see the video. -/
def notifiedSpaces (store : CollectionStore) (spaces : List Space) (videoId : Nat) :
    Except Failure (List Nat) :=
  match store.video videoId with
  | none => .error .keyError
  | some video =>
      .ok ((spaces.filter fun space =>
        space.enabled ∧ spaceSees (notifiedMemberships store video) videoId space).map Space.id)

end Shiliu.Sources
