/-
Module: Shiliu.Collection.Upkeep
Purpose: The operations on the collection no scan makes: a video that is created by hand, ignored or
  written column by column, a source that reports an error or is deleted, and the reconciliation of
  all videos with a list of current items. They change what a reader may see without touching the
  memberships a scan keeps.
Trusted boundary: none
Main exports: VideoFields, setIgnored, updateVideo, stepUpkeep, KeepsListed, upkeep_run
-/
import Shiliu.Collection.Removal

namespace Shiliu.Collection

open Shiliu.Library
open Shiliu.Storage

variable {store : CollectionStore}

/-! ## Operations -/

def Video.ignored (ignoredAt : Option Instant) : Change Video.bvid where
  apply video := { video with isIgnored := ignoredAt.isSome, ignoredAt := ignoredAt }
  keeps _ := rfl

/-- `set_ignored`. -/
def setIgnored (store : CollectionStore) (now : Instant) (videoId : Nat) (ignored : Bool) :
    Except Failure (CollectionStore × Unit) :=
  changeVideo store videoId (Video.ignored (if ignored then some now else none))

/-- The fields of `update_video` that decide who sees a video; a field that is not given keeps its
column. -/
structure VideoFields where
  removedAt : Option (Option Instant)
  archivedAt : Option (Option Instant)
  isIgnored : Option Bool

def Video.written (fields : VideoFields) : Change Video.bvid where
  apply video :=
    { video with
      removedAt := fields.removedAt.getD video.removedAt
      archivedAt := fields.archivedAt.getD video.archivedAt
      isIgnored := fields.isIgnored.getD video.isIgnored }
  keeps _ := rfl

/-- `update_video`. -/
def updateVideo (store : CollectionStore) (videoId : Nat) (fields : VideoFields) :
    Except Failure (CollectionStore × Unit) :=
  changeVideo store videoId (Video.written fields)

/-- `update_source_error`. -/
def updateSourceError (store : CollectionStore) (clock : CallClock) (sourceId : Nat)
    (status : SourceStatus) (code message : Option String) (cooldownUntil : Option Instant)
    (held : Option Claim) : Except Failure (CollectionStore × Unit) := do
  let _ ← sourceGuard store clock sourceId held
  .ok (store.updateSource sourceId (sourceChange fun columns =>
    { columns with
      status := status
      lastErrorCode := code
      lastErrorMessage := message
      cooldownUntil := cooldownUntil }), ())

/-- `remove_source`: the memberships of the source go with it. -/
def removeSource (store : CollectionStore) (sourceId : Nat) :
    Except Failure (CollectionStore × Unit) :=
  match store.sources.lookup sourceId with
  | none => .error .keyError
  | some _ =>
      .ok ({ store with
        sources := store.sources.deleteWhere fun source => source.id = sourceId
        memberships := store.memberships.deleteWhere fun row => row.sourceId = sourceId }, ())

/-- The update of every video by `reconcile_current_items`. -/
def Video.reconciled (currentIds : List String) (now : Instant) : Change Video.bvid where
  apply video :=
    { video with
      removedAt := if video.bvid ∈ currentIds then none else some (video.removedAt.getD now) }
  keeps _ := rfl

/-- `reconcile_current_items`. -/
def reconcileCurrentItems (store : CollectionStore) (now : Instant) (currentIds : List String) :
    CollectionStore :=
  { store with videos := store.videos.updateWhere (fun _ => true) (Video.reconciled currentIds now) }

/-! ## Runs -/

/-- A call of an operation on the collection. -/
inductive UpkeepAction where
  | collection (action : CollectionAction)
  | createVideo (bvid title uploader : String) (profile : ProcessingProfile)
      (displayFavoriteTime : Option Int) (durationSeconds : Int) (now : Instant)
  | setIgnored (now : Instant) (videoId : Nat) (ignored : Bool)
  | updateVideo (videoId : Nat) (fields : VideoFields)
  | updateSourceError (clock : CallClock) (sourceId : Nat) (status : SourceStatus)
      (code message : Option String) (cooldownUntil : Option Instant) (held : Option Claim)
  | removeSource (sourceId : Nat)
  | reconcileCurrentItems (now : Instant) (currentIds : List String)

/-- The transaction of a call. -/
def upkeep (store : CollectionStore) :
    UpkeepAction → Except Failure (CollectionStore × Unit)
  | .collection action => transact store action
  | .createVideo bvid title uploader profile displayFavoriteTime durationSeconds now =>
      .ok ((createVideo store bvid title uploader profile displayFavoriteTime durationSeconds
        now).1, ())
  | .setIgnored now videoId ignored => setIgnored store now videoId ignored
  | .updateVideo videoId fields => updateVideo store videoId fields
  | .updateSourceError clock sourceId status code message cooldownUntil held =>
      updateSourceError store clock sourceId status code message cooldownUntil held
  | .removeSource sourceId => removeSource store sourceId
  | .reconcileCurrentItems now currentIds => .ok (reconcileCurrentItems store now currentIds, ())

/-- The store after a call, which is the store before it when the call raises. -/
def stepUpkeep (store : CollectionStore) (action : UpkeepAction) : CollectionStore :=
  settled store (upkeep store action)

/-- The call does not set `removed_at` on a video that some source still lists. -/
def KeepsListed (store : CollectionStore) : UpkeepAction → Prop
  | .reconcileCurrentItems _ currentIds =>
      ∀ video ∈ store.videos.rows, store.listsVideo video.id = true → video.bvid ∈ currentIds
  | .updateVideo videoId fields =>
      fields.removedAt.getD none ≠ none → store.listsVideo videoId = false
  | _ => True

instance (store : CollectionStore) (action : UpkeepAction) :
    Decidable (KeepsListed store action) := by
  unfold KeepsListed
  split <;> infer_instance

/-! ## Listed videos stay -/

theorem ListedVideosKept.updateWhere (kept : ListedVideosKept store) {select : Video → Bool}
    {change : Change Video.bvid} (keeps : KeepsId change)
    (spares : ∀ video ∈ store.videos, select video = true → video.removedAt = none →
      store.listsVideo video.id = true → (change.apply video).removedAt = none) :
    ListedVideosKept { store with videos := store.videos.updateWhere select change } := by
  intro row member present video isVideo isLink
  obtain ⟨old, isOld, rfl⟩ := Table.mem_updateWhere.mp isVideo
  by_cases selected : select old = true
  · rw [if_pos selected] at isLink ⊢
    rw [keeps old] at isLink
    exact spares old isOld selected (kept row member present old isOld isLink)
      (listsVideo_iff.mpr ⟨row, member, isLink, present⟩)
  · rw [if_neg selected] at isLink ⊢
    exact kept row member present old isOld isLink

theorem changeVideo_ok {videoId : Nat} {change : Change Video.bvid} {after : CollectionStore}
    {result : Unit} (done : changeVideo store videoId change = .ok (after, result)) :
    after = store.updateVideo videoId change := by
  unfold changeVideo at done
  split at done <;> cases done
  rfl

theorem removeSource_kept (kept : ListedVideosKept store) (linked : Linked store)
    {sourceId : Nat} {after : CollectionStore} {result : Unit}
    (done : removeSource store sourceId = .ok (after, result)) :
    ListedVideosKept after ∧ Linked after := by
  unfold removeSource at done
  split at done <;> cases done
  have old : ∀ row, row ∈ store.memberships.deleteWhere (fun row => row.sourceId = sourceId) →
      row ∈ store.memberships ∧ row.sourceId ≠ sourceId := by
    intro row member
    obtain ⟨isRow, other⟩ := Table.mem_deleteWhere.mp member
    exact ⟨isRow, by simpa using other⟩
  refine ⟨fun row member => kept row (old row member).1, linked.videoIds, linked.videoFresh,
    fun row member => linked.seqFresh row (old row member).1,
    fun row member => linked.link row (old row member).1, fun row member => ?_⟩
  obtain ⟨isRow, other⟩ := old row member
  obtain ⟨source, found⟩ := Option.isSome_iff_exists.mp (linked.source row isRow)
  obtain ⟨isSource, isKey⟩ := Table.lookup_eq_some.mp found
  rw [Option.isSome_iff_exists]
  refine ⟨source, Table.lookup_eq_some.mpr ⟨Table.mem_deleteWhere.mpr ⟨isSource, ?_⟩, isKey⟩⟩
  rw [FavoriteSource.key] at isKey
  simpa [isKey] using other

theorem stepUpkeep_kept (kept : ListedVideosKept store) (linked : Linked store)
    {action : UpkeepAction} (keeps : KeepsListed store action) :
    ListedVideosKept (stepUpkeep store action) ∧ Linked (stepUpkeep store action) := by
  cases done : upkeep store action with
  | error failure =>
      rw [stepUpkeep, done, settled_error]
      exact ⟨kept, linked⟩
  | ok committed =>
      obtain ⟨after, result⟩ := committed
      rw [stepUpkeep, done, settled_ok]
      cases action with
      | collection action =>
          have outline := transact_outline done
          exact ⟨kept.outline linked outline, linked.outline outline⟩
      | createVideo bvid title uploader profile displayFavoriteTime durationSeconds now =>
          cases done
          refine ⟨fun row member present video isVideo isLink => ?_, linked.createVideo⟩
          rw [createVideo_memberships] at member
          exact kept.old removesNothing_createVideo member present isVideo isLink
      | setIgnored now videoId ignored =>
          obtain rfl := changeVideo_ok done
          exact ⟨kept.updateWhere (fun _ => rfl) fun _ _ _ stays _ => stays,
            linked.updateWhere fun _ => rfl⟩
      | updateVideo videoId fields =>
          obtain rfl := changeVideo_ok done
          refine ⟨kept.updateWhere (fun _ => rfl) fun video isVideo selected stays listed => ?_,
            linked.updateWhere fun _ => rfl⟩
          obtain rfl : video.id = videoId := by simpa using selected
          cases written : fields.removedAt with
          | none => simp [Video.written, written, stays]
          | some removedAt =>
              have unlisted := keeps
              simp only [KeepsListed, written, Option.getD_some, listed] at unlisted
              simpa [Video.written, written] using unlisted
      | updateSourceError clock sourceId status code message cooldownUntil held =>
          simp only [upkeep, updateSourceError] at done
          cases guard : sourceGuard store clock sourceId held with
          | error failure => rw [guard] at done; cases done
          | ok source =>
              rw [guard] at done
              cases done
              have aside := aside_updateSource store sourceId (sourceChange fun columns =>
                { columns with
                  status := status
                  lastErrorCode := code
                  lastErrorMessage := message
                  cooldownUntil := cooldownUntil })
              exact ⟨kept.aside aside, linked.aside aside⟩
      | removeSource sourceId => exact removeSource_kept kept linked done
      | reconcileCurrentItems now currentIds =>
          cases done
          refine ⟨kept.updateWhere (fun _ => rfl) fun video isVideo _ _ listed => ?_,
            linked.updateWhere fun _ => rfl⟩
          simp [Video.reconciled, keeps video isVideo listed]

/-- The invariants of a run whose calls keep the listed videos. -/
theorem upkeep_run {actions : List UpkeepAction}
    (each : EachStep stepUpkeep KeepsListed CollectionStore.empty actions) :
    ListedVideosKept (runFrom stepUpkeep CollectionStore.empty actions) ∧
      Linked (runFrom stepUpkeep CollectionStore.empty actions) := by
  have kept : ∀ state action, ListedVideosKept state ∧ Linked state → KeepsListed state action →
      ListedVideosKept (stepUpkeep state action) ∧ Linked (stepUpkeep state action) :=
    fun state action both keeps => stepUpkeep_kept both.1 both.2 keeps
  exact invariant_run_of_each kept
    ⟨fun row member => absurd member (Table.not_mem_empty row), linked_empty⟩ each

end Shiliu.Collection
