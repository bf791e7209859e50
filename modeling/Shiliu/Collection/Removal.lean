/-
Module: Shiliu.Collection.Removal
Purpose: Who may remove. `removed_at` is set on a membership or a video by an authoritative snapshot
  only; right after one the removed memberships of its source are the unlisted ones, and a video
  linked to the source is removed unless some source still lists it. In every state of every run a
  video that a source lists is not removed, whatever links were made in which order: a link always
  leads to the video of its bvid, so the video a scan brings back is the one its membership names.
Trusted boundary: none
Main exports: ListedVideosKept, RemovesNothing, removal_authority
-/
import Shiliu.Collection.Moves

set_option linter.all false

namespace Shiliu.Collection

open Shiliu.Library
open Shiliu.Storage

variable {store : CollectionStore}

/-! ## What is never removed -/

/-- A video that a present membership is linked to is not removed. -/
def ListedVideosKept (store : CollectionStore) : Prop :=
  ∀ row ∈ store.memberships, row.removedAt = none → ∀ video ∈ store.videos,
    row.videoId = some video.id → video.removedAt = none

/-- Whatever is removed afterwards was removed before, at the same time. -/
structure RemovesNothing (before after : CollectionStore) : Prop where
  memberships : ∀ row ∈ after.memberships, row.removedAt ≠ none →
    ∃ old ∈ before.memberships, old.key = row.key ∧ old.removedAt = row.removedAt
  videos : ∀ video ∈ after.videos, video.removedAt ≠ none →
    ∃ old ∈ before.videos, old.id = video.id ∧ old.removedAt = video.removedAt

theorem RemovesNothing.refl (store : CollectionStore) : RemovesNothing store store where
  memberships := fun row member _ => ⟨row, member, rfl, rfl⟩
  videos := fun video member _ => ⟨video, member, rfl, rfl⟩

theorem RemovesNothing.trans {first second third : CollectionStore}
    (one : RemovesNothing first second) (two : RemovesNothing second third) :
    RemovesNothing first third where
  memberships := by
    intro row member removed
    obtain ⟨middle, isMiddle, sameKey, sameTime⟩ := two.memberships row member removed
    obtain ⟨old, isOld, key, time⟩ := one.memberships middle isMiddle (sameTime ▸ removed)
    exact ⟨old, isOld, key.trans sameKey, time.trans sameTime⟩
  videos := by
    intro video member removed
    obtain ⟨middle, isMiddle, sameId, sameTime⟩ := two.videos video member removed
    obtain ⟨old, isOld, id, time⟩ := one.videos middle isMiddle (sameTime ▸ removed)
    exact ⟨old, isOld, id.trans sameId, time.trans sameTime⟩

variable {before after : CollectionStore} {item : FavoriteItem}

theorem Aside.removesNothing (aside : Aside before after) :
    RemovesNothing before after where
  memberships := fun row member _ => ⟨row, aside.memberships ▸ member, rfl, rfl⟩
  videos := fun video member _ => ⟨video, aside.videos ▸ member, rfl, rfl⟩

theorem removesNothing_of_videos (sameVideos : after.videos = before.videos)
    (rows : ∀ row ∈ after.memberships, ∃ old ∈ before.memberships, old.key = row.key ∧
      old.removedAt = row.removedAt) : RemovesNothing before after where
  memberships := fun row member _ => rows row member
  videos := fun video member _ => ⟨video, sameVideos ▸ member, rfl, rfl⟩

theorem removesNothing_updateWhere {select : Video → Bool} {change : Change Video.bvid}
    (keeps : KeepsId change)
    (quiet : ∀ video, (change.apply video).removedAt ≠ none →
      (change.apply video).removedAt = video.removedAt) :
    RemovesNothing store { store with videos := store.videos.updateWhere select change } where
  memberships := fun row member _ => ⟨row, member, rfl, rfl⟩
  videos := by
    intro video member removed
    obtain ⟨old, isOld, rfl⟩ := Table.mem_updateWhere.mp member
    refine ⟨old, isOld, ?_⟩
    by_cases selected : select old = true
    · rw [if_pos selected] at removed ⊢
      exact ⟨(keeps old).symm, (quiet old removed).symm⟩
    · rw [if_neg selected]
      exact ⟨rfl, rfl⟩

variable {id : Nat} {reenter : Bool} {bvid title uploader : String} {profile : ProcessingProfile}
  {displayFavoriteTime : Option Int} {durationSeconds : Int} {video : Video}

theorem removesNothing_observeVideo {now : ItemClock} :
    RemovesNothing store (observeVideo store id item reenter now) := by
  have observed : ∀ store : CollectionStore,
      RemovesNothing store (store.updateVideo id (Video.observed item)) := fun store =>
    removesNothing_updateWhere (keepsId_observed item) fun _ removed => absurd rfl removed
  cases reenter with
  | false => exact observed store
  | true =>
      exact (removesNothing_updateWhere (keepsId_reentered _) fun _ removed =>
        absurd rfl removed).trans (observed _)

theorem observeVideo_removedAt {now : ItemClock} :
    ∀ video ∈ (observeVideo store id item reenter now).videos, video.id = id →
      video.removedAt = none := by
  have observed : ∀ store : CollectionStore,
      ∀ video ∈ (store.updateVideo id (Video.observed item)).videos, video.id = id →
        video.removedAt = none := by
    intro store video member isVideo
    obtain ⟨old, -, rfl⟩ := Table.mem_updateWhere.mp member
    split at isVideo
    · rename_i selected
      rw [if_pos selected]
      rfl
    · rename_i other
      exact absurd (by simpa using isVideo) other
  cases reenter with
  | false => exact observed store
  | true => exact observed _

theorem mem_createVideo {now : Instant}
    (member : video ∈ (createVideo store bvid title uploader profile displayFavoriteTime
      durationSeconds now).1.videos) :
    (video.bvid = bvid ∧ video.removedAt = none) ∨
      (video.bvid ≠ bvid ∧ video ∈ store.videos) := by
  by_cases same : video.bvid = bvid
  · left
    refine ⟨same, ?_⟩
    have found := Table.lookup_of_mem member
    rw [same] at found
    have isVideo := videoBySource_createVideo_self.symm.trans found
    obtain rfl := Option.some.inj isVideo
    cases store.videoBySource bvid <;> rfl
  · right
    have found := Table.lookup_of_mem member
    rw [← CollectionStore.videoBySource, videoBySource_createVideo_of_ne same] at found
    exact ⟨same, Table.mem_of_lookup found⟩

theorem removesNothing_createVideo {now : Instant} :
    RemovesNothing store (createVideo store bvid title uploader profile displayFavoriteTime
      durationSeconds now).1 where
  memberships := by
    rw [createVideo_memberships]
    exact fun row member _ => ⟨row, member, rfl, rfl⟩
  videos := by
    intro video member removed
    rcases mem_createVideo member with ⟨-, kept⟩ | ⟨-, old⟩
    · exact absurd kept removed
    · exact ⟨video, old, rfl, rfl⟩

theorem removesNothing_membership {sourceId position : Nat} {videoId : Option Nat}
    {baseline queued : Bool} {now : Instant} :
    RemovesNothing store
      (membership store sourceId item position videoId baseline queued now) where
  memberships := by
    intro row member removed
    rcases mem_membership.mp member with rfl | ⟨old, -⟩
    · exact absurd listedRow_removedAt removed
    · exact ⟨row, old, rfl, rfl⟩
  videos := fun video member _ => ⟨video, member, rfl, rfl⟩

theorem removesNothing_coverMemberships {sourceId : Nat} {ids : List String} :
    RemovesNothing store (coverMemberships store sourceId ids) := by
  refine removesNothing_of_videos rfl fun row member => ?_
  obtain ⟨old, isOld, rfl⟩ := Table.mem_updateWhere.mp member
  refine ⟨old, isOld, ?_⟩
  split <;> exact ⟨rfl, rfl⟩

theorem Lists.removesNothing {sourceId : Nat} (lists : Lists sourceId item before after) :
    RemovesNothing before after := by
  cases lists with
  | unlinked => exact removesNothing_membership
  | linked prepared =>
      refine RemovesNothing.trans ?_
        (removesNothing_membership.trans removesNothing_observeVideo)
      cases prepared with
      | kept => exact RemovesNothing.refl before
      | created => exact removesNothing_createVideo

theorem Scan.removesNothing {sourceId : Nat} {items : List FavoriteItem}
    (scan : Scan sourceId items before after) :
    RemovesNothing before after := by
  induction scan with
  | nil => exact RemovesNothing.refl _
  | cons lists _ inductionHypothesis => exact lists.removesNothing.trans inductionHypothesis

/-- A call is an authoritative snapshot of a source. -/
def IsAuthoritativeSnapshot : CollectionAction → Prop
  | .recordSourceSnapshot _ _ _ _ authoritative _ _ => authoritative = true
  | _ => False

theorem Outline.removesNothing (linked : Linked store) {action : CollectionAction}
    (outline : Outline store action after) (other : ¬ IsAuthoritativeSnapshot action) :
    RemovesNothing store after := by
  cases outline with
  | aside aside => exact aside.removesNothing
  | changed keeps removedAt =>
      exact removesNothing_updateWhere keeps fun video _ => removedAt video
  | initialized guard closed =>
      exact (initializeLoop_start_scan linked guard).removesNothing.trans closed.removesNothing
  | @recorded _ _ _ _ authoritative _ _ _ _ guard closed =>
      simp only [IsAuthoritativeSnapshot, Bool.not_eq_true] at other
      rw [snapshotRows, other, if_neg Bool.false_ne_true] at closed
      exact (recordLoop_start_scan linked guard).removesNothing.trans closed.removesNothing
  | covered closed => exact removesNothing_coverMemberships.trans closed.removesNothing
  | materialized =>
      refine removesNothing_createVideo.trans (removesNothing_of_videos rfl fun row member => ?_)
      rcases Table.mem_modify.mp member with ⟨old, isOld, -, rfl⟩ | ⟨isOld, -⟩
      · exact ⟨old, isOld, rfl, rfl⟩
      · exact ⟨row, isOld, rfl, rfl⟩

/-! ## Listed videos are kept -/

theorem ListedVideosKept.old (kept : ListedVideosKept before)
    (removes : RemovesNothing before after) {row : SourceMembership}
    (member : row ∈ before.memberships) (present : row.removedAt = none)
    (isVideo : video ∈ after.videos) (isLink : row.videoId = some video.id) :
    video.removedAt = none := by
  by_contra removed
  obtain ⟨old, isOld, sameId, sameTime⟩ := removes.videos video isVideo removed
  exact removed (sameTime ▸ kept row member present old isOld (sameId ▸ isLink))

theorem ListedVideosKept.lists {sourceId : Nat} (kept : ListedVideosKept before)
    (linked : Linked before) (lists : Lists sourceId item before after) :
    ListedVideosKept after := by
  intro row member present video isVideo isLink
  have removes := lists.removesNothing
  cases lists with
  | unlinked quiet =>
      rcases mem_membership.mp member with rfl | ⟨old, -⟩
      · cases found : before.member sourceId item.bvid with
        | none =>
            rw [listedRow_of_absent found] at isLink
            cases isLink
        | some row =>
            rw [listedRow_of_member found] at isLink
            have sameLink : row.videoId = some video.id := by
              simpa [SourceMembership.listedAgain] using isLink
            rcases quiet row found with unlinked | wasPresent
            · exact absurd (unlinked.symm.trans sameLink) (by simp)
            · exact kept.old removes (member_eq_some.mp found).1
                (by simpa [SourceMembership.present] using wasPresent) isVideo sameLink
      · exact kept.old removes old present isVideo isLink
  | @linked ready position id baseline queued reenter now clock prepared isKnown =>
      rw [observeVideo_memberships] at member
      rcases mem_membership.mp member with rfl | ⟨old, -⟩
      · refine observeVideo_removedAt video isVideo ?_
        cases found : ready.member sourceId item.bvid with
        | none =>
            rw [listedRow_of_absent found] at isLink
            exact (Option.some.inj isLink).symm
        | some row =>
            rw [listedRow_of_member found] at isLink
            obtain ⟨isRow, -, isBvid⟩ := member_eq_some.mp found
            cases wasLink : row.videoId with
            | none => simpa [SourceMembership.listedAgain, wasLink, eq_comm] using isLink
            | some other =>
                -- the old link leads to the video of the same bvid
                have isOther := (linked.prepares prepared).link row isRow other wasLink
                rw [isBvid, isKnown] at isOther
                have same : other = video.id := by
                  simpa [SourceMembership.listedAgain, wasLink] using isLink
                exact same.symm.trans (Option.some.inj isOther).symm
      · exact kept.old removes (prepared.memberships ▸ old) present isVideo isLink

theorem ListedVideosKept.scan {sourceId : Nat} {items : List FavoriteItem}
    (scan : Scan sourceId items before after) (kept : ListedVideosKept before)
    (linked : Linked before) (exists_ : (before.sources.lookup sourceId).isSome) :
    ListedVideosKept after := by
  induction scan with
  | nil => exact kept
  | cons lists _ inductionHypothesis =>
      exact inductionHypothesis (kept.lists linked lists) (lists.linked_kept linked exists_)
        (lists.sources ▸ exists_)

/-! ## An authoritative snapshot -/

/-- A source has a membership that is linked to a video. -/
def LinksVideo (store : CollectionStore) (sourceId videoId : Nat) : Prop :=
  ∃ row ∈ store.memberships, row.sourceId = sourceId ∧ row.videoId = some videoId

theorem listsVideo_iff {videoId : Nat} :
    store.listsVideo videoId = true ↔
      ∃ row ∈ store.memberships, row.videoId = some videoId ∧ row.removedAt = none := by
  simp [CollectionStore.listsVideo, SourceMembership.present, Table.mem_rows]

section Snapshot

variable {sourceId : Nat} {items : List FavoriteItem} {now : Instant}

variable {row : SourceMembership} {video : Video}

theorem mem_unlistMemberships
    (member : row ∈ (unlistMemberships store sourceId items now).memberships) :
    ∃ old ∈ store.memberships, old.key = row.key ∧
      ((old.sourceId = sourceId ∧ old.bvid ∉ items.map FavoriteItem.bvid ∧ row.removedAt ≠ none) ∨
        (¬ (old.sourceId = sourceId ∧ old.bvid ∉ items.map FavoriteItem.bvid) ∧ row = old)) := by
  obtain ⟨old, isOld, rfl⟩ := Table.mem_updateWhere.mp member
  by_cases unlisted : old.sourceId = sourceId ∧ old.bvid ∉ items.map FavoriteItem.bvid
  · rw [if_pos (by simpa only [decide_eq_true_eq] using unlisted)]
    exact ⟨old, isOld, rfl, Or.inl ⟨unlisted.1, unlisted.2, by simp [SourceMembership.unlisted]⟩⟩
  · rw [if_neg (by simpa only [decide_eq_true_eq] using unlisted)]
    exact ⟨old, isOld, rfl, Or.inr ⟨unlisted, rfl⟩⟩

/-- The second update reads the memberships the first one left. -/
theorem mem_settleVideos (member : video ∈ (settleVideos store sourceId now).videos) :
    ∃ old ∈ store.videos, old.id = video.id ∧
      ((LinksVideo store sourceId video.id ∧
          (video.removedAt = none ↔ store.listsVideo video.id = true)) ∨
        (¬ LinksVideo store sourceId video.id ∧ video = old)) := by
  obtain ⟨old, isOld, rfl⟩ := Table.mem_updateWhere.mp member
  have selects : (store.memberships.rows.any fun row =>
      row.sourceId = sourceId ∧ row.videoId = some old.id) = true ↔
        LinksVideo store sourceId old.id := by
    simp [LinksVideo, Table.mem_rows]
  by_cases links : LinksVideo store sourceId old.id
  · rw [if_pos (selects.mpr links)]
    refine ⟨old, isOld, rfl, Or.inl ⟨links, ?_⟩⟩
    by_cases listed : store.listsVideo old.id = true <;> simp [Video.settledRemoval, listed]
  · rw [if_neg fun selected => links (selects.mp selected)]
    exact ⟨old, isOld, rfl, Or.inr ⟨links, rfl⟩⟩

/-- Of the memberships of the source the unlisted ones are removed, when the scan has brought the
listed ones back. -/
theorem unlistMemberships_removed_iff
    (listed : ∀ item ∈ items, ∃ row, store.member sourceId item.bvid = some row ∧
      row.present = true) (member : row ∈ (unlistMemberships store sourceId items now).memberships)
    (ofSource : row.sourceId = sourceId) :
    row.removedAt ≠ none ↔ row.bvid ∉ items.map FavoriteItem.bvid := by
  obtain ⟨old, isOld, sameKey, ⟨-, unlisted, removed⟩ | ⟨isListed, rfl⟩⟩ :=
    mem_unlistMemberships member
  · obtain ⟨-, sameBvid⟩ := Prod.mk.inj sameKey
    exact iff_of_true removed (sameBvid ▸ unlisted)
  · have isBvid : row.bvid ∈ items.map FavoriteItem.bvid := by
      by_contra unlisted
      exact isListed ⟨ofSource, unlisted⟩
    obtain ⟨item, isItem, sameBvid⟩ := List.mem_map.mp isBvid
    obtain ⟨found, isFound, present⟩ := listed item isItem
    obtain rfl : row = found := Option.some.inj
      ((member_eq_some.mpr ⟨isOld, ofSource, sameBvid.symm⟩).symm.trans isFound)
    have kept : row.removedAt = none := by simpa [SourceMembership.present] using present
    exact iff_of_false (fun removed => removed kept) fun unlisted => unlisted isBvid

theorem settleVideos_removed (member : video ∈ (settleVideos store sourceId now).videos)
    (links : LinksVideo store sourceId video.id)
    (unlisted : ∀ row ∈ store.memberships, row.videoId = some video.id → row.removedAt ≠ none) :
    video.removedAt ≠ none := by
  obtain ⟨-, -, -, ⟨-, settled⟩ | ⟨apart, -⟩⟩ := mem_settleVideos member
  · intro kept
    obtain ⟨row, isRow, isLink, present⟩ := listsVideo_iff.mp (settled.mp kept)
    exact unlisted row isRow isLink present
  · exact absurd links apart

theorem ListedVideosKept.unlistMemberships (kept : ListedVideosKept store) :
    ListedVideosKept (unlistMemberships store sourceId items now) := by
  intro row member present video isVideo isLink
  obtain ⟨before, isBefore, -, ⟨-, -, removed⟩ | ⟨-, rfl⟩⟩ := mem_unlistMemberships member
  · exact absurd present removed
  · exact kept row isBefore present video isVideo isLink

theorem ListedVideosKept.settleVideos (kept : ListedVideosKept store) :
    ListedVideosKept (settleVideos store sourceId now) := by
  intro row member present video isVideo isLink
  obtain ⟨old, isOld, -, ⟨-, settled⟩ | ⟨-, rfl⟩⟩ := mem_settleVideos isVideo
  · exact settled.mpr (listsVideo_iff.mpr ⟨row, member, isLink, present⟩)
  · exact kept row member present video isOld isLink

theorem ListedVideosKept.snapshotRows (kept : ListedVideosKept store) {authoritative : Bool} :
    ListedVideosKept (snapshotRows store sourceId items authoritative now) := by
  unfold Collection.snapshotRows
  split
  · exact kept.unlistMemberships.settleVideos
  · exact kept

end Snapshot

variable {after : CollectionStore}

theorem ListedVideosKept.aside {before : CollectionStore} (kept : ListedVideosKept before)
    (aside : Aside before after) : ListedVideosKept after := by
  unfold ListedVideosKept
  rw [aside.memberships, aside.videos]
  exact kept

variable {bvid : String} {profile : ProcessingProfile}

theorem createdVideo_removedAt (linked : Linked store) {title uploader : String}
    {displayFavoriteTime : Option Int} {durationSeconds : Int} {now : Instant} {video : Video}
    (isVideo : video ∈ (createVideo store bvid title uploader profile displayFavoriteTime
      durationSeconds now).1.videos)
    (isId : video.id = (createVideo store bvid title uploader profile displayFavoriteTime
      durationSeconds now).2) : video.removedAt = none := by
  rcases mem_createVideo isVideo with ⟨-, kept⟩ | ⟨different, -⟩
  · exact kept
  · have isKnown : (createVideo store bvid title uploader profile displayFavoriteTime
        durationSeconds now).1.videoIdOf bvid = some video.id :=
      isId ▸ videoIdOf_createVideo_self
    obtain ⟨created, isCreated, sameId⟩ := Option.map_eq_some_iff.mp isKnown
    have same := linked.createVideo.videoIds video isVideo created
      (Table.mem_of_lookup isCreated) sameId.symm
    exact absurd (same ▸ Table.key_of_lookup isCreated) different

theorem ListedVideosKept.materialized (kept : ListedVideosKept store) {sourceId id : Nat}
    (fresh : ∀ video ∈ store.videos, video.id = id → video.removedAt = none) :
    ListedVideosKept (store.updateMembership sourceId bvid (SourceMembership.materialized id)) := by
  intro row member present video isVideo isLink
  rcases Table.mem_modify.mp member with ⟨old, -, -, rfl⟩ | ⟨old, -⟩
  · exact fresh video isVideo (Option.some.inj isLink).symm
  · exact kept row old present video isVideo isLink

theorem ListedVideosKept.outline (kept : ListedVideosKept store) (linked : Linked store)
    {action : CollectionAction} (outline : Outline store action after) :
    ListedVideosKept after := by
  cases outline with
  | aside aside => exact kept.aside aside
  | changed keeps removedAt =>
      intro row member present video isVideo isLink
      refine kept.old ?_ member present isVideo isLink
      exact removesNothing_updateWhere keeps fun video _ => removedAt video
  | initialized guard closed =>
      exact (ListedVideosKept.scan (initializeLoop_start_scan linked guard) kept linked
        (sourceGuard_exists guard)).aside closed
  | recorded guard closed =>
      exact (ListedVideosKept.scan (recordLoop_start_scan linked guard) kept linked
        (sourceGuard_exists guard)).snapshotRows.aside closed
  | covered closed =>
      refine ListedVideosKept.aside ?_ closed
      intro row member present video isVideo isLink
      obtain ⟨old, isOld, rfl⟩ := Table.mem_updateWhere.mp member
      split at present
      · rename_i selected
        rw [if_pos selected] at isLink
        exact kept old isOld present video isVideo isLink
      · rename_i selected
        rw [if_neg selected] at isLink
        exact kept old isOld present video isVideo isLink
  | materialized =>
      exact ListedVideosKept.materialized
        (fun row member present video isVideo isLink => kept.old removesNothing_createVideo
          (createVideo_memberships ▸ member) present isVideo isLink)
        fun video isVideo isId => createdVideo_removedAt linked isVideo isId

/-! ## Runs -/

theorem listedVideosKept_run (actions : List CollectionAction) :
    ListedVideosKept (runFrom stepCollection CollectionStore.empty actions) ∧
      Linked (runFrom stepCollection CollectionStore.empty actions) := by
  have kept : ∀ state action, ListedVideosKept state ∧ Linked state →
      ListedVideosKept (stepCollection state action) ∧ Linked (stepCollection state action) := by
    intro state action both
    refine ⟨?_, both.2.step action⟩
    rcases stepCollection_outline state action with same | outline
    · exact same.symm ▸ both.1
    · exact both.1.outline both.2 outline
  exact invariant_run kept ⟨fun row member => absurd member (Table.not_mem_empty row), linked_empty⟩
    actions

/-- What a committed authoritative snapshot of a source leaves. -/
structure SettledSnapshot (after : CollectionStore) (sourceId : Nat) (items : List FavoriteItem) :
    Prop where
  removed_iff : ∀ row ∈ after.memberships, row.sourceId = sourceId →
    (row.removedAt ≠ none ↔ row.bvid ∉ items.map FavoriteItem.bvid)
  videos : ∀ video ∈ after.videos, LinksVideo after sourceId video.id →
    (∀ row ∈ after.memberships, row.videoId = some video.id → row.removedAt ≠ none) →
      video.removedAt ≠ none

theorem authoritative_settles (linked : Linked store) {clock : CallClock} {sourceId : Nat}
    {items : List FavoriteItem} {remoteTotal : Option Int} {held : Option Claim}
    {created : List Nat}
    (done : recordSourceSnapshot store clock sourceId items profile true remoteTotal held =
      .ok (after, created)) : SettledSnapshot after sourceId items := by
  obtain ⟨source, guard, closed⟩ := recordSourceSnapshot_ok done
  have scan : Scan sourceId items store (items.zipIdx.foldl
      (recordItem sourceId (store.member sourceId) profile clock) (store, [])).1 :=
    recordLoop_start_scan linked guard
  rw [snapshotRows, if_pos rfl] at closed
  constructor
  · rw [closed.memberships]
    exact fun row member ofSource => unlistMemberships_removed_iff scan.listed member ofSource
  · unfold LinksVideo
    rw [closed.memberships, closed.videos]
    exact fun video member links unlisted => settleVideos_removed member links unlisted

/-- Removal authority, for every run from an empty workspace and every call after it: only an
authoritative snapshot removes anything, so a partial one never does; an authoritative snapshot
that commits removes the unlisted memberships of its source and no listed one, and each video of
the source that no source lists; and a video some source lists is not removed, at any time. -/
theorem removal_authority (actions : List CollectionAction) :
    ListedVideosKept (runFrom stepCollection CollectionStore.empty actions) ∧
      (∀ action, ¬ IsAuthoritativeSnapshot action →
        RemovesNothing (runFrom stepCollection CollectionStore.empty actions)
          (runFrom stepCollection CollectionStore.empty (actions ++ [action]))) ∧
      ∀ clock sourceId items profile remoteTotal held after created,
        recordSourceSnapshot (runFrom stepCollection CollectionStore.empty actions) clock sourceId
            items profile true remoteTotal held = .ok (after, created) →
          SettledSnapshot after sourceId items := by
  obtain ⟨kept, linked⟩ := listedVideosKept_run actions
  refine ⟨kept, fun action other => ?_, fun clock sourceId items profile remoteTotal held after
    created done => authoritative_settles linked done⟩
  rw [runFrom_concat]
  rcases stepCollection_outline (runFrom stepCollection CollectionStore.empty actions) action with
    same | outline
  · rw [same]
    exact RemovesNothing.refl _
  · exact outline.removesNothing linked other

end Shiliu.Collection
