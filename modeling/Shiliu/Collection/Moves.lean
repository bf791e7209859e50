/-
Module: Shiliu.Collection.Moves
Purpose: What the operations can do to the tables, said once. Every write of a scan is a video
  upsert, a membership upsert or a change of one video, so the loops of the scans are runs of these
  writes; an operation that returned is one of five shapes. Each keeps the links between the tables
  (`Linked`).
Trusted boundary: none
Main exports: videoIdOf, Linked, Outline, transact_outline
-/
import Shiliu.Library.Transition
import Shiliu.Collection.Sync

set_option linter.all false

namespace Shiliu.Collection

open Shiliu.Library
open Shiliu.Storage

variable {store : CollectionStore}

/-! ## What each write leaves alone -/

section Frames

variable {sourceId position id : Nat} {item : FavoriteItem} {videoId : Option Nat}
  {baseline queued reenter : Bool} {now : Instant} {clock : ItemClock}
  {change : Change Video.bvid}

@[simp] theorem membership_sources :
    (membership store sourceId item position videoId baseline queued now).sources =
      store.sources := rfl

@[simp] theorem observeVideo_memberships :
    (observeVideo store id item reenter clock).memberships = store.memberships := by
  cases reenter <;> rfl

@[simp] theorem member_observeVideo {bvid : String} :
    (observeVideo store id item reenter clock).member sourceId bvid = store.member sourceId bvid := by
  cases reenter <;> rfl

@[simp] theorem observeVideo_sources :
    (observeVideo store id item reenter clock).sources = store.sources := by
  cases reenter <;> rfl

variable {bvid title uploader : String} {profile : ProcessingProfile}
  {displayFavoriteTime : Option Int} {durationSeconds : Int}

@[simp] theorem createVideo_memberships :
    (createVideo store bvid title uploader profile displayFavoriteTime durationSeconds
      now).1.memberships = store.memberships := by
  unfold createVideo
  cases store.videoBySource bvid <;> rfl

@[simp] theorem createVideo_sources :
    (createVideo store bvid title uploader profile displayFavoriteTime durationSeconds
      now).1.sources = store.sources := by
  unfold createVideo
  cases store.videoBySource bvid <;> rfl

@[simp] theorem createVideo_membershipHighwater :
    (createVideo store bvid title uploader profile displayFavoriteTime durationSeconds
      now).1.membershipHighwater = store.membershipHighwater := by
  unfold createVideo
  cases store.videoBySource bvid <;> rfl

end Frames

/-! ## Ids of videos -/

/-- The id of the video with a bvid. -/
def CollectionStore.videoIdOf (store : CollectionStore) (bvid : String) : Option Nat :=
  (store.videoBySource bvid).map Video.id

/-- No video was lost or renumbered. -/
def KeepsVideos (before after : CollectionStore) : Prop :=
  ∀ bvid id, before.videoIdOf bvid = some id → after.videoIdOf bvid = some id

/-- A change of a video that leaves its id alone. -/
def KeepsId (change : Change Video.bvid) : Prop :=
  ∀ video, (change.apply video).id = video.id

theorem videoIdOf_updateWhere {select : Video → Bool} {change : Change Video.bvid}
    (keeps : KeepsId change) (bvid : String) :
    ({ store with videos := store.videos.updateWhere select change } :
      CollectionStore).videoIdOf bvid = store.videoIdOf bvid := by
  simp only [CollectionStore.videoIdOf, CollectionStore.videoBySource, Table.lookup_updateWhere,
    Option.map_map]
  cases store.videos.lookup bvid with
  | none => rfl
  | some video =>
      by_cases selected : select video <;> simp [selected, keeps video]

theorem videoIdOf_updateVideo {id : Nat} {change : Change Video.bvid} (keeps : KeepsId change)
    (bvid : String) : (store.updateVideo id change).videoIdOf bvid = store.videoIdOf bvid :=
  videoIdOf_updateWhere keeps bvid

theorem keepsId_reentered (time : Int) : KeepsId (Video.reentered time) := fun _ => rfl

theorem keepsId_observed (item : FavoriteItem) : KeepsId (Video.observed item) := fun _ => rfl

theorem videoIdOf_observeVideo {id : Nat} {item : FavoriteItem} {reenter : Bool} {now : ItemClock}
    (bvid : String) :
    (observeVideo store id item reenter now).videoIdOf bvid = store.videoIdOf bvid := by
  unfold observeVideo
  rw [videoIdOf_updateVideo (keepsId_observed item)]
  cases reenter with
  | false => rfl
  | true => exact videoIdOf_updateVideo (keepsId_reentered _) bvid

section CreateVideo

variable {bvid title uploader : String} {profile : ProcessingProfile}
  {displayFavoriteTime : Option Int} {durationSeconds : Int} {now : Instant}

theorem videoBySource_createVideo_self :
    (createVideo store bvid title uploader profile displayFavoriteTime durationSeconds
      now).1.videoBySource bvid =
      some (((store.videoBySource bvid).map
        (Video.createdAgain title uploader displayFavoriteTime (max 0 durationSeconds)).apply).getD
          (newVideo (store.videoHighwater + 1) bvid title uploader profile displayFavoriteTime
            (max 0 durationSeconds) now)) := by
  unfold createVideo
  cases existing : store.videoBySource bvid with
  | none =>
      exact Table.lookup_upsert_self.trans (congrArg some (Table.upserted_of_absent existing))
  | some video =>
      exact Table.lookup_upsert_self.trans (congrArg some (Table.upserted_of_lookup existing))

theorem videoIdOf_createVideo_self :
    (createVideo store bvid title uploader profile displayFavoriteTime durationSeconds
      now).1.videoIdOf bvid =
      some (createVideo store bvid title uploader profile displayFavoriteTime durationSeconds
        now).2 := by
  rw [CollectionStore.videoIdOf, videoBySource_createVideo_self]
  unfold createVideo
  cases store.videoBySource bvid <;> rfl

theorem videoBySource_createVideo_of_ne {other : String} (different : other ≠ bvid) :
    (createVideo store bvid title uploader profile displayFavoriteTime durationSeconds
      now).1.videoBySource other = store.videoBySource other := by
  unfold createVideo
  cases store.videoBySource bvid <;> exact Table.lookup_upsert_of_ne different

theorem keepsVideos_createVideo :
    KeepsVideos store
      (createVideo store bvid title uploader profile displayFavoriteTime durationSeconds
        now).1 := by
  intro other id found
  by_cases same : other = bvid
  · subst same
    rw [videoIdOf_createVideo_self]
    unfold createVideo
    obtain ⟨video, isVideo, rfl⟩ := Option.map_eq_some_iff.mp found
    rw [isVideo]
  · rw [CollectionStore.videoIdOf, videoBySource_createVideo_of_ne same]
    exact found

end CreateVideo

/-! ## The row of a listed item -/

section Listed

variable {sourceId position : Nat} {item : FavoriteItem} {videoId : Option Nat}
  {baseline queued : Bool} {now : Instant}

/-- The row `_membership` leaves: the merge of the one there was, or a new one. -/
def listedRow (store : CollectionStore) (sourceId : Nat) (item : FavoriteItem) (position : Nat)
    (videoId : Option Nat) (baseline queued : Bool) (now : Instant) : SourceMembership :=
  ((store.member sourceId item.bvid).map
    (SourceMembership.listedAgain item position videoId now).apply).getD
      (newMembership (store.membershipHighwater + 1) sourceId item position videoId baseline queued
        now)

theorem listedRow_of_absent (absent : store.member sourceId item.bvid = none) :
    listedRow store sourceId item position videoId baseline queued now =
      newMembership (store.membershipHighwater + 1) sourceId item position videoId baseline queued
        now := by
  rw [listedRow, absent, Option.map_none, Option.getD_none]

theorem listedRow_of_member {present : SourceMembership}
    (found : store.member sourceId item.bvid = some present) :
    listedRow store sourceId item position videoId baseline queued now =
      (SourceMembership.listedAgain item position videoId now).apply present := by
  rw [listedRow, found, Option.map_some, Option.getD_some]

theorem mem_membership {row : SourceMembership} :
    row ∈ (membership store sourceId item position videoId baseline queued now).memberships ↔
      row = listedRow store sourceId item position videoId baseline queued now ∨
        (row ∈ store.memberships ∧ row.key ≠ (sourceId, item.bvid)) :=
  Table.mem_upsert

theorem member_membership_self :
    (membership store sourceId item position videoId baseline queued now).member sourceId item.bvid =
      some (listedRow store sourceId item position videoId baseline queued now) :=
  Table.lookup_upsert_self

theorem member_membership_of_ne {otherSource : Nat} {bvid : String}
    (different : (otherSource, bvid) ≠ (sourceId, item.bvid)) :
    (membership store sourceId item position videoId baseline queued now).member otherSource bvid =
      store.member otherSource bvid :=
  Table.lookup_upsert_of_ne different

@[simp] theorem listedRow_removedAt :
    (listedRow store sourceId item position videoId baseline queued now).removedAt = none := by
  cases found : store.member sourceId item.bvid with
  | none => rw [listedRow_of_absent found]; rfl
  | some present => rw [listedRow_of_member found]; rfl

end Listed

theorem member_eq_some {sourceId : Nat} {bvid : String} {row : SourceMembership} :
    store.member sourceId bvid = some row ↔
      row ∈ store.memberships ∧ row.sourceId = sourceId ∧ row.bvid = bvid := by
  rw [CollectionStore.member, Table.lookup_eq_some, SourceMembership.key, Prod.mk.injEq]

/-! ## Links between the tables -/

/-- Ids are given once, and a link leads to the video with the bvid of the membership. -/
structure Linked (store : CollectionStore) : Prop where
  videoIds : ∀ first ∈ store.videos, ∀ second ∈ store.videos, first.id = second.id →
    first = second
  videoFresh : ∀ video ∈ store.videos, video.id ≤ store.videoHighwater
  seqFresh : ∀ row ∈ store.memberships, row.membershipSeq ≤ store.membershipHighwater
  link : ∀ row ∈ store.memberships, ∀ id, row.videoId = some id →
    store.videoIdOf row.bvid = some id
  source : ∀ row ∈ store.memberships, (store.sources.lookup row.sourceId).isSome

theorem linked_empty : Linked CollectionStore.empty where
  videoIds := fun _ member => absurd member (Table.not_mem_empty _)
  videoFresh := fun _ member => absurd member (Table.not_mem_empty _)
  seqFresh := fun _ member => absurd member (Table.not_mem_empty _)
  link := fun _ member => absurd member (Table.not_mem_empty _)
  source := fun _ member => absurd member (Table.not_mem_empty _)

theorem Linked.updateWhere (linked : Linked store) {select : Video → Bool}
    {change : Change Video.bvid} (keeps : KeepsId change) :
    Linked { store with videos := store.videos.updateWhere select change } where
  videoIds := by
    intro first isFirst second isSecond same
    obtain ⟨one, oneIn, rfl⟩ := Table.mem_updateWhere.mp isFirst
    obtain ⟨two, twoIn, rfl⟩ := Table.mem_updateWhere.mp isSecond
    have ids : ∀ video : Video, (if select video then change.apply video else video).id =
        video.id := by
      intro video
      split
      · exact keeps video
      · rfl
    rw [ids, ids] at same
    rw [linked.videoIds one oneIn two twoIn same]
  videoFresh := by
    intro video isVideo
    obtain ⟨before, member, rfl⟩ := Table.mem_updateWhere.mp isVideo
    have fresh := linked.videoFresh before member
    split
    · exact (keeps before).symm ▸ fresh
    · exact fresh
  seqFresh := linked.seqFresh
  link := fun row member id isLink =>
    (videoIdOf_updateWhere keeps row.bvid).trans (linked.link row member id isLink)
  source := linked.source

theorem Linked.observeVideo (linked : Linked store) {id : Nat} {item : FavoriteItem}
    {reenter : Bool} {now : ItemClock} : Linked (observeVideo store id item reenter now) := by
  cases reenter with
  | false => exact linked.updateWhere (keepsId_observed item)
  | true =>
      exact Linked.updateWhere (linked.updateWhere (keepsId_reentered _)) (keepsId_observed item)

theorem Linked.createVideo (linked : Linked store) {bvid title uploader : String}
    {profile : ProcessingProfile} {displayFavoriteTime : Option Int} {durationSeconds : Int}
    {now : Instant} :
    Linked (createVideo store bvid title uploader profile displayFavoriteTime durationSeconds
      now).1 := by
  have link : ∀ row ∈ store.memberships, ∀ id, row.videoId = some id →
      (Collection.createVideo store bvid title uploader profile displayFavoriteTime
        durationSeconds now).1.videoIdOf row.bvid = some id :=
    fun row member id isLink => keepsVideos_createVideo _ _ (linked.link row member id isLink)
  cases existing : store.videoBySource bvid with
  | some video =>
      have isMerge : (Collection.createVideo store bvid title uploader profile
          displayFavoriteTime durationSeconds now).1 =
          { store with
            videos := store.videos.updateWhere (fun row => row.bvid = bvid)
              (Video.createdAgain title uploader displayFavoriteTime (max 0 durationSeconds)) } := by
        unfold Collection.createVideo
        rw [existing]
        simp only [Table.upsert, show (newVideo (store.videoHighwater + 1) bvid title uploader
          profile displayFavoriteTime (max 0 durationSeconds) now).bvid = bvid from rfl]
        rw [show store.videos.lookup bvid = some video from existing]
        rfl
      rw [isMerge]
      exact linked.updateWhere fun _ => rfl
  | none =>
      have videos : ∀ video, video ∈ (Collection.createVideo store bvid title uploader profile
          displayFavoriteTime durationSeconds now).1.videos ↔ video ∈ store.videos ∨
            video = newVideo (store.videoHighwater + 1) bvid title uploader profile
              displayFavoriteTime (max 0 durationSeconds) now := by
        intro video
        unfold Collection.createVideo
        rw [existing]
        have absent : store.videos.lookup (newVideo (store.videoHighwater + 1) bvid title uploader
            profile displayFavoriteTime (max 0 durationSeconds) now).bvid = none := existing
        simp only [Table.upsert, absent, Option.isSome_none, Bool.false_eq_true, if_false]
        exact Table.mem_insert absent
      have highwater : (Collection.createVideo store bvid title uploader profile
          displayFavoriteTime durationSeconds now).1.videoHighwater = store.videoHighwater + 1 := by
        unfold Collection.createVideo
        rw [existing]
      have fresh : ∀ video ∈ store.videos, video.id ≠ store.videoHighwater + 1 := by
        intro video member same
        have := linked.videoFresh video member
        omega
      refine ⟨?_, ?_, ?_, ?_, ?_⟩
      · intro first isFirst second isSecond same
        rcases (videos first).mp isFirst with old | rfl
        · rcases (videos second).mp isSecond with other | rfl
          · exact linked.videoIds first old second other same
          · exact absurd same (fresh first old)
        · rcases (videos second).mp isSecond with other | rfl
          · exact absurd same.symm (fresh second other)
          · rfl
      · intro video isVideo
        rw [highwater]
        rcases (videos video).mp isVideo with old | rfl
        · exact (linked.videoFresh video old).trans (Nat.le_succ _)
        · exact le_refl _
      · rw [createVideo_memberships, createVideo_membershipHighwater]
        exact linked.seqFresh
      · rw [createVideo_memberships]
        exact link
      · rw [createVideo_memberships, createVideo_sources]
        exact linked.source

theorem Linked.membership (linked : Linked store) {sourceId position : Nat} {item : FavoriteItem}
    {videoId : Option Nat} {baseline queued : Bool} {now : Instant}
    (exists_ : (store.sources.lookup sourceId).isSome)
    (isLink : ∀ id, videoId = some id → store.videoIdOf item.bvid = some id) :
    Linked (membership store sourceId item position videoId baseline queued now) := by
  have rows : ∀ row, row ∈ (Collection.membership store sourceId item position videoId baseline
      queued now).memberships → row ∈ store.memberships ∨
        ((∀ id, row.videoId = some id → store.videoIdOf row.bvid = some id) ∧
          row.sourceId = sourceId ∧
          row.membershipSeq ≤ (Collection.membership store sourceId item position videoId
            baseline queued now).membershipHighwater) := by
    intro row isRow
    rcases mem_membership.mp isRow with rfl | ⟨old, -⟩
    · right
      cases found : store.member sourceId item.bvid with
      | none =>
          rw [listedRow_of_absent found]
          exact ⟨isLink, rfl, by simp [Collection.membership, found, newMembership]⟩
      | some present =>
          obtain ⟨member, sameSource, sameBvid⟩ := member_eq_some.mp found
          rw [listedRow_of_member found]
          refine ⟨?_, sameSource, ?_⟩
          · intro id isId
            show store.videoIdOf present.bvid = some id
            cases old : present.videoId with
            | none =>
                rw [sameBvid]
                refine isLink id ?_
                simpa [SourceMembership.listedAgain, old] using isId
            | some other =>
                have same : other = id := by
                  simpa [SourceMembership.listedAgain, old] using isId
                exact linked.link present member id (same ▸ old)
          · simpa [Collection.membership, found, SourceMembership.listedAgain] using
              linked.seqFresh present member
    · exact Or.inl old
  have grows : store.membershipHighwater ≤ (Collection.membership store sourceId item position
      videoId baseline queued now).membershipHighwater := by
    simp only [Collection.membership]
    split <;> omega
  refine ⟨linked.videoIds, linked.videoFresh, ?_, ?_, ?_⟩
  · intro row isRow
    rcases rows row isRow with old | ⟨-, -, fresh⟩
    · exact (linked.seqFresh row old).trans grows
    · exact fresh
  · intro row isRow
    rcases rows row isRow with old | ⟨link, -, -⟩
    · exact linked.link row old
    · exact link
  · intro row isRow
    rcases rows row isRow with old | ⟨-, same, -⟩
    · exact linked.source row old
    · exact same ▸ exists_

theorem Linked.updateMemberships (linked : Linked store) {select : SourceMembership → Bool}
    {change : Change SourceMembership.key}
    (keeps : ∀ row, (change.apply row).videoId = row.videoId ∧
      (change.apply row).membershipSeq = row.membershipSeq) :
    Linked { store with memberships := store.memberships.updateWhere select change } := by
  have rows : ∀ after ∈ store.memberships.updateWhere select change, ∃ before ∈ store.memberships,
      after.key = before.key ∧ after.videoId = before.videoId ∧
        after.membershipSeq = before.membershipSeq := by
    intro after isAfter
    obtain ⟨before, member, rfl⟩ := Table.mem_updateWhere.mp isAfter
    refine ⟨before, member, ?_⟩
    split
    · exact ⟨change.keeps before, keeps before⟩
    · exact ⟨rfl, rfl, rfl⟩
  refine ⟨linked.videoIds, linked.videoFresh, ?_, ?_, ?_⟩
  · intro after isAfter
    obtain ⟨before, member, -, -, sameSeq⟩ := rows after isAfter
    rw [sameSeq]
    exact linked.seqFresh before member
  · intro after isAfter id isLink
    obtain ⟨before, member, sameKey, sameVideo, -⟩ := rows after isAfter
    rw [show after.bvid = before.bvid from (Prod.mk.inj sameKey).2]
    exact linked.link before member id (sameVideo ▸ isLink)
  · intro after isAfter
    obtain ⟨before, member, sameKey, -, -⟩ := rows after isAfter
    rw [show after.sourceId = before.sourceId from (Prod.mk.inj sameKey).1]
    exact linked.source before member

theorem Linked.materialized (linked : Linked store) {sourceId id : Nat} {bvid : String}
    (isVideo : store.videoIdOf bvid = some id) :
    Linked (store.updateMembership sourceId bvid (SourceMembership.materialized id)) := by
  have rows : ∀ after ∈ (store.updateMembership sourceId bvid
      (SourceMembership.materialized id)).memberships, ∃ before ∈ store.memberships,
        after.key = before.key ∧ after.membershipSeq = before.membershipSeq ∧
          (after.videoId = before.videoId ∨ (after.bvid = bvid ∧ after.videoId = some id)) := by
    intro after isAfter
    rcases Table.mem_modify.mp isAfter with ⟨before, member, isKey, rfl⟩ | ⟨member, -⟩
    · exact ⟨before, member, rfl, rfl, Or.inr ⟨(Prod.mk.inj isKey).2, rfl⟩⟩
    · exact ⟨after, member, rfl, rfl, Or.inl rfl⟩
  refine ⟨linked.videoIds, linked.videoFresh, ?_, ?_, ?_⟩
  · intro after isAfter
    obtain ⟨before, member, -, sameSeq, -⟩ := rows after isAfter
    rw [sameSeq]
    exact linked.seqFresh before member
  · intro after isAfter other isLink
    obtain ⟨before, member, sameKey, -, same | ⟨isBvid, isId⟩⟩ := rows after isAfter
    · rw [show after.bvid = before.bvid from (Prod.mk.inj sameKey).2]
      exact linked.link before member other (same ▸ isLink)
    · obtain rfl : id = other := Option.some.inj (isId.symm.trans isLink)
      rw [isBvid]
      exact isVideo
  · intro after isAfter
    obtain ⟨before, member, sameKey, -, -⟩ := rows after isAfter
    rw [show after.sourceId = before.sourceId from (Prod.mk.inj sameKey).1]
    exact linked.source before member

/-! ## Scans

A scan lists one item after another. Listing an item may create its video first, then writes the
membership, then the video it is linked to. -/

/-- The video of an item is created before the item is listed, or is left as it is. -/
inductive Prepares (before : CollectionStore) (bvid : String) : CollectionStore → Prop where
  | kept : Prepares before bvid before
  | created {title uploader : String} {profile : ProcessingProfile}
      {displayFavoriteTime : Option Int} {durationSeconds : Int} {now : Instant} :
      Prepares before bvid (createVideo before bvid title uploader profile displayFavoriteTime
        durationSeconds now).1

/-- An item is listed without a video, or with the video of its bvid. A link that is already there
was not removed, or else the item is listed with its video. -/
inductive Lists (sourceId : Nat) (item : FavoriteItem) (before : CollectionStore) :
    CollectionStore → Prop where
  | unlinked {position : Nat} {baseline queued : Bool} {now : Instant}
      (quiet : ∀ row, before.member sourceId item.bvid = some row →
        row.videoId = none ∨ row.present = true) :
      Lists sourceId item before
        (membership before sourceId item position none baseline queued now)
  | linked {ready : CollectionStore} {position id : Nat} {baseline queued reenter : Bool}
      {now : Instant} {clock : ItemClock} (prepared : Prepares before item.bvid ready)
      (isVideo : ready.videoIdOf item.bvid = some id) :
      Lists sourceId item before
        (observeVideo (membership ready sourceId item position (some id) baseline queued now) id
          item reenter clock)

/-- A scan of a source. -/
inductive Scan (sourceId : Nat) : List FavoriteItem → CollectionStore → CollectionStore → Prop where
  | nil {store : CollectionStore} : Scan sourceId [] store store
  | cons {item : FavoriteItem} {rest : List FavoriteItem} {before middle after : CollectionStore}
      (lists : Lists sourceId item before middle) (scan : Scan sourceId rest middle after) :
      Scan sourceId (item :: rest) before after

variable {ready : CollectionStore}

theorem Prepares.memberships {before : CollectionStore} {bvid : String}
    (prepared : Prepares before bvid ready) : ready.memberships = before.memberships := by
  cases prepared with
  | kept => rfl
  | created => exact createVideo_memberships

theorem Prepares.sources {before : CollectionStore} {bvid : String}
    (prepared : Prepares before bvid ready) : ready.sources = before.sources := by
  cases prepared with
  | kept => rfl
  | created => exact createVideo_sources

theorem Linked.prepares {before : CollectionStore} {bvid : String} (linked : Linked before)
    (prepared : Prepares before bvid ready) : Linked ready := by
  cases prepared with
  | kept => exact linked
  | created => exact linked.createVideo

/-- What listing does to a row that is there: it loses no link, and is not removed by it. -/
structure Relisted (old new : SourceMembership) : Prop where
  seq : new.membershipSeq = old.membershipSeq
  queued : new.queuedHistory = old.queuedHistory
  link : ∀ id, old.videoId = some id → new.videoId = some id
  present : old.present = true → new.present = true

theorem Relisted.refl (row : SourceMembership) : Relisted row row :=
  ⟨rfl, rfl, fun _ same => same, fun same => same⟩

theorem Relisted.trans {first second third : SourceMembership} (one : Relisted first second)
    (two : Relisted second third) : Relisted first third :=
  ⟨two.seq.trans one.seq, two.queued.trans one.queued, fun id same => two.link id (one.link id same),
    fun same => two.present (one.present same)⟩

/-- Every membership is still there, relisted. -/
def KeepsMembers (before after : CollectionStore) : Prop :=
  ∀ sourceId bvid old, before.member sourceId bvid = some old →
    ∃ new, after.member sourceId bvid = some new ∧ Relisted old new

theorem KeepsMembers.refl (store : CollectionStore) : KeepsMembers store store :=
  fun _ _ old found => ⟨old, found, Relisted.refl old⟩

theorem KeepsMembers.trans {first second third : CollectionStore}
    (one : KeepsMembers first second) (two : KeepsMembers second third) :
    KeepsMembers first third := by
  intro sourceId bvid old found
  obtain ⟨middle, isMiddle, relisted⟩ := one sourceId bvid old found
  obtain ⟨new, isNew, again⟩ := two sourceId bvid middle isMiddle
  exact ⟨new, isNew, relisted.trans again⟩

theorem keepsMembers_membership {sourceId position : Nat} {item : FavoriteItem}
    {videoId : Option Nat} {baseline queued : Bool} {now : Instant} :
    KeepsMembers store (membership store sourceId item position videoId baseline queued now) := by
  intro otherSource bvid old found
  by_cases same : (otherSource, bvid) = (sourceId, item.bvid)
  · obtain ⟨rfl, rfl⟩ := Prod.mk.inj same
    refine ⟨_, member_membership_self, ?_⟩
    rw [listedRow_of_member found]
    exact ⟨rfl, rfl, fun id isLink => by simp [SourceMembership.listedAgain, isLink], fun _ => rfl⟩
  · exact ⟨old, (member_membership_of_ne same).trans found, Relisted.refl old⟩

namespace Lists

variable {sourceId : Nat} {item : FavoriteItem} {before after : CollectionStore}

theorem sources (lists : Lists sourceId item before after) : after.sources = before.sources := by
  cases lists with
  | unlinked => rfl
  | linked prepared => rw [observeVideo_sources, membership_sources, prepared.sources]

theorem keepsMembers (lists : Lists sourceId item before after) : KeepsMembers before after := by
  cases lists with
  | unlinked => exact keepsMembers_membership
  | linked prepared =>
      intro otherSource bvid old found
      rw [CollectionStore.member, ← prepared.memberships] at found
      obtain ⟨new, isNew, relisted⟩ := keepsMembers_membership otherSource bvid old found
      exact ⟨new, member_observeVideo.trans isNew, relisted⟩

theorem listed (lists : Lists sourceId item before after) :
    ∃ row, after.member sourceId item.bvid = some row ∧ row.present = true := by
  cases lists with
  | unlinked =>
      exact ⟨_, member_membership_self, by rw [SourceMembership.present, listedRow_removedAt]; rfl⟩
  | linked =>
      refine ⟨_, member_observeVideo.trans member_membership_self, ?_⟩
      rw [SourceMembership.present, listedRow_removedAt]
      rfl

theorem linked_kept (lists : Lists sourceId item before after) (linked : Linked before)
    (exists_ : (before.sources.lookup sourceId).isSome) : Linked after := by
  cases lists with
  | unlinked => exact linked.membership exists_ fun _ isLink => nomatch isLink
  | linked prepared isVideo =>
      refine Linked.observeVideo ((linked.prepares prepared).membership ?_ ?_)
      · rwa [prepared.sources]
      · rintro _ ⟨⟩
        exact isVideo

end Lists

namespace Scan

variable {sourceId : Nat} {items : List FavoriteItem} {before after : CollectionStore}

theorem keepsMembers (scan : Scan sourceId items before after) : KeepsMembers before after := by
  induction scan with
  | nil => exact KeepsMembers.refl _
  | cons lists _ inductionHypothesis => exact lists.keepsMembers.trans inductionHypothesis

theorem listed (scan : Scan sourceId items before after) :
    ∀ item ∈ items, ∃ row, after.member sourceId item.bvid = some row ∧ row.present = true := by
  induction scan with
  | nil => exact fun _ isItem => absurd isItem List.not_mem_nil
  | cons lists scan inductionHypothesis =>
      intro item isItem
      rcases List.mem_cons.mp isItem with rfl | later
      · obtain ⟨row, isRow, present⟩ := lists.listed
        obtain ⟨new, isNew, relisted⟩ := scan.keepsMembers _ _ row isRow
        exact ⟨new, isNew, relisted.present present⟩
      · exact inductionHypothesis item later

theorem linked_kept (scan : Scan sourceId items before after) (linked : Linked before)
    (exists_ : (before.sources.lookup sourceId).isSome) : Linked after := by
  induction scan with
  | nil => exact linked
  | cons lists _ inductionHypothesis =>
      exact inductionHypothesis (lists.linked_kept linked exists_) (lists.sources ▸ exists_)

end Scan

/-! ## The loops are scans -/

theorem exists_entry {items : List FavoriteItem} {item : FavoriteItem} (isItem : item ∈ items) :
    ∃ entry ∈ items.zipIdx, entry.1 = item := by
  rw [← List.zipIdx_map_fst 0 items] at isItem
  exact List.mem_map.mp isItem

theorem initializeItem_lists (linked : Linked store) (sourceId : Nat) (selected : List String)
    (clock : CallClock) (entry : FavoriteItem × Nat) :
    Lists sourceId entry.1 store (initializeItem sourceId selected clock store entry) := by
  cases existing : store.videoBySource entry.1.bvid with
  | none =>
      simp only [initializeItem, existing]
      refine Lists.unlinked fun row isRow => Or.inl ?_
      obtain ⟨member, -, isBvid⟩ := member_eq_some.mp isRow
      cases isLink : row.videoId with
      | none => rfl
      | some id =>
          have found := linked.link row member id isLink
          rw [isBvid, CollectionStore.videoIdOf, existing] at found
          cases found
  | some video =>
      simp only [initializeItem, existing]
      refine Lists.linked Prepares.kept ?_
      rw [CollectionStore.videoIdOf, existing]
      rfl

theorem initializeLoop_scan {sourceId : Nat} (selected : List String) (clock : CallClock)
    (entries : List (FavoriteItem × Nat)) (linked : Linked store)
    (exists_ : (store.sources.lookup sourceId).isSome) :
    Scan sourceId (entries.map Prod.fst) store
      (entries.foldl (initializeItem sourceId selected clock) store) := by
  induction entries generalizing store with
  | nil => exact Scan.nil
  | cons entry rest inductionHypothesis =>
      have lists := initializeItem_lists linked sourceId selected clock entry
      exact Scan.cons lists
        (inductionHypothesis (lists.linked_kept linked exists_) (lists.sources ▸ exists_))

/-- The rows read when the call began, as the loop has relisted them since. -/
def Knows (known : String → Option SourceMembership) (sourceId : Nat)
    (store : CollectionStore) : Prop :=
  ∀ bvid prior, known bvid = some prior →
    ∃ row, store.member sourceId bvid = some row ∧ Relisted prior row

theorem Knows.start (sourceId : Nat) (store : CollectionStore) :
    Knows (store.member sourceId) sourceId store :=
  fun _ prior found => ⟨prior, found, Relisted.refl prior⟩

variable {known : String → Option SourceMembership} {progress : CollectionStore × List Nat}
  {entry : FavoriteItem × Nat} {result : Unit}

theorem Knows.keepsMembers {sourceId : Nat} {before after : CollectionStore}
    (knows : Knows known sourceId before) (keeps : KeepsMembers before after) :
    Knows known sourceId after := by
  intro bvid prior found
  obtain ⟨row, isRow, relisted⟩ := knows bvid prior found
  obtain ⟨new, isNew, again⟩ := keeps sourceId bvid row isRow
  exact ⟨new, isNew, relisted.trans again⟩

/-- The store an item that gets a video is listed in, and the id of the video. -/
def createdFor (store : CollectionStore) (profile : ProcessingProfile) (clock : CallClock)
    (entry : FavoriteItem × Nat) : CollectionStore × Nat :=
  createVideo store entry.1.bvid entry.1.title entry.1.uploader profile
    (some (timeOr entry.1.favoriteTime (clock.item entry.2).createdEpoch)) entry.1.durationSeconds
    (clock.item entry.2).created

theorem recordItem_of_getsVideo {sourceId : Nat} {profile : ProcessingProfile} {clock : CallClock}
    (gets : getsVideo (known entry.1.bvid) = true) :
    (recordItem sourceId known profile clock progress entry).1 =
      observeVideo
        (membership (createdFor progress.1 profile clock entry).1 sourceId entry.1 entry.2
          (some (createdFor progress.1 profile clock entry).2) false false
          (clock.item entry.2).observed)
        (createdFor progress.1 profile clock entry).2 entry.1
        (isReturning (known entry.1.bvid) &&
          ((((createdFor progress.1 profile clock entry).1.video
              (createdFor progress.1 profile clock entry).2).any fun video =>
                video.archivedAt.isSome) ||
            !(createdFor progress.1 profile clock entry).1.videoHasActiveSource
              (createdFor progress.1 profile clock entry).2))
        (clock.item entry.2) := by
  simp only [recordItem, gets, if_true]
  rfl

variable {prior : SourceMembership} {seconds count : Nat} {action : CollectionAction}
  {remoteTotal : Option Int}

theorem recordItem_of_unlinked {sourceId : Nat} {profile : ProcessingProfile} {clock : CallClock}
    (gets : getsVideo (known entry.1.bvid) = false) (isPrior : known entry.1.bvid = some prior)
    (unlinked : prior.videoId = none) :
    (recordItem sourceId known profile clock progress entry).1 =
      membership progress.1 sourceId entry.1 entry.2 none false false
        (clock.item entry.2).observed := by
  simp only [recordItem, gets, Bool.false_eq_true, if_false]
  simp only [isPrior, Option.bind_some, unlinked]

theorem recordItem_of_linked {sourceId id : Nat} {profile : ProcessingProfile} {clock : CallClock}
    (gets : getsVideo (known entry.1.bvid) = false) (isPrior : known entry.1.bvid = some prior)
    (isLink : prior.videoId = some id) :
    (recordItem sourceId known profile clock progress entry).1 =
      observeVideo
        (membership progress.1 sourceId entry.1 entry.2 (some id) false false
          (clock.item entry.2).observed)
        id entry.1
        (prior.removedAt.isSome &&
          (((progress.1.videoBySource entry.1.bvid).any fun video => video.archivedAt.isSome) ||
            !progress.1.videoHasActiveSource id))
        (clock.item entry.2) := by
  simp only [recordItem, gets, Bool.false_eq_true, if_false]
  simp only [isPrior, Option.bind_some, isLink, isReturning, Option.all_some, Option.any_some]

/-- The video a listed item is linked to. -/
def recordLink (store : CollectionStore) (prior : Option SourceMembership)
    (profile : ProcessingProfile) (clock : CallClock) (entry : FavoriteItem × Nat) : Option Nat :=
  if getsVideo prior then some (createdFor store profile clock entry).2
  else prior.bind SourceMembership.videoId

theorem recordItem_memberships (progress : CollectionStore × List Nat) (sourceId : Nat)
    (known : String → Option SourceMembership) (profile : ProcessingProfile) (clock : CallClock)
    (entry : FavoriteItem × Nat) :
    (recordItem sourceId known profile clock progress entry).1.memberships =
      (membership progress.1 sourceId entry.1 entry.2
        (recordLink progress.1 (known entry.1.bvid) profile clock entry) false false
        (clock.item entry.2).observed).memberships := by
  cases gets : getsVideo (known entry.1.bvid) with
  | true =>
      rw [recordItem_of_getsVideo gets, observeVideo_memberships]
      simp [recordLink, gets, membership, createdFor]
  | false =>
      cases isPrior : known entry.1.bvid with
      | none => simp [isPrior, getsVideo] at gets
      | some prior =>
          cases isLink : prior.videoId with
          | none =>
              rw [recordItem_of_unlinked gets isPrior isLink]
              simp [recordLink, ← isPrior, gets]
              simp [isPrior, isLink]
          | some id =>
              rw [recordItem_of_linked gets isPrior isLink, observeVideo_memberships]
              simp [recordLink, ← isPrior, gets]
              simp [isPrior, isLink]

theorem recordItem_member_self (progress : CollectionStore × List Nat) (sourceId : Nat)
    (known : String → Option SourceMembership) (profile : ProcessingProfile) (clock : CallClock)
    (entry : FavoriteItem × Nat) :
    (recordItem sourceId known profile clock progress entry).1.member sourceId entry.1.bvid =
      some (listedRow progress.1 sourceId entry.1 entry.2
        (recordLink progress.1 (known entry.1.bvid) profile clock entry) false false
        (clock.item entry.2).observed) := by
  rw [CollectionStore.member, recordItem_memberships]
  exact member_membership_self

theorem recordItem_member_of_ne (progress : CollectionStore × List Nat) (sourceId : Nat)
    (known : String → Option SourceMembership) (profile : ProcessingProfile) (clock : CallClock)
    {otherSource : Nat} {bvid : String}
    (different : (otherSource, bvid) ≠ (sourceId, entry.1.bvid)) :
    (recordItem sourceId known profile clock progress entry).1.member otherSource bvid =
      progress.1.member otherSource bvid := by
  rw [CollectionStore.member, recordItem_memberships]
  exact member_membership_of_ne different

theorem recordItem_lists (linked : Linked progress.1) {sourceId : Nat}
    (knows : Knows known sourceId progress.1) (profile : ProcessingProfile) (clock : CallClock)
    (entry : FavoriteItem × Nat) :
    Lists sourceId entry.1 progress.1 (recordItem sourceId known profile clock progress entry).1 := by
  cases gets : getsVideo (known entry.1.bvid) with
  | true =>
      rw [recordItem_of_getsVideo gets]
      exact Lists.linked Prepares.created videoIdOf_createVideo_self
  | false =>
      cases isPrior : known entry.1.bvid with
      | none => simp [isPrior, getsVideo] at gets
      | some prior =>
          obtain ⟨row, isRow, relisted⟩ := knows _ prior isPrior
          obtain ⟨member, -, isBvid⟩ := member_eq_some.mp isRow
          cases isLink : prior.videoId with
          | none =>
              rw [recordItem_of_unlinked gets isPrior isLink]
              refine Lists.unlinked fun other isOther => Or.inr ?_
              obtain rfl : row = other := Option.some.inj (isRow.symm.trans isOther)
              refine relisted.present ?_
              simpa [isPrior, getsVideo, isLink, SourceMembership.present] using gets
          | some id =>
              rw [recordItem_of_linked gets isPrior isLink]
              exact Lists.linked Prepares.kept
                (isBvid ▸ linked.link row member id (relisted.link id isLink))

theorem recordLoop_scan {sourceId : Nat} (profile : ProcessingProfile) (clock : CallClock)
    (entries : List (FavoriteItem × Nat)) (linked : Linked progress.1)
    (knows : Knows known sourceId progress.1)
    (exists_ : (progress.1.sources.lookup sourceId).isSome) :
    Scan sourceId (entries.map Prod.fst) progress.1
      (entries.foldl (recordItem sourceId known profile clock) progress).1 := by
  induction entries generalizing progress with
  | nil => exact Scan.nil
  | cons entry rest inductionHypothesis =>
      have lists := recordItem_lists linked knows profile clock entry
      exact Scan.cons lists
        (inductionHypothesis (lists.linked_kept linked exists_)
          (knows.keepsMembers lists.keepsMembers) (lists.sources ▸ exists_))

/-! ## The operations -/

theorem sourceGuard_ok {clock : CallClock} {sourceId : Nat} {held : Option Claim}
    {source : FavoriteSource} (passed : sourceGuard store clock sourceId held = .ok source) :
    store.sources.lookup sourceId = some source := by
  unfold sourceGuard at passed
  cases found : store.sources.lookup sourceId with
  | none => simp [found] at passed
  | some row =>
      simp only [found] at passed
      cases held with
      | none =>
          cases unclaimed : assertUnclaimed row with
          | error failure => rw [unclaimed] at passed; cases passed
          | ok _ => rw [unclaimed] at passed; cases passed; rfl
      | some held =>
          cases isClaimed : store.sources.lookup held.id with
          | none => simp [isClaimed] at passed
          | some claimed =>
              simp only [isClaimed] at passed
              cases first : checkLease clock.started claimed held with
              | error failure => rw [first] at passed; cases passed
              | ok _ =>
                  rw [first] at passed
                  cases second : checkLease clock.finished claimed held with
                  | error failure => simp [second] at passed; cases passed
                  | ok _ => simp [second] at passed; cases passed; rfl

theorem sourceGuard_exists {clock : CallClock} {sourceId : Nat} {held : Option Claim}
    {source : FavoriteSource} (passed : sourceGuard store clock sourceId held = .ok source) :
    (store.sources.lookup sourceId).isSome := by
  rw [sourceGuard_ok passed]
  rfl

/-- Nothing but sources, leases and notes was written, and no source was lost. -/
structure Aside (before after : CollectionStore) : Prop where
  memberships : after.memberships = before.memberships
  videos : after.videos = before.videos
  membershipHighwater : after.membershipHighwater = before.membershipHighwater
  videoHighwater : after.videoHighwater = before.videoHighwater
  sources : ∀ id, (before.sources.lookup id).isSome → (after.sources.lookup id).isSome

theorem aside_updateSource (store : CollectionStore) (sourceId : Nat)
    (change : Change FavoriteSource.key) : Aside store (store.updateSource sourceId change) where
  memberships := rfl
  videos := rfl
  membershipHighwater := rfl
  videoHighwater := rfl
  sources := fun id exists_ => by
    rw [Option.isSome_iff_exists] at exists_ ⊢
    exact Table.exists_lookup_modify exists_ sourceId change

theorem Linked.aside {before after : CollectionStore} (linked : Linked before)
    (aside : Aside before after) : Linked after where
  videoIds := aside.videos ▸ linked.videoIds
  videoFresh := by
    rw [aside.videos, aside.videoHighwater]
    exact linked.videoFresh
  seqFresh := by
    rw [aside.memberships, aside.membershipHighwater]
    exact linked.seqFresh
  link := by
    rw [aside.memberships]
    intro row member id isLink
    rw [CollectionStore.videoIdOf, CollectionStore.videoBySource, aside.videos]
    exact linked.link row member id isLink
  source := by
    rw [aside.memberships]
    exact fun row member => aside.sources row.sourceId (linked.source row member)

/-- What an authoritative or a partial snapshot leaves, before it writes the source. -/
def snapshotRows (listed : CollectionStore) (sourceId : Nat) (items : List FavoriteItem)
    (authoritative : Bool) (now : Instant) : CollectionStore :=
  if authoritative then removeUnlisted listed sourceId items now else listed

/-- The shapes of a transaction that was committed. -/
inductive Outline (store : CollectionStore) : CollectionAction → CollectionStore → Prop where
  | aside {action : CollectionAction} {after : CollectionStore} (aside : Aside store after) :
      Outline store action after
  | changed {action : CollectionAction} {videoId : Nat} {change : Change Video.bvid}
      (keeps : KeepsId change)
      (removedAt : ∀ video, (change.apply video).removedAt = video.removedAt) :
      Outline store action (store.updateVideo videoId change)
  | initialized {clock : CallClock} {sourceId : Nat} {items : List FavoriteItem}
      {authoritative : Bool} {remoteTotal : Option Int} {held : Option Claim}
      {source : FavoriteSource} {after : CollectionStore}
      (guard : sourceGuard store clock sourceId held = .ok source)
      (closed : Aside (items.zipIdx.foldl (initializeItem sourceId
        (selectedHistory source.fields items authoritative) clock) store) after) :
      Outline store
        (.initializeSourceMemberships clock sourceId items authoritative remoteTotal held) after
  | recorded {clock : CallClock} {sourceId : Nat} {items : List FavoriteItem}
      {profile : ProcessingProfile} {authoritative : Bool} {remoteTotal : Option Int}
      {held : Option Claim} {source : FavoriteSource} {after : CollectionStore}
      (guard : sourceGuard store clock sourceId held = .ok source)
      (closed : Aside (snapshotRows (items.zipIdx.foldl
        (recordItem sourceId (store.member sourceId) profile clock) (store, [])).1 sourceId items
          authoritative clock.closing) after) :
      Outline store
        (.recordSourceSnapshot clock sourceId items profile authoritative remoteTotal held) after
  | covered {clock : CallClock} {sourceId : Nat} {policy : HistoryPolicy} {limit : Option Int}
      {ids : List String} {after : CollectionStore}
      (closed : Aside (coverMemberships store sourceId ids) after) :
      Outline store (.updateSourceHistoryCoverage clock sourceId policy limit) after
  | materialized {now : Instant} {sourceId : Nat} {bvid : String} {row : SourceMembership}
      (isRow : store.member sourceId bvid = some row) (present : row.present = true)
      (queued : row.queuedHistory = true) (unlinked : row.videoId = none) :
      Outline store (.materializeHistoryMembership now sourceId bvid)
        ((createVideo store bvid row.title row.uploader .formal
            (some (timeOr row.favoriteTime (row.firstObservedAt / microsPerSecond))) 0
            now).1.updateMembership sourceId bvid
          (SourceMembership.materialized (createVideo store bvid row.title row.uploader .formal
            (some (timeOr row.favoriteTime (row.firstObservedAt / microsPerSecond))) 0 now).2))

theorem outcome_ok {Result : Type} {done : Except Failure (CollectionStore × Result)}
    {after : CollectionStore} (isOk : outcome done = .ok (after, result)) :
    ∃ value, done = .ok (after, value) := by
  cases done with
  | error failure => cases isOk
  | ok committed =>
      obtain ⟨left, value⟩ := committed
      cases isOk
      exact ⟨value, rfl⟩

theorem createFavoriteSource_aside {input : FavoriteSourceInput} {after : CollectionStore} {id : Nat}
    (done : createFavoriteSource store input = .ok (after, id)) : Aside store after := by
  unfold createFavoriteSource at done
  split at done
  · cases done
    exact aside_updateSource store _ _
  · cases done
    refine ⟨rfl, rfl, rfl, rfl, fun id exists_ => ?_⟩
    obtain ⟨source, isSource⟩ := Option.isSome_iff_exists.mp exists_
    exact Option.isSome_iff_exists.mpr ⟨source, Table.lookup_insert_of_lookup isSource⟩

theorem setSourceStatus_aside {sourceId : Nat} {status : SourceStatus} {after : CollectionStore}
    (done : setSourceStatus store sourceId status = .ok (after, result)) :
    Aside store after := by
  unfold setSourceStatus at done
  split at done
  · cases done
  · cases done
    exact aside_updateSource store _ _

theorem claimSource_aside {now : Instant} {sourceId : Nat} {owner : String}
    {after : CollectionStore} {handed : Option Claim}
    (done : claimSource store now sourceId owner seconds = .ok (after, handed)) :
    Aside store after := by
  unfold claimSource at done
  split at done
  · split at done <;> cases done
  · cases claimed : claim now _ owner seconds with
    | error failure =>
        rw [claimed] at done
        cases done
    | ok granted =>
        rw [claimed] at done
        cases done
        exact aside_updateSource store _ _

theorem heartbeatSource_aside {now : Instant} {held : Claim} {after : CollectionStore}
    (done : heartbeatSource store now held seconds = .ok (after, result)) : Aside store after := by
  unfold heartbeatSource at done
  split at done
  · cases done
  · split at done
    · cases done
    · cases renewed : heartbeat now _ held seconds with
      | error failure =>
          rw [renewed] at done
          cases done
      | ok row =>
          rw [renewed] at done
          cases done
          exact aside_updateSource store _ _

theorem releaseSource_aside {now : Instant} {held : Claim} {after : CollectionStore}
    (done : releaseSource store now held = .ok (after, result)) : Aside store after := by
  unfold releaseSource at done
  split at done
  · cases done
  · cases released : release now _ held with
    | error failure =>
        rw [released] at done
        cases done
    | ok row =>
        rw [released] at done
        cases done
        exact aside_updateSource store _ _

theorem createNote_aside {ownerUserId : String} {videoId : Nat} {content : String}
    {after : CollectionStore}
    (done : createNote store ownerUserId videoId content = .ok (after, result)) :
    Aside store after := by
  unfold createNote at done
  split at done
  · cases done
  · cases done
    exact ⟨rfl, rfl, rfl, rfl, fun _ exists_ => exists_⟩

theorem changeVideo_outline {videoId : Nat} {change : Change Video.bvid} {after : CollectionStore}
    (done : changeVideo store videoId change = .ok (after, result)) (keeps : KeepsId change)
    (removedAt : ∀ video, (change.apply video).removedAt = video.removedAt) :
    Outline store action after := by
  unfold changeVideo at done
  split at done
  · cases done
  · cases done
    exact Outline.changed keeps removedAt

theorem initializeSourceMemberships_ok {clock : CallClock} {sourceId : Nat}
    {items : List FavoriteItem} {authoritative : Bool} {held : Option Claim}
    {after : CollectionStore}
    (done : initializeSourceMemberships store clock sourceId items authoritative remoteTotal held =
      .ok (after, count)) :
    ∃ source, sourceGuard store clock sourceId held = .ok source ∧
      Aside (items.zipIdx.foldl (initializeItem sourceId
        (selectedHistory source.fields items authoritative) clock) store) after := by
  unfold initializeSourceMemberships at done
  cases guard : sourceGuard store clock sourceId held with
  | error failure =>
      rw [guard] at done
      cases done
  | ok source =>
      rw [guard] at done
      cases done
      exact ⟨source, rfl, aside_updateSource _ _ _⟩

theorem recordSourceSnapshot_ok {clock : CallClock} {sourceId : Nat} {items : List FavoriteItem}
    {profile : ProcessingProfile} {authoritative : Bool} {held : Option Claim}
    {after : CollectionStore} {created : List Nat}
    (done : recordSourceSnapshot store clock sourceId items profile authoritative remoteTotal held =
      .ok (after, created)) :
    ∃ source, sourceGuard store clock sourceId held = .ok source ∧
      Aside (snapshotRows (items.zipIdx.foldl
        (recordItem sourceId (store.member sourceId) profile clock) (store, [])).1 sourceId items
          authoritative clock.closing) after := by
  unfold recordSourceSnapshot at done
  cases guard : sourceGuard store clock sourceId held with
  | error failure =>
      rw [guard] at done
      cases done
  | ok source =>
      rw [guard] at done
      cases done
      exact ⟨source, rfl, aside_updateSource _ _ _⟩

theorem updateSourceHistoryCoverage_outline {clock : CallClock} {sourceId : Nat}
    {policy : HistoryPolicy} {limit : Option Int} {after : CollectionStore}
    (done : updateSourceHistoryCoverage store clock sourceId policy limit = .ok (after, count)) :
    Outline store (.updateSourceHistoryCoverage clock sourceId policy limit) after := by
  unfold updateSourceHistoryCoverage at done
  by_cases invalid : policy = .latestN ∧ limit.getD 0 < 1
  · simp [invalid] at done
  · rw [if_neg invalid] at done
    cases isSource : store.sources.lookup sourceId with
    | none => simp [isSource] at done
    | some source =>
        simp only [isSource] at done
        by_cases incomplete : (!source.fields.discoveryComplete) = true
        · simp [incomplete] at done
        · rw [if_neg incomplete] at done
          by_cases unchanged : source.fields.historyPolicy = policy ∧
              source.fields.historyLimit = (if policy = .latestN then limit else none) ∧
                source.fields.historyUpdatedAt.isSome
          · rw [if_pos unchanged] at done
            cases done
            exact Outline.aside ⟨rfl, rfl, rfl, rfl, fun _ exists_ => exists_⟩
          · rw [if_neg unchanged] at done
            cases done
            exact Outline.covered (aside_updateSource _ _ _)

theorem materializeHistoryMembership_outline {now : Instant} {sourceId : Nat} {bvid : String}
    {after : CollectionStore} {id : Nat}
    (done : materializeHistoryMembership store now sourceId bvid = .ok (after, id)) :
    Outline store (.materializeHistoryMembership now sourceId bvid) after := by
  unfold materializeHistoryMembership at done
  cases isSource : store.sources.lookup sourceId with
  | none => simp [isSource] at done
  | some source =>
      cases isRow : store.member sourceId bvid with
      | none => simp [isSource, isRow] at done
      | some row =>
          simp only [isSource, isRow] at done
          split at done
          · cases done
          · rename_i admitted
            cases isLink : row.videoId with
            | some videoId =>
                simp only [isLink, Except.ok.injEq, Prod.mk.injEq] at done
                obtain ⟨rfl, -⟩ := done
                exact Outline.aside ⟨rfl, rfl, rfl, rfl, fun _ exists_ => exists_⟩
            | none =>
                simp only [isLink] at done
                split at done
                · cases done
                · rename_i queued
                  cases done
                  exact Outline.materialized isRow (by simp_all) (by simpa using queued) isLink

theorem transact_outline {after : CollectionStore}
    (done : transact store action = .ok (after, result)) : Outline store action after := by
  cases action with
  | createFavoriteSource input =>
      obtain ⟨_, done⟩ := outcome_ok done
      exact Outline.aside (createFavoriteSource_aside done)
  | setSourceStatus sourceId status => exact Outline.aside (setSourceStatus_aside done)
  | claimSource now sourceId owner seconds =>
      obtain ⟨_, done⟩ := outcome_ok done
      exact Outline.aside (claimSource_aside done)
  | heartbeatSource now held seconds => exact Outline.aside (heartbeatSource_aside done)
  | releaseSource now held => exact Outline.aside (releaseSource_aside done)
  | initializeSourceMemberships clock sourceId items authoritative remoteTotal held =>
      obtain ⟨_, done⟩ := outcome_ok done
      obtain ⟨source, guard, closed⟩ := initializeSourceMemberships_ok done
      exact Outline.initialized guard closed
  | recordSourceSnapshot clock sourceId items profile authoritative remoteTotal held =>
      obtain ⟨_, done⟩ := outcome_ok done
      obtain ⟨source, guard, closed⟩ := recordSourceSnapshot_ok done
      exact Outline.recorded guard closed
  | updateSourceHistoryCoverage clock sourceId policy limit =>
      obtain ⟨_, done⟩ := outcome_ok done
      exact updateSourceHistoryCoverage_outline done
  | materializeHistoryMembership now sourceId bvid =>
      obtain ⟨_, done⟩ := outcome_ok done
      exact materializeHistoryMembership_outline done
  | setArchived now videoId archived =>
      exact changeVideo_outline done (fun _ => rfl) fun _ => rfl
  | setMarked now videoId marked =>
      exact changeVideo_outline done (fun _ => rfl) fun _ => rfl
  | createNote ownerUserId videoId content => exact Outline.aside (createNote_aside done)

/-! ## Steps -/

section Loops

variable {clock : CallClock} {sourceId : Nat} {held : Option Claim} {source : FavoriteSource}
  {items : List FavoriteItem}

theorem recordLoop_start_scan (linked : Linked store)
    (guard : sourceGuard store clock sourceId held = .ok source) {profile : ProcessingProfile} :
    Scan sourceId items store (items.zipIdx.foldl
      (recordItem sourceId (store.member sourceId) profile clock) (store, [])).1 := by
  have scan := @recordLoop_scan (store.member sourceId) (store, []) sourceId profile clock
    items.zipIdx linked (Knows.start sourceId store) (sourceGuard_exists guard)
  rwa [List.zipIdx_map_fst] at scan

theorem initializeLoop_start_scan (linked : Linked store)
    (guard : sourceGuard store clock sourceId held = .ok source) {selected : List String} :
    Scan sourceId items store
      (items.zipIdx.foldl (initializeItem sourceId selected clock) store) := by
  have scan := initializeLoop_scan selected clock items.zipIdx linked (sourceGuard_exists guard)
  rwa [List.zipIdx_map_fst] at scan

theorem Linked.scan (linked : Linked store)
    (guard : sourceGuard store clock sourceId held = .ok source) {after : CollectionStore}
    (scan : Scan sourceId items store after) : Linked after :=
  scan.linked_kept linked (sourceGuard_exists guard)

end Loops

variable {authoritative : Bool}

theorem Linked.snapshotRows (linked : Linked store) {sourceId : Nat} {items : List FavoriteItem}
    {now : Instant} :
    Linked (snapshotRows store sourceId items authoritative now) := by
  unfold Collection.snapshotRows
  split
  · exact Linked.updateWhere (linked.updateMemberships fun _ => ⟨rfl, rfl⟩) fun _ => rfl
  · exact linked

variable {action : CollectionAction} {remoteTotal : Option Int}

theorem Linked.outline (linked : Linked store) {after : CollectionStore}
    (outline : Outline store action after) : Linked after := by
  cases outline with
  | aside aside => exact linked.aside aside
  | changed keeps => exact linked.updateWhere keeps
  | initialized guard closed =>
      exact (linked.scan guard (initializeLoop_start_scan linked guard)).aside closed
  | recorded guard closed =>
      exact (linked.scan guard (recordLoop_start_scan linked guard)).snapshotRows.aside closed
  | covered closed =>
      exact Linked.aside (linked.updateMemberships fun _ => ⟨rfl, rfl⟩) closed
  | materialized => exact linked.createVideo.materialized videoIdOf_createVideo_self

theorem stepCollection_of_ok {after : CollectionStore} {result : Unit}
    (done : transact store action = .ok (after, result)) : stepCollection store action = after := by
  rw [stepCollection, done, settled_ok]

theorem stepCollection_initializing {clock : CallClock} {sourceId : Nat} {items : List FavoriteItem}
    {held : Option Claim} {source : FavoriteSource}
    (guard : sourceGuard store clock sourceId held = .ok source) :
    Aside (items.zipIdx.foldl (initializeItem sourceId
        (selectedHistory source.fields items authoritative) clock) store)
      (stepCollection store
        (.initializeSourceMemberships clock sourceId items authoritative remoteTotal held)) := by
  simp only [stepCollection, transact, initializeSourceMemberships, guard]
  exact aside_updateSource _ _ _

theorem stepCollection_record {clock : CallClock} {sourceId : Nat} {items : List FavoriteItem}
    {profile : ProcessingProfile} {held : Option Claim} {source : FavoriteSource}
    (guard : sourceGuard store clock sourceId held = .ok source) :
    Aside (snapshotRows (items.zipIdx.foldl
        (recordItem sourceId (store.member sourceId) profile clock) (store, [])).1 sourceId items
          authoritative clock.closing)
      (stepCollection store
        (.recordSourceSnapshot clock sourceId items profile authoritative remoteTotal held)) := by
  simp only [stepCollection, transact, recordSourceSnapshot, guard]
  exact aside_updateSource _ _ _

/-- A call is refused and changes nothing, or has one of the shapes. -/
theorem stepCollection_outline (store : CollectionStore) (action : CollectionAction) :
    stepCollection store action = store ∨
      Outline store action (stepCollection store action) := by
  cases done : transact store action with
  | error failure =>
      left
      rw [stepCollection, done, settled_error]
  | ok committed =>
      obtain ⟨after, result⟩ := committed
      right
      rw [stepCollection_of_ok done]
      exact transact_outline done

theorem Linked.step (linked : Linked store) (action : CollectionAction) :
    Linked (stepCollection store action) := by
  rcases stepCollection_outline store action with same | outline
  · exact same.symm ▸ linked
  · exact linked.outline outline

end Shiliu.Collection
