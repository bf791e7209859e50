/-
Module: Shiliu.Sources.Visibility
Purpose: One visibility relation, `Shows`, and the four queries against it. Three of them are it; the
  test before a read leaves out `removed_at` of the video, so it is it as long as no video that a
  source lists is removed. A scan never removes such a video; `reconcile_current_items` may.
Trusted boundary: none
Main exports: Shows, mem_visibleVideoIds, readAccepts_iff, visibility_agrees, removed_video_read
-/
import Shiliu.Sources.Scope

namespace Shiliu.Sources

open Shiliu.Library
open Shiliu.Storage
open Shiliu.Collection
open Shiliu.Assistant (Space)

variable {store : CollectionStore} {scope : SourceScope} {videoId : Nat}

/-! ## The relation -/

/-- An active source of the scope lists the video. -/
def ListedIn (store : CollectionStore) (scope : SourceScope) (videoId : Nat) : Prop :=
  ∃ row ∈ store.memberships, row.videoId = some videoId ∧ row.present = true ∧
    store.sourceActive row.sourceId = true ∧
      (scope.allActive = true ∨ (row.sourceId : Int) ∈ scope.sourceDbIds)

/-- The user has not hidden the video, and the scope does not leave it out. -/
structure Offered (scope : SourceScope) (video : Video) : Prop where
  unignored : video.isIgnored = false
  unarchived : video.archivedAt = none
  selected : scope.videoIds = [] ∨ (video.id : Int) ∈ scope.videoIds

/-- The scope sees the video. -/
structure Shows (store : CollectionStore) (scope : SourceScope) (video : Video) : Prop where
  listed : ListedIn store scope video.id
  offered : Offered scope video
  unremoved : video.removedAt = none

/-- The scope sees the video with an id. -/
def ShowsId (store : CollectionStore) (scope : SourceScope) (videoId : Nat) : Prop :=
  ∃ video ∈ store.videos, video.id = videoId ∧ Shows store scope video

/-! ## The queries -/

theorem video_eq_some (linked : Linked store) {video : Video} :
    store.video videoId = some video ↔ video ∈ store.videos ∧ video.id = videoId := by
  constructor
  · intro found
    exact ⟨List.mem_of_find?_eq_some found, by simpa using List.find?_some found⟩
  · rintro ⟨isVideo, rfl⟩
    cases found : store.video video.id with
    | none =>
        have missed := List.find?_eq_none.mp found video isVideo
        simp at missed
    | some other =>
        have isOther : other ∈ store.videos := List.mem_of_find?_eq_some found
        have sameId : other.id = video.id := by simpa using List.find?_some found
        rw [linked.videoIds other isOther video isVideo sameId]

theorem mem_visibleVideoIds : videoId ∈ visibleVideoIds store scope ↔ ShowsId store scope videoId := by
  unfold visibleVideoIds ShowsId
  rw [List.mem_insertionSort, List.mem_map]
  refine exists_congr fun video => ?_
  rw [List.mem_filter, decide_eq_true_eq, List.any_eq_true]
  constructor
  · rintro ⟨⟨isVideo, listed, unignored, unarchived, unremoved, selected⟩, isId⟩
    obtain ⟨row, isRow, matched⟩ := listed
    refine ⟨isVideo, isId, ⟨row, isRow, by simpa using matched⟩, ⟨?_, unarchived, selected⟩,
      unremoved⟩
    simpa using unignored
  · rintro ⟨isVideo, isId, ⟨row, isRow, matched⟩, offered, unremoved⟩
    refine ⟨⟨isVideo, ⟨row, isRow, by simpa using matched⟩, ?_, offered.unarchived, unremoved,
      offered.selected⟩, isId⟩
    simpa using offered.unignored

theorem mem_allowedSources {sourceId : Nat} :
    sourceId ∈ allowedSources store scope none ↔
      store.sourceActive sourceId = true ∧
        (scope.allActive = true ∨ (sourceId : Int) ∈ scope.sourceDbIds) := by
  unfold allowedSources
  rw [List.mem_map]
  constructor
  · rintro ⟨source, selected, rfl⟩
    rw [List.mem_filter, decide_eq_true_eq] at selected
    obtain ⟨isSource, active, inScope, -⟩ := selected
    refine ⟨?_, inScope⟩
    rw [CollectionStore.sourceActive, Table.lookup_of_mem isSource]
    simpa using active
  · rintro ⟨active, inScope⟩
    unfold CollectionStore.sourceActive at active
    cases found : store.sources.lookup sourceId with
    | none => simp [found] at active
    | some source =>
        obtain ⟨isSource, rfl⟩ := Table.lookup_eq_some.mp found
        refine ⟨source, List.mem_filter.mpr ⟨isSource, ?_⟩, rfl⟩
        rw [decide_eq_true_eq]
        exact ⟨by simpa [found] using active, inScope, rfl⟩

/-- The join of `search` and of the read test with the allowed sources. -/
theorem listedIn_iff_allowed :
    ListedIn store scope videoId ↔
      ∃ row ∈ store.memberships, row.videoId = some videoId ∧ row.present = true ∧
        row.sourceId ∈ allowedSources store scope none := by
  refine exists_congr fun row => and_congr_right fun _ => and_congr_right fun _ =>
    and_congr_right fun _ => ?_
  rw [mem_allowedSources]

theorem listedIn_allowed_ne_nil (listed : ListedIn store scope videoId) :
    allowedSources store scope none ≠ [] := by
  obtain ⟨row, -, -, -, allowed⟩ := listedIn_iff_allowed.mp listed
  exact List.ne_nil_of_mem allowed

theorem mem_searchCandidates :
    videoId ∈ searchCandidates store scope ↔ ShowsId store scope videoId := by
  simp only [searchCandidates]
  split
  · rename_i nothing
    refine iff_of_false List.not_mem_nil ?_
    rintro ⟨video, -, -, shows⟩
    exact listedIn_allowed_ne_nil shows.listed nothing
  · unfold candidateVideoIds ShowsId
    rw [List.mem_insertionSort, List.mem_map]
    refine exists_congr fun video => ?_
    rw [List.mem_filter, decide_eq_true_eq, List.any_eq_true]
    constructor
    · rintro ⟨⟨isVideo, ⟨row, isRow, matched⟩, unignored, unarchived, unremoved, selected⟩, isId⟩
      rw [decide_eq_true_eq] at matched
      obtain ⟨isLink, allowed, present, -⟩ := matched
      refine ⟨isVideo, isId, listedIn_iff_allowed.mpr ⟨row, isRow, isLink, present, allowed⟩,
        ⟨?_, unarchived, selected⟩, unremoved⟩
      simpa using unignored
    · rintro ⟨isVideo, isId, listed, offered, unremoved⟩
      obtain ⟨row, isRow, isLink, present, allowed⟩ := listedIn_iff_allowed.mp listed
      have active := (mem_allowedSources.mp allowed).1
      refine ⟨⟨isVideo, ⟨row, isRow, ?_⟩, ?_, offered.unarchived, unremoved, offered.selected⟩, isId⟩
      · rw [decide_eq_true_eq]
        exact ⟨isLink, allowed, present, active⟩
      · simpa using offered.unignored

/-- The read test is the relation without `removed_at` of the video. -/
theorem readAccepts_iff (linked : Linked store) :
    readAccepts store scope videoId = true ↔
      ∃ video ∈ store.videos, video.id = videoId ∧ ListedIn store scope video.id ∧
        Offered scope video := by
  have active : videoHasActiveSourceIn store videoId (allowedSources store scope none) = true ↔
      ListedIn store scope videoId := by
    rw [listedIn_iff_allowed, videoHasActiveSourceIn, List.any_eq_true]
    refine exists_congr fun row => and_congr_right fun _ => ?_
    rw [decide_eq_true_eq]
    refine and_congr_right fun _ => and_congr_right fun _ => ?_
    exact ⟨fun both => both.2, fun allowed => ⟨(mem_allowedSources.mp allowed).1, allowed⟩⟩
  unfold readAccepts videoIsAvailable
  constructor
  · intro accepted
    split at accepted
    · cases accepted
    · rename_i available
      split at accepted
      · cases accepted
      · rename_i selected
        obtain ⟨video, found, shown⟩ := (Option.any_eq_true _ _).mp accepted
        obtain ⟨isVideo, rfl⟩ := (video_eq_some linked).mp found
        rw [not_or, Bool.not_eq_true', Bool.not_eq_false] at available
        obtain ⟨unignored, unarchived⟩ := Bool.and_eq_true_iff.mp shown
        refine ⟨video, isVideo, rfl, active.mp available.2, ?_, ?_, ?_⟩
        · simpa using unignored
        · simpa using unarchived
        · by_cases every : scope.videoIds = []
          · exact Or.inl every
          · exact Or.inr (by_contra fun leftOut => selected ⟨every, leftOut⟩)
  · rintro ⟨video, isVideo, rfl, listed, offered⟩
    rw [if_neg, if_neg, (video_eq_some linked).mpr ⟨isVideo, rfl⟩]
    · simp [offered.unignored, offered.unarchived]
    · rintro ⟨some_, leftOut⟩
      exact offered.selected.elim some_ leftOut
    · rintro (nothing | unavailable)
      · exact listedIn_allowed_ne_nil listed nothing
      · rw [active.mpr listed] at unavailable
        cases unavailable

theorem mem_notifiedSpaces (linked : Linked store) {spaces : List Space} {space : Space}
    (unique : (spaces.map Space.id).Nodup) (isSpace : space ∈ spaces)
    (enabled : space.enabled = true) :
    (∃ seeing, notifiedSpaces store spaces videoId = .ok seeing ∧ space.id ∈ seeing) ↔
      ShowsId store (.ofSpace space) videoId := by
  -- the row of the video decides, and the space is the only one with its id
  have sees : ∀ video, store.video videoId = some video →
      ((∃ seeing, notifiedSpaces store spaces videoId = .ok seeing ∧ space.id ∈ seeing) ↔
        spaceSees (notifiedMemberships store video) videoId space = true) := by
    intro video found
    simp only [notifiedSpaces, found, Except.ok.injEq, exists_eq_left', List.mem_map,
      List.mem_filter, decide_eq_true_eq]
    constructor
    · rintro ⟨other, ⟨isOther, -, seesOther⟩, sameId⟩
      rwa [← List.inj_on_of_nodup_map unique isOther isSpace sameId]
    · intro seen
      exact ⟨space, ⟨isSpace, enabled, seen⟩, rfl⟩
  constructor
  · rintro notified
    cases found : store.video videoId with
    | none =>
        obtain ⟨seeing, isOk, -⟩ := notified
        simp [notifiedSpaces, found] at isOk
    | some video =>
        have seen := (sees video found).mp notified
        obtain ⟨isVideo, rfl⟩ := (video_eq_some linked).mp found
        unfold spaceSees at seen
        split at seen
        · cases seen
        · rename_i selected
          rw [decide_eq_true_eq] at seen
          obtain ⟨listed, inScope⟩ := seen
          unfold notifiedMemberships at listed inScope
          split at listed
          · exact absurd rfl listed
          · rename_i shown
            rw [if_neg shown] at inScope
            simp only [not_or, Bool.not_eq_true, not_not] at shown
            refine ⟨video, isVideo, rfl, ?_, ⟨shown.1, shown.2.1, ?_⟩, shown.2.2⟩
            · rcases inScope with every | some_
              · obtain ⟨sourceId, isSource⟩ := List.exists_mem_of_ne_nil _ listed
                obtain ⟨row, isRow, -⟩ := List.mem_map.mp isSource
                rw [List.mem_filter, decide_eq_true_eq] at isRow
                exact ⟨row, isRow.1, isRow.2.1, isRow.2.2.1, isRow.2.2.2, Or.inl every⟩
              · obtain ⟨sourceId, isSource, inScope⟩ := List.any_eq_true.mp some_
                obtain ⟨row, isRow, rfl⟩ := List.mem_map.mp isSource
                rw [List.mem_filter, decide_eq_true_eq] at isRow
                exact ⟨row, isRow.1, isRow.2.1, isRow.2.2.1, isRow.2.2.2,
                  Or.inr (of_decide_eq_true inScope)⟩
            · by_cases every : space.videoIds = []
              · exact Or.inl every
              · exact Or.inr (by_contra fun leftOut => selected ⟨every, leftOut⟩)
  · rintro ⟨video, isVideo, rfl, ⟨row, isRow, isLink, present, active, inScope⟩, offered, unremoved⟩
    refine (sees video ((video_eq_some linked).mpr ⟨isVideo, rfl⟩)).mpr ?_
    have isSource : row.sourceId ∈ notifiedMemberships store video := by
      unfold notifiedMemberships
      rw [if_neg (by simp [offered.unignored, offered.unarchived, unremoved])]
      refine List.mem_map.mpr ⟨row, List.mem_filter.mpr ⟨isRow, ?_⟩, rfl⟩
      rw [decide_eq_true_eq]
      exact ⟨isLink, present, active⟩
    unfold spaceSees
    rw [if_neg, decide_eq_true_eq]
    · refine ⟨List.ne_nil_of_mem isSource, inScope.imp_right fun some_ => ?_⟩
      exact List.any_eq_true.mpr ⟨row.sourceId, isSource, decide_eq_true some_⟩
    · rintro ⟨some_, leftOut⟩
      exact offered.selected.elim some_ leftOut

/-! ## Runs -/

/-- Where no video that a source lists is removed, the read test is the relation. -/
theorem readAccepts_iff_showsId (linked : Linked store) (kept : ListedVideosKept store) :
    readAccepts store scope videoId = true ↔ ShowsId store scope videoId := by
  rw [readAccepts_iff linked]
  refine exists_congr fun video => and_congr_right fun isVideo => and_congr_right fun _ => ?_
  constructor
  · rintro ⟨⟨row, isRow, isLink, present, active⟩, offered⟩
    have unremoved := kept row isRow (by simpa [SourceMembership.present] using present) video
      isVideo isLink
    exact ⟨⟨row, isRow, isLink, present, active⟩, offered, unremoved⟩
  · exact fun shows => ⟨shows.listed, shows.offered⟩

/-- One visibility relation: after every run in which no call sets `removed_at` on a video that a
source lists, reading, searching, `visible_video_ids` and the notification of a space see the same
videos in every scope. -/
theorem visibility_agrees (actions : List UpkeepAction)
    (each : EachStep stepUpkeep KeepsListed CollectionStore.empty actions) (scope : SourceScope) :
    let store := runFrom stepUpkeep CollectionStore.empty actions
    { videoId | readAccepts store scope videoId = true } =
        { videoId | videoId ∈ visibleVideoIds store scope } ∧
      { videoId | videoId ∈ searchCandidates store scope } =
        { videoId | videoId ∈ visibleVideoIds store scope } ∧
      ∀ (spaces : List Space) (space : Space), (spaces.map Space.id).Nodup → space ∈ spaces →
        space.enabled = true → SourceScope.ofSpace space = scope →
          { videoId | ∃ seeing, notifiedSpaces store spaces videoId = .ok seeing ∧
              space.id ∈ seeing } =
            { videoId | videoId ∈ visibleVideoIds store scope } := by
  intro store
  obtain ⟨kept, linked⟩ := upkeep_run each
  refine ⟨Set.ext fun videoId => ?_, Set.ext fun videoId => ?_, ?_⟩
  · exact (readAccepts_iff_showsId linked kept).trans mem_visibleVideoIds.symm
  · exact mem_searchCandidates.trans mem_visibleVideoIds.symm
  · rintro spaces space unique isSpace enabled rfl
    refine Set.ext fun videoId => ?_
    exact (mem_notifiedSpaces linked unique isSpace enabled).trans mem_visibleVideoIds.symm

/-- A folder with one video: a scan lists it, the scope of all active sources sees it everywhere. -/
def listedOnce : List UpkeepAction :=
  [.collection (.createFavoriteSource
      { folderId := 1
        folderTitle := "favourites"
        accountId := none
        accountName := ""
        originalUrl := ""
        mediaCount := 1
        historyPolicy := .futureOnly
        historyLimit := none }),
    .collection (.recordSourceSnapshot
      { started := 1
        closing := 1
        finished := 1
        epoch := 0
        item := fun _ => { created := 1, createdEpoch := 0, observed := 1, observedEpoch := 0 } }
      1 [{ bvid := "BV1", title := "talk", uploader := "", durationSeconds := 60,
           favoriteTime := some 100 }]
      .formal true none none)]

theorem visibility_agrees_listed :
    let store := runFrom stepUpkeep CollectionStore.empty listedOnce
    let scope : SourceScope := ⟨[], [], true⟩
    { videoId | readAccepts store scope videoId = true } =
        { videoId | videoId ∈ visibleVideoIds store scope } ∧
      { videoId | videoId ∈ searchCandidates store scope } =
        { videoId | videoId ∈ visibleVideoIds store scope } ∧
      ∀ (spaces : List Space) (space : Space), (spaces.map Space.id).Nodup → space ∈ spaces →
        space.enabled = true → SourceScope.ofSpace space = scope →
          { videoId | ∃ seeing, notifiedSpaces store spaces videoId = .ok seeing ∧
              space.id ∈ seeing } =
            { videoId | videoId ∈ visibleVideoIds store scope } :=
  visibility_agrees listedOnce (by decide +kernel) ⟨[], [], true⟩

/-- `reconcile_current_items` without the listed video removes the video and leaves its membership:
it can still be read, and is not visible anywhere else. -/
theorem removed_video_read :
    let store := runFrom stepUpkeep CollectionStore.empty
      (listedOnce ++ [.reconcileCurrentItems 2 []])
    let scope : SourceScope := ⟨[], [], true⟩
    readAccepts store scope 1 = true ∧ 1 ∉ visibleVideoIds store scope ∧
      1 ∉ searchCandidates store scope := by
  decide +kernel

end Shiliu.Sources
