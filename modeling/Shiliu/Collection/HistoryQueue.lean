/-
Module: Shiliu.Collection.HistoryQueue
Purpose: The history queue. A membership waits in the queue until `materialize_history_membership`
  gives it a video, so a queued membership with a video never leaves it. The two scans can make one:
  `initialize_source_memberships` queues, or finds queued, an item whose video another source has
  brought in, and `record_source_snapshot` gives a video to a removed membership that comes back
  still queued. These are the only ways: a run that avoids them keeps the queue clean, drains it
  one membership a call, and offers every waiting membership of an active source; a run that does
  not is caught by the first such scan.
Trusted boundary: none
Main exports: QueueInvariant, QueueSafe, processHistoryBacklog, HistoryProgress, history_queue_iff
-/
import Shiliu.Collection.Moves

set_option linter.all false

namespace Shiliu.Collection

open Shiliu.Library
open Shiliu.Storage

variable {store : CollectionStore}

/-! ## The invariant and the scans that keep it -/

/-- A present membership with `queued_history` has no video. -/
def QueueInvariant (store : CollectionStore) : Prop :=
  ∀ row ∈ store.memberships, row.queuedHistory = true → row.removedAt = none → row.videoId = none

/-- The same for removed memberships too, which a scan can bring back. -/
def QueueClean (store : CollectionStore) : Prop :=
  ∀ row ∈ store.memberships, row.queuedHistory = true → row.videoId = none

theorem QueueClean.invariant (clean : QueueClean store) : QueueInvariant store :=
  fun row member queued _ => clean row member queued

/-- No item that has a video is selected, or is queued already. -/
def InitializeSafe (store : CollectionStore) (sourceId : Nat) (items : List FavoriteItem)
    (selected : List String) : Prop :=
  ∀ item ∈ items, (store.videoIdOf item.bvid).isSome = true →
    match store.member sourceId item.bvid with
    | some row => row.queuedHistory = false
    | none => item.bvid ∉ selected

/-- No item brings back a removed membership that has no video and is queued. -/
def RecordSafe (store : CollectionStore) (sourceId : Nat) (items : List FavoriteItem) : Prop :=
  ∀ item ∈ items, ∀ row ∈ store.member sourceId item.bvid,
    row.removedAt.isSome = true → row.videoId = none → row.queuedHistory = false

/-- A call that is no scan, or is refused, or is a scan that meets its condition. -/
def QueueSafe (store : CollectionStore) : CollectionAction → Prop
  | .initializeSourceMemberships clock sourceId items authoritative _ held =>
      match sourceGuard store clock sourceId held with
      | .ok source =>
          InitializeSafe store sourceId items (selectedHistory source.fields items authoritative)
      | .error _ => True
  | .recordSourceSnapshot clock sourceId items _ _ _ held =>
      match sourceGuard store clock sourceId held with
      | .ok _ => RecordSafe store sourceId items
      | .error _ => True
  | _ => True

instance (store : CollectionStore) (sourceId : Nat) (items : List FavoriteItem)
    (selected : List String) : Decidable (InitializeSafe store sourceId items selected) :=
  have (item : FavoriteItem) : Decidable (match store.member sourceId item.bvid with
      | some row => row.queuedHistory = false
      | none => item.bvid ∉ selected) := by
    cases store.member sourceId item.bvid <;> infer_instance
  inferInstanceAs (Decidable (∀ item ∈ items, _ → _))

instance (store : CollectionStore) (sourceId : Nat) (items : List FavoriteItem) :
    Decidable (RecordSafe store sourceId items) :=
  inferInstanceAs (Decidable (∀ item ∈ items, ∀ row ∈ store.member sourceId item.bvid, _ → _ → _))

instance (store : CollectionStore) (action : CollectionAction) :
    Decidable (QueueSafe store action) := by
  unfold QueueSafe
  split
  · split <;> infer_instance
  · split <;> infer_instance
  · infer_instance

/-- A present membership is queued and has a video. -/
def Stuck (store : CollectionStore) (sourceId : Nat) (bvid : String) : Prop :=
  ∃ row, store.member sourceId bvid = some row ∧ row.queuedHistory = true ∧
    row.removedAt = none ∧ row.videoId.isSome = true

variable {sourceId id : Nat} {bvid : String} {before after : CollectionStore}
  {entry : FavoriteItem × Nat} {items : List FavoriteItem} {selected : List String}
  {entries : List (FavoriteItem × Nat)} {now : Instant}
  {known : String → Option SourceMembership} {action : CollectionAction} {row : SourceMembership}

theorem Stuck.not_invariant (stuck : Stuck store sourceId bvid) :
    ¬ QueueInvariant store := by
  obtain ⟨row, isRow, queued, present, isLink⟩ := stuck
  intro invariant
  rw [invariant row (member_eq_some.mp isRow).1 queued present] at isLink
  cases isLink

/-- No scan gets a stuck membership unstuck. -/
theorem Stuck.keepsMembers (stuck : Stuck before sourceId bvid)
    (keeps : KeepsMembers before after) :
    Stuck after sourceId bvid := by
  obtain ⟨row, isRow, queued, present, isLink⟩ := stuck
  obtain ⟨new, isNew, relisted⟩ := keeps sourceId bvid row isRow
  obtain ⟨id, isId⟩ := Option.isSome_iff_exists.mp isLink
  refine ⟨new, isNew, relisted.queued.trans queued, ?_, ?_⟩
  · simpa [SourceMembership.present] using relisted.present (by simp [SourceMembership.present, present])
  · rw [relisted.link id isId]
    rfl

/-! ## The first scan -/

theorem initializeItem_memberships (sourceId : Nat) (selected : List String) (clock : CallClock)
    (entry : FavoriteItem × Nat) :
    (initializeItem sourceId selected clock store entry).memberships =
      (membership store sourceId entry.1 entry.2 (store.videoIdOf entry.1.bvid)
        (entry.1.bvid ∉ selected) (entry.1.bvid ∈ selected)
        (clock.item entry.2).observed).memberships := by
  cases existing : store.videoBySource entry.1.bvid with
  | none => simp [initializeItem, existing, CollectionStore.videoIdOf]
  | some video => simp [initializeItem, existing, CollectionStore.videoIdOf]

theorem initializeItem_videoIdOf (sourceId : Nat) (selected : List String) (clock : CallClock)
    (entry : FavoriteItem × Nat) (bvid : String) :
    (initializeItem sourceId selected clock store entry).videoIdOf bvid = store.videoIdOf bvid := by
  cases existing : store.videoBySource entry.1.bvid with
  | none =>
      simp only [initializeItem, existing]
      rfl
  | some video =>
      simp only [initializeItem, existing, videoIdOf_observeVideo]
      rfl

theorem initializeItem_member_self (sourceId : Nat) (selected : List String) (clock : CallClock)
    (entry : FavoriteItem × Nat) :
    (initializeItem sourceId selected clock store entry).member sourceId entry.1.bvid =
      some (listedRow store sourceId entry.1 entry.2 (store.videoIdOf entry.1.bvid)
        (entry.1.bvid ∉ selected) (entry.1.bvid ∈ selected)
        (clock.item entry.2).observed) := by
  rw [CollectionStore.member, initializeItem_memberships]
  exact member_membership_self

theorem initializeItem_member_of_ne (sourceId : Nat) (selected : List String) (clock : CallClock)
    (different : bvid ≠ entry.1.bvid) :
    (initializeItem sourceId selected clock store entry).member sourceId bvid =
      store.member sourceId bvid := by
  rw [CollectionStore.member, initializeItem_memberships]
  exact member_membership_of_ne fun same => different (Prod.mk.inj same).2

theorem InitializeSafe.item (safe : InitializeSafe store sourceId items selected)
    (clock : CallClock) (isEntry : entry.1 ∈ items) :
    InitializeSafe (initializeItem sourceId selected clock store entry) sourceId items selected := by
  intro item isItem hasVideo
  rw [initializeItem_videoIdOf] at hasVideo
  by_cases same : item.bvid = entry.1.bvid
  · rw [same, initializeItem_member_self]
    have safe := safe entry.1 isEntry (same ▸ hasVideo)
    cases found : store.member sourceId entry.1.bvid with
    | none =>
        rw [listedRow_of_absent found]
        simpa [found, newMembership] using safe
    | some row =>
        rw [listedRow_of_member found]
        simpa [found, SourceMembership.listedAgain] using safe
  · rw [initializeItem_member_of_ne sourceId selected clock same]
    exact safe item isItem hasVideo

theorem QueueClean.initializeItem_kept (clean : QueueClean store)
    (safe : InitializeSafe store sourceId items selected) (clock : CallClock)
    (isEntry : entry.1 ∈ items) :
    QueueClean (initializeItem sourceId selected clock store entry) := by
  intro row isRow queued
  rw [initializeItem_memberships] at isRow
  rcases mem_membership.mp isRow with rfl | ⟨old, -⟩
  · cases hasVideo : store.videoIdOf entry.1.bvid with
    | none =>
        cases found : store.member sourceId entry.1.bvid with
        | none => rw [listedRow_of_absent found]; rfl
        | some present =>
            rw [listedRow_of_member found] at queued ⊢
            simp [SourceMembership.listedAgain, clean present (member_eq_some.mp found).1 queued]
    | some id =>
        have safe := safe entry.1 isEntry (by rw [hasVideo]; rfl)
        cases found : store.member sourceId entry.1.bvid with
        | none =>
            rw [found] at safe
            rw [listedRow_of_absent found] at queued
            exact absurd (by simpa [newMembership] using queued) safe
        | some present =>
            rw [found] at safe
            rw [listedRow_of_member found] at queued
            exact absurd (safe.symm.trans queued) (by decide)
  · exact clean row old queued

theorem QueueClean.initializeLoop_kept (clean : QueueClean store)
    (safe : InitializeSafe store sourceId items selected) (clock : CallClock)
    (entries : List (FavoriteItem × Nat)) (among : ∀ entry ∈ entries, entry.1 ∈ items) :
    QueueClean (entries.foldl (initializeItem sourceId selected clock) store) := by
  induction entries generalizing store with
  | nil => exact clean
  | cons entry rest inductionHypothesis =>
      rw [List.forall_mem_cons] at among
      exact inductionHypothesis (clean.initializeItem_kept safe clock among.1)
        (safe.item clock among.1) among.2

theorem initializeLoop_stuck (linked : Linked store)
    (exists_ : (store.sources.lookup sourceId).isSome) (clock : CallClock)
    (isListed : ∃ entry ∈ entries, entry.1.bvid = bvid)
    (hasVideo : (store.videoIdOf bvid).isSome = true)
    (unsafeRow : match store.member sourceId bvid with
      | some row => row.queuedHistory = true
      | none => bvid ∈ selected) :
    Stuck (entries.foldl (initializeItem sourceId selected clock) store) sourceId bvid := by
  induction entries generalizing store with
  | nil =>
      obtain ⟨entry, isEntry, -⟩ := isListed
      exact absurd isEntry List.not_mem_nil
  | cons entry rest inductionHypothesis =>
      have lists := initializeItem_lists linked sourceId selected clock entry
      have linkedAfter := lists.linked_kept linked exists_
      have existsAfter : ((initializeItem sourceId selected clock store entry).sources.lookup
          sourceId).isSome := lists.sources ▸ exists_
      by_cases same : entry.1.bvid = bvid
      · subst same
        obtain ⟨id, isVideo⟩ := Option.isSome_iff_exists.mp hasVideo
        refine Stuck.keepsMembers ⟨_, initializeItem_member_self sourceId selected clock entry, ?_,
          listedRow_removedAt, ?_⟩
          (initializeLoop_scan selected clock rest linkedAfter existsAfter).keepsMembers
        · cases found : store.member sourceId entry.1.bvid with
          | none =>
              rw [listedRow_of_absent found]
              simpa [found, newMembership] using unsafeRow
          | some row =>
              rw [listedRow_of_member found]
              simpa [found, SourceMembership.listedAgain] using unsafeRow
        · rw [isVideo]
          cases found : store.member sourceId entry.1.bvid with
          | none => rw [listedRow_of_absent found]; rfl
          | some row =>
              rw [listedRow_of_member found]
              simp [SourceMembership.listedAgain]
      · obtain ⟨listed, isListed, isBvid⟩ := isListed
        have later : listed ∈ rest := by
          rcases List.mem_cons.mp isListed with rfl | later
          · exact absurd isBvid same
          · exact later
        refine inductionHypothesis linkedAfter existsAfter ⟨listed, later, isBvid⟩ ?_ ?_
        · rwa [initializeItem_videoIdOf]
        · rwa [initializeItem_member_of_ne sourceId selected clock (Ne.symm same)]

/-! ## The scans after it -/

/-- What the loop of `record_source_snapshot` keeps: the rows of the beginning are there, the queue
is clean, and rows it added are not queued. -/
structure RecordQueue (known : String → Option SourceMembership) (sourceId : Nat)
    (store : CollectionStore) : Prop where
  knows : Knows known sourceId store
  clean : QueueClean store
  added : ∀ bvid row, known bvid = none → store.member sourceId bvid = some row →
    row.queuedHistory = false

theorem listedRow_queued {position : Nat} {item : FavoriteItem} {videoId : Option Nat} :
    (listedRow store sourceId item position videoId false false now).queuedHistory =
      (store.member sourceId item.bvid).any SourceMembership.queuedHistory := by
  cases found : store.member sourceId item.bvid with
  | none => rw [listedRow_of_absent found]; rfl
  | some row => rw [listedRow_of_member found]; rfl

theorem RecordQueue.recordItem_kept {progress : CollectionStore × List Nat}
    (queue : RecordQueue known sourceId progress.1)
    (linked : Linked progress.1) (profile : ProcessingProfile) (clock : CallClock)
    (safe : ∀ prior ∈ known entry.1.bvid, prior.removedAt.isSome = true → prior.videoId = none →
      prior.queuedHistory = false) :
    RecordQueue known sourceId (recordItem sourceId known profile clock progress entry).1 where
  knows := queue.knows.keepsMembers
    (recordItem_lists linked queue.knows profile clock entry).keepsMembers
  clean := by
    intro row isRow queued
    rw [recordItem_memberships] at isRow
    rcases mem_membership.mp isRow with rfl | ⟨old, -⟩
    · rw [listedRow_queued] at queued
      obtain ⟨present, isPresent, isQueued⟩ := (Option.any_eq_true _ _).mp queued
      have unlinked := queue.clean present (member_eq_some.mp isPresent).1 isQueued
      rw [listedRow_of_member isPresent]
      cases isPrior : known entry.1.bvid with
      | none =>
          have := queue.added _ present isPrior isPresent
          rw [isQueued] at this
          cases this
      | some prior =>
          obtain ⟨other, isOther, relisted⟩ := queue.knows _ prior isPrior
          obtain rfl : present = other := Option.some.inj (isPresent.symm.trans isOther)
          have priorQueued : prior.queuedHistory = true := relisted.queued.symm.trans isQueued
          have priorUnlinked : prior.videoId = none := by
            cases isLink : prior.videoId with
            | none => rfl
            | some id => exact absurd ((relisted.link id isLink).symm.trans unlinked) (by simp)
          have priorPresent : prior.removedAt.isSome = false := by
            cases removed : prior.removedAt.isSome with
            | false => rfl
            | true =>
                have quiet := safe prior isPrior removed priorUnlinked
                exact absurd (quiet.symm.trans priorQueued) (by decide)
          simp [SourceMembership.listedAgain, recordLink, getsVideo, unlinked, priorUnlinked,
            priorPresent]
    · exact queue.clean row old queued
  added := by
    intro bvid row unknown isRow
    by_cases same : bvid = entry.1.bvid
    · subst same
      rw [recordItem_member_self] at isRow
      obtain rfl := Option.some.inj isRow
      rw [listedRow_queued]
      cases found : progress.1.member sourceId entry.1.bvid with
      | none => rfl
      | some present => exact queue.added _ present unknown found
    · rw [recordItem_member_of_ne _ _ _ _ _ fun same' => same (Prod.mk.inj same').2] at isRow
      exact queue.added bvid row unknown isRow

theorem RecordQueue.recordLoop_kept {progress : CollectionStore × List Nat}
    (queue : RecordQueue known sourceId progress.1)
    (linked : Linked progress.1) (exists_ : (progress.1.sources.lookup sourceId).isSome)
    (profile : ProcessingProfile) (clock : CallClock)
    (safe : ∀ entry ∈ entries, ∀ prior ∈ known entry.1.bvid, prior.removedAt.isSome = true →
      prior.videoId = none → prior.queuedHistory = false) :
    RecordQueue known sourceId
      (entries.foldl (recordItem sourceId known profile clock) progress).1 := by
  induction entries generalizing progress with
  | nil => exact queue
  | cons entry rest inductionHypothesis =>
      rw [List.forall_mem_cons] at safe
      have lists := recordItem_lists linked queue.knows profile clock entry
      exact inductionHypothesis (queue.recordItem_kept linked profile clock safe.1)
        (lists.linked_kept linked exists_) (lists.sources ▸ exists_) safe.2

theorem recordLoop_stuck {progress : CollectionStore × List Nat} (linked : Linked progress.1)
    (knows : Knows known sourceId progress.1)
    (exists_ : (progress.1.sources.lookup sourceId).isSome) (profile : ProcessingProfile)
    (clock : CallClock) (isEntry : entry ∈ entries) {prior : SourceMembership}
    (isPrior : known entry.1.bvid = some prior) (removed : prior.removedAt.isSome = true)
    (unlinked : prior.videoId = none) (queued : prior.queuedHistory = true) :
    Stuck (entries.foldl (recordItem sourceId known profile clock) progress).1 sourceId
      entry.1.bvid := by
  induction entries generalizing progress with
  | nil => exact absurd isEntry List.not_mem_nil
  | cons first rest inductionHypothesis =>
      have lists := recordItem_lists linked knows profile clock first
      have linkedAfter := lists.linked_kept linked exists_
      have knowsAfter := knows.keepsMembers lists.keepsMembers
      have existsAfter : ((recordItem sourceId known profile clock progress first).1.sources.lookup
          sourceId).isSome := lists.sources ▸ exists_
      rcases List.mem_cons.mp isEntry with rfl | later
      · obtain ⟨row, isRow, relisted⟩ := knows _ prior isPrior
        have gets : getsVideo (known entry.1.bvid) = true := by
          simp [isPrior, getsVideo, removed, unlinked]
        refine Stuck.keepsMembers ⟨_, recordItem_member_self progress sourceId known profile clock
          entry, ?_, listedRow_removedAt, ?_⟩
          (recordLoop_scan profile clock rest linkedAfter knowsAfter existsAfter).keepsMembers
        · rw [listedRow_queued, isRow]
          exact relisted.queued.trans queued
        · rw [listedRow_of_member isRow, recordLink, if_pos gets]
          simp [SourceMembership.listedAgain]
      · exact inductionHypothesis linkedAfter knowsAfter existsAfter later

/-! ## One call -/

theorem QueueClean.of_memberships (clean : QueueClean before)
    (same : after.memberships = before.memberships) : QueueClean after :=
  fun row isRow => clean row (same ▸ isRow)

theorem Stuck.of_memberships (stuck : Stuck before sourceId bvid)
    (same : after.memberships = before.memberships) :
    Stuck after sourceId bvid := by
  unfold Stuck CollectionStore.member at stuck ⊢
  rwa [same]

theorem QueueClean.updateWhere (clean : QueueClean store) {select : SourceMembership → Bool}
    {change : Change SourceMembership.key}
    (quiet : ∀ row, (row.queuedHistory = true → row.videoId = none) →
      (change.apply row).queuedHistory = true → (change.apply row).videoId = none) :
    QueueClean { store with memberships := store.memberships.updateWhere select change } := by
  intro after isAfter
  obtain ⟨before, member, rfl⟩ := Table.mem_updateWhere.mp isAfter
  split
  · exact quiet before (clean before member)
  · exact clean before member

theorem QueueClean.snapshotRows (clean : QueueClean store) {authoritative : Bool} :
    QueueClean (snapshotRows store sourceId items authoritative now) := by
  unfold Collection.snapshotRows
  split
  · exact (clean.updateWhere fun _ quiet => quiet).of_memberships rfl
  · exact clean

theorem Stuck.snapshotRows (stuck : Stuck store sourceId bvid)
    (isListed : bvid ∈ items.map FavoriteItem.bvid) {authoritative : Bool} :
    Stuck (snapshotRows store sourceId items authoritative now) sourceId bvid := by
  obtain ⟨row, isRow, rest⟩ := stuck
  unfold Collection.snapshotRows
  split
  · refine ⟨row, ?_, rest⟩
    obtain ⟨-, -, isBvid⟩ := member_eq_some.mp isRow
    have kept : ¬ (row.sourceId = sourceId ∧ row.bvid ∉ items.map FavoriteItem.bvid) :=
      fun gone => gone.2 (isBvid ▸ isListed)
    show (unlistMemberships store sourceId items now).memberships.lookup (sourceId, bvid) = some row
    rw [unlistMemberships, Table.lookup_updateWhere,
      show store.memberships.lookup (sourceId, bvid) = some row from isRow, Option.map_some,
      if_neg (by simpa only [decide_eq_true_eq] using kept)]
  · exact ⟨row, isRow, rest⟩

theorem QueueClean.outline (clean : QueueClean store) (linked : Linked store)
    (outline : Outline store action after) (safe : QueueSafe store action) : QueueClean after := by
  cases outline with
  | aside aside => exact clean.of_memberships aside.memberships
  | changed => exact clean
  | @initialized clock sourceId items authoritative remoteTotal held source _ guard closed =>
      simp only [QueueSafe, guard] at safe
      refine (clean.initializeLoop_kept safe clock _ ?_).of_memberships closed.memberships
      exact fun entry isEntry => List.fst_mem_of_mem_zipIdx isEntry
  | @recorded clock sourceId items profile authoritative remoteTotal held source _ guard closed =>
      simp only [QueueSafe, guard] at safe
      have queue : RecordQueue (store.member sourceId) sourceId store :=
        ⟨Knows.start sourceId store, clean, fun bvid row unknown isRow =>
          absurd (unknown.symm.trans isRow) (by simp)⟩
      have kept := @RecordQueue.recordLoop_kept sourceId items.zipIdx (store.member sourceId)
        (store, []) queue linked (sourceGuard_exists guard) profile clock fun entry isEntry =>
          safe entry.1 (List.fst_mem_of_mem_zipIdx isEntry)
      exact kept.clean.snapshotRows.of_memberships closed.memberships
  | covered closed =>
      refine (clean.updateWhere fun row _ queued => ?_).of_memberships closed.memberships
      simpa [SourceMembership.covered] using (show _ ∧ _ by
        simpa [SourceMembership.covered] using queued).2
  | materialized =>
      intro row isRow queued
      rcases Table.mem_modify.mp isRow with ⟨before, -, -, rfl⟩ | ⟨old, -⟩
      · exact absurd queued (by simp [SourceMembership.materialized])
      · rw [createVideo_memberships] at old
        exact clean row old queued

theorem QueueClean.step (clean : QueueClean store) (linked : Linked store)
    (safe : QueueSafe store action) :
    QueueClean (stepCollection store action) := by
  rcases stepCollection_outline store action with same | outline
  · exact same.symm ▸ clean
  · exact clean.outline linked outline safe

/-- A scan that does not meet its condition leaves a stuck membership. -/
theorem stuck_step (linked : Linked store) (notSafe : ¬ QueueSafe store action) :
    ∃ sourceId bvid, Stuck (stepCollection store action) sourceId bvid := by
  cases action with
  | initializeSourceMemberships clock sourceId items authoritative remoteTotal held =>
      cases guard : sourceGuard store clock sourceId held with
      | error failure => simp [QueueSafe, guard] at notSafe
      | ok source =>
          simp only [QueueSafe, guard, InitializeSafe, not_forall] at notSafe
          obtain ⟨item, isItem, hasVideo, bad⟩ := notSafe
          obtain ⟨entry, isEntry, rfl⟩ := exists_entry isItem
          refine ⟨sourceId, entry.1.bvid, Stuck.of_memberships
            (initializeLoop_stuck linked (sourceGuard_exists guard) clock ⟨entry, isEntry, rfl⟩
              hasVideo ?_) (stepCollection_initializing guard).memberships⟩
          cases found : store.member sourceId entry.1.bvid with
          | none => simpa [found] using bad
          | some row => simpa [found] using bad
  | recordSourceSnapshot clock sourceId items profile authoritative remoteTotal held =>
      cases guard : sourceGuard store clock sourceId held with
      | error failure => simp [QueueSafe, guard] at notSafe
      | ok source =>
          simp only [QueueSafe, guard, RecordSafe, not_forall] at notSafe
          obtain ⟨item, isItem, prior, isPrior, removed, unlinked, queued⟩ := notSafe
          obtain ⟨entry, isEntry, rfl⟩ := exists_entry isItem
          have stuck := @recordLoop_stuck sourceId entry items.zipIdx (store.member sourceId) (store, [])
            linked (Knows.start sourceId store) (sourceGuard_exists guard) profile clock isEntry
            prior isPrior removed unlinked (by simpa using queued)
          exact ⟨sourceId, entry.1.bvid, Stuck.of_memberships
            (stuck.snapshotRows (List.mem_map_of_mem isItem))
            (stepCollection_record guard).memberships⟩
  | _ => exact absurd trivial notSafe

/-! ## Progress -/

theorem mem_backlogRows {sourceIds : Option (List Nat)} :
    row ∈ backlogRows store sourceIds ↔ row ∈ store.memberships ∧ row.pending = true ∧
      store.sourceActive row.sourceId = true ∧ inScope sourceIds row.sourceId = true := by
  rw [backlogRows, List.mem_insertionSort, List.mem_filter, Table.mem_rows]
  simp

theorem backlogRows_nodup (store : CollectionStore) (sourceIds : Option (List Nat)) :
    (backlogRows store sourceIds).Nodup :=
  (List.perm_insertionSort _ _).nodup_iff.mpr
    ((List.Nodup.of_map _ store.memberships.unique).filter _)

theorem materialize_pending (clean : QueueClean store) (member : row ∈ store.memberships)
    (pending : row.pending = true) (active : store.sourceActive row.sourceId = true)
    (now : Instant) :
    ∃ after id, materializeHistoryMembership store now row.sourceId row.bvid = .ok (after, id) ∧
      after.sources = store.sources ∧ after.memberships =
        store.memberships.modify row.key (SourceMembership.materialized id) := by
  simp only [SourceMembership.pending, Bool.and_eq_true] at pending
  have unlinked := clean row member pending.1
  have isRow : store.member row.sourceId row.bvid = some row :=
    member_eq_some.mpr ⟨member, rfl, rfl⟩
  cases isSource : store.sources.lookup row.sourceId with
  | none => simp [CollectionStore.sourceActive, isSource] at active
  | some source =>
      have isActive : source.fields.status = .active := by
        simpa [CollectionStore.sourceActive, isSource] using active
      unfold materializeHistoryMembership
      simp only [isSource, isRow, pending, isActive, unlinked, Bool.not_true, Bool.false_eq_true,
        ne_eq, not_true_eq_false, or_self, if_false]
      exact ⟨_, _, rfl, createVideo_sources, by
        rw [CollectionStore.updateMembership, createVideo_memberships]
        rfl⟩

/-- The rows that wait after one of them got its video. -/
theorem mem_pending_materialized {other : SourceMembership} (isAfter : after.memberships =
      store.memberships.modify row.key (SourceMembership.materialized id)) :
    (other ∈ after.memberships ∧ other.pending = true) ↔
      (other ∈ store.memberships ∧ other.pending = true) ∧ other.key ≠ row.key := by
  rw [isAfter, Table.mem_modify]
  constructor
  · rintro ⟨⟨before, -, -, rfl⟩ | ⟨member, different⟩, pending⟩
    · simp [SourceMembership.pending, SourceMembership.materialized] at pending
    · exact ⟨⟨member, pending⟩, different⟩
  · rintro ⟨⟨member, pending⟩, different⟩
    exact ⟨Or.inr ⟨member, different⟩, pending⟩

theorem QueueClean.materialized (clean : QueueClean store) {key : Nat × String}
    (isAfter : after.memberships =
      store.memberships.modify key (SourceMembership.materialized id)) : QueueClean after := by
  intro other isOther queued
  rw [isAfter] at isOther
  rcases Table.mem_modify.mp isOther with ⟨before, -, -, rfl⟩ | ⟨member, -⟩
  · simp [SourceMembership.materialized] at queued
  · exact clean other member queued

/-- The database clock when each membership of a batch gets its video, and the batch's limit. -/
structure HistoryBatch where
  limit : Nat
  clock : SourceMembership → Instant

/-- Turn a list of memberships into videos, one call each. -/
def materializeRows (clock : SourceMembership → Instant) :
    CollectionStore → List SourceMembership → Except Failure CollectionStore
  | store, [] => .ok store
  | store, row :: rest =>
      match materializeHistoryMembership store (clock row) row.sourceId row.bvid with
      | .error failure => .error failure
      | .ok (after, _) => materializeRows clock after rest

/-- The collection calls of `_process_history_backlog`. -/
def processHistoryBacklog (sourceIds : Option (List Nat)) (store : CollectionStore)
    (batch : HistoryBatch) : Except Failure CollectionStore :=
  materializeRows batch.clock store (listHistoryBacklog store batch.limit sourceIds)

/-- Batch after batch. -/
def processBatches (sourceIds : Option (List Nat)) :
    CollectionStore → List HistoryBatch → Except Failure CollectionStore
  | store, [] => .ok store
  | store, batch :: rest =>
      match processHistoryBacklog sourceIds store batch with
      | .error failure => .error failure
      | .ok after => processBatches sourceIds after rest

theorem materializeRows_ok (clean : QueueClean store) (clock : SourceMembership → Instant)
    {rows : List SourceMembership} (unique : rows.Nodup)
    (waiting : ∀ row ∈ rows, row ∈ store.memberships ∧ row.pending = true ∧
      store.sourceActive row.sourceId = true) :
    ∃ after, materializeRows clock store rows = .ok after ∧ QueueClean after ∧
      after.sources = store.sources ∧ ∀ other,
        (other ∈ after.memberships ∧ other.pending = true) ↔
          (other ∈ store.memberships ∧ other.pending = true) ∧ other ∉ rows := by
  induction rows generalizing store with
  | nil => exact ⟨store, rfl, clean, rfl, fun other => by simp⟩
  | cons row rest inductionHypothesis =>
      rw [List.forall_mem_cons] at waiting
      obtain ⟨⟨member, pending, active⟩, waiting⟩ := waiting
      rw [List.nodup_cons] at unique
      obtain ⟨middle, id, done, sources, memberships⟩ :=
        materialize_pending clean member pending active (clock row)
      -- a row of the table is known by its key
      have keyed : ∀ other ∈ store.memberships, other.key = row.key → other = row :=
        fun other isOther same => Table.eq_of_key isOther member same
      have still : ∀ other ∈ rest, other ∈ middle.memberships ∧ other.pending = true ∧
          middle.sourceActive other.sourceId = true := by
        intro other isOther
        obtain ⟨isMember, isPending, isActive⟩ := waiting other isOther
        have different : other.key ≠ row.key := fun same =>
          unique.1 (keyed other isMember same ▸ isOther)
        obtain ⟨stays, waits⟩ := (mem_pending_materialized memberships).mpr
          ⟨⟨isMember, isPending⟩, different⟩
        refine ⟨stays, waits, ?_⟩
        rwa [CollectionStore.sourceActive, sources]
      obtain ⟨after, rest_done, cleanAfter, sourcesAfter, remaining⟩ :=
        inductionHypothesis (clean.materialized memberships) unique.2 still
      refine ⟨after, by rw [materializeRows, done]; exact rest_done, cleanAfter,
        sourcesAfter.trans sources, fun other => ?_⟩
      rw [remaining other, mem_pending_materialized memberships, List.mem_cons, not_or, and_assoc,
        and_congr_right_iff]
      rintro ⟨isOther, -⟩
      refine and_congr_left fun _ => not_congr ⟨keyed other isOther, ?_⟩
      rintro rfl
      rfl

theorem processHistoryBacklog_ok (clean : QueueClean store) (sourceIds : Option (List Nat))
    (batch : HistoryBatch) :
    ∃ after, processHistoryBacklog sourceIds store batch = .ok after ∧ QueueClean after ∧
      ∀ row, row ∈ backlogRows after sourceIds ↔ row ∈ backlogRows store sourceIds ∧
        row ∉ listHistoryBacklog store batch.limit sourceIds := by
  have waiting : ∀ row ∈ listHistoryBacklog store batch.limit sourceIds,
      row ∈ store.memberships ∧ row.pending = true ∧ store.sourceActive row.sourceId = true := by
    intro row isRow
    obtain ⟨member, pending, active, -⟩ := mem_backlogRows.mp (List.mem_of_mem_take isRow)
    exact ⟨member, pending, active⟩
  obtain ⟨after, done, cleanAfter, sources, remaining⟩ := materializeRows_ok clean batch.clock
    ((backlogRows_nodup store sourceIds).sublist (List.take_sublist _ _)) waiting
  refine ⟨after, done, cleanAfter, fun row => ?_⟩
  have sameActive : after.sourceActive row.sourceId = store.sourceActive row.sourceId := by
    rw [CollectionStore.sourceActive, sources]
    rfl
  rw [mem_backlogRows, mem_backlogRows, sameActive, ← and_assoc, remaining row]
  tauto

theorem processBatches_offer (clean : QueueClean store) (sourceIds : Option (List Nat))
    {batches : List HistoryBatch} (bounded : ∀ batch ∈ batches, 1 ≤ batch.limit)
    (enough : (backlogRows store sourceIds).length ≤ batches.length)
    (waits : row ∈ backlogRows store sourceIds) :
    ∃ earlier batch later middle, batches = earlier ++ batch :: later ∧
      processBatches sourceIds store earlier = .ok middle ∧
        row ∈ listHistoryBacklog middle batch.limit sourceIds := by
  induction batches generalizing store with
  | nil =>
      rw [List.length_nil, Nat.le_zero, List.length_eq_zero_iff] at enough
      exact absurd waits (enough ▸ List.not_mem_nil)
  | cons batch rest inductionHypothesis =>
      by_cases offered : row ∈ listHistoryBacklog store batch.limit sourceIds
      · exact ⟨[], batch, rest, store, rfl, rfl, offered⟩
      · rw [List.forall_mem_cons] at bounded
        obtain ⟨after, done, cleanAfter, remaining⟩ :=
          processHistoryBacklog_ok clean sourceIds batch
        -- the first of the backlog is in the batch, so the backlog gets shorter
        have shorter : (backlogRows after sourceIds).length <
            (backlogRows store sourceIds).length := by
          obtain ⟨limit, isLimit⟩ := Nat.exists_eq_add_of_le' bounded.1
          cases isBacklog : backlogRows store sourceIds with
          | nil => exact absurd waits (isBacklog ▸ List.not_mem_nil)
          | cons first others =>
              have among : backlogRows after sourceIds ⊆ others := by
                intro other isOther
                obtain ⟨isBacklogRow, notOffered⟩ := (remaining other).mp isOther
                rw [listHistoryBacklog, isBacklog, isLimit, List.take_succ_cons, List.mem_cons,
                  not_or] at notOffered
                rw [isBacklog] at isBacklogRow
                exact (List.mem_cons.mp isBacklogRow).resolve_left notOffered.1
              exact Nat.lt_succ_of_le
                (List.subperm_of_subset (backlogRows_nodup after sourceIds) among).length_le
        obtain ⟨earlier, found, later, middle, isSplit, run, isOffered⟩ :=
          inductionHypothesis cleanAfter bounded.2
            (Nat.le_of_lt_succ (shorter.trans_le enough)) ((remaining row).mpr ⟨waits, offered⟩)
        refine ⟨batch :: earlier, found, later, middle, by rw [isSplit]; rfl, ?_, isOffered⟩
        rw [processBatches, done]
        exact run

theorem historyPendingCount_materialized (member : row ∈ store.memberships)
    (pending : row.pending = true) (isAfter : after.memberships =
      store.memberships.modify row.key (SourceMembership.materialized id)) :
    historyPendingCount after + 1 = historyPendingCount store := by
  have count : ∀ table : Table SourceMembership.key, table.count SourceMembership.pending =
      table.total SourceMembership.pending fun _ => (1 : Nat) := fun table =>
    (Nat.cast_id _).symm.trans (Table.count_eq_total table SourceMembership.pending)
  have moved := Table.total_modify (Table.lookup_of_mem member)
    (SourceMembership.materialized id) SourceMembership.pending fun _ => (1 : Nat)
  rw [if_pos pending, if_neg (by simp [SourceMembership.pending, SourceMembership.materialized]),
    Nat.add_zero] at moved
  rw [historyPendingCount, historyPendingCount, count, count, isAfter]
  exact moved

/-- What a clean queue promises: a call that returns leaves its membership out of the queue, and
lowers the count if it was in it; the memberships of the backlog get their videos; and batches of
any positive size, taken one after another, offer every waiting membership of an active source. -/
structure HistoryProgress (store : CollectionStore) : Prop where
  leaves : ∀ now sourceId bvid after id,
    materializeHistoryMembership store now sourceId bvid = .ok (after, id) →
      ∀ row, after.member sourceId bvid = some row → row.queuedHistory = false
  drains : ∀ row ∈ store.memberships, row.pending = true → ∀ now after id,
    materializeHistoryMembership store now row.sourceId row.bvid = .ok (after, id) →
      historyPendingCount after + 1 = historyPendingCount store
  succeeds : ∀ limit sourceIds, ∀ row ∈ listHistoryBacklog store limit sourceIds, ∀ now,
    ∃ after id, materializeHistoryMembership store now row.sourceId row.bvid = .ok (after, id)
  offers : ∀ sourceIds batches, (∀ batch ∈ batches, 1 ≤ HistoryBatch.limit batch) →
    (backlogRows store sourceIds).length ≤ batches.length →
      ∀ row ∈ store.memberships, row.pending = true → store.sourceActive row.sourceId = true →
        inScope sourceIds row.sourceId = true →
          ∃ earlier batch later middle, batches = earlier ++ batch :: later ∧
            processBatches sourceIds store earlier = .ok middle ∧
              row ∈ listHistoryBacklog middle batch.limit sourceIds

/-- A call that returned found a video, or gave one to a membership that waited. -/
theorem materialize_cases
    (done : materializeHistoryMembership store now sourceId bvid = .ok (after, id)) :
    ∃ row, store.member sourceId bvid = some row ∧
      ((row.videoId = some id ∧ after = store) ∨
        (row.videoId = none ∧ after.memberships =
          store.memberships.modify (sourceId, bvid) (SourceMembership.materialized id))) := by
  unfold materializeHistoryMembership at done
  cases isSource : store.sources.lookup sourceId with
  | none => simp [isSource] at done
  | some source =>
      cases isRow : store.member sourceId bvid with
      | none => simp [isSource, isRow] at done
      | some row =>
          simp only [isSource, isRow] at done
          split at done
          · cases done
          · cases isLink : row.videoId with
            | some videoId =>
                simp only [isLink, Except.ok.injEq, Prod.mk.injEq] at done
                obtain ⟨rfl, rfl⟩ := done
                exact ⟨row, rfl, Or.inl ⟨isLink, rfl⟩⟩
            | none =>
                simp only [isLink] at done
                split at done
                · cases done
                · cases done
                  refine ⟨row, rfl, Or.inr ⟨isLink, ?_⟩⟩
                  rw [CollectionStore.updateMembership, createVideo_memberships]

theorem QueueClean.progress (clean : QueueClean store) : HistoryProgress store where
  leaves := by
    intro now sourceId bvid after id done row isRow
    obtain ⟨before, isBefore, ⟨isLink, rfl⟩ | ⟨-, memberships⟩⟩ := materialize_cases done
    · obtain rfl : before = row := Option.some.inj (isBefore.symm.trans isRow)
      cases queued : before.queuedHistory with
      | false => rfl
      | true =>
          have unlinked := clean before (member_eq_some.mp isRow).1 queued
          exact absurd (isLink.symm.trans unlinked) (by simp)
    · rw [CollectionStore.member, memberships, Table.lookup_modify_self,
        show store.memberships.lookup (sourceId, bvid) = some before from isBefore] at isRow
      obtain rfl := Option.some.inj isRow
      rfl
  drains := by
    intro row member pending now after id done
    obtain ⟨before, isBefore, ⟨isLink, rfl⟩ | ⟨-, memberships⟩⟩ := materialize_cases done
    · obtain rfl : row = before :=
        Option.some.inj ((member_eq_some.mpr ⟨member, rfl, rfl⟩).symm.trans isBefore)
      have queued : row.queuedHistory = true := by
        simp only [SourceMembership.pending, Bool.and_eq_true] at pending
        exact pending.1
      exact absurd (isLink.symm.trans (clean row member queued)) (by simp)
    · exact historyPendingCount_materialized member pending memberships
  succeeds := by
    intro limit sourceIds row isRow now
    obtain ⟨member, pending, active, -⟩ := mem_backlogRows.mp (List.mem_of_mem_take isRow)
    obtain ⟨after, id, done, -⟩ := materialize_pending clean member pending active now
    exact ⟨after, id, done⟩
  offers := fun sourceIds _ bounded enough _ member pending active inside =>
    processBatches_offer clean sourceIds bounded enough
      (mem_backlogRows.mpr ⟨member, pending, active, inside⟩)

/-! ## Runs -/

theorem queueClean_run (clean : QueueClean store) (linked : Linked store)
    {actions : List CollectionAction} (safe : EachStep stepCollection QueueSafe store actions) :
    QueueClean (runFrom stepCollection store actions) := by
  have kept : ∀ state action, QueueClean state ∧ Linked state → QueueSafe state action →
      QueueClean (stepCollection state action) ∧ Linked (stepCollection state action) :=
    fun _ action both safe => ⟨both.1.step both.2 safe, both.2.step action⟩
  exact (invariant_run_of_each kept ⟨clean, linked⟩ safe).1

/-- A run whose every state has the invariant takes no scan that breaks it. -/
theorem safe_of_invariant {actions : List CollectionAction} (linked : Linked store)
    (holds : ∀ earlier, earlier <+: actions →
      QueueInvariant (runFrom stepCollection store earlier)) :
    EachStep stepCollection QueueSafe store actions := by
  induction actions generalizing store with
  | nil => exact trivial
  | cons action rest inductionHypothesis =>
      refine ⟨?_, inductionHypothesis (linked.step action) fun earlier isEarlier =>
        holds (action :: earlier) (List.cons_prefix_cons.mpr ⟨rfl, isEarlier⟩)⟩
      by_contra notSafe
      obtain ⟨sourceId, bvid, stuck⟩ := stuck_step linked notSafe
      exact stuck.not_invariant (holds [action] ⟨rest, rfl⟩)

/-- In every state of a run from an empty workspace queued memberships have no video and the queue
drains, exactly when every scan of the run meets its condition. -/
theorem history_queue_iff (actions : List CollectionAction) :
    EachStep stepCollection QueueSafe CollectionStore.empty actions ↔
      ∀ earlier, earlier <+: actions →
        QueueInvariant (runFrom stepCollection CollectionStore.empty earlier) ∧
          HistoryProgress (runFrom stepCollection CollectionStore.empty earlier) := by
  constructor
  · rintro safe earlier ⟨later, rfl⟩
    have clean := queueClean_run (fun row member => absurd member (Table.not_mem_empty row))
      linked_empty (EachStep.append.mp safe).1
    exact ⟨clean.invariant, clean.progress⟩
  · exact fun holds => safe_of_invariant linked_empty fun earlier isEarlier =>
      (holds earlier isEarlier).1

/-! ### A video two sources share -/

/-- Clocks that show second one throughout. -/
def secondOne : CallClock :=
  ⟨microsPerSecond, microsPerSecond, microsPerSecond, 1, fun _ =>
    ⟨microsPerSecond, 1, microsPerSecond, 1⟩⟩

/-- One item, favourited in second 100. -/
def sharedItem : FavoriteItem := ⟨"BV1", "title", "uploader", 60, some 100⟩

/-- A source whose snapshot brings the item in, and a second source, with all its history wanted,
whose first scan lists it too. -/
def sharedVideoRun : List CollectionAction :=
  [.createFavoriteSource ⟨1, "first", none, "", "", 0, .futureOnly, none⟩,
    .createFavoriteSource ⟨2, "second", none, "", "", 0, .all, none⟩,
    .recordSourceSnapshot secondOne 1 [sharedItem] .formal true none none,
    .initializeSourceMemberships secondOne 2 [sharedItem] true none none]

/-- The second membership is queued with a video; materializing it returns the video, changes
nothing, and the count stays one. -/
theorem shared_video_stuck :
    ∃ row ∈ listHistoryBacklog
        (runFrom stepCollection CollectionStore.empty sharedVideoRun) 8 none,
      row.videoId = some 1 ∧
        (materializeHistoryMembership (runFrom stepCollection CollectionStore.empty sharedVideoRun)
          microsPerSecond row.sourceId row.bvid).map (fun done =>
            (historyPendingCount done.1, done.2)) = .ok (1, 1) ∧
        historyPendingCount (runFrom stepCollection CollectionStore.empty sharedVideoRun) = 1 ∧
        ¬ QueueInvariant (runFrom stepCollection CollectionStore.empty sharedVideoRun) := by
  refine ⟨((runFrom stepCollection CollectionStore.empty sharedVideoRun).member 2 "BV1").get
    (by decide +kernel), by decide +kernel, by decide +kernel, by decide +kernel,
    by decide +kernel, ?_⟩
  have stuck : Stuck (runFrom stepCollection CollectionStore.empty sharedVideoRun) 2 "BV1" :=
    ⟨_, rfl, by decide +kernel, by decide +kernel, by decide +kernel⟩
  exact stuck.not_invariant

end Shiliu.Collection
