/-
Module: Shiliu.Collection.BaselineSelection
Purpose: The history that the first complete scan of a folder queues. The scan selects its items in
  memory, but `_membership` writes the selection only into the rows it inserts: an item that an
  earlier incomplete scan listed keeps its flag, and an item that has a video is queued all the
  same. The stored selection is the wanted one exactly when none of the wanted items has a
  membership or a video when the complete scan arrives.
Trusted boundary: none
Main exports: comesBefore, wantedHistory, baseline_selection, partial_scan_hides_history
-/
import Mathlib.Data.List.Dedup
import Shiliu.Library.Keyset
import Shiliu.Collection.HistoryQueue

set_option linter.all false

namespace Shiliu.Collection

open Shiliu.Library
open Shiliu.Storage

variable {store : CollectionStore} {sourceId : Nat}

/-! ## The wanted history -/

/-- The order of the history: the later favourite time first, unknown times last, then the position
in the scan. -/
def comesBefore (first second : FavoriteItem × Nat) : Bool :=
  match first.1.favoriteTime, second.1.favoriteTime with
  | some one, some two => two < one || (one == two && first.2 < second.2)
  | some _, none => true
  | none, some _ => false
  | none, none => first.2 < second.2

/-- The items among the first of the order, as many as the policy asks for. -/
def wantedHistory (columns : FavoriteSourceColumns) (items : List FavoriteItem) :
    List FavoriteItem :=
  (items.zipIdx.filter fun entry =>
    ((items.zipIdx.filter fun other => comesBefore other entry).length : Int) <
      historyCount columns items).map Prod.fst

/-- A source has a queued membership of a bvid. -/
def Queued (store : CollectionStore) (sourceId : Nat) (bvid : String) : Prop :=
  ∃ row ∈ store.memberships, row.sourceId = sourceId ∧ row.bvid = bvid ∧ row.queuedHistory = true

/-- What a complete first scan is to leave. -/
structure BaselineSelected (after : CollectionStore) (sourceId : Nat) (wanted : List FavoriteItem)
    (returned : Nat) : Prop where
  /-- The queued memberships are those of the wanted items without a video. -/
  queued : ∀ bvid, Queued after sourceId bvid ↔
    ∃ item ∈ wanted, item.bvid = bvid ∧ after.videoIdOf bvid = none
  counted : returned =
    after.memberships.count fun row => row.sourceId = sourceId && row.queuedHistory
  /-- The cutoff is the earliest known time of the wanted items, when there is one. -/
  cutoff : ∀ oldest, (wanted.filterMap FavoriteItem.favoriteTime).min? = some oldest →
    ∃ source, after.sources.lookup sourceId = some source ∧
      source.fields.historyCutoffTime = some oldest

/-! ## The order of the selection -/

theorem comesBefore_iff {first second : FavoriteItem × Nat} :
    comesBefore first second = true ↔
      FavoriteItem.historyKey first < FavoriteItem.historyKey second := by
  cases one : first.1.favoriteTime with
  | none =>
      cases two : second.1.favoriteTime with
      | none => simp [comesBefore, FavoriteItem.historyKey, one, two, Prod.Lex.toLex_lt_toLex]
      | some time => simp [comesBefore, FavoriteItem.historyKey, one, two, Prod.Lex.toLex_lt_toLex]
  | some time =>
      cases two : second.1.favoriteTime with
      | none => simp [comesBefore, FavoriteItem.historyKey, one, two, Prod.Lex.toLex_lt_toLex]
      | some other => simp [comesBefore, FavoriteItem.historyKey, one, two, Prod.Lex.toLex_lt_toLex]

theorem comesBefore_asymmetric (first second : FavoriteItem × Nat)
    (isBefore : comesBefore first second = true) : comesBefore second first = false := by
  have strict := comesBefore_iff.mp isBefore
  cases back : comesBefore second first with
  | false => rfl
  | true => exact absurd (comesBefore_iff.mp back) strict.asymm

/-- `ordered`. -/
def historyOrder (items : List FavoriteItem) : List (FavoriteItem × Nat) :=
  items.zipIdx.insertionSort fun first second =>
    FavoriteItem.historyKey first ≤ FavoriteItem.historyKey second

theorem historyOrder_perm (items : List FavoriteItem) :
    (historyOrder items).Perm items.zipIdx :=
  List.perm_insertionSort _ _

/-- Positions differ, so the order is strict. -/
theorem historyOrder_sorted (items : List FavoriteItem) :
    (historyOrder items).Pairwise fun first second => comesBefore first second = true := by
  have total : Std.Total fun first second : FavoriteItem × Nat =>
      FavoriteItem.historyKey first ≤ FavoriteItem.historyKey second :=
    ⟨fun first second => le_total (FavoriteItem.historyKey first) (FavoriteItem.historyKey second)⟩
  have transitive : IsTrans (FavoriteItem × Nat) fun first second =>
      FavoriteItem.historyKey first ≤ FavoriteItem.historyKey second :=
    ⟨fun _ _ _ one two => one.trans two⟩
  have weak := List.pairwise_insertionSort (fun first second : FavoriteItem × Nat =>
    FavoriteItem.historyKey first ≤ FavoriteItem.historyKey second) items.zipIdx
  have positions : ((historyOrder items).map Prod.snd).Nodup := by
    rw [((historyOrder_perm items).map Prod.snd).nodup_iff, List.zipIdx_map_snd]
    exact List.nodup_range'
  rw [List.Nodup, List.pairwise_map] at positions
  apply (weak.and positions).imp
  rintro first second ⟨atMost, differ⟩
  apply comesBefore_iff.mpr
  apply lt_of_le_of_ne atMost
  intro same
  apply differ
  have keys := congrArg (fun key => (ofLex (ofLex key).2).2) same
  exact keys

theorem newestItems_eq {items : List FavoriteItem} {count : Int} :
    newestItems items count = (upTo (historyOrder items) count).map Prod.fst := rfl

/-- A limit that Python does not read from the end of the list, or reads to nothing. -/
def LimitFits (columns : FavoriteSourceColumns) (items : List FavoriteItem) : Prop :=
  0 ≤ historyCount columns items ∨ items.length ≤ (-historyCount columns items).toNat

instance (columns : FavoriteSourceColumns) (items : List FavoriteItem) :
    Decidable (LimitFits columns items) :=
  inferInstanceAs (Decidable (_ ∨ _))

theorem length_historyOrder (items : List FavoriteItem) :
    (historyOrder items).length = items.length := by
  rw [(historyOrder_perm items).length_eq, List.length_zipIdx]

variable {entry : FavoriteItem × Nat} {columns : FavoriteSourceColumns} {before : CollectionStore}
  {action : CollectionAction}

theorem mem_historyOrder {items : List FavoriteItem} :
    entry ∈ historyOrder items ↔ entry ∈ items.zipIdx :=
  (historyOrder_perm items).mem_iff

theorem mem_upTo_historyOrder {items : List FavoriteItem} (fits : LimitFits columns items) :
    entry ∈ upTo (historyOrder items) (historyCount columns items) ↔
      entry ∈ items.zipIdx ∧
        ((items.zipIdx.filter fun other => comesBefore other entry).length : Int) <
          historyCount columns items := by
  have ranks : (items.zipIdx.filter fun other => comesBefore other entry).length =
      ((historyOrder items).filter fun other => comesBefore other entry).length :=
    (((historyOrder_perm items).filter _).length_eq).symm
  by_cases nonnegative : 0 ≤ historyCount columns items
  · rw [upTo, if_pos nonnegative,
      Keyset.mem_take_iff_before (historyOrder_sorted items) comesBefore_asymmetric,
      mem_historyOrder, ranks]
    apply and_congr_right
    intro _
    omega
  · have short := fits.resolve_left nonnegative
    rw [upTo, if_neg nonnegative, length_historyOrder, Nat.sub_eq_zero_of_le short, List.take_zero]
    constructor
    · intro absurdity
      cases absurdity
    · rintro ⟨_, less⟩
      omega

theorem newestItems_perm {items : List FavoriteItem} (fits : LimitFits columns items) :
    (newestItems items (historyCount columns items)).Perm (wantedHistory columns items) := by
  have distinct : items.zipIdx.Nodup := by
    apply List.Nodup.of_map Prod.snd
    rw [List.zipIdx_map_snd]
    exact List.nodup_range'
  have cut : (upTo (historyOrder items) (historyCount columns items)).Nodup := by
    have whole := (historyOrder_perm items).nodup_iff.mpr distinct
    unfold upTo
    split
    · exact whole.sublist (List.take_sublist _ _)
    · exact whole.sublist (List.take_sublist _ _)
  apply List.Perm.map
  apply (List.perm_ext_iff_of_nodup cut (distinct.filter _)).mpr
  intro entry
  rw [mem_upTo_historyOrder fits, List.mem_filter, decide_eq_true_eq]

theorem wantedHistory_of_not_fits {items : List FavoriteItem} (unfit : ¬ LimitFits columns items) :
    wantedHistory columns items = [] ∧ newestItems items (historyCount columns items) ≠ [] := by
  obtain ⟨negative, long⟩ := not_or.mp unfit
  constructor
  · rw [wantedHistory, List.map_eq_nil_iff, List.filter_eq_nil_iff]
    intro entry _ less
    rw [decide_eq_true_eq] at less
    omega
  · intro isEmpty
    have lengths := congrArg List.length isEmpty
    rw [newestItems_eq, List.length_map, upTo, if_neg negative, List.length_take,
      length_historyOrder, List.length_nil] at lengths
    omega

/-! ## What the scans do to the flags -/

/-- The flag of the membership a source has of a bvid. -/
def CollectionStore.queuedFlag (store : CollectionStore) (sourceId : Nat) (bvid : String) :
    Option Bool :=
  (store.member sourceId bvid).map SourceMembership.queuedHistory

theorem queued_iff {bvid : String} :
    Queued store sourceId bvid ↔ store.queuedFlag sourceId bvid = some true := by
  rw [CollectionStore.queuedFlag, Option.map_eq_some_iff]
  constructor
  · rintro ⟨row, isRow, isSource, isBvid, queued⟩
    exact ⟨row, member_eq_some.mpr ⟨isRow, isSource, isBvid⟩, queued⟩
  · rintro ⟨row, found, queued⟩
    have isRow := member_eq_some.mp found
    exact ⟨row, isRow.1, isRow.2.1, isRow.2.2, queued⟩

theorem initializeItem_queuedFlag (selected : List String) (clock : CallClock)
    (entry : FavoriteItem × Nat) (bvid : String) :
    (initializeItem sourceId selected clock store entry).queuedFlag sourceId bvid =
      if bvid = entry.1.bvid
      then some ((store.queuedFlag sourceId bvid).getD (decide (bvid ∈ selected)))
      else store.queuedFlag sourceId bvid := by
  by_cases same : bvid = entry.1.bvid
  · rw [if_pos same, same, CollectionStore.queuedFlag, CollectionStore.queuedFlag,
      initializeItem_member_self]
    cases found : store.member sourceId entry.1.bvid with
    | none => simp [listedRow_of_absent found, newMembership]
    | some row => simp [listedRow_of_member found, SourceMembership.listedAgain]
  · rw [if_neg same, CollectionStore.queuedFlag, initializeItem_member_of_ne _ _ _ same]
    rfl

theorem initializeLoop_queuedFlag (selected : List String) (clock : CallClock) (bvid : String)
    (entries : List (FavoriteItem × Nat)) :
    (entries.foldl (initializeItem sourceId selected clock) store).queuedFlag sourceId bvid =
      if bvid ∈ entries.map (fun entry => entry.1.bvid)
      then some ((store.queuedFlag sourceId bvid).getD (decide (bvid ∈ selected)))
      else store.queuedFlag sourceId bvid := by
  induction entries generalizing store with
  | nil => simp
  | cons entry rest inductionHypothesis =>
      rw [List.foldl_cons, inductionHypothesis, initializeItem_queuedFlag]
      by_cases same : bvid = entry.1.bvid
      · by_cases again : bvid ∈ rest.map fun entry => entry.1.bvid <;> simp [same]
      · simp only [List.map_cons, List.mem_cons, same, false_or, if_false]

theorem initializeLoop_videoIdOf (selected : List String) (clock : CallClock) (bvid : String)
    (entries : List (FavoriteItem × Nat)) :
    (entries.foldl (initializeItem sourceId selected clock) store).videoIdOf bvid =
      store.videoIdOf bvid := by
  induction entries generalizing store with
  | nil => rfl
  | cons entry rest inductionHypothesis =>
      rw [List.foldl_cons, inductionHypothesis, initializeItem_videoIdOf]

theorem initializeItem_sources (selected : List String) (clock : CallClock)
    (entry : FavoriteItem × Nat) :
    (initializeItem sourceId selected clock store entry).sources = store.sources := by
  cases existing : store.videoBySource entry.1.bvid with
  | none => simp [initializeItem, existing]
  | some video => simp [initializeItem, existing]

theorem initializeLoop_sources (selected : List String) (clock : CallClock)
    (entries : List (FavoriteItem × Nat)) :
    (entries.foldl (initializeItem sourceId selected clock) store).sources = store.sources := by
  induction entries generalizing store with
  | nil => rfl
  | cons entry rest inductionHypothesis =>
      rw [List.foldl_cons, inductionHypothesis, initializeItem_sources]

/-! ## The scans before the complete one -/

/-- A call that may come before the complete scan: an incomplete scan of the source, or a call that
moves a lease. -/
def BeforeBaseline (sourceId : Nat) : CollectionAction → Prop
  | .initializeSourceMemberships _ scanned _ authoritative _ _ =>
      scanned = sourceId ∧ authoritative = false
  | .claimSource _ _ _ _ => True
  | .heartbeatSource _ _ _ => True
  | .releaseSource _ _ => True
  | _ => False

/-- The bvids a scan reports. -/
def CollectionAction.reported : CollectionAction → List String
  | .initializeSourceMemberships _ _ items _ _ _ => items.map FavoriteItem.bvid
  | _ => []

/-- The bvids a call lists, when it is not refused. -/
def listedBy (store : CollectionStore) (action : CollectionAction) : List String :=
  match transact store action with
  | .ok _ => action.reported
  | .error _ => []

/-- The bvids the calls of a run list. -/
def listedBefore (store : CollectionStore) : List CollectionAction → List String
  | [] => []
  | action :: rest => listedBy store action ++ listedBefore (stepCollection store action) rest

theorem Aside.queuedFlag {after : CollectionStore} (aside : Aside before after) (bvid : String) :
    after.queuedFlag sourceId bvid = before.queuedFlag sourceId bvid := by
  rw [CollectionStore.queuedFlag, CollectionStore.member, aside.memberships]
  rfl

theorem Aside.videoIdOf {after : CollectionStore} (aside : Aside before after) (bvid : String) :
    after.videoIdOf bvid = before.videoIdOf bvid := by
  rw [CollectionStore.videoIdOf, CollectionStore.videoBySource, aside.videos]
  rfl

/-- A scan that is not refused, whether it is complete or not. -/
theorem scan_flags {clock : CallClock} {items : List FavoriteItem} {authoritative : Bool}
    {remoteTotal : Option Int} {held : Option Claim} {after : CollectionStore} {count : Nat}
    (done : initializeSourceMemberships store clock sourceId items authoritative remoteTotal held =
      .ok (after, count)) :
    ∃ source, store.sources.lookup sourceId = some source ∧
      (∀ bvid, after.queuedFlag sourceId bvid =
        if bvid ∈ items.map FavoriteItem.bvid
        then some ((store.queuedFlag sourceId bvid).getD
          (decide (bvid ∈ selectedHistory source.fields items authoritative)))
        else store.queuedFlag sourceId bvid) ∧
      ∀ bvid, after.videoIdOf bvid = store.videoIdOf bvid := by
  obtain ⟨source, guard, closed⟩ := initializeSourceMemberships_ok done
  have names : items.zipIdx.map (fun entry => entry.1.bvid) = items.map FavoriteItem.bvid := by
    rw [← List.zipIdx_map_fst 0 items, List.map_map, List.zipIdx_map_fst]
    rfl
  refine ⟨source, sourceGuard_ok guard, ?_, ?_⟩
  · intro bvid
    rw [closed.queuedFlag, initializeLoop_queuedFlag, names]
  · intro bvid
    rw [closed.videoIdOf, initializeLoop_videoIdOf]

/-- A call that only moves a lease lists nothing. -/
theorem Aside.flags {after : CollectionStore} (aside : Aside before after) (bvid : String) :
    after.queuedFlag sourceId bvid =
        (if bvid ∈ ([] : List String)
        then some ((before.queuedFlag sourceId bvid).getD false)
        else before.queuedFlag sourceId bvid) ∧
      after.videoIdOf bvid = before.videoIdOf bvid := by
  constructor
  · rw [if_neg List.not_mem_nil, aside.queuedFlag]
  · exact aside.videoIdOf bvid

/-- What a call before the complete scan that is not refused does to a flag. -/
theorem BeforeBaseline.accepted {after : CollectionStore} {result : Unit}
    (early : BeforeBaseline sourceId action) (done : transact store action = .ok (after, result))
    (bvid : String) :
    after.queuedFlag sourceId bvid =
        (if bvid ∈ action.reported
        then some ((store.queuedFlag sourceId bvid).getD false)
        else store.queuedFlag sourceId bvid) ∧
      after.videoIdOf bvid = store.videoIdOf bvid := by
  cases action with
  | initializeSourceMemberships clock scanned items authoritative remoteTotal held =>
      obtain ⟨rfl, rfl⟩ := early
      obtain ⟨count, scanned⟩ := outcome_ok done
      obtain ⟨source, _, flags, videos⟩ := scan_flags scanned
      constructor
      · simpa [CollectionAction.reported, selectedHistory] using flags bvid
      · exact videos bvid
  | claimSource now claimed owner seconds =>
      obtain ⟨handed, claimed⟩ := outcome_ok done
      exact (claimSource_aside claimed).flags bvid
  | heartbeatSource now held seconds => exact (heartbeatSource_aside done).flags bvid
  | releaseSource now held => exact (releaseSource_aside done).flags bvid
  | _ => exact early.elim

/-- What one call before the complete scan does to a flag. -/
theorem BeforeBaseline.step (early : BeforeBaseline sourceId action) (store : CollectionStore)
    (bvid : String) :
    (stepCollection store action).queuedFlag sourceId bvid =
        (if bvid ∈ listedBy store action
        then some ((store.queuedFlag sourceId bvid).getD false)
        else store.queuedFlag sourceId bvid) ∧
      (stepCollection store action).videoIdOf bvid = store.videoIdOf bvid := by
  rcases done : transact store action with failure | ⟨after, result⟩
  · simp [stepCollection, listedBy, settled, done]
  · have isAfter : stepCollection store action = after := by simp [stepCollection, settled, done]
    have isListed : listedBy store action = action.reported := by simp [listedBy, done]
    rw [isAfter, isListed]
    exact early.accepted done bvid

theorem flags_before (store : CollectionStore) {scans : List CollectionAction}
    (early : ∀ action ∈ scans, BeforeBaseline sourceId action) (bvid : String) :
    (runFrom stepCollection store scans).queuedFlag sourceId bvid =
        (if bvid ∈ listedBefore store scans
        then some ((store.queuedFlag sourceId bvid).getD false)
        else store.queuedFlag sourceId bvid) ∧
      (runFrom stepCollection store scans).videoIdOf bvid = store.videoIdOf bvid := by
  induction scans generalizing store with
  | nil => simp [listedBefore]
  | cons action rest inductionHypothesis =>
      obtain ⟨flag, video⟩ :=
        (early action List.mem_cons_self).step store bvid
      obtain ⟨flags, videos⟩ := inductionHypothesis (stepCollection store action)
        fun later isLater => early later (List.mem_cons_of_mem action isLater)
      rw [runFrom_cons, flags, videos, flag, video, listedBefore]
      by_cases now : bvid ∈ listedBy store action
      · by_cases later : bvid ∈ listedBefore (stepCollection store action) rest <;> simp [now, later]
      · simp [now]

/-! ## The complete scan -/

section Complete

variable {start after : CollectionStore} {scans : List CollectionAction} {clock : CallClock}
  {items : List FavoriteItem} {remoteTotal : Option Int} {held : Option Claim} {returned : Nat}
  {source : FavoriteSource}

theorem complete_scan_source
    (done : initializeSourceMemberships store clock sourceId items true remoteTotal held =
      .ok (after, returned)) (isSource : store.sources.lookup sourceId = some source) :
    returned = (selectedHistory source.fields items true).length ∧
      ∃ closed, after.sources.lookup sourceId = some closed ∧
        closed.fields.historyCutoffTime = historyCutoff source.fields.historyPolicy
          ((newestItems items (historyCount source.fields items)).filterMap
            FavoriteItem.favoriteTime) clock.epoch := by
  unfold initializeSourceMemberships at done
  cases guard : sourceGuard store clock sourceId held with
  | error failure =>
      rw [guard] at done
      cases done
  | ok guarded =>
      rw [guard] at done
      cases done
      have same : guarded = source := by
        simpa [isSource] using (sourceGuard_ok guard).symm
      subst same
      refine ⟨rfl, (sourceChange (initializedSource items true remoteTotal clock)).apply guarded,
        ?_, rfl⟩
      rw [CollectionStore.updateSource, Table.lookup_modify_self, initializeLoop_sources, isSource,
        Option.map_some]

theorem queued_after_scan (fresh : ∀ row ∈ start.memberships, row.sourceId ≠ sourceId)
    (early : ∀ action ∈ scans, BeforeBaseline sourceId action)
    (isSource : (runFrom stepCollection start scans).sources.lookup sourceId = some source)
    (done : initializeSourceMemberships (runFrom stepCollection start scans) clock sourceId items
      true remoteTotal held = .ok (after, returned)) (bvid : String) :
    Queued after sourceId bvid ↔
      bvid ∈ selectedHistory source.fields items true ∧ bvid ∉ listedBefore start scans := by
  have unlisted : start.queuedFlag sourceId bvid = none := by
    rw [CollectionStore.queuedFlag, Option.map_eq_none_iff, CollectionStore.member,
      Table.lookup_eq_none]
    intro row isRow same
    exact fresh row isRow (Prod.mk.inj same).1
  have before := (flags_before start early bvid).1
  rw [unlisted, Option.getD_none] at before
  obtain ⟨found, isFound, flags, _⟩ := scan_flags done
  rw [isSource, Option.some_inj] at isFound
  subst isFound
  have among : bvid ∈ selectedHistory source.fields items true →
      bvid ∈ items.map FavoriteItem.bvid := by
    intro selected
    simp only [selectedHistory, if_true, List.mem_dedup] at selected
    obtain ⟨item, isItem, isBvid⟩ := List.mem_map.mp selected
    obtain ⟨entry, isEntry, rfl⟩ := List.mem_map.mp isItem
    have inOrder : entry ∈ historyOrder items := by
      unfold upTo at isEntry
      split at isEntry
      · exact List.mem_of_mem_take isEntry
      · exact List.mem_of_mem_take isEntry
    have isZip := mem_historyOrder.mp inOrder
    rw [← isBvid]
    exact List.mem_map_of_mem (List.fst_mem_of_mem_zipIdx isZip)
  rw [queued_iff, flags, before]
  by_cases listed : bvid ∈ listedBefore start scans
  · by_cases again : bvid ∈ items.map FavoriteItem.bvid <;> simp [listed, again]
  · by_cases again : bvid ∈ items.map FavoriteItem.bvid
    · simp [listed, again]
    · have notSelected : bvid ∉ selectedHistory source.fields items true := fun selected =>
        again (among selected)
      simp [listed, again, notSelected]

theorem count_queued {bvids : List String} (distinct : bvids.Nodup)
    (same : ∀ bvid, Queued store sourceId bvid ↔ bvid ∈ bvids) :
    store.memberships.count (fun row => row.sourceId = sourceId && row.queuedHistory) =
      bvids.length := by
  have names : ((store.memberships.rows.filter fun row =>
      row.sourceId = sourceId && row.queuedHistory).map SourceMembership.bvid).Perm bvids := by
    apply (List.perm_ext_iff_of_nodup ?_ distinct).mpr
    · intro bvid
      rw [← same bvid, List.mem_map]
      constructor
      · rintro ⟨row, isRow, isBvid⟩
        have selected := List.mem_filter.mp isRow
        rw [Bool.and_eq_true, decide_eq_true_eq] at selected
        exact ⟨row, selected.1, selected.2.1, isBvid, selected.2.2⟩
      · rintro ⟨row, isRow, isSource, isBvid, queued⟩
        refine ⟨row, List.mem_filter.mpr ⟨isRow, ?_⟩, isBvid⟩
        rw [Bool.and_eq_true, decide_eq_true_eq]
        exact ⟨isSource, queued⟩
    · have keys := store.memberships.unique.sublist
        ((List.filter_sublist (p := fun row : SourceMembership =>
          row.sourceId = sourceId && row.queuedHistory)).map SourceMembership.key)
      apply List.Nodup.of_map (fun bvid => (sourceId, bvid))
      rw [List.map_map]
      refine (List.map_congr_left fun row isRow => ?_) ▸ keys
      have selected := (List.mem_filter.mp isRow).2
      rw [Bool.and_eq_true, decide_eq_true_eq] at selected
      rw [SourceMembership.key, selected.1]
      rfl
  rw [Table.count, ← names.length_eq, List.length_map]

theorem newestItems_names (unique : (items.map FavoriteItem.bvid).Nodup) (count : Int) :
    ((newestItems items count).map FavoriteItem.bvid).Nodup := by
  have names : items.zipIdx.map (fun entry => entry.1.bvid) = items.map FavoriteItem.bvid := by
    rw [← List.zipIdx_map_fst 0 items, List.map_map, List.zipIdx_map_fst]
    rfl
  have ordered : ((historyOrder items).map fun entry => entry.1.bvid).Nodup := by
    rw [((historyOrder_perm items).map _).nodup_iff, names]
    exact unique
  rw [newestItems_eq, List.map_map]
  unfold upTo
  split
  · exact ordered.sublist ((List.take_sublist _ _).map _)
  · exact ordered.sublist ((List.take_sublist _ _).map _)

theorem selectedHistory_length (unique : (items.map FavoriteItem.bvid).Nodup) :
    (selectedHistory source.fields items true).length =
      (newestItems items (historyCount source.fields items)).length := by
  simp only [selectedHistory, if_true]
  rw [(newestItems_names unique _).dedup, List.length_map]

theorem mem_selectedHistory (fits : LimitFits source.fields items) {bvid : String} :
    bvid ∈ selectedHistory source.fields items true ↔
      ∃ item ∈ wantedHistory source.fields items, item.bvid = bvid := by
  simp only [selectedHistory, if_true, List.mem_dedup]
  rw [((newestItems_perm fits).map FavoriteItem.bvid).mem_iff, List.mem_map]

theorem historyCutoff_wanted (fits : LimitFits source.fields items) {oldest : Int} (epoch : Nat)
    (isOldest : ((wantedHistory source.fields items).filterMap
      FavoriteItem.favoriteTime).min? = some oldest) :
    historyCutoff source.fields.historyPolicy
      ((newestItems items (historyCount source.fields items)).filterMap
        FavoriteItem.favoriteTime) epoch = some oldest := by
  have times := (newestItems_perm fits).filterMap FavoriteItem.favoriteTime
  have isOldest : ((newestItems items (historyCount source.fields items)).filterMap
      FavoriteItem.favoriteTime).min? = some oldest := by
    rw [List.min?_eq_some_iff] at isOldest ⊢
    constructor
    · exact times.mem_iff.mpr isOldest.1
    · intro time isTime
      exact isOldest.2 time (times.mem_iff.mp isTime)
  rw [historyCutoff, isOldest]

/-- After incomplete scans of a new source and one complete scan, the queued memberships, the
number returned and the cutoff are those of the wanted history exactly when no incomplete scan
listed a wanted item and none of them has a video. -/
theorem baseline_selection (fresh : ∀ row ∈ start.memberships, row.sourceId ≠ sourceId)
    (early : ∀ action ∈ scans, BeforeBaseline sourceId action)
    (unique : (items.map FavoriteItem.bvid).Nodup)
    (isSource : (runFrom stepCollection start scans).sources.lookup sourceId = some source)
    (done : initializeSourceMemberships (runFrom stepCollection start scans) clock sourceId items
      true remoteTotal held = .ok (after, returned)) :
    BaselineSelected after sourceId (wantedHistory source.fields items) returned ↔
      LimitFits source.fields items ∧ ∀ item ∈ wantedHistory source.fields items,
        item.bvid ∉ listedBefore start scans ∧ start.videoIdOf item.bvid = none := by
  have queued := queued_after_scan fresh early isSource done
  obtain ⟨isReturned, closed, isClosed, isCutoff⟩ := complete_scan_source done isSource
  rw [selectedHistory_length unique] at isReturned
  have videos : ∀ bvid, after.videoIdOf bvid = start.videoIdOf bvid := by
    intro bvid
    obtain ⟨_, _, _, kept⟩ := scan_flags done
    rw [kept, (flags_before start early bvid).2]
  by_cases fits : LimitFits source.fields items
  · have sameLength := (newestItems_perm fits).length_eq
    have names : ((wantedHistory source.fields items).map FavoriteItem.bvid).Nodup :=
      ((newestItems_perm fits).map FavoriteItem.bvid).nodup_iff.mp (newestItems_names unique _)
    constructor
    · intro selected
      have stored : ∀ bvid, Queued after sourceId bvid ↔
          bvid ∈ ((wantedHistory source.fields items).map FavoriteItem.bvid).filter
            fun bvid => bvid ∉ listedBefore start scans := by
        intro bvid
        rw [queued, mem_selectedHistory fits, List.mem_filter, List.mem_map, decide_eq_true_eq]
      have counted := selected.counted
      rw [count_queued (names.filter _) stored, isReturned, sameLength,
        ← List.length_map FavoriteItem.bvid] at counted
      have unseen := List.length_filter_eq_length_iff.mp counted.symm
      refine ⟨fits, fun item isItem => ?_⟩
      have isUnseen : item.bvid ∉ listedBefore start scans :=
        of_decide_eq_true (unseen item.bvid (List.mem_map_of_mem isItem))
      have isQueued := (queued item.bvid).mpr
        ⟨(mem_selectedHistory fits).mpr ⟨item, isItem, rfl⟩, isUnseen⟩
      obtain ⟨_, _, _, noVideo⟩ := (selected.queued item.bvid).mp isQueued
      exact ⟨isUnseen, (videos item.bvid).symm.trans noVideo⟩
    · rintro ⟨_, unseen⟩
      constructor
      · intro bvid
        rw [queued, mem_selectedHistory fits]
        constructor
        · rintro ⟨⟨item, isItem, rfl⟩, _⟩
          exact ⟨item, isItem, rfl, (videos item.bvid).trans (unseen item isItem).2⟩
        · rintro ⟨item, isItem, rfl, _⟩
          exact ⟨⟨item, isItem, rfl⟩, (unseen item isItem).1⟩
      · have stored : ∀ bvid, Queued after sourceId bvid ↔
            bvid ∈ (wantedHistory source.fields items).map FavoriteItem.bvid := by
          intro bvid
          rw [queued, mem_selectedHistory fits, List.mem_map]
          constructor
          · exact fun both => both.1
          · rintro ⟨item, isItem, rfl⟩
            exact ⟨⟨item, isItem, rfl⟩, (unseen item isItem).1⟩
        rw [count_queued names stored, isReturned, sameLength, List.length_map]
      · intro oldest isOldest
        exact ⟨closed, isClosed, isCutoff.trans (historyCutoff_wanted fits clock.epoch isOldest)⟩
  · obtain ⟨nothing, something⟩ := wantedHistory_of_not_fits fits
    constructor
    · intro selected
      have stored : ∀ bvid, Queued after sourceId bvid ↔ bvid ∈ ([] : List String) := by
        intro bvid
        rw [selected.queued, nothing]
        simp
      have counted := selected.counted
      rw [count_queued List.nodup_nil stored, isReturned, List.length_nil,
        List.length_eq_zero_iff] at counted
      exact absurd counted something
    · exact fun both => absurd both.1 fits

end Complete

/-! ### A partial scan before the complete one -/

/-- An item of the folder. -/
def folderItem (bvid : String) (favoriteTime : Int) : FavoriteItem :=
  ⟨bvid, "title", "uploader", 60, some favoriteTime⟩

/-- All its items. -/
def folderItems : List FavoriteItem :=
  [folderItem "BV1" 300, folderItem "BV2" 200, folderItem "BV3" 100]

/-- A source that wants the two latest items of the folder. -/
def newFolder : CollectionStore :=
  runFrom stepCollection CollectionStore.empty
    [.createFavoriteSource ⟨1, "Partial", none, "", "", 0, .latestN, some 2⟩]

/-- A scan that read only the first two items. -/
def partialScan : CollectionAction :=
  .initializeSourceMemberships secondOne 1 (folderItems.take 2) false (some 6) none

/-- The complete scan after some incomplete ones. -/
def completeScan (scans : List CollectionAction) : Except Failure (CollectionStore × Nat) :=
  initializeSourceMemberships (runFrom stepCollection newFolder scans) secondOne 1 folderItems true
    (some 3) none

/-- Without an incomplete scan the two latest items are queued. -/
theorem baseline_selection_first_scan :
    ∃ after source, completeScan [] = .ok (after, 2) ∧
      newFolder.sources.lookup 1 = some source ∧
      BaselineSelected after 1 (wantedHistory source.fields folderItems) 2 := by
  have shown : (completeScan []).map Prod.snd = .ok 2 := by decide +kernel
  cases isDone : completeScan [] with
  | error failure =>
      rw [isDone] at shown
      cases shown
  | ok done =>
      obtain ⟨after, returned⟩ := done
      rw [isDone] at shown
      cases shown
      cases isSource : newFolder.sources.lookup 1 with
      | none =>
          have exists_ : (newFolder.sources.lookup 1).isSome = true := by decide +kernel
          rw [isSource] at exists_
          cases exists_
      | some source =>
          refine ⟨after, source, rfl, rfl, ?_⟩
          have fits : ∀ source ∈ newFolder.sources.lookup 1,
              LimitFits source.fields folderItems := by decide +kernel
          have empty : newFolder.memberships.rows = [] := by decide +kernel
          have noVideos : ∀ bvid, newFolder.videoIdOf bvid = none := fun _ => rfl
          have fresh : ∀ row ∈ newFolder.memberships, row.sourceId ≠ 1 := by
            intro row isRow
            rw [Table.mem_rows, empty] at isRow
            cases isRow
          have early : ∀ action ∈ ([] : List CollectionAction), BeforeBaseline 1 action := by
            intro action isAction
            cases isAction
          have unique : (folderItems.map FavoriteItem.bvid).Nodup := by decide +kernel
          apply (baseline_selection fresh early unique isSource isDone).mpr
          exact ⟨fits source isSource, fun item _ => ⟨List.not_mem_nil, noVideos item.bvid⟩⟩

/-- After an incomplete scan of the first two items the complete scan reports two queued
memberships, and the source has none. -/
theorem partial_scan_hides_history :
    ∃ after source, completeScan [partialScan] = .ok (after, 2) ∧
      (runFrom stepCollection newFolder [partialScan]).sources.lookup 1 = some source ∧
      (wantedHistory source.fields folderItems).map FavoriteItem.bvid = ["BV1", "BV2"] ∧
      (∀ bvid, ¬ Queued after 1 bvid) ∧
      ¬ BaselineSelected after 1 (wantedHistory source.fields folderItems) 2 := by
  have shown : (completeScan [partialScan]).map (fun done =>
      (done.1.memberships.rows.all fun row => !row.queuedHistory, done.2)) = .ok (true, 2) := by
    decide +kernel
  have wanted : ((runFrom stepCollection newFolder [partialScan]).sources.lookup 1).map
      (fun source => (wantedHistory source.fields folderItems).map FavoriteItem.bvid) =
        some ["BV1", "BV2"] := by
    decide +kernel
  cases isDone : completeScan [partialScan] with
  | error failure =>
      rw [isDone] at shown
      cases shown
  | ok done =>
      obtain ⟨after, returned⟩ := done
      rw [isDone] at shown
      obtain ⟨unqueued, rfl⟩ := Prod.mk.inj (Except.ok.inj shown)
      obtain ⟨source, isSource, names⟩ := Option.map_eq_some_iff.mp wanted
      have unqueued : ∀ row ∈ after.memberships, row.queuedHistory = false := by
        simpa [Table.mem_rows] using unqueued
      refine ⟨after, source, rfl, isSource, names, ?_, ?_⟩
      · rintro bvid ⟨row, isRow, _, _, queued⟩
        rw [unqueued row isRow] at queued
        cases queued
      · intro selected
        have counted := selected.counted
        have nothing : (after.memberships.rows.filter fun row =>
            row.sourceId = 1 && row.queuedHistory) = [] := by
          apply List.filter_eq_nil_iff.mpr
          intro row isRow
          simp [unqueued row isRow]
        rw [Table.count, nothing] at counted
        cases counted

end Shiliu.Collection
