/-
Module: Shiliu.Memory.ChangeLog
Purpose: The change log of the memories and the cursor over it. A transaction either raises the
  epoch by one, the version of one memory by one, and logs exactly that pair, or it leaves epoch,
  versions and log alone; so the log has no gaps, and a cursor that is only an epoch reads it
  without loss.
Trusted boundary: none
Main exports: changesSince, MemoryOutline.versions, gapless_run, change_log_gapless_lossless
-/
import Shiliu.Library.Keyset
import Shiliu.Memory.Moves

set_option linter.all false

namespace Shiliu.Memory

open Shiliu.Library Shiliu.Library.Keyset Shiliu.Storage

/-! ## Reading the changes -/

/-- An item of `changes_since`: a change, and the memory it belongs to as it stands now. -/
structure ChangeItem where
  memoryId : String
  version : Nat
  operation : MemoryOperation
  actor : Actor
  memoryEpoch : Nat
  createdAt : IsoTime
  scope : Scope
  status : MemoryStatus
  changeEpoch : Nat

/-- A row of the join, with the two columns it is ordered by. -/
structure JoinedChange where
  id : Nat
  item : ChangeItem

/-- `JOIN assistant_memories m ON m.id=c.memory_id`. -/
def joinChange (store : MemoryStore) (change : MemoryChange) : Option JoinedChange :=
  (store.memories.lookup change.memoryId).map fun row =>
    { id := change.id
      item :=
        { memoryId := change.memoryId
          version := change.version
          operation := change.operation
          actor := change.actor
          memoryEpoch := change.memoryEpoch
          createdAt := change.createdAt
          scope := row.scope
          status := row.status
          changeEpoch := row.changeEpoch } }

/-- The scope condition; without a space every scope is wanted. -/
def inSpace (spaceId : Option Nat) (scope : Scope) : Bool :=
  spaceId.all fun id => scope = .user ∨ scope = .space id

/-- `ORDER BY c.memory_epoch, c.id`. -/
def changeOrder (first second : JoinedChange) : Prop :=
  first.item.memoryEpoch < second.item.memoryEpoch ∨
    first.item.memoryEpoch = second.item.memoryEpoch ∧ first.id ≤ second.id

instance : DecidableRel changeOrder := fun _ _ => inferInstanceAs (Decidable (_ ∨ _))

/-- The answer of `changes_since`. -/
structure ChangePage where
  afterEpoch : Nat
  currentEpoch : Nat
  items : List ChangeItem
  nextEpoch : Nat

/-- The changes of the memories in a space. -/
def spaceChanges (store : MemoryStore) (spaceId : Option Nat) : List JoinedChange :=
  (store.changes.filterMap (joinChange store)).filter fun joined =>
    inSpace spaceId joined.item.scope

/-- `changes_since`. -/
def changesSince (store : MemoryStore) (afterEpoch : Int) (spaceId : Option Nat) (limit : Int) :
    Except Failure ChangePage :=
  if afterEpoch < 0 ∨ limit < 1 ∨ 500 < limit then
    .error (.valueError "invalid_memory_change_cursor")
  else
    let rows := (spaceChanges store spaceId).filter fun joined =>
      afterEpoch.toNat < joined.item.memoryEpoch
    let items := ((rows.insertionSort changeOrder).take limit.toNat).map JoinedChange.item
    .ok {
      afterEpoch := afterEpoch.toNat
      currentEpoch := store.memoryEpoch
      items := items
      nextEpoch := (items.map ChangeItem.memoryEpoch).max?.getD afterEpoch.toNat }

/-- The items and the next cursor of a request; a request that raises ends the reading. -/
def changesAnswer (store : MemoryStore) (spaceId : Option Nat) (limit : Int)
    (afterEpoch : Nat) : List ChangeItem × Nat :=
  match changesSince store afterEpoch spaceId limit with
  | .ok page => (page.items, page.nextEpoch)
  | .error _ => ([], afterEpoch)

/-- Call `changes_since(next_epoch)` until it returns no items. -/
def drainChanges (store : MemoryStore) (spaceId : Option Nat) (limit : Int) (fuel : Nat)
    (afterEpoch : Nat) : Option (List ChangeItem) :=
  drain (changesAnswer store spaceId limit) fuel afterEpoch

/-! ## Versions and epochs of a transaction -/

/-- What a change says about versions and epochs. -/
structure LogEntry where
  memoryId : String
  version : Nat
  memoryEpoch : Nat

def MemoryChange.entry (change : MemoryChange) : LogEntry :=
  ⟨change.memoryId, change.version, change.memoryEpoch⟩

namespace MemoryStore

def log (store : MemoryStore) : List LogEntry :=
  store.changes.map MemoryChange.entry

/-- The version of a memory, zero before its creation. -/
def versionOf (store : MemoryStore) (id : String) : Nat :=
  (store.memories.lookup id).elim 0 fun row => row.version

theorem versionOf_of_lookup {store : MemoryStore} {id : String} {row : MemoryRow}
    (isRow : store.memories.lookup id = some row) : store.versionOf id = row.version := by
  rw [versionOf, isRow, Option.elim_some]

end MemoryStore

/-- Neither the epoch, nor a version, nor the log has changed. -/
structure SameVersions (before after : MemoryStore) : Prop where
  epoch : after.memoryEpoch = before.memoryEpoch
  versions : ∀ id, after.versionOf id = before.versionOf id
  log : after.log = before.log

/-- One memory has a new version, logged under a new epoch. -/
structure NewVersion (before after : MemoryStore) (id : String) : Prop where
  epoch : after.memoryEpoch = before.memoryEpoch + 1
  version : after.versionOf id = before.versionOf id + 1
  others : ∀ other, other ≠ id → after.versionOf other = before.versionOf other
  log : after.log = before.log ++ [⟨id, after.versionOf id, after.memoryEpoch⟩]

variable {row : MemoryRow}

theorem versionOf_sets {before after : MemoryStore}
    (sets : SetsRow before.memories after.memories row) :
    after.versionOf row.id = row.version ∧
      ∀ other, other ≠ row.id → after.versionOf other = before.versionOf other := by
  constructor
  · exact MemoryStore.versionOf_of_lookup ((sets row.key).trans (if_pos rfl))
  · intro other different
    have same : after.memories.lookup other = before.memories.lookup other :=
      (sets other).trans (if_neg different)
    rw [MemoryStore.versionOf, MemoryStore.versionOf, same]

/-- A row is written anew without a new version. -/
theorem SameVersions.of_sets {before after : MemoryStore}
    (sets : SetsRow before.memories after.memories row)
    (version : row.version = before.versionOf row.id)
    (epoch : after.memoryEpoch = before.memoryEpoch) (log : after.log = before.log) :
    SameVersions before after where
  epoch := epoch
  versions := by
    intro id
    by_cases same : id = row.id
    · rw [same, (versionOf_sets sets).1, version]
    · exact (versionOf_sets sets).2 id same
  log := log

theorem NewVersion.of_sets {before after : MemoryStore}
    (sets : SetsRow before.memories after.memories row)
    (version : row.version = before.versionOf row.id + 1)
    (epoch : after.memoryEpoch = before.memoryEpoch + 1)
    (log : after.log = before.log ++ [⟨row.id, row.version, before.memoryEpoch + 1⟩]) :
    NewVersion before after row.id where
  epoch := epoch
  version := by rw [(versionOf_sets sets).1, version]
  others := (versionOf_sets sets).2
  log := by rw [log, (versionOf_sets sets).1, epoch]

/-- Nothing but the rows of other tables has changed. -/
theorem SameVersions.of_eq {before after : MemoryStore}
    (epoch : after.memoryEpoch = before.memoryEpoch)
    (memories : after.memories = before.memories) (changes : after.changes = before.changes) :
    SameVersions before after where
  epoch := epoch
  versions := fun id => by rw [MemoryStore.versionOf, MemoryStore.versionOf, memories]
  log := by rw [MemoryStore.log, MemoryStore.log, changes]

section Log

variable {rules : TextRules} {store : MemoryStore} {now : IsoTime}

theorem log_writeChange {current : MemoryFacts} {operation : MemoryOperation}
    {before : Option MemoryFacts} {actor : Actor} {epoch : Nat} :
    (store.writeChange current operation before actor epoch now).log =
      store.log ++ [⟨current.id, current.version, epoch⟩] := by
  rw [MemoryStore.log, MemoryStore.writeChange, List.map_append]
  rfl

theorem log_eraseChanges (memoryId : String) : (store.eraseChanges memoryId).log = store.log := by
  rw [MemoryStore.log, MemoryStore.eraseChanges, List.map_map]
  refine List.map_congr_left fun change _ => ?_
  simp only [Function.comp_apply]
  split <;> rfl

variable {row : MemoryRow}

theorem log_suppressRetracted {epoch : Nat} :
    (suppressRetracted rules store row epoch now).log = store.log ∧
      (suppressRetracted rules store row epoch now).memoryEpoch = store.memoryEpoch := by
  unfold suppressRetracted
  split <;> exact ⟨rfl, rfl⟩

theorem createMemory_log {request : SaveRequest} :
    (createMemory rules store now request row).1.memoryEpoch = store.memoryEpoch + 1 ∧
      (createMemory rules store now request row).1.log =
        store.log ++ [⟨row.id, row.version, store.memoryEpoch + 1⟩] := by
  by_cases active : request.initialStatus = .active
  · simp only [createMemory, if_pos active]
    exact ⟨rfl, log_writeChange⟩
  · simp only [createMemory, if_neg active]
    exact ⟨rfl, log_writeChange⟩

theorem commitForget_log {request : ForgetRequest} :
    (commitForget rules store now request row).1.log =
      store.log ++ [⟨row.id, row.version + 1, store.memoryEpoch + 1⟩] :=
  log_writeChange.trans (congrArg (· ++ _) (log_eraseChanges row.id))

theorem commitUndo_log {request : UndoRequest} :
    (commitUndo rules store now request row).1.memoryEpoch = store.memoryEpoch + 1 ∧
      (commitUndo rules store now request row).1.log =
        store.log ++ [⟨row.id, row.version + 1, store.memoryEpoch + 1⟩] := by
  simp only [commitUndo]
  have frame :
      (suppressRetracted rules store.incrementEpoch row (store.memoryEpoch + 1) now).log =
          store.log ∧
        (suppressRetracted rules store.incrementEpoch row (store.memoryEpoch + 1)
          now).memoryEpoch = store.memoryEpoch + 1 := log_suppressRetracted
  generalize suppressRetracted rules store.incrementEpoch row (store.memoryEpoch + 1) now =
    suppressed at frame ⊢
  exact ⟨frame.2, log_writeChange.trans (congrArg (· ++ _) frame.1)⟩

theorem commitPublication_log {read : ProjectRead} {vector : String} :
    (commitPublication rules store read row vector).memoryEpoch = store.memoryEpoch ∧
      (commitPublication rules store read row vector).log = store.log := by
  unfold commitPublication completeJob activateProfileIfCovered
  simp only
  split <;> exact ⟨rfl, rfl⟩

end Log

theorem mergedRow_version (request : SaveRequest) (row : MemoryRow) :
    (mergedRow request row).version = row.version := by
  unfold mergedRow
  simp only
  split <;> rfl

/-- What a transaction does to epoch, versions and log. -/
theorem MemoryOutline.versions {rules : TextRules} {before after : MemoryStore}
    {adopted : Option MemoryRow} {withdrawn : Option (SuppressionKey × List String)}
    (outline : MemoryOutline rules before adopted withdrawn after) :
    SameVersions before after ∨ ∃ id, NewVersion before after id := by
  have versionOf {row : MemoryRow} (member : row ∈ before.memories) :
      before.versionOf row.id = row.version :=
    MemoryStore.versionOf_of_lookup (Table.lookup_of_mem member)
  cases outline with
  | unchanged | noted | policy | scheduled | received | enabled =>
      exact .inl (.of_eq rfl rfl rfl)
  | created now memoryId request scope kind text subjectKey validity temporal status absent =>
      refine .inr ⟨_, .of_sets (createMemory_sets absent) ?_ createMemory_log.1 ?_⟩
      · have none : before.versionOf memoryId = 0 := by
          rw [MemoryStore.versionOf, absent, Option.elim_none]
        rw [projectedRow]
        split <;> exact (congrArg (· + 1) none).symm
      · rw [createMemory_log.2, projectedRow]
        split <;> rfl
  | adopted now request row member live adopting =>
      exact .inr ⟨_, .of_sets (adoptDuplicate_sets member)
        (congrArg (· + 1) (versionOf member).symm) rfl log_writeChange⟩
  | merged request row member =>
      have sameKey : (mergedRow request row).id = row.id := mergedRow_key request
      refine .inl (.of_sets (mergeDuplicate_sets member) ?_ rfl rfl)
      rw [sameKey, mergedRow_version, versionOf member]
  | corrected now text request row subjectKey kind validity temporal member live =>
      exact .inr ⟨_, .of_sets (commitCorrection_sets member rfl)
        (congrArg (· + 1) (versionOf member).symm) rfl log_writeChange⟩
  | forgotten now request row member live =>
      exact .inr ⟨_, .of_sets (commitForget_sets member)
        (congrArg (· + 1) (versionOf member).symm) rfl commitForget_log⟩
  | retracted now request row member first =>
      exact .inr ⟨_, .of_sets (commitUndo_sets member)
        (congrArg (· + 1) (versionOf member).symm) commitUndo_log.1 commitUndo_log.2⟩
  | purged memoryId version key row isRow gone =>
      refine .inl (.of_sets (commitPurge_sets isRow) ?_ rfl rfl)
      exact (versionOf (Table.mem_of_lookup isRow)).symm
  | published read current vector isRow same =>
      refine .inl (.of_sets (commitPublication_sets isRow) ?_ commitPublication_log.1
        commitPublication_log.2)
      exact (versionOf (Table.mem_of_lookup isRow)).symm

/-! ## The log has no gaps -/

/-- The epochs of the log are `1..memory_epoch`, and the versions it records of each memory, in
the order of the log, are `1..version`. -/
structure Gapless (store : MemoryStore) : Prop where
  epochs : store.log.map LogEntry.memoryEpoch = List.range' 1 store.memoryEpoch
  versions : ∀ id, (store.log.filter fun entry => entry.memoryId = id).map LogEntry.version =
    List.range' 1 (store.versionOf id)

theorem gapless_empty : Gapless MemoryStore.empty where
  epochs := rfl
  versions := fun _ => rfl

namespace Gapless

variable {before after : MemoryStore}

theorem same (gapless : Gapless before) (same : SameVersions before after) : Gapless after where
  epochs := by rw [same.log, same.epoch, gapless.epochs]
  versions := fun id => by rw [same.log, same.versions, gapless.versions]

theorem new {id : String} (gapless : Gapless before) (new : NewVersion before after id) :
    Gapless after where
  epochs := by
    rw [new.log, List.map_append, gapless.epochs, new.epoch, List.range'_concat]
    simp [Nat.add_comm]
  versions := by
    intro other
    rw [new.log, List.filter_append, List.map_append, gapless.versions]
    by_cases isOther : other = id
    · subst isOther
      rw [new.version, List.range'_concat]
      simp [Nat.add_comm]
    · rw [new.others other isOther]
      simp [Ne.symm isOther]

/-- Every transaction keeps the log gapless. -/
theorem step {rules : TextRules} {adopted : Option MemoryRow} (gapless : Gapless before)
    (outline : MemoryOutline rules before adopted withdrawn after) : Gapless after := by
  rcases outline.versions with same | ⟨id, new⟩
  · exact gapless.same same
  · exact gapless.new new

end Gapless

theorem gapless_run (rules : TextRules) (actions : List MemoryAction) :
    Gapless (runFrom (stepMemory rules) MemoryWorld.empty actions).store := by
  have kept : ∀ (world : MemoryWorld) action, Gapless world.store →
      Gapless (stepMemory rules world action).store :=
    fun world action gapless => gapless.step (stepMemory_outline rules world action)
  exact invariant_run kept gapless_empty actions

/-- A transaction only appends to the log. -/
theorem MemoryOutline.log_extends {rules : TextRules} {before after : MemoryStore}
    {adopted : Option MemoryRow} {withdrawn : Option (SuppressionKey × List String)}
    (outline : MemoryOutline rules before adopted withdrawn after) :
    before.log <+: after.log := by
  rcases outline.versions with same | ⟨id, new⟩
  · exact same.log ▸ List.prefix_refl _
  · rw [new.log]
    exact List.prefix_append _ _

theorem log_extends_run (rules : TextRules) (world : MemoryWorld) (actions : List MemoryAction) :
    world.store.log <+: (runFrom (stepMemory rules) world actions).store.log := by
  have kept : ∀ (later : MemoryWorld) action, world.store.log <+: later.store.log →
      world.store.log <+: (stepMemory rules later action).store.log :=
    fun later action isPrefix => isPrefix.trans (stepMemory_outline rules later action).log_extends
  exact invariant_run kept (List.prefix_refl _) actions

theorem Gapless.version_lt {before after : MemoryStore} (gapless : Gapless before)
    (gapless' : Gapless after) (isPrefix : before.log <+: after.log) {entry : LogEntry}
    (member : entry ∈ after.log) (later : before.memoryEpoch < entry.memoryEpoch) :
    before.versionOf entry.memoryId < after.versionOf entry.memoryId := by
  obtain ⟨rest, isLog⟩ := isPrefix
  have count (store : MemoryStore) (gapless : Gapless store) :
      (store.log.filter fun other => other.memoryId = entry.memoryId).length =
        store.versionOf entry.memoryId := by
    rw [← List.length_map LogEntry.version, gapless.versions, List.length_range']
  have isNew : entry ∉ before.log := by
    intro old
    have epoch := List.mem_map_of_mem (f := LogEntry.memoryEpoch) old
    rw [gapless.epochs, List.mem_range'_1] at epoch
    omega
  have isRest : entry ∈ rest := by
    rw [← isLog, List.mem_append] at member
    exact member.resolve_left isNew
  have positive : 0 < (rest.filter fun other => other.memoryId = entry.memoryId).length :=
    List.length_pos_of_mem (List.mem_filter.mpr ⟨isRest, decide_eq_true rfl⟩)
  rw [← count before gapless, ← count after gapless', ← isLog, List.filter_append,
    List.length_append]
  exact Nat.lt_add_of_pos_right positive

/-! ## Reading the log -/

namespace Gapless

variable {store : MemoryStore} (gapless : Gapless store)

include gapless

/-- The log is in the order of its epochs. -/
theorem ascending : store.changes.Pairwise fun first second =>
    first.memoryEpoch < second.memoryEpoch := by
  have sorted : (store.log.map LogEntry.memoryEpoch).Pairwise (· < ·) := by
    rw [gapless.epochs]
    exact List.pairwise_lt_range'
  rw [MemoryStore.log, List.map_map, List.pairwise_map] at sorted
  exact sorted

end Gapless

/-- The in-scope changes above an epoch, in the order of the log. -/
def visibleChanges (store : MemoryStore) (spaceId : Option Nat) (afterEpoch : Nat) :
    List ChangeItem :=
  ((spaceChanges store spaceId).map JoinedChange.item).filter fun item =>
    afterEpoch < item.memoryEpoch

theorem filter_map_item {store : MemoryStore} {spaceId : Option Nat} {afterEpoch : Nat} :
    ((spaceChanges store spaceId).filter fun joined =>
      afterEpoch < joined.item.memoryEpoch).map JoinedChange.item =
      visibleChanges store spaceId afterEpoch := by
  rw [visibleChanges, List.filter_map]
  rfl

section Paging

variable {store : MemoryStore}

theorem joinChange_epoch {change : MemoryChange} {joined : JoinedChange}
    (isJoin : joinChange store change = some joined) :
    joined.item.memoryEpoch = change.memoryEpoch := by
  obtain ⟨row, -, rfl⟩ := Option.map_eq_some_iff.mp isJoin
  rfl

theorem spaceChanges_ascending (gapless : Gapless store) (spaceId : Option Nat) :
    (spaceChanges store spaceId).Pairwise fun first second =>
      first.item.memoryEpoch < second.item.memoryEpoch := by
  refine List.Pairwise.filter _ (List.pairwise_filterMap.mpr ?_)
  refine gapless.ascending.imp fun {first second} earlier joined isFirst joined' isSecond => ?_
  rwa [joinChange_epoch isFirst, joinChange_epoch isSecond]

variable {spaceId : Option Nat} {limit : Int}

theorem changesAnswer_items (gapless : Gapless store) (positive : 1 ≤ limit) (bounded : limit ≤ 500)
    (afterEpoch : Nat) :
    (changesAnswer store spaceId limit afterEpoch).1 =
      (visibleChanges store spaceId afterEpoch).take limit.toNat := by
  have valid : ¬ ((afterEpoch : Int) < 0 ∨ limit < 1 ∨ 500 < limit) := by omega
  have sorted : ((spaceChanges store spaceId).filter fun joined =>
      afterEpoch < joined.item.memoryEpoch).Pairwise changeOrder :=
    ((spaceChanges_ascending gapless spaceId).filter _).imp fun earlier => .inl earlier
  simp only [changesAnswer, changesSince, if_neg valid, Int.toNat_natCast]
  rw [List.Pairwise.insertionSort_eq sorted, List.map_take, filter_map_item]

theorem changesAnswer_next (gapless : Gapless store) (positive : 1 ≤ limit) (bounded : limit ≤ 500)
    (afterEpoch : Nat) (last : ChangeItem)
    (isLast : (changesAnswer store spaceId limit afterEpoch).1.getLast? = some last) :
    (changesAnswer store spaceId limit afterEpoch).2 = last.memoryEpoch := by
  have valid : ¬ ((afterEpoch : Int) < 0 ∨ limit < 1 ∨ 500 < limit) := by omega
  have isNext : (changesAnswer store spaceId limit afterEpoch).2 =
      ((changesAnswer store spaceId limit afterEpoch).1.map
        ChangeItem.memoryEpoch).max?.getD afterEpoch := by
    simp only [changesAnswer, changesSince, if_neg valid, Int.toNat_natCast]
  have sorted : ((changesAnswer store spaceId limit afterEpoch).1).Pairwise
      fun first second => first.memoryEpoch < second.memoryEpoch := by
    have ordered : ((spaceChanges store spaceId).map JoinedChange.item).Pairwise
        fun first second => first.memoryEpoch < second.memoryEpoch :=
      List.pairwise_map.mpr (spaceChanges_ascending gapless spaceId)
    rw [changesAnswer_items gapless positive bounded]
    exact (ordered.filter _).sublist (List.take_sublist _ _)
  obtain ⟨front, isFront⟩ := List.getLast?_eq_some_iff.mp isLast
  have isMax : ((changesAnswer store spaceId limit afterEpoch).1.map
      ChangeItem.memoryEpoch).max? = some last.memoryEpoch := by
    rw [List.max?_eq_some_iff]
    rw [isFront] at sorted ⊢
    refine ⟨List.mem_map_of_mem (by simp), fun epoch member => ?_⟩
    obtain ⟨item, among, rfl⟩ := List.mem_map.mp member
    rcases List.mem_append.mp among with among | among
    · exact ((List.pairwise_append.mp sorted).2.2 item among last (by simp)).le
    · rw [List.mem_singleton.mp among]
  rw [isNext, isMax, Option.getD_some]

/-- Reading on from the epoch of the last item until nothing is left reads every visible change
once, in the order of the epochs. -/
theorem drainChanges_lossless (gapless : Gapless store) (positive : 1 ≤ limit)
    (bounded : limit ≤ 500) {afterEpoch fuel : Nat} (enough : store.changes.length < fuel) :
    drainChanges store spaceId limit fuel afterEpoch =
      some (visibleChanges store spaceId afterEpoch) := by
  have sorted : ((spaceChanges store spaceId).map JoinedChange.item).Pairwise
      fun first second => first.memoryEpoch < second.memoryEpoch :=
    List.pairwise_map.mpr (spaceChanges_ascending gapless spaceId)
  have few : (visibleChanges store spaceId afterEpoch).length < fuel := by
    refine lt_of_le_of_lt ((List.length_filter_le _ _).trans ?_) enough
    rw [List.length_map]
    exact (List.length_filter_le _ _).trans (List.length_filterMap_le _ _)
  exact drain_ascending (by omega) sorted (changesAnswer_items gapless positive bounded)
    (changesAnswer_next gapless positive bounded) fuel afterEpoch few

end Paging

theorem mem_visibleChanges {store : MemoryStore} {spaceId : Option Nat} {afterEpoch : Nat}
    {item : ChangeItem} :
    item ∈ visibleChanges store spaceId afterEpoch ↔
      ∃ change ∈ store.changes, ∃ row, store.memories.lookup change.memoryId = some row ∧
        inSpace spaceId row.scope = true ∧ afterEpoch < change.memoryEpoch ∧
        joinChange store change = some ⟨change.id, item⟩ := by
  simp only [visibleChanges, spaceChanges, List.mem_filter, List.mem_map, List.mem_filterMap,
    decide_eq_true_eq]
  constructor
  · rintro ⟨⟨joined, ⟨⟨change, member, isJoin⟩, visible⟩, rfl⟩, above⟩
    obtain ⟨row, isRow, rfl⟩ := Option.map_eq_some_iff.mp isJoin
    exact ⟨change, member, row, isRow, visible, above, isJoin⟩
  · rintro ⟨change, member, row, isRow, visible, above, isJoin⟩
    obtain ⟨row', isRow', isItem⟩ := Option.map_eq_some_iff.mp isJoin
    rw [isRow, Option.some_inj] at isRow'
    subst isRow'
    obtain ⟨-, rfl⟩ := JoinedChange.mk.inj isItem
    exact ⟨⟨_, ⟨⟨change, member, isJoin⟩, visible⟩, rfl⟩, above⟩

/-- After every run the epoch counts the changes, the changes carry the epochs `1..memory_epoch`
and, memory by memory, the versions `1..version`; and reading `changes_since` on from the epoch it
returned last, until it returns no items, yields exactly the in-scope changes above the epoch it
started from, each once and in the order of the epochs. -/
theorem change_log_gapless_lossless (rules : TextRules) (actions : List MemoryAction) :
    let store := (runFrom (stepMemory rules) MemoryWorld.empty actions).store
    store.memoryEpoch = store.changes.length ∧
      store.changes.map MemoryChange.memoryEpoch = List.range' 1 store.memoryEpoch ∧
      (∀ row ∈ store.memories,
        (store.changes.filter fun change => change.memoryId = row.id).map MemoryChange.version =
          List.range' 1 row.version) ∧
      ∀ (spaceId : Option Nat) (limit : Int) (afterEpoch fuel : Nat),
        1 ≤ limit → limit ≤ 500 → store.changes.length < fuel →
          ∃ items, drainChanges store spaceId limit fuel afterEpoch = some items ∧
            items.Pairwise (fun first second => first.memoryEpoch < second.memoryEpoch) ∧
            ∀ item, item ∈ items ↔
              ∃ change ∈ store.changes, ∃ row,
                store.memories.lookup change.memoryId = some row ∧
                inSpace spaceId row.scope = true ∧ afterEpoch < change.memoryEpoch ∧
                joinChange store change = some ⟨change.id, item⟩ := by
  intro store
  have gapless : Gapless store := gapless_run rules actions
  have epochs : store.changes.map MemoryChange.memoryEpoch = List.range' 1 store.memoryEpoch := by
    rw [← gapless.epochs, MemoryStore.log, List.map_map]
    rfl
  refine ⟨?_, epochs, fun row member => ?_,
    fun spaceId limit afterEpoch fuel positive bounded enough => ?_⟩
  · have lengths := congrArg List.length epochs
    rw [List.length_map, List.length_range'] at lengths
    exact lengths.symm
  · have version : store.versionOf row.id = row.version :=
      MemoryStore.versionOf_of_lookup (Table.lookup_of_mem member)
    have versions := gapless.versions row.id
    rw [version, MemoryStore.log, List.filter_map, List.map_map] at versions
    exact versions
  · have ordered : ((spaceChanges store spaceId).map JoinedChange.item).Pairwise
        fun first second => first.memoryEpoch < second.memoryEpoch :=
      List.pairwise_map.mpr (spaceChanges_ascending gapless spaceId)
    exact ⟨_, drainChanges_lossless gapless positive bounded enough, ordered.filter _,
      fun item => mem_visibleChanges⟩

/-- Two saves, and the log read one change at a time. -/
theorem change_log_gapless_lossless_twoSaves :
    let actions : List MemoryAction :=
      [.saveExplicit ⟨0⟩ "amem_1" (fun _ => 0) (.ok ()) (plainSave "tea at noon" "save-1" []),
        .saveExplicit ⟨1⟩ "amem_2" (fun _ => 0) (.ok ()) (plainSave "no sugar" "save-2" [])]
    let store := (runFrom (stepMemory plainRules) MemoryWorld.empty actions).store
    store.changes.length = 2 ∧
      ∃ items, drainChanges store none 1 3 0 = some items ∧
        items.Pairwise fun first second => first.memoryEpoch < second.memoryEpoch := by
  intro actions store
  refine ⟨by decide +kernel, ?_⟩
  obtain ⟨items, isRead, ordered, -⟩ :=
    (change_log_gapless_lossless plainRules actions).2.2.2 none 1 0 3 (by decide) (by decide)
      (by decide +kernel)
  exact ⟨items, isRead, ordered⟩

end Shiliu.Memory
