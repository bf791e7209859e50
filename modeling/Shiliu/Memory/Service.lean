/-
Module: Shiliu.Memory.Service
Purpose: The transactions of `MemoryService`: saving, correcting, forgetting and retracting a
  memory, applying an extracted proposal, switching the automatic policy, publishing an embedding
  and purging a projection. Each holds the workspace guard, so a call is one step; what the run
  fence, the job fence and the publish guard of a caller answer comes with the call and is
  arbitrary.
Trusted boundary: none
Main exports: saveExplicit, correct, undoCreated, projectPublish, purge, MemoryAction, stepMemory
-/
import Mathlib.Logic.Function.Basic
import Shiliu.Library.Transition
import Shiliu.Memory.Checks

set_option linter.all false

namespace Shiliu.Memory

open Shiliu.Library Shiliu.Storage

/-! ## Writes -/

/-- The full-text columns `_fts_replace` sets. -/
def ftsColumns (rules : TextRules) (text : String) : Change MemoryRow.key :=
  ⟨fun row =>
    { row with
      tokenizedText := rules.document text
      searchVector := rules.toTsvector (rules.document text) },
   fun _ => rfl⟩

/-- The column a projection or a purge sets. -/
def projectedVersion (version : Nat) : Change MemoryRow.key :=
  ⟨fun row => { row with lastProjectedVersion := some version }, fun _ => rfl⟩

namespace MemoryStore

/-- `_suppress`. -/
def suppress (store : MemoryStore) (key : SuppressionKey) (sourceMessageIds : List String)
    (memoryEpoch : Nat) (now : IsoTime) : MemoryStore :=
  { store with
    suppressions := store.suppressions.upsert ⟨key, sourceMessageIds, memoryEpoch, now⟩
      ⟨fun row =>
        { row with
          sourceMessageIds := sourceMessageIds
          memoryEpoch := memoryEpoch
          createdAt := now },
       fun _ => rfl⟩ }

/-- `_write_change`, without the notification. `memory_id` and `version` are unique together; no
write reaches a pair a second time. -/
def writeChange (store : MemoryStore) (current : MemoryFacts) (operation : MemoryOperation)
    (before : Option MemoryFacts) (actor : Actor) (memoryEpoch : Nat) (now : IsoTime) :
    MemoryStore :=
  { store with
    changes := store.changes ++ [
      { id := store.changeSequence
        memoryId := current.id
        version := current.version
        operation := operation
        before := before
        after := some current
        actor := actor
        memoryEpoch := memoryEpoch
        createdAt := now }]
    changeSequence := store.changeSequence + 1 }

/-- `UPDATE assistant_memory_changes SET before_json=NULL, after_json=NULL WHERE memory_id=…`. -/
def eraseChanges (store : MemoryStore) (memoryId : String) : MemoryStore :=
  { store with
    changes := store.changes.map fun change =>
      if change.memoryId = memoryId then { change with before := none, after := none }
      else change }

/-- `_fts_replace`. -/
def ftsReplace (rules : TextRules) (store : MemoryStore) (memoryId text : String) : MemoryStore :=
  { store with memories := store.memories.modify memoryId (ftsColumns rules text) }

/-- `_clear_projection`, without the wiki windows. -/
def clearProjection (rules : TextRules) (store : MemoryStore) (memoryId : String) :
    MemoryStore :=
  let store := store.ftsReplace rules memoryId ""
  { store with embeddings := store.embeddings.deleteWhere fun row => row.memoryId = memoryId }

/-- `enqueue_job`. -/
def enqueueJob (store : MemoryStore) (key : DedupeKey) (scopeKey : Option Scope)
    (memoryEpoch : Option Nat) : MemoryStore :=
  { store with
    jobs := store.jobs.insert
      { dedupeKey := key
        payload := ⟨key.memoryId, key.version, scopeKey, memoryEpoch⟩
        status := .queued
        lease := ⟨none, none, 0⟩ } }

/-- `_enqueue_index`. -/
def enqueueIndex (store : MemoryStore) (memoryId : String) (version : Nat) (scope : Scope) :
    MemoryStore :=
  store.enqueueJob ⟨.memoryIndex, memoryId, version⟩ (some scope) none

/-- The purge job of a memory that was forgotten or retracted. -/
def enqueuePurge (store : MemoryStore) (memoryId : String) (version memoryEpoch : Nat) :
    MemoryStore :=
  store.enqueueJob ⟨.memoryPurge, memoryId, version⟩ none (some memoryEpoch)

/-- `_save_receipt`. -/
def saveReceipt (store : MemoryStore) (operationKey : String) (operation : ReceiptOperation)
    (result : MemoryFacts) : MemoryStore :=
  { store with receipts := store.receipts.insert ⟨operationKey, operation, result⟩ }

/-- `UPDATE assistant_memories SET … WHERE id=…`, for a row that is locked. -/
def putMemory (store : MemoryStore) (row : MemoryRow) : MemoryStore :=
  { store with memories := store.memories.put row }

/-- `_increment_epoch`. -/
def incrementEpoch (store : MemoryStore) : MemoryStore :=
  { store with memoryEpoch := store.memoryEpoch + 1 }

end MemoryStore

/-! ## Saving -/

/-- The arguments of `save_explicit`. `timeContext` is `none` where the argument is `None`. -/
structure SaveRequest where
  text : String
  subjectKey : String
  kind : String
  scopeKind : String
  scopeId : Option Int
  operationKey : String
  sourceMessageIds : List String
  sourceExcerpt : String
  pinned : Bool
  origin : MemoryOrigin
  validFrom : Option String
  expiresAt : Option String
  validityNote : String
  validityTimezone : Option String
  statedText : Option String
  statedAt : Option String
  timeContext : Option (Option TimeContext)
  initialStatus : MemoryStatus

/-- `stated_at or utc_now()`. -/
def statedTime (rules : TextRules) (now : IsoTime) (statedAt : Option String) : String :=
  (statedAt.filter (· ≠ "")).getD (rules.printTime now)

/-- The validity columns and the time context of a new memory. -/
def savedTimes (rules : TextRules) (now : IsoTime) (request : SaveRequest) :
    Except Failure (Validity × Option TimeContext) := do
  let statedAt := statedTime rules now request.statedAt
  let derived ← request.statedText.elim (.ok none) fun statement =>
    rules.validity statement statedAt
  let temporal ← match request.timeContext, request.statedText with
    | some context, _ => .ok context
    | none, none => .ok none
    | none, some statement =>
        (rules.timeContext statement statedAt request.sourceMessageIds.head?).map some
  let validity ← validateValidity rules
    (.text (request.validFrom <|> derived.bind DerivedValidity.validFrom))
    (.text (request.expiresAt <|> derived.bind DerivedValidity.expiresAt))
    (derived.elim request.validityNote DerivedValidity.note)
    (derived.elim request.validityTimezone fun derived => some derived.timezone)
  return (validity, temporal)

/-- `sorted({*old, *new})`. -/
def mergedSources (old new : List String) : List String :=
  (old ++ new).dedup.insertionSort (· ≤ ·)

/-- `str(duplicate["source_excerpt"] or "") or source_excerpt[:1000]`. -/
def mergedExcerpt (duplicate : MemoryRow) (request : SaveRequest) : String :=
  if duplicate.sourceExcerpt ≠ "" then duplicate.sourceExcerpt
  else prefixOf request.sourceExcerpt 1000

/-- An explicit save adopts the duplicate, rather than only adding its sources to it. -/
def adopts (request : SaveRequest) (duplicate : MemoryRow) : Bool :=
  request.origin = .explicit ∧
    (!duplicate.userEdited ∨ (request.pinned ∧ !duplicate.pinned) ∨ duplicate.status ≠ .active)

/-- The row an adoption leaves. -/
def adoptedRow (now : IsoTime) (request : SaveRequest) (duplicate : MemoryRow) (epoch : Nat) :
    MemoryRow :=
  { duplicate with
    origin := .explicit
    status := .active
    userEdited := true
    pinned := request.pinned || duplicate.pinned
    version := duplicate.version + 1
    sourceMessageIds := mergedSources duplicate.sourceMessageIds request.sourceMessageIds
    sourceExcerpt := mergedExcerpt duplicate request
    changeEpoch := epoch
    updatedAt := now }

/-- The branch of `save_explicit` that adopts a duplicate. -/
def adoptDuplicate (store : MemoryStore) (now : IsoTime) (request : SaveRequest)
    (duplicate : MemoryRow) : MemoryStore × MemoryFacts :=
  let epoch := store.memoryEpoch + 1
  let row := adoptedRow now request duplicate epoch
  (((((store.incrementEpoch).putMemory row).writeChange row.public_ .adopted
      (some duplicate.public_) .user epoch now).enqueueIndex duplicate.id row.version
      row.scope).saveReceipt request.operationKey .memorySave row.public_, row.public_)

/-- The row a repeated save leaves: only its sources are merged. -/
def mergedRow (request : SaveRequest) (duplicate : MemoryRow) : MemoryRow :=
  let sources := mergedSources duplicate.sourceMessageIds request.sourceMessageIds
  if sources ≠ duplicate.sourceMessageIds then
    { duplicate with
      sourceMessageIds := sources
      sourceExcerpt := mergedExcerpt duplicate request }
  else duplicate

/-- The branch of `save_explicit` that keeps a duplicate as it is. -/
def mergeDuplicate (store : MemoryStore) (request : SaveRequest) (duplicate : MemoryRow) :
    MemoryStore × MemoryFacts :=
  let row := mergedRow request duplicate
  ((store.putMemory row).saveReceipt request.operationKey .memorySave row.public_, row.public_)

/-- The row `save_explicit` inserts. -/
def createdRow (now : IsoTime) (memoryId : String) (request : SaveRequest) (scope : Scope)
    (kind : MemoryKind) (text subjectKey : String) (validity : Validity)
    (temporal : Option TimeContext) (epoch : Nat) : MemoryRow :=
  { id := memoryId
    scope := scope
    kind := kind
    text := text
    subjectKey := subjectKey
    origin := request.origin
    sourceMessageIds := request.sourceMessageIds
    sourceExcerpt := prefixOf request.sourceExcerpt 1000
    validFrom := validity.validFrom
    expiresAt := validity.expiresAt
    validityNote := validity.note
    validityTimezone := validity.timezone
    timeContext := temporal
    status := request.initialStatus
    version := 1
    pinned := request.pinned
    userEdited := request.origin = .explicit
    lastProjectedVersion := none
    changeEpoch := epoch
    createdAt := now
    updatedAt := now
    tokenizedText := ""
    searchVector := [] }

/-- The branch of `save_explicit` that inserts a row. -/
def createMemory (rules : TextRules) (store : MemoryStore) (now : IsoTime) (request : SaveRequest)
    (row : MemoryRow) : MemoryStore × MemoryFacts :=
  let inserted := { store.incrementEpoch with memories := store.memories.insert row }
  let logged := inserted.writeChange row.public_ .created none
    (if request.origin = .explicit then .user else .assistant) (store.memoryEpoch + 1) now
  let projected :=
    if request.initialStatus = .active then
      (logged.ftsReplace rules row.id row.text).enqueueIndex row.id 1 row.scope
    else logged
  (projected.saveReceipt request.operationKey .memorySave row.public_, row.public_)

/-- What `save_explicit` settles on once its checks have passed: the receipt of an earlier call,
a duplicate, or the row to insert. -/
inductive SaveTarget where
  | replay (prior : Receipt)
  | duplicate (row : MemoryRow)
  | fresh (row : MemoryRow)

/-- The checks of `save_explicit`. -/
def saveTarget (rules : TextRules) (store : MemoryStore) (now : IsoTime) (memoryId : String)
    (heapOrder : String → Nat) (guard : Except Failure Unit) (request : SaveRequest) :
    Except Failure SaveTarget := do
  let text ← validateText request.text
  let subject ← validateSubject rules request.subjectKey
  let scope ← validateScope store request.scopeKind request.scopeId
  let kind ← requireKind request.kind
  ensure (request.initialStatus = .active ∨ request.initialStatus = .needsReview)
    (.valueError "invalid_memory_status")
  let (validity, temporal) ← savedTimes rules now request
  guard
  match ← receipt store request.operationKey with
  | some prior => return .replay prior
  | none =>
      validateSources store request.sourceMessageIds scope
      match duplicateOf rules store heapOrder scope text validity temporal with
      | some row => return .duplicate row
      | none =>
          ensure (store.memories.lookup memoryId = none) .uniqueViolation
          return .fresh (createdRow now memoryId request scope kind text subject validity
            temporal (store.memoryEpoch + 1))

/-- The writes of `save_explicit`. -/
def commitSave (rules : TextRules) (store : MemoryStore) (now : IsoTime) (request : SaveRequest) :
    SaveTarget → MemoryStore × MemoryFacts
  | .replay prior => (store, prior.result)
  | .duplicate row =>
      if adopts request row then adoptDuplicate store now request row
      else mergeDuplicate store request row
  | .fresh row => createMemory rules store now request row

/-- `save_explicit`. -/
def saveExplicit (rules : TextRules) (store : MemoryStore) (now : IsoTime) (memoryId : String)
    (heapOrder : String → Nat) (guard : Except Failure Unit) (request : SaveRequest) :
    Except Failure (MemoryStore × MemoryFacts) :=
  (saveTarget rules store now memoryId heapOrder guard request).map
    (commitSave rules store now request)

/-! ## Correcting -/

/-- The arguments of `correct`; `none` is an argument that is unset. -/
structure CorrectRequest where
  memoryId : String
  text : String
  expectedVersion : Int
  operationKey : String
  subjectKey : Option String
  kind : Option String
  validFrom : Option (Option String)
  expiresAt : Option (Option String)
  validityNote : Option String
  validityTimezone : Option (Option String)
  sourceMessageIds : Option (List String)
  sourceExcerpt : Option String
  statedText : Option String
  statedAt : Option String
  updateTimeContext : Option Bool
  actor : Actor
  userEdited : Bool

/-- `value or default` of a text. -/
def orElse (value : Option String) (default : String) : String :=
  (value.filter (· ≠ "")).getD default

/-- `part in text`. -/
def isIn (part text : String) : Bool :=
  text.toList.tails.any part.toList.isPrefixOf

/-- The events of the old context that the new text still names. -/
def retainedEvents (old : TimeContext) (newExpressions : List String) (text : String) :
    List TimeEvent :=
  (old.events.filter fun event =>
    isIn event.expression text ∧ event.expression ∉ newExpressions).map
      fun event =>
        { event with
          statedAt := event.statedAt <|> some old.statedAt
          sourceMessageId := event.sourceMessageId <|> old.sourceMessageId }

/-- The time context of a corrected memory. -/
def correctedContext (rules : TextRules) (old : Option TimeContext) (candidate : TimeContext)
    (request : CorrectRequest) (timeWords text : String) : Except Failure (Option TimeContext) :=
  let oldExpressions := (eventsOf old).map TimeEvent.expression
  let newExpressions := candidate.events.map TimeEvent.expression
  let changes := request.updateTimeContext = some true ∨
    (request.updateTimeContext = none ∧ newExpressions ≠ [] ∧
      (oldExpressions ≠ newExpressions ∨ rules.requestsTimeChange timeWords))
  if changes then
    match old with
    | none => .ok (some candidate)
    | some old =>
        if old.events.length > candidate.events.length then
          let retained := retainedEvents old newExpressions text
          if retained.length + candidate.events.length < old.events.length then
            .error (.valueError "memory_time_source_ambiguous")
          else .ok (some { candidate with events := candidate.events ++ retained })
        else .ok (some candidate)
  else if old = none ∧ request.statedText.isSome ∧ candidate.events = [] then
    .ok (some candidate)
  else .ok old

/-- The bounds a correction asks for: cancelled, read from the new words, or as given. -/
structure BoundsRequest where
  validFrom : Option (Option String)
  expiresAt : Option (Option String)
  note : Option String
  timezone : Option (Option String)

/-- The bounds before those left unset are taken from the row. -/
def correctedBounds (rules : TextRules) (now : IsoTime) (row : MemoryRow)
    (request : CorrectRequest) (timeWords text : String) : Except Failure BoundsRequest := do
  let given : BoundsRequest :=
    ⟨request.validFrom, request.expiresAt, request.validityNote, request.validityTimezone⟩
  if rules.cancelsTime timeWords text then return ⟨some none, some none, some "", some none⟩
  else if request.expiresAt = none ∧ request.validFrom = none ∧
      request.updateTimeContext ≠ some false ∧
      (request.updateTimeContext = some true ∨
        rules.timeTokens timeWords ≠ rules.timeTokens row.text) then
    let derived ← rules.validity timeWords (statedTime rules now request.statedAt)
    match derived with
    | none => return given
    | some derived =>
        return ⟨derived.validFrom.map some <|> given.validFrom,
          derived.expiresAt.map some <|> given.expiresAt, some derived.note,
          some (some derived.timezone)⟩
  else return given

/-- The validity columns of a corrected memory. -/
def correctedValidity (rules : TextRules) (row : MemoryRow) (bounds : BoundsRequest) :
    Except Failure Validity :=
  let cleared := bounds.expiresAt = some none
  let note := bounds.note <|> if cleared then some "" else none
  let timezone := bounds.timezone <|> if cleared then some none else none
  validateValidity rules (bounds.validFrom.elim (.stored row.validFrom) .text)
    (bounds.expiresAt.elim (.stored row.expiresAt) .text) (note.getD row.validityNote)
    (timezone.getD row.validityTimezone)

/-- The sources of a corrected memory. -/
def correctedSources (row : MemoryRow) (request : CorrectRequest) : List String :=
  request.sourceMessageIds.elim row.sourceMessageIds List.eraseDups

/-- The row a correction leaves. -/
def correctedRow (now : IsoTime) (row : MemoryRow) (request : CorrectRequest)
    (text subjectKey : String) (kind : MemoryKind) (validity : Validity)
    (temporal : Option TimeContext) (epoch : Nat) : MemoryRow :=
  { row with
    text := text
    subjectKey := subjectKey
    kind := kind
    version := row.version + 1
    status := .active
    userEdited := request.userEdited
    validFrom := validity.validFrom
    expiresAt := validity.expiresAt
    validityNote := validity.note
    validityTimezone := validity.timezone
    sourceMessageIds := correctedSources row request
    sourceExcerpt := request.sourceExcerpt.elim row.sourceExcerpt (prefixOf · 1000)
    changeEpoch := epoch
    updatedAt := now
    timeContext := temporal }

/-- The key under which the text of a row is suppressed. -/
def suppressionKey (rules : TextRules) (row : MemoryRow) : SuppressionKey :=
  ⟨row.scope, row.subjectKey, rules.contentHash row.text⟩

/-- What `correct` finds and checks: the row, and the row to put in its place. -/
def checkCorrection (rules : TextRules) (store : MemoryStore) (now : IsoTime) (text : String)
    (request : CorrectRequest) : Except Failure (MemoryRow × MemoryRow) := do
  match store.memories.lookup request.memoryId with
  | none => .error .keyError
  | some row =>
      ensure ((row.version : Int) = request.expectedVersion)
        (.assistantConflict "memory_version_conflict")
      ensure (row.status ≠ .forgotten) (.assistantConflict "memory_forgotten")
      let subject ← validateSubject rules (orElse request.subjectKey row.subjectKey)
      let kind ← (request.kind.filter (· ≠ "")).elim (.ok row.kind) requireKind
      let timeWords := request.statedText.getD text
      let candidate ← rules.timeContext timeWords (statedTime rules now request.statedAt)
        (request.sourceMessageIds.bind List.head?)
      let temporal ← correctedContext rules row.timeContext candidate request timeWords text
      let bounds ← correctedBounds rules now row request timeWords text
      let validity ← correctedValidity rules row bounds
      let _ ← validateRowScope store row.scope
      validateSources store (correctedSources row request) row.scope
      return (row, correctedRow now row request text subject kind validity temporal
        (store.memoryEpoch + 1))

/-- The writes of `correct`. -/
def commitCorrection (rules : TextRules) (store : MemoryStore) (now : IsoTime)
    (request : CorrectRequest) (row after : MemoryRow) : MemoryStore × MemoryFacts :=
  let epoch := store.memoryEpoch + 1
  let suppressed := store.incrementEpoch.suppress (suppressionKey rules row)
    row.sourceMessageIds epoch now
  let logged := (suppressed.putMemory after).writeChange after.public_ .corrected
    (some row.public_) request.actor epoch now
  (((logged.ftsReplace rules row.id after.text).enqueueIndex row.id after.version
    row.scope).saveReceipt request.operationKey .memoryCorrect after.public_, after.public_)

/-- What `correct` settles on once its checks have passed: the receipt of an earlier call, or the
row and what to put in its place. -/
inductive CorrectTarget where
  | replay (prior : Receipt)
  | change (row after : MemoryRow)

/-- The checks of `correct`. -/
def correctTarget (rules : TextRules) (store : MemoryStore) (now : IsoTime)
    (guard : Except Failure Unit) (request : CorrectRequest) : Except Failure CorrectTarget := do
  let text ← validateText request.text
  guard
  match ← receipt store request.operationKey with
  | some prior => return .replay prior
  | none =>
      let (row, after) ← checkCorrection rules store now text request
      return .change row after

/-- `correct`. -/
def correct (rules : TextRules) (store : MemoryStore) (now : IsoTime)
    (guard : Except Failure Unit) (request : CorrectRequest) :
    Except Failure (MemoryStore × MemoryFacts) :=
  (correctTarget rules store now guard request).map fun target =>
    match target with
    | .replay prior => (store, prior.result)
    | .change row after => commitCorrection rules store now request row after

/-! ## Forgetting -/

/-- The arguments of `forget`. -/
structure ForgetRequest where
  memoryId : String
  expectedVersion : Int
  operationKey : String
  sourceMessageIds : List String

/-- The messages a forget protects: those of the row, and those passed with the call. -/
def forgottenSources (row : MemoryRow) (request : ForgetRequest) : List String :=
  if request.sourceMessageIds = [] then row.sourceMessageIds
  else (row.sourceMessageIds ++ request.sourceMessageIds).eraseDups

/-- The row a forget leaves. -/
def forgottenRow (now : IsoTime) (row : MemoryRow) (request : ForgetRequest) (epoch : Nat) :
    MemoryRow :=
  { row with
    status := .forgotten
    version := row.version + 1
    text := ""
    sourceExcerpt := ""
    timeContext := none
    sourceMessageIds := forgottenSources row request
    changeEpoch := epoch
    updatedAt := now }

/-- What `forget` settles on once its checks have passed: the receipt of an earlier call, a row
that is forgotten already, or the row to forget. -/
inductive ForgetTarget where
  | replay (prior : Receipt)
  | already (row : MemoryRow)
  | change (row : MemoryRow)

/-- The checks of `forget`. -/
def forgetTarget (store : MemoryStore) (guard : Except Failure Unit) (request : ForgetRequest) :
    Except Failure ForgetTarget := do
  guard
  match ← receipt store request.operationKey with
  | some prior => return .replay prior
  | none =>
      match store.memories.lookup request.memoryId with
      | none => .error .keyError
      | some row =>
          if row.status = .forgotten then return .already row
          else
            ensure ((row.version : Int) = request.expectedVersion)
              (.assistantConflict "memory_version_conflict")
            checkReferences store (forgottenSources row request)
            return .change row

/-- The writes of `forget`. -/
def commitForget (rules : TextRules) (store : MemoryStore) (now : IsoTime)
    (request : ForgetRequest) (row : MemoryRow) : MemoryStore × MemoryFacts :=
  let epoch := store.memoryEpoch + 1
  let after := forgottenRow now row request epoch
  let suppressed := store.incrementEpoch.suppress (suppressionKey rules row)
    (forgottenSources row request) epoch now
  let cleared := (suppressed.putMemory after).clearProjection rules row.id
  let logged := (cleared.eraseChanges row.id).writeChange after.public_ .forgotten none .user
    epoch now
  ((logged.enqueuePurge row.id after.version epoch).saveReceipt request.operationKey
    .memoryForget after.public_, after.public_)

/-- `forget`. -/
def forget (rules : TextRules) (store : MemoryStore) (now : IsoTime)
    (guard : Except Failure Unit) (request : ForgetRequest) :
    Except Failure (MemoryStore × MemoryFacts) :=
  (forgetTarget store guard request).map fun target =>
    match target with
    | .replay prior => (store, prior.result)
    | .already row =>
        (store.saveReceipt request.operationKey .memoryForget row.public_, row.public_)
    | .change row => commitForget rules store now request row

/-! ## Retracting a creation -/

/-- The arguments of `undo_created`. -/
structure UndoRequest where
  memoryId : String
  saveOperationKey : String
  expectedVersion : Int
  operationKey : String
  notificationId : Option String

/-- What a creation is compared by: everything but the projected version and the update time. -/
def business (facts : MemoryFacts) : MemoryFacts :=
  { facts with lastProjectedVersion := none, updatedAt := ⟨0⟩ }

/-- The change that records the creation of a memory. -/
def creationOf (store : MemoryStore) (memoryId : String) : Option MemoryChange :=
  store.changes.find? fun change =>
    change.memoryId = memoryId ∧ change.operation = .created ∧ change.version = 1

/-- `_creation_for_undo`, with the change that records the creation. -/
def creationForUndo (store : MemoryStore) (request : UndoRequest) :
    Except Failure (MemoryRow × MemoryChange) :=
  let saved := (store.receipts.lookup request.saveOperationKey).filter fun receipt =>
    receipt.operation = .memorySave
  match saved, store.memories.lookup request.memoryId, creationOf store request.memoryId with
  | some saved, some row, some created =>
      match created.after with
      | none => .error (.assistantConflict "memory_creation_receipt_required")
      | some original =>
          let current := row.public_
          if request.expectedVersion ≠ 1 ∨ current.version ≠ 1 ∨ current.origin ≠ .explicit ∨
              business current ≠ business original ∨ saved.result ≠ original then
            .error (.assistantConflict "memory_creation_changed_or_not_original")
          else if store.receipts.rows.any fun other =>
              other.operation = .memorySave ∧ other.operationKey ≠ request.saveOperationKey ∧
                other.result.id = request.memoryId then
            .error (.assistantConflict "memory_creation_has_later_save")
          else .ok (row, created)
  | _, _, _ => .error (.assistantConflict "memory_creation_receipt_required")

/-- The row a retraction leaves. -/
def retractedRow (now : IsoTime) (row : MemoryRow) (epoch : Nat) : MemoryRow :=
  { row with
    status := .forgotten
    version := row.version + 1
    text := ""
    sourceExcerpt := ""
    timeContext := none
    changeEpoch := epoch
    updatedAt := now }

/-- The suppression of a retracted creation: none if an earlier forget left one for this fact, and
otherwise one that protects no message. -/
def suppressRetracted (rules : TextRules) (store : MemoryStore) (row : MemoryRow) (epoch : Nat)
    (now : IsoTime) : MemoryStore :=
  if (store.suppressions.lookup (suppressionKey rules row)).isSome then store
  else store.suppress (suppressionKey rules row) [] epoch now

/-- The writes of `undo_created`, without the notification. -/
def commitUndo (rules : TextRules) (store : MemoryStore) (now : IsoTime) (request : UndoRequest)
    (row : MemoryRow) : MemoryStore × MemoryFacts :=
  let epoch := store.memoryEpoch + 1
  let after := retractedRow now row epoch
  let suppressed := suppressRetracted rules store.incrementEpoch row epoch now
  let cleared := (suppressed.putMemory after).clearProjection rules row.id
  let logged := cleared.writeChange after.public_ .creationRetracted none .user epoch now
  ((logged.enqueuePurge row.id 2 epoch).saveReceipt request.operationKey
    .memoryCreationRetract after.public_, after.public_)

/-- `undo_created`. -/
def undoCreated (rules : TextRules) (store : MemoryStore) (now : IsoTime)
    (guard : Except Failure Unit) (request : UndoRequest) :
    Except Failure (MemoryStore × MemoryFacts) := do
  guard
  match ← receipt store request.operationKey with
  | some prior => return (store, prior.result)
  | none =>
      let (row, created) ← creationForUndo store request
      ensure (request.notificationId.all fun id => id = rules.changeMessageId created.id)
        (.assistantConflict "memory_creation_message_mismatch")
      return commitUndo rules store now request row

/-! ## Extracted proposals -/

/-- A proposal of the model, each absent field `none`. A field that may be present and null has
two layers. -/
structure Proposal where
  op : Option String
  text : String
  subjectKey : String
  scopeKind : Option String
  scopeId : Option Int
  kind : Option String
  sourceExcerpt : Option String
  targetMemoryId : Option String
  expectedVersion : Option Int
  validFrom : Option (Option String)
  expiresAt : Option (Option String)
  validityNote : Option (Option String)
  validityTimezone : Option (Option String)
  statedAt : Option String

/-- The arguments of `apply_extracted`, with what the fences of the caller answer. -/
structure ExtractRequest where
  proposal : Proposal
  sourceMessageIds : List String
  expectedEpoch : Int
  operationKey : String
  expectedAutoGeneration : Option Int
  guard : Except Failure Unit
  publishGuard : Except Failure Unit

/-- The scope a proposal asks for; a scope id of zero counts as none. -/
def proposalScope (store : MemoryStore) (proposal : Proposal) : Except Failure Scope :=
  let scopeKind := orElse proposal.scopeKind "space"
  validateScope store scopeKind
    (if scopeKind = "user" then none else proposal.scopeId.filter (· ≠ 0))

/-- `op not in {"add", "revise"}`. -/
def noChange (proposal : Proposal) : Bool :=
  proposal.op ≠ some "add" ∧ proposal.op ≠ some "revise"

/-- The excerpt of a decision does not read as the user's own. -/
def implausibleDecision (rules : TextRules) (proposal : Proposal) : Bool :=
  proposal.kind = some "decision" ∧
    proposal.sourceExcerpt.any fun excerpt => excerpt ≠ "" ∧ !rules.plausibleDecision excerpt

/-- A suppression shares a source with the extraction. -/
def Suppression.blocks (row : Suppression) (sourceMessageIds : List String) : Bool :=
  sourceMessageIds.any fun id => id ∈ row.sourceMessageIds

/-- The text is suppressed in the scope, or a source message is. -/
def isSuppressed (rules : TextRules) (store : MemoryStore) (scope : Scope) (text : String)
    (sourceMessageIds : List String) : Bool :=
  store.suppressions.rows.any fun row =>
    (row.key.scope = scope ∧ row.key.contentHash = rules.contentHash text) ∨
      row.blocks sourceMessageIds

/-- The fences of an extraction whose epoch has passed: the sources of facts a user edited, and
the suppressions once more. -/
def isOutdated (rules : TextRules) (store : MemoryStore) (scope : Scope)
    (subjectKey text : String) (sourceMessageIds : List String) : Bool :=
  (store.memories.rows.any fun row =>
    row.status = .active ∧ row.userEdited ∧ row.scope = scope ∧
      sourceMessageIds.any fun id => id ∈ row.sourceMessageIds) ∨
  store.suppressions.rows.any fun row =>
    row.blocks sourceMessageIds ∨ row.key = ⟨scope, subjectKey, rules.contentHash text⟩

/-- The automatic policy allows the extraction. -/
def policyAllows (store : MemoryStore) (expectedAutoGeneration : Option Int) : Bool :=
  store.autoMemoryEnabled ∧
    expectedAutoGeneration.all fun generation => generation = store.autoMemoryGeneration

/-- A proposal may revise this memory. -/
def revisable (scope : Scope) (expectedVersion : Int) (target : MemoryRow) : Bool :=
  target.scope = scope ∧ target.status = .active ∧ !target.pinned ∧ !target.userEdited ∧
    expectedVersion = target.version

/-- The `correct` call of a proposal that revises. -/
def revision (request : ExtractRequest) (target : MemoryRow) (text subjectKey : String) :
    CorrectRequest :=
  let proposal := request.proposal
  { memoryId := target.id
    text := text
    expectedVersion := target.version
    operationKey := request.operationKey
    subjectKey := some (orElse (some subjectKey) target.subjectKey)
    kind := proposal.kind
    validFrom := proposal.validFrom
    expiresAt := proposal.expiresAt
    validityNote := proposal.validityNote.map fun note => note.getD ""
    validityTimezone := proposal.validityTimezone
    sourceMessageIds := some request.sourceMessageIds
    sourceExcerpt := some (proposal.sourceExcerpt.getD "")
    statedText := proposal.sourceExcerpt
    statedAt := proposal.statedAt
    updateTimeContext := none
    actor := .assistant
    userEdited := false }

/-- The `save_explicit` call of a proposal that adds. -/
def addition (request : ExtractRequest) (scope : Scope) (text subjectKey : String) :
    SaveRequest :=
  let proposal := request.proposal
  { text := text
    subjectKey := subjectKey
    kind := orElse proposal.kind "context"
    scopeKind := match scope with | .user => "user" | .space _ => "space"
    scopeId := match scope with | .user => none | .space id => some id
    operationKey := request.operationKey
    sourceMessageIds := request.sourceMessageIds
    sourceExcerpt := proposal.sourceExcerpt.getD ""
    pinned := false
    origin := .extracted
    validFrom := proposal.validFrom.join
    expiresAt := proposal.expiresAt.join
    validityNote := proposal.validityNote.join.getD ""
    validityTimezone := proposal.validityTimezone.join
    statedText := proposal.sourceExcerpt
    statedAt := proposal.statedAt
    timeContext := none
    initialStatus := .active }

/-- What `apply_extracted` settles on once its fences have been asked: nothing to do, the `correct`
call, or the `save_explicit` call. -/
inductive ExtractTarget where
  | settled (result : Option MemoryFacts)
  | revise (request : CorrectRequest)
  | add (request : SaveRequest)

/-- What a proposal that passed the fences comes to. -/
def proposalTarget (store : MemoryStore) (request : ExtractRequest) (scope : Scope)
    (text subjectKey : String) : ExtractTarget :=
  if request.proposal.op = some "revise" then
    match (request.proposal.targetMemoryId.filter (· ≠ "")).bind store.memories.lookup with
    | none => .settled none
    | some target =>
        if revisable scope (request.proposal.expectedVersion.getD 0) target then
          .revise (revision request target text subjectKey)
        else .settled none
  else .add (addition request scope text subjectKey)

/-- The fences of `apply_extracted`. -/
def extractTarget (rules : TextRules) (store : MemoryStore) (request : ExtractRequest) :
    Except Failure ExtractTarget := do
  let scope ← proposalScope store request.proposal
  if noChange request.proposal then return .settled none
  else
    let text ← validateText request.proposal.text
    let subject ← validateSubject rules request.proposal.subjectKey
    if implausibleDecision rules request.proposal then return .settled none
    else
      request.guard
      match ← receipt store request.operationKey with
      | some prior => return .settled (some prior.result)
      | none =>
          request.publishGuard
          if !policyAllows store request.expectedAutoGeneration then return .settled none
          else if isSuppressed rules store scope text request.sourceMessageIds then
            return .settled none
          else if (store.memoryEpoch : Int) ≠ request.expectedEpoch ∧
              isOutdated rules store scope subject text request.sourceMessageIds then
            return .settled none
          else return proposalTarget store request scope text subject

/-- The writes of `apply_extracted`. The inner call shares the transaction, so it takes no guard of
its own. -/
def applyTarget (rules : TextRules) (store : MemoryStore) (now : IsoTime) (memoryId : String)
    (heapOrder : String → Nat) : ExtractTarget → Except Failure (MemoryStore × Option MemoryFacts)
  | .settled result => .ok (store, result)
  | .revise inner =>
      (correct rules store now (.ok ()) inner).map fun done => (done.1, some done.2)
  | .add inner =>
      (saveExplicit rules store now memoryId heapOrder (.ok ()) inner).map fun done =>
        (done.1, some done.2)

/-- `apply_extracted`. -/
def applyExtracted (rules : TextRules) (store : MemoryStore) (now : IsoTime) (memoryId : String)
    (heapOrder : String → Nat) (request : ExtractRequest) :
    Except Failure (MemoryStore × Option MemoryFacts) := do
  let target ← extractTarget rules store request
  applyTarget rules store now memoryId heapOrder target

/-- `set_auto_enabled`. -/
def setAutoEnabled (store : MemoryStore) (enabled : Bool) (guard : Except Failure Unit) :
    Except Failure (MemoryStore × Bool) := do
  guard
  return (
    { store with
      autoMemoryEnabled := enabled
      autoMemoryGeneration :=
        store.autoMemoryGeneration + if store.autoMemoryEnabled ≠ enabled then 1 else 0 },
    enabled)

/-! ## Projecting -/

/-- The job row a worker was handed when it claimed the job. -/
structure ClaimedJob where
  dedupeKey : DedupeKey
  payload : MemoryJobPayload
  owner : String
  epoch : Nat

/-- `_check_job_payload`. -/
def checkJobPayload (job : ClaimedJob) (memoryId : String) (version : Nat)
    (kind : MemoryJobKind) : Except Failure Unit :=
  ensure (job.dedupeKey.kind = kind ∧ job.payload.memoryId = memoryId ∧
    job.payload.version = version) (.assistantConflict "memory_job_payload_mismatch")

/-- `guard_job` and the comparison of payloads, inside `_memory_write_transaction`. -/
def guardMemoryJob (store : MemoryStore) (clock : Instant) (job : ClaimedJob) :
    Except Failure Unit :=
  match store.jobs.lookup job.dedupeKey with
  | none => .error (.coordinationConflict "job_missing")
  | some current => do
      ensure (current.status = .running ∧ current.lease.Holds clock ⟨job.owner, job.epoch⟩)
        (.coordinationConflict "job_fenced")
      ensure (current.payload = job.payload) (.assistantConflict "memory_job_payload_mismatch")

/-- `job_transition(…, action="complete")`. -/
def completeJob (store : MemoryStore) (key : DedupeKey) : MemoryStore :=
  { store with
    jobs := store.jobs.modify key
      ⟨fun job => { job with status := .completed, lease := job.lease.release },
       fun _ => rfl⟩ }

/-- A `project` call between its read and its publication. -/
structure ProjectRead where
  memoryId : String
  version : Nat
  profileId : String
  job : ClaimedJob
  row : MemoryRow

/-- The first part of `project`: the row, unless it is stale already. -/
def projectRead (store : MemoryStore) (memoryId : String) (version : Nat) (profileId : String)
    (job : ClaimedJob) : Except Failure (Option ProjectRead) := do
  checkJobPayload job memoryId version .memoryIndex
  match store.memories.lookup memoryId with
  | none => return none
  | some row =>
      if row.status ≠ .active ∨ row.version ≠ version then return none
      else return some ⟨memoryId, version, profileId, job, row⟩

/-- The hash of the text an embedding is made of. -/
def embeddedHash (rules : TextRules) (row : MemoryRow) : String :=
  rules.contentHash (rules.nfkc row.text)

/-- The row has not changed since it was read. -/
def sameAsRead (rules : TextRules) (read : ProjectRead) (current : MemoryRow) : Bool :=
  current.status = .active ∧ current.version = read.version ∧
    current.changeEpoch = read.row.changeEpoch ∧
    embeddedHash rules current = embeddedHash rules read.row

/-- The embedding row of a publication. -/
def publishedEmbedding (rules : TextRules) (read : ProjectRead) (current : MemoryRow)
    (vector : String) : Embedding :=
  { memoryId := read.memoryId
    profileId := read.profileId
    memoryVersion := read.version
    changeEpoch := current.changeEpoch
    textHash := embeddedHash rules read.row
    vector := vector }

/-- Some active memory has no current embedding in the profile. -/
def missingEmbedding (rules : TextRules) (store : MemoryStore) (profileId : String) : Bool :=
  store.memories.rows.any fun row =>
    row.status = .active ∧
      !(store.embeddings.lookup (row.id, profileId)).any fun embedding =>
        embedding.memoryVersion = row.version ∧ embedding.changeEpoch = row.changeEpoch ∧
          embedding.textHash = embeddedHash rules row

/-- `_activate_profile_if_covered`. -/
def activateProfileIfCovered (rules : TextRules) (store : MemoryStore) (profileId : String) :
    MemoryStore :=
  if missingEmbedding rules store profileId then store
  else { store with activeProfile := some profileId }

/-- The writes of a publication; the profile itself is registered elsewhere. -/
def commitPublication (rules : TextRules) (store : MemoryStore) (read : ProjectRead)
    (current : MemoryRow) (vector : String) : MemoryStore :=
  let embedding := publishedEmbedding rules read current vector
  let embedded :=
    { store with
      embeddings := store.embeddings.upsert embedding
        ⟨fun row =>
          { row with
            memoryVersion := embedding.memoryVersion
            changeEpoch := embedding.changeEpoch
            textHash := embedding.textHash
            vector := embedding.vector },
         fun _ => rfl⟩ }
  let marked :=
    { embedded with
      memories := embedded.memories.modify read.memoryId (projectedVersion read.version) }
  completeJob (activateProfileIfCovered rules marked read.profileId) read.job.dedupeKey

/-- The last part of `project`, with the vector the encoder returned meanwhile. -/
def projectPublish (rules : TextRules) (store : MemoryStore) (clock : Instant)
    (read : ProjectRead) (vector : String) : Except Failure MemoryStore := do
  guardMemoryJob store clock read.job
  match store.memories.lookup read.memoryId with
  | none => .error (.assistantConflict "memory_projection_stale")
  | some current =>
      ensure (sameAsRead rules read current) (.assistantConflict "memory_projection_stale")
      return commitPublication rules store read current vector

/-- The writes of `purge`. -/
def commitPurge (rules : TextRules) (store : MemoryStore) (memoryId : String) (version : Nat)
    (key : DedupeKey) : MemoryStore :=
  let cleared := store.clearProjection rules memoryId
  let marked :=
    { cleared with memories := cleared.memories.modify memoryId (projectedVersion version) }
  completeJob marked key

/-- `purge`. -/
def purge (rules : TextRules) (store : MemoryStore) (clock : Instant) (memoryId : String)
    (version : Nat) (job : ClaimedJob) : Except Failure MemoryStore := do
  checkJobPayload job memoryId version .memoryPurge
  guardMemoryJob store clock job
  match store.memories.lookup memoryId with
  | none => .error (.assistantConflict "memory_purge_stale")
  | some row =>
      ensure (row.status = .forgotten ∧ row.version = version)
        (.assistantConflict "memory_purge_stale")
      return commitPurge rules store memoryId version job.dedupeKey

/-! ## Runs -/

/-- The database, and the `project` calls between their two transactions. -/
structure MemoryWorld where
  store : MemoryStore
  reads : String → Option ProjectRead

def MemoryWorld.empty : MemoryWorld := ⟨MemoryStore.empty, fun _ => none⟩

/-- One transaction, with the clock readings, fresh ids and outside answers it meets. -/
inductive MemoryAction where
  | saveExplicit (now : IsoTime) (memoryId : String) (heapOrder : String → Nat)
      (guard : Except Failure Unit) (request : SaveRequest)
  | correct (now : IsoTime) (guard : Except Failure Unit) (request : CorrectRequest)
  | forget (now : IsoTime) (guard : Except Failure Unit) (request : ForgetRequest)
  | undoCreated (now : IsoTime) (guard : Except Failure Unit) (request : UndoRequest)
  | applyExtracted (now : IsoTime) (memoryId : String) (heapOrder : String → Nat)
      (request : ExtractRequest)
  | setAutoEnabled (enabled : Bool) (guard : Except Failure Unit)
  | projectRead (call memoryId : String) (version : Nat) (profileId : String)
      (job : ClaimedJob)
  | projectPublish (clock : Instant) (call vector : String)
  | purge (clock : Instant) (memoryId : String) (version : Nat) (job : ClaimedJob)
  /-- The scheduler sets the status and the lease of a job. -/
  | schedule (key : DedupeKey) (status : JobStatus) (lease : Lease String)
  /-- A message arrives in a thread of the space. -/
  | receive (message : SourceMessage)
  /-- The spaces that are enabled change. -/
  | enableSpaces (spaces : List Nat)

/-- The store after a transaction of the service. -/
def stepStore (rules : TextRules) (store : MemoryStore) : MemoryAction → MemoryStore
  | .saveExplicit now memoryId heapOrder guard request =>
      settled store (saveExplicit rules store now memoryId heapOrder guard request)
  | .correct now guard request => settled store (correct rules store now guard request)
  | .forget now guard request => settled store (forget rules store now guard request)
  | .undoCreated now guard request => settled store (undoCreated rules store now guard request)
  | .applyExtracted now memoryId heapOrder request =>
      settled store (applyExtracted rules store now memoryId heapOrder request)
  | .setAutoEnabled enabled guard => settled store (setAutoEnabled store enabled guard)
  | .purge clock memoryId version job =>
      (purge rules store clock memoryId version job).toOption.getD store
  | .schedule key status lease =>
      { store with
        jobs := store.jobs.modify key
          ⟨fun job => { job with status := status, lease := lease }, fun _ => rfl⟩ }
  | .receive message => { store with messages := store.messages.insert message }
  | .enableSpaces spaces => { store with enabledSpaces := spaces }
  | .projectRead .. | .projectPublish .. => store

/-- One step of the world. A call publishes at most once. -/
def stepMemory (rules : TextRules) (world : MemoryWorld) : MemoryAction → MemoryWorld
  | .projectRead call memoryId version profileId job =>
      match projectRead world.store memoryId version profileId job with
      | .ok (some read) => { world with reads := Function.update world.reads call (some read) }
      | _ => world
  | .projectPublish clock call vector =>
      match world.reads call with
      | none => world
      | some read =>
          { store := (projectPublish rules world.store clock read vector).toOption.getD
              world.store
            reads := Function.update world.reads call none }
  | action => { world with store := stepStore rules world.store action }

/-- A save of a user-wide preference by hand. -/
def plainSave (text operationKey : String) (sourceMessageIds : List String) : SaveRequest :=
  { text := text
    subjectKey := "habit"
    kind := "preference"
    scopeKind := "user"
    scopeId := none
    operationKey := operationKey
    sourceMessageIds := sourceMessageIds
    sourceExcerpt := ""
    pinned := false
    origin := .explicit
    validFrom := none
    expiresAt := none
    validityNote := ""
    validityTimezone := none
    statedText := none
    statedAt := none
    timeContext := none
    initialStatus := .active }

end Shiliu.Memory
