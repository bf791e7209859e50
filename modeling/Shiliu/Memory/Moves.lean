/-
Module: Shiliu.Memory.Moves
Purpose: What the transactions of `MemoryService` can do to the database, said once. Each call that
  returns leaves one of the stores listed in `MemoryOutline`; the results about forgetting,
  projections and the change log are read off that list and never unfold a transaction again.
Trusted boundary: none
Main exports: saveTarget_ok, checkCorrection_ok, withdrawnBy, MemoryOutline, stepStore_outline
-/
import Shiliu.Memory.Service

set_option linter.all false

namespace Shiliu.Memory

open Shiliu.Library Shiliu.Storage

/-! ## What the checks of a call have found -/

section Targets

variable {rules : TextRules} {store : MemoryStore} {now : IsoTime} {memoryId : String}
  {heapOrder : String → Nat} {guard : Except Failure Unit}

/-- What a save does with its target is found where the checks ask the database. -/
theorem saveTarget_ok {request : SaveRequest} {target : SaveTarget}
    (found : saveTarget rules store now memoryId heapOrder guard request = .ok target) :
    (∃ prior, target = .replay prior) ∨
      (∃ scope text validity temporal row,
        duplicateOf rules store heapOrder scope text validity temporal = some row ∧
          target = .duplicate row) ∨
      ∃ scope kind text subjectKey validity temporal,
        (request.initialStatus = .active ∨ request.initialStatus = .needsReview) ∧
          store.memories.lookup memoryId = none ∧
          target = .fresh (createdRow now memoryId request scope kind text subjectKey validity
            temporal (store.memoryEpoch + 1)) := by
  obtain ⟨text, -, found⟩ := bind_eq_ok.mp found
  obtain ⟨subject, -, found⟩ := bind_eq_ok.mp found
  obtain ⟨scope, -, found⟩ := bind_eq_ok.mp found
  obtain ⟨kind, -, found⟩ := bind_eq_ok.mp found
  obtain ⟨status, found⟩ := ensure_then_eq_ok.mp found
  obtain ⟨⟨validity, temporal⟩, -, found⟩ := bind_eq_ok.mp found
  obtain ⟨-, -, found⟩ := bind_eq_ok.mp found
  obtain ⟨prior, -, found⟩ := bind_eq_ok.mp found
  cases prior with
  | some prior => exact .inl ⟨prior, (pure_eq_ok.mp found).symm⟩
  | none =>
      obtain ⟨-, -, found⟩ := bind_eq_ok.mp found
      cases isDuplicate : duplicateOf rules store heapOrder scope text validity temporal with
      | some row =>
          simp only [isDuplicate] at found
          exact .inr (.inl ⟨scope, text, validity, temporal, row, isDuplicate,
            (pure_eq_ok.mp found).symm⟩)
      | none =>
          simp only [isDuplicate] at found
          obtain ⟨absent, found⟩ := ensure_then_eq_ok.mp found
          exact .inr (.inr ⟨scope, kind, text, subject, validity, temporal,
            status, absent, (pure_eq_ok.mp found).symm⟩)

/-- A correction replaces a row that is not forgotten by its next version. -/
theorem checkCorrection_ok {text : String} {request : CorrectRequest} {row after : MemoryRow}
    (passed : checkCorrection rules store now text request = .ok (row, after)) :
    store.memories.lookup request.memoryId = some row ∧ row.status ≠ .forgotten ∧
      ∃ subjectKey kind validity temporal, after =
        correctedRow now row request text subjectKey kind validity temporal
          (store.memoryEpoch + 1) := by
  cases isRow : store.memories.lookup request.memoryId with
  | none => simp [checkCorrection, isRow] at passed
  | some found =>
      simp only [checkCorrection, isRow] at passed
      obtain ⟨-, -, passed⟩ := bind_eq_ok.mp passed
      obtain ⟨live, passed⟩ := ensure_then_eq_ok.mp passed
      obtain ⟨subject, -, passed⟩ := bind_eq_ok.mp passed
      obtain ⟨kind, -, passed⟩ := bind_eq_ok.mp passed
      obtain ⟨candidate, -, passed⟩ := bind_eq_ok.mp passed
      obtain ⟨temporal, -, passed⟩ := bind_eq_ok.mp passed
      obtain ⟨bounds, -, passed⟩ := bind_eq_ok.mp passed
      obtain ⟨validity, -, passed⟩ := bind_eq_ok.mp passed
      obtain ⟨-, -, passed⟩ := bind_eq_ok.mp passed
      obtain ⟨-, -, passed⟩ := bind_eq_ok.mp passed
      obtain ⟨rfl, rfl⟩ := Prod.mk.inj (pure_eq_ok.mp passed)
      exact ⟨rfl, live, subject, kind, validity, temporal, rfl⟩

theorem correctTarget_change {request : CorrectRequest} {row after : MemoryRow}
    (found : correctTarget rules store now guard request = .ok (.change row after)) :
    ∃ text, checkCorrection rules store now text request = .ok (row, after) := by
  obtain ⟨text, -, found⟩ := bind_eq_ok.mp found
  obtain ⟨-, -, found⟩ := bind_eq_ok.mp found
  obtain ⟨prior, -, found⟩ := bind_eq_ok.mp found
  cases prior with
  | some prior => cases pure_eq_ok.mp found
  | none =>
      obtain ⟨⟨row', after'⟩, passed, found⟩ := bind_eq_ok.mp found
      cases pure_eq_ok.mp found
      exact ⟨text, passed⟩

theorem forgetTarget_change {request : ForgetRequest} {row : MemoryRow}
    (found : forgetTarget store guard request = .ok (.change row)) :
    store.memories.lookup request.memoryId = some row ∧ row.status ≠ .forgotten := by
  obtain ⟨-, -, found⟩ := bind_eq_ok.mp found
  obtain ⟨prior, -, found⟩ := bind_eq_ok.mp found
  cases prior with
  | some prior => cases pure_eq_ok.mp found
  | none =>
      cases isRow : store.memories.lookup request.memoryId with
      | none => simp [isRow] at found
      | some other =>
          simp only [isRow] at found
          by_cases gone : other.status = .forgotten
          · rw [if_pos gone] at found
            cases pure_eq_ok.mp found
          · rw [if_neg gone] at found
            obtain ⟨-, -, found⟩ := bind_eq_ok.mp found
            obtain ⟨-, -, found⟩ := bind_eq_ok.mp found
            cases pure_eq_ok.mp found
            exact ⟨rfl, gone⟩

theorem creationForUndo_ok {request : UndoRequest} {row : MemoryRow} {created : MemoryChange}
    (found : creationForUndo store request = .ok (row, created)) :
    store.memories.lookup request.memoryId = some row ∧ row.version = 1 := by
  unfold creationForUndo at found
  simp only at found
  split at found
  · next isRow _ =>
      split at found
      · cases found
      · split_ifs at found with changed later
        obtain ⟨rfl, -⟩ := Prod.mk.inj (Except.ok.inj found)
        push Not at changed
        exact ⟨isRow, changed.2.1⟩
  · cases found

end Targets

/-- What a proposal comes to once the fences have let it pass, unless they settled it. -/
theorem extractTarget_ok {rules : TextRules} {store : MemoryStore} {request : ExtractRequest}
    {target : ExtractTarget} (found : extractTarget rules store request = .ok target) :
    (∃ result, target = .settled result) ∨
      ∃ scope text subjectKey,
        policyAllows store request.expectedAutoGeneration = true ∧
          isSuppressed rules store scope text request.sourceMessageIds = false ∧
          target = proposalTarget store request scope text subjectKey := by
  have settled {result : Option MemoryFacts}
      (done : pure (ExtractTarget.settled result) = (.ok target : Except Failure _)) :
      ∃ result, target = .settled result :=
    ⟨result, (pure_eq_ok.mp done).symm⟩
  obtain ⟨scope, -, found⟩ := bind_eq_ok.mp found
  by_cases noOp : noChange request.proposal = true
  · rw [if_pos noOp] at found
    exact .inl (settled found)
  rw [if_neg noOp] at found
  obtain ⟨text, -, found⟩ := bind_eq_ok.mp found
  obtain ⟨subject, -, found⟩ := bind_eq_ok.mp found
  by_cases implausible : implausibleDecision rules request.proposal = true
  · rw [if_pos implausible] at found
    exact .inl (settled found)
  rw [if_neg implausible] at found
  obtain ⟨-, -, found⟩ := bind_eq_ok.mp found
  obtain ⟨prior, -, found⟩ := bind_eq_ok.mp found
  cases prior with
  | some prior => exact .inl (settled found)
  | none =>
      obtain ⟨-, -, found⟩ := bind_eq_ok.mp found
      split_ifs at found with refused suppressed outdated
      · exact .inl (settled found)
      · exact .inl (settled found)
      · exact .inl (settled found)
      · exact .inr ⟨scope, text, subject, by simpa using refused, by simpa using suppressed,
          (pure_eq_ok.mp found).symm⟩

theorem extractTarget_add {rules : TextRules} {store : MemoryStore} {request : ExtractRequest}
    {inner : SaveRequest} (found : extractTarget rules store request = .ok (.add inner)) :
    inner.origin = .extracted := by
  rcases extractTarget_ok found with ⟨result, isAdd⟩ | ⟨scope, text, subjectKey, -, -, isAdd⟩
  · cases isAdd
  · unfold proposalTarget at isAdd
    split at isAdd
    · split at isAdd
      · cases isAdd
      · split at isAdd <;> cases isAdd
    · cases isAdd
      rfl

/-! ## What a call takes back -/

/-- The suppression key and the messages of the correction a call makes, if it makes one. -/
def correctionWithdraws (rules : TextRules) (store : MemoryStore) (now : IsoTime)
    (guard : Except Failure Unit) (request : CorrectRequest) :
    Option (SuppressionKey × List String) :=
  match correctTarget rules store now guard request with
  | .ok (.change row _) => some (suppressionKey rules row, row.sourceMessageIds)
  | _ => none

/-- The suppression key and the messages of the forget a call makes, if it makes one. A call that
finds the memory forgotten already, or that only replays a receipt, takes nothing back. -/
def forgetWithdraws (rules : TextRules) (store : MemoryStore) (guard : Except Failure Unit)
    (request : ForgetRequest) : Option (SuppressionKey × List String) :=
  match forgetTarget store guard request with
  | .ok (.change row) => some (suppressionKey rules row, forgottenSources row request)
  | _ => none

/-- What an extraction takes back: the fact it revises. -/
def extractionWithdraws (rules : TextRules) (store : MemoryStore) (now : IsoTime)
    (request : ExtractRequest) : Option (SuppressionKey × List String) :=
  match extractTarget rules store request with
  | .ok (.revise inner) => correctionWithdraws rules store now (.ok ()) inner
  | _ => none

/-- What a transaction takes back: the fact, by its suppression key, and its source messages. -/
def withdrawnBy (rules : TextRules) (store : MemoryStore) :
    MemoryAction → Option (SuppressionKey × List String)
  | .correct now guard request => correctionWithdraws rules store now guard request
  | .forget _ guard request => forgetWithdraws rules store guard request
  | .applyExtracted now _ _ request => extractionWithdraws rules store now request
  | _ => none

/-! ## What a transaction leaves -/

/-- The duplicate a `save_explicit` call adopts, if it adopts one. -/
def saveAdopts (rules : TextRules) (store : MemoryStore) (now : IsoTime) (memoryId : String)
    (heapOrder : String → Nat) (guard : Except Failure Unit) (request : SaveRequest) :
    Option MemoryRow :=
  match saveTarget rules store now memoryId heapOrder guard request with
  | .ok (.duplicate row) => if adopts request row then some row else none
  | _ => none

/-- The memory a transaction adopts, if it adopts one. Extractions adopt none. -/
def adoptedBy (rules : TextRules) (store : MemoryStore) : MemoryAction → Option MemoryRow
  | .saveExplicit now memoryId heapOrder guard request =>
      saveAdopts rules store now memoryId heapOrder guard request
  | _ => none

/-- The stores a transaction of the service, or a change around it, can leave, with the memory it
adopts and the fact it takes back. -/
inductive MemoryOutline (rules : TextRules) (before : MemoryStore) :
    Option MemoryRow → Option (SuppressionKey × List String) → MemoryStore → Prop where
  | unchanged : MemoryOutline rules before none none before
  | noted (operationKey : String) (operation : ReceiptOperation) (facts : MemoryFacts) :
      MemoryOutline rules before none none (before.saveReceipt operationKey operation facts)
  | created (now : IsoTime) (memoryId : String) (request : SaveRequest) (scope : Scope)
      (kind : MemoryKind) (text subjectKey : String) (validity : Validity)
      (temporal : Option TimeContext)
      (status : request.initialStatus = .active ∨ request.initialStatus = .needsReview)
      (absent : before.memories.lookup memoryId = none) :
      MemoryOutline rules before none none (createMemory rules before now request
        (createdRow now memoryId request scope kind text subjectKey validity temporal
          (before.memoryEpoch + 1))).1
  | adopted (now : IsoTime) (request : SaveRequest) (row : MemoryRow)
      (member : row ∈ before.memories)
      (live : row.status = .active ∨ row.status = .needsReview)
      (adopting : adopts request row = true) :
      MemoryOutline rules before (some row) none (adoptDuplicate before now request row).1
  | merged (request : SaveRequest) (row : MemoryRow) (member : row ∈ before.memories) :
      MemoryOutline rules before none none (mergeDuplicate before request row).1
  | corrected (now : IsoTime) (text : String) (request : CorrectRequest) (row : MemoryRow)
      (subjectKey : String) (kind : MemoryKind) (validity : Validity)
      (temporal : Option TimeContext) (member : row ∈ before.memories)
      (live : row.status ≠ .forgotten) :
      MemoryOutline rules before none (some (suppressionKey rules row, row.sourceMessageIds))
        (commitCorrection rules before now request row
          (correctedRow now row request text subjectKey kind validity temporal
            (before.memoryEpoch + 1))).1
  | forgotten (now : IsoTime) (request : ForgetRequest) (row : MemoryRow)
      (member : row ∈ before.memories) (live : row.status ≠ .forgotten) :
      MemoryOutline rules before none (some (suppressionKey rules row, forgottenSources row request))
        (commitForget rules before now request row).1
  | retracted (now : IsoTime) (request : UndoRequest) (row : MemoryRow)
      (member : row ∈ before.memories) (first : row.version = 1) :
      MemoryOutline rules before none none (commitUndo rules before now request row).1
  | purged (memoryId : String) (version : Nat) (key : DedupeKey) (row : MemoryRow)
      (isRow : before.memories.lookup memoryId = some row) (gone : row.status = .forgotten) :
      MemoryOutline rules before none none (commitPurge rules before memoryId version key)
  | published (read : ProjectRead) (current : MemoryRow) (vector : String)
      (isRow : before.memories.lookup read.memoryId = some current)
      (same : sameAsRead rules read current = true) :
      MemoryOutline rules before none none (commitPublication rules before read current vector)
  | policy (enabled : Bool) (generation : Int) :
      MemoryOutline rules before none none
        { before with autoMemoryEnabled := enabled, autoMemoryGeneration := generation }
  | scheduled (key : DedupeKey) (status : JobStatus) (lease : Lease String) :
      MemoryOutline rules before none none
        { before with
          jobs := before.jobs.modify key
            ⟨fun job => { job with status := status, lease := lease }, fun _ => rfl⟩ }
  | received (messages : Table SourceMessage.id) :
      MemoryOutline rules before none none { before with messages := messages }
  | enabled (spaces : List Nat) :
      MemoryOutline rules before none none { before with enabledSpaces := spaces }

section Outline

variable {rules : TextRules} {store : MemoryStore} {now : IsoTime} {memoryId : String}
  {heapOrder : String → Nat} {guard : Except Failure Unit}

/-- A property of the store that a refused call leaves alone is settled by the calls that
return. -/
theorem settled_of_ok {Result : Type*} {holds : MemoryStore → Prop} (before : holds store)
    {outcome : Except Failure (MemoryStore × Result)}
    (returned : ∀ after result, outcome = .ok (after, result) → holds after) :
    holds (settled store outcome) := by
  cases isOutcome : outcome with
  | error failure => exact before
  | ok pair => exact returned pair.1 pair.2 isOutcome

theorem saveExplicit_outline {request : SaveRequest} :
    MemoryOutline rules store (saveAdopts rules store now memoryId heapOrder guard request) none
      (settled store (saveExplicit rules store now memoryId heapOrder guard request)) := by
  unfold saveAdopts saveExplicit
  cases isTarget : saveTarget rules store now memoryId heapOrder guard request with
  | error failure => exact .unchanged
  | ok target =>
      change MemoryOutline rules store _ none (commitSave rules store now request target).1
      obtain ⟨prior, rfl⟩ | ⟨scope, text, validity, temporal, row, isRow, rfl⟩ |
        ⟨scope, kind, text, subjectKey, validity, temporal, status, absent, rfl⟩ :=
          saveTarget_ok isTarget
      · exact .unchanged
      · obtain ⟨member, -, -, live⟩ := duplicateOf_spec isRow
        by_cases adopting : adopts request row = true
        · simp only [commitSave, if_pos adopting]
          exact .adopted now request row member live adopting
        · simp only [commitSave, if_neg adopting]
          exact .merged request row member
      · exact .created now memoryId request scope kind text subjectKey validity temporal status
          absent

theorem correct_outline (request : CorrectRequest) :
    MemoryOutline rules store none (correctionWithdraws rules store now guard request)
      (settled store (correct rules store now guard request)) := by
  unfold correctionWithdraws correct
  cases isTarget : correctTarget rules store now guard request with
  | error failure => exact .unchanged
  | ok target =>
      cases target with
      | replay prior => exact .unchanged
      | change row corrected =>
          obtain ⟨text, passed⟩ := correctTarget_change isTarget
          obtain ⟨isRow, live, subjectKey, kind, validity, temporal, rfl⟩ :=
            checkCorrection_ok passed
          exact .corrected now text request row subjectKey kind validity temporal
            (Table.mem_of_lookup isRow) live

theorem forget_outline (request : ForgetRequest) :
    MemoryOutline rules store none (forgetWithdraws rules store guard request)
      (settled store (forget rules store now guard request)) := by
  unfold forgetWithdraws forget
  cases isTarget : forgetTarget store guard request with
  | error failure => exact .unchanged
  | ok target =>
      cases target with
      | replay prior => exact .unchanged
      | already row => exact .noted request.operationKey .memoryForget row.public_
      | change row =>
          obtain ⟨isRow, live⟩ := forgetTarget_change isTarget
          exact .forgotten now request row (Table.mem_of_lookup isRow) live

theorem undoCreated_outline {request : UndoRequest} {after : MemoryStore} {facts : MemoryFacts}
    (returned : undoCreated rules store now guard request = .ok (after, facts)) :
    MemoryOutline rules store none none after := by
  obtain ⟨-, -, returned⟩ := bind_eq_ok.mp returned
  obtain ⟨prior, -, returned⟩ := bind_eq_ok.mp returned
  cases prior with
  | some prior =>
      cases pure_eq_ok.mp returned
      exact .unchanged
  | none =>
      obtain ⟨⟨row, created⟩, found, returned⟩ := bind_eq_ok.mp returned
      obtain ⟨-, returned⟩ := ensure_then_eq_ok.mp returned
      obtain ⟨isRow, first⟩ := creationForUndo_ok found
      obtain rfl := congrArg Prod.fst (pure_eq_ok.mp returned)
      exact .retracted now request row (Table.mem_of_lookup isRow) first

theorem applyExtracted_outline (request : ExtractRequest) :
    MemoryOutline rules store none (extractionWithdraws rules store now request)
      (settled store (applyExtracted rules store now memoryId heapOrder request)) := by
  unfold extractionWithdraws applyExtracted
  cases isTarget : extractTarget rules store request with
  | error failure => exact .unchanged
  | ok target =>
      cases target with
      | settled result => exact .unchanged
      | revise inner =>
          have same : settled store (applyTarget rules store now memoryId heapOrder
              (.revise inner)) = settled store (correct rules store now (.ok ()) inner) :=
            settled_map _ _ _
          exact same ▸ correct_outline inner
      | add inner =>
          have same : settled store (applyTarget rules store now memoryId heapOrder
              (.add inner)) =
                settled store (saveExplicit rules store now memoryId heapOrder (.ok ()) inner) :=
            settled_map _ _ _
          have adoptsNone : saveAdopts rules store now memoryId heapOrder (.ok ()) inner = none := by
            unfold saveAdopts
            split
            · rw [if_neg (by simp [adopts, extractTarget_add isTarget])]
            · rfl
          exact same ▸ adoptsNone ▸ saveExplicit_outline

/-- A publication that goes through meets the row as it was read. -/
theorem projectPublish_ok {clock : Instant} {read : ProjectRead} {vector : String}
    {after : MemoryStore}
    (returned : projectPublish rules store clock read vector = .ok after) :
    ∃ current, store.memories.lookup read.memoryId = some current ∧
      sameAsRead rules read current = true ∧
      after = commitPublication rules store read current vector := by
  obtain ⟨-, -, returned⟩ := bind_eq_ok.mp returned
  cases isRow : store.memories.lookup read.memoryId with
  | none => simp [isRow] at returned
  | some current =>
      simp only [isRow] at returned
      obtain ⟨same, returned⟩ := ensure_then_eq_ok.mp returned
      exact ⟨current, rfl, same, (pure_eq_ok.mp returned).symm⟩

theorem purge_outline {clock : Instant} {version : Nat} {job : ClaimedJob} {after : MemoryStore}
    (returned : purge rules store clock memoryId version job = .ok after) :
    MemoryOutline rules store none none after := by
  obtain ⟨-, -, returned⟩ := bind_eq_ok.mp returned
  obtain ⟨-, -, returned⟩ := bind_eq_ok.mp returned
  cases isRow : store.memories.lookup memoryId with
  | none => simp [isRow] at returned
  | some row =>
      simp only [isRow] at returned
      obtain ⟨⟨gone, -⟩, returned⟩ := ensure_then_eq_ok.mp returned
      cases pure_eq_ok.mp returned
      exact .purged memoryId version job.dedupeKey row isRow gone

theorem stepStore_outline (action : MemoryAction) :
    MemoryOutline rules store (adoptedBy rules store action) (withdrawnBy rules store action)
      (stepStore rules store action) := by
  cases action with
  | saveExplicit now memoryId heapOrder guard request => exact saveExplicit_outline
  | correct now guard request => exact correct_outline request
  | forget now guard request => exact forget_outline request
  | undoCreated now guard request =>
      exact settled_of_ok .unchanged fun _ _ => undoCreated_outline
  | applyExtracted now memoryId heapOrder request => exact applyExtracted_outline request
  | setAutoEnabled enabled guard =>
      refine settled_of_ok .unchanged fun after result returned => ?_
      obtain ⟨-, -, returned⟩ := bind_eq_ok.mp returned
      cases pure_eq_ok.mp returned
      exact .policy _ _
  | projectRead call memoryId version profileId job => exact .unchanged
  | projectPublish clock call vector => exact .unchanged
  | purge clock memoryId version job =>
      cases returned : purge rules store clock memoryId version job with
      | error failure => simpa [stepStore, returned, Except.toOption] using .unchanged
      | ok after =>
          simpa [stepStore, returned, Except.toOption, adoptedBy, withdrawnBy] using
            purge_outline returned
  | schedule key status lease => exact .scheduled key status lease
  | receive message => exact .received _
  | enableSpaces spaces => exact .enabled spaces

end Outline

theorem stepMemory_outline (rules : TextRules) (world : MemoryWorld) (action : MemoryAction) :
    MemoryOutline rules world.store (adoptedBy rules world.store action)
      (withdrawnBy rules world.store action) (stepMemory rules world action).store := by
  cases action with
  | projectRead call memoryId version profileId job =>
      have same : (stepMemory rules world
          (.projectRead call memoryId version profileId job)).store = world.store := by
        simp only [stepMemory]
        split <;> rfl
      rw [same]
      exact .unchanged
  | projectPublish clock call vector =>
      cases isRead : world.reads call with
      | none =>
          simp only [stepMemory, isRead]
          exact .unchanged
      | some read =>
          simp only [stepMemory, isRead]
          cases returned : projectPublish rules world.store clock read vector with
          | error failure => exact .unchanged
          | ok after =>
              obtain ⟨current, isRow, same, rfl⟩ := projectPublish_ok returned
              exact .published read current vector isRow same
  | _ =>
      simp only [stepMemory]
      exact stepStore_outline _

/-! ## The rows a transaction leaves -/

/-- The table is as before but for one row. -/
def SetsRow (before after : Table MemoryRow.key) (row : MemoryRow) : Prop :=
  ∀ id, after.lookup id = if id = row.key then some row else before.lookup id

namespace SetsRow

variable {before after : Table MemoryRow.key} {row : MemoryRow}

theorem put (present : ∃ old, before.lookup row.key = some old) :
    SetsRow before (before.put row) row := by
  intro id
  obtain ⟨old, isOld⟩ := present
  by_cases same : id = row.key
  · rw [if_pos same, same, Table.lookup_put_self isOld]
  · rw [if_neg same, Table.lookup_put_of_ne same]

theorem insert (absent : before.lookup row.key = none) : SetsRow before (before.insert row) row := by
  intro id
  by_cases same : id = row.key
  · rw [if_pos same, same, Table.lookup_insert_self absent]
  · rw [if_neg same, Table.lookup_insert_of_ne (Ne.symm same)]

theorem modify (sets : SetsRow before after row) (change : Change MemoryRow.key) :
    SetsRow before (after.modify row.key change) (change.apply row) := by
  intro id
  rw [change.keeps]
  by_cases same : id = row.key
  · rw [if_pos same, same, Table.lookup_modify_self, sets, if_pos rfl, Option.map_some]
  · rw [if_neg same, Table.lookup_modify_of_ne same, sets, if_neg same]

theorem of_modify {key : String} {old : MemoryRow} (isOld : before.lookup key = some old)
    (change : Change MemoryRow.key) : SetsRow before (before.modify key change) (change.apply old) := by
  intro id
  rw [change.keeps, Table.key_of_lookup isOld]
  by_cases same : id = key
  · rw [if_pos same, same, Table.lookup_modify_self, isOld, Option.map_some]
  · rw [if_neg same, Table.lookup_modify_of_ne same]

theorem mem (sets : SetsRow before after row) {other : MemoryRow} (member : other ∈ after) :
    other = row ∨ (other ∈ before ∧ other.key ≠ row.key) := by
  have found := Table.lookup_of_mem member
  rw [sets] at found
  by_cases same : other.key = row.key
  · rw [if_pos same] at found
    exact .inl (Option.some.inj found).symm
  · rw [if_neg same] at found
    exact .inr ⟨Table.mem_of_lookup found, same⟩

end SetsRow

section Rows

variable {rules : TextRules} {store : MemoryStore} {now : IsoTime} {row : MemoryRow}

/-- The row `save_explicit` leaves behind: an active one is tokenised at once. -/
def projectedRow (rules : TextRules) (request : SaveRequest) (row : MemoryRow) : MemoryRow :=
  if request.initialStatus = .active then (ftsColumns rules row.text).apply row else row

theorem createMemory_sets {request : SaveRequest} (absent : store.memories.lookup row.key = none) :
    SetsRow store.memories (createMemory rules store now request row).1.memories
      (projectedRow rules request row) := by
  by_cases active : request.initialStatus = .active
  · simp only [createMemory, projectedRow, if_pos active]
    exact (SetsRow.insert absent).modify _
  · simp only [createMemory, projectedRow, if_neg active]
    exact SetsRow.insert absent

theorem adoptDuplicate_sets {request : SaveRequest} (member : row ∈ store.memories) :
    SetsRow store.memories (adoptDuplicate store now request row).1.memories
      (adoptedRow now request row (store.memoryEpoch + 1)) :=
  SetsRow.put ⟨row, Table.lookup_of_mem member⟩

theorem mergedRow_key (request : SaveRequest) : (mergedRow request row).key = row.key := by
  unfold mergedRow
  simp only
  split <;> rfl

theorem mergeDuplicate_sets {request : SaveRequest} (member : row ∈ store.memories) :
    SetsRow store.memories (mergeDuplicate store request row).1.memories
      (mergedRow request row) :=
  SetsRow.put ⟨row, by rw [mergedRow_key]; exact Table.lookup_of_mem member⟩

theorem commitCorrection_sets {request : CorrectRequest} {after : MemoryRow}
    (member : row ∈ store.memories) (sameKey : after.key = row.key) :
    SetsRow store.memories (commitCorrection rules store now request row after).1.memories
      ((ftsColumns rules after.text).apply after) := by
  have sets : SetsRow store.memories (store.memories.put after) after :=
    SetsRow.put ⟨row, by rw [sameKey]; exact Table.lookup_of_mem member⟩
  have tokenised := sets.modify (ftsColumns rules after.text)
  rwa [sameKey] at tokenised

theorem commitForget_sets {request : ForgetRequest} (member : row ∈ store.memories) :
    SetsRow store.memories (commitForget rules store now request row).1.memories
      ((ftsColumns rules "").apply (forgottenRow now row request (store.memoryEpoch + 1))) :=
  have sets : SetsRow store.memories
      (store.memories.put (forgottenRow now row request (store.memoryEpoch + 1)))
      (forgottenRow now row request (store.memoryEpoch + 1)) :=
    SetsRow.put ⟨row, Table.lookup_of_mem member⟩
  sets.modify (ftsColumns rules "")

theorem suppressRetracted_memories (epoch : Nat) :
    (suppressRetracted rules store row epoch now).memories = store.memories := by
  unfold suppressRetracted
  split <;> rfl

theorem commitUndo_sets {request : UndoRequest} (member : row ∈ store.memories) :
    SetsRow store.memories (commitUndo rules store now request row).1.memories
      ((ftsColumns rules "").apply (retractedRow now row (store.memoryEpoch + 1))) := by
  have sets : SetsRow store.memories
      (store.memories.put (retractedRow now row (store.memoryEpoch + 1)))
      (retractedRow now row (store.memoryEpoch + 1)) :=
    SetsRow.put ⟨row, Table.lookup_of_mem member⟩
  have cleared := sets.modify (ftsColumns rules "")
  have sameTable : (commitUndo rules store now request row).1.memories =
      ((suppressRetracted rules store.incrementEpoch row (store.memoryEpoch + 1) now).memories.put
        (retractedRow now row (store.memoryEpoch + 1))).modify row.id (ftsColumns rules "") := rfl
  rw [sameTable, suppressRetracted_memories]
  exact cleared

theorem commitPurge_sets {memoryId : String} {version : Nat} {key : DedupeKey}
    (isRow : store.memories.lookup memoryId = some row) :
    SetsRow store.memories (commitPurge rules store memoryId version key).memories
      ((projectedVersion version).apply ((ftsColumns rules "").apply row)) := by
  have cleared := SetsRow.of_modify isRow (ftsColumns rules "")
  have marked := cleared.modify (projectedVersion version)
  have isKey : row.key = memoryId := Table.key_of_lookup isRow
  have sameKey : ((ftsColumns rules "").apply row).key = memoryId := isKey
  rwa [sameKey] at marked

theorem activateProfile_memories (profileId : String) :
    (activateProfileIfCovered rules store profileId).memories = store.memories := by
  unfold activateProfileIfCovered
  split <;> rfl

theorem commitPublication_sets {read : ProjectRead} {vector : String}
    (isRow : store.memories.lookup read.memoryId = some row) :
    SetsRow store.memories (commitPublication rules store read row vector).memories
      ((projectedVersion read.version).apply row) := by
  have marked := SetsRow.of_modify isRow (projectedVersion read.version)
  simpa only [commitPublication, completeJob, activateProfile_memories] using marked

end Rows

end Shiliu.Memory
