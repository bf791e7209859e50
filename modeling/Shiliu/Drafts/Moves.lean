/-
Module: Shiliu.Drafts.Moves
Purpose: What one transaction of a draft command does to the revisions. It leaves them alone, inserts
  the first one, or appends the row its program counter stands for, under a command id that no
  revision has, to the revision it has read while that one is still the last. So the revisions of
  a draft are one chain, and what a call has read stays among them.
Trusted boundary: none
Main exports: DraftChain, DraftPc.held, RowsMove, stepDraft_outline, StepOutline.chain
-/
import Shiliu.Drafts.Commands
import Shiliu.Library.Chain

set_option linter.all false

namespace Shiliu.Drafts

open Shiliu.Library Shiliu.Research Shiliu.Knowledge

variable {rules : KnowledgeRules} {call : DraftCall} {store after : DraftStore} {answer : Answer}
  {pc : DraftPc} {next : DraftNext} {current row : DraftRevision} {new : NewRevision}

/-! ## The chain -/

/-- The revisions are numbered from one and each continues the one before; no two of them carry the
same command id, and each comes after the version its command expected. -/
structure DraftChain (store : DraftStore) : Prop where
  linked : Chain DraftRevision.version DraftRevision.parentRevisionId
    (fun row => some row.revisionId) 1 none store.revisions
  named : ∀ row ∈ store.revisions,
    row.draftId = store.draftId ∧ row.revisionId = revisionIdOf store.draftId row.version
  commands : (store.revisions.map DraftRevision.commandId).Nodup
  expected : ∀ row ∈ store.revisions, ∀ version ∈ row.payload.expectedVersion, version < row.version

theorem DraftChain.empty (draftId : Ident) (userId : String) :
    DraftChain (DraftStore.empty draftId userId) where
  linked := trivial
  named _ isRow := nomatch isRow
  commands := List.nodup_nil
  expected _ isRow := nomatch isRow

theorem DraftStore.version_le (isCurrent : store.current = some current)
    (isRow : row ∈ store.revisions) : row.version ≤ current.version :=
  List.le_of_mem_argmax isRow isCurrent

/-- What a row lookup finds is a row. -/
theorem DraftStore.mem_of_commandRow {commandId : String}
    (found : store.commandRow commandId = some row) :
    row ∈ store.revisions ∧ row.commandId = commandId :=
  ⟨List.mem_of_find?_eq_some found, by simpa using List.find?_some found⟩

theorem DraftStore.commandRow_add_of_ne {commandId : String} (different : row.commandId ≠ commandId) :
    (store.add row).commandRow commandId = store.commandRow commandId := by
  simp [DraftStore.commandRow, DraftStore.add, List.find?_append, different]

namespace DraftChain

variable (chain : DraftChain store)

include chain

theorem current_eq : store.current = store.revisions.getLast? := chain.linked.argmax

theorem mem_of_current (isCurrent : store.current = some current) : current ∈ store.revisions :=
  List.mem_of_getLast? (chain.current_eq.symm.trans isCurrent)

theorem current_of_version (isRow : current ∈ store.revisions)
    (sameVersion : store.current.map DraftRevision.version = some current.version) :
    store.current = some current := by
  obtain ⟨last, isLast, same⟩ := Option.map_eq_some_iff.mp sameVersion
  have distinct : (store.revisions.map DraftRevision.version).Nodup := by
    rw [chain.linked.numbers]
    exact List.nodup_range'
  obtain rfl := List.inj_on_of_nodup_map distinct (chain.mem_of_current isLast) isRow same
  exact isLast

theorem add (links : Chain DraftRevision.version DraftRevision.parentRevisionId
      (fun row => some row.revisionId) 1 none (store.revisions ++ [row]))
    (isNamed : row.draftId = store.draftId ∧ row.revisionId = revisionIdOf store.draftId row.version)
    (unused : store.commandRow row.commandId = none)
    (isExpected : ∀ version ∈ row.payload.expectedVersion, version < row.version) :
    DraftChain (store.add row) where
  linked := links
  named other isOther := by
    rcases List.mem_append.mp isOther with isOld | isNew
    · exact chain.named other isOld
    · rw [List.mem_singleton.mp isNew]
      exact isNamed
  commands := by
    rw [DraftStore.add, List.map_append, List.map_singleton]
    refine List.nodup_append.mpr ⟨chain.commands, List.nodup_singleton _, ?_⟩
    intro used isUsed other isOther same
    obtain ⟨old, isOld, rfl⟩ := List.mem_map.mp isUsed
    have absent := List.find?_eq_none.mp unused old isOld
    rw [List.mem_singleton.mp isOther] at same
    exact absent (decide_eq_true same)
  expected other isOther := by
    rcases List.mem_append.mp isOther with isOld | isNew
    · exact chain.expected other isOld
    · rw [List.mem_singleton.mp isNew]
      exact isExpected

theorem continued (isCurrent : store.current = some current)
    (unused : store.commandRow new.commandId = none)
    (isExpected : ∀ version ∈ new.payload.expectedVersion, version ≤ current.version) :
    DraftChain (store.add (new.row current)) := by
  have numbered := chain.linked.last_number
  rw [← chain.current_eq, isCurrent, Option.map_some, Option.getD_some] at numbered
  refine chain.add (Chain.concat.mpr ⟨chain.linked, ?_, ?_⟩) ?_ unused ?_
  · change current.version + 1 = _
    omega
  · rw [endOf, ← chain.current_eq, isCurrent]
    rfl
  · obtain ⟨sameId, -⟩ := chain.named current (chain.mem_of_current isCurrent)
    exact ⟨sameId, congrArg (revisionIdOf · _) sameId⟩
  · exact fun version isVersion => Nat.lt_succ_of_le (isExpected version isVersion)

end DraftChain

theorem DraftStore.current_add (chain : DraftChain (store.add row)) :
    (store.add row).current = some row := by
  rw [chain.current_eq]
  exact List.getLast?_concat

/-! ## What a call has read -/

/-- The revision a call appends to. -/
def DraftPc.held : DraftPc → Option DraftRevision
  | .replaying | .saving | .expecting => none
  | .checking current | .blocking current _ | .starting current | .previewing current
  | .publishing current _ _ _ | .confirming current _ | .cancelling current => some current
  | .materializing started | .failing started _ | .readying started _ _ => some started

def DraftNext.held : DraftNext → Option DraftRevision
  | .goto pc => pc.held
  | .returned revision => some revision
  | .raised _ => none

/-- A revision that a call may hold: it is there, and not before the version the call expected. -/
structure Readable (call : DraftCall) (store : DraftStore) (revision : DraftRevision) : Prop where
  isRow : revision ∈ store.revisions
  expected : ∀ version ∈ call.payload.expectedVersion, version ≤ revision.version

def Reads (call : DraftCall) (store : DraftStore) (held : Option DraftRevision) : Prop :=
  ∀ revision, held = some revision → Readable call store revision

theorem Reads.nothing : Reads call store none := fun _ isHeld => by cases isHeld

theorem Reads.ofRow (readable : Readable call store row) : Reads call store (some row) :=
  fun _ isHeld => Option.some.inj isHeld ▸ readable

/-- The revision a call is about to append, with the one it appends to. -/
def DraftPc.appends (call : DraftCall) (userId : String) :
    DraftPc → Option (DraftRevision × NewRevision)
  | .blocking current error => some (current, blocked call error)
  | .starting current => some (current, materializationStarted call)
  | .failing started failure => some (started, materializationFailed call failure)
  | .readying started taskId candidates =>
      some (started, materializationReady call taskId candidates)
  | .confirming current output => some (current, promotionConfirmed call output userId)
  | .cancelling current => some (current, cancelled call)
  | _ => none

theorem DraftPc.appends_spec {userId : String} (isAppend : pc.appends call userId = some (current, new)) :
    pc.held = some current ∧ new.payload = call.payload := by
  cases pc <;> cases isAppend <;> exact ⟨rfl, rfl⟩

theorem replayed_ok {payload : DraftPayload} {found : DraftRevision}
    (ran : replayed row payload = .ok found) : found = row ∧ row.payload = payload := by
  unfold replayed at ran
  split at ran
  · rename_i same
    cases ran
    exact ⟨rfl, same⟩
  · cases ran

/-- An append that returns has found the row of its command id, or continues the current
revision under an unused one. -/
theorem append_ok (appended : append store current new = .ok (after, row)) :
    (store.commandRow new.commandId = some row ∧ row.payload = new.payload ∧ after = store) ∨
      (store.commandRow new.commandId = none ∧
        store.current.map DraftRevision.version = some current.version ∧ row = new.row current ∧
        after = store.add row) := by
  unfold append at appended
  cases found : store.commandRow new.commandId with
  | some present =>
      simp only [found] at appended
      obtain ⟨other, isReplayed, same⟩ := map_eq_ok.mp appended
      obtain ⟨rfl, samePayload⟩ := replayed_ok isReplayed
      cases same
      exact .inl ⟨rfl, samePayload, rfl⟩
  | none =>
      simp only [found] at appended
      split at appended
      · rename_i isLatest
        cases appended
        exact .inr ⟨rfl, isLatest, rfl, rfl⟩
      · cases appended

theorem append_current (isCurrent : store.current = some current)
    (unused : store.commandRow new.commandId = none) :
    append store current new = .ok (store.add (new.row current), new.row current) := by
  unfold append
  rw [unused, isCurrent]
  exact if_pos rfl

theorem DraftChain.readable (chain : DraftChain store) (isRow : row ∈ store.revisions)
    (samePayload : row.payload = call.payload) : Readable call store row where
  isRow := isRow
  expected version isVersion := (chain.expected row isRow version (samePayload ▸ isVersion)).le

/-! ## One transaction -/

/-- What a transaction does to the revisions. -/
inductive RowsMove (call : DraftCall) (store : DraftStore) (pc : DraftPc) (after : DraftStore) : Prop
  | same (sameRows : after.revisions = store.revisions)
  | saved (command : SaveCommand) (isCall : call = .save command) (isPc : pc = .saving)
      (isFirst : store.current = none) (unused : store.commandRow command.commandId = none)
      (isAfter : after = store.add (command.row store.draftId))
  | appended (current : DraftRevision) (new : NewRevision)
      (isAppend : pc.appends call store.userId = some (current, new))
      (isCurrent : store.current = some current)
      (unused : store.commandRow new.commandId = none)
      (isAfter : after = store.add (new.row current))

/-- What a transaction leaves behind, and what its call holds afterwards. -/
structure StepOutline (call : DraftCall) (store : DraftStore) (pc : DraftPc) (after : DraftStore)
    (next : DraftNext) : Prop where
  sameDraft : after.draftId = store.draftId
  sameUser : after.userId = store.userId
  chain : DraftChain after
  rows : RowsMove call store pc after
  reads : Reads call after next.held

section Step

variable (chain : DraftChain store)

include chain

namespace StepOutline

/-- A transaction that only reads. -/
theorem read (reads : Reads call store next.held) : StepOutline call store pc store next where
  sameDraft := rfl
  sameUser := rfl
  chain := chain
  rows := .same rfl
  reads := reads

/-- A transaction that only reads, and that ends a call without a revision. -/
theorem silent (isSilent : next.held = none) : StepOutline call store pc store next :=
  .read chain (isSilent ▸ Reads.nothing)

theorem onTask (taskId : Ident) (task : TaskKnowledge) (reads : Reads call store next.held) :
    StepOutline call store pc (store.setTask taskId task) next where
  sameDraft := rfl
  sameUser := rfl
  chain := ⟨chain.linked, chain.named, chain.commands, chain.expected⟩
  rows := .same rfl
  reads revision isHeld := ⟨(reads revision isHeld).isRow, (reads revision isHeld).expected⟩

end StepOutline

theorem settleAppend_outline {answers : DraftRevision → DraftNext}
    (holds : Reads call store pc.held)
    (isAppend : pc.appends call store.userId = some (current, new))
    (keeps : ∀ row revision, (answers row).held = some revision → revision = row)
    (ran : settleAppend store answers (append store current new) = (after, next)) :
    StepOutline call store pc after next := by
  obtain ⟨isHeld, samePayload⟩ := DraftPc.appends_spec isAppend
  have readable := holds current isHeld
  cases appended : append store current new with
  | error failure =>
      rw [appended] at ran
      cases ran
      exact .silent chain rfl
  | ok done =>
      obtain ⟨middle, row⟩ := done
      rw [appended] at ran
      cases ran
      rcases append_ok appended with ⟨found, rowPayload, rfl⟩ | ⟨unused, isLatest, rfl, rfl⟩
      · refine .read chain fun revision isRevision => ?_
        rw [keeps row revision isRevision]
        exact chain.readable (DraftStore.mem_of_commandRow found).1 (rowPayload.trans samePayload)
      · have isCurrent := chain.current_of_version readable.isRow isLatest
        have expected : ∀ version ∈ new.payload.expectedVersion, version ≤ current.version :=
          samePayload ▸ readable.expected
        refine
          { sameDraft := rfl
            sameUser := rfl
            chain := chain.continued isCurrent unused expected
            rows := .appended current new isAppend isCurrent unused rfl
            reads := fun revision isRevision => ?_ }
        rw [keeps _ revision isRevision]
        exact ⟨List.mem_append_right _ (List.mem_singleton_self _),
          fun version isVersion => (readable.expected version isVersion).trans (Nat.le_succ _)⟩

theorem replay_outline
    (ran : settleRead store afterReplay (commandReplay store call.commandId call.payload) =
      (after, next)) : StepOutline call store pc after next := by
  unfold commandReplay at ran
  cases found : store.commandRow call.commandId with
  | none =>
      simp only [found, settleRead] at ran
      cases ran
      exact .silent chain rfl
  | some row =>
      simp only [found] at ran
      cases isReplayed : replayed row call.payload with
      | error failure =>
          rw [isReplayed] at ran
          cases ran
          exact .silent chain rfl
      | ok other =>
          rw [isReplayed] at ran
          cases ran
          obtain ⟨rfl, samePayload⟩ := replayed_ok isReplayed
          exact .read chain
            (.ofRow (chain.readable (DraftStore.mem_of_commandRow found).1 samePayload))

omit chain in
theorem expected_ok {version : Nat} (ran : expected store version = .ok current) :
    store.current = some current ∧ current.version = version := by
  unfold expected at ran
  cases isCurrent : store.current with
  | none => rw [isCurrent] at ran; cases ran
  | some found =>
      simp only [isCurrent] at ran
      split at ran
      · rename_i same
        cases ran
        exact ⟨rfl, same⟩
      · cases ran

omit chain in
theorem DraftCall.afterExpected_held {revision : DraftRevision}
    (isHeld : (call.afterExpected current).held = some revision) : revision = current := by
  unfold DraftCall.afterExpected at isHeld
  repeat' split at isHeld
  all_goals first | exact (Option.some.inj isHeld).symm | cases isHeld

theorem expected_outline {version : Nat} (isVersion : call.payload.expectedVersion = some version)
    (ran : settleRead store call.afterExpected (expected store version) = (after, next)) :
    StepOutline call store pc after next := by
  cases isExpected : expected store version with
  | error failure =>
      rw [isExpected] at ran
      cases ran
      exact .silent chain rfl
  | ok current =>
      rw [isExpected] at ran
      cases ran
      obtain ⟨isCurrent, sameVersion⟩ := expected_ok isExpected
      refine .read chain fun revision isHeld => ?_
      rw [DraftCall.afterExpected_held isHeld]
      refine ⟨chain.mem_of_current isCurrent, fun other isOther => ?_⟩
      rw [isVersion] at isOther
      exact (sameVersion.trans (Option.some.inj isOther)).ge

theorem save_outline {command : SaveCommand} (isCall : call = .save command)
    (ran : command.step store = (after, next)) : StepOutline call store .saving after next := by
  have readable : ∀ row ∈ store.revisions, Readable call store row := by
    intro row isRow
    subst isCall
    exact ⟨isRow, fun version isVersion => by cases isVersion⟩
  unfold SaveCommand.step at ran
  split at ran
  · cases ran
    exact .silent chain rfl
  · cases found : store.commandRow command.commandId with
    | some row =>
        simp only [found] at ran
        cases isReplayed : replayed row (DraftCall.save command).payload with
        | error failure =>
            rw [isReplayed] at ran
            cases ran
            exact .silent chain rfl
        | ok other =>
            rw [isReplayed] at ran
            cases ran
            obtain ⟨rfl, -⟩ := replayed_ok isReplayed
            exact .read chain (.ofRow (readable _ (DraftStore.mem_of_commandRow found).1))
    | none =>
        simp only [found] at ran
        cases isCurrent : store.current with
        | some existing =>
            simp only [isCurrent] at ran
            cases ran
            exact .read chain (.ofRow (readable _ (chain.mem_of_current isCurrent)))
        | none =>
            simp only [isCurrent] at ran
            cases ran
            have isEmpty : store.revisions = [] := List.argmax_eq_none.mp isCurrent
            have noVersion : ∀ version ∈ (command.row store.draftId).payload.expectedVersion,
                version < (command.row store.draftId).version :=
              fun version isVersion => by cases isVersion
            subst isCall
            exact
              { sameDraft := rfl
                sameUser := rfl
                chain := chain.add (by rw [isEmpty]; exact ⟨rfl, rfl, trivial⟩) ⟨rfl, rfl⟩ found
                  noVersion
                rows := .saved command rfl rfl isCurrent found rfl
                reads := .ofRow ⟨List.mem_append_right _ (List.mem_singleton_self _),
                  fun version isVersion => by cases isVersion⟩ }

theorem materialization_outline {started : DraftRevision} {materialized : Materialized}
    (holds : Reads call store (some started))
    (ran : afterMaterialization started store materialized = (after, next)) :
    StepOutline call store (.materializing started) after next := by
  cases materialized with
  | done taskId uses items =>
      simp only [afterMaterialization] at ran
      cases ran
      refine .onTask chain _ _ ?_
      split <;> exact holds
  | raised failure =>
      unfold afterMaterialization at ran
      split at ran
      · rename_i isDone
        cases isDone
      · cases ran
        exact .silent chain rfl
      · cases ran
        exact .read chain holds

omit chain in
theorem preview_held {revision : DraftRevision}
    (isHeld : (preview call store current).held = some revision) : revision = current := by
  unfold preview at isHeld
  cases isTask : current.materializationTaskId with
  | none =>
      rw [isTask] at isHeld
      cases isHeld
  | some taskId =>
      simp only [isTask] at isHeld
      split at isHeld
      · split at isHeld
        · exact (Option.some.inj isHeld).symm
        · cases isHeld
      · exact (Option.some.inj isHeld).symm

theorem checking_outline (holds : Reads call store (some current))
    (ran : stepDraft call rules store answer (.checking current) = (after, next)) :
    StepOutline call store (.checking current) after next := by
  simp only [stepDraft] at ran
  split at ran <;> cases ran
  · exact .read chain holds
  · exact .silent chain rfl
  · unfold ConfirmCommand.afterCheck
    split
    · exact .read chain holds
    · exact .silent chain rfl
  · exact .read chain holds

omit chain in
/-- A row that an append answers with is the row it holds. -/
theorem returned_held (row revision : DraftRevision)
    (isHeld : (DraftNext.returned row).held = some revision) : revision = row :=
  (Option.some.inj isHeld).symm

omit chain in
theorem materializing_held (row revision : DraftRevision)
    (isHeld : (DraftNext.goto (.materializing row)).held = some revision) : revision = row :=
  (Option.some.inj isHeld).symm

omit chain in
theorem raised_held (failure : DraftFailure) (row revision : DraftRevision)
    (isHeld : (DraftNext.raised failure).held = some revision) : revision = row := by
  cases isHeld

/-- Every transaction of every call. -/
theorem stepDraft_outline (holds : Reads call store pc.held)
    (ran : stepDraft call rules store answer pc = (after, next)) :
    StepOutline call store pc after next := by
  cases pc with
  | replaying =>
      simp only [stepDraft] at ran
      split at ran
      · split at ran
        · exact replay_outline chain ran
        · cases ran
          exact .silent chain rfl
      · exact replay_outline chain ran
  | saving =>
      simp only [stepDraft] at ran
      split at ran
      · exact save_outline chain rfl ran
      · cases ran
        exact .silent chain rfl
  | expecting =>
      simp only [stepDraft] at ran
      split at ran
      · cases ran
        exact .silent chain rfl
      all_goals exact expected_outline chain rfl ran
  | checking current => exact checking_outline chain holds ran
  | blocking current error =>
      exact settleAppend_outline chain holds rfl (raised_held (.draft error)) ran
  | starting current => exact settleAppend_outline chain holds rfl materializing_held ran
  | materializing started => exact materialization_outline chain holds ran
  | failing started failure =>
      exact settleAppend_outline chain holds rfl (raised_held failure) ran
  | readying started taskId candidates =>
      exact settleAppend_outline chain holds rfl returned_held ran
  | previewing current =>
      cases ran
      exact .read chain fun revision isHeld => preview_held isHeld ▸ holds current rfl
  | publishing current taskId request pc =>
      simp only [stepDraft] at ran
      cases ran
      refine .onTask chain _ _ ?_
      unfold afterPublication
      split
      · exact holds
      · exact holds
      · exact .nothing
  | confirming current output => exact settleAppend_outline chain holds rfl returned_held ran
  | cancelling current => exact settleAppend_outline chain holds rfl returned_held ran

end Step

end Shiliu.Drafts
