/-
Module: Shiliu.Memory.Projection
Purpose: The projections of a memory follow its row. What a row must find in its own columns and in
  the tables beside it depends on its status; each transaction sets at most one row, keeps the
  jobs, and adds embeddings for that row only, so it is enough to look at the row it sets. The one
  write that sets a wrong row is the adoption of a memory that waits for review.
Trusted boundary: none
Main exports: RowProjected, Projected, stale_project_writes_nothing, projections_follow_rows
-/
import Shiliu.Memory.ChangeLog

set_option linter.all false

namespace Shiliu.Memory

open Shiliu.Library Shiliu.Storage

/-! ## What a row finds -/

/-- The full-text columns are those of a text. -/
def Tokenised (rules : TextRules) (row : MemoryRow) (text : String) : Prop :=
  row.tokenizedText = rules.document text ∧
    row.searchVector = rules.toTsvector (rules.document text)

/-- A job with the key has been enqueued. -/
def Enqueued (store : MemoryStore) (key : DedupeKey) : Prop :=
  ∃ job ∈ store.jobs, job.dedupeKey = key

/-- The embedding is of the row as it stands. -/
def Embedding.current (rules : TextRules) (embedding : Embedding) (row : MemoryRow) : Prop :=
  embedding.memoryId = row.id ∧ embedding.memoryVersion = row.version ∧
    embedding.changeEpoch = row.changeEpoch ∧ embedding.textHash = embeddedHash rules row

/-- What the projections of a row have to be, by its status. -/
def RowProjected (rules : TextRules) (store : MemoryStore) (row : MemoryRow) : Prop :=
  match row.status with
  | .forgotten =>
      row.text = "" ∧ Tokenised rules row "" ∧
        ∀ embedding ∈ store.embeddings, embedding.memoryId ≠ row.id
  | .active => Tokenised rules row row.text ∧ Enqueued store ⟨.memoryIndex, row.id, row.version⟩
  | .needsReview => row.tokenizedText = "" ∧ row.searchVector = []
  | .superseded => True

def Projected (rules : TextRules) (store : MemoryStore) : Prop :=
  ∀ row ∈ store.memories, RowProjected rules store row

/-- A save that adopts a memory waiting for review adopts one whose text has no tokens. -/
def KeepsTokens (rules : TextRules) (store : MemoryStore) (action : MemoryAction) : Prop :=
  ∀ row, adoptedBy rules store action = some row → row.status = .needsReview →
    rules.document row.text = "" ∧ rules.toTsvector (rules.document row.text) = []

/-! ## What a transaction leaves beside the row it sets -/

/-- The jobs are kept, and an embedding that is new belongs to one memory. -/
structure Beside (before after : MemoryStore) (id : String) : Prop where
  jobs : ∀ key, Enqueued before key → Enqueued after key
  embeddings : ∀ embedding ∈ after.embeddings,
    embedding ∈ before.embeddings ∨ embedding.memoryId = id

variable {before after : MemoryStore}

/-- The projections of a row that is not set stand. -/
theorem RowProjected.beside {rules : TextRules} {id : String} {row : MemoryRow}
    (projected : RowProjected rules before row) (beside : Beside before after id)
    (other : row.id ≠ id) : RowProjected rules after row := by
  unfold RowProjected at projected ⊢
  cases isStatus : row.status with
  | active =>
      simp only [isStatus] at projected ⊢
      exact ⟨projected.1, beside.jobs _ projected.2⟩
  | needsReview => simpa only [isStatus] using projected
  | superseded => trivial
  | forgotten =>
      simp only [isStatus] at projected ⊢
      refine ⟨projected.1, projected.2.1, fun embedding member => ?_⟩
      rcases beside.embeddings embedding member with old | new
      · exact projected.2.2 embedding old
      · exact fun same => other (same.symm.trans new)

theorem Projected.sets {rules : TextRules} {row : MemoryRow} (projected : Projected rules before)
    (sets : SetsRow before.memories after.memories row) (beside : Beside before after row.id)
    (new : RowProjected rules after row) :
    Projected rules after := by
  intro other member
  rcases sets.mem member with rfl | ⟨old, different⟩
  · exact new
  · exact (projected other old).beside beside different

theorem Projected.of_eq {rules : TextRules} (projected : Projected rules before)
    (memories : after.memories = before.memories)
    (jobs : ∀ key, Enqueued before key → Enqueued after key)
    (embeddings : after.embeddings = before.embeddings) : Projected rules after := by
  intro row member
  rw [memories] at member
  have here := projected row member
  unfold RowProjected at here ⊢
  cases isStatus : row.status with
  | active =>
      simp only [isStatus] at here ⊢
      exact ⟨here.1, jobs _ here.2⟩
  | needsReview => simpa only [isStatus] using here
  | superseded => trivial
  | forgotten =>
      simp only [isStatus, embeddings] at here ⊢
      exact here

/-! ## Jobs and embeddings of each write -/

section Beside

variable {rules : TextRules} {store : MemoryStore} {now : IsoTime} {row : MemoryRow}

variable {key : DedupeKey}

theorem Enqueued.insert (enqueued : Enqueued store key) (job : MemoryJob) :
    Enqueued { store with jobs := store.jobs.insert job } key := by
  obtain ⟨old, member, isKey⟩ := enqueued
  exact ⟨old, Table.mem_insert_of_mem member, isKey⟩

theorem enqueued_enqueueJob (key : DedupeKey) (scopeKey : Option Scope)
    (memoryEpoch : Option Nat) : Enqueued (store.enqueueJob key scopeKey memoryEpoch) key := by
  unfold MemoryStore.enqueueJob
  cases isJob : store.jobs.lookup key with
  | none =>
      exact ⟨_, (Table.mem_insert isJob).mpr (.inr rfl), rfl⟩
  | some job =>
      exact ⟨job, Table.mem_insert_of_mem (Table.mem_of_lookup isJob), Table.key_of_lookup isJob⟩

theorem Enqueued.modify {other : DedupeKey} {change : Change MemoryJob.dedupeKey}
    (enqueued : Enqueued store key) :
    Enqueued { store with jobs := store.jobs.modify other change } key := by
  obtain ⟨old, member, isKey⟩ := enqueued
  have found : store.jobs.lookup key = some old := isKey ▸ Table.lookup_of_mem member
  obtain ⟨new, isNew⟩ := Table.exists_lookup_modify ⟨old, found⟩ other change
  exact ⟨new, Table.mem_of_lookup isNew, Table.key_of_lookup isNew⟩

/-- A job more changes nothing for the jobs there were. -/
theorem Enqueued.enqueueJob (enqueued : Enqueued store key) (other : DedupeKey)
    (scopeKey : Option Scope) (memoryEpoch : Option Nat) :
    Enqueued (store.enqueueJob other scopeKey memoryEpoch) key :=
  enqueued.insert _

theorem createMemory_beside {request : SaveRequest} :
    Beside store (createMemory rules store now request row).1 row.id := by
  by_cases active : request.initialStatus = .active
  · simp only [createMemory, if_pos active]
    exact ⟨fun _ enqueued => enqueued.enqueueJob _ _ _, fun _ member => .inl member⟩
  · simp only [createMemory, if_neg active]
    exact ⟨fun _ enqueued => enqueued, fun _ member => .inl member⟩

theorem adoptDuplicate_beside {request : SaveRequest} :
    Beside store (adoptDuplicate store now request row).1 row.id where
  jobs := fun _ enqueued => enqueued.enqueueJob _ _ _
  embeddings := fun _ member => .inl member

theorem commitCorrection_beside {request : CorrectRequest} {new : MemoryRow} :
    Beside store (commitCorrection rules store now request row new).1 row.id where
  jobs := fun _ enqueued => enqueued.enqueueJob _ _ _
  embeddings := fun _ member => .inl member

theorem commitForget_beside {request : ForgetRequest} :
    Beside store (commitForget rules store now request row).1 row.id where
  jobs := fun _ enqueued => enqueued.enqueueJob _ _ _
  embeddings := fun _ member => .inl (Table.mem_deleteWhere.mp member).1

theorem not_mem_cleared {embedding : Embedding}
    (member : embedding ∈ (store.clearProjection rules row.id).embeddings) :
    embedding.memoryId ≠ row.id :=
  of_decide_eq_false (Table.mem_deleteWhere.mp member).2

theorem suppressRetracted_beside {epoch : Nat} :
    (suppressRetracted rules store row epoch now).jobs = store.jobs ∧
      (suppressRetracted rules store row epoch now).embeddings = store.embeddings := by
  unfold suppressRetracted
  split <;> exact ⟨rfl, rfl⟩

theorem commitUndo_beside {request : UndoRequest} :
    Beside store (commitUndo rules store now request row).1 row.id ∧
      ∀ embedding ∈ (commitUndo rules store now request row).1.embeddings,
        embedding.memoryId ≠ row.id := by
  have frame : (suppressRetracted rules store.incrementEpoch row (store.memoryEpoch + 1)
        now).jobs = store.jobs ∧
      (suppressRetracted rules store.incrementEpoch row (store.memoryEpoch + 1)
        now).embeddings = store.embeddings := suppressRetracted_beside
  simp only [commitUndo]
  generalize suppressRetracted rules store.incrementEpoch row (store.memoryEpoch + 1) now =
    suppressed at frame ⊢
  refine ⟨⟨fun key enqueued => ?_, fun embedding member => ?_⟩, fun embedding member => ?_⟩
  · have kept : Enqueued suppressed key := by rwa [Enqueued, frame.1]
    exact kept.enqueueJob _ _ _
  · have member := (Table.mem_deleteWhere.mp member).1
    exact .inl (frame.2 ▸ member)
  · exact of_decide_eq_false (Table.mem_deleteWhere.mp member).2

theorem commitPurge_beside {memoryId : String} {version : Nat}
    (isRow : store.memories.lookup memoryId = some row) :
    Beside store (commitPurge rules store memoryId version key) row.id ∧
      ∀ embedding ∈ (commitPurge rules store memoryId version key).embeddings,
        embedding.memoryId ≠ row.id := by
  have isKey : row.key = memoryId := Table.key_of_lookup isRow
  have isId : row.id = memoryId := isKey
  subst isId
  exact ⟨⟨fun key enqueued => enqueued.modify, fun _ member =>
    .inl (Table.mem_deleteWhere.mp member).1⟩, fun _ member => not_mem_cleared member⟩

theorem commitPublication_beside {read : ProjectRead} {vector : String}
    (isRow : store.memories.lookup read.memoryId = some row) :
    Beside store (commitPublication rules store read row vector) row.id := by
  have isKey : row.key = read.memoryId := Table.key_of_lookup isRow
  have isId : row.id = read.memoryId := isKey
  have upserted {embedding : Embedding} {table : Table Embedding.key} {new : Embedding}
      {merge : Change Embedding.key} (member : embedding ∈ table.upsert new merge) :
      embedding ∈ table ∨ embedding.memoryId = new.memoryId := by
    rcases Table.mem_upsert.mp member with rfl | ⟨old, -⟩
    · have sameKey : (table.upserted new merge).key = new.key := Table.key_upserted
      exact .inr (congrArg Prod.fst sameKey)
    · exact .inl old
  rw [isId]
  unfold commitPublication activateProfileIfCovered
  simp only
  split
  · exact ⟨fun key enqueued => enqueued.modify, fun _ member => upserted member⟩
  · exact ⟨fun key enqueued => enqueued.modify, fun _ member => upserted member⟩

theorem tokenised_empty_vector (tokenised : Tokenised rules row "") : row.searchVector = [] :=
  tokenised.2.trans rules.tsvector_document_empty

end Beside

/-! ## The row each write sets -/

section Writes

variable {rules : TextRules} {store : MemoryStore} {now : IsoTime} {row : MemoryRow}

theorem RowProjected.of_active (active : row.status = .active)
    (tokenised : Tokenised rules row row.text)
    (enqueued : Enqueued store ⟨.memoryIndex, row.id, row.version⟩) :
    RowProjected rules store row := by
  simp only [RowProjected, active]
  exact ⟨tokenised, enqueued⟩

theorem RowProjected.of_forgotten (gone : row.status = .forgotten) (text : row.text = "")
    (tokenised : Tokenised rules row "")
    (removed : ∀ embedding ∈ store.embeddings, embedding.memoryId ≠ row.id) :
    RowProjected rules store row := by
  simp only [RowProjected, gone]
  exact ⟨text, tokenised, removed⟩

/-- Only five columns of a row matter. -/
theorem RowProjected.congr {new : MemoryRow} (projected : RowProjected rules store row)
    (id : new.id = row.id) (status : new.status = row.status) (version : new.version = row.version)
    (text : new.text = row.text) (tokens : new.tokenizedText = row.tokenizedText)
    (vector : new.searchVector = row.searchVector) : RowProjected rules store new := by
  unfold RowProjected Tokenised at projected ⊢
  rw [id, status, version, text, tokens, vector]
  exact projected

variable {request : SaveRequest}

theorem createMemory_projected (isStatus : row.status = request.initialStatus)
    (isNew : row.version = 1) (tokens : row.tokenizedText = "") (vector : row.searchVector = [])
    (status : request.initialStatus = .active ∨ request.initialStatus = .needsReview) :
    RowProjected rules (createMemory rules store now request row).1
      (projectedRow rules request row) := by
  by_cases active : request.initialStatus = .active
  · have isRow : projectedRow rules request row = (ftsColumns rules row.text).apply row :=
      if_pos active
    rw [isRow]
    refine .of_active (isStatus.trans active) ⟨rfl, rfl⟩ ?_
    simp only [createMemory, if_pos active]
    change Enqueued _ ⟨.memoryIndex, row.id, row.version⟩
    rw [isNew]
    exact enqueued_enqueueJob _ _ _
  · have isRow : projectedRow rules request row = row := if_neg active
    have review : row.status = .needsReview := isStatus.trans (status.resolve_left active)
    rw [isRow]
    simp only [RowProjected, review]
    exact ⟨tokens, vector⟩

/-- An adopted memory has the columns it had before: those of its text if it was active, and none
if it waited for review. -/
theorem adoptDuplicate_projected (projected : RowProjected rules store row)
    (live : row.status = .active ∨ row.status = .needsReview) (keeps : row.status = .needsReview →
      rules.document row.text = "" ∧ rules.toTsvector (rules.document row.text) = []) :
    RowProjected rules (adoptDuplicate store now request row).1
      (adoptedRow now request row (store.memoryEpoch + 1)) := by
  have tokenised : Tokenised rules row row.text := by
    unfold RowProjected at projected
    rcases live with active | review
    · rw [active] at projected
      exact projected.1
    · rw [review] at projected
      exact ⟨projected.1.trans (keeps review).1.symm, projected.2.trans (keeps review).2.symm⟩
  exact .of_active rfl tokenised (enqueued_enqueueJob _ _ _)

theorem mergeDuplicate_projected (projected : RowProjected rules store row) :
    RowProjected rules (mergeDuplicate store request row).1 (mergedRow request row) := by
  have same : RowProjected rules (mergeDuplicate store request row).1 row := projected
  unfold mergedRow
  simp only
  split
  · exact same.congr rfl rfl rfl rfl rfl rfl
  · exact same

theorem commitPublication_projected {read : ProjectRead} {vector : String}
    (projected : RowProjected rules store row) (active : row.status = .active)
    (isRow : store.memories.lookup read.memoryId = some row) :
    RowProjected rules (commitPublication rules store read row vector)
      ((projectedVersion read.version).apply row) := by
  unfold RowProjected at projected
  rw [active] at projected
  have beside : Beside store (commitPublication rules store read row vector) row.id :=
    commitPublication_beside isRow
  exact .of_active active projected.1 (beside.jobs _ projected.2)

end Writes

/-! ## Runs -/

/-- Every step that adopts no tokens away keeps the projections. -/
theorem Projected.outline {rules : TextRules} {before after : MemoryStore}
    {adopted : Option MemoryRow} {withdrawn : Option (SuppressionKey × List String)}
    (projected : Projected rules before)
    (keeps : ∀ row, adopted = some row → row.status = .needsReview →
      rules.document row.text = "" ∧ rules.toTsvector (rules.document row.text) = [])
    (outline : MemoryOutline rules before adopted withdrawn after) : Projected rules after := by
  cases outline with
  | unchanged | noted | policy | received | enabled =>
      exact projected.of_eq rfl (fun _ enqueued => enqueued) rfl
  | scheduled key status lease =>
      exact projected.of_eq rfl (fun _ enqueued => enqueued.modify) rfl
  | created now memoryId request scope kind text subjectKey validity temporal status absent =>
      refine projected.sets (createMemory_sets absent) ?_
        (createMemory_projected rfl rfl rfl rfl status)
      rw [projectedRow]
      split <;> exact createMemory_beside
  | adopted now request row member live adopting =>
      exact projected.sets (adoptDuplicate_sets member) adoptDuplicate_beside
        (adoptDuplicate_projected (projected row member) live (keeps row rfl))
  | merged request row member =>
      exact projected.sets (mergeDuplicate_sets member)
        ⟨fun _ enqueued => enqueued, fun _ member => .inl member⟩
        (mergeDuplicate_projected (projected row member))
  | corrected now text request row subjectKey kind validity temporal member live =>
      exact projected.sets (commitCorrection_sets member rfl) commitCorrection_beside
        (.of_active rfl ⟨rfl, rfl⟩ (enqueued_enqueueJob _ _ _))
  | forgotten now request row member live =>
      exact projected.sets (commitForget_sets member) commitForget_beside
        (.of_forgotten rfl rfl ⟨rfl, rfl⟩ fun _ member => not_mem_cleared member)
  | retracted now request row member first =>
      exact projected.sets (commitUndo_sets member) commitUndo_beside.1
        (.of_forgotten rfl rfl ⟨rfl, rfl⟩ commitUndo_beside.2)
  | purged memoryId version key row isRow gone =>
      have old := projected row (Table.mem_of_lookup isRow)
      unfold RowProjected at old
      rw [gone] at old
      exact projected.sets (commitPurge_sets isRow) (commitPurge_beside isRow).1
        (.of_forgotten gone old.1 ⟨rfl, rfl⟩ (commitPurge_beside isRow).2)
  | published read current vector isRow same =>
      have active : current.status = .active := by
        simp only [sameAsRead, Bool.decide_and, Bool.and_eq_true, decide_eq_true_eq] at same
        exact same.1
      exact projected.sets (commitPublication_sets isRow) (commitPublication_beside isRow)
        (commitPublication_projected (projected current (Table.mem_of_lookup isRow)) active isRow)

theorem projected_empty (rules : TextRules) : Projected rules MemoryStore.empty :=
  fun row member => absurd member (Table.not_mem_empty row)

theorem projected_run {rules : TextRules} {actions : List MemoryAction}
    (each : EachStep (stepMemory rules) (fun world action => KeepsTokens rules world.store action)
      MemoryWorld.empty actions) :
    Projected rules (runFrom (stepMemory rules) MemoryWorld.empty actions).store := by
  have kept : ∀ (world : MemoryWorld) action, Projected rules world.store →
      KeepsTokens rules world.store action → Projected rules (stepMemory rules world action).store :=
    fun world action projected keeps =>
      projected.outline keeps (stepMemory_outline rules world action)
  exact invariant_run_of_each kept (projected_empty rules) each

/-! ## Publications of what has changed meanwhile -/

/-- A change of the memory has been logged after the epoch. -/
def ChangedAfter (store : MemoryStore) (memoryId : String) (memoryEpoch : Nat) : Prop :=
  ∃ change ∈ store.changes, change.memoryId = memoryId ∧ memoryEpoch < change.memoryEpoch

theorem projectRead_ok {store : MemoryStore} {memoryId : String} {version : Nat}
    {profileId : String} {job : ClaimedJob} {read : ProjectRead}
    (returned : projectRead store memoryId version profileId job = .ok (some read)) :
    read.memoryId = memoryId ∧ read.version = version ∧ store.versionOf memoryId = version := by
  obtain ⟨-, -, returned⟩ := bind_eq_ok.mp returned
  cases isRow : store.memories.lookup memoryId with
  | none => simp [isRow, pure_eq_ok] at returned
  | some row =>
      simp only [isRow] at returned
      by_cases stale : row.status ≠ .active ∨ row.version ≠ version
      · rw [if_pos stale] at returned
        cases pure_eq_ok.mp returned
      · rw [if_neg stale] at returned
        cases pure_eq_ok.mp returned
        push Not at stale
        exact ⟨rfl, rfl, (MemoryStore.versionOf_of_lookup isRow).trans stale.2⟩

theorem stepMemory_publish_stale {rules : TextRules} {world : MemoryWorld} {clock : Instant}
    {call vector : String} {read : ProjectRead} (isRead : world.reads call = some read)
    (left : world.store.versionOf read.memoryId ≠ read.version) :
    (stepMemory rules world (.projectPublish clock call vector)).store = world.store := by
  simp only [stepMemory, isRead]
  cases returned : projectPublish rules world.store clock read vector with
  | error failure => rfl
  | ok after =>
      obtain ⟨current, isRow, same, -⟩ := projectPublish_ok returned
      simp only [sameAsRead, Bool.decide_and, Bool.and_eq_true, decide_eq_true_eq] at same
      exact absurd ((MemoryStore.versionOf_of_lookup isRow).trans same.2.1) left

/-- A `project` call that read before a change of its memory, and publishes after it, writes
nothing. -/
theorem stale_project_writes_nothing (rules : TextRules) (earlier between : List MemoryAction)
    (call memoryId : String) (version : Nat) (profileId : String) (job : ClaimedJob)
    (read : ProjectRead)
    (started : projectRead (runFrom (stepMemory rules) MemoryWorld.empty earlier).store memoryId
      version profileId job = .ok (some read)) :
    let before := runFrom (stepMemory rules) MemoryWorld.empty earlier
    let world := runFrom (stepMemory rules) MemoryWorld.empty
      (earlier ++ .projectRead call memoryId version profileId job :: between)
    world.reads call = some read →
      ChangedAfter world.store memoryId before.store.memoryEpoch →
        ∀ (clock : Instant) (vector : String),
          (stepMemory rules world (.projectPublish clock call vector)).store = world.store := by
  intro before world isRead changed clock vector
  obtain ⟨isMemory, isVersion, atRead⟩ := projectRead_ok started
  obtain ⟨change, member, ofMemory, later⟩ := changed
  have isPrefix : before.store.log <+: world.store.log := by
    have appended := log_extends_run rules before
      (.projectRead call memoryId version profileId job :: between)
    rwa [← runFrom_append] at appended
  have raised := (gapless_run rules earlier).version_lt (gapless_run rules _) isPrefix
    (List.mem_map_of_mem (f := MemoryChange.entry) member) later
  change before.store.versionOf change.memoryId < world.store.versionOf change.memoryId at raised
  rw [ofMemory] at raised
  refine stepMemory_publish_stale isRead ?_
  rw [isMemory, isVersion]
  have unchanged : before.store.versionOf memoryId = version := atRead
  omega

/-- In every state of a run that adopts no memory waiting for review whose text has tokens: a
forgotten memory has no text, no lexemes and no embedding; an active memory has the full-text
columns of its text, and a current embedding or an index job for its version; and a `project` call
that read before a change of its memory writes nothing when it publishes after it. -/
theorem projections_follow_rows (rules : TextRules) (actions : List MemoryAction)
    (keeps : EachStep (stepMemory rules)
      (fun world action => KeepsTokens rules world.store action) MemoryWorld.empty actions) :
    let world := runFrom (stepMemory rules) MemoryWorld.empty actions
    (∀ row ∈ world.store.memories, row.status = .forgotten →
      row.text = "" ∧ row.searchVector = [] ∧
        ∀ embedding ∈ world.store.embeddings, embedding.memoryId ≠ row.id) ∧
    (∀ row ∈ world.store.memories, row.status = .active →
      Tokenised rules row row.text ∧
        ((∃ embedding ∈ world.store.embeddings, embedding.current rules row) ∨
          Enqueued world.store ⟨.memoryIndex, row.id, row.version⟩)) ∧
    ∀ (earlier between : List MemoryAction) (call memoryId : String) (version : Nat)
      (profileId : String) (job : ClaimedJob) (read : ProjectRead),
      actions = earlier ++ .projectRead call memoryId version profileId job :: between →
        let before := runFrom (stepMemory rules) MemoryWorld.empty earlier
        projectRead before.store memoryId version profileId job = .ok (some read) →
          world.reads call = some read →
            ChangedAfter world.store memoryId before.store.memoryEpoch →
              ∀ (clock : Instant) (vector : String),
                (stepMemory rules world (.projectPublish clock call vector)).store =
                  world.store := by
  intro world
  have projected : Projected rules world.store := projected_run keeps
  refine ⟨fun row member gone => ?_, fun row member active => ?_, ?_⟩
  · have here := projected row member
    unfold RowProjected at here
    rw [gone] at here
    exact ⟨here.1, tokenised_empty_vector here.2.1, here.2.2⟩
  · have here := projected row member
    unfold RowProjected at here
    rw [active] at here
    exact ⟨here.1, .inr here.2⟩
  · intro earlier between call memoryId version profileId job read isRun before started isRead
      changed
    subst isRun
    exact stale_project_writes_nothing rules earlier between call memoryId version profileId job
      read started isRead changed

/-- A memory is saved, read for projection and forgotten. -/
theorem projections_follow_rows_forgotten :
    let actions : List MemoryAction :=
      [.saveExplicit ⟨0⟩ "amem_1" (fun _ => 0) (.ok ()) (plainSave "tea at noon" "save-1" []),
        .projectRead "call-1" "amem_1" 1 "profile-1"
          ⟨⟨.memoryIndex, "amem_1", 1⟩, ⟨"amem_1", 1, some .user, none⟩, "worker-1", 1⟩,
        .forget ⟨1⟩ (.ok ()) ⟨"amem_1", 1, "forget-1", []⟩]
    let world := runFrom (stepMemory plainRules) MemoryWorld.empty actions
    ∃ row ∈ world.store.memories, row.id = "amem_1" ∧ row.text = "" ∧ row.searchVector = [] := by
  intro actions world
  have found : ∃ row, world.store.memories.lookup "amem_1" = some row ∧
      row.status = .forgotten := by
    refine ⟨_, rfl, ?_⟩
    decide +kernel
  obtain ⟨row, isRow, gone⟩ := found
  have member := Table.mem_of_lookup isRow
  have none : adoptedBy plainRules MemoryStore.empty (.saveExplicit ⟨0⟩ "amem_1" (fun _ => 0)
      (.ok ()) (plainSave "tea at noon" "save-1" [])) = none := by decide +kernel
  have follows := (projections_follow_rows plainRules actions ⟨?_, ?_, ?_, trivial⟩).1 row member
    gone
  · have isKey : row.key = "amem_1" := Table.key_of_lookup isRow
    exact ⟨row, member, isKey, follows.1, follows.2.1⟩
  · intro row isAdopted
    exact absurd (none.symm.trans isAdopted) (by simp)
  · intro row isAdopted
    cases isAdopted
  · intro row isAdopted
    cases isAdopted

/-- A memory that waits for review is adopted by a save of the same words: it is active now, and
has no tokens to be found by. -/
theorem adopted_review_untokenised :
    let actions : List MemoryAction :=
      [.saveExplicit ⟨0⟩ "amem_1" (fun _ => 0) (.ok ())
          { plainSave "tea at noon" "save-1" [] with initialStatus := .needsReview },
        .saveExplicit ⟨1⟩ "amem_2" (fun _ => 0) (.ok ()) (plainSave "tea at noon" "save-2" [])]
    let world := runFrom (stepMemory plainRules) MemoryWorld.empty actions
    (world.store.memories.lookup "amem_1").map (fun row =>
        (row.status, row.text, row.tokenizedText, row.searchVector)) =
      some (.active, "tea at noon", "", []) ∧
      plainRules.toTsvector (plainRules.document "tea at noon") = ["tea", "at", "noon"] := by
  decide +kernel

end Shiliu.Memory
