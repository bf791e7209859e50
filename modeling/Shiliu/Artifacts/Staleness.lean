/-
Module: Shiliu.Artifacts.Staleness
Purpose: Descriptors are not pins. Every descriptor a process holds came from a preparation, so its
  identity was given to a file; identities are never given twice, so once the file is gone it stays
  gone and a publication of the descriptor raises and rolls its transaction back. With the
  invariant of the shared part this gives the whole contract of the store.
Trusted boundary: none
Main exports: Issued, step_issued, Gone, publish_of_gone, published_artifacts_resolve
-/
import Shiliu.Artifacts.Resolution

set_option linter.all false

namespace Shiliu.Artifacts

open Shiliu.Library Shiliu.Storage

/-! ## Where descriptors come from -/

def entryDescriptors (entries : List Entry) : List ObjectDescriptor :=
  entries.map Entry.descriptor

def BatchPhase.descriptors : BatchPhase → List ObjectDescriptor
  | .publishing _ remaining => entryDescriptors remaining
  | .refreshing _ refreshed remaining => entryDescriptors refreshed ++ entryDescriptors remaining
  | _ => []

def Batch.descriptors (batch : Batch) : List ObjectDescriptor :=
  entryDescriptors batch.entries ++ batch.phase.descriptors

/-- A process has the descriptor from a preparation. -/
def Issued (world : Workspace) (descriptor : ObjectDescriptor) : Prop :=
  descriptor ∈ world.prepared ∨
    ∃ id batch, world.batches id = some batch ∧ descriptor ∈ batch.descriptors

section Issue

variable {store : ArtifactStore} {world : Workspace} {descriptor : ObjectDescriptor}

variable {id : Nat} {batch : Batch} {preparation : Preparation} {failure : ArtifactFailure}

/-- The descriptors of a batch that is put in the place of another come from that one, or are
the one that is new. -/
theorem issued_setBatch (isNew : Prop) (issued : Issued (world.setBatch id batch) descriptor)
    (from_ : descriptor ∈ batch.descriptors →
      (∃ before, world.batches id = some before ∧ descriptor ∈ before.descriptors) ∨ isNew) :
    Issued world descriptor ∨ isNew := by
  rcases issued with direct | ⟨other, found, isFound, held⟩
  · exact Or.inl (Or.inl direct)
  · by_cases same : other = id
    · subst same
      obtain rfl : batch = found := by
        simpa [Workspace.setBatch] using isFound
      exact (from_ held).imp_left fun ⟨before, isBefore, inBefore⟩ =>
        Or.inr ⟨other, before, isBefore, inBefore⟩
    · simp only [Workspace.setBatch, Function.update_of_ne same] at isFound
      exact Or.inl (Or.inr ⟨other, found, isFound, held⟩)

/-- The same, where no descriptor is new. -/
theorem issued_of_setBatch {before : Batch} (issued : Issued (world.setBatch id batch) descriptor)
    (isBefore : world.batches id = some before)
    (kept : descriptor ∈ batch.descriptors → descriptor ∈ before.descriptors) :
    Issued world descriptor :=
  (issued_setBatch False issued fun held =>
    Or.inl ⟨before, isBefore, kept held⟩).resolve_right not_false

theorem mem_entryDescriptors_setEntry {entries : List Entry} {entry : Entry}
    (held : descriptor ∈ entryDescriptors (setEntry entries entry)) :
    descriptor ∈ entryDescriptors entries ∨ descriptor = entry.descriptor := by
  obtain ⟨found, member, rfl⟩ := List.mem_map.mp held
  unfold setEntry at member
  split at member
  · obtain ⟨other, isOther, rfl⟩ := List.mem_map.mp member
    split
    · exact Or.inr rfl
    · exact Or.inl (List.mem_map_of_mem isOther)
  · rcases List.mem_append.mp member with old | isNew
    · exact Or.inl (List.mem_map_of_mem old)
    · exact Or.inr (congrArg Entry.descriptor (List.mem_singleton.mp isNew))

theorem issued_deliver {delivered : ObjectDescriptor}
    (issued : Issued (world.deliver store preparation delivered) descriptor) :
    Issued world descriptor ∨ descriptor = delivered := by
  unfold Workspace.deliver at issued
  split at issued
  · rcases issued with direct | held
    · rcases List.mem_append.mp direct with old | isNew
      · exact Or.inl (Or.inl old)
      · exact Or.inr (List.mem_singleton.mp isNew)
    · exact Or.inl (Or.inr held)
  · split at issued
    · rename_i isBatch
      refine issued_setBatch _ issued fun held => ?_
      rcases List.mem_append.mp held with inEntries | inPhase
      · refine (mem_entryDescriptors_setEntry inEntries).imp_left fun old => ?_
        exact ⟨_, isBatch, List.mem_append_left _ old⟩
      · cases inPhase
    · exact Or.inl issued
  · split at issued
    · rename_i isBatch
      refine issued_setBatch _ issued fun held => ?_
      simp only [Batch.descriptors, BatchPhase.descriptors, entryDescriptors, List.mem_append,
        List.map_append, List.map_cons, List.map_nil, List.mem_singleton] at held
      rcases held with old | (old | isNew) | old
      · exact Or.inl ⟨_, isBatch, by simp [Batch.descriptors, entryDescriptors, old]⟩
      · exact Or.inl ⟨_, isBatch, by
          simp [Batch.descriptors, BatchPhase.descriptors, entryDescriptors, old]⟩
      · exact Or.inr isNew
      · exact Or.inl ⟨_, isBatch, by
          simp [Batch.descriptors, BatchPhase.descriptors, entryDescriptors, old]⟩
    · exact Or.inl issued

theorem descriptors_of_ended (phase : BatchPhase) (ended : phase.descriptors = [])
    (held : descriptor ∈ Batch.descriptors { batch with phase := phase }) :
    descriptor ∈ batch.descriptors := by
  rw [Batch.descriptors, ended, List.append_nil] at held
  exact List.mem_append_left _ held

theorem issued_refuse (issued : Issued (world.refuse preparation failure) descriptor) :
    Issued world descriptor := by
  unfold Workspace.refuse at issued
  split at issued
  · split at issued
    · rename_i isBatch
      exact issued_of_setBatch issued isBatch (descriptors_of_ended _ rfl)
    · exact issued
  · exact issued

theorem issued_startPreparation {requester : Requester} {content : Bytes} {mediaType : String}
    (issued : Issued (world.startPreparation requester content mediaType) descriptor) :
    Issued world descriptor := by
  unfold Workspace.startPreparation at issued
  split at issued
  · exact issued
  · exact issued

theorem descriptors_afterRollback (held : descriptor ∈ (batch.afterRollback failure).descriptors) :
    descriptor ∈ batch.descriptors := by
  unfold Batch.afterRollback at held
  split at held
  · split at held
    · rcases List.mem_append.mp held with inEntries | inPhase
      · exact List.mem_append_left _ inEntries
      · exact List.mem_append_left _ inPhase
    · exact descriptors_of_ended _ rfl held
  · exact held

theorem issued_rollBack (issued : Issued (world.rollBack failure) descriptor) :
    Issued world descriptor := by
  unfold Workspace.rollBack at issued
  split at issued
  · exact issued
  · exact issued
  · split at issued
    · rename_i isBatch
      exact issued_of_setBatch issued isBatch descriptors_afterRollback
    · exact issued
  · exact issued

theorem issued_commit (issued : Issued world.commit descriptor) : Issued world descriptor := by
  unfold Workspace.commit at issued
  split at issued
  · exact issued
  · exact issued
  · split at issued
    · rename_i isBatch
      refine issued_of_setBatch issued isBatch fun held => ?_
      exact descriptors_of_ended .returned rfl held
    · exact issued
  · split at issued
    · exact issued
    · exact issued
  · exact issued

theorem issued_publish {logicalKey version : String} {published : ObjectDescriptor}
    {videoId : Option Nat}
    (issued : Issued (world.publish store logicalKey version published videoId) descriptor) :
    Issued world descriptor := by
  unfold Workspace.publish at issued
  split at issued
  · split at issued
    · exact issued_rollBack issued
    · exact issued
  · exact issued

theorem issued_publishEntry (issued : Issued (world.publishEntry store) descriptor) :
    Issued world descriptor := by
  unfold Workspace.publishEntry at issued
  split at issued
  · split at issued
    · rename_i isBatch
      split at issued
      · exact issued_rollBack issued
      · split at issued
        · exact issued_rollBack issued
        · refine issued_of_setBatch issued isBatch fun held => ?_
          rcases List.mem_append.mp held with inEntries | inPhase
          · exact List.mem_append_left _ inEntries
          · exact List.mem_append_right _ (List.mem_cons_of_mem _ inPhase)
    · exact issued
  · exact issued

theorem issued_openBatch (issued : Issued (world.openBatch id) descriptor) :
    Issued world descriptor := by
  unfold Workspace.openBatch at issued
  split at issued
  · rename_i isBatch
    refine issued_of_setBatch issued isBatch fun held => ?_
    rcases List.mem_append.mp held with inEntries | inPhase
    · exact List.mem_append_left _ inEntries
    · exact List.mem_append_left _ inPhase
  · exact issued

theorem issued_refreshBatch (issued : Issued (world.refreshBatch id) descriptor) :
    Issued world descriptor := by
  unfold Workspace.refreshBatch at issued
  split at issued
  · rename_i isBatch
    refine issued_of_setBatch issued isBatch fun held => ?_
    rcases List.mem_append.mp held with inEntries | inPhase
    · exact List.mem_append_right _ (List.mem_append_left _ inEntries)
    · cases inPhase
  · exact issued_startPreparation issued
  · exact issued

theorem issued_collect {now : Instant} (issued : Issued (world.collect store id now) descriptor) :
    Issued world descriptor := by
  unfold Workspace.collect at issued
  split at issued
  · split at issued
    · exact issued
    · exact issued
    · exact issued
  · exact issued

theorem issued_unlink (issued : Issued world.unlink descriptor) : Issued world descriptor := by
  unfold Workspace.unlink at issued
  split at issued
  · split at issued
    · exact issued_rollBack issued
    · exact issued
  · exact issued

theorem issued_deleteRow (issued : Issued world.deleteRow descriptor) :
    Issued world descriptor := by
  unfold Workspace.deleteRow at issued
  split at issued
  · split at issued
    · exact issued_rollBack issued
    · exact issued
  · exact issued

/-- What a preparation of some bytes has found: a file under the name of the hash, with the
identity it had. -/
def Prepared (store : ArtifactStore) (world : Workspace) (descriptor : ObjectDescriptor) : Prop :=
  ∃ content file, descriptor.sha256 = store.sha256 content ∧
    descriptor.relativeKey = store.objectKey descriptor.sha256 ∧
      world.files descriptor.sha256 = some file ∧ descriptor.identity = file.identity

theorem prepareStep_returned {node : Inode}
    (isOutcome : store.prepareStep world.files node preparation = .returned descriptor) :
    Prepared store world descriptor := by
  cases isPhase : preparation.phase with
  | writing => simp [ArtifactStore.prepareStep, isPhase] at isOutcome
  | reading before opened =>
      simp only [ArtifactStore.prepareStep, isPhase] at isOutcome
      split at isOutcome
      · cases isOutcome
      · rename_i current isCurrent
        split at isOutcome
        · cases isOutcome
        · split at isOutcome
          · cases isOutcome
          · obtain rfl := PrepareOutcome.returned.inj isOutcome
            exact ⟨preparation.content, current, rfl, rfl, isCurrent, rfl⟩
  | _ =>
      simp only [ArtifactStore.prepareStep, isPhase] at isOutcome
      split at isOutcome <;> cases isOutcome

theorem issued_advance {node : Inode} (issued : Issued (world.advance store node) descriptor) :
    Issued world descriptor ∨ Prepared store world descriptor := by
  unfold Workspace.advance at issued
  split at issued
  · exact Or.inl issued
  · split at issued
    · exact Or.inl issued
    · split at issued
      · exact Or.inl issued
      · exact Or.inl issued
    · rename_i isOutcome
      refine (issued_deliver issued).imp_right fun same => ?_
      subst same
      exact prepareStep_returned isOutcome
    · exact Or.inl (issued_refuse issued)

/-- Every descriptor a process gets comes from a preparation that has just verified its file. -/
theorem step_issued {action : Action} (issued : Issued (step store world action) descriptor) :
    Issued world descriptor ∨ Prepared store world descriptor := by
  cases action with
  | advancePreparation node => exact issued_advance issued
  | prepare content mediaType => exact Or.inl (issued_startPreparation issued)
  | newBatch id videoId =>
      simp only [step] at issued
      split at issued
      · exact (issued_setBatch False issued fun held => by cases held).imp_right False.elim
      · exact Or.inl issued
  | save id name raw version mediaType =>
      simp only [step] at issued
      split at issued
      · exact Or.inl (issued_startPreparation issued)
      · exact Or.inl issued
  | crashPreparation => exact Or.inl issued
  | commitBatch id =>
      simp only [step] at issued
      split at issued
      · rename_i isBatch
        refine Or.inl (issued_of_setBatch issued isBatch fun held => ?_)
        exact descriptors_of_ended (.attempting 0) rfl held
      · exact Or.inl issued
  | refreshBatch id => exact Or.inl (issued_refreshBatch issued)
  | openBatch id => exact Or.inl (issued_openBatch issued)
  | publishEntry => exact Or.inl (issued_publishEntry issued)
  | openTransaction =>
      simp only [step] at issued
      split at issued
      · exact Or.inl issued
      · exact Or.inl issued
  | publish logicalKey version published videoId => exact Or.inl (issued_publish issued)
  | commit => exact Or.inl (issued_commit issued)
  | raise failure => exact Or.inl (issued_rollBack issued)
  | gc id dryRun graceSeconds candidates =>
      simp only [step] at issued
      split at issued
      · exact Or.inl issued
      · split at issued
        · exact Or.inl issued
        · exact Or.inl issued
  | collect id now => exact Or.inl (issued_collect issued)
  | unlink => exact Or.inl (issued_unlink issued)
  | deleteRow => exact Or.inl (issued_deleteRow issued)

end Issue

/-! ## Identities are given once -/

/-- A descriptor as `prepare` builds it, with an identity that was given to a file. -/
structure WellPrepared (store : ArtifactStore) (identities : List FileIdentity)
    (descriptor : ObjectDescriptor) : Prop where
  digest : isDigest descriptor.sha256
  key : descriptor.relativeKey = store.objectKey descriptor.sha256
  given : descriptor.identity ∈ identities

/-- The file the descriptor was prepared for is not there any more, or replaced. -/
def Gone (files : Directory) (descriptor : ObjectDescriptor) : Prop :=
  ∀ file, files descriptor.sha256 = some file → file.identity ≠ descriptor.identity

section Once

variable {store : ArtifactStore} {shared after : Shared} {descriptor : ObjectDescriptor}

theorem SharedMove.identities (move : SharedMove store shared after) :
    ∀ identity ∈ shared.identities, identity ∈ after.identities := by
  cases move with
  | create writing fresh => exact fun identity given => List.mem_cons_of_mem _ given
  | _ => exact fun identity given => given

/-- A file that is gone does not come back: what takes its place has an identity of its own. -/
theorem SharedMove.gone (move : SharedMove store shared after)
    (given : descriptor.identity ∈ shared.identities) (gone : Gone shared.files descriptor) :
    Gone after.files descriptor := by
  cases move with
  | create writing fresh =>
      intro other isOther same
      rcases of_update_some isOther with ⟨-, rfl⟩ | old
      · exact fresh (same ▸ given)
      · exact gone other old same
  | unlink held => exact fun other isOther => gone other (of_update_none isOther)
  | _ => exact gone

theorem recheck_of_gone {files : Directory} {identities : List FileIdentity}
    (prepared : WellPrepared store identities descriptor) (gone : Gone files descriptor) :
    store.recheck files descriptor = .error .prepareStale := by
  unfold ArtifactStore.recheck
  rw [ensure, if_pos prepared.digest, ensure, if_pos prepared.key]
  cases isFile : files descriptor.sha256 with
  | none => simp [bind, Except.bind]
  | some file =>
      have different : ¬descriptor.identity = file.identity := Ne.symm (gone file isFile)
      simp [bind, Except.bind, ensure, different]

/-- The publication of a descriptor whose file is gone raises before it writes anything. -/
theorem publish_of_gone {files : Directory} {identities : List FileIdentity}
    (prepared : WellPrepared store identities descriptor) (gone : Gone files descriptor)
    (database : ArtifactDatabase) (logicalKey version : String) (videoId : Option Nat) :
    store.publish files database logicalKey version descriptor videoId = .error .prepareStale := by
  rw [ArtifactStore.publish, recheck_of_gone prepared gone]
  rfl

end Once

/-! ## Runs -/

/-- A store no process is using, whose tables may have been imported. -/
structure Installed (store : ArtifactStore) (world : Workspace) : Prop where
  named : ∀ digest file, world.files digest = some file →
    store.sha256 file.bytes = digest ∧ file.identity ∈ world.identities
  resolves : Resolves store world.files world.database
  guard : world.guard = none
  preparing : world.preparing = none
  prepared : world.prepared = []
  batches : ∀ id, world.batches id = none

structure WorkspaceSound (store : ArtifactStore) (world : Workspace) : Prop where
  shared : (world.shared store).Sound store
  issued : ∀ descriptor, Issued world descriptor → WellPrepared store world.identities descriptor

/-- The transaction that had the guard is over and has committed nothing. -/
structure RolledBack (before after : Workspace) : Prop where
  database : after.database = before.database
  guard : after.guard = none

section Runs

variable {store : ArtifactStore} {world : Workspace}

theorem Installed.sound (installed : Installed store world) : WorkspaceSound store world where
  shared :=
    { named := installed.named
      place := by simp [Workspace.shared, installed.preparing]
      committed := installed.resolves
      working := by simp [Workspace.shared, installed.guard] }
  issued descriptor issued := by
    rcases issued with direct | ⟨id, batch, isBatch, -⟩
    · rw [installed.prepared] at direct
      cases direct
    · rw [installed.batches id] at isBatch
      cases isBatch

theorem WorkspaceSound.step (sound : WorkspaceSound store world) (action : Action) :
    WorkspaceSound store (step store world action) where
  shared := (step_sharedMove action).sound sound.shared
  issued descriptor issued := by
    have move : SharedMove store (world.shared store)
        ((Artifacts.step store world action).shared store) := step_sharedMove action
    have grows := move.identities
    rcases step_issued issued with old | ⟨content, file, digest, key, isFile, identity⟩
    · obtain ⟨isDigest, isKey, given⟩ := sound.issued descriptor old
      exact ⟨isDigest, isKey, grows _ given⟩
    · have given := (sound.shared.named _ file isFile).2
      exact ⟨digest ▸ store.hexdigest content, key, grows _ (identity ▸ given)⟩

theorem WorkspaceSound.run (sound : WorkspaceSound store world) (actions : List Action) :
    WorkspaceSound store (runFrom (Artifacts.step store) world actions) := by
  have kept : ∀ (world : Workspace) action, WorkspaceSound store world →
      WorkspaceSound store (Artifacts.step store world action) :=
    fun _ action sound => sound.step action
  exact invariant_run kept sound actions

/-- Whatever happens next, the committed versions are still there. -/
theorem WorkspaceSound.extends_run (sound : WorkspaceSound store world) (actions : List Action) :
    Extends world.database (runFrom (Artifacts.step store) world actions).database := by
  have kept : ∀ (now : Workspace) action,
      WorkspaceSound store now ∧ Extends world.database now.database →
        WorkspaceSound store (Artifacts.step store now action) ∧
          Extends world.database (Artifacts.step store now action).database :=
    fun now action ⟨soundNow, extended⟩ =>
      ⟨soundNow.step action,
        extended.trans ((step_sharedMove action).extends soundNow.shared)⟩
  exact (invariant_run kept ⟨sound, Extends.refl _⟩ actions).2

theorem gone_run {descriptor : ObjectDescriptor}
    (prepared : WellPrepared store world.identities descriptor)
    (gone : Gone world.files descriptor) (actions : List Action) :
    let late := runFrom (step store) world actions
    WellPrepared store late.identities descriptor ∧ Gone late.files descriptor := by
  have kept : ∀ (now : Workspace) action,
      WellPrepared store now.identities descriptor ∧ Gone now.files descriptor →
        WellPrepared store (step store now action).identities descriptor ∧
          Gone (step store now action).files descriptor := by
    intro now action ⟨preparedNow, goneNow⟩
    have move : SharedMove store (now.shared store)
        ((Artifacts.step store now action).shared store) := step_sharedMove action
    exact ⟨{ preparedNow with given := move.identities _ preparedNow.given },
      move.gone preparedNow.given goneNow⟩
  exact invariant_run kept ⟨prepared, gone⟩ actions

theorem WellPrepared.run {descriptor : ObjectDescriptor}
    (prepared : WellPrepared store world.identities descriptor) (actions : List Action) :
    WellPrepared store (runFrom (step store) world actions).identities descriptor := by
  have kept : ∀ (now : Workspace) action, WellPrepared store now.identities descriptor →
      WellPrepared store (step store now action).identities descriptor := by
    intro now action preparedNow
    have move : SharedMove store (now.shared store)
        ((Artifacts.step store now action).shared store) := step_sharedMove action
    exact { preparedNow with given := move.identities _ preparedNow.given }
  exact invariant_run kept prepared actions

theorem rollBack_rolledBack (failure : ArtifactFailure) :
    RolledBack world (world.rollBack failure) := by
  unfold Workspace.rollBack
  split
  · exact ⟨rfl, by assumption⟩
  · exact ⟨rfl, rfl⟩
  · split
    · exact ⟨rfl, rfl⟩
    · exact ⟨rfl, rfl⟩
  · exact ⟨rfl, rfl⟩

theorem publish_rolledBack {descriptor : ObjectDescriptor}
    (prepared : WellPrepared store world.identities descriptor)
    (gone : Gone world.files descriptor) {working : ArtifactDatabase} {logicalKey version : String}
    {videoId : Option Nat} (held : world.guard = some ⟨working, .caller⟩) :
    RolledBack world (step store world (.publish logicalKey version descriptor videoId)) := by
  simp only [step, Workspace.publish, held, publish_of_gone prepared gone]
  exact rollBack_rolledBack _

theorem publishEntry_rolledBack {entry : Entry}
    (prepared : WellPrepared store world.identities entry.descriptor)
    (gone : Gone world.files entry.descriptor) {working : ArtifactDatabase}
    {id videoId attempt : Nat} {entries remaining : List Entry}
    (held : world.guard = some ⟨working, .batch id⟩)
    (isBatch : world.batches id =
      some ⟨videoId, entries, .publishing attempt (entry :: remaining)⟩) :
    RolledBack world (step store world .publishEntry) := by
  simp only [step, Workspace.publishEntry, held, isBatch, publish_of_gone prepared gone]
  exact rollBack_rolledBack _

/-- Every interleaving of preparations, publications and collections from an installed store: what
is committed resolves; a binding keeps its object; and a descriptor whose file was gone at any
time since it was prepared raises where it is published and commits nothing, in a transaction of
its own or in a batch. -/
theorem published_artifacts_resolve {start : Workspace} (installed : Installed store start)
    (actions between later : List Action) :
    let world := runFrom (step store) start actions
    let collected := runFrom (step store) world between
    let late := runFrom (step store) collected later
    Resolves store world.files world.database ∧
      (∀ binding row, world.database.artifactVersions.lookup binding = some row →
        late.database.artifactVersions.lookup binding = some row) ∧
      ∀ descriptor, Issued world descriptor → Gone collected.files descriptor →
        (∀ working logicalKey version videoId,
          store.publish late.files working logicalKey version descriptor videoId =
            .error .prepareStale) ∧
        (∀ working logicalKey version videoId, late.guard = some ⟨working, .caller⟩ →
          RolledBack late (step store late (.publish logicalKey version descriptor videoId))) ∧
        ∀ working id videoId entries attempt entry remaining,
          late.guard = some ⟨working, .batch id⟩ →
            late.batches id =
              some ⟨videoId, entries, .publishing attempt (entry :: remaining)⟩ →
              entry.descriptor = descriptor →
                RolledBack late (step store late .publishEntry) := by
  intro world collected late
  have sound : WorkspaceSound store world := installed.sound.run actions
  refine ⟨sound.shared.committed, fun binding row isRow => ?_, fun descriptor issued gone => ?_⟩
  · obtain ⟨member, rfl⟩ := Table.lookup_eq_some.mp isRow
    have kept := (sound.run between).extends_run later
    exact Table.lookup_of_mem (kept row (sound.extends_run between row member))
  · obtain ⟨prepared, stillGone⟩ :=
      gone_run ((sound.issued descriptor issued).run between) gone later
    refine ⟨publish_of_gone prepared stillGone, ?_, ?_⟩
    · intro working logicalKey version videoId held
      exact publish_rolledBack prepared stillGone held
    · rintro working id videoId entries attempt entry remaining held isBatch rfl
      exact publishEntry_rolledBack prepared stillGone held isBatch

end Runs

/-! ## A prepared file is collected before it is published -/

/-- The hashes of the empty content and of the one version that is published. -/
def emptyContent : ArtifactStore where
  workspace := "w"
  sha256 _ := "e3b0c44298fc1c149afbf4c8996fb92427ae41e4649b934ca495991b7852b855"
  hexdigest _ := by decide
  artifactVersionId _ _ _ :=
    "artifact_8ad5405376a939a147b50f8a4b6e4fc945747b5895f610da1f16b594033c4c97"
  toTimestamp mtimeNs := mtimeNs / 1000

def unused : Workspace where
  files _ := none
  identities := []
  database := ⟨Table.empty _, Table.empty _, Table.empty _⟩
  guard := none
  preparing := none
  prepared := []
  batches _ := none
  passes _ := none

theorem installed_unused : Installed emptyContent unused where
  named := nofun
  resolves := ⟨nofun, nofun⟩
  guard := rfl
  preparing := rfl
  prepared := rfl
  batches _ := rfl

def emptyDescriptor : ObjectDescriptor :=
  { relativeKey := emptyContent.objectKey (emptyContent.sha256 [])
    sha256 := emptyContent.sha256 []
    byteSize := 0
    identity := ⟨1, 7, 0, 1000, 1000⟩
    mediaType := "image/jpeg" }

/-- Lock, look, rename, three system calls of the verification. -/
def prepareEmpty (node : Inode) : List Action :=
  .prepare [] "image/jpeg" :: List.replicate 5 (.advancePreparation node)

/-- The file is collected and prepared again before its first descriptor is published. -/
theorem published_artifacts_resolve_collected :
    let world := runFrom (step emptyContent) unused (prepareEmpty ⟨1, 7, 1000, 1000⟩)
    let collected := runFrom (step emptyContent) world
      [.gc 0 false 0 [⟨emptyDescriptor, 1000⟩], .collect 0 1000000, .unlink]
    let late := runFrom (step emptyContent) collected
      (.deleteRow :: .commit :: prepareEmpty ⟨1, 8, 2000, 2000⟩ ++ [.openTransaction])
    world.prepared = [emptyDescriptor] ∧ late.prepared.length = 2 ∧
      RolledBack late
        (step emptyContent late (.publish "video:1:cover.jpg" "v1" emptyDescriptor (some 1))) := by
  obtain ⟨-, -, stale⟩ := published_artifacts_resolve installed_unused
    (prepareEmpty ⟨1, 7, 1000, 1000⟩)
    [.gc 0 false 0 [⟨emptyDescriptor, 1000⟩], .collect 0 1000000, .unlink]
    (.deleteRow :: .commit :: prepareEmpty ⟨1, 8, 2000, 2000⟩ ++ [.openTransaction])
  have isPrepared : (runFrom (step emptyContent) unused
      (prepareEmpty ⟨1, 7, 1000, 1000⟩)).prepared = [emptyDescriptor] := by decide +kernel
  refine ⟨isPrepared, by decide +kernel, ?_⟩
  refine (stale emptyDescriptor (Or.inl ?_) ?_).2.1 _ _ _ _ rfl
  · exact isPrepared ▸ List.mem_singleton_self _
  · exact fun file isFile => nomatch isFile

end Shiliu.Artifacts
