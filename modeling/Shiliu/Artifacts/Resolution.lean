/-
Module: Shiliu.Artifacts.Resolution
Purpose: Published artifacts resolve. The part of a workspace that processes share is its files, its
  committed tables and the working copy under the guard; `SharedMove` lists what an action can do to
  it. Whatever the interleaving, a committed version refers to a file that hashes to its name and
  has the recorded size, keeps its object for ever, and a descriptor whose file is gone never
  publishes again.
Trusted boundary: none
Main exports: Resolves, SharedMove, step_sharedMove, Shared.Sound, Gone, published_artifacts_resolve
-/
import Shiliu.Artifacts.Processes

set_option linter.all false

namespace Shiliu.Artifacts

open Shiliu.Library Shiliu.Storage

/-! ## What the database promises about the files -/

/-- The object a version is bound to is recorded, and its file is there with these bytes. -/
def VersionResolves (store : ArtifactStore) (files : Directory) (database : ArtifactDatabase)
    (row : VersionRow) : Prop :=
  ∃ object ∈ database.artifactObjects, object.sha256 = row.objectSha256 ∧
    object.relativeKey = store.objectKey row.objectSha256 ∧
      ∃ file, files row.objectSha256 = some file ∧
        store.sha256 file.bytes = row.objectSha256 ∧ file.bytes.length = object.byteSize

def HeadPoints (database : ArtifactDatabase) (head : HeadRow) : Prop :=
  ∃ row ∈ database.artifactVersions,
    row.id = head.artifactVersionId ∧ row.logicalKey = head.logicalKey

structure Resolves (store : ArtifactStore) (files : Directory) (database : ArtifactDatabase) :
    Prop where
  versions : ∀ row ∈ database.artifactVersions, VersionResolves store files database row
  heads : ∀ head ∈ database.artifactHeads, HeadPoints database head

/-- Every version row is still there, as it was. -/
def Extends (before after : ArtifactDatabase) : Prop :=
  ∀ row ∈ before.artifactVersions, row ∈ after.artifactVersions

theorem Extends.refl (database : ArtifactDatabase) : Extends database database :=
  fun _ member => member

theorem Extends.trans {first second third : ArtifactDatabase} (one : Extends first second)
    (two : Extends second third) : Extends first third :=
  fun row member => two row (one row member)

section Reading

variable {store : ArtifactStore} {files : Directory} {database after : ArtifactDatabase}

theorem VersionResolves.mono {files' : Directory} {row : VersionRow}
    (resolves : VersionResolves store files database row)
    (objects : ∀ object ∈ database.artifactObjects, object.sha256 = row.objectSha256 →
      object ∈ after.artifactObjects)
    (kept : files' row.objectSha256 = files row.objectSha256) :
    VersionResolves store files' after row := by
  obtain ⟨object, isObject, digest, key, file, isFile, bytes⟩ := resolves
  exact ⟨object, objects object isObject digest, digest, key, file, kept.trans isFile, bytes⟩

theorem HeadPoints.mono {head : HeadRow} (points : HeadPoints database head)
    (extended : Extends database after) : HeadPoints after head := by
  obtain ⟨row, isRow, same⟩ := points
  exact ⟨row, extended row isRow, same⟩

/-! ## What a publication does -/

variable {descriptor : ObjectDescriptor}

theorem recheck_ok (passed : store.recheck files descriptor = .ok ()) :
    descriptor.relativeKey = store.objectKey descriptor.sha256 ∧
      ∃ file, files descriptor.sha256 = some file ∧
        file.bytes.length = descriptor.byteSize ∧ descriptor.identity = file.identity := by
  obtain ⟨-, passed⟩ := ensure_then_eq_ok.mp passed
  obtain ⟨key, passed⟩ := ensure_then_eq_ok.mp passed
  cases isFile : files descriptor.sha256 with
  | none => simp [isFile] at passed
  | some file =>
      simp only [isFile] at passed
      obtain ⟨size, identity⟩ := ensure_eq_ok.mp passed
      exact ⟨key, file, rfl, by rw [size, file.size_eq], identity⟩

theorem publishObject_ok (published : ArtifactStore.publishObject database descriptor = .ok after) :
    after.artifactVersions = database.artifactVersions ∧
      after.artifactHeads = database.artifactHeads ∧
      (∀ object ∈ database.artifactObjects, object ∈ after.artifactObjects) ∧
      ∃ object ∈ after.artifactObjects, object.sha256 = descriptor.sha256 ∧
        object.relativeKey = descriptor.relativeKey ∧ object.byteSize = descriptor.byteSize := by
  unfold ArtifactStore.publishObject at published
  cases isOld : database.artifactObjects.lookup descriptor.sha256 with
  | some old =>
      simp only [isOld] at published
      split at published
      · cases published
      · rename_i same
        obtain rfl := Except.ok.inj published
        rw [not_or, not_not, not_not] at same
        exact ⟨rfl, rfl, fun _ member => member, old, Table.mem_of_lookup isOld,
          Table.key_of_lookup isOld, same.1, same.2⟩
  | none =>
      simp only [isOld] at published
      split at published
      · cases published
      · obtain rfl := Except.ok.inj published
        have absent : database.artifactObjects.lookup
            (ObjectRow.sha256 (ArtifactStore.objectRow descriptor)) = none := isOld
        exact ⟨rfl, rfl, fun _ member => Table.mem_insert_of_mem member,
          ArtifactStore.objectRow descriptor, (Table.mem_insert absent).mpr (Or.inr rfl),
          rfl, rfl, rfl⟩

/-- A binding that is there already is one to the same object, and lends its identifier. -/
theorem versionIdentity_ok {logicalKey version identity : String} {videoId : Option Nat}
    {previous : VersionRow}
    (isPrevious : database.artifactVersions.lookup (logicalKey, version) = some previous)
    (found : store.versionIdentity database logicalKey version descriptor videoId =
      .ok identity) :
    previous.id = identity := by
  simp only [ArtifactStore.versionIdentity, isPrevious] at found
  split at found
  · split at found
    · cases found
    · exact Except.ok.inj found
  · rename_i same
    rw [not_or, not_not] at same
    exact same.1.trans (Except.ok.inj found)

theorem publishVersion_ok {row : VersionRow}
    (published : ArtifactStore.publishVersion database row = .ok after) :
    after.artifactObjects = database.artifactObjects ∧
      after.artifactHeads = database.artifactHeads ∧ Extends database after ∧
      (∀ other ∈ after.artifactVersions, other ∈ database.artifactVersions ∨ other = row) ∧
      ((∃ previous, database.artifactVersions.lookup row.binding = some previous) ∨
        row ∈ after.artifactVersions) := by
  unfold ArtifactStore.publishVersion at published
  cases isPrevious : database.artifactVersions.lookup row.binding with
  | some previous =>
      simp only [isPrevious] at published
      obtain rfl := Except.ok.inj published
      exact ⟨rfl, rfl, Extends.refl _, fun _ member => Or.inl member, Or.inl ⟨previous, rfl⟩⟩
  | none =>
      simp only [isPrevious] at published
      split at published
      · cases published
      · obtain rfl := Except.ok.inj published
        exact ⟨rfl, rfl, fun _ member => Table.mem_insert_of_mem member,
          fun _ member => (Table.mem_insert isPrevious).mp member,
          Or.inr ((Table.mem_insert isPrevious).mpr (Or.inr rfl))⟩

/-- A publication that returns has found the file of its descriptor, keeps every version and
leaves a database that resolves. -/
theorem publish_resolves (sound : ∀ digest file, files digest = some file →
      store.sha256 file.bytes = digest) (resolves : Resolves store files database)
    {logicalKey version ref : String} {videoId : Option Nat}
    (published : store.publish files database logicalKey version descriptor videoId =
      .ok (after, ref)) :
    Resolves store files after ∧ Extends database after := by
  obtain ⟨_, passed, published⟩ := bind_eq_ok.mp published
  obtain ⟨withObject, isObject, published⟩ := bind_eq_ok.mp published
  obtain ⟨identity, isIdentity, published⟩ := bind_eq_ok.mp published
  obtain ⟨withVersion, isVersion, published⟩ := bind_eq_ok.mp published
  obtain ⟨rfl, -⟩ := Prod.mk.inj (pure_eq_ok.mp published)
  obtain ⟨key, file, isFile, size, -⟩ := recheck_ok passed
  obtain ⟨sameVersions, sameHeads, keptObjects, object, inObjects, digest, objectKey, byteSize⟩ :=
    publishObject_ok isObject
  obtain ⟨sameObjects, sameHeads', extended, onlyNew, bound⟩ := publishVersion_ok isVersion
  have grown : Extends database withVersion := fun row isRow =>
    extended row (sameVersions ▸ isRow)
  refine ⟨⟨fun row isRow => ?_, fun head isHead => ?_⟩, grown⟩
  · rcases onlyNew row isRow with old | rfl
    · refine (resolves.versions row (sameVersions ▸ old)).mono (fun object member _ => ?_) rfl
      exact sameObjects.symm ▸ keptObjects object member
    · exact ⟨object, sameObjects.symm ▸ inObjects, digest, objectKey.trans key, file, isFile,
        sound _ file isFile, size.trans byteSize.symm⟩
  · rcases Table.mem_upsert.mp isHead with isNew | ⟨isOld, -⟩
    · have isPointed : head.artifactVersionId = identity ∧ head.logicalKey = logicalKey := by
        subst isNew
        refine ⟨?_, Table.key_upserted⟩
        cases isHead : withVersion.artifactHeads.lookup logicalKey with
        | none => rw [Table.upserted_of_absent isHead]
        | some present =>
            rw [Table.upserted_of_lookup isHead]
            rfl
      rw [HeadPoints, isPointed.1, isPointed.2]
      rcases bound with ⟨previous, isPrevious⟩ | isAdded
      · exact ⟨previous, extended previous (Table.mem_of_lookup isPrevious),
          versionIdentity_ok isPrevious isIdentity,
          congrArg Prod.fst (Table.key_of_lookup isPrevious)⟩
      · exact ⟨_, isAdded, rfl, rfl⟩
    · have wasHead : head ∈ database.artifactHeads := by
        rw [← sameHeads, ← sameHeads']
        exact isOld
      exact (resolves.heads head wasHead).mono grown

end Reading

/-! ## What an action does to what the processes share -/

/-- The name of the file a preparation is writing. -/
def Preparation.writing (store : ArtifactStore) (preparation : Preparation) : Option String :=
  match preparation.phase with
  | .writing => some (store.sha256 preparation.content)
  | _ => none

structure Shared where
  files : Directory
  identities : List FileIdentity
  writing : Option String
  database : ArtifactDatabase
  guard : Option Transaction

def Workspace.shared (store : ArtifactStore) (world : Workspace) : Shared where
  files := world.files
  identities := world.identities
  writing := world.preparing.bind (Preparation.writing store)
  database := world.database
  guard := world.guard

/-- What a transaction may start with: a collector has seen that no version refers to its
candidate. -/
def Role.MayOpen (database : ArtifactDatabase) : Role → Prop
  | .collector _ candidate stage =>
      stage = .judged ∧ ¬ArtifactStore.Referenced database candidate.descriptor.sha256
  | _ => True

/-- Whether a transaction publishes. -/
def Role.Publishes : Role → Prop
  | .collector _ _ _ => False
  | _ => True

inductive SharedMove (store : ArtifactStore) : Shared → Shared → Prop
  | stay (shared : Shared) : SharedMove store shared shared
  | idle (shared : Shared) : SharedMove store shared { shared with writing := none }
  | write (shared : Shared) {digest : String} (absent : shared.files digest = none) :
      SharedMove store shared { shared with writing := some digest }
  | create (shared : Shared) {file : File}
      (writing : shared.writing = some (store.sha256 file.bytes))
      (fresh : file.identity ∉ shared.identities) :
      SharedMove store shared
        { shared with
          files := Function.update shared.files (store.sha256 file.bytes) (some file)
          identities := file.identity :: shared.identities
          writing := none }
  | start (shared : Shared) {role : Role} (free : shared.guard = none)
      (may : role.MayOpen shared.database) :
      SharedMove store shared { shared with guard := some ⟨shared.database, role⟩ }
  | publish (shared : Shared) {working after : ArtifactDatabase} {role : Role}
      {logicalKey version ref : String} {descriptor : ObjectDescriptor} {videoId : Option Nat}
      (held : shared.guard = some ⟨working, role⟩) (publishes : role.Publishes)
      (published : store.publish shared.files working logicalKey version descriptor videoId =
        .ok (after, ref)) :
      SharedMove store shared { shared with guard := some ⟨after, role⟩ }
  | rollBack (shared : Shared) : SharedMove store shared { shared with guard := none }
  | commit (shared : Shared) {working : ArtifactDatabase} {role : Role}
      (held : shared.guard = some ⟨working, role⟩) :
      SharedMove store shared { shared with database := working, guard := none }
  | unlink (shared : Shared) {working : ArtifactDatabase} {pass : Nat} {candidate : GCCandidate}
      (held : shared.guard = some ⟨working, .collector pass candidate .judged⟩) :
      SharedMove store shared
        { shared with
          files := Function.update shared.files candidate.descriptor.sha256 none
          guard := some ⟨working, .collector pass candidate .unlinked⟩ }
  | deleteRow (shared : Shared) {working after : ArtifactDatabase} {pass : Nat}
      {candidate : GCCandidate}
      (held : shared.guard = some ⟨working, .collector pass candidate .unlinked⟩)
      (deleted : ArtifactStore.deleteObject working candidate.descriptor.sha256 = .ok after) :
      SharedMove store shared
        { shared with guard := some ⟨after, .collector pass candidate .deleted⟩ }

section Moves

variable {store : ArtifactStore} {world : Workspace}

@[simp] theorem shared_startPreparation (requester : Requester) (content : Bytes)
    (mediaType : String) :
    (world.startPreparation requester content mediaType).shared store = world.shared store := by
  unfold Workspace.startPreparation Workspace.shared
  cases isPreparing : world.preparing with
  | none => simp [Preparation.writing]
  | some preparation => simp [isPreparing]

@[simp] theorem shared_deliver (preparation : Preparation) (descriptor : ObjectDescriptor) :
    (world.deliver store preparation descriptor).shared store = world.shared store := by
  unfold Workspace.deliver
  split
  · rfl
  · split <;> rfl
  · split <;> rfl

@[simp] theorem shared_refuse (preparation : Preparation) (failure : ArtifactFailure) :
    (world.refuse preparation failure).shared store = world.shared store := by
  unfold Workspace.refuse
  split
  · split <;> rfl
  · rfl

/-- The part that is shared once the preparation has ended. -/
theorem shared_finished {after : Workspace} (same : after.shared store = world.shared store) :
    SharedMove store (world.shared store)
      (Workspace.shared store { after with preparing := none }) :=
  same ▸ SharedMove.idle (after.shared store)

variable {preparation : Preparation}

theorem prepareStep_proceed {files : Directory} {node : Inode} {phase : PreparePhase}
    (isOutcome : store.prepareStep files node preparation = .proceed phase) :
    phase ≠ .writing ∨
      phase = .writing ∧ files (store.sha256 preparation.content) = none := by
  cases isPhase : preparation.phase with
  | checking =>
      simp only [ArtifactStore.prepareStep, isPhase] at isOutcome
      split at isOutcome
      · exact Or.inl (PrepareOutcome.proceed.inj isOutcome ▸ nofun)
      · exact Or.inr ⟨(PrepareOutcome.proceed.inj isOutcome).symm, by assumption⟩
  | writing => simp [ArtifactStore.prepareStep, isPhase] at isOutcome
  | verifying =>
      simp only [ArtifactStore.prepareStep, isPhase] at isOutcome
      split at isOutcome
      · exact Or.inl (PrepareOutcome.proceed.inj isOutcome ▸ nofun)
      · cases isOutcome
  | opening before =>
      simp only [ArtifactStore.prepareStep, isPhase] at isOutcome
      split at isOutcome
      · exact Or.inl (PrepareOutcome.proceed.inj isOutcome ▸ nofun)
      · cases isOutcome
  | reading before opened =>
      simp only [ArtifactStore.prepareStep, isPhase] at isOutcome
      split at isOutcome
      · cases isOutcome
      · split at isOutcome
        · cases isOutcome
        · split at isOutcome <;> cases isOutcome

theorem prepareStep_created {files : Directory} {node : Inode} {file : File}
    (isOutcome : store.prepareStep files node preparation = .created file) :
    preparation.phase = .writing ∧ file = File.create preparation.content node := by
  cases isPhase : preparation.phase with
  | writing =>
      simp only [ArtifactStore.prepareStep, isPhase] at isOutcome
      exact ⟨rfl, (PrepareOutcome.created.inj isOutcome).symm⟩
  | reading before opened =>
      simp only [ArtifactStore.prepareStep, isPhase] at isOutcome
      split at isOutcome
      · cases isOutcome
      · split at isOutcome
        · cases isOutcome
        · split at isOutcome <;> cases isOutcome
  | _ =>
      simp only [ArtifactStore.prepareStep, isPhase] at isOutcome
      split at isOutcome <;> cases isOutcome

theorem writing_of_ne (different : preparation.phase ≠ .writing) :
    preparation.writing store = none := by
  unfold Preparation.writing
  split
  · exact absurd (by assumption) different
  · rfl

/-- Each system call of a preparation leaves the shared part as it is, but for the rename. -/
theorem advance_sharedMove (node : Inode) :
    SharedMove store (world.shared store) ((world.advance store node).shared store) := by
  unfold Workspace.advance
  cases isPreparing : world.preparing with
  | none => exact .stay _
  | some preparation =>
      cases isOutcome : store.prepareStep world.files node preparation with
      | proceed phase =>
          simp only [isOutcome]
          rcases prepareStep_proceed isOutcome with different | ⟨rfl, absent⟩
          · have idle : ({ preparation with phase := phase } : Preparation).writing store = none :=
              writing_of_ne different
            simpa [Workspace.shared, idle] using SharedMove.idle (world.shared store)
          · exact .write (world.shared store) absent
      | returned descriptor =>
          simp only [isOutcome]
          exact shared_finished (shared_deliver preparation descriptor)
      | raised failure =>
          simp only [isOutcome]
          exact shared_finished (shared_refuse preparation failure)
      | created file =>
          simp only [isOutcome]
          split
          · exact .stay _
          · rename_i fresh
            obtain ⟨isWriting, rfl⟩ := prepareStep_created isOutcome
            have writing : (world.shared store).writing = some (store.sha256 preparation.content) := by
              simp [Workspace.shared, isPreparing, Preparation.writing, isWriting]
            exact .create (world.shared store) writing fresh

theorem rollBack_sharedMove (failure : ArtifactFailure) :
    SharedMove store (world.shared store) ((world.rollBack failure).shared store) := by
  unfold Workspace.rollBack
  split
  · exact .stay _
  · exact .rollBack _
  · split
    · exact .rollBack _
    · exact .rollBack _
  · exact .rollBack _

theorem commit_sharedMove : SharedMove store (world.shared store) (world.commit.shared store) := by
  unfold Workspace.commit
  split
  · exact .stay _
  · rename_i held
    exact .commit (world.shared store) held
  · rename_i held
    split
    · exact .commit (world.shared store) held
    · exact .stay _
  · rename_i held
    split
    · exact .commit (world.shared store) held
    · exact .stay _
  · exact .stay _

theorem publish_sharedMove (logicalKey version : String) (descriptor : ObjectDescriptor)
    (videoId : Option Nat) :
    SharedMove store (world.shared store)
      ((world.publish store logicalKey version descriptor videoId).shared store) := by
  unfold Workspace.publish
  split
  · rename_i working held
    split
    · exact rollBack_sharedMove _
    · rename_i published
      exact .publish (world.shared store) held trivial published
  · exact .stay _

theorem publishEntry_sharedMove :
    SharedMove store (world.shared store) ((world.publishEntry store).shared store) := by
  unfold Workspace.publishEntry
  split
  · rename_i held
    split
    · split
      · exact rollBack_sharedMove _
      · rename_i published
        split
        · exact rollBack_sharedMove _
        · exact .publish (world.shared store) held trivial published
    · exact .stay _
  · exact .stay _

theorem openBatch_sharedMove (id : Nat) :
    SharedMove store (world.shared store) ((world.openBatch id).shared store) := by
  unfold Workspace.openBatch
  split
  · rename_i free _
    exact .start (world.shared store) free trivial
  · exact .stay _

/-- A candidate that is not kept has no version that refers to it. -/
theorem judge_none {files : Directory} {database : ArtifactDatabase} {now : Instant}
    {dryRun : Bool} {graceSeconds : Nat} {candidate : GCCandidate}
    (goesOn : store.judge files database now dryRun graceSeconds candidate = .ok none) :
    ¬ArtifactStore.Referenced database candidate.descriptor.sha256 := by
  unfold ArtifactStore.judge at goesOn
  split at goesOn
  · cases goesOn
  · cases goesOn
  · split at goesOn
    · cases goesOn
    · split at goesOn
      · cases goesOn
      · assumption

theorem collect_sharedMove (id : Nat) (now : Instant) :
    SharedMove store (world.shared store) ((world.collect store id now).shared store) := by
  unfold Workspace.collect
  split
  · rename_i free _
    split
    · exact .stay _
    · exact .stay _
    · rename_i goesOn
      exact .start (world.shared store) free ⟨rfl, judge_none goesOn⟩
  · exact .stay _

theorem unlink_sharedMove : SharedMove store (world.shared store) (world.unlink.shared store) := by
  unfold Workspace.unlink
  split
  · rename_i held
    split
    · exact rollBack_sharedMove _
    · exact .unlink (world.shared store) held
  · exact .stay _

theorem deleteRow_sharedMove :
    SharedMove store (world.shared store) (world.deleteRow.shared store) := by
  unfold Workspace.deleteRow
  split
  · rename_i held
    split
    · exact rollBack_sharedMove _
    · rename_i deleted
      exact .deleteRow (world.shared store) held deleted
  · exact .stay _

theorem refreshBatch_shared (id : Nat) : (world.refreshBatch id).shared store = world.shared store := by
  unfold Workspace.refreshBatch
  split
  · rfl
  · exact shared_startPreparation _ _ _
  · rfl

/-- What one action can do to the files and the tables. -/
theorem step_sharedMove (action : Action) :
    SharedMove store (world.shared store) ((step store world action).shared store) := by
  have unchanged {after : Workspace} (same : after.shared store = world.shared store) :
      SharedMove store (world.shared store) (after.shared store) := same ▸ SharedMove.stay _
  cases action with
  | prepare content mediaType => exact unchanged (shared_startPreparation _ _ _)
  | newBatch id videoId => exact unchanged (by simp only [step]; split <;> rfl)
  | save id name raw version mediaType =>
      exact unchanged (by
        simp only [step]
        split
        · exact shared_startPreparation _ _ _
        · rfl)
  | advancePreparation node => exact advance_sharedMove node
  | crashPreparation => exact shared_finished rfl
  | commitBatch id => exact unchanged (by simp only [step]; split <;> rfl)
  | refreshBatch id => exact unchanged (refreshBatch_shared id)
  | openBatch id => exact openBatch_sharedMove id
  | publishEntry => exact publishEntry_sharedMove
  | openTransaction =>
      simp only [step]
      split
      · rename_i free
        exact .start (world.shared store) free trivial
      · exact .stay _
  | publish logicalKey version descriptor videoId =>
      exact publish_sharedMove logicalKey version descriptor videoId
  | commit => exact commit_sharedMove
  | raise failure => exact rollBack_sharedMove failure
  | gc id dryRun graceSeconds candidates =>
      exact unchanged (by
        simp only [step]
        split
        · rfl
        · split <;> rfl)
  | collect id now => exact collect_sharedMove id now
  | unlink => exact unlink_sharedMove
  | deleteRow => exact deleteRow_sharedMove

end Moves

/-! ## What stays true of what the processes share -/

/-- The tables the open transaction will commit, seen from those that are committed. A collector has
left the versions alone, and none of them refers to its candidate. -/
def Role.Working (database working : ArtifactDatabase) : Role → Prop
  | .collector _ candidate _ =>
      working.artifactVersions = database.artifactVersions ∧
        ¬ArtifactStore.Referenced working candidate.descriptor.sha256
  | _ => True

structure Shared.Sound (store : ArtifactStore) (shared : Shared) : Prop where
  /-- A file has the name of its hash, and an identity that was given. -/
  named : ∀ digest file, shared.files digest = some file →
    store.sha256 file.bytes = digest ∧ file.identity ∈ shared.identities
  /-- The prepare lock keeps the place of a file that is being written. -/
  place : ∀ digest, shared.writing = some digest → shared.files digest = none
  committed : Resolves store shared.files shared.database
  working : ∀ working role, shared.guard = some ⟨working, role⟩ →
    Resolves store shared.files working ∧ Extends shared.database working ∧
      role.Working shared.database working

section Sound

variable {store : ArtifactStore} {files : Directory} {database working : ArtifactDatabase}
  {shared after : Shared}

variable {digest : String}

/-- A file of the directory is the new one or was there before. -/
theorem of_update_some {name : String} {file other : File}
    (isOther : Function.update files digest (some file) name = some other) :
    (name = digest ∧ other = file) ∨ files name = some other := by
  by_cases same : name = digest
  · subst same
    rw [Function.update_self] at isOther
    exact Or.inl ⟨rfl, (Option.some.inj isOther).symm⟩
  · rw [Function.update_of_ne same] at isOther
    exact Or.inr isOther

theorem of_update_none {name : String} {other : File}
    (isOther : Function.update files digest none name = some other) :
    files name = some other := by
  by_cases same : name = digest
  · subst same
    rw [Function.update_self] at isOther
    cases isOther
  · rwa [Function.update_of_ne same] at isOther

theorem Resolves.create (resolves : Resolves store files database) (absent : files digest = none)
    (file : File) :
    Resolves store (Function.update files digest (some file)) database where
  versions row isRow := by
    have found := resolves.versions row isRow
    refine found.mono (fun _ member _ => member) (Function.update_of_ne ?_ _ _)
    rintro rfl
    obtain ⟨_, -, -, -, _, isFile, -⟩ := found
    rw [absent] at isFile
    cases isFile
  heads := resolves.heads

theorem Resolves.unlink (resolves : Resolves store files database)
    (unreferenced : ¬ArtifactStore.Referenced database digest) :
    Resolves store (Function.update files digest none) database where
  versions row isRow :=
    (resolves.versions row isRow).mono (fun _ member _ => member)
      (Function.update_of_ne (fun same => unreferenced ⟨row, isRow, same⟩) _ _)
  heads := resolves.heads

theorem deleteObject_ok {database after : ArtifactDatabase}
    (deleted : ArtifactStore.deleteObject database digest = .ok after) :
    ¬ArtifactStore.Referenced database digest ∧
      after = { database with
        artifactObjects := database.artifactObjects.deleteWhere fun row => row.sha256 = digest } := by
  unfold ArtifactStore.deleteObject at deleted
  split at deleted
  · cases deleted
  · exact ⟨by assumption, (Except.ok.inj deleted).symm⟩

/-- Nor is its row. -/
theorem Resolves.deleteObject (resolves : Resolves store files database) {after : ArtifactDatabase}
    (deleted : ArtifactStore.deleteObject database digest = .ok after) :
    Resolves store files after := by
  obtain ⟨unreferenced, rfl⟩ := deleteObject_ok deleted
  refine ⟨fun row isRow => ?_, resolves.heads⟩
  refine (resolves.versions row isRow).mono (fun object member digestOf => ?_) rfl
  refine Table.mem_deleteWhere.mpr ⟨member, decide_eq_false fun same => ?_⟩
  exact unreferenced ⟨row, isRow, digestOf.symm.trans same⟩

/-- The invariant of every interleaving. -/
theorem SharedMove.sound (move : SharedMove store shared after) (sound : shared.Sound store) :
    after.Sound store := by
  cases move with
  | stay => exact sound
  | idle => exact { sound with place := nofun }
  | write absent => exact { sound with place := fun _ writing => Option.some.inj writing ▸ absent }
  | @create file writing fresh =>
      have absent := sound.place _ writing
      exact
        { named := fun digest other isOther => by
            rcases of_update_some isOther with ⟨rfl, rfl⟩ | old
            · exact ⟨rfl, List.mem_cons_self⟩
            · obtain ⟨named, known⟩ := sound.named digest other old
              exact ⟨named, List.mem_cons_of_mem _ known⟩
          place := nofun
          committed := sound.committed.create absent file
          working := fun working role held => by
            obtain ⟨resolves, rest⟩ := sound.working working role held
            exact ⟨resolves.create absent file, rest⟩ }
  | @start role free may =>
      refine { sound with working := fun working other held => ?_ }
      obtain ⟨rfl, rfl⟩ := Transaction.mk.inj (Option.some.inj held)
      refine ⟨sound.committed, Extends.refl _, ?_⟩
      cases role with
      | collector pass candidate stage => exact ⟨rfl, may.2⟩
      | _ => trivial
  | @publish working published role logicalKey version ref descriptor videoId held publishes ok =>
      refine { sound with working := fun now other isNow => ?_ }
      obtain ⟨rfl, rfl⟩ := Transaction.mk.inj (Option.some.inj isNow)
      obtain ⟨resolves, extended, -⟩ := sound.working working role held
      obtain ⟨resolves', extended'⟩ :=
        publish_resolves (fun digest file isFile => (sound.named digest file isFile).1) resolves ok
      refine ⟨resolves', extended.trans extended', ?_⟩
      cases role with
      | collector pass candidate stage => exact publishes.elim
      | _ => trivial
  | rollBack => exact { sound with working := nofun }
  | @commit working role held =>
      exact { sound with
        committed := (sound.working working role held).1
        working := nofun }
  | @unlink working pass candidate held =>
      obtain ⟨resolves, extended, sameVersions, unreferenced⟩ := sound.working _ _ held
      have unreferenced' :
          ¬ArtifactStore.Referenced shared.database candidate.descriptor.sha256 := by
        rwa [ArtifactStore.Referenced, sameVersions] at unreferenced
      exact
        { named := fun digest file isFile => sound.named digest file (of_update_none isFile)
          place := fun digest writing => by
            by_cases same : digest = candidate.descriptor.sha256
            · exact same ▸ Function.update_self _ _ _
            · exact (Function.update_of_ne same _ _).trans (sound.place digest writing)
          committed := sound.committed.unlink unreferenced'
          working := fun now other isNow => by
            obtain ⟨rfl, rfl⟩ := Transaction.mk.inj (Option.some.inj isNow)
            exact ⟨resolves.unlink unreferenced, extended, sameVersions, unreferenced⟩ }
  | @deleteRow working deletedFrom pass candidate held deleted =>
      obtain ⟨resolves, extended, sameVersions, unreferenced⟩ := sound.working _ _ held
      refine { sound with working := fun now other isNow => ?_ }
      obtain ⟨rfl, rfl⟩ := Transaction.mk.inj (Option.some.inj isNow)
      have kept := resolves.deleteObject deleted
      obtain ⟨-, rfl⟩ := deleteObject_ok deleted
      exact ⟨kept, extended, sameVersions, unreferenced⟩

/-- A committed version row stays as it is. -/
theorem SharedMove.extends (move : SharedMove store shared after) (sound : shared.Sound store) :
    Extends shared.database after.database := by
  cases move with
  | commit held => exact (sound.working _ _ held).2.1
  | _ => exact Extends.refl _

end Sound

end Shiliu.Artifacts
