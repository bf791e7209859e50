/-
Module: Shiliu.Artifacts.Store
Purpose: The artifact store: immutable files named by the hash of their bytes, and the three tables
  that bind logical keys and versions to them. What one call does under the workspace guard is
  here: the recheck of a prepared file, the publication of a version, and what a collection finds
  out about a candidate. Hashing and the reading of a modification time are parameters.
Trusted boundary: none
Main exports: File, ObjectDescriptor, ArtifactDatabase, recheck, publish, judge, deleteObject
-/
import Shiliu.Library.Table
import Shiliu.Library.Outcome
import Shiliu.Storage.Basic

namespace Shiliu.Artifacts

open Shiliu.Library Shiliu.Storage

abbrev Bytes := List UInt8

/-- The exceptions of the store, with the texts they carry. -/
inductive ArtifactFailure where
  | artifactError (code : String)
  | prepareStale
  | fileNotFound
  | valueError (message : String)
  /-- The database refuses a second row with a unique value. -/
  | uniqueViolation
  | foreignKeyViolation
  /-- Whatever a caller's own code raises. -/
  | caller
deriving DecidableEq

/-! ## Files -/

structure FileIdentity where
  device : Nat
  inode : Nat
  size : Nat
  mtimeNs : Nat
  ctimeNs : Nat
deriving DecidableEq

/-- A regular file. Nothing writes to it once it has its name. -/
structure File where
  bytes : Bytes
  identity : FileIdentity
  size_eq : identity.size = bytes.length

/-- The directory `objects`, by file name. -/
abbrev Directory := String → Option File

/-- What the file system chooses when a file is created. -/
structure Inode where
  device : Nat
  inode : Nat
  mtimeNs : Nat
  ctimeNs : Nat

def File.create (bytes : Bytes) (node : Inode) : File where
  bytes := bytes
  identity :=
    { device := node.device
      inode := node.inode
      size := bytes.length
      mtimeNs := node.mtimeNs
      ctimeNs := node.ctimeNs }
  size_eq := rfl

structure ObjectDescriptor where
  relativeKey : String
  sha256 : String
  byteSize : Nat
  identity : FileIdentity
  mediaType : String := "application/octet-stream"
deriving DecidableEq

structure GCCandidate where
  descriptor : ObjectDescriptor
  mtimeNs : Nat

/-! ## Rows -/

structure ObjectRow where
  sha256 : String
  relativeKey : String
  byteSize : Nat
  mediaType : String

structure VersionRow where
  id : String
  videoId : Option Nat
  logicalKey : String
  sourceVersion : String
  objectSha256 : String

/-- `UNIQUE (logical_key, source_version)`. -/
def VersionRow.binding (row : VersionRow) : String × String :=
  (row.logicalKey, row.sourceVersion)

structure HeadRow where
  logicalKey : String
  artifactVersionId : String

/-- The artifact tables of one workspace. -/
structure ArtifactDatabase where
  artifactObjects : Table ObjectRow.sha256
  artifactVersions : Table VersionRow.binding
  artifactHeads : Table HeadRow.logicalKey

/-- `re.fullmatch("[0-9a-f]{64}", text)`. -/
def isDigest (text : String) : Bool :=
  text.length = 64 ∧ text.toList.all fun letter => letter.isDigit ∨ ('a' ≤ letter ∧ letter ≤ 'f')

/-- One workspace's store: its namespace, `hashlib`, `artifact_version_id` and the reading of
`mtime_ns / 1e9` as a timestamp. -/
structure ArtifactStore where
  workspace : String
  sha256 : Bytes → String
  hexdigest : ∀ content, isDigest (sha256 content)
  artifactVersionId : String → String → String → String
  toTimestamp : Nat → Instant

namespace ArtifactStore

variable (store : ArtifactStore)

def objectKey (digest : String) : String :=
  store.workspace ++ "/objects/" ++ digest

/-- `_recheck`: the file is still the one the descriptor was prepared for. -/
def recheck (files : Directory) (descriptor : ObjectDescriptor) : Except ArtifactFailure Unit := do
  ensure (isDigest descriptor.sha256) (.artifactError "artifact_invalid_hash")
  ensure (descriptor.relativeKey = store.objectKey descriptor.sha256)
    (.artifactError "artifact_key_hash_mismatch")
  match files descriptor.sha256 with
  | none => .error .prepareStale
  | some info =>
      ensure (descriptor.byteSize = info.identity.size ∧ descriptor.identity = info.identity)
        .prepareStale

/-! ## Publication -/

def objectRow (descriptor : ObjectDescriptor) : ObjectRow :=
  { sha256 := descriptor.sha256
    relativeKey := descriptor.relativeKey
    byteSize := descriptor.byteSize
    mediaType := descriptor.mediaType }

/-- The object's row, unless another binding of the hash stands in the way. -/
def publishObject (database : ArtifactDatabase) (descriptor : ObjectDescriptor) :
    Except ArtifactFailure ArtifactDatabase :=
  match database.artifactObjects.lookup descriptor.sha256 with
  | some old =>
      if old.relativeKey ≠ descriptor.relativeKey ∨ old.byteSize ≠ descriptor.byteSize then
        .error (.artifactError "artifact_object_conflict")
      else .ok database
  | none =>
      -- `UNIQUE (workspace_id, relative_key)` is not the arbiter of `ON CONFLICT`.
      if ∃ row ∈ database.artifactObjects.rows, row.relativeKey = descriptor.relativeKey then
        .error .uniqueViolation
      else
        .ok { database with
          artifactObjects := database.artifactObjects.insert (objectRow descriptor) }

/-- The identifier the version goes by: its own, or that of an imported row with this binding. -/
def versionIdentity (database : ArtifactDatabase) (logicalKey version : String)
    (descriptor : ObjectDescriptor) (videoId : Option Nat) : Except ArtifactFailure String :=
  let identity := store.artifactVersionId store.workspace logicalKey version
  match database.artifactVersions.lookup (logicalKey, version) with
  | none => .ok identity
  | some previous =>
      if previous.id ≠ identity ∨ previous.objectSha256 ≠ descriptor.sha256 ∨
          previous.videoId ≠ videoId then
        if previous.objectSha256 ≠ descriptor.sha256 ∨ previous.videoId ≠ videoId then
          .error (.artifactError "artifact_version_conflict")
        else .ok previous.id
      else .ok identity

/-- `INSERT INTO artifact_versions … ON CONFLICT(workspace_id,logical_key,source_version) DO
NOTHING`; the primary key is not its arbiter. -/
def publishVersion (database : ArtifactDatabase) (row : VersionRow) :
    Except ArtifactFailure ArtifactDatabase :=
  match database.artifactVersions.lookup row.binding with
  | some _ => .ok database
  | none =>
      if ∃ other ∈ database.artifactVersions.rows, other.id = row.id then .error .uniqueViolation
      else .ok { database with artifactVersions := database.artifactVersions.insert row }

def setHead (identity : String) : Change HeadRow.logicalKey where
  apply row := { row with artifactVersionId := identity }
  keeps _ := rfl

def publishHead (database : ArtifactDatabase) (logicalKey identity : String) : ArtifactDatabase :=
  { database with
    artifactHeads := database.artifactHeads.upsert ⟨logicalKey, identity⟩ (setHead identity) }

/-- `publish`, in a transaction that has the workspace guard. -/
def publish (files : Directory) (database : ArtifactDatabase) (logicalKey version : String)
    (descriptor : ObjectDescriptor) (videoId : Option Nat) :
    Except ArtifactFailure (ArtifactDatabase × String) := do
  store.recheck files descriptor
  let withObject ← publishObject database descriptor
  let identity ← store.versionIdentity withObject logicalKey version descriptor videoId
  let withVersion ← publishVersion withObject
    { id := identity
      videoId := videoId
      logicalKey := logicalKey
      sourceVersion := version
      objectSha256 := descriptor.sha256 }
  pure (publishHead withVersion logicalKey identity, "artifact:" ++ identity)

/-! ## Collection -/

/-- Every historical manifest retains its object, even with no head. -/
def Referenced (database : ArtifactDatabase) (digest : String) : Prop :=
  ∃ row ∈ database.artifactVersions.rows, row.objectSha256 = digest

instance (database : ArtifactDatabase) (digest : String) :
    Decidable (Referenced database digest) :=
  inferInstanceAs (Decidable (∃ row ∈ database.artifactVersions.rows, _))

/-- What the body of `gc` reports about a candidate, or `none` where it goes on to unlink. -/
def judge (files : Directory) (database : ArtifactDatabase) (now : Instant) (dryRun : Bool)
    (graceSeconds : Nat) (candidate : GCCandidate) : Except ArtifactFailure (Option String) :=
  match store.recheck files candidate.descriptor with
  | .error .prepareStale => .ok (some "changed_or_missing")
  | .error failure => .error failure
  | .ok _ =>
      if ¬store.toTimestamp candidate.mtimeNs + graceSeconds * microsPerSecond < now then
        .ok (some "young")
      else if Referenced database candidate.descriptor.sha256 then .ok (some "referenced")
      else if dryRun then .ok (some "candidate")
      else .ok none

/-- `DELETE FROM artifact_objects`, unless a version refers to the row. -/
def deleteObject (database : ArtifactDatabase) (digest : String) :
    Except ArtifactFailure ArtifactDatabase :=
  if Referenced database digest then .error .foreignKeyViolation
  else
    .ok { database with
      artifactObjects := database.artifactObjects.deleteWhere fun row => row.sha256 = digest }

end ArtifactStore

end Shiliu.Artifacts
