/-
Module: Shiliu.Artifacts.Processes
Purpose: The processes that share one artifact store. A preparation writes and verifies a file under
  the prepare lock and outside every transaction; a transaction publishes in a working copy of the
  tables from the moment it has the workspace guard until it commits or rolls back; a batch keeps
  its bytes and tries three times; a collection unlinks before it commits. Each action is one thing
  one process does, so a list of actions is an interleaving.
Trusted boundary: the file system gives every file it creates an identity it never gave before, and
  the guard row is locked until the transaction that locked it ends
Main exports: Preparation, Batch, Transaction, Workspace, Action, step
-/
import Shiliu.Artifacts.Store
import Shiliu.Library.Transition
import Mathlib.Logic.Function.Basic

namespace Shiliu.Artifacts

open Shiliu.Library Shiliu.Storage

/-! ## Preparation -/

/-- Whom the descriptor of a preparation is returned to. -/
inductive Requester where
  | caller
  | save (batch : Nat) (logicalKey version : String)
  | refresh (batch : Nat)

/-- Where `prepare` has got to since it took the prepare lock. -/
inductive PreparePhase where
  | checking
  | writing
  | verifying
  | opening (before : FileIdentity)
  | reading (before : FileIdentity) (opened : File)

structure Preparation where
  requester : Requester
  content : Bytes
  mediaType : String
  phase : PreparePhase

inductive PrepareOutcome where
  | proceed (phase : PreparePhase)
  | created (file : File)
  | returned (descriptor : ObjectDescriptor)
  | raised (failure : ArtifactFailure)

/-- The next system call of `prepare` and of `_verified_descriptor` after it. A file that is
unlinked while it is read changes its `ctime` or its place in the directory; either way the
comparison with the last `lstat` fails, so the second `fstat` is not modelled. -/
def ArtifactStore.prepareStep (store : ArtifactStore) (files : Directory) (node : Inode)
    (preparation : Preparation) : PrepareOutcome :=
  let digest := store.sha256 preparation.content
  match preparation.phase with
  | .checking =>
      match files digest with
      | some _ => .proceed .verifying
      | none => .proceed .writing
  | .writing => .created (File.create preparation.content node)
  | .verifying =>
      match files digest with
      | some info => .proceed (.opening info.identity)
      | none => .raised .fileNotFound
  | .opening before =>
      match files digest with
      | some opened => .proceed (.reading before opened)
      | none => .raised .fileNotFound
  | .reading before opened =>
      match files digest with
      | none => .raised .prepareStale
      | some current =>
          if before ≠ opened.identity ∨ opened.identity ≠ current.identity then
            .raised .prepareStale
          else if store.sha256 opened.bytes ≠ digest ∨
              opened.bytes.length ≠ preparation.content.length then
            .raised (.artifactError "artifact_hash_or_size_mismatch")
          else
            .returned
              { relativeKey := store.objectKey digest
                sha256 := digest
                byteSize := preparation.content.length
                identity := current.identity
                mediaType := preparation.mediaType }

/-! ## Batches -/

structure Entry where
  logicalKey : String
  version : String
  raw : Bytes
  descriptor : ObjectDescriptor
  ref : String

/-- `entries[(logical, version)] = …`: a dict keeps the place of a key it has. -/
def setEntry (entries : List Entry) (entry : Entry) : List Entry :=
  if entries.any fun other => other.logicalKey = entry.logicalKey ∧ other.version = entry.version
  then
    entries.map fun other =>
      if other.logicalKey = entry.logicalKey ∧ other.version = entry.version then entry else other
  else entries ++ [entry]

inductive BatchPhase where
  | saving
  /-- Before the transaction of an attempt. -/
  | attempting (attempt : Nat)
  /-- In the transaction, with the entries that are not published yet. -/
  | publishing (attempt : Nat) (remaining : List Entry)
  /-- Preparing the retained bytes again. -/
  | refreshing (attempt : Nat) (refreshed remaining : List Entry)
  | returned
  | raised (failure : ArtifactFailure)

/-- `VideoArtifactBatch`. -/
structure Batch where
  videoId : Nat
  entries : List Entry
  phase : BatchPhase

/-- `f"video:{self.video_id}:{name}"`. -/
def Batch.logicalKey (batch : Batch) (name : String) : String :=
  "video:" ++ toString batch.videoId ++ ":" ++ name

/-- The `except ArtifactPrepareStale` of `commit`; any other exception leaves the method. -/
def Batch.afterRollback (batch : Batch) (failure : ArtifactFailure) : Batch :=
  match batch.phase with
  | .publishing attempt _ =>
      if failure = .prepareStale ∧ attempt < 2 then
        { batch with phase := .refreshing attempt [] batch.entries }
      else { batch with phase := .raised failure }
  | _ => batch

/-! ## Transactions and passes -/

/-- Where `gc` has got to with a candidate it has not kept. -/
inductive CollectStage where
  | judged
  | unlinked
  | deleted

/-- Whose transaction has the workspace guard. -/
inductive Role where
  | caller
  | batch (id : Nat)
  | collector (pass : Nat) (candidate : GCCandidate) (stage : CollectStage)

/-- The open transaction that has the guard, and the tables as it sees them. -/
structure Transaction where
  working : ArtifactDatabase
  role : Role

/-- One call of `gc`. -/
structure Pass where
  dryRun : Bool
  graceSeconds : Nat
  candidates : List GCCandidate
  result : List (String × String)

structure Workspace where
  files : Directory
  /-- Every identity a file has had. -/
  identities : List FileIdentity
  database : ArtifactDatabase
  guard : Option Transaction
  preparing : Option Preparation
  prepared : List ObjectDescriptor
  batches : Nat → Option Batch
  passes : Nat → Option Pass

/-- One thing one process does. -/
inductive Action where
  | prepare (content : Bytes) (mediaType : String)
  | newBatch (batch videoId : Nat)
  | save (batch : Nat) (name : String) (raw : Bytes) (version : Option String)
      (mediaType : String)
  | advancePreparation (node : Inode)
  /-- The process that has the prepare lock ends. -/
  | crashPreparation
  | commitBatch (batch : Nat)
  | refreshBatch (batch : Nat)
  /-- `connect(guard=True)` in a batch's attempt. -/
  | openBatch (batch : Nat)
  | publishEntry
  /-- A business transaction takes the guard. -/
  | openTransaction
  | publish (logicalKey version : String) (descriptor : ObjectDescriptor) (videoId : Option Nat)
  | commit
  /-- The code in the open transaction raises, or its process ends. -/
  | raise (failure : ArtifactFailure)
  | gc (pass : Nat) (dryRun : Bool) (graceSeconds : Int) (candidates : List GCCandidate)
  | collect (pass : Nat) (now : Instant)
  | unlink
  | deleteRow

namespace Workspace

def setBatch (world : Workspace) (id : Nat) (batch : Batch) : Workspace :=
  { world with batches := Function.update world.batches id (some batch) }

def setPass (world : Workspace) (id : Nat) (pass : Option Pass) : Workspace :=
  { world with passes := Function.update world.passes id pass }

/-- A preparation starts when the prepare lock is free. -/
def startPreparation (world : Workspace) (requester : Requester) (content : Bytes)
    (mediaType : String) : Workspace :=
  match world.preparing with
  | some _ => world
  | none =>
      { world with preparing := some ⟨requester, content, mediaType, .checking⟩ }

/-- The descriptor is returned to whoever asked for it. -/
def deliver (store : ArtifactStore) (world : Workspace) (preparation : Preparation)
    (descriptor : ObjectDescriptor) : Workspace :=
  match preparation.requester with
  | .caller => { world with prepared := world.prepared ++ [descriptor] }
  | .save id logicalKey version =>
      match world.batches id with
      | some ⟨videoId, entries, .saving⟩ =>
          let entry : Entry :=
            { logicalKey := logicalKey
              version := version
              raw := preparation.content
              descriptor := descriptor
              ref := "artifact:" ++
                store.artifactVersionId store.workspace logicalKey version }
          world.setBatch id ⟨videoId, setEntry entries entry, .saving⟩
      | _ => world
  | .refresh id =>
      match world.batches id with
      | some ⟨videoId, entries, .refreshing attempt refreshed (entry :: remaining)⟩ =>
          world.setBatch id ⟨videoId, entries, .refreshing attempt
            (refreshed ++ [{ entry with descriptor := descriptor }]) remaining⟩
      | _ => world

/-- A preparation that raises inside the retry of a batch ends the batch. -/
def refuse (world : Workspace) (preparation : Preparation) (failure : ArtifactFailure) :
    Workspace :=
  match preparation.requester with
  | .refresh id =>
      match world.batches id with
      | some batch => world.setBatch id { batch with phase := .raised failure }
      | none => world
  | _ => world

def advance (store : ArtifactStore) (world : Workspace) (node : Inode) : Workspace :=
  match world.preparing with
  | none => world
  | some preparation =>
      match store.prepareStep world.files node preparation with
      | .proceed phase => { world with preparing := some { preparation with phase := phase } }
      | .created file =>
          -- An identity that was given before is not one the file system can choose.
          if file.identity ∈ world.identities then world
          else
            { world with
              files := Function.update world.files (store.sha256 preparation.content) (some file)
              identities := file.identity :: world.identities
              preparing := some { preparation with phase := .verifying } }
      | .returned descriptor => { world.deliver store preparation descriptor with preparing := none }
      | .raised failure => { world.refuse preparation failure with preparing := none }

/-- The open transaction is rolled back. -/
def rollBack (world : Workspace) (failure : ArtifactFailure) : Workspace :=
  match world.guard with
  | none => world
  | some ⟨_, .caller⟩ => { world with guard := none }
  | some ⟨_, .batch id⟩ =>
      match world.batches id with
      | some batch => { world.setBatch id (batch.afterRollback failure) with guard := none }
      | none => { world with guard := none }
  | some ⟨_, .collector pass _ _⟩ => { world.setPass pass none with guard := none }

/-- The open transaction commits, where its code has come to its end. -/
def commit (world : Workspace) : Workspace :=
  match world.guard with
  | none => world
  | some ⟨working, .caller⟩ => { world with database := working, guard := none }
  | some ⟨working, .batch id⟩ =>
      match world.batches id with
      | some ⟨videoId, entries, .publishing _ []⟩ =>
          { world.setBatch id ⟨videoId, entries, .returned⟩ with
            database := working
            guard := none }
      | _ => world
  | some ⟨working, .collector id candidate .deleted⟩ =>
      match world.passes id with
      | some pass =>
          { world.setPass id (some { pass with
              result := pass.result ++ [(candidate.descriptor.relativeKey, "deleted")] }) with
            database := working
            guard := none }
      | none => world
  | some ⟨_, .collector _ _ _⟩ => world

/-- `publish` in the open transaction of a caller. -/
def publish (store : ArtifactStore) (world : Workspace) (logicalKey version : String)
    (descriptor : ObjectDescriptor) (videoId : Option Nat) : Workspace :=
  match world.guard with
  | some ⟨working, .caller⟩ =>
      match store.publish world.files working logicalKey version descriptor videoId with
      | .error failure => world.rollBack failure
      | .ok (after, _) => { world with guard := some ⟨after, .caller⟩ }
  | _ => world

/-- The next round of the loop in `VideoArtifactBatch.publish`. -/
def publishEntry (store : ArtifactStore) (world : Workspace) : Workspace :=
  match world.guard with
  | some ⟨working, .batch id⟩ =>
      match world.batches id with
      | some ⟨videoId, entries, .publishing attempt (entry :: remaining)⟩ =>
          match store.publish world.files working entry.logicalKey entry.version
              entry.descriptor (some videoId) with
          | .error failure => world.rollBack failure
          | .ok (after, actual) =>
              if actual ≠ entry.ref then
                world.rollBack (.artifactError "artifact_reference_binding_changed")
              else
                { world.setBatch id ⟨videoId, entries, .publishing attempt remaining⟩ with
                  guard := some ⟨after, .batch id⟩ }
      | _ => world
  | _ => world

/-- The retry of a batch: one entry after the other, then the next attempt. -/
def refreshBatch (world : Workspace) (id : Nat) : Workspace :=
  match world.batches id with
  | some ⟨videoId, _, .refreshing attempt refreshed []⟩ =>
      world.setBatch id ⟨videoId, refreshed, .attempting (attempt + 1)⟩
  | some ⟨_, _, .refreshing _ _ (entry :: _)⟩ =>
      world.startPreparation (.refresh id) entry.raw entry.descriptor.mediaType
  | _ => world

def openBatch (world : Workspace) (id : Nat) : Workspace :=
  match world.guard, world.batches id with
  | none, some ⟨videoId, entries, .attempting attempt⟩ =>
      { world.setBatch id ⟨videoId, entries, .publishing attempt entries⟩ with
        guard := some ⟨world.database, .batch id⟩ }
  | _, _ => world

/-- The next candidate of a pass, up to the point where its file would be unlinked. A candidate
that is kept ends the transaction without a change. -/
def collect (store : ArtifactStore) (world : Workspace) (id : Nat) (now : Instant) : Workspace :=
  match world.guard, world.passes id with
  | none, some ⟨dryRun, graceSeconds, candidate :: rest, result⟩ =>
      match store.judge world.files world.database now dryRun graceSeconds candidate with
      | .error _ => world.setPass id none
      | .ok (some verdict) =>
          world.setPass id (some ⟨dryRun, graceSeconds, rest,
            result ++ [(candidate.descriptor.relativeKey, verdict)]⟩)
      | .ok none =>
          { world.setPass id (some ⟨dryRun, graceSeconds, rest, result⟩) with
            guard := some ⟨world.database, .collector id candidate .judged⟩ }
  | _, _ => world

def unlink (world : Workspace) : Workspace :=
  match world.guard with
  | some ⟨working, .collector id candidate .judged⟩ =>
      match world.files candidate.descriptor.sha256 with
      | none => world.rollBack .fileNotFound
      | some _ =>
          { world with
            files := Function.update world.files candidate.descriptor.sha256 none
            guard := some ⟨working, .collector id candidate .unlinked⟩ }
  | _ => world

def deleteRow (world : Workspace) : Workspace :=
  match world.guard with
  | some ⟨working, .collector id candidate .unlinked⟩ =>
      match ArtifactStore.deleteObject working candidate.descriptor.sha256 with
      | .error failure => world.rollBack failure
      | .ok after => { world with guard := some ⟨after, .collector id candidate .deleted⟩ }
  | _ => world

end Workspace

open Workspace in
/-- The workspace after an action. An action that is not possible, such as one that waits for a
lock, leaves it as it is. -/
def step (store : ArtifactStore) (world : Workspace) : Action → Workspace
  | .prepare content mediaType => world.startPreparation .caller content mediaType
  | .newBatch id videoId =>
      match world.batches id with
      | none => world.setBatch id ⟨videoId, [], .saving⟩
      | some _ => world
  | .save id name raw version mediaType =>
      match world.batches id with
      | some ⟨videoId, entries, .saving⟩ =>
          let settledVersion := if truthy version then version.getD "" else store.sha256 raw
          world.startPreparation
            (.save id (Batch.logicalKey ⟨videoId, entries, .saving⟩ name) settledVersion)
            raw mediaType
      | _ => world
  | .advancePreparation node => world.advance store node
  | .crashPreparation => { world with preparing := none }
  | .commitBatch id =>
      match world.batches id with
      | some ⟨videoId, entries, .saving⟩ => world.setBatch id ⟨videoId, entries, .attempting 0⟩
      | _ => world
  | .refreshBatch id => world.refreshBatch id
  | .openBatch id => world.openBatch id
  | .publishEntry => world.publishEntry store
  | .openTransaction =>
      match world.guard with
      | none => { world with guard := some ⟨world.database, .caller⟩ }
      | some _ => world
  | .publish logicalKey version descriptor videoId =>
      world.publish store logicalKey version descriptor videoId
  | .commit => world.commit
  | .raise failure => world.rollBack failure
  | .gc id dryRun graceSeconds candidates =>
      -- A negative grace raises before anything is looked at.
      if graceSeconds < 0 then world
      else
        match world.passes id with
        | none => world.setPass id (some ⟨dryRun, graceSeconds.toNat, candidates, []⟩)
        | some _ => world
  | .collect id now => world.collect store id now
  | .unlink => world.unlink
  | .deleteRow => world.deleteRow

end Shiliu.Artifacts
