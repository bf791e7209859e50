/-
Module: Shiliu.Knowledge.PageRevisions
Purpose: The revisions of artifacts and topic pages after the first: a refresh gives an artifact the
  facts that are current and its pages the facts of the new revision, an edit and a revert take a
  body from a revision of the page. The links of a page revision come from its artifact revision
  or, where that has none, from the revision before.
Trusted boundary: what the commands on facts, candidates and operations do to other rows is any change
  of those rows
Main exports: refreshKnowledge, createPageRevision, editPage, revertPage, PageAction, stepPages
-/
import Shiliu.Knowledge.Builds

namespace Shiliu.Knowledge

open Shiliu.Library Shiliu.Research Shiliu.Storage

/-! ## Refreshed artifacts -/

/-- `_current_fact_ids_for_artifact`: the current revisions of the facts that are still current. -/
def currentFactIds (store : TaskKnowledge) (revision : ArtifactRevision) : List Ident :=
  revision.factRevisionIds.filterMap fun factRevisionId =>
    match store.factRevision factRevisionId with
    | none => none
    | some (fact, _) => if fact.lifecycle = .current then some fact.currentRevisionId else none

def appendArtifactRevision (revision : ArtifactRevision) : Change Artifact.artifactId :=
  ⟨fun artifact => { artifact with revisions := artifact.revisions ++ [revision] }, fun _ => rfl⟩

/-- The two `INSERT`s of an artifact revision and its links, with their primary keys. -/
def insertArtifactRevision (store : TaskKnowledge) (artifactId : Ident)
    (revision : ArtifactRevision) : Except ResearchFailure TaskKnowledge := do
  ensure (store.artifactRevision revision.revisionId = none) identityConflict
  ensure revision.factRevisionIds.Nodup identityConflict
  return { store with
    artifacts := store.artifacts.modify artifactId (appendArtifactRevision revision) }

/-- `ORDER BY revision DESC LIMIT 1`. -/
def Artifact.latest (artifact : Artifact) : Option ArtifactRevision :=
  artifact.revisions.argmax ArtifactRevision.revision

/-- The revision a refresh gives an artifact. -/
def refreshedArtifactRevision (operationId artifactId : Ident) (old : ArtifactRevision)
    (factRevisionIds : List Ident) (lines : List FactLine) : ArtifactRevision where
  revisionId := .hashed "kartifactrev" [artifactId, .number (old.revision + 1), operationId]
  revision := old.revision + 1
  parentRevisionId := some old.revisionId
  topic := old.topic
  facts := lines
  limitations := old.limitations
  unresolved := old.unresolved
  factRevisionIds := factRevisionIds

/-- `artifact_map`, the newest entry first. -/
abbrev ArtifactMap := List (Ident × Ident)

/-- A turn of the loop of `_build_refresh_outputs` over the artifacts. -/
def refreshArtifact (operationId : Ident) (turn : TaskKnowledge × ArtifactMap)
    (artifactId : Ident) : Except ResearchFailure (TaskKnowledge × ArtifactMap) :=
  match (turn.1.artifacts.lookup artifactId).bind Artifact.latest with
  | none => .error (.unsafeState "refresh artifact left Task boundary")
  | some old =>
      let factRevisionIds := currentFactIds turn.1 old
      match factLines turn.1 factRevisionIds with
      | none => .error (.unsafeState "refresh Fact revision missing")
      | some lines => do
          let revision :=
            refreshedArtifactRevision operationId artifactId old factRevisionIds lines
          let after ← insertArtifactRevision turn.1 artifactId revision
          return (after, (artifactId, revision.revisionId) :: turn.2)

/-! ## Page revisions -/

/-- `body_json` of a page revision. -/
structure PageBody where
  facts : List FactLine
  limitations : List String
  unresolved : List String
  annotation : Option String

def PageRevision.body (revision : PageRevision) : PageBody :=
  ⟨revision.facts, revision.limitations, revision.unresolved, revision.annotation⟩

/-- The revision of a page with a version. -/
def Page.revisionAt (page : Page) (version : Nat) : Option PageRevision :=
  page.revisions.find? fun revision => revision.version = version

/-- `SELECT fact_revision_id … ORDER BY ordinal` of an artifact revision. -/
def artifactLinks (store : TaskKnowledge) (artifactRevisionId : Ident) : List Ident :=
  match store.artifactRevision artifactRevisionId with
  | none => []
  | some (_, revision) => revision.factRevisionIds

/-- The body of a revision without an override: the facts of the artifact, the rest of the source. -/
def refreshedBody (store : TaskKnowledge) (source : PageRevision) (artifactRevisionId : Ident) :
    Except ResearchFailure PageBody :=
  match store.artifactRevision artifactRevisionId with
  | none => .error (.unsafeState "Page refresh Artifact revision missing")
  | some (_, artifact) =>
      .ok ⟨artifact.facts, source.limitations, source.unresolved, source.annotation.filter (· ≠ "")⟩

/-- The body of a new revision: the override, if there is one. -/
def newBody (store : TaskKnowledge) (source : PageRevision) (artifactRevisionId : Ident) :
    Option PageBody → Except ResearchFailure PageBody
  | none => refreshedBody store source artifactRevisionId
  | some body => .ok body

/-- The fact ids a page revision is linked to. -/
def pageFactIds (store : TaskKnowledge) (source : PageRevision) (kind : RevisionKind)
    (artifactRevisionId : Ident) : List Ident :=
  let factIds := artifactLinks store artifactRevisionId
  if factIds = [] ∧ kind ∈ [RevisionKind.edit, .revert] then source.factRevisionIds else factIds

/-- The page with a new head. -/
def appendPageRevision (revision : PageRevision) : Change Page.pageId :=
  ⟨fun page =>
    { page with
      currentVersion := revision.version
      reviewStatus := .draft
      stateVersion := page.stateVersion + 1
      revisions := page.revisions ++ [revision] },
    fun _ => rfl⟩

/-- `_create_page_revision`. -/
def createPageRevision (store : TaskKnowledge) (page : Page) (source : PageRevision)
    (kind : RevisionKind) (artifactRevisionId : Ident) (title : String)
    (override : Option PageBody) (revertOf : Option Ident) : Transaction := do
  let version := page.currentVersion + 1
  let body ← newBody store source artifactRevisionId override
  let factIds := pageFactIds store source kind artifactRevisionId
  -- the id of a link is hashed from the revision and the fact
  ensure factIds.Nodup identityConflict
  let revision : PageRevision := {
    revisionId := pageRevisionIdOf page.pageId version
    version := version
    parentRevisionId := some source.revisionId
    revertOf := revertOf
    kind := kind
    artifactRevisionId := artifactRevisionId
    title := title
    facts := body.facts
    limitations := body.limitations
    unresolved := body.unresolved
    annotation := body.annotation
    factRevisionIds := factIds }
  return ({ store with pages := store.pages.modify page.pageId (appendPageRevision revision) },
    .pageRevised page.pageId revision.revisionId version page.publishedVersion)

/-- A turn of the loop of `_build_refresh_outputs` over the pages. -/
def refreshPage (artifacts : ArtifactMap) (store : TaskKnowledge) (pageId : Ident) :
    Except ResearchFailure TaskKnowledge :=
  match store.pages.lookup pageId with
  | none => .error (.unsafeState "refresh Page left Task boundary")
  | some page =>
      match page.revisionAt page.currentVersion with
      | none => .error (.unsafeState "refresh Page head missing")
      | some old => do
          let refreshed := (store.artifactRevision old.artifactRevisionId).bind fun found =>
            artifacts.lookup found.1.artifactId
          let (after, _) ← createPageRevision store page old .refresh
            (refreshed.getD old.artifactRevisionId) old.title none none
          return after

/-- `_build_refresh_outputs`. -/
def refreshKnowledge (store : TaskKnowledge) (operationId : Ident)
    (artifactIds pageIds : List Ident) : Except ResearchFailure TaskKnowledge := do
  let (store, artifacts) ← artifactIds.foldlM (refreshArtifact operationId) (store, [])
  pageIds.foldlM (refreshPage artifacts) store

/-! ## Edits and reverts -/

/-- The page a command is for, with its current revision. -/
def pageHead (store : TaskKnowledge) (pageId : Ident) (expectedVersion : Nat) :
    Except ResearchFailure (Page × PageRevision) :=
  match store.pages.lookup pageId with
  | none => .error (.notFound "Topic Page 不存在")
  | some page => do
      ensure (page.currentVersion = expectedVersion)
        (.conflict s!"stale page version: expected {expectedVersion}, current {page.currentVersion}")
      match page.revisionAt expectedVersion with
      | none => .error (.unsafeState "Topic Page current revision missing")
      | some current => return (page, current)

/-- The body with what the edit gives. -/
def PageEdit.apply (edit : PageEdit) (body : PageBody) : PageBody where
  facts := body.facts
  limitations := edit.limitations.getD body.limitations
  unresolved := edit.unresolved.getD body.unresolved
  annotation := edit.annotation.or body.annotation

/-- `edit_page`. -/
def editPage (store : TaskKnowledge) (commandId : String) (pageId : Ident) (expectedVersion : Nat)
    (edit : PageEdit) (reason : String) : Transaction :=
  transact store commandId (.editPage pageId expectedVersion edit reason) do
    let (page, current) ← pageHead store pageId expectedVersion
    createPageRevision store page current .edit current.artifactRevisionId
      ((edit.title.filter (· ≠ "")).getD current.title) (some (edit.apply current.body)) none

/-- `revert_page`. -/
def revertPage (store : TaskKnowledge) (commandId : String) (pageId : Ident)
    (expectedVersion targetVersion : Nat) (reason : String) : Transaction :=
  transact store commandId (.revertPage pageId expectedVersion targetVersion reason) do
    let (page, current) ← pageHead store pageId expectedVersion
    match page.revisionAt targetVersion with
    | none => .error (.validation s!"revert target version does not exist: {targetVersion}")
    | some target =>
        -- the source of the new revision is the current one also here
        createPageRevision store page current .revert target.artifactRevisionId target.title
          (some target.body) (some target.revisionId)

/-! ## Runs -/

/-- The revision an incremental route gives an artifact, on the ground of one of its revisions. -/
def incrementalRevision (artifactId route : Ident) (parent : ArtifactRevision) (revision : Nat)
    (topic : String) (lines : List FactLine) (covered : List String) : ArtifactRevision where
  revisionId := .hashed "kartifactrev" [artifactId, .number revision, route]
  revision := revision
  parentRevisionId := some parent.revisionId
  topic := topic
  facts := lines
  limitations := parent.limitations
  unresolved := parent.unresolved.filter (· ∉ covered)
  factRevisionIds := lines.map FactLine.factRevisionId

/-- `_create_incremental_artifact`, with the lines of the facts it has gathered and the aspects they
cover. -/
def createIncrementalArtifact (store : TaskKnowledge) (parentRevisionId route : Ident)
    (topic : String) (lines : List FactLine) (covered : List String) :
    Except ResearchFailure TaskKnowledge :=
  match store.artifactRevision parentRevisionId with
  | none => .error (.unsafeState "parent Artifact revision missing")
  | some (artifact, parent) =>
      insertArtifactRevision store artifact.artifactId
        (incrementalRevision artifact.artifactId route parent
          ((artifact.revisions.map ArtifactRevision.revision).foldr max 0 + 1) topic lines covered)

/-- The transactions that change artifacts and pages; `elsewhere` is any other one. -/
inductive PageAction where
  | elsewhere (rows : TaskKnowledge)
  | finalize (commandId : String) (input : BuildInput)
  | incremental (parentRevisionId route : Ident) (topic : String) (lines : List FactLine)
      (covered : List String)
  | review (commandId : String) (pageId : Ident) (request : PageReviewRequest)
  | refresh (operationId : Ident) (artifactIds pageIds : List Ident)
  | edit (commandId : String) (pageId : Ident) (expectedVersion : Nat) (edit : PageEdit)
      (reason : String)
  | revert (commandId : String) (pageId : Ident) (expectedVersion targetVersion : Nat)
      (reason : String)

/-- The store after a transaction: committed, or rolled back if it raised. -/
def committed (store : TaskKnowledge) : Except ResearchFailure TaskKnowledge → TaskKnowledge
  | .ok after => after
  | .error _ => store

def stepPages (store : TaskKnowledge) : PageAction → TaskKnowledge
  | .elsewhere rows => { rows with artifacts := store.artifacts, pages := store.pages }
  | .finalize commandId input => committed store ((finalizeBuild store commandId input).map Prod.fst)
  | .incremental parentRevisionId route topic lines covered =>
      committed store (createIncrementalArtifact store parentRevisionId route topic lines covered)
  | .review commandId pageId request =>
      committed store ((reviewPage store commandId pageId request).map Prod.fst)
  | .refresh operationId artifactIds pageIds =>
      committed store (refreshKnowledge store operationId artifactIds pageIds)
  | .edit commandId pageId expectedVersion edit reason =>
      committed store ((editPage store commandId pageId expectedVersion edit reason).map Prod.fst)
  | .revert commandId pageId expectedVersion targetVersion reason =>
      committed store
        ((revertPage store commandId pageId expectedVersion targetVersion reason).map Prod.fst)

end Shiliu.Knowledge
