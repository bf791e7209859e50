/-
Module: Shiliu.Knowledge.PageHistory
Purpose: What every run of builds, refreshes, edits and reverts keeps of the topic pages. The versions
  are numbered without gaps and point to the one before, and the links of a revision are the facts of its
  body, as long as no revert goes to a version without facts while the current version has links:
  there the links of the new revision are those of the current one.
Trusted boundary: none
Main exports: ArtifactsSound, PageConsistent, PagesSound, KeepsLinks, Exact, PagesSound.step
-/
import Mathlib.Data.List.Chain
import Shiliu.Knowledge.PageRevisions
import Shiliu.Library.Transition

set_option linter.all false

namespace Shiliu.Knowledge

open Shiliu.Library Shiliu.Research Shiliu.Storage

variable {store after : TaskKnowledge}

/-! ## Artifacts -/

/-- An artifact whose revisions are named after it, each once, and linked to the facts they list. -/
structure ArtifactSound (artifact : Artifact) : Prop where
  named : ∀ revision ∈ artifact.revisions, ∃ rest,
    revision.revisionId = .hashed "kartifactrev" (artifact.artifactId :: rest)
  once : (artifact.revisions.map ArtifactRevision.revisionId).Nodup
  linked : ∀ revision ∈ artifact.revisions,
    revision.factRevisionIds = revision.facts.map FactLine.factRevisionId

def ArtifactsSound (store : TaskKnowledge) : Prop :=
  ∀ artifact ∈ store.artifacts, ArtifactSound artifact

/-- The revisions of the artifacts stay. -/
def ArtifactsGrow (before after : TaskKnowledge) : Prop :=
  ∀ artifact ∈ before.artifacts, ∃ later ∈ after.artifacts, ∀ revision ∈ artifact.revisions,
    revision ∈ later.revisions

theorem ArtifactsGrow.of_eq (same : after.artifacts = store.artifacts) :
    ArtifactsGrow store after :=
  fun artifact member => ⟨artifact, same ▸ member, fun _ present => present⟩

theorem ArtifactsSound.lookup (sound : ArtifactsSound store) {artifact : Artifact}
    (member : artifact ∈ store.artifacts) {revision : ArtifactRevision}
    (present : revision ∈ artifact.revisions) :
    ∃ found, store.artifactRevision revision.revisionId = some (found, revision) := by
  obtain ⟨found, other, isFound⟩ := TaskKnowledge.exists_artifactRevision member present
  obtain ⟨isRow, isRevision, sameId⟩ := TaskKnowledge.artifactRevision_eq_some isFound
  obtain ⟨rest, isNamed⟩ := (sound artifact member).named revision present
  obtain ⟨others, isOther⟩ := (sound found isRow).named other isRevision
  -- both names start with the id of their artifact
  rw [sameId, isNamed, Ident.hashed_inj] at isOther
  have sameArtifact : found.artifactId = artifact.artifactId := (List.cons.inj isOther.2).1.symm
  obtain rfl := Table.eq_of_key isRow member sameArtifact
  have same : other = revision :=
    List.inj_on_of_nodup_map (sound found member).once isRevision present sameId
  exact ⟨found, same ▸ isFound⟩

/-! ## Pages -/

/-- What a reader of the history of a page relies on. -/
structure PageConsistent (page : Page) : Prop where
  versions : page.revisions.map PageRevision.version = List.range' 1 page.currentVersion
  first : ∀ revision ∈ page.revisions.head?, revision.parentRevisionId = none
  parents : page.revisions.IsChain fun earlier later =>
    later.parentRevisionId = some earlier.revisionId
  linked : ∀ revision ∈ page.revisions,
    revision.factRevisionIds = revision.facts.map FactLine.factRevisionId

/-- A page revision whose artifact revision is there and has the same links. -/
def Sourced (store : TaskKnowledge) (revision : PageRevision) : Prop :=
  ∃ artifact ∈ store.artifacts, ∃ source ∈ artifact.revisions,
    source.revisionId = revision.artifactRevisionId ∧
      source.factRevisionIds = revision.factRevisionIds

structure PageSound (store : TaskKnowledge) (page : Page) : Prop where
  consistent : PageConsistent page
  sourced : ∀ revision ∈ page.revisions, Sourced store revision

structure PagesSound (store : TaskKnowledge) : Prop where
  artifacts : ArtifactsSound store
  pages : ∀ page ∈ store.pages, PageSound store page

variable {revision current : PageRevision} {page : Page} {artifactRevisionId pageId : Ident}
  {title commandId : String} {response : Response} {expectedVersion : Nat}

theorem Sourced.grow (grows : ArtifactsGrow store after) (sourced : Sourced store revision) :
    Sourced after revision := by
  obtain ⟨artifact, member, source, present, isSource⟩ := sourced
  obtain ⟨later, isLater, keeps⟩ := grows artifact member
  exact ⟨later, isLater, source, keeps source present, isSource⟩

theorem PageSound.grow (grows : ArtifactsGrow store after) (sound : PageSound store page) :
    PageSound after page :=
  ⟨sound.consistent, fun revision member => (sound.sourced revision member).grow grows⟩

theorem Sourced.artifactLinks (sound : ArtifactsSound store) (sourced : Sourced store revision) :
    artifactLinks store revision.artifactRevisionId = revision.factRevisionIds := by
  obtain ⟨artifact, member, source, present, isSource, sameLinks⟩ := sourced
  obtain ⟨found, isFound⟩ := sound.lookup member present
  rw [isSource] at isFound
  simp only [Knowledge.artifactLinks, isFound, sameLinks]

theorem PageConsistent.head (consistent : PageConsistent page)
    (isCurrent : page.revisionAt page.currentVersion = some current) :
    ∃ before, page.revisions = before ++ [current] := by
  have member := List.mem_of_find?_eq_some isCurrent
  have version : current.version = page.currentVersion := by
    simpa using List.find?_some isCurrent
  obtain ⟨before, last, isSplit⟩ : ∃ before last, page.revisions = before ++ [last] :=
    ⟨_, _, (List.dropLast_append_getLast (List.ne_nil_of_mem member)).symm⟩
  have versions := consistent.versions
  have distinctVersions : (page.revisions.map PageRevision.version).Nodup :=
    versions ▸ List.nodup_range'
  have length : page.currentVersion = before.length + 1 := by
    simpa [isSplit] using (congrArg List.length versions).symm
  have lastVersion : last.version = page.currentVersion := by
    rw [isSplit, length, List.range'_1_concat, List.map_append, List.map_singleton] at versions
    have lasts := List.append_inj_right' versions rfl
    rw [List.singleton_inj] at lasts
    omega
  have isLast : current = last := by
    apply List.inj_on_of_nodup_map distinctVersions member
    · simp [isSplit]
    · rw [version, lastVersion]
  exact ⟨before, by rw [isSplit, isLast]⟩

theorem PageConsistent.append (consistent : PageConsistent page)
    (isCurrent : page.revisionAt page.currentVersion = some current)
    (version : revision.version = page.currentVersion + 1)
    (parent : revision.parentRevisionId = some current.revisionId)
    (linked : revision.factRevisionIds = revision.facts.map FactLine.factRevisionId) :
    PageConsistent ((appendPageRevision revision).apply page) := by
  obtain ⟨before, isSplit⟩ := consistent.head isCurrent
  constructor
  · simp only [appendPageRevision, List.map_append, consistent.versions, version,
      List.map_singleton, List.range'_1_concat]
    rw [Nat.add_comm]
  · simp only [appendPageRevision, isSplit]
    have first := consistent.first
    rw [isSplit] at first
    cases before with
    | nil => simpa using first
    | cons oldest rest => simpa using first
  · simp only [appendPageRevision, List.isChain_append]
    refine ⟨consistent.parents, .singleton revision, ?_⟩
    intro earlier isEarlier later isLater
    rw [isSplit, List.getLast?_concat] at isEarlier
    obtain rfl := Option.mem_some_iff.mp isEarlier
    obtain rfl : revision = later := by simpa using isLater
    exact parent
  · simp only [appendPageRevision, List.mem_append, List.mem_singleton]
    rintro other (earlier | rfl)
    · exact consistent.linked other earlier
    · exact linked

/-! ## What a new revision is -/

/-- A revision that was created for a page. -/
structure Created (store : TaskKnowledge) (page : Page) (source : PageRevision)
    (kind : RevisionKind) (artifactRevisionId : Ident) (title : String)
    (override : Option PageBody) (revision : PageRevision) : Prop where
  version : revision.version = page.currentVersion + 1
  parent : revision.parentRevisionId = some source.revisionId
  artifact : revision.artifactRevisionId = artifactRevisionId
  title : revision.title = title
  body : newBody store source artifactRevisionId override = .ok revision.body
  links : revision.factRevisionIds = pageFactIds store source kind artifactRevisionId

variable {kind : RevisionKind} {target : PageRevision} {artifactId operationId : Ident}
  {lines : List FactLine} {artifacts : ArtifactMap} {reason : String} {output : BuildOutput}

theorem createPageRevision_ok {source : PageRevision} {override : Option PageBody}
    {revertOf : Option Ident}
    (created : createPageRevision store page source kind artifactRevisionId title override
      revertOf = .ok (after, response)) :
    ∃ revision, Created store page source kind artifactRevisionId title override revision ∧
      after = { store with
        pages := store.pages.modify page.pageId (appendPageRevision revision) } := by
  simp only [createPageRevision, bind_eq_ok, ensure_eq_ok, pure_eq_ok, Prod.mk.injEq] at created
  obtain ⟨body, isBody, -, -, rfl, -⟩ := created
  refine ⟨_, ?_, rfl⟩
  exact ⟨rfl, rfl, rfl, rfl, isBody, rfl⟩

/-- Whether the links of a revision made from a version are those of that version. -/
def LinksFollow (store : TaskKnowledge) (current target : PageRevision) : Prop :=
  artifactLinks store target.artifactRevisionId ≠ [] ∨ current.factRevisionIds = []

theorem Sourced.pageFactIds (sound : ArtifactsSound store) (sourced : Sourced store target)
    (follows : LinksFollow store current target) (kind : RevisionKind) :
    pageFactIds store current kind target.artifactRevisionId = target.factRevisionIds := by
  have links := sourced.artifactLinks sound
  simp only [Knowledge.pageFactIds, links]
  split
  · next fallsBack =>
      rcases follows with present | none
      · exact absurd fallsBack.1 (links ▸ present)
      · rw [none, fallsBack.1]
  · rfl

/-- A revision may always follow the one it is made from. -/
theorem Sourced.follows_self (sound : ArtifactsSound store) (sourced : Sourced store current) :
    LinksFollow store current current := by
  rw [LinksFollow, sourced.artifactLinks sound]
  exact ne_or_eq _ _

/-! ## One new revision -/

theorem PagesSound.append (sound : PagesSound store) (isPage : page ∈ store.pages)
    (isCurrent : page.revisionAt page.currentVersion = some current)
    (version : revision.version = page.currentVersion + 1)
    (parent : revision.parentRevisionId = some current.revisionId)
    (linked : revision.factRevisionIds = revision.facts.map FactLine.factRevisionId)
    (sourced : Sourced store revision) :
    PagesSound { store with
      pages := store.pages.modify page.pageId (appendPageRevision revision) } := by
  refine ⟨sound.artifacts, ?_⟩
  intro other member
  rcases Table.mem_modify.mp member with ⟨before, isBefore, samePage, rfl⟩ | ⟨unchanged, -⟩
  · obtain rfl := Table.eq_of_key isBefore isPage samePage
    have pageSound := sound.pages before isBefore
    refine ⟨pageSound.consistent.append isCurrent version parent linked, ?_⟩
    simp only [appendPageRevision, List.mem_append, List.mem_singleton]
    rintro each (earlier | rfl)
    · exact pageSound.sourced each earlier
    · exact sourced
  · apply PageSound.grow _ (sound.pages other unchanged)
    exact ArtifactsGrow.of_eq rfl

theorem Page.revisionAt_mem {version : Nat} (found : page.revisionAt version = some revision) :
    revision ∈ page.revisions :=
  List.mem_of_find?_eq_some found

theorem PagesSound.created_from (sound : PagesSound store) (isPage : page ∈ store.pages)
    (isCurrent : page.revisionAt page.currentVersion = some current)
    (isTarget : target ∈ page.revisions) {body : PageBody} (sameFacts : body.facts = target.facts)
    (follows : LinksFollow store current target)
    (created : Created store page current kind target.artifactRevisionId title (some body)
      revision) :
    revision.factRevisionIds = target.factRevisionIds ∧
      PagesSound { store with
        pages := store.pages.modify page.pageId (appendPageRevision revision) } := by
  have pageSound := sound.pages page isPage
  have targetSourced := pageSound.sourced target isTarget
  have links : revision.factRevisionIds = target.factRevisionIds := by
    rw [created.links, targetSourced.pageFactIds sound.artifacts follows]
  have isBody : body = revision.body := Except.ok.inj created.body
  refine ⟨links, sound.append isPage isCurrent created.version created.parent ?_ ?_⟩
  · have facts : revision.facts = target.facts := by rw [← sameFacts, isBody]; rfl
    rw [links, facts]
    exact pageSound.consistent.linked target isTarget
  · obtain ⟨artifact, member, source, present, isSource, sameLinks⟩ := targetSourced
    exact ⟨artifact, member, source, present, by rw [isSource, created.artifact],
      by rw [sameLinks, links]⟩

theorem PagesSound.created_refresh (sound : PagesSound store) (isPage : page ∈ store.pages)
    (isCurrent : page.revisionAt page.currentVersion = some current)
    (created : Created store page current .refresh artifactRevisionId title none revision) :
    PagesSound { store with
      pages := store.pages.modify page.pageId (appendPageRevision revision) } := by
  have isBody := created.body
  rw [newBody, refreshedBody] at isBody
  cases isFound : store.artifactRevision artifactRevisionId with
  | none =>
      rw [isFound] at isBody
      nomatch isBody
  | some found =>
      obtain ⟨artifact, source⟩ := found
      rw [isFound] at isBody
      obtain ⟨isRow, present, isId⟩ := TaskKnowledge.artifactRevision_eq_some isFound
      have facts : revision.facts = source.facts :=
        congrArg PageBody.facts (Except.ok.inj isBody).symm
      have links : revision.factRevisionIds = source.factRevisionIds := by
        rw [created.links]
        simp [pageFactIds, artifactLinks, isFound]
      refine sound.append isPage isCurrent created.version created.parent ?_ ?_
      · rw [links, facts]
        exact (sound.artifacts artifact isRow).linked source present
      · exact ⟨artifact, isRow, source, present, by rw [isId, created.artifact], links.symm⟩

/-! ## Artifacts of a step -/

theorem PagesSound.insertArtifact (sound : PagesSound store) {revision : ArtifactRevision}
    {rest : List Ident} (named : revision.revisionId = .hashed "kartifactrev" (artifactId :: rest))
    (linked : revision.factRevisionIds = revision.facts.map FactLine.factRevisionId)
    (inserted : insertArtifactRevision store artifactId revision = .ok after) :
    PagesSound after := by
  rw [insertArtifactRevision, ensure_then_eq_ok, ensure_then_eq_ok, pure_eq_ok] at inserted
  obtain ⟨fresh, -, rfl⟩ := inserted
  have grows : ArtifactsGrow store { store with
      artifacts := store.artifacts.modify artifactId (appendArtifactRevision revision) } := by
    intro artifact member
    by_cases isArtifact : artifact.artifactId = artifactId
    · exact ⟨_, Table.mem_modify.mpr (.inl ⟨artifact, member, isArtifact, rfl⟩),
        fun other present => List.mem_append_left _ present⟩
    · exact ⟨artifact, Table.mem_modify.mpr (.inr ⟨member, isArtifact⟩), fun _ present => present⟩
  refine ⟨?_, fun page member => (sound.pages page member).grow grows⟩
  intro artifact member
  rcases Table.mem_modify.mp member with ⟨before, isBefore, rfl, rfl⟩ | ⟨unchanged, -⟩
  · have beforeSound := sound.artifacts before isBefore
    constructor
    · simp only [appendArtifactRevision, List.mem_append, List.mem_singleton]
      rintro other (earlier | rfl)
      · exact beforeSound.named other earlier
      · exact ⟨rest, named⟩
    · simp only [appendArtifactRevision, List.map_append, List.map_singleton]
      refine List.nodup_append.mpr ⟨beforeSound.once, List.nodup_singleton _, ?_⟩
      intro id isId other isOther same
      obtain ⟨present, isPresent, isName⟩ := List.mem_map.mp isId
      rw [List.mem_singleton] at isOther
      obtain ⟨found, isFound⟩ := sound.artifacts.lookup isBefore isPresent
      rw [isName, same, isOther, fresh] at isFound
      nomatch isFound
    · simp only [appendArtifactRevision, List.mem_append, List.mem_singleton]
      rintro other (earlier | rfl)
      · exact beforeSound.linked other earlier
      · exact linked
  · exact sound.artifacts artifact unchanged

theorem factLines_ids {ids : List Ident} (isLines : factLines store ids = some lines) :
    lines.map FactLine.factRevisionId = ids := by
  induction ids generalizing lines with
  | nil =>
      obtain rfl := Option.some.inj isLines
      rfl
  | cons id rest inductionHypothesis =>
      simp only [factLines, Option.bind_eq_bind, Option.bind_eq_some_iff, Option.pure_def,
        Option.some.injEq] at isLines
      obtain ⟨⟨fact, revision⟩, isFound, others, isOthers, rfl⟩ := isLines
      obtain ⟨-, -, isId⟩ := TaskKnowledge.factRevision_eq_some isFound
      rw [List.map_cons, inductionHypothesis isOthers, FactRevision.line, isId]

theorem PagesSound.refreshArtifact (sound : PagesSound store) {turn : TaskKnowledge × ArtifactMap}
    (refreshed : refreshArtifact operationId (store, artifacts) artifactId = .ok turn) :
    PagesSound turn.1 ∧ turn.1.pages = store.pages := by
  unfold Knowledge.refreshArtifact at refreshed
  split at refreshed
  · nomatch refreshed
  · next old isOld =>
      simp only at refreshed
      split at refreshed
      · nomatch refreshed
      · next lines isLines =>
          simp only [bind_eq_ok, pure_eq_ok] at refreshed
          obtain ⟨after, inserted, rfl⟩ := refreshed
          have samePages : after.pages = store.pages := by
            rw [insertArtifactRevision, ensure_then_eq_ok, ensure_then_eq_ok, pure_eq_ok] at inserted
            obtain ⟨-, -, rfl⟩ := inserted
            rfl
          exact ⟨sound.insertArtifact rfl (factLines_ids isLines).symm inserted, samePages⟩

/-- The pages of a store with their published versions. -/
def PublishedKept (before after : TaskKnowledge) : Prop :=
  ∀ pageId page, before.pages.lookup pageId = some page →
    ∃ later, after.pages.lookup pageId = some later ∧
      later.publishedVersion = page.publishedVersion

theorem PublishedKept.of_eq (same : after.pages = store.pages) : PublishedKept store after :=
  fun _ page found => ⟨page, same ▸ found, rfl⟩

theorem PublishedKept.trans {before middle after : TaskKnowledge}
    (first : PublishedKept before middle) (second : PublishedKept middle after) :
    PublishedKept before after := by
  intro pageId page found
  obtain ⟨later, isLater, same⟩ := first pageId page found
  obtain ⟨last, isLast, sameAgain⟩ := second pageId later isLater
  exact ⟨last, isLast, sameAgain.trans same⟩

theorem publishedKept_append (pageId : Ident) (revision : PageRevision) :
    PublishedKept store { store with
      pages := store.pages.modify pageId (appendPageRevision revision) } := by
  intro other page found
  by_cases same : other = pageId
  · subst same
    exact ⟨(appendPageRevision revision).apply page,
      by rw [Table.lookup_modify_self, found]; rfl, rfl⟩
  · exact ⟨page, by rw [Table.lookup_modify_of_ne same, found], rfl⟩

theorem PagesSound.refreshPage (sound : PagesSound store)
    (refreshed : refreshPage artifacts store pageId = .ok after) :
    PagesSound after ∧ PublishedKept store after := by
  unfold Knowledge.refreshPage at refreshed
  split at refreshed
  · nomatch refreshed
  · next page isFound =>
      split at refreshed
      · nomatch refreshed
      · next old isCurrent =>
          simp only [bind_eq_ok, pure_eq_ok] at refreshed
          obtain ⟨⟨middle, response⟩, isCreated, rfl⟩ := refreshed
          obtain ⟨revision, created, rfl⟩ := createPageRevision_ok isCreated
          exact ⟨sound.created_refresh (Table.mem_of_lookup isFound) isCurrent created,
            publishedKept_append page.pageId revision⟩

theorem PagesSound.refreshKnowledge (sound : PagesSound store) {artifactIds pageIds : List Ident}
    (refreshed : refreshKnowledge store operationId artifactIds pageIds = .ok after) :
    PagesSound after ∧ PublishedKept store after := by
  rw [Knowledge.refreshKnowledge, bind_eq_ok] at refreshed
  obtain ⟨⟨middle, artifacts⟩, isMiddle, refreshed⟩ := refreshed
  have middleSound := @foldlM_keeps _ _ _ (Knowledge.refreshArtifact operationId) artifactIds
    (fun turn => PagesSound turn.1 ∧ turn.1.pages = store.pages)
    (fun turn artifactId next good isNext => by
      obtain ⟨nextSound, samePages⟩ := good.1.refreshArtifact isNext
      exact ⟨nextSound, samePages.trans good.2⟩)
    (store, []) (middle, artifacts) ⟨sound, rfl⟩ isMiddle
  obtain ⟨afterSound, kept⟩ := @foldlM_keeps _ _ _ (Knowledge.refreshPage artifacts) pageIds
    (fun after => PagesSound after ∧ PublishedKept middle after)
    (fun store pageId next good isNext => by
      obtain ⟨nextSound, kept⟩ := good.1.refreshPage isNext
      exact ⟨nextSound, good.2.trans kept⟩)
    middle after ⟨middleSound.1, .of_eq rfl⟩ refreshed
  exact ⟨afterSound, (PublishedKept.of_eq middleSound.2).trans kept⟩

/-! ## Edits and reverts -/

theorem pageHead_ok (isHead : pageHead store pageId expectedVersion = .ok (page, current)) :
    store.pages.lookup pageId = some page ∧ page.currentVersion = expectedVersion ∧
      page.revisionAt page.currentVersion = some current := by
  unfold pageHead at isHead
  split at isHead
  · cases isHead
  · next found isFound =>
      rw [ensure_then_eq_ok] at isHead
      obtain ⟨isVersion, isHead⟩ := isHead
      split at isHead
      · cases isHead
      · next revision isRevision =>
          obtain ⟨rfl, rfl⟩ := Prod.mk.inj (pure_eq_ok.mp isHead)
          exact ⟨isFound, isVersion, isVersion ▸ isRevision⟩

/-- Nothing but the head of one page is new. -/
structure Revised (store after : TaskKnowledge) (pageId : Ident) (page : Page)
    (current revision : PageRevision) : Prop where
  found : store.pages.lookup pageId = some page
  head : page.revisionAt page.currentVersion = some current
  pages : after.pages = store.pages.modify pageId (appendPageRevision revision)

/-- What an edit makes of the current revision. -/
structure Edited (edit : PageEdit) (current revision : PageRevision) : Prop where
  title : revision.title = (edit.title.filter (· ≠ "")).getD current.title
  facts : revision.facts = current.facts
  limitations : revision.limitations = edit.limitations.getD current.limitations
  unresolved : revision.unresolved = edit.unresolved.getD current.unresolved
  annotation : revision.annotation = edit.annotation.or current.annotation
  artifact : revision.artifactRevisionId = current.artifactRevisionId
  links : revision.factRevisionIds = current.factRevisionIds

/-- A revision that is what the target is. -/
structure Reverted (target revision : PageRevision) : Prop where
  title : revision.title = target.title
  body : revision.body = target.body
  artifact : revision.artifactRevisionId = target.artifactRevisionId
  links : revision.factRevisionIds = target.factRevisionIds

theorem PagesSound.receipt (sound : PagesSound store) (commandId : String) (command : Command)
    (response : Response) : PagesSound (store.insertReceipt commandId command response) := by
  refine ⟨sound.artifacts, fun page member => ?_⟩
  apply PageSound.grow _ (sound.pages page member)
  exact ArtifactsGrow.of_eq rfl

theorem PagesSound.editPage (sound : PagesSound store) {edit : PageEdit}
    (edited : editPage store commandId pageId expectedVersion edit reason = .ok (after, response)) :
    PagesSound after ∧ (after = store ∨ ∃ page current revision,
      Revised store after pageId page current revision ∧ Edited edit current revision) := by
  rcases transact_eq_ok.mp edited with ⟨-, rfl⟩ | ⟨-, middle, ran, rfl⟩
  · exact ⟨sound, .inl rfl⟩
  · rw [bind_eq_ok] at ran
    obtain ⟨⟨page, current⟩, isHead, isCreated⟩ := ran
    obtain ⟨isFound, -, isCurrent⟩ := pageHead_ok isHead
    obtain ⟨revision, created, rfl⟩ := createPageRevision_ok isCreated
    have isPage := Table.mem_of_lookup isFound
    have present := Page.revisionAt_mem isCurrent
    have follows := ((sound.pages page isPage).sourced current present).follows_self sound.artifacts
    obtain ⟨links, middleSound⟩ :=
      sound.created_from isPage isCurrent present rfl follows created
    have isBody : edit.apply current.body = revision.body := Except.ok.inj created.body
    obtain rfl : page.pageId = pageId := Table.key_of_lookup isFound
    refine ⟨middleSound.receipt _ _ _, .inr ⟨page, current, revision, ⟨isFound, isCurrent, rfl⟩, ?_⟩⟩
    exact {
      title := created.title
      facts := congrArg PageBody.facts isBody.symm
      limitations := congrArg PageBody.limitations isBody.symm
      unresolved := congrArg PageBody.unresolved isBody.symm
      annotation := congrArg PageBody.annotation isBody.symm
      artifact := created.artifact
      links := links }

theorem PagesSound.revertPage (sound : PagesSound store) {targetVersion : Nat}
    (follows : ∀ page current target, store.pages.lookup pageId = some page →
      page.revisionAt page.currentVersion = some current →
      page.revisionAt targetVersion = some target → LinksFollow store current target)
    (reverted : revertPage store commandId pageId expectedVersion targetVersion reason =
      .ok (after, response)) :
    PagesSound after ∧ (after = store ∨ ∃ page current target revision,
      Revised store after pageId page current revision ∧
        page.revisionAt targetVersion = some target ∧ Reverted target revision) := by
  rcases transact_eq_ok.mp reverted with ⟨-, rfl⟩ | ⟨-, middle, ran, rfl⟩
  · exact ⟨sound, .inl rfl⟩
  · rw [bind_eq_ok] at ran
    obtain ⟨⟨page, current⟩, isHead, ran⟩ := ran
    obtain ⟨isFound, -, isCurrent⟩ := pageHead_ok isHead
    simp only at ran
    split at ran
    · nomatch ran
    · next target isTarget =>
        obtain ⟨revision, created, rfl⟩ := createPageRevision_ok ran
        have isPage := Table.mem_of_lookup isFound
        obtain ⟨links, middleSound⟩ := sound.created_from isPage isCurrent
          (Page.revisionAt_mem isTarget) rfl (follows page current target isFound isCurrent isTarget)
          created
        obtain rfl : page.pageId = pageId := Table.key_of_lookup isFound
        refine ⟨middleSound.receipt _ _ _, .inr ⟨page, current, target, revision,
          ⟨isFound, isCurrent, rfl⟩, isTarget, ?_⟩⟩
        exact {
          title := created.title
          body := (Except.ok.inj created.body).symm
          artifact := created.artifact
          links := links }

theorem Revised.publishedKept (revised : Revised store after pageId page current revision) :
    PublishedKept store after := by
  intro other found isFound
  obtain ⟨later, isLater, same⟩ := publishedKept_append pageId revision other found isFound
  exact ⟨later, revised.pages ▸ isLater, same⟩

/-! ## Runs -/

/-- A revert to a version whose artifact revision has no facts is made while the current version has
no links either. -/
def KeepsLinks (store : TaskKnowledge) : PageAction → Prop
  | .revert _ pageId _ targetVersion _ => ∀ page current target,
      store.pages.lookup pageId = some page → page.revisionAt page.currentVersion = some current →
      page.revisionAt targetVersion = some target → LinksFollow store current target
  | _ => True

/-- What refreshes, edits and reverts do to the pages; a command that is refused or answered by its
receipt does nothing. -/
def Exact (store : TaskKnowledge) (action : PageAction) (after : TaskKnowledge) : Prop :=
  match action with
  | .refresh _ _ _ => PublishedKept store after
  | .edit _ pageId _ edit _ => PublishedKept store after ∧ (after.pages = store.pages ∨
      ∃ page current revision, Revised store after pageId page current revision ∧
        Edited edit current revision)
  | .revert _ pageId _ targetVersion _ => PublishedKept store after ∧
      (after.pages = store.pages ∨ ∃ page current target revision,
        Revised store after pageId page current revision ∧
          page.revisionAt targetVersion = some target ∧ Reverted target revision)
  | _ => True

theorem PagesSound.finalizeArtifact (sound : PagesSound store) {factRevisionIds : List Ident}
    (built : finalizeArtifact store factRevisionIds = .ok (after, output)) : PagesSound after := by
  unfold Knowledge.finalizeArtifact at built
  split at built
  · nomatch built
  · next lines isLines =>
      simp only [bind_eq_ok, insertNew_eq_ok, pure_eq_ok, Prod.mk.injEq] at built
      obtain ⟨artifacts, ⟨absent, rfl⟩, rfl, -⟩ := built
      have newSound : ArtifactSound ⟨artifactIdOf store.taskId factRevisionIds,
          [builtArtifactRevision store.taskId store.objective factRevisionIds lines]⟩ := by
        constructor
        · simp only [List.mem_singleton, forall_eq]
          exact ⟨[.number 1], rfl⟩
        · exact List.nodup_singleton _
        · simp only [List.mem_singleton, forall_eq]
          exact (factLines_ids isLines).symm
      refine ⟨?_, fun page member => ?_⟩
      · intro artifact member
        rcases (Table.mem_insert absent).mp member with present | rfl
        · exact sound.artifacts artifact present
        · exact newSound
      · apply PageSound.grow _ (sound.pages page member)
        intro artifact present
        exact ⟨artifact, Table.mem_insert_of_mem present, fun _ inside => inside⟩

theorem PagesSound.finalizeTopicPage (sound : PagesSound store)
    (built : finalizeTopicPage store artifactRevisionId = .ok (after, output)) :
    PagesSound after := by
  unfold Knowledge.finalizeTopicPage at built
  split at built
  · nomatch built
  · next artifact source isFound =>
      simp only [bind_eq_ok, insertNew_eq_ok, pure_eq_ok, Prod.mk.injEq] at built
      obtain ⟨pages, ⟨absent, rfl⟩, rfl, -⟩ := built
      obtain ⟨isRow, present, -⟩ := TaskKnowledge.artifactRevision_eq_some isFound
      refine ⟨sound.artifacts, fun page member => ?_⟩
      rcases (Table.mem_insert absent).mp member with before | rfl
      · apply PageSound.grow _ (sound.pages page before)
        exact ArtifactsGrow.of_eq rfl
      · constructor
        · constructor
          · rfl
          · simp [builtPage, builtPageRevision]
          · exact .singleton _
          · simp only [builtPage, List.mem_singleton, forall_eq]
            exact (sound.artifacts artifact isRow).linked source present
        · simp only [builtPage, List.mem_singleton, forall_eq]
          exact ⟨artifact, isRow, source, present, rfl, rfl⟩

theorem PagesSound.finalizeBuild (sound : PagesSound store) {input : BuildInput}
    (built : finalizeBuild store commandId input = .ok (after, response)) : PagesSound after := by
  rcases transact_eq_ok.mp built with ⟨-, rfl⟩ | ⟨-, middle, ran, rfl⟩
  · exact sound
  · split at ran
    · nomatch ran
    · simp only [bind_eq_ok, ensure_eq_ok, pure_eq_ok, Prod.mk.injEq] at ran
      obtain ⟨-, -, ⟨finalized, output⟩, isFinal, rfl, -⟩ := ran
      have finalSound : PagesSound finalized := by
        cases input with
        | artifact factRevisionIds => exact sound.finalizeArtifact isFinal
        | topicPage artifactRevisionId => exact sound.finalizeTopicPage isFinal
      apply PagesSound.receipt
      refine ⟨finalSound.artifacts, fun page member => ?_⟩
      apply PageSound.grow _ (finalSound.pages page member)
      exact ArtifactsGrow.of_eq rfl

theorem PagesSound.reviewPage (sound : PagesSound store) {request : PageReviewRequest}
    (reviewed : reviewPage store commandId pageId request = .ok (after, response)) :
    PagesSound after := by
  rcases transact_eq_ok.mp reviewed with ⟨-, rfl⟩ | ⟨-, middle, ran, rfl⟩
  · exact sound
  · split at ran
    · nomatch ran
    · simp only [ensure_then_eq_ok] at ran
      obtain ⟨-, -, ran⟩ := ran
      split at ran
      · nomatch ran
      · simp only [pure_eq_ok, Prod.mk.injEq] at ran
        obtain ⟨rfl, -⟩ := ran
        apply PagesSound.receipt
        refine ⟨sound.artifacts, fun page member => ?_⟩
        have grows : ArtifactsGrow store
            (store.decidePage pageId request.publish request.expectedVersion) := .of_eq rfl
        apply PageSound.grow grows
        rcases Table.mem_modify.mp member with ⟨before, isBefore, -, rfl⟩ | ⟨unchanged, -⟩
        · have pageSound := sound.pages before isBefore
          exact ⟨⟨pageSound.consistent.versions, pageSound.consistent.first,
            pageSound.consistent.parents, pageSound.consistent.linked⟩, pageSound.sourced⟩
        · exact sound.pages page unchanged

theorem PagesSound.createIncrementalArtifact (sound : PagesSound store)
    {parentRevisionId route : Ident} {topic : String} {covered : List String}
    (created : createIncrementalArtifact store parentRevisionId route topic lines covered =
      .ok after) : PagesSound after := by
  unfold Knowledge.createIncrementalArtifact at created
  split at created
  · nomatch created
  · exact sound.insertArtifact rfl rfl created

/-- Each step keeps the pages sound, and the refreshes, edits and reverts do what they say. -/
theorem PagesSound.step (sound : PagesSound store) (action : PageAction)
    (clean : KeepsLinks store action) :
    PagesSound (stepPages store action) ∧ Exact store action (stepPages store action) := by
  cases action with
  | elsewhere rows =>
      refine ⟨⟨sound.artifacts, fun page member => ?_⟩, trivial⟩
      apply PageSound.grow _ (sound.pages page member)
      exact ArtifactsGrow.of_eq rfl
  | finalize commandId input =>
      refine ⟨?_, trivial⟩
      cases ran : Knowledge.finalizeBuild store commandId input with
      | error failure => simpa [stepPages, ran, Except.map, committed] using sound
      | ok done => simpa [stepPages, ran, Except.map, committed] using sound.finalizeBuild ran
  | incremental parentRevisionId route topic lines covered =>
      refine ⟨?_, trivial⟩
      cases ran : Knowledge.createIncrementalArtifact store parentRevisionId route topic lines covered with
      | error failure => simpa [stepPages, ran, committed] using sound
      | ok after => simpa [stepPages, ran, committed] using sound.createIncrementalArtifact ran
  | review commandId pageId request =>
      refine ⟨?_, trivial⟩
      cases ran : Knowledge.reviewPage store commandId pageId request with
      | error failure => simpa [stepPages, ran, Except.map, committed] using sound
      | ok done => simpa [stepPages, ran, Except.map, committed] using sound.reviewPage ran
  | refresh operationId artifactIds pageIds =>
      cases ran : Knowledge.refreshKnowledge store operationId artifactIds pageIds with
      | error failure =>
          simp only [stepPages, ran, committed]
          exact ⟨sound, .of_eq rfl⟩
      | ok after =>
          simp only [stepPages, ran, committed]
          exact sound.refreshKnowledge ran
  | edit commandId pageId expectedVersion edit reason =>
      cases ran : Knowledge.editPage store commandId pageId expectedVersion edit reason with
      | error failure =>
          simp only [stepPages, ran, Except.map, committed]
          exact ⟨sound, .of_eq rfl, .inl rfl⟩
      | ok done =>
          simp only [stepPages, ran, Except.map, committed]
          obtain ⟨doneSound, unchanged | ⟨page, current, revision, revised, edited⟩⟩ :=
            sound.editPage ran
          · exact ⟨doneSound, .of_eq (by rw [unchanged]), .inl (by rw [unchanged])⟩
          · exact ⟨doneSound, revised.publishedKept, .inr ⟨page, current, revision, revised, edited⟩⟩
  | revert commandId pageId expectedVersion targetVersion reason =>
      cases ran : Knowledge.revertPage store commandId pageId expectedVersion targetVersion reason with
      | error failure =>
          simp only [stepPages, ran, Except.map, committed]
          exact ⟨sound, .of_eq rfl, .inl rfl⟩
      | ok done =>
          simp only [stepPages, ran, Except.map, committed]
          obtain ⟨doneSound, unchanged | ⟨page, current, target, revision, revised, rest⟩⟩ :=
            sound.revertPage clean ran
          · exact ⟨doneSound, .of_eq (by rw [unchanged]), .inl (by rw [unchanged])⟩
          · exact ⟨doneSound, revised.publishedKept,
              .inr ⟨page, current, target, revision, revised, rest⟩⟩

theorem pagesSound_empty (taskId : Ident) (objective : String) :
    PagesSound (TaskKnowledge.empty taskId objective) := by
  constructor
  · intro artifact member
    nomatch member
  · intro page member
    nomatch member

def retiredFactRevision : FactRevision where
  revisionId := .text "revision"
  revision := 1
  parentRevisionId := none
  supersedesRevisionId := none
  claimText := "claim"
  temporalScope := []
  viewpointScope := []
  links := []

/-- A fact, current or retired. -/
def lonelyFact (lifecycle : Lifecycle) : Fact where
  factId := .text "fact"
  originCandidateId := .text "candidate"
  revisions := [retiredFactRevision]
  currentRevisionId := .text "revision"
  lifecycle := lifecycle
  currentness := .current
  observationSetId := none
  stateVersion := 0

/-- The other rows: the fact, and the running builds of its artifact and of the page. -/
def rowsWith (lifecycle : Lifecycle) : TaskKnowledge :=
  { TaskKnowledge.empty (.text "task") "topic" with
    facts := (Table.empty _).insert (lonelyFact lifecycle)
    buildRuns := ((Table.empty _).insert
        ⟨.artifact [.text "revision"], .text "run", "build", .running, 1, none⟩).insert
      ⟨.topicPage (artifactRevisionIdOf (artifactIdOf (.text "task") [.text "revision"]) 1),
        .text "page run", "page", .running, 1, none⟩ }

def lonelyArtifactId : Ident := artifactIdOf (.text "task") [.text "revision"]

def lonelyPageId : Ident := pageIdOf (.text "task") (artifactRevisionIdOf lonelyArtifactId 1)

/-- The only fact of a page is retired and the page refreshed; then the page is reverted to the version
with the fact, and from there to the one without. -/
def emptiedAndReverted : List PageAction :=
  [.elsewhere (rowsWith .current),
    .finalize "build" (.artifact [.text "revision"]),
    .finalize "page" (.topicPage (artifactRevisionIdOf lonelyArtifactId 1)),
    .elsewhere (rowsWith .retired),
    .refresh (.text "operation") [lonelyArtifactId] [lonelyPageId],
    .revert "with the fact" lonelyPageId 2 1 "",
    .revert "without it" lonelyPageId 3 2 ""]

/-- The bodies and the links of the versions of a page. -/
def listedAndLinked (store : TaskKnowledge) (pageId : Ident) : List (List Ident × List Ident) :=
  ((store.pages.lookup pageId).map Page.revisions).getD [] |>.map fun revision =>
    (revision.facts.map FactLine.factRevisionId, revision.factRevisionIds)

end Shiliu.Knowledge
