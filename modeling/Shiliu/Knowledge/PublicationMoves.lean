/-
Module: Shiliu.Knowledge.PublicationMoves
Purpose: What reviews, builds and page reviews leave alone, and what they leave behind. Facts,
  observations, artifacts, receipts, accepted candidates and succeeded builds stay for good; a fact
  is granted by one accepting review that observed all its evidence current; artifacts and pages
  belong to a succeeded build. One lemma for each transaction says that it keeps both.
Trusted boundary: none
Main exports: Grows, Granted, SoundStore.reserve, SoundStore.finalize, SoundStore.reviewPage
-/
import Shiliu.Knowledge.Publication

set_option linter.all false

namespace Shiliu.Knowledge

open Shiliu.Library Shiliu.Research

/-! ## Growing -/

/-- What stays of a store while reviews and builds go on. -/
structure Grows (before after : TaskKnowledge) : Prop where
  taskId : after.taskId = before.taskId
  accepted : ∀ id row, before.candidates.lookup id = some row → row.status = .accepted →
    after.candidates.lookup id = some row
  closed : ∀ id row, before.candidates.lookup id = some row → row.status ≠ .accepted →
    row.status ≠ .pendingReview → ∃ later, after.candidates.lookup id = some later ∧
      later.status ≠ .accepted ∧ later.status ≠ .pendingReview
  validations : ∀ id row, before.validations.lookup id = some row →
    after.validations.lookup id = some row
  facts : ∀ id row, before.facts.lookup id = some row → after.facts.lookup id = some row
  artifacts : ∀ id row, before.artifacts.lookup id = some row →
    after.artifacts.lookup id = some row
  pages : ∀ id row, before.pages.lookup id = some row → ∃ later,
    after.pages.lookup id = some later ∧ later.revisions = row.revisions ∧
      later.currentVersion = row.currentVersion
  buildRuns : ∀ input run, before.buildRuns.lookup input = some run → ∃ later,
    after.buildRuns.lookup input = some later ∧
      (run.status = .succeeded → later.status = .succeeded)
  receipts : ∀ id row, before.receipts.lookup id = some row → after.receipts.lookup id = some row

namespace Grows

variable {before middle after : TaskKnowledge}

theorem refl (store : TaskKnowledge) : Grows store store where
  taskId := rfl
  accepted _ _ found _ := found
  closed _ row found notAccepted notPending := ⟨row, found, notAccepted, notPending⟩
  validations _ _ found := found
  facts _ _ found := found
  artifacts _ _ found := found
  pages _ row found := ⟨row, found, rfl, rfl⟩
  buildRuns _ run found := ⟨run, found, id⟩
  receipts _ _ found := found

theorem trans (first : Grows before middle) (second : Grows middle after) :
    Grows before after where
  taskId := second.taskId.trans first.taskId
  accepted id row found isAccepted :=
    second.accepted id row (first.accepted id row found isAccepted) isAccepted
  closed id row found notAccepted notPending := by
    obtain ⟨later, isLater, stillNot, notOpen⟩ := first.closed id row found notAccepted notPending
    exact second.closed id later isLater stillNot notOpen
  validations id row found := second.validations id row (first.validations id row found)
  facts id row found := second.facts id row (first.facts id row found)
  artifacts id row found := second.artifacts id row (first.artifacts id row found)
  pages id row found := by
    obtain ⟨later, isLater, sameRevisions, sameVersion⟩ := first.pages id row found
    obtain ⟨last, isLast, lastRevisions, lastVersion⟩ := second.pages id later isLater
    exact ⟨last, isLast, lastRevisions.trans sameRevisions, lastVersion.trans sameVersion⟩
  buildRuns input run found := by
    obtain ⟨later, isLater, keeps⟩ := first.buildRuns input run found
    obtain ⟨last, isLast, keepsOn⟩ := second.buildRuns input later isLater
    exact ⟨last, isLast, fun succeeded => keepsOn (keeps succeeded)⟩
  receipts id row found := second.receipts id row (first.receipts id row found)

theorem insertReceipt (store : TaskKnowledge) (commandId : String) (command : Command)
    (response : Response) : Grows store (store.insertReceipt commandId command response) :=
  { refl store with
    receipts := fun _ _ found => Table.lookup_insert_of_lookup found }

/-- A decision on a candidate that was still open. -/
theorem decide {candidateId : Ident} {candidate : Candidate} {status : CandidateStatus}
    (found : before.candidates.lookup candidateId = some candidate)
    (notAccepted : candidate.status ≠ .accepted)
    (stays : candidate.status ≠ .pendingReview → status ≠ .accepted)
    (closes : status ≠ .pendingReview) : Grows before (before.decide candidateId status) :=
  { refl before with
    accepted := by
      intro id row isRow isAccepted
      by_cases same : id = candidateId
      · subst same
        rw [found] at isRow
        cases isRow
        exact absurd isAccepted notAccepted
      · exact (Table.lookup_modify_of_ne same).trans isRow
    closed := by
      intro id row isRow notYet notPending
      by_cases same : id = candidateId
      · subst same
        rw [found] at isRow
        cases isRow
        refine ⟨(decideCandidate status).apply candidate, ?_, stays notPending, closes⟩
        exact Table.lookup_modify_self.trans (by rw [found]; rfl)
      · exact ⟨row, (Table.lookup_modify_of_ne same).trans isRow, notYet, notPending⟩ }

end Grows

/-! ## Observing evidence -/

/-- The uses of a candidate with the citations they stand for. -/
def Candidate.evidence (candidate : Candidate) : List (Ident × Ident) :=
  candidate.evidenceUseIds.zip candidate.citationIds

/-- The links a fact gets from the review under a command id. -/
def groundedLinks (commandId : String) (evidence : List (Ident × Ident)) : List EvidenceLink :=
  evidence.map fun item => ⟨item.2, item.1, validationId commandId item.1⟩

/-- All the evidence was observed current by one command. -/
def ObservedCurrent (validations : Table Validation.observationId) (commandId : String)
    (evidence : List (Ident × Ident)) : Prop :=
  ∀ item ∈ evidence, validations.lookup (validationId commandId item.1) =
    some ⟨validationId commandId item.1, item.1, item.2, .current⟩

/-- What the loop over the uses does: observations are only added, and when every outcome is
current the links are those of all the evidence, each with its current observation. -/
structure Observes (commandId : String) (evidence : List (Ident × Ident))
    (found after : EvidenceValidation) : Prop where
  kept : ∀ id row, found.validations.lookup id = some row → after.validations.lookup id = some row
  outcomes : ∀ outcome ∈ found.outcomes, outcome ∈ after.outcomes
  current : (∀ outcome ∈ after.outcomes, outcome = .current) →
    after.links = found.links ++ groundedLinks commandId evidence ∧
      ObservedCurrent after.validations commandId evidence

/-- A return in the middle leaves an outcome that is not current. -/
theorem Observes.broken (commandId : String) (evidence : List (Ident × Ident))
    (found : EvidenceValidation) : Observes commandId evidence found found.broken where
  kept _ _ isRow := isRow
  outcomes outcome isIn := List.mem_append_left _ isIn
  current all := by
    have last : EvidenceOutcome.invalid ∈ found.broken.outcomes := by
      simp [EvidenceValidation.broken]
    cases all .invalid last

variable {found : EvidenceValidation}

theorem observeUses_spec {uses : Table EvidenceUse.useId} {view : EvidenceView} {commandId : String}
    {attemptId : Ident} {evidence : List (Ident × Ident)} {after : EvidenceValidation}
    (ran : observeUses uses view commandId attemptId evidence found = .ok after) :
    Observes commandId evidence found after := by
  induction evidence generalizing found with
  | nil =>
      cases ran
      exact
        { kept := fun _ _ isRow => isRow
          outcomes := fun _ isIn => isIn
          current := fun _ => ⟨(List.append_nil _).symm, fun _ isIn => nomatch isIn⟩ }
  | cons item rest inductionHypothesis =>
      unfold observeUses at ran
      split at ran
      · cases ran
        exact .broken commandId _ found
      · rename_i use isUse
        split at ran
        · cases ran
          exact .broken commandId _ found
        · rename_i fits
          rw [not_or, not_ne_iff, not_ne_iff] at fits
          obtain ⟨validations, isNew, ran⟩ := bind_eq_ok.mp ran
          obtain ⟨absent, rfl⟩ := insertNew_eq_ok.mp isNew
          have later := inductionHypothesis ran
          refine
            { kept := fun id row isRow =>
                later.kept id row (Table.lookup_insert_of_lookup isRow)
              outcomes := fun outcome isIn =>
                later.outcomes outcome (List.mem_append_left _ isIn)
              current := ?_ }
          intro all
          obtain ⟨isLinks, restObserved⟩ := later.current all
          constructor
          · rw [isLinks, fits.2, groundedLinks, groundedLinks, List.map_cons, List.append_assoc]
            rfl
          · have inserted := later.kept _ _ (Table.lookup_insert_self absent)
            have isCurrent : (view item.1).outcome = .current :=
              all _ (later.outcomes _ (List.mem_append_right _ (List.mem_singleton_self _)))
            intro other isIn
            rcases List.mem_cons.mp isIn with rfl | isIn
            · rw [isCurrent, fits.2] at inserted
              exact inserted
            · exact restObserved other isIn

theorem validateCandidateEvidence_spec {store : TaskKnowledge} {view : EvidenceView}
    {commandId : String} {candidate : Candidate}
    (ran : validateCandidateEvidence store view commandId candidate = .ok found) :
    (∀ id row, store.validations.lookup id = some row →
      found.validations.lookup id = some row) ∧
      (found.allCurrent = true → candidate.evidence ≠ [] ∧
        candidate.evidenceUseIds.length = candidate.citationIds.length ∧
        found.links = groundedLinks commandId candidate.evidence ∧
        ObservedCurrent found.validations commandId candidate.evidence) := by
  have observes : Observes commandId candidate.evidence ⟨store.validations, [], []⟩ found ∧
      (found.allCurrent = true →
        candidate.evidenceUseIds.length = candidate.citationIds.length) := by
    unfold validateCandidateEvidence at ran
    simp only at ran
    split at ran
    · cases ran
      exact ⟨.broken commandId _ _, nofun⟩
    · rename_i fits
      rw [not_or, not_ne_iff] at fits
      exact ⟨observeUses_spec ran, fun _ => fits.2⟩
  obtain ⟨observes, lengths⟩ := observes
  refine ⟨observes.kept, fun allCurrent => ?_⟩
  have sameLength := lengths allCurrent
  simp only [EvidenceValidation.allCurrent, Bool.and_eq_true, Bool.not_eq_true',
    List.all_eq_true, decide_eq_true_eq] at allCurrent
  obtain ⟨isLinks, observed⟩ := observes.current allCurrent.2
  rw [List.nil_append] at isLinks
  refine ⟨?_, sameLength, isLinks, observed⟩
  intro noEvidence
  rw [isLinks, noEvidence] at allCurrent
  cases allCurrent.1

/-! ## What the rows say of one another -/

/-- A fact: what one accepting review made of its candidate, with all its evidence observed current
under the command id of that review. -/
structure GrantedBy (store : TaskKnowledge) (fact : Fact) (candidate : Candidate)
    (commandId : String) : Prop where
  origin : store.candidates.lookup fact.originCandidateId = some candidate
  accepted : candidate.status = .accepted
  evidence : candidate.evidence ≠ []
  lengths : candidate.evidenceUseIds.length = candidate.citationIds.length
  made : fact = initialFact candidate (groundedLinks commandId candidate.evidence)
  observed : ObservedCurrent store.validations commandId candidate.evidence
  review : ∃ request version, request.decision = .accept ∧
    store.receipts.lookup commandId =
      some ⟨commandId, .reviewCandidate candidate.candidateId request,
        .candidateReviewed candidate.candidateId .accepted version
          (some (initialRevisionId candidate.candidateId)) none⟩

/-- What a finalized build answered is there. -/
def OutputSound (store : TaskKnowledge) : BuildInput → BuildOutput → Prop
  | .artifact facts, .artifact artifactId artifactRevisionId revision =>
      artifactId = artifactIdOf store.taskId facts ∧
        artifactRevisionId = artifactRevisionIdOf artifactId 1 ∧ revision = 1 ∧
        ∃ artifact, store.artifacts.lookup artifactId = some artifact
  | .topicPage artifactRevisionId, .topicPage pageId pageRevisionId version _ =>
      pageId = pageIdOf store.taskId artifactRevisionId ∧
        pageRevisionId = pageRevisionIdOf pageId 1 ∧ version = 1 ∧
        ∃ page, store.pages.lookup pageId = some page
  | _, _ => False

/-- The candidate has been decided, and not accepted. -/
def Closed (store : TaskKnowledge) (candidateId : Ident) : Prop :=
  ∃ candidate, store.candidates.lookup candidateId = some candidate ∧
    candidate.status ≠ .accepted ∧ candidate.status ≠ .pendingReview

/-- A receipt tells what its command did. -/
def ReceiptSound (store : TaskKnowledge) (receipt : Receipt) : Prop :=
  match receipt.command, receipt.response with
  | .reviewCandidate candidateId _, .candidateReviewed candidateId' status _ fact _ =>
      candidateId' = candidateId ∧
        (status = .accepted → fact = some (initialRevisionId candidateId) ∧
          store.isAccepted candidateId = true) ∧
        (status ≠ .accepted → Closed store candidateId)
  | .build input, .built _ _ _ output => ∀ built, output = some built → OutputSound store input built
  | .reviewPage pageId request, .pageReviewed pageId' _ version status =>
      pageId' = pageId ∧ version = request.expectedVersion ∧
        status = if request.publish then .published else .returned
  | _, _ => False

/-- The build of an input has succeeded. -/
def Succeeded (store : TaskKnowledge) (input : BuildInput) : Prop :=
  ∃ run, store.buildRuns.lookup input = some run ∧ run.status = .succeeded

/-- An artifact is the output of the build of its facts. -/
structure ArtifactOf (store : TaskKnowledge) (artifact : Artifact) (facts : List Ident)
    (revision : ArtifactRevision) : Prop where
  identity : artifact.artifactId = artifactIdOf store.taskId facts
  succeeded : Succeeded store (.artifact facts)
  revisions : artifact.revisions = [revision]
  revisionId : revision.revisionId = artifactRevisionIdOf artifact.artifactId 1
  isFirst : revision.revision = 1
  facts : revision.factRevisionIds = facts

/-- A page is the output of the build of its artifact revision. -/
structure PageOf (store : TaskKnowledge) (page : Page) (artifact : Artifact)
    (facts : List Ident) (source : ArtifactRevision) (revision : PageRevision) : Prop where
  identity : page.pageId = pageIdOf store.taskId source.revisionId
  succeeded : Succeeded store (.topicPage source.revisionId)
  found : store.artifacts.lookup artifact.artifactId = some artifact
  built : ArtifactOf store artifact facts source
  revisions : page.revisions = [revision]
  revisionId : revision.revisionId = pageRevisionIdOf page.pageId 1
  version : revision.version = 1
  current : page.currentVersion = 1
  artifact : revision.artifactRevisionId = source.revisionId
  facts : revision.factRevisionIds = facts

/-- What holds of the rows of a task at every moment. -/
structure SoundStore (store : TaskKnowledge) : Prop where
  granted : ∀ id fact, store.facts.lookup id = some fact →
    ∃ candidate commandId, GrantedBy store fact candidate commandId
  accepted : ∀ id candidate, store.candidates.lookup id = some candidate →
    candidate.status = .accepted → ∃ fact, store.facts.lookup (factIdOf id) = some fact
  receipts : ∀ id receipt, store.receipts.lookup id = some receipt → ReceiptSound store receipt
  runs : ∀ input run, store.buildRuns.lookup input = some run →
    run.status = .running ∨ run.status = .succeeded
  artifacts : ∀ id artifact, store.artifacts.lookup id = some artifact →
    ∃ facts revision, ArtifactOf store artifact facts revision
  pages : ∀ id page, store.pages.lookup id = some page →
    ∃ artifact facts source revision, PageOf store page artifact facts source revision

theorem SoundStore.empty (taskId : Ident) (objective : String) :
    SoundStore (TaskKnowledge.empty taskId objective) where
  granted _ _ found := nomatch found
  accepted _ _ found := nomatch found
  receipts _ _ found := nomatch found
  runs _ _ found := nomatch found
  artifacts _ _ found := nomatch found
  pages _ _ found := nomatch found

/-! ## What was said of a row holds on -/

section Mono

variable {store after : TaskKnowledge}

theorem isAccepted_iff {candidateId : Ident} :
    store.isAccepted candidateId = true ↔
      ∃ candidate, store.candidates.lookup candidateId = some candidate ∧
        candidate.status = .accepted := by
  simp [TaskKnowledge.isAccepted, Option.any_eq_true]

theorem Grows.isAccepted (grows : Grows store after) {candidateId : Ident}
    (accepted : store.isAccepted candidateId = true) : after.isAccepted candidateId = true := by
  obtain ⟨candidate, found, isAccepted⟩ := isAccepted_iff.mp accepted
  exact isAccepted_iff.mpr ⟨candidate, grows.accepted _ _ found isAccepted, isAccepted⟩

theorem Closed.mono {candidateId : Ident} (isClosed : Closed store candidateId)
    (grows : Grows store after) : Closed after candidateId := by
  obtain ⟨candidate, found, notAccepted, notPending⟩ := isClosed
  exact grows.closed candidateId candidate found notAccepted notPending

theorem Closed.not_accepted {candidateId : Ident} (isClosed : Closed store candidateId) :
    store.isAccepted candidateId = false := by
  obtain ⟨candidate, found, notAccepted, -⟩ := isClosed
  simp [TaskKnowledge.isAccepted, found, notAccepted]

theorem GrantedBy.mono {fact : Fact} {candidate : Candidate} {commandId : String}
    (granted : GrantedBy store fact candidate commandId) (grows : Grows store after) :
    GrantedBy after fact candidate commandId where
  origin := grows.accepted _ _ granted.origin granted.accepted
  accepted := granted.accepted
  evidence := granted.evidence
  lengths := granted.lengths
  made := granted.made
  observed item isIn := grows.validations _ _ (granted.observed item isIn)
  review := by
    obtain ⟨request, version, isAccept, found⟩ := granted.review
    exact ⟨request, version, isAccept, grows.receipts _ _ found⟩

variable {input : BuildInput} {artifact : Artifact} {facts : List Ident}

theorem Succeeded.mono (succeeded : Succeeded store input) (grows : Grows store after) :
    Succeeded after input := by
  obtain ⟨run, found, isSucceeded⟩ := succeeded
  obtain ⟨later, isLater, keeps⟩ := grows.buildRuns input run found
  exact ⟨later, isLater, keeps isSucceeded⟩

theorem OutputSound.mono {output : BuildOutput} (sound : OutputSound store input output)
    (grows : Grows store after) :
    OutputSound after input output := by
  cases input with
  | artifact facts =>
      cases output with
      | artifact artifactId artifactRevisionId revision =>
          obtain ⟨isId, isRevision, isFirst, artifact, found⟩ := sound
          refine ⟨?_, isRevision, isFirst, artifact, grows.artifacts _ _ found⟩
          rw [grows.taskId]
          exact isId
      | topicPage => exact sound.elim
  | topicPage artifactRevisionId =>
      cases output with
      | artifact => exact sound.elim
      | topicPage pageId pageRevisionId version status =>
          obtain ⟨isId, isRevision, isFirst, page, found⟩ := sound
          obtain ⟨later, isLater, -⟩ := grows.pages _ _ found
          refine ⟨?_, isRevision, isFirst, later, isLater⟩
          rw [grows.taskId]
          exact isId

theorem ReceiptSound.mono {receipt : Receipt} (sound : ReceiptSound store receipt)
    (grows : Grows store after) : ReceiptSound after receipt := by
  unfold ReceiptSound at sound ⊢
  split at sound
  · obtain ⟨same, whenAccepted, otherwise⟩ := sound
    exact ⟨same, fun isAccepted => ⟨(whenAccepted isAccepted).1,
      grows.isAccepted (whenAccepted isAccepted).2⟩, fun notAccepted =>
      (otherwise notAccepted).mono grows⟩
  · exact fun built isBuilt => (sound built isBuilt).mono grows
  · exact sound
  · exact sound.elim

theorem ArtifactOf.mono {revision : ArtifactRevision}
    (built : ArtifactOf store artifact facts revision) (grows : Grows store after) :
    ArtifactOf after artifact facts revision :=
  { built with
    identity := built.identity.trans (by rw [grows.taskId])
    succeeded := built.succeeded.mono grows }

theorem PageOf.mono {page later : Page} {source : ArtifactRevision} {revision : PageRevision}
    (built : PageOf store page artifact facts source revision) (grows : Grows store after)
    (sameId : later.pageId = page.pageId) (sameRevisions : later.revisions = page.revisions)
    (sameVersion : later.currentVersion = page.currentVersion) :
    PageOf after later artifact facts source revision :=
  { built with
    identity := by rw [sameId, built.identity, grows.taskId]
    succeeded := built.succeeded.mono grows
    found := grows.artifacts _ _ built.found
    built := built.built.mono grows
    revisions := sameRevisions.trans built.revisions
    revisionId := built.revisionId.trans (by rw [sameId])
    current := sameVersion.trans built.current }

end Mono

/-- The rows of a later store are those of the earlier one, or are accounted for. A table that is left as
it was is not mentioned. -/
structure Adds (store after : TaskKnowledge) : Prop where
  grows : Grows store after
  granted : ∀ id fact, after.facts.lookup id = some fact →
    store.facts.lookup id = some fact ∨
      ∃ candidate commandId, GrantedBy after fact candidate commandId := by
    exact fun _ _ found => .inl found
  accepted : ∀ id candidate, after.candidates.lookup id = some candidate →
    candidate.status = .accepted → store.candidates.lookup id = some candidate ∨
      ∃ fact, after.facts.lookup (factIdOf id) = some fact := by
    exact fun _ _ found _ => .inl found
  receipts : ∀ id receipt, after.receipts.lookup id = some receipt →
    store.receipts.lookup id = some receipt ∨ ReceiptSound after receipt := by
    exact fun _ _ found => .inl found
  runs : ∀ input run, after.buildRuns.lookup input = some run →
    (∃ before, store.buildRuns.lookup input = some before ∧ run.status = before.status) ∨
      run.status = .running ∨ run.status = .succeeded := by
    exact fun _ run found => .inl ⟨run, found, rfl⟩
  artifacts : ∀ id artifact, after.artifacts.lookup id = some artifact →
    store.artifacts.lookup id = some artifact ∨
      ∃ facts revision, ArtifactOf after artifact facts revision := by
    exact fun _ _ found => .inl found
  pages : ∀ id page, after.pages.lookup id = some page →
    (∃ before, store.pages.lookup id = some before ∧ page.pageId = before.pageId ∧
      page.revisions = before.revisions ∧ page.currentVersion = before.currentVersion) ∨
      ∃ artifact facts source revision, PageOf after page artifact facts source revision := by
    exact fun _ page found => .inl ⟨page, found, rfl, rfl, rfl⟩

theorem SoundStore.add {store after : TaskKnowledge} (sound : SoundStore store)
    (adds : Adds store after) : SoundStore after where
  granted id fact found := by
    rcases adds.granted id fact found with before | granted
    · obtain ⟨candidate, commandId, granted⟩ := sound.granted id fact before
      exact ⟨candidate, commandId, granted.mono adds.grows⟩
    · exact granted
  accepted id candidate found isAccepted := by
    rcases adds.accepted id candidate found isAccepted with before | granted
    · obtain ⟨fact, isFact⟩ := sound.accepted id candidate before isAccepted
      exact ⟨fact, adds.grows.facts _ _ isFact⟩
    · exact granted
  receipts id receipt found := by
    rcases adds.receipts id receipt found with before | new
    · exact (sound.receipts id receipt before).mono adds.grows
    · exact new
  runs input run found := by
    rcases adds.runs input run found with ⟨before, isBefore, same⟩ | new
    · rw [same]
      exact sound.runs input before isBefore
    · exact new
  artifacts id artifact found := by
    rcases adds.artifacts id artifact found with before | new
    · obtain ⟨facts, revision, built⟩ := sound.artifacts id artifact before
      exact ⟨facts, revision, built.mono adds.grows⟩
    · exact new
  pages id page found := by
    rcases adds.pages id page found with ⟨before, isBefore, sameId, sameRevisions, sameVersion⟩ | new
    · obtain ⟨artifact, facts, source, revision, built⟩ := sound.pages id before isBefore
      exact ⟨artifact, facts, source, revision,
        built.mono adds.grows sameId sameRevisions sameVersion⟩
    · exact new

theorem lookup_insertReceipt {store middle : TaskKnowledge} {commandId : String}
    (same : middle.receipts = store.receipts) (unused : store.receipts.lookup commandId = none)
    (command : Command) (response : Response) :
    (middle.insertReceipt commandId command response).receipts.lookup commandId =
      some ⟨commandId, command, response⟩ :=
  Table.lookup_insert_self (same ▸ unused : middle.receipts.lookup commandId = none)

namespace Adds

variable {store middle after : TaskKnowledge}

theorem refl (store : TaskKnowledge) : Adds store store where
  grows := .refl store

theorem trans (first : Adds store middle) (second : Adds middle after) : Adds store after where
  grows := first.grows.trans second.grows
  granted id fact found := by
    rcases second.granted id fact found with before | granted
    · rcases first.granted id fact before with old | ⟨candidate, commandId, granted⟩
      · exact .inl old
      · exact .inr ⟨candidate, commandId, granted.mono second.grows⟩
    · exact .inr granted
  accepted id candidate found isAccepted := by
    rcases second.accepted id candidate found isAccepted with before | granted
    · rcases first.accepted id candidate before isAccepted with old | ⟨fact, isFact⟩
      · exact .inl old
      · exact .inr ⟨fact, second.grows.facts _ _ isFact⟩
    · exact .inr granted
  receipts id receipt found := by
    rcases second.receipts id receipt found with before | new
    · exact (first.receipts id receipt before).imp_right fun sound => sound.mono second.grows
    · exact .inr new
  runs input run found := by
    rcases second.runs input run found with ⟨before, isBefore, same⟩ | new
    · rw [same]
      exact first.runs input before isBefore
    · exact .inr new
  artifacts id artifact found := by
    rcases second.artifacts id artifact found with before | new
    · rcases first.artifacts id artifact before with old | ⟨facts, revision, built⟩
      · exact .inl old
      · exact .inr ⟨facts, revision, built.mono second.grows⟩
    · exact .inr new
  pages id page found := by
    rcases second.pages id page found with ⟨before, isBefore, sameId, sameRevisions, sameVersion⟩ | new
    · rcases first.pages id before isBefore with
        ⟨old, isOld, oldId, oldRevisions, oldVersion⟩ | ⟨artifact, facts, source, revision, built⟩
      · exact .inl ⟨old, isOld, sameId.trans oldId, sameRevisions.trans oldRevisions,
          sameVersion.trans oldVersion⟩
      · exact .inr ⟨artifact, facts, source, revision,
          built.mono second.grows sameId sameRevisions sameVersion⟩
    · exact .inr new

theorem insertReceipt {commandId : String} {command : Command} {response : Response}
    (new : ReceiptSound (store.insertReceipt commandId command response)
      ⟨commandId, command, response⟩) :
    Adds store (store.insertReceipt commandId command response) where
  grows := .insertReceipt store commandId command response
  receipts id receipt found := by
    rcases Table.lookup_insert_cases found with before | ⟨-, -, rfl⟩
    · exact .inl before
    · exact .inr new

theorem validations {more : Table Validation.observationId}
    (kept : ∀ id row, store.validations.lookup id = some row → more.lookup id = some row) :
    Adds store { store with validations := more } where
  grows := { Grows.refl store with validations := kept }

theorem insertCandidate {candidate : Candidate} (notAccepted : candidate.status ≠ .accepted) :
    Adds store { store with candidates := store.candidates.insert candidate } where
  grows :=
    { Grows.refl store with
      accepted := fun _ _ found _ => Table.lookup_insert_of_lookup found
      closed := fun _ row found notYet notPending =>
        ⟨row, Table.lookup_insert_of_lookup found, notYet, notPending⟩ }
  accepted id row found isAccepted := by
    rcases Table.lookup_insert_cases found with before | ⟨-, -, rfl⟩
    · exact .inl before
    · exact absurd isAccepted notAccepted

theorem close {candidateId : Ident} {candidate : Candidate} {status : CandidateStatus}
    (found : store.candidates.lookup candidateId = some candidate)
    (isOpen : candidate.status ≠ .accepted) (notAccepted : status ≠ .accepted)
    (notPending : status ≠ .pendingReview) : Adds store (store.decide candidateId status) where
  grows := .decide found isOpen (fun _ => notAccepted) notPending
  accepted id row isRow isAccepted := by
    rcases Table.lookup_modify_cases isRow with ⟨-, before⟩ | ⟨-, before, -, rfl⟩
    · exact .inl before
    · exact absurd isAccepted notAccepted

end Adds

/-! ## Reviews -/

section Review

variable {store after : TaskKnowledge} {view : EvidenceView} {commandId : String}
  {candidateId : Ident} {candidate : Candidate} {request : ReviewRequest} {response : Response}

variable {status : CandidateStatus} {version : Nat}

theorem lookup_decide (found : store.candidates.lookup candidateId = some candidate) :
    (store.decide candidateId status).candidates.lookup candidateId =
      some ((decideCandidate status).apply candidate) :=
  Table.lookup_modify_self.trans (by rw [found]; rfl)

theorem closed_decide (found : store.candidates.lookup candidateId = some candidate)
    (notAccepted : status ≠ .accepted) (notPending : status ≠ .pendingReview) :
    Closed (store.decide candidateId status) candidateId :=
  ⟨_, lookup_decide found, notAccepted, notPending⟩

theorem Adds.closing {middle : TaskKnowledge} {command : Command} {fact edited : Option Ident}
    (before : Adds store middle) (found : middle.candidates.lookup candidateId = some candidate)
    (isOpen : candidate.status ≠ .accepted) (notAccepted : status ≠ .accepted)
    (notPending : status ≠ .pendingReview)
    (isReview : command = .reviewCandidate candidateId request) :
    Adds store ((middle.decide candidateId status).insertReceipt commandId command
      (.candidateReviewed candidateId status version fact edited)) := by
  refine (before.trans (.close found isOpen notAccepted notPending)).trans (.insertReceipt ?_)
  rw [isReview]
  exact ⟨rfl, fun isAccepted => absurd isAccepted notAccepted, fun _ =>
    (closed_decide found notAccepted notPending).mono (.insertReceipt _ _ _ _)⟩

theorem Adds.granting {middle : TaskKnowledge} {fact : Fact} (before : Adds store middle)
    (unused : middle.receipts.lookup commandId = none)
    (found : middle.candidates.lookup candidate.candidateId = some candidate)
    (isPending : candidate.status = .pendingReview) (evidence : candidate.evidence ≠ [])
    (lengths : candidate.evidenceUseIds.length = candidate.citationIds.length)
    (observed : ObservedCurrent middle.validations commandId candidate.evidence)
    (made : fact = initialFact candidate (groundedLinks commandId candidate.evidence))
    (absent : middle.facts.lookup fact.factId = none) (isAccept : request.decision = .accept) :
    Adds store ((TaskKnowledge.decide { middle with facts := middle.facts.insert fact }
        candidate.candidateId .accepted).insertReceipt commandId
      (.reviewCandidate candidate.candidateId request)
      (.candidateReviewed candidate.candidateId .accepted version
        (some (initialRevisionId candidate.candidateId)) none)) := by
  refine before.trans ?_
  have notAccepted : candidate.status ≠ .accepted := by rw [isPending]; nofun
  have isFactId : fact.factId = factIdOf candidate.candidateId := by rw [made]; rfl
  have isOrigin : fact.originCandidateId = candidate.candidateId := by rw [made]; rfl
  have inserted : Grows middle { middle with facts := middle.facts.insert fact } :=
    { Grows.refl middle with facts := fun _ _ isFact => Table.lookup_insert_of_lookup isFact }
  have accepts : CandidateStatus.accepted ≠ .pendingReview := nofun
  have decided := inserted.trans (Grows.decide found notAccepted
    (fun notPending => absurd isPending notPending) accepts)
  generalize isResponse : Response.candidateReviewed candidate.candidateId .accepted version
    (some (initialRevisionId candidate.candidateId)) none = response
  generalize isCommand : Command.reviewCandidate candidate.candidateId request = command
  have grows := decided.trans (.insertReceipt _ commandId command response)
  -- the candidate as its decision leaves it
  have isRow : ((TaskKnowledge.decide { middle with facts := middle.facts.insert fact }
      candidate.candidateId .accepted).insertReceipt commandId command response).candidates.lookup
        candidate.candidateId = some ((decideCandidate .accepted).apply candidate) :=
    lookup_decide found
  have isReceipt : ((TaskKnowledge.decide { middle with facts := middle.facts.insert fact }
      candidate.candidateId .accepted).insertReceipt commandId command response).receipts.lookup
        commandId = some ⟨commandId, command, response⟩ :=
    lookup_insertReceipt rfl unused command response
  refine
    { grows := grows
      granted := ?_
      accepted := ?_
      receipts := ?_ }
  · intro id row isFact
    rcases Table.lookup_insert_cases isFact with old | ⟨-, -, rfl⟩
    · exact .inl old
    · refine .inr ⟨(decideCandidate .accepted).apply candidate, commandId,
        { origin := isOrigin ▸ isRow
          accepted := rfl
          evidence := evidence
          lengths := lengths
          made := made
          observed := observed
          review := ⟨request, version, isAccept, ?_⟩ }⟩
      rw [isReceipt, ← isCommand, ← isResponse]
      rfl
  · intro id row isCandidate isAccepted
    rcases Table.lookup_modify_cases isCandidate with ⟨-, old⟩ | ⟨rfl, -⟩
    · exact .inl old
    · refine .inr ⟨fact, ?_⟩
      rw [← isFactId]
      exact Table.lookup_insert_self absent
  · intro id receipt isOld
    rcases Table.lookup_insert_cases isOld with old | ⟨-, -, rfl⟩
    · exact .inl old
    · refine .inr ?_
      subst isCommand isResponse
      exact ⟨rfl, fun _ => ⟨rfl, isAccepted_iff.mpr ⟨_, isRow, rfl⟩⟩, fun notYet =>
        absurd rfl notYet⟩

theorem assertReviewable_eq_ok {done : Unit} :
    assertReviewable candidate request = .ok done ↔
      candidate.stateVersion = request.expectedStateVersion ∧
        (candidate.status = .pendingReview ∨ candidate.status = .needsRevalidation) ∧
        (request.decision = .accept → candidate.status = .pendingReview) := by
  simp only [assertReviewable, ensure_then_eq_ok, ensure_eq_ok]

theorem ReviewRequest.apply_adds {middle : TaskKnowledge}
    (found : store.candidates.lookup candidate.candidateId = some candidate)
    (unused : store.receipts.lookup commandId = none)
    (isOpen : candidate.status = .pendingReview ∨ candidate.status = .needsRevalidation)
    (pendingIfAccept : request.decision = .accept → candidate.status = .pendingReview)
    (ran : request.apply store view commandId candidate = .ok (middle, response)) :
    middle.receipts = store.receipts ∧
      Adds store (middle.insertReceipt commandId
        (.reviewCandidate candidate.candidateId request) response) := by
  have notAccepted : candidate.status ≠ .accepted := by
    rcases isOpen with isOpen | isOpen <;> rw [isOpen] <;> nofun
  unfold ReviewRequest.apply at ran
  split at ran
  case h_1 isAccept =>
    obtain ⟨validated, isValidated, ran⟩ := bind_eq_ok.mp ran
    obtain ⟨kept, grounded⟩ := validateCandidateEvidence_spec isValidated
    have observed : Adds store { store with validations := validated.validations } :=
      .validations kept
    simp only at ran
    split at ran
    · rename_i allCurrent
      obtain ⟨evidence, lengths, isLinks, isObserved⟩ := grounded allCurrent
      obtain ⟨granted, isGranted, ran⟩ := bind_eq_ok.mp ran
      obtain ⟨facts, isNew, isStore⟩ := bind_eq_ok.mp isGranted
      obtain ⟨absent, rfl⟩ := insertNew_eq_ok.mp isNew
      cases isStore
      cases ran
      exact ⟨rfl, .granting observed unused found (pendingIfAccept isAccept) evidence lengths
        isObserved (by rw [isLinks]) absent isAccept⟩
    · cases ran
      exact ⟨rfl, observed.closing found notAccepted nofun nofun rfl⟩
  case h_2 =>
    cases ran
    exact ⟨rfl, (Adds.refl store).closing found notAccepted nofun nofun rfl⟩
  case h_3 =>
    obtain ⟨candidates, isNew, ran⟩ := bind_eq_ok.mp ran
    obtain ⟨absent, rfl⟩ := insertNew_eq_ok.mp isNew
    cases ran
    refine ⟨rfl, (Adds.insertCandidate ?_).closing (Table.lookup_insert_of_lookup found)
      notAccepted nofun nofun rfl⟩
    nofun

theorem reviewCandidate_adds
    (ran : reviewCandidate store view commandId candidateId request = .ok (after, response)) :
    Adds store after ∧ after.receipts.lookup commandId =
      some ⟨commandId, .reviewCandidate candidateId request, response⟩ := by
  rcases transact_eq_ok.mp ran with ⟨replayed, rfl⟩ | ⟨unused, middle, isBody, rfl⟩
  · exact ⟨.refl after, replayed⟩
  · split at isBody
    · cases isBody
    · rename_i candidate found
      obtain rfl : candidate.candidateId = candidateId := Table.key_of_lookup found
      obtain ⟨done, reviewable, applied⟩ := bind_eq_ok.mp isBody
      obtain ⟨-, isOpen, pendingIfAccept⟩ := assertReviewable_eq_ok.mp reviewable
      obtain ⟨sameReceipts, adds⟩ :=
        request.apply_adds found unused isOpen pendingIfAccept applied
      exact ⟨adds, lookup_insertReceipt sameReceipts unused _ response⟩

end Review

end Shiliu.Knowledge
