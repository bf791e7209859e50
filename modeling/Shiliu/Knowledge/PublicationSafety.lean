/-
Module: Shiliu.Knowledge.PublicationSafety
Purpose: Publishing selected candidates under retries. In every interleaving an accepted candidate is
  one fact, grounded in evidence that its review observed current, and there is one build for an input;
  a call that returns names the artifact and the page that list its facts. A call over accepted
  candidates returns unless one of its transactions finds what another command has left there: its
  command id taken, a candidate accepted under another id, a build of the same input finished,
  or the page no longer a draft.
Trusted boundary: none
Main exports: PcSound, cleanStep, publication_complete, identical_build_breaks_publication
-/
import Shiliu.Knowledge.BuildMoves
import Shiliu.Library.Transition

set_option linter.all false

namespace Shiliu.Knowledge

open Shiliu.Library Shiliu.Research

variable {rules : KnowledgeRules} {store after : TaskKnowledge} {request : PublishRequest}
  {view : EvidenceView}

/-! ## What a call has gathered -/

/-- The fact revisions of a call are those of its candidates, all of them accepted. -/
structure AllReviewed (store : TaskKnowledge) (request : PublishRequest) (facts : List Ident) :
    Prop where
  facts : facts = request.selections.map fun selection => initialRevisionId selection.candidateId
  accepted : ∀ selection ∈ request.selections, store.isAccepted selection.candidateId = true

def PcSound (rules : KnowledgeRules) (store : TaskKnowledge) (request : PublishRequest) :
    PublishPc → Prop
  | .reviewing index facts =>
      facts = (request.selections.take index).map
          (fun selection => initialRevisionId selection.candidateId) ∧
        ∀ selection ∈ request.selections.take index, store.isAccepted selection.candidateId = true
  | .reservingArtifact facts => AllReviewed store request facts
  | .finalizingArtifact facts =>
      AllReviewed store request facts ∧ Reserved store (rules.artifactInput facts)
  | .reservingPage facts artifactId artifactRevisionId =>
      AllReviewed store request facts ∧
        OutputSound store (rules.artifactInput facts) (.artifact artifactId artifactRevisionId 1)
  | .finalizingPage facts artifactId artifactRevisionId =>
      AllReviewed store request facts ∧
        OutputSound store (rules.artifactInput facts)
          (.artifact artifactId artifactRevisionId 1) ∧
        Reserved store (.topicPage artifactRevisionId)
  | .publishing facts artifactId artifactRevisionId pageId pageRevisionId version =>
      AllReviewed store request facts ∧
        OutputSound store (rules.artifactInput facts)
          (.artifact artifactId artifactRevisionId 1) ∧
        OutputSound store (.topicPage artifactRevisionId)
          (.topicPage pageId pageRevisionId version .draft)

/-- The result names the artifact and the page that list the facts of the candidates. -/
structure Complete (store : TaskKnowledge) (request : PublishRequest) (result : PublishResult) :
    Prop where
  candidates : result.candidateIds = request.selections.map Selection.candidateId
  facts : result.factRevisionIds =
    request.selections.map fun selection => initialRevisionId selection.candidateId
  artifact : ∃ artifact revision, store.artifacts.lookup result.artifactId = some artifact ∧
    revision ∈ artifact.revisions ∧ revision.revisionId = result.artifactRevisionId ∧
      revision.factRevisionIds.Perm result.factRevisionIds
  page : ∃ page revision, store.pages.lookup result.pageId = some page ∧
    revision ∈ page.revisions ∧ revision.revisionId = result.pageRevisionId ∧
      revision.version = result.publishedVersion ∧
      revision.artifactRevisionId = result.artifactRevisionId ∧
      revision.factRevisionIds.Perm result.factRevisionIds
  status : result.reviewStatus = .published

theorem AllReviewed.mono {facts : List Ident} (reviewed : AllReviewed store request facts)
    (grows : Grows store after) : AllReviewed after request facts where
  facts := reviewed.facts
  accepted selection isIn := grows.isAccepted (reviewed.accepted selection isIn)

theorem PcSound.mono {pc : PublishPc} (sound : PcSound rules store request pc)
    (grows : Grows store after) : PcSound rules after request pc := by
  cases pc with
  | reviewing index facts =>
      exact ⟨sound.1, fun selection isIn => grows.isAccepted (sound.2 selection isIn)⟩
  | reservingArtifact facts => exact AllReviewed.mono sound grows
  | finalizingArtifact facts => exact ⟨sound.1.mono grows, sound.2.mono grows⟩
  | reservingPage facts artifactId artifactRevisionId =>
      exact ⟨sound.1.mono grows, OutputSound.mono sound.2 grows⟩
  | finalizingPage facts artifactId artifactRevisionId =>
      exact ⟨sound.1.mono grows, OutputSound.mono sound.2.1 grows, sound.2.2.mono grows⟩
  | publishing facts artifactId artifactRevisionId pageId pageRevisionId version =>
      exact ⟨sound.1.mono grows, OutputSound.mono sound.2.1 grows,
        OutputSound.mono sound.2.2 grows⟩

theorem Complete.mono {result : PublishResult} (complete : Complete store request result)
    (grows : Grows store after) : Complete after request result :=
  { complete with
    artifact := by
      obtain ⟨artifact, revision, found, rest⟩ := complete.artifact
      exact ⟨artifact, revision, grows.artifacts _ _ found, rest⟩
    page := by
      obtain ⟨page, revision, found, isRevision, rest⟩ := complete.page
      obtain ⟨later, isLater, sameRevisions, -⟩ := grows.pages _ _ found
      exact ⟨later, revision, isLater, sameRevisions ▸ isRevision, rest⟩ }

/-! ## What another command may have left there -/

/-- A build response with its output, as a build answers that was not reused. -/
def Response.hasOutput : Response → Bool
  | .built _ _ _ (some _) => true
  | _ => false

/-- The build of an input has succeeded. -/
def TaskKnowledge.hasBuilt (store : TaskKnowledge) (input : BuildInput) : Bool :=
  (store.buildRuns.lookup input).any (·.status = .succeeded)

/-- The command id of a build is its own, with the response of a build that was not reused, or it is
unused and no build of the input has succeeded. -/
def cleanBuild (store : TaskKnowledge) (commandId : String) (input : BuildInput) : Bool :=
  match store.receipts.lookup commandId with
  | some receipt => receipt.command = .build input && receipt.response.hasOutput
  | none => !store.hasBuilt input

/-- The next transaction of a call finds nothing of another command in its way. -/
def cleanPc (rules : KnowledgeRules) (store : TaskKnowledge) (request : PublishRequest) :
    PublishPc → Bool
  | .reviewing index _ =>
      match request.selections[index]? with
      | none => true
      | some selection =>
          match store.receipts.lookup (request.candidateCommandId index) with
          | some receipt => receipt.command = .reviewCandidate selection.candidateId selection.review
          | none => !store.isAccepted selection.candidateId
  | .reservingArtifact facts | .finalizingArtifact facts =>
      cleanBuild store request.artifactCommandId (rules.artifactInput facts)
  | .reservingPage _ _ artifactRevisionId | .finalizingPage _ _ artifactRevisionId =>
      cleanBuild store request.pageCommandId (.topicPage artifactRevisionId)
  | .publishing _ _ _ pageId _ version =>
      match store.receipts.lookup request.publishCommandId with
      | some receipt => receipt.command = .reviewPage pageId (publishPage version)
      | none => (store.pages.lookup pageId).any (·.reviewStatus = .draft)

/-! ## One transaction of a call -/

/-- Where a transaction of a call leads. -/
def NextSound (rules : KnowledgeRules) (after : TaskKnowledge) (request : PublishRequest)
    (clean : Bool) : PublishNext → Prop
  | .goto pc => PcSound rules after request pc
  | .returned result => Complete after request result
  | .raised _ => clean = true → request.overAccepted after = false

theorem not_overAccepted {selection : Selection} (isIn : selection ∈ request.selections)
    (notAccepted : store.isAccepted selection.candidateId = false) :
    request.overAccepted store = false := by
  rw [PublishRequest.overAccepted, List.all_eq_false]
  exact ⟨selection, isIn, by rw [notAccepted]; decide⟩

theorem transact_of_receipt {commandId : String} {command : Command} {response : Response}
    {body : Transaction}
    (found : store.receipts.lookup commandId = some ⟨commandId, command, response⟩) :
    transact store commandId command body = .ok (store, response) :=
  transact_eq_ok.mpr (.inl ⟨found, rfl⟩)

theorem receipt_of_lookup {commandId : String} {command : Command} {receipt : Receipt}
    (found : store.receipts.lookup commandId = some receipt) (same : receipt.command = command) :
    store.receipts.lookup commandId = some ⟨commandId, command, receipt.response⟩ := by
  have isId : receipt.commandId = commandId := Table.key_of_lookup found
  rw [found, ← isId, ← same]

theorem step_reviewing (sound : SoundStore store) {index : Nat} {facts : List Ident}
    {next : PublishNext} (pcSound : PcSound rules store request (.reviewing index facts))
    (ran : request.step rules store view (.reviewing index facts) = (after, next)) :
    Adds store after ∧
      NextSound rules after request (cleanPc rules store request (.reviewing index facts)) next := by
  obtain ⟨isFacts, accepted⟩ := pcSound
  simp only [PublishRequest.step] at ran
  simp only [cleanPc]
  cases isSelection : request.selections[index]? with
  | none =>
      rw [isSelection] at ran
      cases ran
      have all : request.selections.take index = request.selections :=
        List.take_of_length_le (List.getElem?_eq_none_iff.mp isSelection)
      exact ⟨.refl store, all ▸ isFacts, all ▸ accepted⟩
  | some selection =>
      rw [isSelection] at ran
      simp only at ran ⊢
      have isIn : selection ∈ request.selections := List.mem_of_getElem? isSelection
      cases outcome : reviewCandidate store view (request.candidateCommandId index)
          selection.candidateId selection.review with
      | error failure =>
          rw [outcome] at ran
          cases ran
          refine ⟨.refl store, fun clean => not_overAccepted isIn ?_⟩
          split at clean
          · rename_i receipt found
            rw [reviewCandidate, transact_of_receipt
              (receipt_of_lookup found (of_decide_eq_true clean))] at outcome
            cases outcome
          · simpa using clean
      | ok done =>
          obtain ⟨middle, response⟩ := done
          rw [outcome] at ran
          cases ran
          obtain ⟨adds, isReceipt⟩ := reviewCandidate_adds outcome
          have receiptSound := (sound.add adds).receipts _ _ isReceipt
          refine ⟨adds, ?_⟩
          cases response with
          | candidateReviewed candidateId status version fact edited =>
              obtain ⟨rfl, whenAccepted, otherwise⟩ := receiptSound
              by_cases isAccepted : status = .accepted
              · obtain ⟨rfl, nowAccepted⟩ := whenAccepted isAccepted
                subst isAccepted
                refine ⟨?_, ?_⟩
                · rw [isFacts, List.take_add_one, isSelection]
                  simp
                · intro other isOther
                  rw [List.take_add_one, isSelection] at isOther
                  rcases List.mem_append.mp isOther with isOld | isNew
                  · exact adds.grows.isAccepted (accepted other isOld)
                  · obtain rfl := List.mem_singleton.mp isNew
                    exact nowAccepted
              · have notAccepted := (otherwise isAccepted).not_accepted
                have raised : afterReview index facts (.candidateReviewed selection.candidateId
                    status version fact edited) = .raised (.validation
                      "selected conclusion could not pass current evidence validation") := by
                  cases status <;> first | rfl | exact absurd rfl isAccepted
                rw [raised]
                exact fun _ => not_overAccepted isIn notAccepted
          | _ => exact receiptSound.elim

/-! ## The two builds -/

theorem NextSound.of_imp {clean other : Bool} {next : PublishNext}
    (sound : NextSound rules after request other next) (implied : clean = true → other = true) :
    NextSound rules after request clean next := by
  cases next with
  | goto pc => exact sound
  | returned result => exact sound
  | raised failure => exact fun isClean => sound (implied isClean)

section Build

variable {commandId : String} {input : BuildInput} {answer : Response → PublishNext}

/-- How a call goes on from the response of a build. -/
def Answers (rules : KnowledgeRules) (store : TaskKnowledge) (request : PublishRequest)
    (commandId : String) (input : BuildInput) (answer : Response → PublishNext) : Prop :=
  ∀ after response, Adds store after →
    after.receipts.lookup commandId = some ⟨commandId, .build input, response⟩ →
    NextSound rules after request response.hasOutput (answer response)

theorem reserveBuild_clean (sound : SoundStore store)
    (clean : cleanBuild store commandId input = true)
    (valid : validateBuildInput store input = .ok ()) :
    (∃ after, reserveBuild store commandId input = .ok (after, .reserved)) ∨
      ∃ response, reserveBuild store commandId input = .ok (store, .returned response) ∧
        response.hasOutput = true := by
  unfold cleanBuild at clean
  unfold reserveBuild
  cases found : store.receipts.lookup commandId with
  | some receipt =>
      rw [found] at clean
      simp only [Bool.and_eq_true, decide_eq_true_eq] at clean
      rw [TaskKnowledge.existingReceipt_eq_some.mpr (receipt_of_lookup found clean.1)]
      exact .inr ⟨receipt.response, rfl, clean.2⟩
  | none =>
      rw [found] at clean
      rw [TaskKnowledge.existingReceipt_eq_none.mpr found]
      refine .inl ?_
      simp only [bind, Except.bind, valid]
      cases isRun : store.buildRuns.lookup input with
      | none => exact ⟨_, rfl⟩
      | some run =>
          rcases sound.runs input run isRun with isRunning | succeeded
          · simp only [isRunning]
            exact ⟨_, rfl⟩
          · simp [TaskKnowledge.hasBuilt, isRun, succeeded] at clean

theorem reserve_sound (sound : SoundStore store) {finalizing : PublishPc} {next : PublishNext}
    (valid : validateBuildInput store input = .ok ())
    (reserved : ∀ after, Adds store after → Reserved after input →
      PcSound rules after request finalizing)
    (answers : Answers rules store request commandId input answer)
    (ran : settleReserve store finalizing answer (reserveBuild store commandId input) =
      (after, next)) :
    Adds store after ∧
      NextSound rules after request (cleanBuild store commandId input) next := by
  cases outcome : reserveBuild store commandId input with
  | error failure =>
      rw [outcome] at ran
      cases ran
      refine ⟨.refl store, fun clean => ?_⟩
      rcases reserveBuild_clean sound clean valid with ⟨_, isOk⟩ | ⟨_, isOk, -⟩ <;>
        rw [outcome] at isOk <;> cases isOk
  | ok done =>
      obtain ⟨middle, step⟩ := done
      obtain ⟨adds, found⟩ := reserveBuild_adds outcome
      rw [outcome] at ran
      cases step with
      | reserved =>
          cases ran
          exact ⟨adds, reserved _ adds found⟩
      | returned response =>
          cases ran
          refine ⟨adds, (answers _ response adds found).of_imp fun clean => ?_⟩
          rcases reserveBuild_clean sound clean valid with ⟨_, isOk⟩ | ⟨other, isOk, hasOutput⟩ <;>
            rw [outcome] at isOk <;> cases isOk
          exact hasOutput

theorem finalizeBuild_clean (sound : SoundStore store)
    (clean : cleanBuild store commandId input = true) (reserved : Reserved store input)
    (possible : ∀ run, store.buildRuns.lookup input = some run → run.status = .running →
      ∃ built output, input.finalize store = .ok (built, output)) :
    ∃ after response, finalizeBuild store commandId input = .ok (after, response) ∧
      response.hasOutput = true := by
  unfold cleanBuild at clean
  cases found : store.receipts.lookup commandId with
  | some receipt =>
      rw [found] at clean
      simp only [Bool.and_eq_true, decide_eq_true_eq] at clean
      exact ⟨store, receipt.response, transact_of_receipt (receipt_of_lookup found clean.1),
        clean.2⟩
  | none =>
      rw [found] at clean
      obtain ⟨run, isRun⟩ := reserved
      have isRunning : run.status = .running := by
        rcases sound.runs input run isRun with isRunning | succeeded
        · exact isRunning
        · simp [TaskKnowledge.hasBuilt, isRun, succeeded] at clean
      obtain ⟨built, output, finalized⟩ := possible run isRun isRunning
      refine ⟨_, .built run.runId output.reference false (some output),
        transact_eq_ok.mpr (.inr ⟨found, built.succeed input output.reference, ?_, rfl⟩), rfl⟩
      rw [isRun]
      simp [isRunning, ensure, finalized, bind, Except.bind, pure, Except.pure]

theorem finalize_sound (sound : SoundStore store) {next : PublishNext}
    (reserved : Reserved store input)
    (possible : ∀ run, store.buildRuns.lookup input = some run → run.status = .running →
      ∃ built output, input.finalize store = .ok (built, output))
    (answers : Answers rules store request commandId input answer)
    (ran : settle store answer (finalizeBuild store commandId input) = (after, next)) :
    Adds store after ∧
      NextSound rules after request (cleanBuild store commandId input) next := by
  cases outcome : finalizeBuild store commandId input with
  | error failure =>
      rw [outcome] at ran
      cases ran
      refine ⟨.refl store, fun clean => ?_⟩
      obtain ⟨_, _, isOk, -⟩ := finalizeBuild_clean sound clean reserved possible
      rw [outcome] at isOk
      cases isOk
  | ok done =>
      obtain ⟨middle, response⟩ := done
      obtain ⟨adds, found⟩ := finalizeBuild_adds sound outcome
      rw [outcome] at ran
      cases ran
      refine ⟨adds, (answers _ response adds found).of_imp fun clean => ?_⟩
      obtain ⟨_, other, isOk, hasOutput⟩ := finalizeBuild_clean sound clean reserved possible
      rw [outcome] at isOk
      cases isOk
      exact hasOutput

end Build

section Builds

variable {facts : List Ident} {artifactId artifactRevisionId : Ident} {next : PublishNext}

theorem AllReviewed.sorted (reviewed : AllReviewed store request facts) {fact : Ident}
    (isIn : fact ∈ facts.mergeSort rules.inOrder) :
    ∃ candidateId, fact = initialRevisionId candidateId ∧
      store.isAccepted candidateId = true := by
  rw [List.mem_mergeSort, reviewed.facts] at isIn
  obtain ⟨selection, isSelection, rfl⟩ := List.mem_map.mp isIn
  exact ⟨selection.candidateId, rfl, reviewed.accepted selection isSelection⟩

/-- The facts of accepted candidates may be built on. -/
theorem AllReviewed.valid (reviewed : AllReviewed store request facts) (sound : SoundStore store) :
    validateBuildInput store (rules.artifactInput facts) = .ok () := by
  refine ensure_eq_ok.mpr (List.all_eq_true.mpr fun fact isIn => ?_)
  obtain ⟨candidateId, rfl, accepted⟩ := reviewed.sorted isIn
  exact sound.buildableRevision accepted

theorem AllReviewed.possible (reviewed : AllReviewed store request facts)
    (sound : SoundStore store) (run : BuildRun)
    (isRun : store.buildRuns.lookup (rules.artifactInput facts) = some run)
    (isRunning : run.status = .running) :
    ∃ built output, (rules.artifactInput facts).finalize store = .ok (built, output) := by
  obtain ⟨lines, isLines⟩ := sound.factLines fun fact isIn => reviewed.sorted isIn
  exact ⟨_, _, finalizeArtifact_eq_ok.mpr
    ⟨lines, isLines, sound.output_absent isRun isRunning, rfl, rfl⟩⟩

theorem answers_artifact (sound : SoundStore store) (reviewed : AllReviewed store request facts)
    (commandId : String) :
    Answers rules store request commandId (rules.artifactInput facts) (afterArtifact facts) := by
  intro after response adds found
  have receiptSound := (sound.add adds).receipts _ _ found
  cases response with
  | built runId reference reused output =>
      cases output with
      | none => nofun
      | some output =>
          have outputSound := receiptSound output rfl
          cases output with
          | artifact artifactId artifactRevisionId revision =>
              obtain ⟨-, -, rfl, -⟩ := id outputSound
              exact ⟨reviewed.mono adds.grows, outputSound⟩
          | topicPage => exact outputSound.elim
  | _ => exact receiptSound.elim

theorem artifact_found (sound : SoundStore store) {input : BuildInput}
    {built : List Ident} (isInput : input = .artifact built)
    (output : OutputSound store input (.artifact artifactId artifactRevisionId 1)) :
    ∃ artifact revision, store.artifactRevision artifactRevisionId = some (artifact, revision) ∧
      store.artifacts.lookup artifactId = some artifact ∧
      ArtifactOf store artifact built revision := by
  subst isInput
  obtain ⟨isId, isRevision, -, artifact, found⟩ := output
  obtain ⟨others, revision, builtOf⟩ := sound.artifacts _ artifact found
  have isKey : artifact.artifactId = artifactId := Table.key_of_lookup found
  have sameFacts : others = built := by
    have := builtOf.identity.symm.trans (isKey.trans isId)
    simpa [artifactIdOf, BuildInput.ident, Ident.hashed_inj] using this
  subst sameFacts
  have isOnly : revision ∈ artifact.revisions := by
    rw [builtOf.revisions]
    exact List.mem_singleton_self revision
  have isRevisionId : revision.revisionId = artifactRevisionId := by
    rw [builtOf.revisionId, isKey, isRevision]
  obtain ⟨other, later, isFound⟩ :=
    TaskKnowledge.exists_artifactRevision (Table.mem_of_lookup found) isOnly
  rw [isRevisionId] at isFound
  -- the revision that is found belongs to the same artifact, since its id says to which
  obtain ⟨isOther, isLater, laterId⟩ := TaskKnowledge.artifactRevision_eq_some isFound
  obtain ⟨otherFacts, only, otherOf⟩ := sound.artifacts _ other (Table.lookup_of_mem isOther)
  rw [otherOf.revisions, List.mem_singleton] at isLater
  subst isLater
  have sameId : other.artifactId = artifact.artifactId := by
    have := (otherOf.revisionId.symm.trans laterId).trans
      (isRevisionId.symm.trans builtOf.revisionId)
    simpa [artifactRevisionIdOf, Ident.hashed_inj] using this
  obtain rfl := Table.eq_of_key isOther (Table.mem_of_lookup found) sameId
  have sameRevision : later = revision := by
    simpa using (otherOf.revisions.symm.trans builtOf.revisions)
  exact ⟨other, revision, sameRevision ▸ isFound, found, builtOf⟩

theorem page_valid (sound : SoundStore store)
    (output : OutputSound store (rules.artifactInput facts)
      (.artifact artifactId artifactRevisionId 1)) :
    validateBuildInput store (.topicPage artifactRevisionId) = .ok () := by
  obtain ⟨artifact, revision, isFound, -, builtOf⟩ := artifact_found sound rfl output
  refine ensure_eq_ok.mpr ?_
  unfold buildableArtifact
  rw [isFound]
  simp only [Bool.and_eq_true, decide_eq_true_eq, List.all_eq_true]
  refine ⟨by rw [builtOf.revisions, builtOf.isFirst]; simp [builtOf.isFirst], ?_⟩
  intro fact isIn
  cases isFact : store.factRevision fact with
  | none => rfl
  | some pair => exact sound.headIs isFact

theorem page_possible (sound : SoundStore store)
    (output : OutputSound store (rules.artifactInput facts)
      (.artifact artifactId artifactRevisionId 1)) (run : BuildRun)
    (isRun : store.buildRuns.lookup (.topicPage artifactRevisionId) = some run)
    (isRunning : run.status = .running) :
    ∃ built output, (BuildInput.topicPage artifactRevisionId).finalize store =
      .ok (built, output) := by
  obtain ⟨artifact, revision, isFound, -⟩ := artifact_found sound rfl output
  exact ⟨_, _, finalizeTopicPage_eq_ok.mpr
    ⟨artifact, revision, isFound, sound.output_absent isRun isRunning, rfl, rfl⟩⟩

theorem answers_page (sound : SoundStore store) (reviewed : AllReviewed store request facts)
    (output : OutputSound store (rules.artifactInput facts)
      (.artifact artifactId artifactRevisionId 1)) (commandId : String) :
    Answers rules store request commandId (.topicPage artifactRevisionId)
      (afterPage facts artifactId artifactRevisionId) := by
  intro after response adds found
  have receiptSound := (sound.add adds).receipts _ _ found
  cases response with
  | built runId reference reused output =>
      cases output with
      | none => nofun
      | some output =>
          have outputSound := receiptSound output rfl
          cases output with
          | artifact => exact outputSound.elim
          | topicPage => exact ⟨reviewed.mono adds.grows, output.mono adds.grows, outputSound⟩
  | _ => exact receiptSound.elim

end Builds

/-! ## The review of the page -/

section Publishing

variable {facts : List Ident} {artifactId artifactRevisionId pageId pageRevisionId : Ident}
  {version : Nat} {next : PublishNext}

theorem page_found (sound : SoundStore store)
    (output : OutputSound store (.topicPage artifactRevisionId)
      (.topicPage pageId pageRevisionId version .draft)) :
    ∃ page artifact built source revision, store.pages.lookup pageId = some page ∧
      PageOf store page artifact built source revision ∧
      source.revisionId = artifactRevisionId ∧ revision.revisionId = pageRevisionId ∧
      version = 1 := by
  obtain ⟨isId, isRevision, isFirst, page, found⟩ := output
  obtain ⟨artifact, built, source, revision, pageOf⟩ := sound.pages _ page found
  have isKey : page.pageId = pageId := Table.key_of_lookup found
  have isSource : source.revisionId = artifactRevisionId := by
    have := pageOf.identity.symm.trans (isKey.trans isId)
    simpa [pageIdOf, BuildInput.ident, Ident.hashed_inj] using this
  refine ⟨page, artifact, built, source, revision, found, pageOf, isSource, ?_, isFirst⟩
  rw [pageOf.revisionId, isKey, isRevision]

theorem reviewPage_clean (sound : SoundStore store)
    (output : OutputSound store (.topicPage artifactRevisionId)
      (.topicPage pageId pageRevisionId version .draft))
    (clean : cleanPc rules store request
      (.publishing facts artifactId artifactRevisionId pageId pageRevisionId version) = true) :
    ∃ after response, reviewPage store request.publishCommandId pageId (publishPage version) =
      .ok (after, response) := by
  simp only [cleanPc] at clean
  cases found : store.receipts.lookup request.publishCommandId with
  | some receipt =>
      rw [found] at clean
      exact ⟨store, receipt.response,
        transact_of_receipt (receipt_of_lookup found (of_decide_eq_true clean))⟩
  | none =>
      rw [found] at clean
      obtain ⟨page, artifact, built, source, revision, isPage, pageOf, -, -, rfl⟩ :=
        page_found sound output
      simp only [isPage, Option.any_some, decide_eq_true_eq] at clean
      refine ⟨_, .pageReviewed pageId revision.revisionId 1 .published,
        transact_eq_ok.mpr (.inr ⟨found, store.decidePage pageId true 1, ?_, rfl⟩)⟩
      rw [isPage]
      simp [ensure, publishPage, pageOf.current, clean, pageOf.revisions, pageOf.version, bind,
        Except.bind, pure, Except.pure]

theorem step_publishing (sound : SoundStore store)
    (pcSound : PcSound rules store request
      (.publishing facts artifactId artifactRevisionId pageId pageRevisionId version))
    (ran : request.step rules store view
      (.publishing facts artifactId artifactRevisionId pageId pageRevisionId version) =
        (after, next)) :
    Adds store after ∧
      NextSound rules after request (cleanPc rules store request
        (.publishing facts artifactId artifactRevisionId pageId pageRevisionId version)) next := by
  obtain ⟨reviewed, artifactOutput, pageOutput⟩ := pcSound
  simp only [PublishRequest.step] at ran
  cases outcome : reviewPage store request.publishCommandId pageId (publishPage version) with
  | error failure =>
      rw [outcome] at ran
      cases ran
      refine ⟨.refl store, fun clean => ?_⟩
      obtain ⟨_, _, isOk⟩ := reviewPage_clean sound pageOutput clean
      rw [outcome] at isOk
      cases isOk
  | ok done =>
      obtain ⟨middle, response⟩ := done
      obtain ⟨adds, found⟩ := reviewPage_adds outcome
      rw [outcome] at ran
      cases ran
      have receiptSound := (sound.add adds).receipts _ _ found
      refine ⟨adds, ?_⟩
      cases response with
      | pageReviewed reviewedId revisionId reviewedVersion status =>
          obtain ⟨rfl, rfl, rfl⟩ := receiptSound
          obtain ⟨artifact, source, isSource, isArtifact, builtOf⟩ :=
            artifact_found sound rfl artifactOutput
          obtain ⟨page, other, built, origin, revision, isPage, pageOf, isOrigin, isRevision, rfl⟩ :=
            page_found sound pageOutput
          have complete : Complete store request
              { candidateIds := request.selections.map Selection.candidateId
                factRevisionIds := facts
                artifactId := artifactId
                artifactRevisionId := artifactRevisionId
                pageId := reviewedId
                pageRevisionId := pageRevisionId
                reviewStatus := .published
                publishedVersion := 1 } := by
            have sameArtifact : built = facts.mergeSort rules.inOrder := by
              -- the page and the call name the same artifact revision
              have sourceFound := TaskKnowledge.artifactRevision_eq_some isSource
              have sameId : other.artifactId = artifact.artifactId := by
                have := (pageOf.built.revisionId.symm.trans isOrigin).trans
                  (sourceFound.2.2.symm.trans builtOf.revisionId)
                simpa [artifactRevisionIdOf, Ident.hashed_inj] using this
              have := pageOf.built.identity.symm.trans (sameId.trans builtOf.identity)
              simpa [artifactIdOf, BuildInput.ident, Ident.hashed_inj] using this
            refine
              { candidates := rfl
                facts := reviewed.facts
                artifact := ⟨artifact, source, isArtifact, ?_, ?_, ?_⟩
                page := ⟨page, revision, isPage, ?_, isRevision, pageOf.version,
                  pageOf.artifact.trans isOrigin, ?_⟩
                status := rfl }
            · exact builtOf.revisions ▸ List.mem_singleton_self source
            · exact (TaskKnowledge.artifactRevision_eq_some isSource).2.2
            · rw [builtOf.facts]
              exact List.mergeSort_perm _ _
            · exact pageOf.revisions ▸ List.mem_singleton_self revision
            · rw [pageOf.facts, sameArtifact]
              exact List.mergeSort_perm _ _
          exact complete.mono adds.grows
      | _ => exact receiptSound.elim

end Publishing

/-- One transaction of a call, whatever it is. -/
theorem step_sound (sound : SoundStore store) {pc : PublishPc} {next : PublishNext}
    (pcSound : PcSound rules store request pc)
    (ran : request.step rules store view pc = (after, next)) :
    Adds store after ∧ NextSound rules after request (cleanPc rules store request pc) next := by
  cases pc with
  | reviewing index facts => exact step_reviewing sound pcSound ran
  | reservingArtifact facts =>
      have reviewed : AllReviewed store request facts := pcSound
      refine reserve_sound sound (reviewed.valid sound) (fun later adds reserved => ?_)
        (answers_artifact sound reviewed _) ran
      exact ⟨reviewed.mono adds.grows, reserved⟩
  | finalizingArtifact facts =>
      obtain ⟨reviewed, reserved⟩ := pcSound
      exact finalize_sound sound reserved (reviewed.possible sound)
        (answers_artifact sound reviewed _) ran
  | reservingPage facts artifactId artifactRevisionId =>
      obtain ⟨reviewed, output⟩ := pcSound
      refine reserve_sound sound (page_valid sound output) (fun later adds reserved => ?_)
        (answers_page sound reviewed output _) ran
      exact ⟨reviewed.mono adds.grows, output.mono adds.grows, reserved⟩
  | finalizingPage facts artifactId artifactRevisionId =>
      obtain ⟨reviewed, output, reserved⟩ := pcSound
      exact finalize_sound sound reserved (page_possible sound output)
        (answers_page sound reviewed output _) ran
  | publishing facts artifactId artifactRevisionId pageId pageRevisionId version =>
      exact step_publishing sound pcSound ran

/-! ## Every run -/

/-- The calls that run have gathered what they say, and those that returned are complete. -/
structure WorldSound (rules : KnowledgeRules) (world : World) : Prop where
  store : SoundStore world.store
  callers : ∀ caller request pc, world.callers caller = .publishing request pc →
    PcSound rules world.store request pc
  returned : ∀ ended ∈ world.ended, ∀ result, ended.outcome = .ok result →
    Complete world.store ended.request result

/-- Nothing of another command is in the way of the next step of a publication. -/
def cleanStep (rules : KnowledgeRules) (world : World) : Action → Bool
  | .advance caller _ =>
      match world.callers caller with
      | .publishing request pc => cleanPc rules world.store request pc
      | _ => true
  | _ => true

/-- Every call over accepted candidates has returned. -/
def AllReturned (world : World) : Prop :=
  ∀ ended ∈ world.ended, ended.overAccepted = true → ∃ result, ended.outcome = .ok result

section Worlds

variable {world : World} {caller : Nat}

/-- A world whose store grows, and whose calls go on from what they had gathered. -/
theorem WorldSound.next {after : World} (sound : WorldSound rules world)
    (adds : Adds world.store after.store)
    (callers : ∀ other request pc, after.callers other = .publishing request pc →
      world.callers other = .publishing request pc ∨ PcSound rules after.store request pc)
    (ended : ∀ one ∈ after.ended, one ∈ world.ended ∨
      ∀ result, one.outcome = .ok result → Complete after.store one.request result) :
    WorldSound rules after where
  store := sound.store.add adds
  callers other request pc isCaller := by
    rcases callers other request pc isCaller with old | new
    · exact (sound.callers other request pc old).mono adds.grows
    · exact new
  returned one isIn result isResult := by
    rcases ended one isIn with old | new
    · exact (sound.returned one old result isResult).mono adds.grows
    · exact new result isResult

theorem callers_goto {next : Caller} {other : Nat} {request : PublishRequest} {pc : PublishPc}
    (isCaller : (world.goto caller next).callers other = .publishing request pc) :
    world.callers other = .publishing request pc ∨ next = .publishing request pc := by
  by_cases same : other = caller
  · subst same
    simp only [World.goto, Function.update_self] at isCaller
    exact .inr isCaller
  · simp only [World.goto, Function.update_of_ne same] at isCaller
    exact .inl isCaller

theorem WorldSound.settled {Result : Type}
    {outcome : Except ResearchFailure (TaskKnowledge × Result)} (sound : WorldSound rules world)
    (adds : ∀ after result, outcome = .ok (after, result) → Adds world.store after) :
    WorldSound rules (world.settled outcome) := by
  cases outcome with
  | error failure => exact sound
  | ok done =>
      exact sound.next (adds done.1 done.2 rfl) (fun _ _ _ isCaller => .inl isCaller)
        (fun _ isIn => .inl isIn)

theorem WorldSound.goto {next : Caller} (sound : WorldSound rules world)
    (isNext : ∀ request pc, next = .publishing request pc →
      PcSound rules world.store request pc) : WorldSound rules (world.goto caller next) :=
  sound.next (.refl world.store)
    (fun _ request pc isCaller =>
      (callers_goto isCaller).imp_right fun isPublishing => isNext request pc isPublishing)
    (fun _ isIn => .inl isIn)

theorem WorldSound.start {next : Caller} (sound : WorldSound rules world)
    (isNext : ∀ request pc, next = .publishing request pc →
      PcSound rules world.store request pc) : WorldSound rules (world.start caller next) := by
  unfold World.start
  split
  · exact sound.goto isNext
  · exact sound

theorem WorldSound.follow {request : PublishRequest} {pc : PublishPc} {after : TaskKnowledge}
    {next : PublishNext} (sound : WorldSound rules world)
    (isCaller : world.callers caller = .publishing request pc)
    (ran : request.step rules world.store view pc = (after, next)) :
    WorldSound rules (World.follow { world with store := after } caller request next) := by
  obtain ⟨adds, nextSound⟩ := step_sound sound.store (sound.callers caller request pc isCaller) ran
  cases next with
  | goto later =>
      refine sound.next adds (fun other otherRequest otherPc isOther => ?_)
        (fun _ isIn => .inl isIn)
      refine (callers_goto isOther).imp_right fun same => ?_
      cases same
      exact nextSound
  | returned result =>
      refine sound.next adds (fun other otherRequest otherPc isOther => ?_) (fun one isIn => ?_)
      · exact (callers_goto isOther).imp_right fun same => nomatch same
      · refine (List.mem_append.mp isIn).imp_right fun isNew => ?_
        obtain rfl := List.mem_singleton.mp isNew
        intro other isOther
        cases isOther
        exact nextSound
  | raised failure =>
      refine sound.next adds (fun other otherRequest otherPc isOther => ?_) (fun one isIn => ?_)
      · exact (callers_goto isOther).imp_right fun same => nomatch same
      · refine (List.mem_append.mp isIn).imp_right fun isNew => ?_
        obtain rfl := List.mem_singleton.mp isNew
        intro other isOther
        cases isOther

theorem WorldSound.step (sound : WorldSound rules world) (action : Action) :
    WorldSound rules (stepWorld rules world action) := by
  cases action with
  | intake uses items =>
      exact sound.next (intake_adds world.store uses items) (fun _ _ _ isCaller => .inl isCaller)
        (fun _ isIn => .inl isIn)
  | review commandId candidateId request view =>
      exact sound.settled fun _ _ ran => (reviewCandidate_adds ran).1
  | buildArtifact caller commandId factRevisionIds =>
      simp only [stepWorld]
      split
      · exact sound.start fun _ _ same => nomatch same
      · exact sound
  | buildTopicPage caller commandId artifactRevisionId =>
      exact sound.start fun _ _ same => nomatch same
  | publish caller request =>
      simp only [stepWorld]
      split
      · refine sound.start fun _ _ same => ?_
        cases same
        exact ⟨by simp, fun _ isIn => by simp at isIn⟩
      · exact sound
  | advance caller view =>
      simp only [stepWorld, World.advance]
      split
      · exact sound
      · rename_i commandId input _
        refine (sound.settled fun _ _ ran => (reserveBuild_adds ran).1).goto fun _ _ same => ?_
        split at same <;> cases same
      · exact (sound.settled fun _ _ ran => (finalizeBuild_adds sound.store ran).1).goto
          fun _ _ same => nomatch same
      · rename_i request pc isCaller
        exact sound.follow isCaller rfl
  | crash caller => exact sound.goto fun _ _ same => nomatch same

theorem WorldSound.empty (rules : KnowledgeRules) (taskId : Ident) (objective : String) :
    WorldSound rules (World.empty taskId objective) where
  store := .empty taskId objective
  callers _ _ _ isCaller := nomatch isCaller
  returned _ isIn := nomatch isIn

/-- A call that ends over accepted candidates on a clean step has returned. -/
theorem AllReturned.follow {request : PublishRequest} {pc : PublishPc} {after : TaskKnowledge}
    {next : PublishNext} (sound : WorldSound rules world) (before : AllReturned world)
    (isCaller : world.callers caller = .publishing request pc)
    (ran : request.step rules world.store view pc = (after, next))
    (clean : cleanPc rules world.store request pc = true) :
    AllReturned (World.follow { world with store := after } caller request next) := by
  obtain ⟨-, nextSound⟩ := step_sound sound.store (sound.callers caller request pc isCaller) ran
  cases next with
  | goto later => exact before
  | returned result =>
      intro ended isIn overAccepted
      rcases List.mem_append.mp isIn with isOld | isNew
      · exact before ended isOld overAccepted
      · obtain rfl := List.mem_singleton.mp isNew
        exact ⟨result, rfl⟩
  | raised failure =>
      intro ended isIn overAccepted
      rcases List.mem_append.mp isIn with isOld | isNew
      · exact before ended isOld overAccepted
      · obtain rfl := List.mem_singleton.mp isNew
        exact absurd overAccepted (Bool.eq_false_iff.mp (nextSound clean))

theorem AllReturned.step (sound : WorldSound rules world) (before : AllReturned world)
    (action : Action) (clean : cleanStep rules world action = true) :
    AllReturned (stepWorld rules world action) := by
  have settled : ∀ {Result : Type} (outcome : Except ResearchFailure (TaskKnowledge × Result)),
      AllReturned (world.settled outcome) := by
    intro Result outcome
    cases outcome <;> exact before
  have started : ∀ caller next, AllReturned (world.start caller next) := by
    intro caller next
    unfold World.start
    split <;> exact before
  cases action with
  | intake => exact before
  | review => exact settled _
  | buildArtifact =>
      simp only [stepWorld]
      split
      · exact started _ _
      · exact before
  | buildTopicPage => exact started _ _
  | publish =>
      simp only [stepWorld]
      split
      · exact started _ _
      · exact before
  | advance caller view =>
      simp only [stepWorld, World.advance]
      split
      · exact before
      · exact settled (reserveBuild _ _ _)
      · exact settled (finalizeBuild _ _ _)
      · rename_i request pc isCaller
        simp only [cleanStep, isCaller] at clean
        exact before.follow sound isCaller rfl clean
  | crash => exact before

/-- In every interleaving: a fact is that of one accepted candidate, whose evidence its review
observed current; there is one build for an input; calls that return are complete. When no step of
a call finds another command in its way, every call over accepted candidates returns. -/
theorem publication_complete (rules : KnowledgeRules) (taskId : Ident) (objective : String)
    (actions : List Action) :
    let world := runFrom (stepWorld rules) (World.empty taskId objective) actions
    (∀ one ∈ world.store.facts, ∀ two ∈ world.store.facts,
        one.originCandidateId = two.originCandidateId → one = two) ∧
      (∀ fact ∈ world.store.facts, ∃ candidate commandId,
        GrantedBy world.store fact candidate commandId) ∧
      (∀ one ∈ world.store.buildRuns, ∀ two ∈ world.store.buildRuns,
        one.input = two.input → one = two) ∧
      (∀ ended ∈ world.ended, ∀ result, ended.outcome = .ok result →
        Complete world.store ended.request result) ∧
      (EachStep (stepWorld rules) (fun before action => cleanStep rules before action = true)
          (World.empty taskId objective) actions →
        AllReturned world) := by
  intro world
  have kept : ∀ before action, WorldSound rules before →
      WorldSound rules (stepWorld rules before action) :=
    fun _ action before => before.step action
  have sound : WorldSound rules world := invariant_run kept (.empty rules taskId objective) actions
  refine ⟨fun one isOne two isTwo sameOrigin => ?_, fun fact isFact => ?_,
    fun one isOne two isTwo same => Table.eq_of_key isOne isTwo same, sound.returned,
    fun each => ?_⟩
  · obtain ⟨first, _, grantedOne⟩ := sound.store.granted _ one (Table.lookup_of_mem isOne)
    obtain ⟨second, _, grantedTwo⟩ := sound.store.granted _ two (Table.lookup_of_mem isTwo)
    refine Table.eq_of_key isOne isTwo ?_
    rw [grantedOne.made, grantedTwo.made] at sameOrigin ⊢
    exact congrArg factIdOf sameOrigin
  · exact sound.store.granted _ fact (Table.lookup_of_mem isFact)
  · have keptBoth : ∀ before action, WorldSound rules before ∧ AllReturned before →
        cleanStep rules before action = true →
          WorldSound rules (stepWorld rules before action) ∧
            AllReturned (stepWorld rules before action) :=
      fun _ action before clean => ⟨before.1.step action, before.2.step before.1 action clean⟩
    exact (invariant_run_of_each keptBoth
      ⟨.empty rules taskId objective, fun _ isIn => nomatch isIn⟩ each).2

end Worlds

/-! ## Two repeated calls -/

/-- Rules for runs on short texts. -/
def plainRules : KnowledgeRules where
  inOrder _ _ := true
  normalized := id
  contains whole part := whole = part

def someUse : EvidenceUse := ⟨.text "use", .text "attempt", .text "evidence"⟩

def someItem : IntakeItem where
  candidateId := .text "candidate"
  attemptId := .text "attempt"
  claimText := "claim"
  citationIds := [.text "evidence"]
  evidenceUseIds := [.text "use"]

def allCurrent : EvidenceView := fun _ => ⟨.current, none, some "claim"⟩

def someRequest : PublishRequest := ⟨"publish", [⟨.text "candidate", 0⟩]⟩

/-- A call stops after its review and after its first build, and is repeated each time. -/
def repeatedCall : List Action :=
  let forward : Action := .advance 0 allCurrent
  [.intake [someUse] [someItem], .publish 0 someRequest, forward, .crash 0, .publish 0 someRequest,
    forward, forward, forward, forward, .crash 0, .publish 0 someRequest, forward, forward, forward,
    forward, forward, forward]

theorem publication_complete_repeated :
    let world := runFrom (stepWorld plainRules) (World.empty (.text "task") "topic") repeatedCall
    world.ended.length = 1 ∧ AllReturned world :=
  ⟨by decide +kernel,
    (publication_complete plainRules (.text "task") "topic" repeatedCall).2.2.2.2
      (by decide +kernel)⟩

/-- A call stops after its review; somebody builds the artifact of its fact; the call is repeated. -/
def identicalBuild : List Action :=
  [.intake [someUse] [someItem], .publish 0 someRequest, .advance 0 allCurrent, .crash 0,
    .buildArtifact 1 "build" [initialRevisionId (.text "candidate")], .advance 1 allCurrent,
    .advance 1 allCurrent, .publish 0 someRequest, .advance 0 allCurrent, .advance 0 allCurrent,
    .advance 0 allCurrent]

/-- The repeated call is over an accepted candidate, and raises `KeyError`. -/
theorem identical_build_breaks_publication :
    ¬ ∀ (rules : KnowledgeRules) (taskId : Ident) (objective : String) (actions : List Action),
      AllReturned (runFrom (stepWorld rules) (World.empty taskId objective) actions) := by
  intro returned
  have isEnded : ((runFrom (stepWorld plainRules) (World.empty (.text "task") "topic")
      identicalBuild).ended.map fun ended => (ended.overAccepted, ended.outcome.toOption)) =
        [(true, none)] := by
    decide +kernel
  obtain ⟨ended, isEnd, same⟩ := List.map_eq_singleton_iff.mp isEnded
  obtain ⟨result, isResult⟩ := returned plainRules (.text "task") "topic" identicalBuild ended
    (isEnd ▸ List.mem_singleton_self ended) (congrArg Prod.fst same)
  have noResult : ended.outcome.toOption = none := congrArg Prod.snd same
  rw [isResult] at noResult
  cases noResult

end Shiliu.Knowledge
