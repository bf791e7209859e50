/-
Module: Shiliu.Knowledge.BuildMoves
Purpose: Intake, builds and page reviews keep a store sound. A finalized build leaves the one
  artifact or page that belongs to its input; a reservation that is answered was answered by a
  receipt; under the facts and artifacts of a sound store a build whose run has not succeeded can
  always be finalized.
Trusted boundary: none
Main exports: intake_adds, reserveBuild_adds, finalize_artifact_ok, finalize_topicPage_ok
-/
import Shiliu.Knowledge.PublicationMoves

set_option linter.all false

namespace Shiliu.Knowledge

open Shiliu.Library Shiliu.Research

variable {store after : TaskKnowledge} {commandId : String} {input : BuildInput}
  {response : Response}

/-! ## Intake -/

theorem Adds.insertCandidates {items : List Candidate}
    (areOpen : ∀ item ∈ items, item.status ≠ .accepted) :
    Adds store { store with candidates := items.foldl Table.insert store.candidates } := by
  induction items generalizing store with
  | nil => exact .refl store
  | cons item rest inductionHypothesis =>
      rw [List.forall_mem_cons] at areOpen
      exact (Adds.insertCandidate areOpen.1).trans (inductionHypothesis areOpen.2)

theorem intake_adds (store : TaskKnowledge) (uses : List EvidenceUse) (items : List IntakeItem) :
    Adds store (store.intake uses items) := by
  have used : Adds store { store with
      evidenceUses := uses.foldl Table.insert store.evidenceUses } :=
    { grows := { Grows.refl store with } }
  refine used.trans (.insertCandidates fun candidate isIn => ?_)
  obtain ⟨item, -, rfl⟩ := List.mem_map.mp isIn
  nofun

/-! ## The rows of a sound store -/

section Sound

variable {candidateId : Ident}

theorem SoundStore.fact_of_accepted (sound : SoundStore store)
    (accepted : store.isAccepted candidateId = true) :
    ∃ fact candidate commandId, store.facts.lookup (factIdOf candidateId) = some fact ∧
      candidate.candidateId = candidateId ∧ GrantedBy store fact candidate commandId := by
  obtain ⟨candidate, found, isAccepted⟩ := isAccepted_iff.mp accepted
  obtain ⟨fact, isFact⟩ := sound.accepted candidateId candidate found isAccepted
  obtain ⟨origin, command, granted⟩ := sound.granted _ fact isFact
  refine ⟨fact, origin, command, isFact, ?_, granted⟩
  have isId : fact.factId = factIdOf candidateId := Table.key_of_lookup isFact
  rw [granted.made] at isId
  simpa [factIdOf, initialFact, Ident.hashed_inj] using isId

theorem SoundStore.factRevision_granted (sound : SoundStore store) {revisionId : Ident}
    {fact : Fact} {revision : FactRevision}
    (found : store.factRevision revisionId = some (fact, revision)) :
    ∃ candidate commandId, GrantedBy store fact candidate commandId ∧
      revisionId = initialRevisionId candidate.candidateId ∧
      revision.links = groundedLinks commandId candidate.evidence := by
  obtain ⟨isFact, isRevision, isId⟩ := TaskKnowledge.factRevision_eq_some found
  obtain ⟨candidate, command, granted⟩ := sound.granted _ fact (Table.lookup_of_mem isFact)
  rw [granted.made] at isRevision
  obtain rfl := List.mem_singleton.mp isRevision
  exact ⟨candidate, command, granted, isId.symm, rfl⟩

theorem SoundStore.headIs (sound : SoundStore store) {revisionId : Ident} {fact : Fact}
    {revision : FactRevision} (found : store.factRevision revisionId = some (fact, revision)) :
    fact.headIs revisionId = true := by
  obtain ⟨candidate, command, granted, rfl, -⟩ := sound.factRevision_granted found
  rw [granted.made]
  simp [Fact.headIs, initialFact]

theorem SoundStore.factRevision_of_accepted (sound : SoundStore store)
    (accepted : store.isAccepted candidateId = true) :
    ∃ fact revision, store.factRevision (initialRevisionId candidateId) = some (fact, revision) := by
  obtain ⟨fact, candidate, command, isFact, rfl, granted⟩ := sound.fact_of_accepted accepted
  have isRevision : initialRevision candidate (groundedLinks command candidate.evidence) ∈
      fact.revisions := by
    rw [granted.made]
    exact List.mem_singleton_self _
  exact TaskKnowledge.exists_factRevision (Table.mem_of_lookup isFact) isRevision

theorem SoundStore.buildableRevision (sound : SoundStore store)
    (accepted : store.isAccepted candidateId = true) :
    buildableRevision store (initialRevisionId candidateId) = true := by
  obtain ⟨fact, revision, found⟩ := sound.factRevision_of_accepted accepted
  obtain ⟨candidate, command, granted, isRevision, isLinks⟩ := sound.factRevision_granted found
  have isOrigin : (store.candidates.lookup fact.originCandidateId).any
      (·.status = .accepted) = true := by
    simp [granted.origin, granted.accepted]
  have hasLinks : revision.links.isEmpty = false := by
    rw [isLinks, groundedLinks, List.isEmpty_map, List.isEmpty_eq_false_iff]
    exact granted.evidence
  have areCurrent : (revision.links.all fun link =>
      (store.validations.lookup link.observationId).any (·.outcome = .current)) = true := by
    rw [isLinks, groundedLinks, List.all_map, List.all_eq_true]
    intro item isIn
    simp [granted.observed item isIn]
  unfold Knowledge.buildableRevision
  rw [found]
  simp only [isOrigin, hasLinks, areCurrent, sound.headIs found, Bool.not_false, Bool.and_self]

end Sound

/-! ## Finalizing -/

theorem Grows.succeed (store : TaskKnowledge) (input : BuildInput) (reference : Ident) :
    Grows store (store.succeed input reference) :=
  { Grows.refl store with
    buildRuns := by
      intro other run found
      by_cases same : other = input
      · subst same
        exact ⟨(succeedBuild reference).apply run,
          Table.lookup_modify_self.trans (by rw [found]; rfl), fun _ => rfl⟩
      · exact ⟨run, (Table.lookup_modify_of_ne same).trans found, id⟩ }

variable {run : BuildRun} {output : BuildOutput}

theorem succeeded_succeed {reference : Ident} (found : store.buildRuns.lookup input = some run) :
    Succeeded (store.succeed input reference) input :=
  ⟨(succeedBuild reference).apply run, Table.lookup_modify_self.trans (by rw [found]; rfl), rfl⟩

theorem runs_succeed {reference : Ident} (other : BuildInput) (run : BuildRun)
    (found : (store.succeed input reference).buildRuns.lookup other = some run) :
    (∃ before, store.buildRuns.lookup other = some before ∧ run.status = before.status) ∨
      run.status = .running ∨ run.status = .succeeded := by
  rcases Table.lookup_modify_cases found with ⟨-, before⟩ | ⟨-, before, -, rfl⟩
  · exact .inl ⟨run, before, rfl⟩
  · exact .inr (.inr rfl)

theorem finalizeArtifact_eq_ok {facts : List Ident} :
    finalizeArtifact store facts = .ok (after, output) ↔
      ∃ lines, factLines store facts = some lines ∧
        store.artifacts.lookup (artifactIdOf store.taskId facts) = none ∧
        after = { store with
          artifacts := store.artifacts.insert
            ⟨artifactIdOf store.taskId facts,
              [builtArtifactRevision store.taskId store.objective facts lines]⟩ } ∧
        output = .artifact (artifactIdOf store.taskId facts)
          (artifactRevisionIdOf (artifactIdOf store.taskId facts) 1) 1 := by
  unfold finalizeArtifact
  cases lines : factLines store facts with
  | none => simp
  | some lines =>
      simp only [bind_eq_ok, insertNew_eq_ok, pure_eq_ok, Prod.mk.injEq, Option.some.injEq,
        exists_eq_left']
      constructor
      · rintro ⟨artifacts, ⟨absent, rfl⟩, rfl, rfl⟩
        exact ⟨absent, rfl, rfl⟩
      · rintro ⟨absent, rfl, rfl⟩
        exact ⟨_, ⟨absent, rfl⟩, rfl, rfl⟩

theorem finalizeTopicPage_eq_ok {artifactRevisionId : Ident} :
    finalizeTopicPage store artifactRevisionId = .ok (after, output) ↔
      ∃ artifact revision,
        store.artifactRevision artifactRevisionId = some (artifact, revision) ∧
        store.pages.lookup (pageIdOf store.taskId artifactRevisionId) = none ∧
        after = { store with
          pages := store.pages.insert
            (builtPage (pageIdOf store.taskId artifactRevisionId) revision) } ∧
        output = .topicPage (pageIdOf store.taskId artifactRevisionId)
          (pageRevisionIdOf (pageIdOf store.taskId artifactRevisionId) 1) 1 .draft := by
  unfold finalizeTopicPage
  cases found : store.artifactRevision artifactRevisionId with
  | none => simp
  | some pair =>
      obtain ⟨artifact, revision⟩ := pair
      simp only [bind_eq_ok, insertNew_eq_ok, pure_eq_ok, Prod.mk.injEq, Option.some.injEq]
      constructor
      · rintro ⟨pages, ⟨absent, rfl⟩, rfl, rfl⟩
        exact ⟨artifact, revision, ⟨rfl, rfl⟩, absent, rfl, rfl⟩
      · rintro ⟨_, _, ⟨rfl, rfl⟩, absent, rfl, rfl⟩
        exact ⟨_, ⟨absent, rfl⟩, rfl, rfl⟩

theorem finalize_adds (sound : SoundStore store) (found : store.buildRuns.lookup input = some run)
    (ran : input.finalize store = .ok (after, output)) (reference : Ident) :
    after.receipts = store.receipts ∧ Adds store (after.succeed input reference) ∧
      OutputSound (after.succeed input reference) input output := by
  cases input with
  | artifact facts =>
      obtain ⟨lines, isLines, absent, rfl, rfl⟩ := finalizeArtifact_eq_ok.mp ran
      generalize isRow : (⟨artifactIdOf store.taskId facts,
        [builtArtifactRevision store.taskId store.objective facts lines]⟩ : Artifact) = row
      have isId : row.artifactId = artifactIdOf store.taskId facts := by rw [← isRow]
      have inserted : Grows store { store with artifacts := store.artifacts.insert row } :=
        { Grows.refl store with
          artifacts := fun _ _ isOld => Table.lookup_insert_of_lookup isOld }
      have built : Succeeded (TaskKnowledge.succeed
          { store with artifacts := store.artifacts.insert row } (.artifact facts) reference)
          (.artifact facts) := succeeded_succeed found
      refine ⟨rfl,
        { grows := inserted.trans (.succeed _ _ _)
          runs := runs_succeed
          artifacts := ?_ }, isId ▸ ⟨isId, rfl, rfl, row, Table.lookup_insert_self ?_⟩⟩
      · intro id artifact isArtifact
        rcases Table.lookup_insert_cases isArtifact with old | ⟨-, -, rfl⟩
        · exact .inl old
        · refine .inr ⟨facts, builtArtifactRevision store.taskId store.objective facts lines, ?_⟩
          exact
            { identity := isId
              succeeded := built
              revisions := by rw [← isRow]
              revisionId := by rw [isId]; rfl
              isFirst := rfl
              facts := rfl }
      · rw [isId]
        exact absent
  | topicPage artifactRevisionId =>
      obtain ⟨artifact, revision, isArtifact, absent, rfl, rfl⟩ := finalizeTopicPage_eq_ok.mp ran
      obtain ⟨isIn, isRevision, rfl⟩ := TaskKnowledge.artifactRevision_eq_some isArtifact
      obtain ⟨facts, only, builtFrom⟩ := sound.artifacts _ artifact (Table.lookup_of_mem isIn)
      rw [builtFrom.revisions, List.mem_singleton] at isRevision
      subst isRevision
      generalize isRow : builtPage (pageIdOf store.taskId revision.revisionId) revision = row
      have isId : row.pageId = pageIdOf store.taskId revision.revisionId := by rw [← isRow]; rfl
      have inserted : Grows store { store with pages := store.pages.insert row } :=
        { Grows.refl store with
          pages := fun _ page isOld =>
            ⟨page, Table.lookup_insert_of_lookup isOld, rfl, rfl⟩ }
      have built : Succeeded (TaskKnowledge.succeed
          { store with pages := store.pages.insert row } (.topicPage revision.revisionId)
          reference) (.topicPage revision.revisionId) := succeeded_succeed found
      have grows := inserted.trans (.succeed _ (.topicPage revision.revisionId) reference)
      refine ⟨rfl,
        { grows := grows
          runs := runs_succeed
          pages := ?_ }, isId ▸ ⟨isId, rfl, rfl, row, Table.lookup_insert_self ?_⟩⟩
      · intro id page isPage
        rcases Table.lookup_insert_cases isPage with old | ⟨-, -, rfl⟩
        · exact .inl ⟨page, old, rfl, rfl, rfl⟩
        · refine .inr ⟨artifact, facts, revision,
            builtPageRevision (pageIdOf store.taskId revision.revisionId) revision, ?_⟩
          exact
            { identity := isId
              succeeded := built
              found := Table.lookup_of_mem isIn
              built := builtFrom.mono grows
              revisions := by rw [← isRow]; rfl
              revisionId := by rw [isId]; rfl
              version := rfl
              current := by rw [← isRow]; rfl
              artifact := rfl
              facts := builtFrom.facts }
      · rw [isId]
        exact absent

theorem finalizeBuild_adds (sound : SoundStore store)
    (ran : finalizeBuild store commandId input = .ok (after, response)) :
    Adds store after ∧
      after.receipts.lookup commandId = some ⟨commandId, .build input, response⟩ := by
  rcases transact_eq_ok.mp ran with ⟨replayed, rfl⟩ | ⟨unused, middle, isBody, rfl⟩
  · exact ⟨.refl after, replayed⟩
  · split at isBody
    · cases isBody
    · rename_i run found
      obtain ⟨done, -, isBody⟩ := bind_eq_ok.mp isBody
      obtain ⟨⟨built, output⟩, finalized, isMiddle⟩ := bind_eq_ok.mp isBody
      cases isMiddle
      obtain ⟨sameReceipts, adds, outputSound⟩ :=
        finalize_adds sound found finalized output.reference
      refine ⟨adds.trans (.insertReceipt ?_), lookup_insertReceipt sameReceipts unused _ _⟩
      intro other isOther
      cases isOther
      exact outputSound.mono (.insertReceipt _ _ _ _)

/-! ## Reserving -/

/-- A run for an input is there. -/
def Reserved (store : TaskKnowledge) (input : BuildInput) : Prop :=
  ∃ run, store.buildRuns.lookup input = some run

theorem Reserved.mono (reserved : Reserved store input) (grows : Grows store after) :
    Reserved after input := by
  obtain ⟨run, found⟩ := reserved
  obtain ⟨later, isLater, -⟩ := grows.buildRuns input run found
  exact ⟨later, isLater⟩

/-- The first transaction of a build keeps the store sound; it reserves a run, or is answered by the
receipt of its command. -/
theorem reserveBuild_adds {step : BuildStep}
    (ran : reserveBuild store commandId input = .ok (after, step)) :
    Adds store after ∧
      match step with
      | .reserved => Reserved after input
      | .returned response =>
          after.receipts.lookup commandId = some ⟨commandId, .build input, response⟩ := by
  obtain ⟨existing, isExisting, ran⟩ := bind_eq_ok.mp ran
  cases existing with
  | some response =>
      cases ran
      exact ⟨.refl store, TaskKnowledge.existingReceipt_eq_some.mp isExisting⟩
  | none =>
      have unused := TaskKnowledge.existingReceipt_eq_none.mp isExisting
      obtain ⟨done, -, ran⟩ := bind_eq_ok.mp ran
      split at ran
      · rename_i absent
        cases ran
        refine
          ⟨{ grows :=
              { Grows.refl store with
                buildRuns := fun other run found =>
                  ⟨run, Table.lookup_insert_of_lookup found, id⟩ }
             runs := ?_ }, input.newRun store commandId, Table.lookup_insert_self absent⟩
        intro other run found
        rcases Table.lookup_insert_cases found with before | ⟨-, -, rfl⟩
        · exact .inl ⟨run, before, rfl⟩
        · exact .inr (.inl rfl)
      · rename_i run found
        -- the run of an earlier reservation is counted once more
        have retried : Adds store { store with
            buildRuns := store.buildRuns.modify input retryBuild } ∧
            Reserved { store with buildRuns := store.buildRuns.modify input retryBuild }
              input := by
          refine ⟨
            { grows := { Grows.refl store with buildRuns := ?_ }
              runs := ?_ },
            retryBuild.apply run, Table.lookup_modify_self.trans (by rw [found]; rfl)⟩
          · intro other old isOld
            by_cases same : other = input
            · subst same
              exact ⟨retryBuild.apply old, Table.lookup_modify_self.trans (by rw [isOld]; rfl), id⟩
            · exact ⟨old, (Table.lookup_modify_of_ne same).trans isOld, id⟩
          · intro other later isLater
            rcases Table.lookup_modify_cases isLater with ⟨-, old⟩ | ⟨rfl, old, isOld, rfl⟩
            · exact .inl ⟨later, old, rfl⟩
            · exact .inl ⟨old, isOld, rfl⟩
        split at ran
        · cases ran
          exact ⟨.insertReceipt (fun output isOutput => by cases isOutput),
            lookup_insertReceipt rfl unused _ _⟩
        · cases ran
        · cases ran
          exact retried
        · cases ran
          exact retried

/-! ## Reviewing a page -/

theorem Adds.decidePage (store : TaskKnowledge) (pageId : Ident) (publish : Bool)
    (version : Nat) :
    Adds store (store.decidePage pageId publish version) where
  grows :=
    { Grows.refl store with
      pages := by
        intro id page found
        by_cases same : id = pageId
        · subst same
          exact ⟨(Knowledge.decidePage publish version).apply page,
            Table.lookup_modify_self.trans (by rw [found]; rfl), rfl, rfl⟩
        · exact ⟨page, (Table.lookup_modify_of_ne same).trans found, rfl, rfl⟩ }
  pages id page found := by
    rcases Table.lookup_modify_cases found with ⟨-, before⟩ | ⟨rfl, before, isBefore, rfl⟩
    · exact .inl ⟨page, before, rfl, rfl, rfl⟩
    · exact .inl ⟨before, isBefore, rfl, rfl, rfl⟩

theorem reviewPage_adds {pageId : Ident} {request : PageReviewRequest}
    (ran : reviewPage store commandId pageId request = .ok (after, response)) :
    Adds store after ∧ after.receipts.lookup commandId =
      some ⟨commandId, .reviewPage pageId request, response⟩ := by
  rcases transact_eq_ok.mp ran with ⟨replayed, rfl⟩ | ⟨unused, middle, isBody, rfl⟩
  · exact ⟨.refl after, replayed⟩
  · split at isBody
    · cases isBody
    · obtain ⟨done, -, isBody⟩ := bind_eq_ok.mp isBody
      obtain ⟨done, -, isBody⟩ := bind_eq_ok.mp isBody
      split at isBody
      · cases isBody
      · cases isBody
        exact ⟨(Adds.decidePage store pageId _ _).trans (.insertReceipt ⟨rfl, rfl, rfl⟩),
          lookup_insertReceipt rfl unused _ _⟩

/-! ## What a sound store can always do -/

theorem SoundStore.factLines (sound : SoundStore store) {facts : List Ident}
    (accepted : ∀ fact ∈ facts, ∃ candidateId, fact = initialRevisionId candidateId ∧
      store.isAccepted candidateId = true) : ∃ lines, factLines store facts = some lines := by
  induction facts with
  | nil => exact ⟨[], rfl⟩
  | cons fact rest inductionHypothesis =>
      rw [List.forall_mem_cons] at accepted
      obtain ⟨⟨candidateId, rfl, isAccepted⟩, restAccepted⟩ := accepted
      obtain ⟨lines, isLines⟩ := inductionHypothesis restAccepted
      obtain ⟨row, revision, found⟩ := sound.factRevision_of_accepted isAccepted
      exact ⟨revision.line :: lines, by simp [Knowledge.factLines, found, isLines]⟩

theorem SoundStore.output_absent (sound : SoundStore store)
    (found : store.buildRuns.lookup input = some run) (isRunning : run.status = .running) :
    match input with
    | .artifact facts => store.artifacts.lookup (artifactIdOf store.taskId facts) = none
    | .topicPage artifactRevisionId =>
        store.pages.lookup (pageIdOf store.taskId artifactRevisionId) = none := by
  have notSucceeded : ¬ Succeeded store input := by
    rintro ⟨other, isOther, succeeded⟩
    rw [found] at isOther
    cases isOther
    rw [isRunning] at succeeded
    cases succeeded
  cases input with
  | artifact facts =>
      refine Option.eq_none_iff_forall_ne_some.mpr fun artifact present => notSucceeded ?_
      obtain ⟨others, revision, built⟩ := sound.artifacts _ artifact present
      have isId : artifact.artifactId = artifactIdOf store.taskId facts :=
        Table.key_of_lookup present
      have same : others = facts := by
        have := built.identity.symm.trans isId
        simpa [artifactIdOf, BuildInput.ident, Ident.hashed_inj] using this
      exact same ▸ built.succeeded
  | topicPage artifactRevisionId =>
      refine Option.eq_none_iff_forall_ne_some.mpr fun page present => notSucceeded ?_
      obtain ⟨artifact, facts, source, revision, built⟩ := sound.pages _ page present
      have isId : page.pageId = pageIdOf store.taskId artifactRevisionId :=
        Table.key_of_lookup present
      have same : source.revisionId = artifactRevisionId := by
        have := built.identity.symm.trans isId
        simpa [pageIdOf, BuildInput.ident, Ident.hashed_inj] using this
      exact same ▸ built.succeeded

end Shiliu.Knowledge
