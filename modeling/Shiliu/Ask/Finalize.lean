/-
Module: Shiliu.Ask.Finalize
Purpose: The finalization of an answer. Between two citation integrity passes, the blocks that cite
  nothing or what is not allowed are offered for one local repair, whose patches are matched back by
  the text of the block. A repair only ever changes the ids a failed block cites: it keeps those that
  were allowed and adds allowed ones, and what is shown in the end cites what the final pass found
  current.
Trusted boundary: none
Main exports: AllowlistedContext, GroundedAnswerDraft, localRepair_patched, Framed, finalize_framed
-/
import Mathlib.Algebra.Order.Ring.Rat
import Shiliu.Ask.F1Context
import Shiliu.Ask.Trust

set_option linter.all false

namespace Shiliu.Ask

open Shiliu.Library

/-! ## Contexts -/

/-- A context whose allowlist names its spans. -/
structure AllowlistedContext (Time : Type) extends ContextBuildResult Time where
  allowlisted : citationAllowlist = spans.map TranscriptEvidenceSpan.citationId

variable {Time : Type}

variable {rules : AskRules Time} {query intent : String}
  {spans : List (TranscriptEvidenceSpan Time)} {context : ContextBuildResult Time}

theorem TranscriptContextBuilder.build_allowlisted {builder : TranscriptContextBuilder}
    (built : builder.build rules query intent spans = .ok context) :
    context.citationAllowlist = context.spans.map TranscriptEvidenceSpan.citationId := by
  simp only [build, bind_eq_ok, pure_eq_ok] at built
  obtain ⟨state, -, rfl⟩ := built
  rfl

theorem wideBuild_allowlisted (built : wideBuild rules query intent spans = .ok context) :
    context.citationAllowlist = context.spans.map TranscriptEvidenceSpan.citationId := by
  simp only [wideBuild, bind_eq_ok, pure_eq_ok] at built
  obtain ⟨state, -, rfl⟩ := built
  rfl

/-- `context_builder.build`, with what it makes sure of. -/
def TranscriptContextBuilder.buildAllowlisted (builder : TranscriptContextBuilder)
    (rules : AskRules Time) (query intent : String) (spans : List (TranscriptEvidenceSpan Time)) :
    Except AskFailure (AllowlistedContext Time) :=
  match built : builder.build rules query intent spans with
  | .error failure => .error failure
  | .ok context => .ok ⟨context, build_allowlisted built⟩

/-! ## What is finalized -/

/-- `GroundedAnswerDraft`. -/
structure GroundedAnswerDraft where
  intro : Option String
  outro : Option String
  status : AnswerStatus
  answerBlocks : List AnswerDraftBlock
  limitations : List String

/-- What the finalizer reads of a `GroundedAnswerResult`. -/
structure GroundedAnswerResult where
  draft : Option GroundedAnswerDraft
  repairUsed : Bool
  providerErrorCode : Option String

/-- `ValidationIssue`. -/
structure ValidationIssue where
  code : String
  path : String
  message : String

/-- What `repair` is called with. -/
structure RepairRequest where
  issues : List ValidationIssue
  failedBlocks : List AnswerDraftBlock
  deadline : ℚ

/-- The readings of the clock, in order. -/
structure ClockReadings where
  beforeAnswer : ℚ
  beforePreflight : ℚ
  beforeRepair : ℚ
  repairStarted : ℚ
  repaired : ℚ
  repairedAgain : ℚ

/-- What `finalize` is called with; of the decision projection it counts the open aspects and the
confirmed conflicts. -/
structure FinalizeRequest (Time : Type) where
  spans : List (TranscriptEvidenceSpan Time)
  staleReasons : List String
  terminationReason : TerminationReason
  retrievalErrors : List String
  deadline : Option ℚ
  openAspects : Nat
  confirmedConflicts : Nat
  preparedContext : Option (AllowlistedContext Time)
  clarificationRequests : List String

/-- The answer service raised; `timedOut` tells whether it was a `TimeoutError`. -/
structure AnswerFailure where
  timedOut : Bool

/-- The collaborators of the finalizer, with their answers. `validate_current` is asked once for each
id in a pass, and may answer otherwise in the next. -/
structure FinalizerServices (Time : Type) where
  build : List (TranscriptEvidenceSpan Time) → Except AskFailure (AllowlistedContext Time)
  answer : ContextBuildResult Time → Except AnswerFailure GroundedAnswerResult
  repair : RepairRequest → Except AnswerFailure (Option GroundedAnswerDraft)
  validatesFirst : TranscriptEvidenceSpan Time → Bool
  validatesFinal : TranscriptEvidenceSpan Time → Bool
  clock : ClockReadings

/-! ## Local repair -/

def ReasonCode.name : ReasonCode → String
  | .citationMissing => "citation_missing"
  | .citationNotAllowed => "citation_not_allowed"
  | .citationUnmapped => "citation_unmapped"
  | .citationNotCurrent => "citation_not_current"
  | .claimAuthorityMissing => "claim_authority_missing"

/-- `repairable`. -/
def repairable : List ReasonCode := [.citationMissing, .citationNotAllowed, .citationUnmapped]

/-- A block that was hidden only for reasons a repair can mend. -/
def AnswerTrustDisposition.mendable (disposition : AnswerTrustDisposition) : Bool :=
  disposition.outcome = .remove ∧ disposition.reasonCodes ≠ [] ∧
    ∀ reason ∈ disposition.reasonCodes, reason ∈ repairable

/-- `failed_indices`. -/
def failedIndices (dispositions : List AnswerTrustDisposition) : List Nat :=
  (dispositions.zipIdx.filter fun (disposition, _) => disposition.mendable).map Prod.snd

/-- `[blocks[i] for i in indices]`, each with its index. -/
def blocksAt (blocks : List AnswerDraftBlock) (indices : List Nat) : List (Nat × AnswerDraftBlock) :=
  indices.filterMap fun index => blocks[index]?.map fun block => (index, block)

def issuesOf (dispositions : List AnswerTrustDisposition) (indices : List Nat) :
    List ValidationIssue :=
  indices.flatMap fun index =>
    match dispositions[index]? with
    | none => []
    | some disposition => disposition.reasonCodes.map fun reason =>
        ⟨reason.name, s!"answer_blocks.{index}",
          "Correct the citation IDs for this original block only"⟩

/-- The test a patch has to pass. -/
def acceptsPatch (allowed : List String) (block patch : AnswerDraftBlock) : Bool :=
  let before := block.citationIds
  let after := patch.citationIds
  (after ≠ [] ∧ (∀ referenceId ∈ after, referenceId ∈ allowed) ∧
      ∀ referenceId ∈ before, referenceId ∈ allowed → referenceId ∈ after) ∧
    ((∃ referenceId ∈ before, referenceId ∉ allowed) →
      ∃ referenceId ∈ after, ¬(referenceId ∈ before ∧ referenceId ∈ allowed))

/-- The body of the loop over the patches; `originals` are the failed blocks with their indices, of
which the last stands for its text. -/
def applyPatch (allowed : List String) (originals : List (Nat × AnswerDraftBlock))
    (blocks : List AnswerDraftBlock) (patch : AnswerDraftBlock) : List AnswerDraftBlock :=
  match lastWith (fun original => original.2.text) originals patch.text with
  | none => blocks
  | some (index, _) =>
      match blocks[index]? with
      | none => blocks
      | some block => if acceptsPatch allowed block patch then blocks.set index patch else blocks

/-- The blocks after a repair, and what the trace says of it. -/
structure LocalRepair where
  blocks : List AnswerDraftBlock
  failedBlockIndices : List Nat
  attempted : Bool
  rejectedReason : Option String
  skippedReason : Option String

/-- A response that rewrites or repeats a text is rejected as a whole. -/
def patchBlocks (allowed : List String) (originals : List (Nat × AnswerDraftBlock))
    (blocks patches : List AnswerDraftBlock) : List AnswerDraftBlock × Option String :=
  if ¬(patches.map AnswerDraftBlock.text).Nodup ∨
      ∃ patch ∈ patches, lastWith (fun original => original.2.text) originals patch.text = none then
    (blocks, some "changed_or_extra_block_text")
  else (patches.foldl (applyPatch allowed originals) blocks, none)

/-- `deadline is None or deadline - clock() >= 1`. -/
def timeLeft (deadline : Option ℚ) (now : ℚ) : Bool :=
  match deadline with
  | none => true
  | some deadline => 1 ≤ deadline - now

/-- Whether a response came in time. -/
def inTime (deadline : Option ℚ) (clock : ClockReadings) : Bool :=
  match deadline with
  | none => clock.repaired ≤ clock.repairStarted + 30
  | some deadline =>
      clock.repaired ≤ clock.repairStarted + 30 ∧ clock.repairedAgain ≤ deadline

/-- The call of the repair, and what is taken over of its response. -/
def attemptRepair (services : FinalizerServices Time) (deadline : Option ℚ) (allowed : List String)
    (dispositions : List AnswerTrustDisposition) (blocks : List AnswerDraftBlock)
    (indices : List Nat) : List AnswerDraftBlock × Option String :=
  let originals := blocksAt blocks indices
  let latest := services.clock.repairStarted + 30
  let repairDeadline :=
    match deadline with
    | none => latest
    | some deadline => min deadline latest
  match services.repair ⟨issuesOf dispositions indices, originals.map Prod.snd, repairDeadline⟩ with
  | .error _ => (blocks, none)
  | .ok none => (blocks, none)
  | .ok (some response) =>
      if inTime deadline services.clock then
        patchBlocks allowed originals blocks response.answerBlocks
      else (blocks, none)

/-- The blocks after the first pass, repaired where they failed. -/
def localRepair (services : FinalizerServices Time) (deadline : Option ℚ) (allowed : List String)
    (repairUsed : Bool) (dispositions : List AnswerTrustDisposition)
    (blocks : List AnswerDraftBlock) : LocalRepair :=
  let indices := failedIndices dispositions
  if indices = [] then ⟨blocks, indices, false, none, none⟩
  else if !repairUsed && timeLeft deadline services.clock.beforeRepair then
    let (patched, rejectedReason) :=
      attemptRepair services deadline allowed dispositions blocks indices
    ⟨patched, indices, true, rejectedReason, none⟩
  else
    ⟨blocks, indices, false, none,
      some (if repairUsed then "repair_budget_used" else "deadline_exhausted")⟩

/-! ## Publication -/

/-- `_merge_explicit_answer_gaps`. -/
def mergeExplicitAnswerGaps (status : AnswerStatus) (limitations : List String)
    (openAspects confirmedConflicts : Nat) : AnswerStatus × List String :=
  let gaps :=
    (if openAspects = 0 then [] else [s!"仍有 {openAspects} 个证据方面未覆盖"]) ++
      if confirmedConflicts = 0 then [] else [s!"检测到 {confirmedConflicts} 个待处理冲突"]
  (if status = .complete ∧ (limitations ≠ [] ∨ gaps ≠ []) then .partially else status,
    distinct (limitations ++ gaps))

/-- A draft that came to be shown: the final citation integrity pass it was submitted to, and the
repair before it. -/
structure Publication (Time : Type) where
  context : AllowlistedContext Time
  draft : GroundedAnswerDraft
  repairUsed : Bool
  repair : LocalRepair
  finalPass : TrustRequest Time

/-- What the first pass is asked. -/
def firstPass (services : FinalizerServices Time) (request : FinalizeRequest Time)
    (context : AllowlistedContext Time) (draft : GroundedAnswerDraft)
    (citations : List (Citation Time)) : TrustRequest Time :=
  let (status, limitations) := mergeExplicitAnswerGaps draft.status draft.limitations
    request.openAspects request.confirmedConflicts
  { answerBlocks := draft.answerBlocks
    citations := citations
    spans := context.spans
    status := status
    limitations :=
      if context.truncated then limitations ++ ["上下文预算已截断部分候选证据"] else limitations
    terminationReason := request.terminationReason
    validatesCurrent := services.validatesFirst }

section Publish

variable [LinearOrder Time] [Zero Time]

/-- From a draft to its final pass. -/
def publish (services : FinalizerServices Time) (request : FinalizeRequest Time)
    (context : AllowlistedContext Time) (repairUsed : Bool) (draft : GroundedAnswerDraft) :
    Except AskFailure (Publication Time) := do
  let citations ← context.spans.mapM TranscriptEvidenceSpan.asCitation
  let first := firstPass services request context draft citations
  let mayRepair := !repairUsed &&
    draft.answerBlocks.any (fun block => block.citationIds = [] ∨
      ∃ referenceId ∈ block.citationIds, referenceId ∉ context.citationAllowlist) &&
    timeLeft request.deadline services.clock.beforePreflight
  let preflight := applyAnswerTrust first
  let repair := localRepair services request.deadline context.citationAllowlist repairUsed
    preflight.summary.dispositions draft.answerBlocks
  let final :=
    { first with
      answerBlocks := repair.blocks
      validatesCurrent := services.validatesFinal }
  return {
    context := context
    draft := draft
    repairUsed := repairUsed || repair.attempted
    repair := repair
    finalPass := if mayRepair then final else first }

end Publish

/-- `trusted`: what the final pass leaves. -/
def Publication.trusted (publication : Publication Time) : TrustedAnswer Time :=
  applyAnswerTrust publication.finalPass

/-- `recovered_block_indices`. -/
def Publication.recoveredBlockIndices (publication : Publication Time) : List Nat :=
  publication.repair.failedBlockIndices.filter fun index =>
    (publication.trusted.summary.dispositions[index]?.map AnswerTrustDisposition.outcome) =
      some .allow

/-! ## Finalization -/

/-- `FinalizedAnswer`, without its trace. -/
structure FinalizedAnswer (Time : Type) where
  status : AnswerStatus
  executionOutcome : AnswerExecutionOutcome
  answerBlocks : List AnswerBlock
  citations : List (Citation Time)
  limitations : List String
  terminationReason : TerminationReason
  validEvidenceCount : Nat
  contextSpanCount : Nat
  contextTruncated : Bool
  staleEvidenceCount : Nat
  repairUsed : Bool
  intro : Option String
  outro : Option String

/-- How a finalization ends: with nothing to show, or after a final pass. -/
inductive Conclusion (Time : Type) where
  | insufficient (limitations : List String) (outcome : AnswerExecutionOutcome)
      (reason : TerminationReason) (context : Option (ContextBuildResult Time)) (repairUsed : Bool)
  | published (publication : Publication Time)

/-- `fused`. -/
def FinalizeRequest.fused [LinearOrder Time] (request : FinalizeRequest Time) :
    List (TranscriptEvidenceSpan Time) :=
  match request.preparedContext with
  | some context => context.spans
  | none => fuseEvidence request.spans

/-- `prepared_context or self.context_builder.build(...)`. -/
def FinalizeRequest.contextOf (request : FinalizeRequest Time) (services : FinalizerServices Time)
    (fused : List (TranscriptEvidenceSpan Time)) : Except AskFailure (AllowlistedContext Time) :=
  match request.preparedContext with
  | some context => .ok context
  | none => services.build fused

/-- The answer when there is no evidence: a request for more, or none at all. -/
def FinalizeRequest.withoutEvidence (request : FinalizeRequest Time) : Conclusion Time :=
  if request.clarificationRequests ≠ [] ∧
      request.terminationReason ∈ [TerminationReason.answerReady, .evidenceUnavailable] then
    .insufficient
      (("需要你补充以下信息后才能回答：" :: request.clarificationRequests) ++
        (if request.staleReasons = [] then [] else ["已有字幕引用失效，未用于事实回答"]) ++
        (if request.retrievalErrors = [] then [] else ["部分或全部检索执行失败"]))
      (if request.staleReasons ≠ [] ∨ request.retrievalErrors ≠ [] then .evidenceUnavailable
        else .evidenceInsufficient)
      request.terminationReason none false
  else
    .insufficient
      ("没有找到可绑定当前字幕版本的有效证据" ::
        (if request.retrievalErrors = [] then [] else ["部分或全部检索执行失败"]))
      .evidenceUnavailable
      (if request.terminationReason = .answerReady then .evidenceUnavailable
        else request.terminationReason) none false

/-- `_insufficient_stop_limitation`. -/
def insufficientStopLimitation : TerminationReason → Except AskFailure String
  | .budgetExhausted => .ok "本次搜索已达到确定性预算或时间边界"
  | .toolBudgetExhausted => .ok "本次搜索已达到工具执行预算"
  | .controllerBudgetExhausted => .ok "本次搜索已达到决策调用预算"
  | .invalidStructuredOutput => .ok "决策输出未通过结构校验，已保留现有证据"
  | .timeout => .ok "本次搜索已达到时间边界"
  | .cancelled => .ok "本次搜索已取消"
  | .noNewEvidence => .ok "继续搜索没有发现新的有效字幕证据"
  | .repeatedSearch => .ok "后续搜索开始重复已有结果"
  | .providerError => .ok "模型服务未能生成可验证的结构化回答"
  | .evidenceUnavailable => .ok "相关线索的当前字幕证据不可用或已过期"
  | .answerReady => .ok "本次检索未找到足以回答该问题的可靠字幕证据"
  | _ => .error .keyError

/-- The limitation an insufficient draft stops with, if the search did not end by itself. -/
def stopLimitations (reason : TerminationReason) : Except AskFailure (List String) :=
  if reason = .answerReady then .ok []
  else (insufficientStopLimitation reason).map fun limitation => [limitation]

section Finalize

variable [LinearOrder Time] [Zero Time]

/-- What `finalize` makes of the answer. -/
def concludeAnswer (services : FinalizerServices Time) (request : FinalizeRequest Time)
    (context : AllowlistedContext Time) (result : GroundedAnswerResult) :
    Except AskFailure (Conclusion Time) :=
  match result.draft with
  | none =>
      return .insufficient
        [if result.repairUsed then "模型回答在一次修复后仍未通过确定性验证"
          else "模型服务故障，未形成可修复的结构化输出"]
        .generationFailed
        (if result.providerErrorCode = some "deadline_exhausted" then .budgetExhausted
          else .providerError)
        (some context.toContextBuildResult) result.repairUsed
  | some draft =>
      if draft.status = .insufficient then do
        let stops ← stopLimitations request.terminationReason
        return .insufficient
          ("本次检索未找到足以回答该问题的可靠字幕证据" ::
            (if context.truncated then ["上下文预算已截断部分候选证据"] else []) ++ stops)
          .evidenceInsufficient request.terminationReason (some context.toContextBuildResult)
          result.repairUsed
      else (publish services request context result.repairUsed draft).map .published

/-- The body of `finalize`. -/
def conclude (services : FinalizerServices Time) (request : FinalizeRequest Time) :
    Except AskFailure (Conclusion Time) :=
  if request.fused = [] then .ok request.withoutEvidence
  else do
    let context ← request.contextOf services request.fused
    if context.spans = [] then
      return .insufficient ["有效字幕证据超过上下文预算，无法安全生成回答"] .evidenceUnavailable
        (if request.terminationReason = .answerReady then .evidenceUnavailable
          else request.terminationReason)
        (some { context.toContextBuildResult with truncated := true }) false
    else if request.deadline.any fun deadline => deadline ≤ services.clock.beforeAnswer then
      return .insufficient ["深入搜索总运行时间已耗尽，未启动最终回答"] .generationFailed
        .budgetExhausted (some context.toContextBuildResult) false
    else
      match services.answer context.toContextBuildResult with
      | .error failure =>
          return .insufficient ["模型服务未能生成可验证的结构化回答"] .generationFailed
            (if failure.timedOut then .budgetExhausted else .providerError)
            (some context.toContextBuildResult) false
      | .ok result => concludeAnswer services request context result

/-- The answer a conclusion returns. -/
def Conclusion.answer (request : FinalizeRequest Time) : Conclusion Time → FinalizedAnswer Time
  | .insufficient limitations outcome reason context repairUsed =>
      { status := .insufficient
        executionOutcome := outcome
        answerBlocks := []
        citations := []
        limitations := limitations
        terminationReason := reason
        validEvidenceCount := request.fused.length
        contextSpanCount := (context.map fun context => context.spans.length).getD 0
        contextTruncated := (context.map ContextBuildResult.truncated).getD false
        staleEvidenceCount := request.staleReasons.length
        repairUsed := repairUsed
        intro := none
        outro := none }
  | .published publication =>
      let trusted := publication.trusted
      { status := trusted.status
        executionOutcome := trusted.executionOutcome
        answerBlocks := trusted.answerBlocks
        citations := trusted.citations
        limitations := trusted.limitations
        terminationReason := trusted.terminationReason
        validEvidenceCount := request.fused.length
        contextSpanCount := publication.context.spans.length
        contextTruncated := publication.context.truncated
        staleEvidenceCount := request.staleReasons.length
        repairUsed := publication.repairUsed
        intro := if trusted.answerBlocks = [] then none else publication.draft.intro
        outro := if trusted.answerBlocks = [] then none else publication.draft.outro }

/-- `AnswerFinalizer.finalize`. -/
def finalize (services : FinalizerServices Time) (request : FinalizeRequest Time) :
    Except AskFailure (FinalizedAnswer Time) :=
  (conclude services request).map (Conclusion.answer request)

end Finalize

/-! ## A repair is a patch -/

/-- A block with other citations: it keeps those that were allowed, and cites allowed ids only. -/
structure Patch (allowed : List String) (before after : AnswerDraftBlock) : Prop where
  text : after.text = before.text
  keeps : ∀ referenceId ∈ before.citationIds, referenceId ∈ allowed → referenceId ∈ after.citationIds
  allowed : ∀ referenceId ∈ after.citationIds, referenceId ∈ allowed
  cited : after.citationIds ≠ []

/-- Blocks of which some at the given places are patched, and all others as they were. -/
structure Patched (allowed : List String) (places : List Nat)
    (before after : List AnswerDraftBlock) : Prop where
  length : after.length = before.length
  each : ∀ index one other, before[index]? = some one → after[index]? = some other →
    other = one ∨ index ∈ places ∧ Patch allowed one other

section Patching

variable {allowed : List String} {places : List Nat} {before between after : List AnswerDraftBlock}

theorem Patch.trans {first second third : AnswerDraftBlock} (one : Patch allowed first second)
    (two : Patch allowed second third) : Patch allowed first third where
  text := two.text.trans one.text
  keeps referenceId cites isAllowed := two.keeps referenceId (one.keeps referenceId cites isAllowed)
    isAllowed
  allowed := two.allowed
  cited := two.cited

theorem Patched.refl : Patched allowed places before before where
  length := rfl
  each index one other isOne isOther := by
    rw [isOne] at isOther
    exact .inl (Option.some_inj.mp isOther).symm

theorem Patched.trans (one : Patched allowed places before between)
    (two : Patched allowed places between after) : Patched allowed places before after where
  length := two.length.trans one.length
  each index first third isFirst isThird := by
    have inside : index < between.length := by
      rw [← two.length]
      exact (List.getElem?_eq_some_iff.mp isThird).1
    have isSecond := List.getElem?_eq_getElem inside
    have early := one.each index first _ isFirst isSecond
    have late := two.each index _ third isSecond isThird
    rcases early with same | ⟨isPlace, patch⟩
    · rw [same] at late
      exact late
    · rcases late with same | ⟨-, later⟩
      · rw [same]
        exact .inr ⟨isPlace, patch⟩
      · exact .inr ⟨isPlace, patch.trans later⟩

/-- The texts are those of before, in order. -/
theorem Patched.texts (patched : Patched allowed places before after) :
    after.map AnswerDraftBlock.text = before.map AnswerDraftBlock.text := by
  apply List.ext_getElem
  · simp [patched.length]
  · intro index inAfter inBefore
    rw [List.length_map] at inAfter inBefore
    rw [List.getElem_map, List.getElem_map]
    rcases patched.each index _ _ (List.getElem?_eq_getElem inBefore)
      (List.getElem?_eq_getElem inAfter) with same | ⟨-, patch⟩
    · rw [same]
    · exact patch.text

variable {patch : AnswerDraftBlock} {indices : List Nat}
  {dispositions : List AnswerTrustDisposition}

theorem acceptsPatch_iff {block : AnswerDraftBlock} : acceptsPatch allowed block patch = true ↔
    (patch.citationIds ≠ [] ∧ (∀ referenceId ∈ patch.citationIds, referenceId ∈ allowed) ∧
      ∀ referenceId ∈ block.citationIds, referenceId ∈ allowed → referenceId ∈ patch.citationIds) ∧
    ((∃ referenceId ∈ block.citationIds, referenceId ∉ allowed) →
      ∃ referenceId ∈ patch.citationIds,
        ¬(referenceId ∈ block.citationIds ∧ referenceId ∈ allowed)) := by
  simp only [acceptsPatch, decide_eq_true_eq]

variable {originals : List (Nat × AnswerDraftBlock)}

variable {blocks : List AnswerDraftBlock}

theorem applyPatch_patched (matched : ∀ original ∈ originals, original.1 ∈ places ∧
      ∀ block, blocks[original.1]? = some block → block.text = original.2.text) :
    Patched allowed places blocks (applyPatch allowed originals blocks patch) := by
  unfold applyPatch
  split
  case h_1 => exact .refl
  case h_2 place original found =>
      obtain ⟨isOriginal, sameText⟩ := lastWith_some found
      obtain ⟨isPlace, texts⟩ := matched _ isOriginal
      split
      case h_1 => exact .refl
      case h_2 block isBlock =>
          split
          case isFalse => exact .refl
          case isTrue accepted =>
              obtain ⟨⟨cited, isAllowed, keeps⟩, -⟩ := acceptsPatch_iff.mp accepted
              constructor
              · exact List.length_set
              · intro index one other isOne isOther
                by_cases here : place = index
                · subst here
                  rw [isBlock] at isOne
                  cases isOne
                  rw [List.getElem?_set_self (List.getElem?_eq_some_iff.mp isBlock).1] at isOther
                  cases isOther
                  exact .inr ⟨isPlace, sameText.symm.trans (texts block isBlock).symm, keeps,
                    isAllowed, cited⟩
                · rw [List.getElem?_set_ne here, isOne] at isOther
                  exact .inl (Option.some_inj.mp isOther).symm

theorem foldl_applyPatch_patched {patches : List AnswerDraftBlock}
    (matched : ∀ original ∈ originals, original.1 ∈ places ∧
      ∀ block, blocks[original.1]? = some block → block.text = original.2.text) :
    Patched allowed places blocks (patches.foldl (applyPatch allowed originals) blocks) := by
  induction patches generalizing blocks with
  | nil => exact .refl
  | cons patch rest inductionHypothesis =>
      have step : Patched allowed places blocks (applyPatch allowed originals blocks patch) :=
        applyPatch_patched matched
      apply step.trans
      apply inductionHypothesis
      intro original isOriginal
      obtain ⟨isPlace, texts⟩ := matched original isOriginal
      constructor
      · exact isPlace
      · intro block isBlock
        have sameTexts := congrArg (fun texts => texts[original.1]?) step.texts
        simp only [List.getElem?_map, isBlock, Option.map_some] at sameTexts
        obtain ⟨earlier, isEarlier, sameText⟩ := Option.map_eq_some_iff.mp sameTexts.symm
        rw [← sameText]
        exact texts earlier isEarlier

theorem mem_blocksAt {original : Nat × AnswerDraftBlock} :
    original ∈ blocksAt blocks indices ↔
      original.1 ∈ indices ∧ blocks[original.1]? = some original.2 := by
  simp only [blocksAt, List.mem_filterMap, Option.map_eq_some_iff]
  constructor
  · rintro ⟨index, isIndex, block, isBlock, rfl⟩
    exact ⟨isIndex, isBlock⟩
  · rintro ⟨isIndex, isBlock⟩
    exact ⟨original.1, isIndex, original.2, isBlock, rfl⟩

theorem attemptRepair_patched {services : FinalizerServices Time} {deadline : Option ℚ} :
    Patched allowed indices blocks
      (attemptRepair services deadline allowed dispositions blocks indices).1 := by
  unfold attemptRepair
  simp only
  split
  case h_1 => exact .refl
  case h_2 => exact .refl
  case h_3 response _ =>
      split
      case isFalse => exact .refl
      case isTrue =>
          unfold patchBlocks
          split
          case isTrue => exact .refl
          case isFalse =>
              apply foldl_applyPatch_patched
              intro original isOriginal
              obtain ⟨isIndex, isBlock⟩ := mem_blocksAt.mp isOriginal
              refine ⟨isIndex, fun block isOther => ?_⟩
              rw [isBlock] at isOther
              rw [Option.some_inj.mp isOther]

theorem localRepair_patched {services : FinalizerServices Time} {deadline : Option ℚ}
    {repairUsed : Bool} :
    Patched allowed (failedIndices dispositions) blocks
      (localRepair services deadline allowed repairUsed dispositions blocks).blocks := by
  unfold localRepair
  simp only
  split
  case isTrue => exact .refl
  case isFalse =>
      split
      case isTrue => exact attemptRepair_patched
      case isFalse => exact .refl

end Patching

/-! ## Which blocks are repaired -/

section Failing

variable {request : TrustRequest Time}

variable {index : Nat}

theorem mem_failedIndices : index ∈ failedIndices request.dispositions →
    ∃ block, request.answerBlocks[index]? = some block ∧ request.blockReasons block ≠ [] ∧
      ∀ reason ∈ request.blockReasons block, reason ∈ repairable := by
  intro failed
  obtain ⟨⟨disposition, place⟩, kept, rfl⟩ := List.mem_map.mp failed
  obtain ⟨present, mendable⟩ := List.mem_filter.mp kept
  rw [List.mem_zipIdx_iff_getElem?] at present
  simp only [TrustRequest.dispositions, List.getElem?_map, Option.map_eq_some_iff,
    List.getElem?_zipIdx] at present
  obtain ⟨_, ⟨block, isBlock, rfl⟩, rfl⟩ := present
  simp only [AnswerTrustDisposition.mendable, TrustRequest.disposition, decide_eq_true_eq]
    at mendable
  exact ⟨block, isBlock, mendable.2⟩

/-- A block that is offered for repair cites nothing, or an id that is not allowed. -/
theorem failed_of_mem_failedIndices {block : AnswerDraftBlock}
    (failed : index ∈ failedIndices request.dispositions)
    (isBlock : request.answerBlocks[index]? = some block)
    (mapped : request.citations.map Citation.citationId =
      request.spans.map TranscriptEvidenceSpan.citationId) :
    block.citationIds = [] ∨ ∃ referenceId ∈ block.citationIds,
      referenceId = "" ∨ referenceId ∉ request.spans.map TranscriptEvidenceSpan.citationId := by
  obtain ⟨found, isFound, refused, mendable⟩ := mem_failedIndices failed
  rw [isBlock] at isFound
  cases isFound
  by_contra passes
  push Not at passes
  obtain ⟨cited, isAllowed⟩ := passes
  apply refused
  rw [TrustRequest.blockReasons_eq_nil]
  refine ⟨cited, fun referenceId cites => ?_⟩
  obtain ⟨isNamed, isThere⟩ := isAllowed referenceId cites
  obtain ⟨span, isSpan⟩ := exists_lastWith.mpr isThere
  rw [TrustRequest.refusal_eq_none, mapped]
  refine ⟨isNamed, isThere, span, isSpan, ?_⟩
  -- All that is left to refuse the id is that it is not current, which no repair mends.
  by_contra stale
  have refusal : request.refusal referenceId = some .citationNotCurrent := by
    obtain ⟨citation, isCitation⟩ :=
      exists_lastWith.mpr (mapped ▸ isThere : referenceId ∈ request.citations.map Citation.citationId)
    simp only [TrustRequest.refusal, TrustRequest.spanById, TrustRequest.citationById, isSpan,
      isCitation, isNamed, stale]
    simp
  have := mendable _ (TrustRequest.mem_blockReasons.mpr (.inr ⟨referenceId, cites, refusal⟩))
  simp [repairable] at this

end Failing

/-! ## What is shown in the end -/

/-- What holds of a publication: the blocks of the draft come to the final pass in their frame, and
what is shown cites what that pass found current. -/
structure Framed (publication : Publication Time) : Prop where
  texts : publication.finalPass.answerBlocks.map AnswerDraftBlock.text =
    publication.draft.answerBlocks.map AnswerDraftBlock.text
  unchanged : ∀ (index : Nat) (block : AnswerDraftBlock), publication.draft.answerBlocks[index]? = some block →
    block.citationIds ≠ [] →
    (∀ referenceId ∈ block.citationIds,
      referenceId ≠ "" ∧ referenceId ∈ publication.context.citationAllowlist) →
    publication.finalPass.answerBlocks[index]? = some block
  changed : ∀ (index : Nat) (before after : AnswerDraftBlock), publication.draft.answerBlocks[index]? = some before →
    publication.finalPass.answerBlocks[index]? = some after → after ≠ before →
    Patch publication.context.citationAllowlist before after
  spans : publication.finalPass.spans = publication.context.spans
  cited : ∀ block : AnswerBlock, block ∈ publication.trusted.answerBlocks →
    ∀ referenceId ∈ block.citationIds, referenceId ∈ publication.context.citationAllowlist ∧
      ∃ span, publication.finalPass.spanById referenceId = some span ∧
        publication.finalPass.validatesCurrent span = true
  citations : ∀ referenceId,
    referenceId ∈ publication.trusted.citations.map Citation.citationId ↔
      ∃ block ∈ publication.trusted.answerBlocks, referenceId ∈ block.citationIds
  citedOnce : (publication.trusted.citations.map Citation.citationId).Nodup

section Publication

variable [LinearOrder Time] [Zero Time] {services : FinalizerServices Time}
  {request : FinalizeRequest Time}

theorem mapM_asCitation_ids {spans : List (TranscriptEvidenceSpan Time)}
    {citations : List (Citation Time)}
    (made : spans.mapM TranscriptEvidenceSpan.asCitation = .ok citations) :
    citations.map Citation.citationId = spans.map TranscriptEvidenceSpan.citationId := by
  have each := mapM_eq_ok.mp made
  induction each with
  | nil => rfl
  | cons one _ inductionHypothesis => simp [asCitation_id one, inductionHypothesis (mapM_eq_ok.mpr ‹_›)]

variable {publication : Publication Time}

variable {context : AllowlistedContext Time} {repairUsed : Bool} {draft : GroundedAnswerDraft}

theorem publish_patched
    (published : publish services request context repairUsed draft = .ok publication) :
    publication.context = context ∧ publication.draft = draft ∧
      publication.finalPass.spans = context.spans ∧
      ∃ first : TrustRequest Time, first.answerBlocks = draft.answerBlocks ∧
        first.spans = context.spans ∧
        first.citations.map Citation.citationId =
          context.spans.map TranscriptEvidenceSpan.citationId ∧
        Patched context.citationAllowlist (failedIndices first.dispositions) draft.answerBlocks
          publication.finalPass.answerBlocks := by
  simp only [publish, bind_eq_ok, pure_eq_ok] at published
  obtain ⟨citations, made, rfl⟩ := published
  refine ⟨rfl, rfl, ?_, firstPass services request context draft citations, rfl, rfl,
    mapM_asCitation_ids made, ?_⟩
  · simp only
    split <;> rfl
  · simp only
    split
    case isTrue =>
        rw [applyAnswerTrust_dispositions]
        exact localRepair_patched
    case isFalse => exact .refl

theorem publish_framed
    (published : publish services request context repairUsed draft = .ok publication) :
    Framed publication := by
  obtain ⟨rfl, rfl, spans, first, blocks, firstSpans, mapped, patched⟩ := publish_patched published
  constructor
  case texts => exact patched.texts
  case spans => exact spans
  case citations =>
      intro referenceId
      rw [Publication.trusted, applyAnswerTrust_citations, applyAnswerTrust_blocks]
      exact mem_usedCitations
  case citedOnce =>
      rw [Publication.trusted, applyAnswerTrust_citations]
      exact nodup_usedCitations
  case cited =>
      intro block shown referenceId cites
      rw [Publication.trusted, applyAnswerTrust_blocks] at shown
      obtain ⟨-, -, span, isSpan, current⟩ :=
        TrustRequest.refusal_eq_none.mp (cited_of_surviving shown cites)
      constructor
      · rw [publication.context.allowlisted, ← spans]
        exact exists_lastWith.mp ⟨span, isSpan⟩
      · exact ⟨span, isSpan, current⟩
  case changed =>
      intro index before after isBefore isAfter differs
      rcases patched.each index before after isBefore isAfter with same | ⟨-, patch⟩
      · exact absurd same differs
      · exact patch
  case unchanged =>
      intro index block isBlock cited isAllowed
      have inside : index < publication.finalPass.answerBlocks.length := by
        rw [patched.length]
        exact (List.getElem?_eq_some_iff.mp isBlock).1
      have isAfter := List.getElem?_eq_getElem inside
      rcases patched.each index block _ isBlock isAfter with same | ⟨failed, -⟩
      · rw [isAfter, same]
      · rw [← blocks] at isBlock
        rcases failed_of_mem_failedIndices failed isBlock (firstSpans ▸ mapped) with
          uncited | ⟨referenceId, cites, refused⟩
        · exact absurd uncited cited
        · obtain ⟨isNamed, isThere⟩ := isAllowed referenceId cites
          rw [publication.context.allowlisted, ← firstSpans] at isThere
          rcases refused with empty | foreign
          · exact absurd empty isNamed
          · exact absurd isThere foreign

/-- A finalization that shows something submitted a draft to its final pass, in its frame. -/
theorem conclude_published (concluded : conclude services request = .ok (.published publication)) :
    ∃ context repairUsed draft,
      publish services request context repairUsed draft = .ok publication := by
  unfold conclude at concluded
  split at concluded
  case isTrue => unfold FinalizeRequest.withoutEvidence at concluded; split at concluded <;> cases concluded
  case isFalse =>
      obtain ⟨context, -, concluded⟩ := bind_eq_ok.mp concluded
      split at concluded
      case isTrue => cases concluded
      case isFalse =>
          split at concluded
          case isTrue => cases concluded
          case isFalse =>
              split at concluded
              case h_1 => cases concluded
              case h_2 result _ =>
                  unfold concludeAnswer at concluded
                  split at concluded
                  case h_1 => cases concluded
                  case h_2 draft _ =>
                      split at concluded
                      case isTrue =>
                          obtain ⟨stops, -, concluded⟩ := bind_eq_ok.mp concluded
                          cases concluded
                      case isFalse =>
                          obtain ⟨made, published, same⟩ := map_eq_ok.mp concluded
                          cases same
                          exact ⟨context, result.repairUsed, draft, published⟩

/-- Local citation repair is a patch that keeps its frame: whatever is answered, an answer shows
nothing, or it shows what the final pass leaves of the draft's blocks in their frame. -/
theorem finalize_framed {answer : FinalizedAnswer Time}
    (finalized : finalize services request = .ok answer) :
    (answer.answerBlocks = [] ∧ answer.citations = []) ∨
      ∃ publication, conclude services request = .ok (.published publication) ∧
        answer.answerBlocks = publication.trusted.answerBlocks ∧
        answer.citations = publication.trusted.citations ∧ Framed publication := by
  obtain ⟨conclusion, concluded, rfl⟩ := map_eq_ok.mp finalized
  cases conclusion with
  | insufficient => exact .inl ⟨rfl, rfl⟩
  | published publication =>
      obtain ⟨context, repairUsed, draft, published⟩ := conclude_published concluded
      exact .inr ⟨publication, concluded, rfl, rfl, publish_framed published⟩

end Publication

/-! ## A block that cites nothing -/

section Uncited

def quotedSpan : TranscriptEvidenceSpan ℤ :=
  { citationId := "citation_v1_a"
    videoId := 1
    bvid := "BV1"
    title := "video"
    sourceArtifactId := "artifact"
    sourceVersion := "1"
    timelineRunId := "run"
    segmentIds := ["segment"]
    segmentOrdinals := [0]
    startTime := 0
    endTime := 2
    quoteText := "quoted"
    jumpUrl := "https://www.bilibili.com/video/BV1?t=0"
    parentChunkIds := ["chunk"]
    retrievalProvenance := []
    segments := [⟨"segment", 0, 0, 0, 2, "quoted"⟩]
    fusionScore := 1 }

/-- One span is prepared, and no deadline is set. -/
def uncitedRequest : FinalizeRequest ℤ :=
  { spans := []
    staleReasons := []
    terminationReason := .answerReady
    retrievalErrors := []
    deadline := none
    openAspects := 0
    confirmedConflicts := 0
    preparedContext := some ⟨⟨[quotedSpan], "context", ["citation_v1_a"], false, 0⟩, rfl⟩
    clarificationRequests := [] }

/-- The draft is one block without citations, to which the repair adds the one that is allowed. -/
def uncitedServices : FinalizerServices ℤ :=
  { build := fun _ => .error .indexError
    answer := fun _ => .ok ⟨some ⟨none, none, .complete, [⟨"stated", []⟩], []⟩, false, none⟩
    repair := fun _ =>
      .ok (some ⟨none, none, .complete, [⟨"stated", ["citation_v1_a"]⟩], []⟩)
    validatesFirst := fun _ => true
    validatesFinal := fun _ => true
    clock := ⟨0, 0, 0, 0, 0, 0⟩ }

/-- A block without citations has none that is not allowed and current, and is changed all the
same. -/
theorem uncited_block_changed :
    ¬∀ publication, conclude uncitedServices uncitedRequest = .ok (.published publication) →
      ∀ (index : Nat) (block : AnswerDraftBlock),
        publication.draft.answerBlocks[index]? = some block →
        (∀ referenceId ∈ block.citationIds,
          referenceId ∈ publication.context.citationAllowlist ∧
            ∃ span, publication.finalPass.spanById referenceId = some span ∧
              publication.finalPass.validatesCurrent span = true) →
        publication.finalPass.answerBlocks[index]? = some block := by
  intro unchanged
  have same := unchanged _ rfl 0 ⟨"stated", []⟩ rfl (by simp)
  revert same
  decide +kernel

theorem finalize_framed_uncited :
    ∃ answer, finalize uncitedServices uncitedRequest = .ok answer ∧
      answer.answerBlocks.map AnswerBlock.citationIds = [["citation_v1_a"]] ∧
      ∃ publication, conclude uncitedServices uncitedRequest = .ok (.published publication) ∧
        answer.answerBlocks = publication.trusted.answerBlocks ∧ Framed publication := by
  refine ⟨_, rfl, by decide +kernel, ?_⟩
  rcases @finalize_framed ℤ _ _ uncitedServices uncitedRequest _ rfl with
    ⟨none, -⟩ | ⟨publication, concluded, blocks, -, framed⟩
  · exact absurd none (by decide +kernel)
  · exact ⟨publication, concluded, blocks, framed⟩

end Uncited

end Shiliu.Ask
