/-
Module: Shiliu.Assistant.CompactedUnits
Purpose: What a plan of compaction keeps. The groups of a sequence that passes are its protocol
  units, so any choice of groups passes again; the plan chooses by groups, keeps the protected ones
  and, where the size of a request grows with what it holds, the shortest tail of the others that
  reaches the target.
Trusted boundary: the sizes of requests grow with their messages
Main exports: UnitOf, nativeGroups_ok, Compacted, planCompaction_compacted
-/
import Mathlib.Data.List.Flatten
import Shiliu.Assistant.Compaction
import Shiliu.Assistant.FittedTools

set_option linter.all false

namespace Shiliu.Assistant.WorkingContext

open Shiliu.Library Shiliu.Storage

variable {composer : Composer} {provider : Provider} {suffix : Option String}
  {candidate : WorkingContextCandidate} {capabilities : EndpointCapabilities}
  {projections : String → Option Projection} {entries : List Entry} {messages : List ModelMessage}
  {groups : List (List Entry)} {flags : List Bool}

/-! ## Groups are protocol units -/

/-- A group of entries that is shown as one protocol unit. -/
def UnitOf (projections : String → Option Projection) (group : List Entry) : Prop :=
  ∃ unit, Shown projections group unit ∧ ProtocolUnit unit

variable {entry : Entry} {message : ModelMessage} {count : Nat}

theorem callCount_ok (shown : entryMessage projections entry = .ok message) :
    callCount projections entry = .ok message.toolCalls.length := by
  cases entry with
  | block block =>
      obtain rfl := Except.ok.inj shown
      rfl
  | message messageId =>
      cases isShown : projections messageId with
      | none => simp [entryMessage, isShown] at shown
      | some projection =>
          simp only [entryMessage, isShown, Except.ok.injEq] at shown
          simp [callCount, isShown, shown]

theorem ProtocolUnit.calls {results : List ModelMessage}
    (isUnit : ProtocolUnit (message :: results)) : results.length = message.toolCalls.length := by
  cases isUnit with
  | single role calls => simp [calls]
  | exchange role calls answers => exact answers.count

/-- The groups of a sequence that passes are its units. -/
theorem nativeGroups_ok (shown : Shown projections entries messages)
    (valid : ValidSequence messages) :
    ∃ groups, nativeGroups projections entries = .ok groups ∧ groups.flatten = entries ∧
      ∀ group ∈ groups, UnitOf projections group := by
  obtain ⟨units, rfl, all⟩ := valid
  induction units generalizing entries with
  | nil =>
      obtain rfl := List.forall₂_nil_right_iff.mp shown
      exact ⟨[], by rw [nativeGroups], rfl, by simp⟩
  | cons unit units inductionHypothesis =>
      obtain ⟨message, results, rfl, -⟩ := (all unit List.mem_cons_self).head
      have isUnit := all _ List.mem_cons_self
      obtain ⟨entry, rest, first, others, rfl⟩ := List.forall₂_cons_right_iff.mp
        (show Shown projections entries (message :: (results ++ units.flatten)) from shown)
      have taken := List.forall₂_take_append rest results units.flatten others
      have dropped := List.forall₂_drop_append rest results units.flatten others
      have enough : results.length ≤ rest.length := by
        rw [others.length_eq, List.length_append]
        exact Nat.le_add_right _ _
      obtain ⟨groups, isGroups, whole, each⟩ := inductionHypothesis
        (fun unit member => all unit (List.mem_cons_of_mem _ member)) dropped
      refine ⟨(entry :: rest.take results.length) :: groups, ?_, ?_, ?_⟩
      · simp only [nativeGroups, callCount_ok first, ← isUnit.calls, ensure, if_pos enough, isGroups,
          bind, Except.bind, pure, Except.pure]
      · rw [List.flatten_cons, whole, List.cons_append, List.take_append_drop]
      · intro group member
        rcases List.mem_cons.mp member with rfl | later
        · exact ⟨message :: results, .cons first taken, isUnit⟩
        · exact each group later

theorem shown_flatten (each : ∀ group ∈ groups, UnitOf projections group) :
    ∃ messages, Shown projections groups.flatten messages ∧ ValidSequence messages := by
  induction groups with
  | nil => exact ⟨[], .nil, validSequence_nil⟩
  | cons group groups inductionHypothesis =>
      obtain ⟨rest, restShown, valid⟩ := inductionHypothesis fun group member =>
        each group (List.mem_cons_of_mem _ member)
      obtain ⟨unit, unitShown, isUnit⟩ := each group List.mem_cons_self
      exact ⟨unit ++ rest, List.rel_append unitShown restShown, valid.cons isUnit⟩

/-! ## Choosing groups -/

theorem mem_pick {chosen : Nat → Bool} :
    entry ∈ pick groups chosen ↔
      ∃ index group, groups[index]? = some group ∧ chosen index = true ∧ entry ∈ group := by
  simp only [pick, List.mem_flatten, List.mem_map, List.mem_filter, Prod.exists]
  constructor
  · rintro ⟨_, ⟨group, index, ⟨member, isChosen⟩, rfl⟩, inGroup⟩
    exact ⟨index, group, List.mk_mem_zipIdx_iff_getElem?.mp member, isChosen, inGroup⟩
  · rintro ⟨index, group, isGroup, isChosen, inGroup⟩
    exact ⟨group, ⟨group, index, ⟨List.mk_mem_zipIdx_iff_getElem?.mpr isGroup, isChosen⟩, rfl⟩,
      inGroup⟩

theorem shown_pick (each : ∀ group ∈ groups, UnitOf projections group) (chosen : Nat → Bool) :
    ∃ messages, Shown projections (pick groups chosen) messages ∧ ValidSequence messages := by
  apply shown_flatten
  intro group member
  obtain ⟨⟨_, index⟩, inFilter, rfl⟩ := List.mem_map.mp member
  have isGroup := List.mk_mem_zipIdx_iff_getElem?.mp (List.mem_filter.mp inFilter).1
  exact each _ (List.mem_of_getElem? isGroup)

theorem pick_sublist {chosen more : Nat → Bool}
    (grows : ∀ index, chosen index = true → more index = true) :
    (pick groups chosen).Sublist (pick groups more) := by
  apply List.Sublist.flatten
  apply List.Sublist.map
  exact List.monotone_filter_right _ fun indexed isChosen => grows indexed.2 isChosen

/-- The kept groups grow with the number of the optional ones. -/
theorem keptAt_mono {fewer more index : Nat} (ordered : fewer ≤ more)
    (kept : keptAt flags fewer index = true) : keptAt flags more index = true := by
  simp only [keptAt, Bool.or_eq_true, decide_eq_true_eq] at kept ⊢
  rcases kept with isProtected | inTail
  · exact .inl isProtected
  · exact .inr ((List.drop_sublist_drop_left _ (by omega)).mem inTail)

theorem keptAt_of_all {index : Nat} (all : (optionalGroups flags).length ≤ count)
    (inRange : index < flags.length) : keptAt flags count index = true := by
  have isOptional : protectedAt flags index = false → index ∈ optionalGroups flags := by
    intro unprotected
    simp [optionalGroups, inRange, unprotected]
  rw [keptAt, Nat.sub_eq_zero_of_le all, List.drop_zero]
  cases isProtected : protectedAt flags index with
  | true => rfl
  | false => simpa using isOptional isProtected

/-! ## Sizes -/

/-- The message an entry is shown as, when it is shown. -/
def shownAs (projections : String → Option Projection) (entry : Entry) : ModelMessage :=
  (entryMessage projections entry).toOption.getD (systemMessage "")

theorem Shown.eq_map (shown : Shown projections entries messages) :
    messages = entries.map (shownAs projections) := by
  induction shown with
  | nil => rfl
  | cons isMessage _ inductionHypothesis =>
      rw [List.map_cons, ← inductionHypothesis, shownAs, isMessage]
      rfl

theorem Shown.projected (shown : Shown projections entries messages) {messageId : String}
    (member : messageId ∈ messageIds entries) :
    ∃ projection, projections messageId = some projection := by
  induction shown with
  | nil => nomatch member
  | @cons entry message _ _ isMessage _ inductionHypothesis =>
      cases entry with
      | block block => exact inductionHypothesis (by simpa [messageIds, Entry.messageId?] using member)
      | message first =>
          simp only [messageIds, List.filterMap_cons, Entry.messageId?, List.mem_cons] at member
          rcases member with rfl | later
          · cases isShown : projections messageId with
            | none => simp [entryMessage, isShown] at isMessage
            | some projection => exact ⟨projection, rfl⟩
          · exact inductionHypothesis later

theorem Shown.congr {others : String → Option Projection}
    (shown : Shown projections entries messages)
    (same : ∀ messageId ∈ messageIds entries, others messageId = projections messageId) :
    Shown others entries messages := by
  induction shown with
  | nil => exact .nil
  | @cons entry message _ _ isMessage _ inductionHypothesis =>
      cases entry with
      | block block =>
          exact .cons isMessage (inductionHypothesis fun messageId member =>
            same messageId (by simpa [messageIds, Entry.messageId?] using member))
      | message first =>
          refine .cons ?_ (inductionHypothesis fun messageId member => same messageId (by
            simpa [messageIds, Entry.messageId?] using Or.inr member))
          rw [← isMessage, entryMessage, entryMessage, same first (by
            simp [messageIds, Entry.messageId?])]

theorem Shown.restrict (shown : Shown projections entries messages) :
    Shown (projectionsOf entries projections) entries messages :=
  shown.congr fun _ member => if_pos member

/-- The size of the request with the last `count` optional groups. -/
def sizeAt (composer : Composer) (provider : Provider) (suffix : Option String)
    (candidate : WorkingContextCandidate) (groups : List (List Entry)) (flags : List Bool)
    (count : Nat) : Nat :=
  provider.estimate (composer.preamble candidate.checkpoint ++
      (pick groups (keptAt flags count)).map (shownAs candidate.projections) ++
      suffixMessages suffix) candidate.request.body.tools

/-- A larger request has no smaller size. -/
def GrowingSizes (provider : Provider) : Prop :=
  ∀ (smaller larger : List ModelMessage) (tools : List String), smaller.Sublist larger →
    provider.estimate smaller tools ≤ provider.estimate larger tools

theorem sizeAt_mono (growing : GrowingSizes provider) {fewer more : Nat} (ordered : fewer ≤ more) :
    sizeAt composer provider suffix candidate groups flags fewer ≤
      sizeAt composer provider suffix candidate groups flags more := by
  apply growing
  have grows := @pick_sublist groups (keptAt flags fewer) (keptAt flags more)
    fun _ => keptAt_mono ordered
  exact ((List.Sublist.refl _).append (grows.map _)).append (List.Sublist.refl _)

theorem retainedSize_ok
    (accepts : provider.Accepts candidate.request.body.maxTokens candidate.budget.inputLimitTokens
      capabilities)
    (each : ∀ group ∈ groups, UnitOf candidate.projections group) (count : Nat) :
    retainedSize composer provider suffix candidate groups flags count =
      .ok (sizeAt composer provider suffix candidate groups flags count) := by
  obtain ⟨messages, shown, valid⟩ := shown_pick each (keptAt flags count)
  obtain ⟨request, budget, isReframed, -, -, isSize, -⟩ := @reframe_ok composer provider
    capabilities { candidate with
      state := { candidate.state with entries := pick groups (keptAt flags count) }
      projections := projectionsOf (pick groups (keptAt flags count)) candidate.projections }
    accepts messages shown.restrict valid suffix
  rw [retainedSize, isReframed]
  simp only [bind, Except.bind, pure, Except.pure, isSize, sizeAt, shown.eq_map]

/-! ## Protected entries -/

/-- What has to stay: protected messages, what was not delivered, the blocks bound to protected
messages and the latest focus. -/
inductive Protected (candidate : WorkingContextCandidate) : Entry → Prop where
  | named {messageId : String} (named : messageId ∈ candidate.state.protectedMessageIds) :
      Protected candidate (.message messageId)
  | undelivered {messageId : String} {projection : Projection}
      (shown : candidate.projections messageId = some projection)
      (undelivered : projection.confirmed = false) : Protected candidate (.message messageId)
  | undeliveredBlock {block : ApplicationBlock} (undelivered : block.confirmed = false) :
      Protected candidate (.block block)
  | bound {block : ApplicationBlock} {messageId : String}
      (source : messageId ∈ block.sourceMessageIds)
      (named : messageId ∈ candidate.state.protectedMessageIds) :
      Protected candidate (.block block)
  | focus {block : ApplicationBlock} (isFocus : block.blockType = "task_focus")
      (latest : latestFocus candidate.state.entries = some block.key) :
      Protected candidate (.block block)

theorem isProtected_message {messageId : String} {projection : Projection}
    (shown : candidate.projections messageId = some projection) :
    ∃ answer, isProtected candidate (.message messageId) = .ok answer ∧
      (answer = true ↔ Protected candidate (.message messageId)) := by
  by_cases named : messageId ∈ candidate.state.protectedMessageIds
  · exact ⟨true, by rw [isProtected, if_pos named], iff_of_true rfl (.named named)⟩
  · refine ⟨!projection.confirmed, by simp only [isProtected, if_neg named, shown], ?_⟩
    rw [Bool.not_eq_true']
    constructor
    · exact fun undelivered => .undelivered shown undelivered
    · rintro (isNamed | ⟨other, undelivered⟩)
      · exact absurd isNamed named
      · rwa [Option.some.inj (shown.symm.trans other)]

theorem isProtected_block (block : ApplicationBlock) :
    ∃ answer, isProtected candidate (.block block) = .ok answer ∧
      (answer = true ↔ Protected candidate (.block block)) := by
  refine ⟨_, rfl, ?_⟩
  simp only [Bool.or_eq_true, Bool.not_eq_true', List.any_eq_true, decide_eq_true_eq]
  constructor
  · rintro ((undelivered | ⟨messageId, source, named⟩) | ⟨isFocus, latest⟩)
    · exact .undeliveredBlock undelivered
    · exact .bound source named
    · exact .focus isFocus latest.symm
  · rintro (_ | _ | undelivered | ⟨source, named⟩ | ⟨isFocus, latest⟩)
    · exact .inl (.inl undelivered)
    · exact .inl (.inr ⟨_, source, named⟩)
    · exact .inr ⟨isFocus, latest.symm⟩

theorem anyProtected_ok {group : List Entry} (shown : Shown candidate.projections group messages) :
    ∃ answer, anyProtected candidate group = .ok answer ∧
      (answer = true ↔ ∃ entry ∈ group, Protected candidate entry) := by
  induction shown with
  | nil => exact ⟨false, rfl, by simp⟩
  | @cons entry message group _ isMessage _ inductionHypothesis =>
      obtain ⟨first, isFirst, firstIff⟩ : ∃ answer, isProtected candidate entry = .ok answer ∧
          (answer = true ↔ Protected candidate entry) := by
        cases entry with
        | block block => exact isProtected_block block
        | message messageId =>
            cases isShown : candidate.projections messageId with
            | none => simp [entryMessage, isShown] at isMessage
            | some projection => exact isProtected_message isShown
      obtain ⟨rest, isRest, restIff⟩ := inductionHypothesis
      simp only [anyProtected, isFirst, isRest, bind, Except.bind, List.exists_mem_cons_iff,
        ← firstIff, ← restIff]
      cases first with
      | true => exact ⟨true, rfl, by simp⟩
      | false => exact ⟨rest, rfl, by simp⟩

/-- The flags of the groups say which of them hold a protected entry. -/
structure Flagged (candidate : WorkingContextCandidate) (groups : List (List Entry))
    (flags : List Bool) : Prop where
  length : flags.length = groups.length
  exactly : ∀ index group, groups[index]? = some group →
    (protectedAt flags index = true ↔ ∃ entry ∈ group, Protected candidate entry)

theorem flags_ok (each : ∀ group ∈ groups, UnitOf candidate.projections group) :
    ∃ flags, groups.mapM (anyProtected candidate) = .ok flags ∧
      Flagged candidate groups flags := by
  have answers : ∀ group ∈ groups, ∃ answer, anyProtected candidate group = .ok answer ∧
      (answer = true ↔ ∃ entry ∈ group, Protected candidate entry) := by
    intro group member
    obtain ⟨unit, shown, -⟩ := each group member
    exact anyProtected_ok shown
  choose! flag isFlag exactly using answers
  refine ⟨groups.map flag, ?_, by simp, ?_⟩
  · rw [mapM_eq_ok, List.forall₂_map_right_iff, List.forall₂_same]
    exact isFlag
  · intro index group isGroup
    rw [protectedAt, List.getD_eq_getElem?_getD, List.getElem?_map, isGroup]
    exact exactly group (List.mem_of_getElem? isGroup)

/-! ## The plan -/

/-- A plan over the groups of a candidate that keeps the last `count` optional ones. -/
structure Compacted (composer : Composer) (provider : Provider) (suffix : Option String)
    (hard : Bool) (softTarget : Int) (candidate : WorkingContextCandidate) (plan : CompactionPlan)
    (groups : List (List Entry)) (flags : List Bool) (count : Nat) : Prop where
  whole : groups.flatten = candidate.state.entries
  units : ∀ group ∈ groups, UnitOf candidate.projections group
  flagged : Flagged candidate groups flags
  removed : plan.removed = pick groups fun index => !keptAt flags count index
  retained : plan.retained = pick groups (keptAt flags count)
  background : plan.background = pick groups (protectedAt flags)
  guarded : ∀ entry ∈ candidate.state.entries, Protected candidate entry → entry ∈ plan.retained
  within : count ≤ (optionalGroups flags).length
  anchors : hard = true → count = 0
  reaches : hard = false → ∃ size,
    retainedSize composer provider suffix candidate groups flags count = .ok size ∧
      min softTarget candidate.budget.availableInputTokens ≤ size
  shortest : hard = false → ∀ shorter < count, ∃ size,
    retainedSize composer provider suffix candidate groups flags shorter = .ok size ∧
      (size : Int) < min softTarget candidate.budget.availableInputTokens
  valid : ∃ messages, Shown candidate.projections plan.retained messages ∧
    validateModelSequence messages = .ok ()

theorem Flagged.guarded (flagged : Flagged candidate groups flags) (member : entry ∈ groups.flatten)
    (isProtected : Protected candidate entry) (count : Nat) :
    entry ∈ pick groups (keptAt flags count) := by
  obtain ⟨group, inGroups, inGroup⟩ := List.mem_flatten.mp member
  obtain ⟨index, isGroup⟩ := List.mem_iff_getElem?.mp inGroups
  have protects := (flagged.exactly index group isGroup).mpr ⟨entry, inGroup, isProtected⟩
  exact mem_pick.mpr ⟨index, group, isGroup, by simp [keptAt, protects], inGroup⟩

theorem Flagged.count_lt (flagged : Flagged candidate groups flags)
    (member : entry ∈ pick groups fun index => !keptAt flags count index) :
    count < (optionalGroups flags).length := by
  obtain ⟨index, group, isGroup, notKept, -⟩ := mem_pick.mp member
  by_contra all
  have inRange : index < flags.length := by
    rw [flagged.length]
    exact (List.getElem?_eq_some_iff.mp isGroup).1
  simp [keptAt_of_all (Nat.le_of_not_lt all) inRange] at notKept

/-- How many optional groups are kept: none if only the anchors are wanted or already reach the
target, else as many as it takes, or all. -/
theorem retainedCount_ok (growing : GrowingSizes provider)
    (accepts : provider.Accepts candidate.request.body.maxTokens candidate.budget.inputLimitTokens
      capabilities)
    (each : ∀ group ∈ groups, UnitOf candidate.projections group) (hard : Bool) (target : Int) :
    ∃ count, retainedCount composer provider suffix candidate groups flags hard target =
        .ok count ∧
      (hard = true → count = 0) ∧
      (hard = false → count < (optionalGroups flags).length →
        target ≤ sizeAt composer provider suffix candidate groups flags count) ∧
      (hard = false → ∀ shorter < count,
        (sizeAt composer provider suffix candidate groups flags shorter : Int) < target) := by
  cases hard with
  | true => exact ⟨0, rfl, by simp, by simp, by simp⟩
  | false =>
      simp only [retainedCount, retainedSize_ok accepts each, bind, Except.bind, pure, Except.pure,
        Bool.false_eq_true, if_false]
      split
      · next below =>
          have found := @seekLeast_eq_least ContextFailure
            (fun count => .ok (decide (target ≤
              (sizeAt composer provider suffix candidate groups flags count : Int))))
            (fun count => decide (target ≤
              (sizeAt composer provider suffix candidate groups flags count : Int)))
            1 (optionalGroups flags).length fun _ _ => rfl
          refine ⟨_, found, by simp, fun _ short => ?_, fun _ shorter isShorter => ?_⟩
          · rcases @least_cases (fun count => decide (target ≤
              (sizeAt composer provider suffix candidate groups flags count : Int))) 1
              (optionalGroups flags).length (by
                have := @le_least (fun count => decide (target ≤
                  (sizeAt composer provider suffix candidate groups flags count : Int))) 1
                  (optionalGroups flags).length
                omega) with atEnd | reached
            · omega
            · simpa using reached
          · rcases Nat.eq_zero_or_pos shorter with rfl | positive
            · exact below
            · have missed := not_reached_below_least (fun smaller larger _ ordered _ reached => by
                have grows := @sizeAt_mono composer provider suffix candidate groups flags growing
                  _ _ ordered
                simp only [decide_eq_true_eq] at reached ⊢
                omega) positive isShorter
              simpa using missed
      · next above => exact ⟨0, rfl, by simp, fun _ _ => by omega, by simp⟩

theorem mapM_projection_ok {Result : Type} (read : Projection → Result) {entries : List Entry}
    (shown : Shown candidate.projections entries messages) :
    ∃ results, ((messageIds entries).mapM fun messageId => do
        let projection ← candidate.projection messageId
        return read projection : Except ContextFailure (List Result)) = .ok results ∧
      results.length = (messageIds entries).length := by
  have known : ∀ messageId ∈ messageIds entries, ∃ projection,
      candidate.projection messageId = .ok projection := by
    intro messageId member
    obtain ⟨projection, isShown⟩ := shown.projected member
    exact ⟨projection, by simp only [WorkingContextCandidate.projection, isShown]⟩
  generalize messageIds entries = ids at known
  induction ids with
  | nil => exact ⟨[], rfl, rfl⟩
  | cons messageId rest inductionHypothesis =>
      obtain ⟨projection, isProjection⟩ := known messageId List.mem_cons_self
      obtain ⟨results, isResults, lengths⟩ := inductionHypothesis fun id member =>
        known id (List.mem_cons_of_mem _ member)
      refine ⟨read projection :: results, ?_, by simp [lengths]⟩
      rw [List.mapM_cons, isResults, isProjection]
      rfl

theorem removedRecord_ok (shown : entryMessage candidate.projections entry = .ok message) :
    ∃ record, removedRecord candidate entry = .ok record := by
  cases entry with
  | block block => exact ⟨_, rfl⟩
  | message messageId =>
      cases isShown : candidate.projections messageId with
      | none => simp [entryMessage, isShown] at shown
      | some projection =>
          simp only [removedRecord, WorkingContextCandidate.projection, isShown]
          exact ⟨_, rfl⟩

theorem mapM_removedRecord_ok (shown : Shown candidate.projections entries messages) :
    ∃ records, entries.mapM (removedRecord candidate) = .ok records := by
  induction shown with
  | nil => exact ⟨[], rfl⟩
  | @cons entry message entries _ isMessage _ inductionHypothesis =>
      obtain ⟨record, isRecord⟩ := removedRecord_ok isMessage
      obtain ⟨records, isRecords⟩ := inductionHypothesis
      refine ⟨record :: records, ?_⟩
      rw [List.mapM_cons, isRecord, isRecords]
      rfl

/-- Planning keeps protocol units whole and protected entries in, and keeps no more of the others
than the target asks for. -/
theorem planCompaction_compacted (growing : GrowingSizes provider)
    (accepts : provider.Accepts candidate.request.body.maxTokens candidate.budget.inputLimitTokens
      capabilities)
    (shown : Shown candidate.projections candidate.state.entries messages)
    (passes : validateModelSequence messages = .ok ())
    (composer : Composer) (suffix : Option String) (hard : Bool) (softTarget : Int) :
    planCompaction composer provider suffix hard softTarget candidate = .ok none ∨
      ∃ plan groups flags count,
        planCompaction composer provider suffix hard softTarget candidate = .ok (some plan) ∧
        Compacted composer provider suffix hard softTarget candidate plan groups flags count := by
  obtain ⟨groups, isGroups, whole, each⟩ := nativeGroups_ok shown (validSequence_of_passes passes)
  obtain ⟨flags, isFlags, flagged⟩ := flags_ok each
  obtain ⟨count, isCount, anchors, reaches, shortest⟩ := @retainedCount_ok composer provider suffix
    candidate capabilities groups flags growing accepts each hard
    (min softTarget candidate.budget.availableInputTokens)
  obtain ⟨_, removedShown, -⟩ := shown_pick each fun index => !keptAt flags count index
  obtain ⟨kept, keptShown, keptValid⟩ := shown_pick each (keptAt flags count)
  obtain ⟨seqs, isSeqs, lengths⟩ :=
    mapM_projection_ok (fun projection => projection.identity.seq) removedShown
  obtain ⟨records, isRecords⟩ := mapM_removedRecord_ok removedShown
  simp only [planCompaction, isGroups, isFlags, isCount, bind, Except.bind] at isSeqs ⊢
  rw [isSeqs]
  cases seqs with
  | nil => exact .inl rfl
  | cons first others =>
      simp only [isRecords]
      split
      · exact .inl rfl
      · -- a message is removed, so not all optional groups are kept
        have removes : count < (optionalGroups flags).length := by
          cases isRemoved : pick groups fun index => !keptAt flags count index with
          | nil => simp [isRemoved, messageIds] at lengths
          | cons entry rest => exact flagged.count_lt (isRemoved ▸ List.mem_cons_self)
        refine .inr ⟨_, groups, flags, count, rfl, ?_⟩
        exact {
          whole := whole
          units := each
          flagged := flagged
          removed := rfl
          retained := rfl
          background := rfl
          guarded := fun entry member isProtected =>
            flagged.guarded (whole.symm ▸ member) isProtected count
          within := Nat.le_of_lt removes
          anchors := anchors
          reaches := fun soft => ⟨_, retainedSize_ok accepts each count, reaches soft removes⟩
          shortest := fun soft shorter isShorter =>
            ⟨_, retainedSize_ok accepts each shorter, shortest soft shorter isShorter⟩
          valid := ⟨kept, keptShown, keptValid.passes⟩ }

theorem letterProvider_growing : GrowingSizes letterProvider := by
  intro smaller larger tools sublist
  apply List.Sublist.sum_le_sum (sublist.map _)
  simp

def answeredMessages : List ModelMessage :=
  readMessages ++ [⟨.user, some "next", [], none, none⟩]

theorem answeredMessages_pass : validateModelSequence answeredMessages = .ok () := by
  have isUser : ProtocolUnit [(⟨.user, some "next", [], none, none⟩ : ModelMessage)] :=
    .single (by decide) rfl
  exact ((validSequence_nil.cons isUser).cons readMessages_unit).passes

/-- The call and its result were delivered, and a message of the user is next. -/
def answeredCandidate : WorkingContextCandidate :=
  { readCandidate with
    state := ⟨[.message "m1", .message "m2", .message "m3"], ["m3"], none, none⟩
    projections := fun messageId =>
      if messageId = "m3" then
        some ⟨⟨"m3", 3, some "run", .user, "now"⟩, ⟨.user, some "next", [], none, none⟩, [], [], [],
          false⟩
      else (readCandidate.projections messageId).map fun projection =>
        { projection with confirmed := true } }

theorem planCompaction_compacted_answered :
    planCompaction cuttingComposer letterProvider none true 32000 answeredCandidate = .ok none ∨
      ∃ plan groups flags count,
        planCompaction cuttingComposer letterProvider none true 32000 answeredCandidate =
          .ok (some plan) ∧
        Compacted cuttingComposer letterProvider none true 32000 answeredCandidate plan groups flags
          count := by
  have accepts : letterProvider.Accepts answeredCandidate.request.body.maxTokens
      answeredCandidate.budget.inputLimitTokens _ := readCandidate_prepared.accepts
  have shown : Shown answeredCandidate.projections answeredCandidate.state.entries
      answeredMessages := .cons rfl (.cons rfl (.cons rfl .nil))
  exact planCompaction_compacted letterProvider_growing accepts shown answeredMessages_pass
    cuttingComposer none true 32000

/-! ## The proposal -/

theorem mapM_projection_of_shown (shown : Shown candidate.projections entries messages) :
    ∃ projections, (messageIds entries).mapM candidate.projection = .ok projections := by
  obtain ⟨projections, isProjections, -⟩ := mapM_projection_ok id shown
  exact ⟨projections, by simpa using isProjections⟩

/-- A plan can always be proposed: the proposal has the retained entries behind a checkpoint that
names what was removed, and its request passes. -/
theorem checkpointProposal_ok {hard : Bool} {softTarget : Int} {plan : CompactionPlan}
    (accepts : provider.Accepts candidate.request.body.maxTokens candidate.budget.inputLimitTokens
      capabilities)
    (compacted : Compacted composer provider suffix hard softTarget candidate plan groups flags
      count) (text freshId : String) :
    ∃ proposal note,
      checkpointProposal composer provider candidate plan text freshId = .ok proposal ∧
      proposal.state.entries = plan.retained ∧ proposal.checkpoint = some note ∧
      note.replacedMessageIds = messageIds plan.removed ∧
      note.replacedPrefixUntilSeq = plan.frontier := by
  obtain ⟨removed, removedShown, -⟩ := shown_pick compacted.units
    fun index => !keptAt flags count index
  obtain ⟨background, backgroundShown, -⟩ := shown_pick compacted.units (protectedAt flags)
  rw [← compacted.removed] at removedShown
  rw [← compacted.background] at backgroundShown
  obtain ⟨inputs, isInputs⟩ :=
    mapM_projection_of_shown (List.rel_append removedShown backgroundShown)
  obtain ⟨others, isOthers⟩ := mapM_projection_of_shown removedShown
  obtain ⟨kept, keptShown, keptPasses⟩ := compacted.valid
  rw [checkpointProposal]
  simp only [isInputs, isOthers, bind, Except.bind]
  generalize isProposed : ({ candidate with
    checkpoint := some _, state := { candidate.state with entries := plan.retained, checkpoint := _ }
    projections := projectionsOf plan.retained candidate.projections } :
      WorkingContextCandidate) = proposed
  have proposedAccepts : provider.Accepts proposed.request.body.maxTokens
      proposed.budget.inputLimitTokens capabilities := isProposed ▸ accepts
  have proposedShown : Shown proposed.projections proposed.state.entries kept :=
    isProposed ▸ keptShown.restrict
  obtain ⟨request, budget, isReframed, -⟩ := @reframe_ok composer provider capabilities proposed
    proposedAccepts kept proposedShown (validSequence_of_passes keptPasses) none
  subst isProposed
  exact ⟨_, _, isReframed, rfl, rfl, rfl, rfl⟩

end Shiliu.Assistant.WorkingContext
