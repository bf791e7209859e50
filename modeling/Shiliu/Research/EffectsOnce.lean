/-
Module: Shiliu.Research.EffectsOnce
Purpose: An external effect is executed at most once, by a caller that moved it to `in_flight` itself,
  in every run in which no receipt answers a caller's move. Side effects keep their kind and key and
  never become reserved again, so of all moves to `in_flight` of one effect one commits. A receipt
  that answers the same move of a second caller lets that caller execute as well.
Trusted boundary: none
Main exports: Continues, Marks, EffectsMove, Performed.effects, Sound, effects_at_most_once
-/
import Shiliu.Research.EffectRuns
import Shiliu.Research.KernelSafety

set_option linter.all false

namespace Shiliu.Research

open Shiliu.Library Shiliu.Storage

variable {Digest : Type}

/-! ## What happens to one effect -/

/-- The same effect, later: it does not become reserved again. -/
structure Continues (effect later : SideEffect) : Prop where
  sideEffectId : later.sideEffectId = effect.sideEffectId
  effectKind : later.effectKind = effect.effectKind
  idempotencyKey : later.idempotencyKey = effect.idempotencyKey
  status : effect.status ≠ .reserved → later.status ≠ .reserved

namespace Continues

variable {effect middle later : SideEffect}

theorem refl (effect : SideEffect) : Continues effect effect := ⟨rfl, rfl, rfl, id⟩

theorem trans (one : Continues effect middle) (two : Continues middle later) :
    Continues effect later :=
  ⟨two.sideEffectId.trans one.sideEffectId, two.effectKind.trans one.effectKind,
    two.idempotencyKey.trans one.idempotencyKey, fun moved => two.status (one.status moved)⟩

end Continues

/-- The same effects, later. -/
structure Marks (before after : Table SideEffect.sideEffectId) : Prop where
  kept : ∀ effect ∈ before, ∃ later ∈ after, Continues effect later
  origin : ∀ later ∈ after, ∃ effect ∈ before, Continues effect later

namespace Marks

variable {before middle after : Table SideEffect.sideEffectId}

theorem refl (effects : Table SideEffect.sideEffectId) : Marks effects effects :=
  ⟨fun effect member => ⟨effect, member, .refl effect⟩,
    fun effect member => ⟨effect, member, .refl effect⟩⟩

theorem trans (one : Marks before middle) (two : Marks middle after) : Marks before after where
  kept effect member := by
    obtain ⟨between, isBetween, first⟩ := one.kept effect member
    obtain ⟨later, isLater, second⟩ := two.kept between isBetween
    exact ⟨later, isLater, first.trans second⟩
  origin later member := by
    obtain ⟨between, isBetween, second⟩ := two.origin later member
    obtain ⟨effect, isEffect, first⟩ := one.origin between isBetween
    exact ⟨effect, isEffect, first.trans second⟩

theorem modify {change : Change SideEffect.sideEffectId} (sideEffectId : Nat)
    (continues : ∀ effect, Continues effect (change.apply effect)) :
    Marks before (before.modify sideEffectId change) where
  kept effect member := by
    by_cases same : effect.sideEffectId = sideEffectId
    · exact ⟨change.apply effect, Table.mem_modify.mpr (.inl ⟨effect, member, same, rfl⟩),
        continues effect⟩
    · exact ⟨effect, Table.mem_modify.mpr (.inr ⟨member, same⟩), .refl effect⟩
  origin later member := by
    rcases Table.mem_modify.mp member with ⟨effect, isEffect, -, rfl⟩ | ⟨old, -⟩
    · exact ⟨effect, isEffect, continues effect⟩
    · exact ⟨later, old, .refl later⟩

theorem foldl {mark : ResearchTask Digest → SideEffect → ResearchTask Digest}
    (each : ∀ task effect, Marks task.sideEffects (mark task effect).sideEffects)
    (task : ResearchTask Digest) (effects : List SideEffect) :
    Marks task.sideEffects (effects.foldl mark task).sideEffects := by
  induction effects generalizing task with
  | nil => exact .refl task.sideEffects
  | cons effect rest inductionHypothesis =>
      exact (each task effect).trans (inductionHypothesis (mark task effect))

end Marks

/-- What a body may do to the effects of its task. -/
inductive EffectsMove (store : KernelStore Digest) (before : Table SideEffect.sideEffectId) :
    Table SideEffect.sideEffectId → Prop where
  | marked {after : Table SideEffect.sideEffectId} (marks : Marks before after) :
      EffectsMove store before after
  | reserved (effect : SideEffect) (isNext : effect.sideEffectId = store.nextId)
      (isNew : ∀ other ∈ before, other.effectKind = effect.effectKind →
        other.idempotencyKey ≠ effect.idempotencyKey) :
      EffectsMove store before (before.insert effect)

variable {task : ResearchTask Digest}

theorem effectFor_eq_none {kind key : String} (absent : task.effectFor kind key = none) :
    ∀ effect ∈ task.sideEffects, effect.effectKind = kind → effect.idempotencyKey ≠ key := by
  intro effect isEffect isKind isKey
  have none := List.find?_eq_none.mp absent effect isEffect
  simp [isKind, isKey] at none

theorem effectFor_eq_some {kind key : String} {effect : SideEffect}
    (found : task.effectFor kind key = some effect) :
    effect ∈ task.sideEffects ∧ effect.effectKind = kind ∧ effect.idempotencyKey = key := by
  have isMatch := List.find?_some found
  rw [decide_eq_true_eq] at isMatch
  exact ⟨List.mem_of_find?_eq_some found, isMatch⟩

theorem Performed.effects {hashing : Hashing Digest} {store : KernelStore Digest} {call : Call}
    {commit : Commit Digest} (performed : Performed hashing store call task commit)
    (checked : precheck (call.command.stripped hashing) = .ok ()) :
    EffectsMove store task.sideEffects commit.1.sideEffects := by
  cases performed with
  | claimed ownerId expected leaseSeconds isCommand nonterminal version free =>
      have each : ∀ (current : ResearchTask Digest) effect, Marks current.sideEffects
          (rebindEffect call (task.lease.epoch + 1) current effect).sideEffects :=
        fun _ _ => Marks.modify _ fun _ => ⟨rfl, rfl, rfl, id⟩
      have marks := Marks.foldl each { task.advanced.bindAttempts (task.lease.epoch + 1) with
        lease := task.lease.grant ownerId (leaseUntil call.grantClock leaseSeconds) }
        (takenOver task (task.lease.epoch + 1))
      exact .marked marks
  | checkpointed fence attempt attemptId expected payload operation =>
      cases operation <;> exact .marked (.refl _)
  | reserved fence attempt attemptId kind key request isCommand fenced holds absent =>
      exact .reserved _ rfl (effectFor_eq_none absent)
  | moved fence effect target operationId receiptHash reference isCommand fenced holds epoch
      mayMove =>
      have unreserved : target ≠ .reserved := by
        rintro rfl
        cases isStatus : effect.status <;> simp [SideEffectStatus.mayMove, isStatus] at mayMove
      exact .marked (Marks.modify _ fun effect => ⟨rfl, rfl, rfl, fun _ => unreserved⟩)
  | recovered fence isCommand fenced =>
      have each : ∀ (current : ResearchTask Digest) effect, Marks current.sideEffects
          (markUnknown call fence.ownerEpoch current effect).sideEffects :=
        fun _ _ => Marks.modify _ fun _ => ⟨rfl, rfl, rfl, fun _ => nofun⟩
      exact .marked (Marks.foldl each _ _)
  | resolved fence effect outcome isCommand fenced holds unknown =>
      rw [isCommand] at checked
      have settled := ensure_eq_ok.mp checked
      have unreserved : outcome ≠ .reserved := by
        rintro rfl
        simp at settled
      exact .marked (Marks.modify _ fun effect => ⟨rfl, rfl, rfl, fun _ => unreserved⟩)
  | _ => exact .marked (.refl _)

/-! ## Effects and receipts of a store -/

section Stores

variable {hashing : Hashing Digest} {store : KernelStore Digest} {call : Call}

/-- Effects have numbers that are used up, and differ in kind or key. -/
structure Apart (nextId : Nat) (effects : Table SideEffect.sideEffectId) : Prop where
  bounded : ∀ effect ∈ effects, effect.sideEffectId < nextId
  keyed : ∀ one ∈ effects, ∀ other ∈ effects,
    one.effectKind = other.effectKind → one.idempotencyKey = other.idempotencyKey → one = other

/-- The receipt of a reservation names the effect with the kind and the key it was made for. -/
def Named (hashing : Hashing Digest) (task : ResearchTask Digest) : Prop :=
  ∀ receipt ∈ task.receipts, ∀ fence attemptId kind key request,
    receipt.payloadHash = hashing.payload (.reserveSideEffect fence attemptId kind key request) →
      ∃ effect ∈ task.sideEffects, receipt.response.sideEffectId = some effect.sideEffectId ∧
        effect.effectKind = kind ∧ effect.idempotencyKey = key

structure StoreEffects (hashing : Hashing Digest) (store : KernelStore Digest) : Prop where
  apart : ∀ taskId task, store.tasks.lookup taskId = some task →
    Apart store.nextId task.sideEffects
  named : ∀ taskId task, store.tasks.lookup taskId = some task → Named hashing task

theorem StoreEffects.empty : StoreEffects hashing (KernelStore.empty : KernelStore Digest) :=
  ⟨(fun _ _ isTask => nomatch isTask), (fun _ _ isTask => nomatch isTask)⟩

theorem Apart.mono {effects : Table SideEffect.sideEffectId} {nextId later : Nat}
    (apart : Apart nextId effects) (grown : nextId ≤ later) : Apart later effects :=
  ⟨fun effect isEffect => Nat.lt_of_lt_of_le (apart.bounded effect isEffect) grown, apart.keyed⟩

theorem EffectsMove.kept {before after : Table SideEffect.sideEffectId}
    (move : EffectsMove store before after) :
    ∀ effect ∈ before, ∃ later ∈ after, Continues effect later := by
  cases move with
  | marked marks => exact marks.kept
  | reserved new isNext isNew =>
      exact fun effect isEffect => ⟨effect, Table.mem_insert_of_mem isEffect, .refl effect⟩

theorem Apart.lookup_next {effects : Table SideEffect.sideEffectId}
    (apart : Apart store.nextId effects) : effects.lookup store.nextId = none :=
  Table.lookup_eq_none.mpr fun effect isEffect => Nat.ne_of_lt (apart.bounded effect isEffect)

theorem Apart.move {before after : Table SideEffect.sideEffectId}
    (apart : Apart store.nextId before) (move : EffectsMove store before after) :
    Apart (store.nextId + 1) after := by
  cases move with
  | marked marks =>
      constructor
      · intro later isLater
        obtain ⟨effect, isEffect, continues⟩ := marks.origin later isLater
        rw [continues.sideEffectId]
        exact Nat.lt_succ_of_lt (apart.bounded effect isEffect)
      · intro one isOne other isOther sameKind sameKey
        obtain ⟨first, isFirst, toOne⟩ := marks.origin one isOne
        obtain ⟨second, isSecond, toOther⟩ := marks.origin other isOther
        have same : first = second := by
          refine apart.keyed first isFirst second isSecond ?_ ?_
          · rw [← toOne.effectKind, sameKind, toOther.effectKind]
          · rw [← toOne.idempotencyKey, sameKey, toOther.idempotencyKey]
        refine Table.eq_of_key isOne isOther ?_
        rw [toOne.sideEffectId, toOther.sideEffectId, same]
  | reserved new isNext isNew =>
      have absent : before.lookup new.sideEffectId = none := by rw [isNext, apart.lookup_next]
      constructor
      · intro later isLater
        rcases (Table.mem_insert absent).mp isLater with old | rfl
        · exact Nat.lt_succ_of_lt (apart.bounded later old)
        · omega
      · intro one isOne other isOther sameKind sameKey
        rcases (Table.mem_insert absent).mp isOne with oldOne | rfl
        · rcases (Table.mem_insert absent).mp isOther with oldOther | rfl
          · exact apart.keyed one oldOne other oldOther sameKind sameKey
          · exact absurd sameKey (isNew one oldOne sameKind)
        · rcases (Table.mem_insert absent).mp isOther with oldOther | rfl
          · exact absurd sameKey.symm (isNew other oldOther sameKind.symm)
          · rfl

variable {task : ResearchTask Digest}

/-- A reservation answers with the effect it found or made. -/
theorem Performed.named {commit : Commit Digest}
    (performed : Performed hashing store call task commit)
    (apart : Apart store.nextId task.sideEffects) {fence : Fence} {attemptId : Nat}
    {kind key request : String} (isReserve : call.command.stripped hashing =
      .reserveSideEffect fence attemptId kind key request) :
    ∃ effect ∈ commit.1.sideEffects, commit.2.sideEffectId = some effect.sideEffectId ∧
      effect.effectKind = kind ∧ effect.idempotencyKey = key := by
  cases performed with
  | deduplicated _ attempt effect _ _ _ _ isCommand fenced holds isEffect sameRequest =>
      rw [isCommand] at isReserve
      simp only [Command.stripped, Command.reserveSideEffect.injEq] at isReserve
      obtain ⟨-, -, rfl, rfl, -⟩ := isReserve
      obtain ⟨member, isKind, isKey⟩ := effectFor_eq_some isEffect
      exact ⟨effect, member, rfl, isKind, isKey⟩
  | reserved _ attempt _ _ _ _ isCommand fenced holds absent =>
      rw [isCommand] at isReserve
      simp only [Command.stripped, Command.reserveSideEffect.injEq] at isReserve
      obtain ⟨-, -, rfl, rfl, -⟩ := isReserve
      exact ⟨_, (Table.mem_insert apart.lookup_next).mpr (.inr rfl), rfl, rfl, rfl⟩
  | claimed _ _ _ isCommand => rw [isCommand] at isReserve; nomatch isReserve
  | renewed _ _ isCommand => rw [isCommand] at isReserve; nomatch isReserve
  | started _ _ _ _ _ _ isCommand => rw [isCommand] at isReserve; nomatch isReserve
  | checkpointed _ _ _ _ _ _ isCommand => rw [isCommand] at isReserve; nomatch isReserve
  | completed _ _ _ _ _ isCommand => rw [isCommand] at isReserve; nomatch isReserve
  | revised _ _ _ _ isCommand => rw [isCommand] at isReserve; nomatch isReserve
  | moved _ _ _ _ _ _ isCommand => rw [isCommand] at isReserve; nomatch isReserve
  | recovered _ isCommand => rw [isCommand] at isReserve; nomatch isReserve
  | resolved _ _ _ isCommand => rw [isCommand] at isReserve; nomatch isReserve

theorem Named.insertReceipt {commit : Commit Digest} (named : Named hashing task)
    (receipts : commit.1.receipts = task.receipts)
    (kept : ∀ effect ∈ task.sideEffects, ∃ later ∈ commit.1.sideEffects, Continues effect later)
    (own : ∀ fence attemptId kind key request,
      call.command.stripped hashing = .reserveSideEffect fence attemptId kind key request →
        ∃ effect ∈ commit.1.sideEffects, commit.2.sideEffectId = some effect.sideEffectId ∧
          effect.effectKind = kind ∧ effect.idempotencyKey = key) :
    Named hashing (commit.1.insertReceipt (receiptOf hashing call commit)) := by
  intro receipt isReceipt fence attemptId kind key request isPayload
  rcases List.mem_append.mp isReceipt with old | new
  · obtain ⟨effect, isEffect, isId, isKind, isKey⟩ :=
      named receipt (receipts ▸ old) fence attemptId kind key request isPayload
    obtain ⟨later, isLater, continues⟩ := kept effect isEffect
    exact ⟨later, isLater, by rw [isId, continues.sideEffectId],
      continues.effectKind.trans isKind, continues.idempotencyKey.trans isKey⟩
  · obtain rfl := List.mem_singleton.mp new
    exact own fence attemptId kind key request (hashing.payload_injective isPayload)

variable [DecidableEq Digest]

variable (hashing store call) in
/-- A call that writes uses its number up. -/
theorem stepKernel_nextId :
    stepKernel hashing store call = store ∨
      (stepKernel hashing store call).nextId = store.nextId + 1 := by
  unfold stepKernel
  cases transact hashing store call with
  | replayed => exact .inl rfl
  | raised => exact .inl rfl
  | committed => exact .inr rfl
  | rejected => exact .inr rfl

theorem stepKernel_nextId_le : store.nextId ≤ (stepKernel hashing store call).nextId := by
  rcases stepKernel_nextId hashing store call with same | next
  · rw [same]
  · omega

theorem StoreEffects.step (sound : StoreEffects hashing store) (call : Call) :
    StoreEffects hashing (stepKernel hashing store call) := by
  have both : ∀ taskId after, (stepKernel hashing store call).tasks.lookup taskId = some after →
      Apart (stepKernel hashing store call).nextId after.sideEffects ∧ Named hashing after := by
    intro taskId after isAfter
    cases isTask : store.tasks.lookup taskId with
    | none =>
        obtain ⟨commit, created, checked, -, rfl⟩ := stepKernel_absent isTask isAfter
        obtain ⟨_, _, _, _, _, _, isCommand⟩ := created.isCommand
        have noReceipts : Named hashing commit.1 := by
          rw [Named, created.receipts]
          exact fun receipt isReceipt => nomatch isReceipt
        refine ⟨?_, noReceipts.insertReceipt rfl (fun effect isEffect =>
          ⟨effect, isEffect, .refl effect⟩) ?_⟩
        · change Apart _ commit.1.sideEffects
          rw [created.sideEffects]
          exact ⟨fun effect isEffect => absurd isEffect (Table.not_mem_empty effect),
            fun effect isEffect => absurd isEffect (Table.not_mem_empty effect)⟩
        · intro fence attemptId kind key request isReserve
          rw [isCommand] at isReserve
          nomatch isReserve
    | some task =>
        have apart := sound.apart taskId task isTask
        have named := sound.named taskId task isTask
        obtain ⟨later, isLater, step⟩ := stepKernel_task hashing call isTask
        obtain rfl := Option.some.inj (isLater.symm.trans isAfter)
        cases step with
        | kept => exact ⟨apart.mono stepKernel_nextId_le, named⟩
        | audited stored isCall => exact ⟨apart.mono stepKernel_nextId_le, named⟩
        | performed commit isCall checked isNew performed =>
            have move := performed.effects checked
            have advance := performed.advance
            refine ⟨?_, named.insertReceipt advance.receipts move.kept fun _ _ _ _ _ isReserve =>
              performed.named apart isReserve⟩
            rcases stepKernel_nextId hashing store call with
              same | next
            · rw [same, isTask] at isAfter
              have sameVersion := congrArg (fun task : ResearchTask Digest => task.stateVersion)
                (Option.some.inj isAfter)
              have isVersion := advance.version
              change task.stateVersion = commit.1.stateVersion at sameVersion
              omega
            · rw [next]
              exact apart.move move
  exact ⟨fun taskId after isAfter => (both taskId after isAfter).1,
    fun taskId after isAfter => (both taskId after isAfter).2⟩

theorem stepKernel_effect {taskId : String} {effect : SideEffect}
    (isTask : store.tasks.lookup taskId = some task) (isEffect : effect ∈ task.sideEffects) :
    ∃ after, (stepKernel hashing store call).tasks.lookup taskId = some after ∧
      ∃ later ∈ after.sideEffects, Continues effect later := by
  obtain ⟨after, isAfter, step⟩ := stepKernel_task hashing call isTask
  refine ⟨after, isAfter, ?_⟩
  cases step with
  | kept => exact ⟨effect, isEffect, .refl effect⟩
  | audited stored isCall => exact ⟨effect, isEffect, .refl effect⟩
  | performed commit isCall checked isNew performed =>
      exact (performed.effects checked).kept effect isEffect

theorem answered_receipt {response : Response}
    (answered : transact hashing store call = .replayed response ∨
      ∃ after, transact hashing store call = .committed after response) :
    ∃ task receipt, (stepKernel hashing store call).tasks.lookup call.taskId = some task ∧
      receipt ∈ task.receipts ∧ receipt.response = response ∧
        receipt.payloadHash = hashing.payload (call.command.stripped hashing) := by
  rcases answered with replayed | ⟨after, committed⟩
  · have outline := transact_outline hashing store call
    rw [stepKernel, replayed]
    rw [replayed] at outline
    cases outline with
    | replayed task receipt isTask isReceipt holds same =>
        exact ⟨task, receipt, isTask, List.mem_of_find?_eq_some isReceipt, rfl, same⟩
  · obtain ⟨isAfter, -, receipt, isResponse, isPayload, isReceipt⟩ := committed_settled committed
    exact ⟨after, receipt, isAfter, List.mem_of_find?_eq_some isReceipt, isResponse, isPayload⟩

end Stores

/-! ## Callers -/

section Callers

variable {hashing : Hashing Digest} {store : KernelStore Digest} {request : EffectRequest}
  {sideEffectId : Nat}

/-- The effect is the one the request is about. -/
structure IsOf (request : EffectRequest) (sideEffectId : Nat) (effect : SideEffect) : Prop where
  isEffect : effect.sideEffectId = sideEffectId
  isKind : effect.effectKind = request.effectKind
  isKey : effect.idempotencyKey = request.idempotencyKey

theorem IsOf.continues {effect later : SideEffect} (isOf : IsOf request sideEffectId effect)
    (continues : Continues effect later) : IsOf request sideEffectId later :=
  ⟨continues.sideEffectId.trans isOf.isEffect, continues.effectKind.trans isOf.isKind,
    continues.idempotencyKey.trans isOf.isKey⟩

/-- The number is that of the effect of a request. -/
def Names (store : KernelStore Digest) (request : EffectRequest) (sideEffectId : Nat) : Prop :=
  ∃ task, store.tasks.lookup request.taskId = some task ∧
    ∃ effect ∈ task.sideEffects, IsOf request sideEffectId effect

/-- The effect of a request has been moved on. -/
def Taken (store : KernelStore Digest) (request : EffectRequest) (sideEffectId : Nat) : Prop :=
  ∃ task, store.tasks.lookup request.taskId = some task ∧
    ∃ effect ∈ task.sideEffects, IsOf request sideEffectId effect ∧ effect.status ≠ .reserved

variable [DecidableEq Digest] {call : Call}

theorem Names.step (names : Names store request sideEffectId) :
    Names (stepKernel hashing store call) request sideEffectId := by
  obtain ⟨task, isTask, effect, isEffect, isOf⟩ := names
  obtain ⟨after, isAfter, later, isLater, continues⟩ := stepKernel_effect isTask isEffect
  exact ⟨after, isAfter, later, isLater, isOf.continues continues⟩

theorem Taken.step (taken : Taken store request sideEffectId) :
    Taken (stepKernel hashing store call) request sideEffectId := by
  obtain ⟨task, isTask, effect, isEffect, isOf, moved⟩ := taken
  obtain ⟨after, isAfter, later, isLater, continues⟩ := stepKernel_effect isTask isEffect
  exact ⟨after, isAfter, later, isLater, isOf.continues continues, continues.status moved⟩

theorem StoreEffects.reserve {clocks : Clocks} {response : Response}
    (sound : StoreEffects hashing store)
    (answered : transact hashing store (request.reserve clocks) = .replayed response ∨
      ∃ after, transact hashing store (request.reserve clocks) = .committed after response)
    (isId : response.sideEffectId = some sideEffectId) :
    Names (stepKernel hashing store (request.reserve clocks)) request sideEffectId := by
  obtain ⟨task, receipt, isTask, isReceipt, rfl, isPayload⟩ := answered_receipt answered
  obtain ⟨effect, isEffect, named, isKind, isKey⟩ :=
    (sound.step (request.reserve clocks)).named _ task isTask receipt isReceipt _ _ _ _ _ isPayload
  rw [named] at isId
  exact ⟨task, isTask, effect, isEffect, Option.some.inj isId, isKind, isKey⟩

/-- A move to `in_flight` that commits finds the effect of its request reserved, and takes it. -/
theorem start_committed {clocks : Clocks} {version : Nat} {after : ResearchTask Digest}
    {response : Response}
    (committed : transact hashing store (request.start clocks sideEffectId version) =
      .committed after response) (names : Names store request sideEffectId) :
    (∃ task, store.tasks.lookup request.taskId = some task ∧
      ∃ effect ∈ task.sideEffects, IsOf request sideEffectId effect ∧ effect.status = .reserved) ∧
      Taken (stepKernel hashing store (request.start clocks sideEffectId version)) request
        sideEffectId := by
  have outline := transact_outline hashing store (request.start clocks sideEffectId version)
  rw [committed] at outline
  obtain ⟨task, isTask, effect, isEffect, isOf⟩ := names
  cases outline with
  | created commit checked absent created =>
      rw [show store.tasks.lookup request.taskId = none from absent] at isTask
      cases isTask
  | performed other commit checked isOther isNew performed =>
      obtain rfl := Option.some.inj (isTask.symm.trans isOther)
      have key : commit.1.taskId = request.taskId :=
        performed.advance.key.trans (taskId_of_lookup isTask)
      have written : (stepKernel hashing store
          (request.start clocks sideEffectId version)).tasks.lookup request.taskId =
            some (commit.1.insertReceipt
              (receiptOf hashing (request.start clocks sideEffectId version) commit)) := by
        rw [stepKernel, committed]
        exact write_lookup_self key
      cases performed with
      | moved fence found target operationId receiptHash reference isCommand fenced holds epoch
          mayMove =>
          obtain ⟨-, rfl, rfl, -⟩ := Command.transitionSideEffect.inj isCommand
          obtain rfl := Table.eq_of_key isEffect holds.member isOf.isEffect
          have isReserved : effect.status = .reserved := by
            cases isStatus : effect.status <;> simp [SideEffectStatus.mayMove, isStatus] at mayMove ⊢
          refine ⟨⟨task, isTask, effect, isEffect, isOf, isReserved⟩, _, written,
            (moveChange .inFlight operationId receiptHash reference).apply effect, ?_, ?_, ?_⟩
          · exact Table.mem_modify.mpr (.inl ⟨effect, isEffect, rfl, rfl⟩)
          · exact ⟨rfl, isOf.isKind, isOf.isKey⟩
          · simp [moveChange]
      | _ => contradiction

end Callers

/-! ## The invariant -/

section Worlds

variable {hashing : Hashing Digest} {world : World Digest} {caller : Nat}

/-- The effect a caller has been told. -/
def Pc.target : Pc → Option (EffectRequest × Nat)
  | .reading request sideEffectId _ | .starting request sideEffectId _ => some (request, sideEffectId)
  | _ => none

/-- The caller is about to start the adapter. -/
def Calls (world : World Digest) (caller : Nat) (request : EffectRequest) (sideEffectId : Nat)
    (moved : Bool) : Prop :=
  ∃ version, world.callers caller = .calling request sideEffectId version moved

structure Sound (hashing : Hashing Digest) (world : World Digest) : Prop where
  effects : StoreEffects hashing world.store
  named : ∀ caller request sideEffectId,
    (world.callers caller).target = some (request, sideEffectId) →
      Names world.store request sideEffectId
  /-- Whoever is about to start has moved the effect itself, and nobody has started it. -/
  calls : ∀ caller request sideEffectId moved, Calls world caller request sideEffectId moved →
    moved = true ∧ Taken world.store request sideEffectId ∧
      ∀ start ∈ world.started, start.request.key ≠ request.key
  /-- No two callers are about to start one effect. -/
  apart : ∀ caller other request sideEffectId moved otherRequest otherId otherMoved,
    caller ≠ other → Calls world caller request sideEffectId moved →
      Calls world other otherRequest otherId otherMoved → request.key ≠ otherRequest.key
  started : ∀ start ∈ world.started,
    start.moved = true ∧ Taken world.store start.request start.sideEffectId
  once : world.started.Pairwise fun one other => one.request.key ≠ other.request.key

theorem Sound.empty : Sound hashing (World.empty : World Digest) where
  effects := .empty
  named _ _ _ isTarget := nomatch isTarget
  calls := by
    rintro _ _ _ _ ⟨_, isPc⟩
    nomatch isPc
  apart := by
    rintro _ _ _ _ _ _ _ _ _ ⟨_, isPc⟩
    nomatch isPc
  started := fun _ isStart => nomatch isStart
  once := .nil

theorem goto_self (pc : Pc) : (world.goto caller pc).callers caller = pc :=
  Function.update_self ..

theorem goto_other {other : Nat} (pc : Pc) (different : other ≠ caller) :
    (world.goto caller pc).callers other = world.callers other :=
  Function.update_of_ne different ..

/-- Going on to a point from which the adapter is not started next. -/
theorem Sound.goto (sound : Sound hashing world) (pc : Pc)
    (named : ∀ request sideEffectId, pc.target = some (request, sideEffectId) →
      Names world.store request sideEffectId)
    (idle : ∀ request sideEffectId version moved, pc ≠ .calling request sideEffectId version moved) :
    Sound hashing (world.goto caller pc) := by
  have fromBefore : ∀ other request sideEffectId moved,
      Calls (world.goto caller pc) other request sideEffectId moved →
        Calls world other request sideEffectId moved := by
    rintro other request sideEffectId moved ⟨version, isPc⟩
    by_cases same : other = caller
    · subst same
      rw [goto_self] at isPc
      exact absurd isPc (idle _ _ _ _)
    · rw [goto_other pc same] at isPc
      exact ⟨version, isPc⟩
  exact
    { effects := sound.effects
      named := by
        intro other request sideEffectId isTarget
        by_cases same : other = caller
        · subst same
          rw [goto_self] at isTarget
          exact named request sideEffectId isTarget
        · rw [goto_other pc same] at isTarget
          exact sound.named other request sideEffectId isTarget
      calls := fun other request sideEffectId moved calls =>
        sound.calls other request sideEffectId moved (fromBefore _ _ _ _ calls)
      apart := fun one other _ _ _ _ _ _ different callsOne callsOther =>
        sound.apart one other _ _ _ _ _ _ different (fromBefore _ _ _ _ callsOne)
          (fromBefore _ _ _ _ callsOther)
      started := sound.started
      once := sound.once }

theorem Sound.grant (sound : Sound hashing world) {request : EffectRequest}
    {sideEffectId version : Nat} (taken : Taken world.store request sideEffectId)
    (fresh : ∀ start ∈ world.started, start.request.key ≠ request.key)
    (alone : ∀ other otherRequest otherId moved, Calls world other otherRequest otherId moved →
      otherRequest.key ≠ request.key) :
    Sound hashing (world.goto caller (.calling request sideEffectId version true)) := by
  have origin : ∀ other otherRequest otherId moved,
      Calls (world.goto caller (.calling request sideEffectId version true)) other otherRequest
        otherId moved →
      (other = caller ∧ otherRequest = request ∧ otherId = sideEffectId ∧ moved = true) ∨
        (other ≠ caller ∧ Calls world other otherRequest otherId moved) := by
    rintro other otherRequest otherId moved ⟨otherVersion, isPc⟩
    by_cases same : other = caller
    · subst same
      rw [goto_self] at isPc
      obtain ⟨rfl, rfl, -, rfl⟩ := Pc.calling.inj isPc
      exact .inl ⟨rfl, rfl, rfl, rfl⟩
    · rw [goto_other _ same] at isPc
      exact .inr ⟨same, otherVersion, isPc⟩
  exact
    { effects := sound.effects
      named := by
        intro other otherRequest otherId isTarget
        by_cases same : other = caller
        · subst same
          rw [goto_self] at isTarget
          nomatch isTarget
        · rw [goto_other _ same] at isTarget
          exact sound.named other otherRequest otherId isTarget
      calls := by
        intro other otherRequest otherId moved calls
        rcases origin _ _ _ _ calls with ⟨-, rfl, rfl, rfl⟩ | ⟨-, old⟩
        · exact ⟨rfl, taken, fresh⟩
        · exact sound.calls other otherRequest otherId moved old
      apart := by
        intro one other requestOne idOne movedOne requestOther idOther movedOther different
          callsOne callsOther
        rcases origin _ _ _ _ callsOne with ⟨rfl, rfl, -, -⟩ | ⟨-, oldOne⟩
        · rcases origin _ _ _ _ callsOther with ⟨rfl, -, -, -⟩ | ⟨-, oldOther⟩
          · exact absurd rfl different
          · exact (alone _ _ _ _ oldOther).symm
        · rcases origin _ _ _ _ callsOther with ⟨rfl, rfl, -, -⟩ | ⟨-, oldOther⟩
          · exact alone _ _ _ _ oldOne
          · exact sound.apart one other _ _ _ _ _ _ different oldOne oldOther
      started := sound.started
      once := sound.once }

variable [DecidableEq Digest]

/-- A command of the kernel, by anybody. -/
theorem Sound.command (sound : Sound hashing world) (call : Call) :
    Sound hashing { world with store := stepKernel hashing world.store call } where
  effects := sound.effects.step call
  named other request sideEffectId isTarget :=
    (sound.named other request sideEffectId isTarget).step
  calls other request sideEffectId moved calls :=
    have ⟨isMoved, taken, fresh⟩ := sound.calls other request sideEffectId moved calls
    ⟨isMoved, taken.step, fresh⟩
  apart := sound.apart
  started start isStart := ⟨(sound.started start isStart).1, (sound.started start isStart).2.step⟩
  once := sound.once

/-! ## One step -/

/-- No receipt answers a call. -/
def Unanswered (hashing : Hashing Digest) (store : KernelStore Digest) (call : Call) : Prop :=
  ∀ task ∈ store.tasks.lookup call.taskId, ∀ receipt ∈ task.receipt call.commandId,
    ¬(receipt.payloadHash = hashing.payload (call.command.stripped hashing) ∧
      ReceiptHolds call task.toTaskRow receipt)

/-- The move to `in_flight` a caller makes next. -/
def Pc.startCall (clocks : Clocks) : Pc → Option Call
  | .starting request sideEffectId version => some (request.start clocks sideEffectId version)
  | _ => none

/-- A caller that moves its effect to `in_flight` is not answered by a receipt. -/
def StartUnanswered (hashing : Hashing Digest) (world : World Digest) : Action → Prop
  | .advance caller clocks _ =>
      ∀ call ∈ (world.callers caller).startCall clocks, Unanswered hashing world.store call
  | _ => True

/-- The move to `in_flight`: if it commits, its effect was still reserved, so whoever has started or
is about to start has taken another one. -/
theorem Sound.start (sound : Sound hashing world) {request : EffectRequest} {clocks : Clocks}
    {sideEffectId version : Nat}
    (isPc : world.callers caller = .starting request sideEffectId version)
    (unanswered : Unanswered hashing world.store (request.start clocks sideEffectId version)) :
    Sound hashing
      ({ world with
          store := stepKernel hashing world.store (request.start clocks sideEffectId version)
        }.goto caller (afterStart request sideEffectId
          (transact hashing world.store (request.start clocks sideEffectId version)))) := by
  have stepped := sound.command (request.start clocks sideEffectId version)
  cases isOutcome : transact hashing world.store (request.start clocks sideEffectId version) with
  | replayed response =>
      have outline := transact_outline hashing world.store
        (request.start clocks sideEffectId version)
      rw [isOutcome] at outline
      cases outline with
      | replayed task receipt isTask isReceipt holds same =>
          exact absurd ⟨same, holds⟩ (unanswered task isTask receipt isReceipt)
  | rejected audited failure => exact stepped.goto .idle nofun nofun
  | raised failure => exact stepped.goto .idle nofun nofun
  | committed after response =>
      have names := sound.named caller request sideEffectId (by rw [isPc]; rfl)
      obtain ⟨⟨task, isTask, effect, isEffect, isOf, isReserved⟩, taken⟩ :=
        start_committed isOutcome names
      have untaken : ∀ other otherId, Taken world.store other otherId → other.key ≠ request.key := by
        rintro other otherId ⟨otherTask, isOther, found, isFound, foundOf, moved⟩ sameKey
        obtain ⟨sameTask, sameKind, same⟩ : other.taskId = request.taskId ∧
            other.effectKind = request.effectKind ∧
              other.idempotencyKey = request.idempotencyKey := by
          simpa [EffectRequest.key] using sameKey
        rw [sameTask, isTask] at isOther
        obtain rfl := Option.some.inj isOther
        have one : found = effect := by
          refine (sound.effects.apart _ task isTask).keyed found isFound effect isEffect ?_ ?_
          · rw [foundOf.isKind, isOf.isKind, sameKind]
          · rw [foundOf.isKey, isOf.isKey, same]
        rw [one] at moved
        exact moved isReserved
      refine stepped.grant taken (fun start isStart => ?_) fun other otherRequest otherId moved calls => ?_
      · exact untaken _ _ (sound.started start isStart).2
      · exact untaken _ _ (sound.calls other otherRequest otherId moved calls).2.1

/-- The next transaction or external call of a caller. -/
theorem Sound.advance (sound : Sound hashing world) {clocks : Clocks} {result : AdapterResult}
    (admitted : StartUnanswered hashing world (.advance caller clocks result)) :
    Sound hashing (advance hashing world caller clocks result) := by
  unfold Research.advance
  cases isPc : world.callers caller with
  | idle => exact sound
  | reserving request =>
      have stepped := sound.command (request.reserve clocks)
      refine stepped.goto _ (fun other sideEffectId isTarget => ?_) fun other id version moved => ?_
      · cases isOutcome : transact hashing world.store (request.reserve clocks) with
        | rejected audited failure =>
            rw [isOutcome] at isTarget
            nomatch isTarget
        | raised failure =>
            rw [isOutcome] at isTarget
            nomatch isTarget
        | replayed response =>
            rw [isOutcome] at isTarget
            cases isId : response.sideEffectId with
            | none => simp [afterReserve, isId, Pc.target] at isTarget
            | some effectId =>
                simp only [afterReserve, isId, Pc.target, Option.some.injEq, Prod.mk.injEq]
                  at isTarget
                obtain ⟨rfl, rfl⟩ := isTarget
                exact sound.effects.reserve (.inl isOutcome) isId
        | committed after response =>
            rw [isOutcome] at isTarget
            cases isId : response.sideEffectId with
            | none => simp [afterReserve, isId, Pc.target] at isTarget
            | some effectId =>
                simp only [afterReserve, isId, Pc.target, Option.some.injEq, Prod.mk.injEq]
                  at isTarget
                obtain ⟨rfl, rfl⟩ := isTarget
                exact sound.effects.reserve (.inr ⟨after, isOutcome⟩) isId
      · unfold afterReserve
        split
        · split <;> nofun
        · split <;> nofun
        · nofun
        · nofun
  | reading request sideEffectId version =>
      have names := sound.named caller request sideEffectId (by rw [isPc]; rfl)
      refine sound.goto _ (fun other id isTarget => ?_) fun other id version moved => ?_
      · unfold afterRead at isTarget
        split at isTarget
        · split at isTarget
          · obtain ⟨rfl, rfl⟩ := Prod.mk.inj (Option.some.inj isTarget)
            exact names
          · nomatch isTarget
        · nomatch isTarget
      · unfold afterRead
        split
        · split <;> nofun
        · nofun
  | starting request sideEffectId version =>
      refine sound.start isPc ?_
      exact admitted _ (by rw [isPc]; rfl)
  | calling request sideEffectId version moved =>
      obtain ⟨rfl, taken, fresh⟩ := sound.calls caller request sideEffectId moved ⟨version, isPc⟩
      -- the caller leaves the point before the call, and the start is recorded
      have left : Sound hashing (world.goto caller (.awaiting request sideEffectId version)) :=
        sound.goto _ nofun nofun
      refine { left with calls := ?_, started := ?_, once := ?_ }
      · intro other otherRequest otherId moved calls
        obtain ⟨isMoved, otherTaken, otherFresh⟩ := left.calls other otherRequest otherId moved calls
        refine ⟨isMoved, otherTaken, fun start isStart => ?_⟩
        rcases List.mem_append.mp isStart with old | new
        · exact otherFresh start old
        · obtain rfl := List.mem_singleton.mp new
          obtain ⟨otherVersion, isOther⟩ := calls
          by_cases same : other = caller
          · subst same
            rw [goto_self] at isOther
            nomatch isOther
          · rw [goto_other _ same] at isOther
            exact sound.apart caller other _ _ _ _ _ _ (Ne.symm same) ⟨version, isPc⟩
              ⟨otherVersion, isOther⟩
      · intro start isStart
        rcases List.mem_append.mp isStart with old | new
        · exact sound.started start old
        · obtain rfl := List.mem_singleton.mp new
          exact ⟨rfl, taken⟩
      · refine List.pairwise_append.mpr ⟨sound.once, List.pairwise_singleton .., ?_⟩
        intro start isStart new isNew
        obtain rfl := List.mem_singleton.mp isNew
        exact fresh start isStart
  | awaiting request sideEffectId version => exact sound.goto _ nofun nofun
  | finishing request sideEffectId version result =>
      exact (sound.command (request.finish clocks sideEffectId version result)).goto .idle nofun nofun

theorem Sound.step (sound : Sound hashing world) (action : Action)
    (admitted : StartUnanswered hashing world action) :
    Sound hashing (stepWorld hashing world action) := by
  cases action with
  | command call => exact sound.command call
  | request caller request =>
      simp only [stepWorld]
      split
      · exact sound.goto _ nofun nofun
      · exact sound
  | advance caller clocks result => exact sound.advance admitted
  | crash caller => exact sound.goto .idle nofun nofun

/-! ## Every run -/

/-- Every start of the adapter is by a caller whose own transaction moved the effect of its request
on, and no effect is started twice, in every run whose moves to `in_flight` are never answered by a
receipt. -/
theorem effects_at_most_once (hashing : Hashing Digest) (actions : List Action)
    (each : EachStep (stepWorld hashing) (StartUnanswered hashing) World.empty actions) :
    let world := runFrom (stepWorld hashing) World.empty actions
    (∀ start ∈ world.started,
      start.moved = true ∧ Taken world.store start.request start.sideEffectId) ∧
      world.started.Pairwise fun one other => one.request.key ≠ other.request.key := by
  have kept : ∀ (world : World Digest) action, Sound hashing world →
      StartUnanswered hashing world action → Sound hashing (stepWorld hashing world action) :=
    fun _ action sound admitted => sound.step action admitted
  have sound := invariant_run_of_each kept Sound.empty each
  exact ⟨sound.started, sound.once⟩

end Worlds

/-! ## Two callers of one command -/

instance (call : Call) (task : TaskRow) (receipt : CommandReceipt Digest) :
    Decidable (ReceiptHolds call task receipt) :=
  match isFence : call.command.receiptFence with
  | none => .isTrue fun _ _ same => nomatch isFence.symm.trans same
  | some (ownerId, ownerEpoch) =>
      decidable_of_iff ((task.lease.owner.getD "" = ownerId ∧
          task.lease.epoch = ownerEpoch.getD receipt.ownerEpoch) ∧
        task.lease.live call.leaseClock = true)
        ⟨fun holds other epoch same => by
            obtain ⟨rfl, rfl⟩ := Prod.mk.inj (Option.some.inj (isFence.symm.trans same))
            exact holds,
          fun holds => holds ownerId ownerEpoch isFence⟩

instance [DecidableEq Digest] (hashing : Hashing Digest) (store : KernelStore Digest) (call : Call) :
    Decidable (Unanswered hashing store call) :=
  inferInstanceAs (Decidable (∀ task ∈ store.tasks.lookup call.taskId,
    ∀ receipt ∈ task.receipt call.commandId, ¬(_ ∧ _)))

instance [DecidableEq Digest] (hashing : Hashing Digest) (world : World Digest) :
    ∀ action, Decidable (StartUnanswered hashing world action)
  | .advance caller clocks _ =>
      inferInstanceAs (Decidable (∀ call ∈ (world.callers caller).startCall clocks, _))
  | .command _ | .request _ _ | .crash _ => .isTrue trivial

/-- A task claimed for a minute, with a running attempt. -/
def prepare : List Action :=
  [.command createCall,
   .command ⟨"task", "claim", 0, 0, 0, .claimOwner "owner" 0 60⟩,
   .command ⟨"task", "attempt", 1, 1, 1,
    .startAttempt ⟨"owner", 1, 1⟩ .initial none none none⟩]

def effectRequest : EffectRequest :=
  { taskId := "task"
    attemptId := 2
    commandId := "effect"
    fence := ⟨"owner", 1, 2⟩
    effectKind := "kind"
    idempotencyKey := "key"
    requestPayload := "payload" }

def forward (caller : Nat) : Action :=
  .advance caller ⟨2, 2, 2⟩ ⟨"operation", "receipt", "result"⟩

/-- One caller executes the effect. -/
theorem effects_at_most_once_single :
    let actions := prepare ++ .request 0 effectRequest :: List.replicate 6 (forward 0)
    let world := runFrom (stepWorld plainHashing) World.empty actions
    (∀ start ∈ world.started,
      start.moved = true ∧ Taken world.store start.request start.sideEffectId) ∧
      world.started.Pairwise fun one other => one.request.key ≠ other.request.key :=
  effects_at_most_once plainHashing _ (by decide +kernel)

/-- Both callers present one command; both read the effect while it is reserved, the receipt of the
first move answers the second one, and both execute the effect. -/
theorem replayed_start_executes_twice :
    let both := [0, 1]
    let actions := prepare ++ (both.map fun caller => .request caller effectRequest) ++
      both.map forward ++ both.map forward ++ both.map forward ++ both.map forward
    let world := runFrom (stepWorld plainHashing) World.empty actions
    world.started = [⟨effectRequest, 3, true⟩, ⟨effectRequest, 3, false⟩] := by
  decide +kernel

end Shiliu.Research
