/-
Module: Shiliu.Assistant.RunActions
Purpose: The actions a run's projection offers, and the run of a thread they are offered for. The
  current run is computed twice, by a scan of the thread's runs in the order they were inserted and
  by an ordered query; `resume_run` decides by conditions of its own. The runs of a thread have
  different numbers, as a constraint of the table has it; nothing else is assumed of them, so a
  paused run may stand before a later one.
Trusted boundary: none
Main exports: RunActions, assistantRunDto, currentActionRunId, ActionsAgree, offered_actions_agree
-/
import Shiliu.Library.Distinct
import Shiliu.Assistant.RunLifecycle

set_option linter.all false

namespace Shiliu.Assistant

open Shiliu.Library Shiliu.Storage

/-! ## The projection -/

/-- `run['actions']`. -/
structure RunActions where
  resume : Bool
  abandon : Bool
  terminated : Bool
  current : Bool
  reason : Option String

/-- The projection of a run. -/
structure RunDto where
  run : Run
  actions : RunActions

/-- `resumable` without `current`. -/
def offersResume (run : Run) : Bool :=
  let code := run.lastErrorCode.getD ""
  ((run.status = .interrupted ∨ run.status = .budgetExhausted) ∧
      (code ≠ "context_budget_exceeded" ∨ run.workingState.contextRecoveryAttempts = 0)) ∨
    (run.status = .failed ∧ code = "context_compaction_failed" ∧
      run.workingState.compactionRetries = 0)

/-- `assistant_run_dto`. -/
def assistantRunDto (run : Run) (current : Bool) : RunDto where
  run := run
  actions :=
    { resume := current && offersResume run
      abandon := current && (run.status.isActive || run.status.isStopped)
      terminated := run.status = .cancelled
      current := current
      reason :=
        if ¬ current ∧ (run.status = .interrupted ∨ run.status = .budgetExhausted) then
          some "run_superseded"
        else run.lastErrorCode.filter fun code => code ≠ "" }

/-! ## The current run -/

/-- `_current_action_run_id`. -/
def currentActionRunId (runs : List Run) : Option String :=
  match runs.reverse.find? fun run => run.status.isActive with
  | some active => some active.id
  | none => (runs.getLast?.filter fun latest => latest.status.isStopped).map Run.id

/-- `SELECT … FROM assistant_runs WHERE workspace_id=… AND thread_id=… ORDER BY insertion_seq`. -/
def AssistantStore.orderedRuns (store : AssistantStore) (threadId : String) : List Run :=
  sortedBy Run.insertionSeq (store.runsOf threadId)

/-- `get_run`. -/
def getRun (store : AssistantStore) (context : ResourceContext) (runId : String) :
    Except Failure RunDto :=
  match (store.runs.lookup runId).filter fun run =>
      (store.thread context run.threadId).isSome with
  | none => .error .keyError
  | some run =>
      .ok (assistantRunDto run
        (currentActionRunId (store.orderedRuns run.threadId) = some runId))

/-- `value["runs"]` of `get_thread`. -/
def getThreadRuns (store : AssistantStore) (context : ResourceContext) (threadId : String) :
    Except Failure (List RunDto) :=
  match store.thread context threadId with
  | none => .error .keyError
  | some _ =>
      let runs := store.orderedRuns threadId
      .ok (runs.map fun run => assistantRunDto run (some run.id = currentActionRunId runs))

/-- `ORDER BY (status IN ('queued','running')) DESC,insertion_seq DESC`, by the key that is
highest. -/
def Run.replayKey (run : Run) : Bool ×ₗ Nat :=
  toLex (run.status.isActive, run.insertionSeq)

/-- `current_id` of `assistant_request_replay`. -/
def replayCurrentId (runs : List Run) : Option String :=
  ((runs.argmax Run.replayKey).filter fun latest =>
    latest.status.isActive || latest.status.isStopped).map Run.id

/-- `assistant_request_replay`. -/
def assistantRequestReplay (store : AssistantStore) (context : ResourceContext)
    (threadId requestId : String) : Except Failure (Option RunDto) :=
  match store.thread context threadId with
  | none => .error (.coordinationConflict "thread_owner_mismatch")
  | some _ =>
      match (store.runsOf threadId).find? fun run => run.requestId = requestId with
      | none => .ok none
      | some run =>
          .ok (some (assistantRunDto run
            (some run.id = replayCurrentId (store.runsOf threadId))))

/-! ## The agreement -/

/-- `UNIQUE ("workspace_id","insertion_seq")`, within a thread. -/
def NumberedApart (store : AssistantStore) : Prop :=
  ∀ first ∈ store.runs, ∀ second ∈ store.runs, first.threadId = second.threadId →
    first.insertionSeq = second.insertionSeq → first = second

/-- `resume_run` succeeds. -/
def Resumes (now : Instant) (store : AssistantStore) (context : ResourceContext)
    (runId : String) : Prop :=
  ∃ after result, resumeRun now store context runId = .ok (after, result)

/-- Every projection offers the resumption that would succeed, and both computations name the same
current run. -/
structure ActionsAgree (now : Instant) (store : AssistantStore) (context : ResourceContext) :
    Prop where
  run : ∀ runId dto, getRun store context runId = .ok dto →
    (dto.actions.resume = true ↔ Resumes now store context runId)
  thread : ∀ threadId dtos, getThreadRuns store context threadId = .ok dtos → ∀ dto ∈ dtos,
    (dto.actions.resume = true ↔ Resumes now store context dto.run.id)
  replay : ∀ threadId requestId dto,
    assistantRequestReplay store context threadId requestId = .ok (some dto) →
    (dto.actions.resume = true ↔ Resumes now store context dto.run.id)
  current : ∀ threadId,
    currentActionRunId (store.orderedRuns threadId) = replayCurrentId (store.runsOf threadId)

/-! ## One current run -/

section Thread

variable {store : AssistantStore} {threadId : String}

variable {run first second : Run} {now : Instant} {context : ResourceContext} {runId : String}

theorem mem_runsOf :
    run ∈ store.runsOf threadId ↔ run ∈ store.runs ∧ run.threadId = threadId := by
  simp [AssistantStore.runsOf, Table.mem_rows]

theorem mem_orderedRuns :
    run ∈ store.orderedRuns threadId ↔ run ∈ store.runs ∧ run.threadId = threadId := by
  rw [AssistantStore.orderedRuns, mem_sortedBy, mem_runsOf]

theorem currentActionRunId_cases (threadId : String) (store : AssistantStore) :
    (∃ active ∈ store.orderedRuns threadId, active.status.isActive = true ∧
      (∀ run ∈ store.orderedRuns threadId, run.status.isActive = true →
        run.insertionSeq ≤ active.insertionSeq) ∧
      currentActionRunId (store.orderedRuns threadId) = some active.id) ∨
    ((∀ run ∈ store.orderedRuns threadId, run.status.isActive = false) ∧
      currentActionRunId (store.orderedRuns threadId) =
        ((store.orderedRuns threadId).getLast?.filter fun latest =>
          latest.status.isStopped).map Run.id) := by
  have sorted := pairwise_sortedBy Run.insertionSeq (store.runsOf threadId)
  unfold currentActionRunId
  cases found : (store.orderedRuns threadId).reverse.find? fun run => run.status.isActive with
  | some active =>
      have isActive := List.find?_some found
      have member := List.mem_reverse.mp (List.mem_of_find?_eq_some found)
      exact .inl ⟨active, member, isActive,
        fun run isRun selected => le_find?_reverse_of_pairwise _ sorted found isRun selected, rfl⟩
  | none =>
      refine .inr ⟨fun run isRun => ?_, rfl⟩
      have refused := List.find?_eq_none.mp found run (List.mem_reverse.mpr isRun)
      simpa using refused

theorem active_of_replayKey_le (le : first.replayKey ≤ second.replayKey)
    (isActive : first.status.isActive = true) : second.status.isActive = true := by
  rcases Prod.Lex.toLex_le_toLex.mp le with less | ⟨equal, _⟩
  · exact Bool.eq_true_of_true_le (isActive ▸ le_of_lt less)
  · exact equal.symm.trans isActive

theorem insertionSeq_le_of_replayKey_le (le : first.replayKey ≤ second.replayKey)
    (same : first.status.isActive = second.status.isActive) :
    first.insertionSeq ≤ second.insertionSeq := by
  rcases Prod.Lex.toLex_le_toLex.mp le with less | ⟨_, le⟩
  · exact absurd same (ne_of_lt less)
  · exact le

/-- The scan and the query name the same run. -/
theorem currentActionRunId_eq (apart : NumberedApart store) (threadId : String) :
    currentActionRunId (store.orderedRuns threadId) = replayCurrentId (store.runsOf threadId) := by
  have same {first second : Run} (one : first ∈ store.orderedRuns threadId)
      (two : second ∈ store.orderedRuns threadId)
      (number : first.insertionSeq = second.insertionSeq) : first = second := by
    rw [mem_orderedRuns] at one two
    exact apart first one.1 second two.1 (one.2.trans two.2.symm) number
  have listed {run : Run} : run ∈ store.runsOf threadId ↔ run ∈ store.orderedRuns threadId :=
    mem_runsOf.trans mem_orderedRuns.symm
  have ranked {latest run : Run} (isLatest : (store.runsOf threadId).argmax Run.replayKey = some latest)
      (isRun : run ∈ store.orderedRuns threadId) : run.replayKey ≤ latest.replayKey :=
    List.le_of_mem_argmax (listed.mpr isRun) isLatest
  unfold replayCurrentId
  rcases currentActionRunId_cases threadId store with
    ⟨active, isRun, isActive, newest, current⟩ | ⟨idle, current⟩
  · rw [current]
    cases isLatest : (store.runsOf threadId).argmax Run.replayKey with
    | none =>
        rw [List.argmax_eq_none.mp isLatest] at listed
        exact absurd (listed.mpr isRun) (List.not_mem_nil)
    | some latest =>
        have member := listed.mp (List.argmax_mem isLatest)
        have above := ranked isLatest isRun
        have latestActive := active_of_replayKey_le above isActive
        have later := insertionSeq_le_of_replayKey_le above (isActive.trans latestActive.symm)
        have number := le_antisymm later (newest latest member latestActive)
        rw [same isRun member number]
        simp [latestActive]
  · rw [current]
    cases isLatest : (store.runsOf threadId).argmax Run.replayKey with
    | none =>
        have empty : store.orderedRuns threadId = [] := by
          rw [AssistantStore.orderedRuns, List.argmax_eq_none.mp isLatest]
          rfl
        rw [empty]
        rfl
    | some latest =>
        have member := listed.mp (List.argmax_mem isLatest)
        cases isLast : (store.orderedRuns threadId).getLast? with
        | none =>
            rw [List.getLast?_eq_none_iff.mp isLast] at member
            cases member
        | some last =>
            have inThread := List.mem_of_getLast? isLast
            have later := insertionSeq_le_of_replayKey_le (ranked isLatest inThread)
              ((idle last inThread).trans (idle latest member).symm)
            have sorted := pairwise_sortedBy Run.insertionSeq (store.runsOf threadId)
            have number := le_antisymm later (le_getLast?_of_pairwise _ sorted isLast member)
            rw [same inThread member number, Option.filter_some, Option.filter_some,
              idle latest member, Bool.false_or]

/-! ## Resumption -/

/-- What `resume_run` asks of a run it has locked. -/
structure Resumable (store : AssistantStore) (run : Run) : Prop where
  offered : offersResume run = true
  newest : ∀ newer ∈ store.orderedRuns run.threadId, newer.insertionSeq ≤ run.insertionSeq
  alone : ∀ other ∈ store.orderedRuns run.threadId, other.id ≠ run.id →
    other.status.isActive = false

theorem offersResume_iff :
    offersResume run = true ↔
      ((run.status = .interrupted ∨ run.status = .budgetExhausted) ∧
        (run.lastErrorCode = some "context_budget_exceeded" →
          run.workingState.contextRecoveryAttempts = 0)) ∨
      (run.status = .failed ∧ run.lastErrorCode = some "context_compaction_failed" ∧
        run.workingState.compactionRetries = 0) := by
  unfold offersResume
  cases run.lastErrorCode with
  | none => simp
  | some code => simp; tauto

theorem stopped_of_offered (offered : offersResume run = true) :
    run.status.isActive = false ∧ run.status.isStopped = true := by
  rcases offersResume_iff.mp offered with ⟨status | status, _⟩ | ⟨status, _⟩ <;>
    rw [status] <;> exact ⟨rfl, rfl⟩

theorem resumes_iff (locked : lockThreadRun store context runId = .ok run) :
    Resumes now store context runId ↔ Resumable store run := by
  have found := lookup_of_lockThreadRun locked
  have sameId : run.id = runId := Table.key_of_lookup found
  have newer : ((store.runsOf run.threadId).any fun newer =>
      run.insertionSeq < newer.insertionSeq) = false ↔
      ∀ newer ∈ store.orderedRuns run.threadId, newer.insertionSeq ≤ run.insertionSeq := by
    simp [List.any_eq_false, mem_runsOf, mem_orderedRuns]
  have other : ((store.runsOf run.threadId).any fun other =>
      other.id ≠ runId ∧ other.status.isActive) = false ↔
      ∀ other ∈ store.orderedRuns run.threadId, other.id ≠ run.id →
        other.status.isActive = false := by
    simp [List.any_eq_false, mem_runsOf, mem_orderedRuns, sameId]
  constructor
  · rintro ⟨after, result, done⟩
    unfold resumeRun at done
    simp only [locked] at done
    split at done
    · cases done
    rename_i resumable
    split at done
    · cases done
    rename_i retried
    split at done
    · cases done
    rename_i recovered
    split at done
    · cases done
    rename_i noNewer
    split at done
    · cases done
    rename_i noOther
    refine ⟨offersResume_iff.mpr ?_, newer.mp (by simpa using noNewer),
      other.mp (by simpa using noOther)⟩
    simp only [decide_eq_true_eq] at resumable
    simp only [decide_eq_true_eq, not_and, not_le, Nat.lt_one_iff] at retried recovered
    by_cases stopped : run.status = .interrupted ∨ run.status = .budgetExhausted
    · exact .inl ⟨stopped, recovered⟩
    · have compaction := Classical.not_not.mp (not_and.mp resumable stopped)
      exact .inr ⟨compaction.1, compaction.2, retried compaction⟩
  · rintro ⟨offered, newest, alone⟩
    have offered := offersResume_iff.mp offered
    unfold Resumes resumeRun
    simp only [locked]
    rw [if_neg, if_neg, if_neg, if_neg, if_neg]
    · exact ⟨_, _, rfl⟩
    · simpa using other.mpr alone
    · simpa using newer.mpr newest
    · rcases offered with ⟨_, recovered⟩ | ⟨_, code, _⟩
      · rintro ⟨code, spent⟩
        rw [recovered code] at spent
        cases spent
      · rintro ⟨again, _⟩
        rw [code] at again
        simp at again
    · rcases offered with ⟨status | status, _⟩ | ⟨_, _, retries⟩ <;> simp_all
    · rcases offered with ⟨status | status, _⟩ | ⟨status, code, _⟩ <;> simp_all

/-- The offer of the projection of a run, with the scan's answer. -/
theorem resume_offered_iff (apart : NumberedApart store)
    (locked : lockThreadRun store context runId = .ok run) :
    (assistantRunDto run (some runId = currentActionRunId
        (store.orderedRuns run.threadId))).actions.resume = true ↔
      Resumes now store context runId := by
  have found := lookup_of_lockThreadRun locked
  have sameId : run.id = runId := Table.key_of_lookup found
  have isRun : run ∈ store.orderedRuns run.threadId :=
    mem_orderedRuns.mpr ⟨Table.mem_of_lookup found, rfl⟩
  have byId {other : Run} (member : other ∈ store.orderedRuns run.threadId)
      (same : runId = other.id) : other = run :=
    Table.eq_of_key (mem_orderedRuns.mp member).1 (Table.mem_of_lookup found)
      (same.symm.trans sameId.symm)
  rw [resumes_iff locked]
  simp only [assistantRunDto, Bool.and_eq_true, decide_eq_true_eq]
  constructor
  · rintro ⟨current, offered⟩
    obtain ⟨inactive, stopped⟩ := stopped_of_offered offered
    rcases currentActionRunId_cases run.threadId store with
      ⟨active, member, isActive, _, isCurrent⟩ | ⟨idle, isCurrent⟩
    · rw [isCurrent, Option.some_inj] at current
      rw [byId member current, inactive] at isActive
      cases isActive
    · rw [isCurrent] at current
      obtain ⟨last, isLast, same⟩ := Option.map_eq_some_iff.mp current.symm
      have isLast := (Option.filter_eq_some_iff.mp isLast).1
      obtain rfl := byId (List.mem_of_getLast? isLast) same.symm
      have sorted := pairwise_sortedBy Run.insertionSeq (store.runsOf last.threadId)
      exact ⟨offered, fun newer member => le_getLast?_of_pairwise _ sorted isLast member,
        fun other member _ => idle other member⟩
  · rintro ⟨offered, newest, alone⟩
    obtain ⟨inactive, stopped⟩ := stopped_of_offered offered
    have idle : ∀ other ∈ store.orderedRuns run.threadId, other.status.isActive = false := by
      intro other member
      by_cases same : other.id = run.id
      · rw [byId member (sameId.symm.trans same.symm), inactive]
      · exact alone other member same
    refine ⟨?_, offered⟩
    rcases currentActionRunId_cases run.threadId store with
      ⟨active, member, isActive, _, _⟩ | ⟨_, isCurrent⟩
    · rw [idle active member] at isActive
      cases isActive
    · rw [isCurrent]
      cases isLast : (store.orderedRuns run.threadId).getLast? with
      | none =>
          rw [List.getLast?_eq_none_iff.mp isLast] at isRun
          cases isRun
      | some last =>
          have member := List.mem_of_getLast? isLast
          have sorted := pairwise_sortedBy Run.insertionSeq (store.runsOf run.threadId)
          have number := le_antisymm (le_getLast?_of_pairwise _ sorted isLast isRun)
            (newest last member)
          have inThread := mem_orderedRuns.mp member
          obtain rfl := apart run (Table.mem_of_lookup found) last inThread.1 inThread.2.symm number
          simp [stopped, sameId]

end Thread

/-! ## Every projection -/

theorem lockThreadRun_of_thread {store : AssistantStore} {context : ResourceContext} {run : Run}
    (isRun : run ∈ store.runs) (visible : (store.thread context run.threadId).isSome) :
    lockThreadRun store context run.id = .ok run := by
  obtain ⟨thread, isThread⟩ := Option.isSome_iff_exists.mp visible
  obtain ⟨found, owned⟩ := Option.filter_eq_some_iff.mp isThread
  unfold lockThreadRun
  rw [Table.lookup_of_mem isRun]
  simp only [found]
  simp only [decide_eq_true_eq] at owned
  simp [owned]

theorem ActionsAgree.of_apart {store : AssistantStore} (apart : NumberedApart store)
    (now : Instant) (context : ResourceContext) : ActionsAgree now store context where
  run := by
    intro runId dto projected
    unfold getRun at projected
    split at projected
    · cases projected
    rename_i run isRun
    cases projected
    obtain ⟨found, visible⟩ := Option.filter_eq_some_iff.mp isRun
    have sameId : run.id = runId := Table.key_of_lookup found
    have locked := lockThreadRun_of_thread (Table.mem_of_lookup found) visible
    rw [sameId] at locked
    rw [← resume_offered_iff apart locked]
    simp only [eq_comm]
  thread := by
    intro threadId dtos projected dto member
    unfold getThreadRuns at projected
    split at projected
    · cases projected
    rename_i thread isThread
    cases projected
    obtain ⟨run, isRun, rfl⟩ := List.mem_map.mp member
    obtain ⟨stored, rfl⟩ := mem_orderedRuns.mp isRun
    exact resume_offered_iff apart (lockThreadRun_of_thread stored (by rw [isThread]; rfl))
  replay := by
    intro threadId requestId dto projected
    unfold assistantRequestReplay at projected
    split at projected
    · cases projected
    rename_i thread isThread
    split at projected
    · cases projected
    rename_i run isRun
    cases projected
    obtain ⟨stored, rfl⟩ := mem_runsOf.mp (List.mem_of_find?_eq_some isRun)
    rw [← currentActionRunId_eq apart]
    exact resume_offered_iff apart (lockThreadRun_of_thread stored (by rw [isThread]; rfl))
  current := currentActionRunId_eq apart

/-- In every state the database admits, whatever its runs went through, the projections offer the
resumption that would succeed. -/
theorem offered_actions_agree (store : AssistantStore) (apart : NumberedApart store)
    (now : Instant) (context : ResourceContext) : ActionsAgree now store context :=
  .of_apart apart now context

/-- Reachable states keep the constraint. -/
theorem numberedApart_runFrom {start : AssistantStore} (fresh : Fresh start) (calls : List Call) :
    NumberedApart (runFrom stepRun start calls) :=
  fun first isFirst second isSecond _ =>
    (sound_runFrom fresh calls).ordered.distinct first isFirst second isSecond

/-- A run that is paused in its first segment. -/
theorem offered_actions_agree_paused :
    ActionsAgree 0 (runFrom stepRun emptyThreadStore ([ask 1, .claimNextRun none fun _ => false,
      .pauseRun ⟨none, "arun_1", "model_timeout", "", some 1⟩].map callNow)) ⟨"ws", "me"⟩ :=
  offered_actions_agree _ (numberedApart_runFrom ⟨rfl, rfl, rfl⟩ _) 0 ⟨"ws", "me"⟩

end Shiliu.Assistant
