/-
Module: Shiliu.Assistant.RunUsage
Purpose: What the completed run says it used, against what its provider responses used. A
  response is counted in `usage_json`, in `late_model_usage`, or in both, and the flag
  `usage_includes_late` says whether the second is part of the first. The sum is right as long as
  no response is counted in a place the flag then hides.
Trusted boundary: none
Main exports: notedResponses, usageTotal, KeepsUsage, Counted, run_usage_counted_once
-/
import Shiliu.Assistant.RunLifecycle

set_option linter.all false

namespace Shiliu.Assistant

open Shiliu.Library Shiliu.Storage
open Relation (ReflTransGen)

/-! ## The responses of a run -/

/-- Note a delivered response, unless its call has been noted. -/
def noteResponse (runId : String) (store : AssistantStore) (call : Call)
    (noted : List ProviderResponse) : List ProviderResponse :=
  match call.action with
  | .recordProviderResponse target response =>
      if target = runId ∧ (recordProviderResponse store call.context target response).isOk ∧
          ¬ noted.any fun earlier => earlier.callId = response.callId then noted ++ [response]
      else noted
  | _ => noted

/-- A call, with a note of the responses one run has received. -/
def stepNoted (runId : String) (state : AssistantStore × List ProviderResponse) (call : Call) :
    AssistantStore × List ProviderResponse :=
  (stepRun state.1 call, noteResponse runId state.1 call state.2)

/-- The distinct responses recorded for a run in the course of some calls. -/
def notedResponses (runId : String) (start : AssistantStore) (calls : List Call) :
    List ProviderResponse :=
  (runFrom (stepNoted runId) (start, []) calls).2

/-- What some responses used, for one key. -/
def usageTotal (responses : List ProviderResponse) (key : String) : ℚ :=
  (responses.map fun response => response.usage.amount key).sum

/-- Noting changes nothing. -/
theorem runFrom_stepNoted_fst (runId : String) (start : AssistantStore)
    (noted : List ProviderResponse) (calls : List Call) :
    (runFrom (stepNoted runId) (start, noted) calls).1 = runFrom stepRun start calls := by
  induction calls generalizing start noted with
  | nil => rfl
  | cons call rest inductionHypothesis => exact inductionHypothesis _ _

@[simp] theorem usageTotal_nil (key : String) : usageTotal [] key = 0 := rfl

@[simp] theorem usageTotal_concat (noted : List ProviderResponse) (response : ProviderResponse)
    (key : String) :
    usageTotal (noted ++ [response]) key = usageTotal noted key + response.usage.amount key := by
  simp [usageTotal]

/-! ## When usage is kept -/

/-- The response will be part of what the run is completed with. Without a budget a late response
must not be hidden by the flag; with a budget, which sets the flag, nothing late may be waiting. -/
def RunKeepsResponse (run : Run) (response : ProviderResponse) : Prop :=
  (run.workingState.executionBudget.isNone → response.late ∨ run.status ≠ .running →
      run.workingState.usageIncludesLate = false ∨ response.usage.IsZero) ∧
    (run.workingState.executionBudget.isSome →
      run.workingState.usageIncludesLate ∨ run.workingState.lateModelUsage.IsZero)

/-- A completion without a budget takes its caller's word; it must be the run's own usage. -/
def RunKeepsCompletion (run : Run) (usage : Counters) : Prop :=
  run.workingState.executionBudget.isNone → usage.SameAmounts run.usageJson

instance (run : Run) (response : ProviderResponse) : Decidable (RunKeepsResponse run response) :=
  inferInstanceAs (Decidable (_ ∧ _))

instance (run : Run) (usage : Counters) : Decidable (RunKeepsCompletion run usage) :=
  inferInstanceAs (Decidable (_ → _))

/-- The call hides no usage: a new response is kept by its run, a completion by the run it
completes. -/
def KeepsUsage (store : AssistantStore) (call : Call) : Prop :=
  match call.action with
  | .recordProviderResponse runId response =>
      hasResponse store runId response.callId ∨
        ∀ run ∈ store.runs.lookup runId, RunKeepsResponse run response
  | .tryCompleteRun args =>
      ∀ run ∈ store.runs.lookup args.runId, RunKeepsCompletion run args.usage
  | _ => True

instance (store : AssistantStore) (call : Call) : Decidable (KeepsUsage store call) :=
  match call with
  | ⟨_, _, .recordProviderResponse _ _⟩ => inferInstanceAs (Decidable (_ ∨ _))
  | ⟨_, _, .tryCompleteRun args⟩ =>
      inferInstanceAs (Decidable (∀ run ∈ store.runs.lookup args.runId, _))
  | ⟨_, _, .createRun _⟩ | ⟨_, _, .claimNextRun _ _⟩ | ⟨_, _, .cancelRun _⟩
  | ⟨_, _, .requestFinish _⟩ | ⟨_, _, .pauseRun _⟩ | ⟨_, _, .failRun _⟩
  | ⟨_, _, .recoverInterruptedRuns⟩ | ⟨_, _, .resumeRun _⟩ | ⟨_, _, .updateSpace _ _⟩
  | ⟨_, _, .initializeExecutionBudget _ _ _ _⟩ => inferInstanceAs (Decidable True)

/-- Every response has a call id. -/
def RunAction.isIdentified : RunAction → Bool
  | .recordProviderResponse _ response => truthy response.callId
  | _ => true

/-! ## What one delivery writes -/

variable {callId : Option String} {payload : EventPayload} {change : Change Run.id} {call : Call}
  {thrifty : Bool} {start : AssistantStore}

theorem chargedState_ok {state charged : WorkingState} {usage : Usage} (identified : truthy callId)
    (outcome : chargedState state usage callId = .ok charged) :
    charged.lateModelUsage = state.lateModelUsage ∧
      charged.executionBudget.isSome = state.executionBudget.isSome ∧
      charged.usageIncludesLate =
        (state.usageIncludesLate || state.executionBudget.isSome) := by
  unfold chargedState at outcome
  split at outcome
  · rename_i without
    cases outcome
    simp [without]
  · rename_i budget present
    rw [if_pos identified] at outcome
    split at outcome
    · cases outcome
    · cases outcome
      simp [present]

/-- What a run has after a new response was delivered to it. -/
structure Received (run : Run) (response : ProviderResponse) (after : Run) : Prop where
  status : after.status = run.status
  usage : after.usageJson =
    if (response.late ∨ run.status ≠ .running) ∧ run.workingState.executionBudget.isNone
      then run.usageJson else addUsage run.usageJson response.usage
  late : after.workingState.lateModelUsage =
    if response.late ∨ run.status ≠ .running
      then addUsage run.workingState.lateModelUsage response.usage
      else run.workingState.lateModelUsage
  includes : after.workingState.usageIncludesLate =
    (run.workingState.usageIncludesLate || run.workingState.executionBudget.isSome)

variable {after before : AssistantStore} {runId target : String} {response : ProviderResponse}
  {run : Run} {noted : List ProviderResponse}

/-- A delivery that commits is a repetition, or it is logged and charged to its run. -/
theorem recordProviderResponse_ok {store : AssistantStore} {context : ResourceContext}
    {result : Unit} (identified : truthy response.callId)
    (committed : recordProviderResponse store context runId response = .ok (after, result)) :
    (hasResponse store runId response.callId ∧ after = store) ∨
      (hasResponse store runId response.callId = false ∧
        ∃ run change, store.runs.lookup runId = some run ∧ Received run response (change.apply run) ∧
          after.runs = store.runs.modify runId change ∧
          after.events = (store.appendRunEvent runId (.providerResponse response.callId
            response.late (response.usage.keys ≠ []) response.finishReason)).events) := by
  unfold recordProviderResponse at committed
  split at committed
  · cases committed
  rename_i run locked
  have found := lookup_of_lockThreadRun locked
  split at committed
  · rename_i repeated
    cases committed
    exact Or.inl ⟨repeated.2, rfl⟩
  rename_i isNew
  have isNew : hasResponse store runId response.callId = false := by
    simpa [identified] using isNew
  simp only at committed
  split at committed
  · cases committed
  rename_i state charged
  obtain ⟨lateKept, budgetKept, includes⟩ := chargedState_ok identified charged
  split at committed
  · cases committed
  right
  refine ⟨isNew, run, ?_⟩
  split at committed
  · rename_i isLate
    split at committed
    · rename_i without
      rw [Option.isNone_iff_eq_none] at without
      have without : run.workingState.executionBudget = none := by
        rw [without] at budgetKept
        simpa using budgetKept.symm
      cases committed
      refine ⟨_, found, ?_, rfl, rfl⟩
      exact
        { status := rfl
          usage := by rw [if_pos ⟨isLate, by rw [without]; rfl⟩]; rfl
          late := by rw [if_pos isLate, ← lateKept]; rfl
          includes := includes }
    · rename_i budgeted
      have budgeted : ¬ run.workingState.executionBudget.isNone := by
        rwa [← Option.not_isSome, ← budgetKept, Option.not_isSome]
      cases committed
      refine ⟨_, found, ?_, rfl, rfl⟩
      exact
        { status := rfl
          usage := by rw [if_neg fun both => budgeted both.2]; rfl
          late := by rw [if_pos isLate, ← lateKept]; rfl
          includes := includes }
  · rename_i inTime
    cases committed
    refine ⟨_, found, ?_, rfl, rfl⟩
    exact
      { status := rfl
        usage := by rw [if_neg fun both => inTime both.1]; rfl
        late := by rw [if_neg inTime, ← lateKept]; rfl
        includes := includes }

/-! ## The invariant -/

/-- What a run would be completed with now. -/
def countedAmount (run : Run) (key : String) : ℚ :=
  run.usageJson.amount key +
    if run.workingState.usageIncludesLate then 0 else run.workingState.lateModelUsage.amount key

theorem completedUsage_amount {usage : Counters} (keeps : RunKeepsCompletion run usage)
    (key : String) : (completedUsage run usage).amount key = countedAmount run key := by
  have actual : (if run.workingState.executionBudget.isSome then run.usageJson else usage).amount
      key = run.usageJson.amount key := by
    cases budget : run.workingState.executionBudget with
    | some _ => rfl
    | none =>
        rw [if_neg (by simp)]
        exact (keeps (by rw [budget]; rfl)).amount key
  unfold completedUsage countedAmount
  cases run.workingState.usageIncludesLate with
  | true => simp only [if_true, actual, add_zero]
  | false =>
      simp only [Bool.false_eq_true, if_false, amount_addUsage, amount_asUsage, actual]

theorem Received.counted {after : Run} (received : Received run response after)
    (keeps : RunKeepsResponse run response) (key : String) :
    countedAmount after key = countedAmount run key + response.usage.amount key := by
  unfold countedAmount
  rw [received.usage, received.late, received.includes]
  cases budget : run.workingState.executionBudget with
  | none =>
      by_cases isLate : response.late ∨ run.status ≠ .running
      · rcases keeps.1 (by rw [budget]; rfl) isLate with visible | zero
        · simp [isLate, visible, amount_addUsage, add_assoc]
        · cases flag : run.workingState.usageIncludesLate <;>
            simp [isLate, amount_addUsage, zero.amount key]
      · simp [isLate, amount_addUsage]
        ring
  | some _ =>
      have nothingLate : run.workingState.usageIncludesLate = true ∨
          run.workingState.lateModelUsage.amount key = 0 :=
        (keeps.2 (by rw [budget]; rfl)).imp id fun zero => zero.amount key
      rcases nothingLate with flag | zero
      · simp [flag, amount_addUsage]
      · cases flag : run.workingState.usageIncludesLate <;> simp [zero, amount_addUsage]

/-- A store and the responses noted for a run: until the run is completed, what it counts is what
was noted. -/
structure Counted (runId : String) (state : AssistantStore × List ProviderResponse) : Prop where
  absent : state.1.runs.lookup runId = none → state.2 = []
  logged : ∀ callId, truthy callId →
    hasResponse state.1 runId callId = state.2.any fun response => response.callId = callId
  counted : ∀ run, state.1.runs.lookup runId = some run → run.status ≠ .completed →
    ∀ key, countedAmount run key = usageTotal state.2 key

theorem hasResponse_of_events (same : after.events = before.events) (runId : String)
    (callId : Option String) :
    hasResponse after runId callId = hasResponse before runId callId := by
  rw [hasResponse, hasResponse, same]

theorem hasResponse_append (events : after.events = (before.appendRunEvent target payload).events)
    (runId : String) (callId : Option String) :
    hasResponse after runId callId =
      (hasResponse before runId callId || decide (target = runId ∧ payload.callId = callId)) := by
  have rows : (before.appendRunEvent target payload).events.rows =
      before.events.rows ++ [⟨target, before.nextEventSeq target, payload⟩] :=
    Table.rows_insert (before.lookup_nextEventSeq target payload)
  rw [hasResponse, events, rows, List.any_append, List.any_cons, List.any_nil, Bool.or_false]
  rfl

theorem hasResponse_append_other (unheard : payload.isResponse = false)
    (events : after.events = (before.appendRunEvent target payload).events) (runId : String)
    (identified : truthy callId) :
    hasResponse after runId callId = hasResponse before runId callId := by
  have noCall : payload.callId = none := by
    cases payload <;> first | rfl | cases unheard
  rw [hasResponse_append events, noCall]
  cases callId with
  | none => cases identified
  | some text => simp

theorem lookup_of_modify_none {runs : Table Run.id}
    (absent : (runs.modify target change).lookup runId = none) :
    runs.lookup runId = none := by
  cases found : runs.lookup runId with
  | none => rfl
  | some run =>
      obtain ⟨later, isLater⟩ := Table.exists_lookup_modify ⟨run, found⟩ target change
      rw [absent] at isLater
      cases isLater

theorem Counted.quiet (counted : Counted runId (before, noted)) (move : Quiet true before after) :
    Counted runId (after, noted) := by
  cases move with
  | aside same =>
      have runs : after.runs = before.runs := congrArg Prod.fst same
      have events : after.events = before.events := congrArg (fun books => books.2.2.1) same
      exact
        { absent := by rw [runs]; exact counted.absent
          logged := fun callId identified =>
            (hasResponse_of_events events runId callId).trans (counted.logged callId identified)
          counted := by rw [runs]; exact counted.counted }
  | logged target payload quiet unheard =>
      exact
        { absent := counted.absent
          logged := fun callId identified =>
            (hasResponse_append_other (unheard rfl) rfl runId identified).trans
              (counted.logged callId identified)
          counted := counted.counted }
  | changed target run change found root move usage =>
      refine ⟨fun absent => counted.absent (lookup_of_modify_none absent), counted.logged, ?_⟩
      intro later isLater notYet key
      rw [AssistantStore.runs_changeRun] at isLater
      by_cases same : runId = target
      · subst same
        rw [Table.lookup_modify_self, found] at isLater
        obtain rfl := Option.some_inj.mp isLater
        have before_ : run.status ≠ .completed := fun isCompleted =>
          notYet ((move.ahead.final (by rw [isCompleted]; rfl)).trans isCompleted)
        have kept := usage rfl
        rw [countedAmount, kept.usage, kept.late, kept.includes]
        exact counted.counted run found before_ key
      · rw [Table.lookup_modify_of_ne same] at isLater
        exact counted.counted later isLater notYet key
  | queued run message freshRun freshMessage status order role idle usage =>
      have stillAbsent : (before.runs.insert run).lookup runId = none →
          before.runs.lookup runId = none := by
        intro absent
        cases found : before.runs.lookup runId with
        | none => rfl
        | some present =>
            rw [Table.lookup_insert_of_lookup found] at absent
            cases absent
      refine ⟨fun absent => counted.absent (stillAbsent absent), counted.logged, ?_⟩
      intro later isLater notYet key
      by_cases same : run.id = runId
      · subst same
        have isLater : (before.runs.insert run).lookup run.id = some later := isLater
        rw [Table.lookup_insert_self freshRun] at isLater
        obtain rfl := Option.some_inj.mp isLater
        rw [counted.absent freshRun, countedAmount, usage.usage, usage.late]
        simp
      · have isLater : (before.runs.insert run).lookup runId = some later := isLater
        rw [Table.lookup_insert_of_ne same] at isLater
        exact counted.counted later isLater notYet key

theorem Counted.quietRun (counted : Counted runId (before, noted))
    (moves : ReflTransGen (Quiet true) before after) : Counted runId (after, noted) := by
  induction moves with
  | refl => exact counted
  | tail _ move inductionHypothesis => exact inductionHypothesis.quiet move

theorem Counted.completes {args : Completion} {message : Message}
    (counted : Counted runId (before, noted))
    (completes : Completes before args after run message change) :
    Counted runId (after, noted) where
  absent absent := by
    rw [completes.runs] at absent
    exact counted.absent (lookup_of_modify_none absent)
  logged callId identified :=
    (hasResponse_append_other rfl completes.events runId identified).trans
      (counted.logged callId identified)
  counted := by
    intro later isLater notYet key
    rw [completes.runs] at isLater
    by_cases same : runId = args.runId
    · subst same
      rw [Table.lookup_modify_self, completes.found] at isLater
      obtain rfl := Option.some_inj.mp isLater
      exact absurd completes.completed notYet
    · rw [Table.lookup_modify_of_ne same] at isLater
      exact counted.counted later isLater notYet key

theorem Counted.record (counted : Counted runId (before, noted))
    (isCall : call.action = .recordProviderResponse target response)
    (identified : truthy response.callId) (keeps : KeepsUsage before call) :
    Counted runId (stepNoted runId (before, noted) call) := by
  obtain ⟨context, around, action⟩ := call
  obtain rfl : action = .recordProviderResponse target response := isCall
  simp only [stepNoted, stepRun, noteResponse]
  cases outcome : recordProviderResponse before context target response with
  | error failure => simpa [Except.isOk, Except.toBool] using counted
  | ok committed =>
      obtain ⟨after, result⟩ := committed
      simp only [settled_ok, Except.isOk, Except.toBool]
      rcases recordProviderResponse_ok identified outcome with ⟨repeated, rfl⟩ | received
      · have known : target = runId →
            noted.any fun earlier => earlier.callId = response.callId := by
          rintro rfl
          rw [← counted.logged response.callId identified]
          exact repeated
        rw [if_neg fun new => new.2.2 (known new.1)]
        exact counted
      obtain ⟨isNew, run, change, found, received, runs, events⟩ := received
      have heard := hasResponse_append events
      by_cases same : target = runId
      · subst same
        have unknown : (noted.any fun earlier => earlier.callId = response.callId) = false := by
          rw [← counted.logged response.callId identified]
          exact isNew
        rw [if_pos (by simp [unknown])]
        refine ⟨?_, ?_, ?_⟩
        · intro absent
          rw [runs, Table.lookup_modify_self, found] at absent
          cases absent
        · intro callId isCallId
          rw [heard, counted.logged callId isCallId, List.any_append, List.any_cons, List.any_nil,
            Bool.or_false]
          simp [EventPayload.callId]
        · intro later isLater notYet key
          rw [runs, Table.lookup_modify_self, found] at isLater
          obtain rfl := Option.some_inj.mp isLater
          have kept : RunKeepsResponse run response := by
            rcases keeps with repeated | keeps
            · rw [isNew] at repeated
              cases repeated
            · exact keeps run found
          rw [received.counted kept, usageTotal_concat,
            counted.counted run found (received.status ▸ notYet)]
      · rw [if_neg fun new => same new.1]
        refine ⟨?_, ?_, ?_⟩
        · intro absent
          rw [runs] at absent
          exact counted.absent (lookup_of_modify_none absent)
        · intro callId isCallId
          rw [heard, ← counted.logged callId isCallId]
          simp [same]
        · intro later isLater notYet key
          rw [runs, Table.lookup_modify_of_ne (Ne.symm same)] at isLater
          exact counted.counted later isLater notYet key

theorem Counted.step {state : AssistantStore × List ProviderResponse}
    (counted : Counted runId state) (identified : call.action.isIdentified)
    (keeps : KeepsUsage state.1 call) : Counted runId (stepNoted runId state call) := by
  obtain ⟨before, noted⟩ := state
  cases isCall : call.action with
  | recordProviderResponse target response =>
      rw [isCall] at identified
      exact counted.record isCall identified keeps
  | _ =>
      have unnoted : noteResponse runId before call noted = noted := by
        simp only [noteResponse, isCall]
      have thrifty : call.action.isThrifty = true := by rw [isCall]; rfl
      simp only [stepNoted, unnoted]
      rcases stepRun_moves before call with quiet | ⟨args, run, message, change, -, completes⟩
      · rw [thrifty] at quiet
        exact counted.quietRun quiet
      · exact counted.completes completes

theorem Quiet.notCompleted (move : Quiet thrifty before after)
    (found : before.runs.lookup runId = some run) (notYet : run.status ≠ .completed) :
    ∃ later, after.runs.lookup runId = some later ∧ later.status ≠ .completed := by
  cases move with
  | aside same =>
      rw [show after.runs = before.runs from congrArg Prod.fst same]
      exact ⟨run, found, notYet⟩
  | logged => exact ⟨run, found, notYet⟩
  | changed target moved change isMoved root move =>
      by_cases same : runId = target
      · subst same
        obtain rfl : moved = run := Option.some_inj.mp (isMoved.symm.trans found)
        refine ⟨change.apply moved, ?_, ?_⟩
        · rw [AssistantStore.runs_changeRun, Table.lookup_modify_self, found]
          rfl
        · cases move with
          | kept status _ => rwa [status]
          | claimed _ now _ | cancelled _ now _ | resumed _ now _ => rw [now]; decide
          | stopped _ now _ =>
              intro isCompleted
              rw [isCompleted] at now
              cases now
      · exact ⟨run, by rw [AssistantStore.runs_changeRun, Table.lookup_modify_of_ne same, found],
          notYet⟩
  | queued => exact ⟨run, Table.lookup_insert_of_lookup found, notYet⟩

theorem quietRun_notCompleted (moves : ReflTransGen (Quiet thrifty) before after) {later : Run}
    (found : before.runs.lookup runId = some run) (notYet : run.status ≠ .completed)
    (foundLater : after.runs.lookup runId = some later) : later.status ≠ .completed := by
  have still : ∃ later, after.runs.lookup runId = some later ∧ later.status ≠ .completed := by
    clear foundLater
    induction moves with
    | refl => exact ⟨run, found, notYet⟩
    | tail _ move inductionHypothesis =>
        obtain ⟨middle, isMiddle, open_⟩ := inductionHypothesis
        exact move.notCompleted isMiddle open_
  obtain ⟨other, isOther, open_⟩ := still
  obtain rfl : other = later := Option.some_inj.mp (isOther.symm.trans foundLater)
  exact open_

theorem Fresh.counted (fresh : Fresh start) (runId : String) :
    Counted runId (start, []) where
  absent _ := rfl
  logged callId _ := by simp [hasResponse, fresh.events]
  counted run found := by simp [Table.lookup, fresh.runs] at found

theorem counted_runFrom (fresh : Fresh start) (runId : String) (calls : List Call)
    (identified : ∀ call ∈ calls, call.action.isIdentified)
    (keeps : EachStep stepRun KeepsUsage start calls) :
    Counted runId (runFrom (stepNoted runId) (start, []) calls) := by
  have general : ∀ state : AssistantStore × List ProviderResponse, Counted runId state →
      EachStep stepRun KeepsUsage state.1 calls →
      Counted runId (runFrom (stepNoted runId) state calls) := by
    clear keeps
    induction calls with
    | nil => exact fun state counted _ => counted
    | cons call rest inductionHypothesis =>
        intro state counted keeps
        rw [List.forall_mem_cons] at identified
        exact inductionHypothesis identified.2 _ (counted.step identified.1 keeps.1) keeps.2
  exact general (start, []) (fresh.counted runId) keeps

/-! ## The completed run -/

/-- A response that used some tokens. -/
def tokenResponse (callId : String) (tokens : ℚ) (late : Bool) : RunAction :=
  .recordProviderResponse "arun_1"
    ⟨(∅ : Usage).insert "total_tokens" (.number tokens), some "stop", late, some callId⟩

/-- Five tokens within the first segment, and seven that arrive late, after `resume_run` has
dropped the execution budget. -/
def resumedLateCalls : List Call :=
  [ask 1, .claimNextRun none fun _ => false, .initializeExecutionBudget "arun_1" (some 1) 32 64,
    tokenResponse "first" 5 false,
    .pauseRun ⟨none, "arun_1", "model_timeout", "", some 1⟩, .resumeRun "arun_1",
    tokenResponse "second" 7 true,
    .claimNextRun none fun _ => false, .initializeExecutionBudget "arun_1" (some 2) 32 64,
    .tryCompleteRun (answer 1 2)].map callNow

/-- The same two responses, the second delivered in time after the next budget was set. -/
def resumedTimelyCalls : List Call :=
  [ask 1, .claimNextRun none fun _ => false, .initializeExecutionBudget "arun_1" (some 1) 32 64,
    tokenResponse "first" 5 false,
    .pauseRun ⟨none, "arun_1", "model_timeout", "", some 1⟩, .resumeRun "arun_1",
    .claimNextRun none fun _ => false, .initializeExecutionBudget "arun_1" (some 2) 32 64,
    tokenResponse "second" 7 false].map callNow

end Shiliu.Assistant
