/-
Module: Shiliu.Assistant.RunLifecycle
Purpose: The life of a run under any interleaving of the run transactions. The invariants are that
  every run but the newest of its thread has ended, and that completions, completed runs and
  answers correspond one to one. A relation between two states of one run says what later
  calls can still do to it: epochs rise with every cancellation and resumption, and ends are final.
Trusted boundary: none
Main exports: Ordered, Answered, RunAhead, ThreadsSafe, AnswersSafe, run_lifecycle_safe
-/
import Shiliu.Assistant.RunMoves

set_option linter.all false

namespace Shiliu.Assistant

open Shiliu.Library Shiliu.Storage
open Relation (ReflTransGen)

theorem isFinal_iff {status : RunStatus} :
    status.isFinal ↔ status.isActive = false ∧ status.isStopped = false := by
  cases status <;> simp [RunStatus.isFinal, RunStatus.isActive, RunStatus.isStopped]

/-! ## One run, earlier and later -/

/-- What a later state of a run can be. -/
structure RunAhead (before after : Run) : Prop where
  epoch : before.runEpoch ≤ after.runEpoch
  cancel : before.status ≠ .cancelled → after.status = .cancelled →
    before.runEpoch < after.runEpoch
  resume : before.status.isStopped → after.status.isActive → before.runEpoch < after.runEpoch
  final : before.status.isFinal → after.status = before.status

theorem RunAhead.refl (run : Run) : RunAhead run run where
  epoch := le_refl _
  cancel different same := absurd same different
  resume stopped active := by
    cases status : run.status <;> simp_all [RunStatus.isStopped, RunStatus.isActive]
  final _ := rfl

theorem RunAhead.trans {first second third : Run} (one : RunAhead first second)
    (two : RunAhead second third) : RunAhead first third where
  epoch := one.epoch.trans two.epoch
  cancel different cancelled := by
    by_cases already : second.status = .cancelled
    · exact (one.cancel different already).trans_le two.epoch
    · exact one.epoch.trans_lt (two.cancel already cancelled)
  resume stopped active := by
    cases still : second.status.isStopped with
    | true => exact one.epoch.trans_lt (two.resume still active)
    | false =>
        cases running : second.status.isActive with
        | true => exact (one.resume stopped running).trans_le two.epoch
        | false =>
            have ended : second.status.isFinal := isFinal_iff.mpr ⟨running, still⟩
            rw [two.final ended, running] at active
            cases active
  final ended := by
    have kept := one.final ended
    rw [two.final (kept ▸ ended), kept]

/-- Along the life cycle a run only gets ahead. -/
theorem StatusMove.ahead {before after : Run} (move : StatusMove before after) :
    RunAhead before after := by
  cases move with
  | kept status epoch =>
      exact
        { epoch := epoch.ge
          cancel := fun different cancelled => absurd (status ▸ cancelled) different
          resume := fun stopped active => by
            rw [status] at active
            cases isStatus : before.status <;>
              simp_all [RunStatus.isStopped, RunStatus.isActive]
          final := fun _ => status }
  | claimed status now epoch =>
      exact
        { epoch := epoch.ge
          cancel := fun _ cancelled => by rw [now] at cancelled; cases cancelled
          resume := fun stopped _ => by rw [status] at stopped; cases stopped
          final := fun ended => by rw [status] at ended; cases ended }
  | stopped status now epoch =>
      exact
        { epoch := epoch.ge
          cancel := fun _ cancelled => by rw [cancelled] at now; cases now
          resume := fun stopped _ => by rw [status] at stopped; cases stopped
          final := fun ended => by rw [status] at ended; cases ended }
  | cancelled status now epoch =>
      have rises : before.runEpoch < after.runEpoch := by omega
      exact
        { epoch := rises.le
          cancel := fun _ _ => rises
          resume := fun _ _ => rises
          final := fun ended => by
            rw [isFinal_iff] at ended
            rw [ended.1, ended.2] at status
            rcases status with active | stopped
            · cases active
            · cases stopped }
  | resumed status now epoch =>
      have rises : before.runEpoch < after.runEpoch := by omega
      exact
        { epoch := rises.le
          cancel := fun _ _ => rises
          resume := fun _ _ => rises
          final := fun ended => by
            rw [isFinal_iff, status] at ended
            cases ended.2 }

variable {before after store : AssistantStore} {args : Completion} {run : Run} {message : Message}
  {change : Change Run.id} {runId : String} {thrifty : Bool}

theorem Completes.ahead (completes : Completes before args after run message change) :
    RunAhead run (change.apply run) where
  epoch := completes.epochKept.ge
  cancel _ cancelled := by rw [completes.completed] at cancelled; cases cancelled
  resume stopped _ := by rw [completes.running] at stopped; cases stopped
  final ended := by rw [completes.running] at ended; cases ended

/-- Every run is still there, further along. -/
def RunsAhead (before after : Table Run.id) : Prop :=
  ∀ runId run, before.lookup runId = some run →
    ∃ later, after.lookup runId = some later ∧ RunAhead run later

theorem RunsAhead.refl (runs : Table Run.id) : RunsAhead runs runs :=
  fun _ run found => ⟨run, found, RunAhead.refl run⟩

theorem RunsAhead.trans {first second third : Table Run.id} (one : RunsAhead first second)
    (two : RunsAhead second third) : RunsAhead first third := by
  intro runId run found
  obtain ⟨middle, isMiddle, ahead⟩ := one runId run found
  obtain ⟨later, isLater, further⟩ := two runId middle isMiddle
  exact ⟨later, isLater, ahead.trans further⟩

variable {runs : Table Run.id} {threadId : String} {now : Instant} {context : ResourceContext}
  {result : Option Run}

theorem runsAhead_modify (found : runs.lookup runId = some run)
    (ahead : RunAhead run (change.apply run)) : RunsAhead runs (runs.modify runId change) := by
  intro other before isBefore
  by_cases same : other = runId
  · subst same
    rw [found, Option.some_inj] at isBefore
    subst isBefore
    exact ⟨change.apply run, by rw [Table.lookup_modify_self, found]; rfl, ahead⟩
  · exact ⟨before, by rw [Table.lookup_modify_of_ne same, isBefore], RunAhead.refl before⟩

theorem Quiet.ahead (move : Quiet thrifty before after) :
    RunsAhead before.runs after.runs := by
  cases move with
  | aside same =>
      rw [show after.runs = before.runs from congrArg Prod.fst same]
      exact RunsAhead.refl _
  | logged => exact RunsAhead.refl _
  | changed runId run change found root move => exact runsAhead_modify found move.ahead
  | queued run message freshRun =>
      intro runId run found
      exact ⟨run, Table.lookup_insert_of_lookup found, RunAhead.refl run⟩

theorem quietRun_ahead (moves : ReflTransGen (Quiet thrifty) before after) :
    RunsAhead before.runs after.runs := by
  induction moves with
  | refl => exact RunsAhead.refl _
  | tail _ move inductionHypothesis => exact inductionHypothesis.trans move.ahead

/-- Step lemma: after a call every run is still there, further along. -/
theorem stepRun_ahead (store : AssistantStore) (call : Call) :
    RunsAhead store.runs (stepRun store call).runs := by
  rcases stepRun_moves store call with quiet | completion
  · exact quietRun_ahead quiet
  · obtain ⟨args, run, message, change, -, completes⟩ := completion
    rw [completes.runs]
    exact runsAhead_modify completes.found completes.ahead

theorem runFrom_ahead (store : AssistantStore) (calls : List Call) :
    RunsAhead store.runs (runFrom stepRun store calls).runs := by
  induction calls generalizing store with
  | nil => exact RunsAhead.refl _
  | cons call rest inductionHypothesis =>
      exact (stepRun_ahead store call).trans (inductionHypothesis (stepRun store call))

/-! ## The runs of a thread -/

/-- Runs are numbered in the order they were created, and all but the newest of a thread have
ended. -/
structure Ordered (store : AssistantStore) : Prop where
  numbered : ∀ run ∈ store.runs, run.insertionSeq ≤ store.insertionHighwater
  distinct : ∀ first ∈ store.runs, ∀ second ∈ store.runs,
    first.insertionSeq = second.insertionSeq → first = second
  superseded : ∀ older ∈ store.runs, ∀ newer ∈ store.runs, older.threadId = newer.threadId →
    older.insertionSeq < newer.insertionSeq → older.status.isFinal

theorem mem_modify_run (found : runs.lookup runId = some run)
    (root : SameRoot run (change.apply run)) {after : Run}
    (member : after ∈ runs.modify runId change) :
    ∃ before ∈ runs, after.id = before.id ∧ SameRoot before after ∧
      (after = before ∨ before = run ∧ after = change.apply run) := by
  rcases Table.mem_modify.mp member with ⟨before, isBefore, isKey, rfl⟩ | ⟨isAfter, -⟩
  · obtain rfl : run = before := by
      rw [← Option.some_inj, ← found, ← isKey, Table.lookup_of_mem isBefore]
    exact ⟨run, isBefore, change.keeps run, root, Or.inr ⟨rfl, rfl⟩⟩
  · exact ⟨after, isAfter, rfl, ⟨rfl, rfl, rfl⟩, Or.inl rfl⟩

theorem Ordered.modify (ordered : Ordered store) (found : store.runs.lookup runId = some run)
    (root : SameRoot run (change.apply run)) (ahead : RunAhead run (change.apply run))
    (runs : after.runs = store.runs.modify runId change)
    (order : after.insertionHighwater = store.insertionHighwater) : Ordered after where
  numbered := by
    intro later isLater
    rw [runs] at isLater
    obtain ⟨before, isBefore, -, same, -⟩ := mem_modify_run found root isLater
    rw [same.order, order]
    exact ordered.numbered before isBefore
  distinct := by
    intro first isFirst second isSecond sameOrder
    refine Table.eq_of_key isFirst isSecond ?_
    rw [runs] at isFirst isSecond
    obtain ⟨one, isOne, oneId, oneRoot, -⟩ := mem_modify_run found root isFirst
    obtain ⟨two, isTwo, twoId, twoRoot, -⟩ := mem_modify_run found root isSecond
    rw [oneRoot.order, twoRoot.order] at sameOrder
    rw [oneId, twoId, ordered.distinct one isOne two isTwo sameOrder]
  superseded := by
    intro older isOlder newer isNewer sameThread earlier
    rw [runs] at isOlder isNewer
    obtain ⟨one, isOne, -, oneRoot, oneCase⟩ := mem_modify_run found root isOlder
    obtain ⟨two, isTwo, -, twoRoot, -⟩ := mem_modify_run found root isNewer
    rw [oneRoot.thread, twoRoot.thread] at sameThread
    rw [oneRoot.order, twoRoot.order] at earlier
    have ended := ordered.superseded one isOne two isTwo sameThread earlier
    rcases oneCase with rfl | ⟨rfl, rfl⟩
    · exact ended
    · rw [ahead.final ended]
      exact ended

theorem latestRun_spec {latest : Run} (newest : store.latestRun threadId = some latest) :
    latest ∈ store.runs ∧ latest.threadId = threadId ∧
      ∀ run ∈ store.runs, run.threadId = threadId → run.insertionSeq ≤ latest.insertionSeq := by
  have listed := List.mem_filter.mp (List.argmax_mem newest)
  refine ⟨listed.1, by simpa using listed.2, fun run isRun inThread => ?_⟩
  exact List.le_of_mem_argmax (List.mem_filter.mpr ⟨isRun, by simpa using inThread⟩) newest

theorem Idle.ended (idle : Idle store threadId) (ordered : Ordered store) (isRun : run ∈ store.runs)
    (inThread : run.threadId = threadId) : run.status.isFinal := by
  cases newest : store.latestRun threadId with
  | none =>
      have listed : run ∈ store.runsOf threadId :=
        List.mem_filter.mpr ⟨isRun, by simpa using inThread⟩
      rw [List.argmax_eq_none.mp newest] at listed
      cases listed
  | some latest =>
      obtain ⟨isLatest, ofThread, highest⟩ := latestRun_spec newest
      rcases (highest run isRun inThread).lt_or_eq with earlier | same
      · exact ordered.superseded run isRun latest isLatest (inThread.trans ofThread.symm) earlier
      · rw [ordered.distinct run isRun latest isLatest same]
        exact isFinal_iff.mpr ⟨idle.noActive latest isLatest ofThread, idle.latest latest newest⟩

theorem Ordered.quiet (ordered : Ordered before) (move : Quiet thrifty before after) :
    Ordered after := by
  cases move with
  | aside same =>
      have runs : after.runs = before.runs := congrArg Prod.fst same
      have order : after.insertionHighwater = before.insertionHighwater :=
        congrArg (fun books => books.2.2.2) same
      exact
        { numbered := by rw [runs, order]; exact ordered.numbered
          distinct := by rw [runs]; exact ordered.distinct
          superseded := by rw [runs]; exact ordered.superseded }
  | logged => exact ⟨ordered.numbered, ordered.distinct, ordered.superseded⟩
  | changed runId run change found root move =>
      exact ordered.modify found root move.ahead rfl rfl
  | queued run message freshRun freshMessage status order role idle =>
      have above : ∀ other ∈ before.runs, other.insertionSeq < run.insertionSeq := by
        intro other isOther
        rw [order]
        exact Nat.lt_succ_of_le (ordered.numbered other isOther)
      refine ⟨?_, ?_, ?_⟩
      · intro other isOther
        rcases (Table.mem_insert freshRun).mp isOther with isOther | rfl
        · exact (ordered.numbered other isOther).trans (Nat.le_succ _)
        · exact order.le
      · intro first isFirst second isSecond sameOrder
        rcases (Table.mem_insert freshRun).mp isFirst with wasFirst | rfl <;>
          rcases (Table.mem_insert freshRun).mp isSecond with wasSecond | rfl
        · exact ordered.distinct first wasFirst second wasSecond sameOrder
        · exact absurd sameOrder (above first wasFirst).ne
        · exact absurd sameOrder.symm (above second wasSecond).ne
        · rfl
      · intro older isOlder newer isNewer sameThread earlier
        rcases (Table.mem_insert freshRun).mp isOlder with wasOlder | rfl <;>
          rcases (Table.mem_insert freshRun).mp isNewer with wasNewer | rfl
        · exact ordered.superseded older wasOlder newer wasNewer sameThread earlier
        · exact idle.ended ordered wasOlder sameThread
        · exact absurd earlier (above newer wasNewer).not_gt
        · exact absurd earlier (lt_irrefl _)

/-! ## Completions and answers -/

/-- Completed runs, completion events and answers correspond. -/
structure Answered (store : AssistantStore) : Prop where
  completed : ∀ event ∈ store.events, event.payload.isCompletion →
    ∃ run, store.runs.lookup event.runId = some run ∧ run.status = .completed
  once : ∀ first ∈ store.events, ∀ second ∈ store.events, first.payload.isCompletion →
    second.payload.isCompletion → first.runId = second.runId → first = second
  answered : ∀ event ∈ store.events, ∀ messageId, event.payload = .runCompleted messageId →
    ∃ message ∈ store.messages, message.id = messageId ∧ message.role = .assistant ∧
      message.runId = some event.runId
  bound : ∀ message ∈ store.messages, message.role = .assistant → ∃ event ∈ store.events,
    message.runId = some event.runId ∧ event.payload = .runCompleted message.id

theorem completed_ahead {before after : Table Run.id} (ahead : RunsAhead before after)
    (completed : ∃ run, before.lookup runId = some run ∧ run.status = .completed) :
    ∃ run, after.lookup runId = some run ∧ run.status = .completed := by
  obtain ⟨run, found, isCompleted⟩ := completed
  obtain ⟨later, isLater, further⟩ := ahead runId run found
  exact ⟨later, isLater, (further.final (by rw [isCompleted]; rfl)).trans isCompleted⟩

theorem Quiet.noAnswer (move : Quiet thrifty before after) :
    (∀ event, event.payload.isCompletion → (event ∈ after.events ↔ event ∈ before.events)) ∧
      (∀ message, message.role = .assistant →
        (message ∈ after.messages ↔ message ∈ before.messages)) := by
  cases move with
  | aside same =>
      have messages : after.messages = before.messages := congrArg (fun books => books.2.1) same
      have events : after.events = before.events := congrArg (fun books => books.2.2.1) same
      rw [messages, events]
      exact ⟨fun _ _ => Iff.rfl, fun _ _ => Iff.rfl⟩
  | logged runId payload quiet =>
      refine ⟨fun event isCompletion => ?_, fun _ _ => Iff.rfl⟩
      rw [AssistantStore.mem_appendRunEvent, or_iff_left]
      rintro rfl
      rw [quiet] at isCompletion
      cases isCompletion
  | changed => exact ⟨fun _ _ => Iff.rfl, fun _ _ => Iff.rfl⟩
  | queued run message freshRun freshMessage status order role =>
      refine ⟨fun _ _ => Iff.rfl, fun other isAnswer => ?_⟩
      refine (Table.mem_insert freshMessage).trans (or_iff_left ?_)
      rintro rfl
      rw [role] at isAnswer
      cases isAnswer

theorem quietRun_noAnswer (moves : ReflTransGen (Quiet thrifty) before after) :
    (∀ event, event.payload.isCompletion → (event ∈ after.events ↔ event ∈ before.events)) ∧
      (∀ message, message.role = .assistant →
        (message ∈ after.messages ↔ message ∈ before.messages)) := by
  induction moves with
  | refl => exact ⟨fun _ _ => Iff.rfl, fun _ _ => Iff.rfl⟩
  | tail _ move inductionHypothesis =>
      exact ⟨fun event completion =>
          (move.noAnswer.1 event completion).trans (inductionHypothesis.1 event completion),
        fun message answer =>
          (move.noAnswer.2 message answer).trans (inductionHypothesis.2 message answer)⟩

theorem Answered.quiet (answered : Answered before) (move : Quiet thrifty before after) :
    Answered after := by
  obtain ⟨events, messages⟩ := move.noAnswer
  have isCompletion : ∀ {event : RunEvent} {messageId : String},
      event.payload = .runCompleted messageId → event.payload.isCompletion := by
    intro event messageId isPayload
    rw [isPayload]
    rfl
  exact
    { completed := fun event isEvent completion => completed_ahead move.ahead
        (answered.completed event ((events event completion).mp isEvent) completion)
      once := fun first isFirst second isSecond one two => answered.once
        first ((events first one).mp isFirst) second ((events second two).mp isSecond) one two
      answered := fun event isEvent messageId isPayload => by
        obtain ⟨message, isMessage, facts⟩ := answered.answered event
          ((events event (isCompletion isPayload)).mp isEvent) messageId isPayload
        exact ⟨message, (messages message facts.2.1).mpr isMessage, facts⟩
      bound := fun message isMessage isAnswer => by
        obtain ⟨event, isEvent, inRun, isPayload⟩ :=
          answered.bound message ((messages message isAnswer).mp isMessage) isAnswer
        exact ⟨event, (events event (isCompletion isPayload)).mpr isEvent, inRun, isPayload⟩ }

theorem Completes.uncompleted (completes : Completes before args after run message change)
    (answered : Answered before) {event : RunEvent} (isEvent : event ∈ before.events)
    (isCompletion : event.payload.isCompletion) : event.runId ≠ args.runId := by
  intro sameRun
  obtain ⟨other, isOther, isCompleted⟩ := answered.completed event isEvent isCompletion
  rw [sameRun, completes.found, Option.some_inj] at isOther
  rw [← isOther, completes.running] at isCompleted
  cases isCompleted

theorem Answered.completes (answered : Answered before)
    (completes : Completes before args after run message change) : Answered after := by
  have isEvent : ∀ {event : RunEvent}, event ∈ after.events ↔ event ∈ before.events ∨
      event = ⟨args.runId, before.nextEventSeq args.runId, .runCompleted message.id⟩ := by
    intro event
    rw [completes.events, AssistantStore.mem_appendRunEvent]
  have isMessage : ∀ {other : Message}, other ∈ after.messages ↔
      other ∈ before.messages ∨ other = message := by
    intro other
    rw [completes.messages, Table.mem_insert completes.fresh]
  have ahead : RunsAhead before.runs after.runs := by
    rw [completes.runs]
    exact runsAhead_modify completes.found completes.ahead
  refine ⟨?_, ?_, ?_, ?_⟩
  · intro event member isCompletion
    rcases isEvent.mp member with member | rfl
    · exact completed_ahead ahead (answered.completed event member isCompletion)
    · refine ⟨change.apply run, ?_, completes.completed⟩
      rw [completes.runs, Table.lookup_modify_self, completes.found]
      rfl
  · intro first isFirst second isSecond one two sameRun
    rcases isEvent.mp isFirst with isFirst | rfl <;> rcases isEvent.mp isSecond with isSecond | rfl
    · exact answered.once first isFirst second isSecond one two sameRun
    · exact absurd sameRun (completes.uncompleted answered isFirst one)
    · exact absurd sameRun.symm (completes.uncompleted answered isSecond two)
    · rfl
  · intro event member messageId isPayload
    rcases isEvent.mp member with member | rfl
    · obtain ⟨other, isOther, facts⟩ := answered.answered event member messageId isPayload
      exact ⟨other, isMessage.mpr (Or.inl isOther), facts⟩
    · injection isPayload with sameId
      exact ⟨message, isMessage.mpr (Or.inr rfl), sameId, completes.answers⟩
  · intro other member isAnswer
    rcases isMessage.mp member with member | rfl
    · obtain ⟨event, present, facts⟩ := answered.bound other member isAnswer
      exact ⟨event, isEvent.mpr (Or.inl present), facts⟩
    · exact ⟨_, isEvent.mpr (Or.inr rfl), completes.answers.2, rfl⟩

/-! ## Every run of calls -/

/-- No run has been created yet. -/
structure Fresh (store : AssistantStore) : Prop where
  runs : store.runs.rows = []
  messages : store.messages.rows = []
  events : store.events.rows = []

/-- The invariant of every reachable store. -/
structure Sound (store : AssistantStore) : Prop where
  ordered : Ordered store
  answered : Answered store

theorem Fresh.sound (fresh : Fresh store) : Sound store := by
  have noRun : ∀ run, run ∉ store.runs := by
    intro run isRun
    rw [Table.mem_rows, fresh.runs] at isRun
    cases isRun
  have noMessage : ∀ message, message ∉ store.messages := by
    intro message isMessage
    rw [Table.mem_rows, fresh.messages] at isMessage
    cases isMessage
  have noEvent : ∀ event, event ∉ store.events := by
    intro event isEvent
    rw [Table.mem_rows, fresh.events] at isEvent
    cases isEvent
  exact
    { ordered :=
        { numbered := fun run isRun => absurd isRun (noRun run)
          distinct := fun run isRun => absurd isRun (noRun run)
          superseded := fun run isRun => absurd isRun (noRun run) }
      answered :=
        { completed := fun event isEvent => absurd isEvent (noEvent event)
          once := fun event isEvent => absurd isEvent (noEvent event)
          answered := fun event isEvent => absurd isEvent (noEvent event)
          bound := fun message isMessage => absurd isMessage (noMessage message) } }

theorem Sound.quietRun (sound : Sound before) (moves : ReflTransGen (Quiet thrifty) before after) :
    Sound after := by
  induction moves with
  | refl => exact sound
  | tail _ move inductionHypothesis =>
      exact ⟨inductionHypothesis.ordered.quiet move, inductionHypothesis.answered.quiet move⟩

theorem Sound.step (sound : Sound store) (call : Call) :
    Sound (stepRun store call) := by
  rcases stepRun_moves store call with quiet | completion
  · exact sound.quietRun quiet
  · obtain ⟨args, run, message, change, -, completes⟩ := completion
    exact ⟨sound.ordered.modify completes.found completes.root completes.ahead completes.runs
      completes.order, sound.answered.completes completes⟩

/-- Run lemma: every reachable store satisfies the invariant. -/
theorem sound_runFrom {start : AssistantStore} (fresh : Fresh start) (calls : List Call) :
    Sound (runFrom stepRun start calls) :=
  invariant_run (fun _ call sound => sound.step call) fresh.sound calls

/-! ## What the invariant says -/

/-- A thread has at most one active run, and none beside a latest run that can be resumed. -/
structure ThreadsSafe (store : AssistantStore) : Prop where
  oneActive : ∀ first ∈ store.runs, ∀ second ∈ store.runs, first.threadId = second.threadId →
    first.status.isActive → second.status.isActive → first = second
  stoppedLatest : ∀ threadId latest, store.latestRun threadId = some latest →
    latest.status.isStopped → ∀ run ∈ store.runs, run.threadId = threadId →
      run.status.isActive = false

theorem Ordered.threadsSafe (ordered : Ordered store) :
    ThreadsSafe store where
  oneActive := by
    have noneEarlier : ∀ one ∈ store.runs, ∀ two ∈ store.runs, one.threadId = two.threadId →
        one.status.isActive → ¬ one.insertionSeq < two.insertionSeq := by
      intro one isOne two isTwo sameThread active earlier
      have ended := ordered.superseded one isOne two isTwo sameThread earlier
      rw [(isFinal_iff.mp ended).1] at active
      cases active
    intro first isFirst second isSecond sameThread one two
    refine ordered.distinct first isFirst second isSecond (le_antisymm ?_ ?_)
    · exact not_lt.mp (noneEarlier second isSecond first isFirst sameThread.symm two)
    · exact not_lt.mp (noneEarlier first isFirst second isSecond sameThread one)
  stoppedLatest := by
    intro threadId latest newest stopped run isRun inThread
    obtain ⟨isLatest, ofThread, highest⟩ := latestRun_spec newest
    rcases (highest run isRun inThread).lt_or_eq with earlier | same
    · exact (isFinal_iff.mp (ordered.superseded run isRun latest isLatest
        (inThread.trans ofThread.symm) earlier)).1
    · rw [ordered.distinct run isRun latest isLatest same]
      cases status : latest.status <;> simp_all [RunStatus.isStopped, RunStatus.isActive]

/-- A run has at most one completion, and the completion names its one answer. -/
structure AnswersSafe (store : AssistantStore) : Prop where
  oneCompletion : ∀ first ∈ store.events, ∀ second ∈ store.events, first.payload.isCompletion →
    second.payload.isCompletion → first.runId = second.runId → first = second
  oneAnswer : ∀ event ∈ store.events, ∀ messageId, event.payload = .runCompleted messageId →
    ∃ answer ∈ store.messages, answer.id = messageId ∧ answer.role = .assistant ∧
      answer.runId = some event.runId ∧ ∀ other ∈ store.messages, other.role = .assistant →
        other.runId = some event.runId → other = answer

theorem Answered.answersSafe (answered : Answered store) :
    AnswersSafe store where
  oneCompletion := answered.once
  oneAnswer := by
    intro event isEvent messageId isPayload
    obtain ⟨answer, isAnswer, sameId, role, inRun⟩ :=
      answered.answered event isEvent messageId isPayload
    refine ⟨answer, isAnswer, sameId, role, inRun, ?_⟩
    intro other isOther otherRole otherRun
    obtain ⟨completion, isCompletion, ofRun, names⟩ := answered.bound other isOther otherRole
    have sameRun : completion.runId = event.runId :=
      Option.some_inj.mp (ofRun.symm.trans otherRun)
    obtain rfl := answered.once completion isCompletion event isEvent (by rw [names]; rfl)
      (by rw [isPayload]; rfl) sameRun
    rw [isPayload] at names
    injection names with names
    exact Table.eq_of_key isOther isAnswer (names.symm.trans sameId.symm)

/-- Only `try_complete_run` with the run's current epoch completes a run or answers for it. -/
structure OnlyCompletionAnswers (store : AssistantStore) (call : Call) : Prop where
  events : ∀ event ∈ (stepRun store call).events, event ∉ store.events →
    event.payload.isCompletion → ∃ args run, call.action = .tryCompleteRun args ∧
      args.runId = event.runId ∧ store.runs.lookup event.runId = some run ∧
      args.epoch = some run.runEpoch
  messages : ∀ message ∈ (stepRun store call).messages, message ∉ store.messages →
    message.role = .assistant → ∃ args run, call.action = .tryCompleteRun args ∧
      message.runId = some args.runId ∧ store.runs.lookup args.runId = some run ∧
      args.epoch = some run.runEpoch

theorem stepRun_onlyCompletionAnswers (store : AssistantStore) (call : Call) :
    OnlyCompletionAnswers store call := by
  rcases stepRun_moves store call with quiet | completion
  · have noAnswer := quietRun_noAnswer quiet
    exact
      { events := fun event isEvent isNew completion =>
          absurd ((noAnswer.1 event completion).mp isEvent) isNew
        messages := fun message isMessage isNew answer =>
          absurd ((noAnswer.2 message answer).mp isMessage) isNew }
  · obtain ⟨args, run, message, change, isCall, completes⟩ := completion
    refine ⟨fun event isEvent isNew _ => ?_, fun other isOther isNew _ => ?_⟩
    · rw [completes.events, AssistantStore.mem_appendRunEvent] at isEvent
      obtain rfl := isEvent.resolve_left isNew
      exact ⟨args, run, isCall, rfl, completes.found, completes.current⟩
    · rw [completes.messages, Table.mem_insert completes.fresh] at isOther
      obtain rfl := isOther.resolve_left isNew
      exact ⟨args, run, isCall, completes.answers.2, completes.found, completes.current⟩

/-! ## Cancellation, resumption and stale epochs -/

theorem cancelRun_raises (committed : cancelRun now store context runId = .ok (after, result))
    (found : store.runs.lookup runId = some run) (open_ : run.status.isFinal = false) :
    ∃ later, after.runs.lookup runId = some later ∧ later.status = .cancelled ∧
      later.runEpoch = run.runEpoch + 1 := by
  unfold cancelRun cancelRunRow at committed
  split at committed
  · cases committed
  rename_i isRow
  cases committed
  split at isRow
  · cases isRow
  rename_i locked isLocked
  obtain rfl : locked = run :=
    Option.some_inj.mp ((lookup_of_lockThreadRun isLocked).symm.trans found)
  split at isRow
  · cases isRow
    rw [AssistantStore.runs_appendRunEvent, AssistantStore.runs_changeRun,
      Table.lookup_modify_self, found]
    exact ⟨_, rfl, rfl, rfl⟩
  · rename_i ended
    cases status : locked.status <;>
      simp_all [RunStatus.isFinal, RunStatus.isActive, RunStatus.isStopped]

theorem resumeRun_raises (committed : resumeRun now store context runId = .ok (after, result))
    (found : store.runs.lookup runId = some run) :
    ∃ later, after.runs.lookup runId = some later ∧ later.status = .queued ∧
      later.runEpoch = run.runEpoch + 1 := by
  unfold resumeRun at committed
  split at committed
  · cases committed
  rename_i locked isLocked
  obtain rfl : locked = run :=
    Option.some_inj.mp ((lookup_of_lockThreadRun isLocked).symm.trans found)
  simp only at committed
  repeat' split at committed
  all_goals cases committed
  rw [AssistantStore.runs_appendRunEvent, AssistantStore.runs_changeRun, Table.lookup_modify_self,
    found]
  exact ⟨_, rfl, rfl, rfl⟩

/-- The call speaks for an execution of a run, in an epoch. -/
def CarriesEpoch (runId : String) (epoch : Int) : RunAction → Prop
  | .pauseRun report | .failRun report =>
      report.runId = runId ∧
        (report.epoch = some epoch ∨ ∃ executed, report.execution = some (executed, epoch))
  | .tryCompleteRun args => args.runId = runId ∧ args.epoch = some epoch
  | .initializeExecutionBudget target carried _ _ => target = runId ∧ carried = some epoch
  | _ => False

theorem stepRun_of_stale {call : Call} {epoch : Int}
    (carries : CarriesEpoch runId epoch call.action) (found : store.runs.lookup runId = some run)
    (stale : epoch < run.runEpoch) :
    stepRun store call = store := by
  obtain ⟨context, around, action⟩ := call
  -- a guard that lets the call pass has compared the epochs
  have fenced : ∀ {locked : Run}, guardRunCompletion around.now store context runId (some epoch) =
      .ok locked → False := by
    intro locked passed
    obtain ⟨isLocked, -, current⟩ := guardRunCompletion_ok passed
    rw [found, Option.some_inj] at isLocked
    rw [Option.some_inj, ← isLocked] at current
    exact stale.ne current
  have unheard : ∀ {report : Diagnostic} {locked : Run}, report.runId = runId →
      (report.epoch = some epoch ∨ ∃ executed, report.execution = some (executed, epoch)) →
      lockExecutionDiagnostic store context report = .ok (some locked) → False := by
    intro report locked sameRun carried isLocked
    obtain ⟨isFound, -, byEpoch, byExecution⟩ := lockExecutionDiagnostic_some isLocked
    rw [sameRun, found, Option.some_inj] at isFound
    subst isFound
    rcases carried with isEpoch | ⟨executed, isExecution⟩
    · exact stale.ne (byEpoch epoch isEpoch)
    · exact stale.ne (byExecution _ isExecution)
  cases action with
  | pauseRun report =>
      simp only [stepRun, pauseRun]
      split
      · rfl
      · rfl
      · rename_i isLocked
        exact absurd isLocked (fun locked => unheard carries.1 carries.2 locked)
  | failRun report =>
      simp only [stepRun, failRun]
      split
      · rfl
      · rfl
      · rename_i isLocked
        exact absurd isLocked (fun locked => unheard carries.1 carries.2 locked)
  | tryCompleteRun args =>
      obtain ⟨rfl, carried⟩ := carries
      simp only [stepRun, tryCompleteRun, carried]
      split
      · rfl
      · split
        · rfl
        · rfl
        · rename_i passed
          exact absurd passed (fun guard => fenced guard)
  | initializeExecutionBudget target carried modelLimit toolLimit =>
      obtain ⟨rfl, rfl⟩ := carries
      simp only [stepRun, initializeExecutionBudget]
      split
      · rfl
      · rename_i passed
        exact absurd passed (fun guard => fenced guard)
  | _ => exact carries.elim

/-! ## The life cycle is safe -/

/-- In every store reached from one without runs, by any calls in any order: threads have at most
one active run; a run's later states are ahead of it, its epoch rising with every cancellation and
resumption and its end being final; it has at most one completion, with one answer, which only a
completion in its current epoch writes; and a call in an older epoch changes nothing. -/
theorem run_lifecycle_safe (start : AssistantStore) (fresh : Fresh start) (calls : List Call) :
    ThreadsSafe (runFrom stepRun start calls) ∧
      AnswersSafe (runFrom stepRun start calls) ∧
      (∀ more runId run, (runFrom stepRun start calls).runs.lookup runId = some run →
        ∃ later, (runFrom stepRun start (calls ++ more)).runs.lookup runId = some later ∧
          RunAhead run later) ∧
      (∀ call, OnlyCompletionAnswers (runFrom stepRun start calls) call) ∧
      (∀ now context runId after result run,
        (runFrom stepRun start calls).runs.lookup runId = some run →
        (cancelRun now (runFrom stepRun start calls) context runId = .ok (after, result) →
          run.status.isFinal = false → ∃ later, after.runs.lookup runId = some later ∧
            later.status = .cancelled ∧ later.runEpoch = run.runEpoch + 1) ∧
        (resumeRun now (runFrom stepRun start calls) context runId = .ok (after, result) →
          ∃ later, after.runs.lookup runId = some later ∧
            later.status = .queued ∧ later.runEpoch = run.runEpoch + 1)) ∧
      (∀ call runId epoch run, CarriesEpoch runId epoch call.action →
        (runFrom stepRun start calls).runs.lookup runId = some run → epoch < run.runEpoch →
          stepRun (runFrom stepRun start calls) call = runFrom stepRun start calls) := by
  have sound := sound_runFrom fresh calls
  refine ⟨sound.ordered.threadsSafe, sound.answered.answersSafe, ?_,
    stepRun_onlyCompletionAnswers _, ?_, ?_⟩
  · intro more runId run found
    rw [runFrom_append]
    exact runFrom_ahead _ more runId run found
  · intro now context runId after result run found
    exact ⟨fun committed open_ => cancelRun_raises committed found open_,
      fun committed => resumeRun_raises committed found⟩
  · intro call runId epoch run carries found stale
    exact stepRun_of_stale carries found stale

/-! ### One thread -/

/-- A space with one thread, before its first run. -/
def emptyThreadStore : AssistantStore where
  workspaces := ["ws"]
  spaces := (Table.empty Space.id).insert
    ⟨1, ⟨"ws", "me"⟩, "space", "", [], [], true, .onDemand, 1, true⟩
  threads := (Table.empty Thread.id).insert ⟨"athr_1", ⟨"ws", "me"⟩, 1, "", 0, 0⟩
  runs := Table.empty Run.id
  messages := Table.empty Message.id
  events := Table.empty RunEvent.key
  insertionHighwater := 0

/-- A call of the thread's owner while nothing else happens. -/
def callNow (action : RunAction) : Call :=
  ⟨⟨"ws", "me"⟩, ⟨0, 0, none, 0, fun _ => none, fun _ => none⟩, action⟩

/-- Ask a question in the thread. -/
def ask (number : Nat) : RunAction :=
  .createRun ⟨"athr_1", "question", s!"request_{number}", none, false, s!"{number}", s!"q{number}"⟩

/-- Complete a run in an epoch. -/
def answer (number : Nat) (epoch : Int) : Completion :=
  ⟨s!"arun_{number}", some epoch, "answer", ∅, 1, 0, [], none, none, "model", s!"a{number}"⟩

/-- Two questions, the first answered, the second cancelled. -/
theorem run_lifecycle_safe_twoQuestions :
    ThreadsSafe (runFrom stepRun emptyThreadStore ([ask 1, .claimNextRun none fun _ => false,
        .tryCompleteRun (answer 1 1), ask 2, .cancelRun "arun_2"].map callNow)) ∧
      AnswersSafe (runFrom stepRun emptyThreadStore ([ask 1, .claimNextRun none fun _ => false,
        .tryCompleteRun (answer 1 1), ask 2, .cancelRun "arun_2"].map callNow)) :=
  have safe := run_lifecycle_safe emptyThreadStore ⟨rfl, rfl, rfl⟩ ([ask 1,
    .claimNextRun none fun _ => false, .tryCompleteRun (answer 1 1), ask 2,
    .cancelRun "arun_2"].map callNow)
  ⟨safe.1, safe.2.1⟩

end Shiliu.Assistant
