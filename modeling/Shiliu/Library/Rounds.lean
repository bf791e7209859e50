/-
Module: Shiliu.Library.Rounds
Purpose: Work that waits for other work. A pass tries every waiting job once, in order; a job that
  is blocked stays for the next pass, and passes are made until nothing waits or a pass gets
  nowhere. What the attempts keep, the passes keep, also when one of them fails. The passes end
  well when in every state something that waits can be done, and they never do when some jobs
  block each other.
Trusted boundary: none
Main exports: onePass, rounds, exists_first, rounds_done, rounds_complete, rounds_stuck
-/
import Mathlib.Data.List.Basic
import Mathlib.Data.List.Sublists
import Mathlib.Data.Set.Finite.Basic
import Mathlib.Order.WellFounded

set_option linter.all false

namespace Shiliu.Library

variable {State Job Failure : Type*}

/-- One pass over the waiting jobs: the state it leaves and the jobs that were blocked. -/
def onePass (attempt : State → Job → Except Failure (Option State)) :
    State → List Job → State × Except Failure (List Job)
  | state, [] => (state, .ok [])
  | state, job :: rest =>
      match attempt state job with
      | .error failure => (state, .error failure)
      | .ok none =>
          let (after, left) := onePass attempt state rest
          (after, left.map (job :: ·))
      | .ok (some next) => onePass attempt next rest

/-- Passes until nothing waits. A pass that gets nowhere is the failure `stuck`. -/
def rounds (attempt : State → Job → Except Failure (Option State)) (stuck : Failure) :
    (fuel : Nat) → State → List Job → State × Except Failure Unit
  | _, state, [] => (state, .ok ())
  | 0, state, _ :: _ => (state, .error stuck)
  | fuel + 1, state, job :: rest =>
      match onePass attempt state (job :: rest) with
      | (after, .error failure) => (after, .error failure)
      | (after, .ok left) =>
          if left.length = (job :: rest).length then (after, .error stuck)
          else rounds attempt stuck fuel after left

/-- Among some jobs that do not wait for each other in a circle, one waits for none of them. -/
theorem exists_first {waits : Job → Job → Prop}
    (acyclic : ∀ job, ¬ Relation.TransGen waits job job) {jobs : List Job} (filled : jobs ≠ []) :
    ∃ job ∈ jobs, ∀ other ∈ jobs, ¬ waits job other := by
  let before : {job // job ∈ jobs} → {job // job ∈ jobs} → Prop :=
    fun first second => Relation.TransGen waits second.1 first.1
  have transitive : IsTrans _ before := ⟨fun _ _ _ one two => two.trans one⟩
  have irreflexive : Std.Irrefl before := ⟨fun job circle => acyclic job.1 circle⟩
  have finite : Finite {job // job ∈ jobs} := (List.finite_toSet jobs).to_subtype
  have founded : WellFounded before := Finite.wellFounded_of_trans_of_irrefl before
  obtain ⟨head, isHead⟩ := List.exists_mem_of_ne_nil jobs filled
  obtain ⟨first, _, isFirst⟩ := founded.has_min Set.univ ⟨⟨head, isHead⟩, trivial⟩
  refine ⟨first.1, first.2, ?_⟩
  intro other isOther waits
  exact isFirst ⟨other, isOther⟩ trivial (Relation.TransGen.single waits)

section Rounds

variable {attempt : State → Job → Except Failure (Option State)} {stuck : Failure}

/-! ## One pass -/

theorem pass_error {state : State} {job : Job} {rest : List Job} {failure : Failure}
    (failed : attempt state job = .error failure) :
    onePass attempt state (job :: rest) = (state, .error failure) := by
  rw [onePass, failed]

theorem pass_blocked {state : State} {job : Job} {rest : List Job}
    (blocked : attempt state job = .ok none) :
    onePass attempt state (job :: rest) =
      ((onePass attempt state rest).1, (onePass attempt state rest).2.map (job :: ·)) := by
  rw [onePass, blocked]

theorem pass_done {state next : State} {job : Job} {rest : List Job}
    (done : attempt state job = .ok (some next)) :
    onePass attempt state (job :: rest) = onePass attempt next rest := by
  rw [onePass, done]

theorem pass_keeps (Keeps : State → Prop) {jobs : List Job}
    (kept : ∀ state job next, job ∈ jobs → Keeps state → attempt state job = .ok (some next) →
      Keeps next) {state : State} (holds : Keeps state) : Keeps (onePass attempt state jobs).1 := by
  induction jobs generalizing state with
  | nil => exact holds
  | cons job rest inductionHypothesis =>
      have keptRest : ∀ state other next, other ∈ rest → Keeps state →
          attempt state other = .ok (some next) → Keeps next := by
        intro state other next isOther
        exact kept state other next (List.mem_cons_of_mem job isOther)
      rcases tried : attempt state job with failure | _ | next
      · rw [pass_error tried]
        exact holds
      · rw [pass_blocked tried]
        exact inductionHypothesis keptRest holds
      · rw [pass_done tried]
        exact inductionHypothesis keptRest (kept state job next List.mem_cons_self holds tried)

theorem pass_sublist {jobs left : List Job} {state : State}
    (passed : (onePass attempt state jobs).2 = .ok left) : left.Sublist jobs := by
  induction jobs generalizing state left with
  | nil =>
      cases passed
      exact List.Sublist.refl []
  | cons job rest inductionHypothesis =>
      rcases tried : attempt state job with failure | _ | next
      · rw [pass_error tried] at passed
        cases passed
      · rw [pass_blocked tried] at passed
        cases isRest : (onePass attempt state rest).2 with
        | error failure =>
            rw [isRest] at passed
            cases passed
        | ok others =>
            rw [isRest] at passed
            cases passed
            exact (inductionHypothesis isRest).cons_cons job
      · rw [pass_done tried] at passed
        exact (inductionHypothesis passed).cons job

theorem pass_does {Done : State → Job → Prop}
    (does : ∀ state job next, attempt state job = .ok (some next) → Done next job)
    (stays : ∀ state job next other, attempt state job = .ok (some next) → Done state other →
      Done next other) {jobs left : List Job} {state : State}
    (passed : (onePass attempt state jobs).2 = .ok left) :
    ∀ job ∈ jobs, job ∈ left ∨ Done (onePass attempt state jobs).1 job := by
  induction jobs generalizing state left with
  | nil =>
      intro job absurdity
      cases absurdity
  | cons first rest inductionHypothesis =>
      intro job isJob
      rcases tried : attempt state first with failure | _ | next
      · rw [pass_error tried] at passed
        cases passed
      · rw [pass_blocked tried] at passed ⊢
        cases isRest : (onePass attempt state rest).2 with
        | error failure =>
            rw [isRest] at passed
            cases passed
        | ok others =>
            rw [isRest] at passed
            cases passed
            rcases List.mem_cons.mp isJob with rfl | isJob
            · exact .inl List.mem_cons_self
            · exact (inductionHypothesis isRest job isJob).imp_left
                (List.mem_cons_of_mem first)
      · rw [pass_done tried] at passed ⊢
        rcases List.mem_cons.mp isJob with rfl | isJob
        · have isDone := does state job next tried
          have kept : Done (onePass attempt next rest).1 job :=
            pass_keeps (fun state => Done state job)
              (fun state other after _ holds done => stays state other after job done holds) isDone
          exact .inr kept
        · exact inductionHypothesis passed job isJob

/-- Different jobs that wait still wait after a pass that leaves them, when doing a job lets the
others wait. -/
theorem pass_waits {Waits : State → Job → Prop} {jobs left : List Job}
    (waits : ∀ state job next other, job ∈ jobs → other ∈ jobs →
      attempt state job = .ok (some next) → other ≠ job → Waits state other → Waits next other)
    (different : jobs.Nodup)
    {state : State} (waiting : ∀ job ∈ jobs, Waits state job)
    (passed : (onePass attempt state jobs).2 = .ok left) :
    ∀ job ∈ left, Waits (onePass attempt state jobs).1 job := by
  induction jobs generalizing state left with
  | nil =>
      cases passed
      exact waiting
  | cons first rest inductionHypothesis =>
      obtain ⟨fresh, different⟩ := List.nodup_cons.mp different
      have waitsRest : ∀ state job next other, job ∈ rest → other ∈ rest →
          attempt state job = .ok (some next) → other ≠ job → Waits state other →
          Waits next other := fun state job next other isJob isOther => waits state job next other
        (List.mem_cons_of_mem first isJob) (List.mem_cons_of_mem first isOther)
      rcases tried : attempt state first with failure | _ | next
      · rw [pass_error tried] at passed
        cases passed
      · rw [pass_blocked tried] at passed ⊢
        cases isRest : (onePass attempt state rest).2 with
        | error failure =>
            rw [isRest] at passed
            cases passed
        | ok others =>
            rw [isRest] at passed
            cases passed
            intro job isJob
            rcases List.mem_cons.mp isJob with rfl | isJob
            · apply pass_keeps (fun state => Waits state job)
              · intro state other next isOther holds done
                exact waits state other next job (List.mem_cons_of_mem job isOther)
                  List.mem_cons_self done (fun same => fresh (same ▸ isOther)) holds
              · exact waiting job List.mem_cons_self
            · exact inductionHypothesis waitsRest different
                (fun job isJob => waiting job (List.mem_cons_of_mem first isJob)) isRest job isJob
      · rw [pass_done tried] at passed ⊢
        apply inductionHypothesis waitsRest different ?_ passed
        intro job isJob
        exact waits state first next job List.mem_cons_self (List.mem_cons_of_mem first isJob) tried
          (fun same => fresh (same ▸ isJob)) (waiting job (List.mem_cons_of_mem first isJob))

theorem pass_progress {Keeps : State → Prop} {Waits : State → Job → Prop} {jobs : List Job}
    (kept : ∀ state job next, job ∈ jobs → Keeps state → attempt state job = .ok (some next) →
      Keeps next)
    (waits : ∀ state job next other, job ∈ jobs → other ∈ jobs →
      attempt state job = .ok (some next) → other ≠ job → Waits state other → Waits next other)
    (sound : ∀ state job failure, job ∈ jobs → Keeps state → Waits state job →
      attempt state job ≠ .error failure)
    (different : jobs.Nodup) {state : State} (holds : Keeps state)
    (waiting : ∀ job ∈ jobs, Waits state job) :
    ∃ left, (onePass attempt state jobs).2 = .ok left ∧
      ((∃ job ∈ jobs, attempt state job ≠ .ok none) → left.length < jobs.length) := by
  induction jobs generalizing state with
  | nil =>
      refine ⟨[], rfl, ?_⟩
      rintro ⟨job, absurdity, _⟩
      cases absurdity
  | cons first rest inductionHypothesis =>
      obtain ⟨fresh, different⟩ := List.nodup_cons.mp different
      have keptRest : ∀ state job next, job ∈ rest → Keeps state →
          attempt state job = .ok (some next) → Keeps next := fun state job next isJob =>
        kept state job next (List.mem_cons_of_mem first isJob)
      have waitsRest : ∀ state job next other, job ∈ rest → other ∈ rest →
          attempt state job = .ok (some next) → other ≠ job → Waits state other →
          Waits next other := fun state job next other isJob isOther => waits state job next other
        (List.mem_cons_of_mem first isJob) (List.mem_cons_of_mem first isOther)
      have soundRest : ∀ state job failure, job ∈ rest → Keeps state → Waits state job →
          attempt state job ≠ .error failure := fun state job failure isJob =>
        sound state job failure (List.mem_cons_of_mem first isJob)
      have waitingRest : ∀ job ∈ rest, Waits state job := fun job isJob =>
        waiting job (List.mem_cons_of_mem first isJob)
      rcases tried : attempt state first with failure | _ | next
      · exact absurd tried
          (sound state first failure List.mem_cons_self holds (waiting first List.mem_cons_self))
      · obtain ⟨left, isLeft, progress⟩ :=
          inductionHypothesis keptRest waitsRest soundRest different holds waitingRest
        refine ⟨first :: left, ?_, ?_⟩
        · rw [pass_blocked tried, isLeft]
          rfl
        · rintro ⟨job, isJob, isReady⟩
          rcases List.mem_cons.mp isJob with rfl | isJob
          · exact absurd tried isReady
          · exact Nat.succ_lt_succ (progress ⟨job, isJob, isReady⟩)
      · have stillWaiting : ∀ job ∈ rest, Waits next job := fun job isJob =>
          waits state first next job List.mem_cons_self (List.mem_cons_of_mem first isJob) tried
            (fun same => fresh (same ▸ isJob)) (waitingRest job isJob)
        obtain ⟨left, isLeft, _⟩ := inductionHypothesis keptRest waitsRest soundRest different
          (kept state first next List.mem_cons_self holds tried) stillWaiting
        refine ⟨left, ?_, ?_⟩
        · rw [pass_done tried, isLeft]
        · intro _
          exact Nat.lt_succ_of_le (pass_sublist isLeft).length_le

theorem pass_stuck {Keeps : State → Prop} {jobs left : List Job}
    (kept : ∀ state job next, job ∈ jobs → Keeps state → attempt state job = .ok (some next) →
      Keeps next) {job : Job}
    (never : ∀ state next, Keeps state → attempt state job ≠ .ok (some next)) {state : State}
    (holds : Keeps state) (isJob : job ∈ jobs) (passed : (onePass attempt state jobs).2 = .ok left) :
    job ∈ left := by
  induction jobs generalizing state left with
  | nil => cases isJob
  | cons first rest inductionHypothesis =>
      have keptRest : ∀ state job next, job ∈ rest → Keeps state →
          attempt state job = .ok (some next) → Keeps next := fun state job next isJob =>
        kept state job next (List.mem_cons_of_mem first isJob)
      rcases tried : attempt state first with failure | _ | next
      · rw [pass_error tried] at passed
        cases passed
      · rw [pass_blocked tried] at passed
        cases isRest : (onePass attempt state rest).2 with
        | error failure =>
            rw [isRest] at passed
            cases passed
        | ok others =>
            rw [isRest] at passed
            cases passed
            rcases List.mem_cons.mp isJob with rfl | isJob
            · exact List.mem_cons_self
            · exact List.mem_cons_of_mem first (inductionHypothesis keptRest holds isJob isRest)
      · rw [pass_done tried] at passed
        rcases List.mem_cons.mp isJob with rfl | isJob
        · exact absurd tried (never state next holds)
        · exact inductionHypothesis keptRest
            (kept state first next List.mem_cons_self holds tried) isJob passed

/-! ## All passes -/

theorem rounds_step (fuel : Nat) (state : State) (job : Job) (rest : List Job) :
    rounds attempt stuck (fuel + 1) state (job :: rest) =
      match onePass attempt state (job :: rest) with
      | (after, .error failure) => (after, .error failure)
      | (after, .ok left) =>
          if left.length = (job :: rest).length then (after, .error stuck)
          else rounds attempt stuck fuel after left := rfl

/-- What every attempt keeps, the passes keep, also when they fail. -/
theorem rounds_keeps (Keeps : State → Prop) {jobs : List Job}
    (kept : ∀ state job next, job ∈ jobs → Keeps state → attempt state job = .ok (some next) →
      Keeps next) (fuel : Nat) {state : State} (holds : Keeps state) :
    Keeps (rounds attempt stuck fuel state jobs).1 := by
  induction fuel generalizing state jobs with
  | zero =>
      cases jobs with
      | nil => exact holds
      | cons job rest => exact holds
  | succ fuel inductionHypothesis =>
      cases jobs with
      | nil => exact holds
      | cons job rest =>
          have passed := pass_keeps Keeps kept holds
          rcases isPass : onePass attempt state (job :: rest) with ⟨after, failure | left⟩
          · rw [rounds_step, isPass]
            rw [isPass] at passed
            exact passed
          · rw [isPass] at passed
            have isLeft : (onePass attempt state (job :: rest)).2 = .ok left := by rw [isPass]
            have among := pass_sublist isLeft
            rw [rounds_step, isPass]
            simp only
            split
            · exact passed
            · apply inductionHypothesis ?_ passed
              intro state other next isOther
              exact kept state other next (among.subset isOther)

/-- Passes that end well have done every job, when what is done stays done. -/
theorem rounds_done (Done : State → Job → Prop)
    (does : ∀ state job next, attempt state job = .ok (some next) → Done next job)
    (stays : ∀ state job next other, attempt state job = .ok (some next) → Done state other →
      Done next other) (fuel : Nat) {jobs : List Job} {state : State}
    (ended : (rounds attempt stuck fuel state jobs).2 = .ok ()) :
    ∀ job ∈ jobs, Done (rounds attempt stuck fuel state jobs).1 job := by
  induction fuel generalizing state jobs with
  | zero =>
      cases jobs with
      | nil =>
          intro job absurdity
          cases absurdity
      | cons job rest => cases ended
  | succ fuel inductionHypothesis =>
      cases jobs with
      | nil =>
          intro job absurdity
          cases absurdity
      | cons first rest =>
          rcases isPass : onePass attempt state (first :: rest) with ⟨after, failure | left⟩
          · rw [rounds_step, isPass] at ended
            cases ended
          · have passed : (onePass attempt state (first :: rest)).2 = .ok left := by rw [isPass]
            have done := pass_does does stays passed
            rw [isPass] at done
            rw [rounds_step, isPass] at ended ⊢
            simp only at ended ⊢
            split at ended
            · cases ended
            · rename_i shorter
              rw [if_neg shorter]
              intro job isJob
              rcases done job isJob with isLeft | isDone
              · exact inductionHypothesis ended job isLeft
              · exact rounds_keeps (fun state => Done state job)
                  (fun state other next _ holds tried => stays state other next job tried holds)
                  fuel isDone

/-- The passes end well when no waiting job fails and in every state in which jobs wait, and all
others are done, one of them is ready. -/
theorem rounds_complete (Keeps : State → Prop) (Waits Done : State → Job → Prop) {all : List Job}
    (kept : ∀ state job next, job ∈ all → Keeps state → attempt state job = .ok (some next) →
      Keeps next)
    (waits : ∀ state job next other, job ∈ all → other ∈ all →
      attempt state job = .ok (some next) → other ≠ job → Waits state other → Waits next other)
    (sound : ∀ state job failure, job ∈ all → Keeps state → Waits state job →
      attempt state job ≠ .error failure)
    (does : ∀ state job next, attempt state job = .ok (some next) → Done next job)
    (stays : ∀ state job next other, attempt state job = .ok (some next) → Done state other →
      Done next other)
    (progress : ∀ state left, Keeps state → left.Sublist all → left ≠ [] →
      (∀ job ∈ all, job ∈ left ∨ Done state job) → ∃ job ∈ left, attempt state job ≠ .ok none)
    (different : all.Nodup) (fuel : Nat) {jobs : List Job} {state : State}
    (enough : jobs.length ≤ fuel) (among : jobs.Sublist all)
    (others : ∀ job ∈ all, job ∈ jobs ∨ Done state job) (holds : Keeps state)
    (waiting : ∀ job ∈ jobs, Waits state job) :
    (rounds attempt stuck fuel state jobs).2 = .ok () := by
  induction fuel generalizing state jobs with
  | zero =>
      rw [List.eq_nil_of_length_eq_zero (Nat.le_zero.mp enough)]
      rfl
  | succ fuel inductionHypothesis =>
      cases jobs with
      | nil => rfl
      | cons first rest =>
          have keptHere : ∀ state job next, job ∈ first :: rest → Keeps state →
              attempt state job = .ok (some next) → Keeps next := fun state job next isJob =>
            kept state job next (among.subset isJob)
          have waitsHere : ∀ state job next other, job ∈ first :: rest → other ∈ first :: rest →
              attempt state job = .ok (some next) → other ≠ job → Waits state other →
              Waits next other := fun state job next other isJob isOther =>
            waits state job next other (among.subset isJob) (among.subset isOther)
          have differentHere := different.sublist among
          obtain ⟨left, isLeft, shorter⟩ := pass_progress keptHere waitsHere
            (fun state job failure isJob => sound state job failure (among.subset isJob))
            differentHere holds waiting
          have shorter := shorter
            (progress state (first :: rest) holds among (List.cons_ne_nil first rest) others)
          have passed := pass_keeps Keeps keptHere holds
          have done := pass_does does stays isLeft
          have stillWaiting := pass_waits waitsHere differentHere waiting isLeft
          have inside := pass_sublist isLeft
          have accounted : ∀ job ∈ all,
              job ∈ left ∨ Done (onePass attempt state (first :: rest)).1 job := by
            intro job isJob
            rcases others job isJob with isWaiting | isDone
            · exact done job isWaiting
            · exact .inr (pass_keeps (fun state => Done state job)
                (fun state other next _ holds tried => stays state other next job tried holds)
                isDone)
          rcases isPass : onePass attempt state (first :: rest) with ⟨after, failure | others⟩
          · rw [isPass] at isLeft
            cases isLeft
          · rw [isPass] at isLeft passed accounted stillWaiting
            cases isLeft
            rw [rounds_step, isPass]
            simp only
            rw [if_neg (Nat.ne_of_lt shorter)]
            apply inductionHypothesis ?_ (inside.trans among) accounted passed stillWaiting
            rw [List.length_cons] at shorter enough
            omega

/-- The passes do not end well when one of the jobs is never done. -/
theorem rounds_stuck (Keeps : State → Prop) {jobs : List Job}
    (kept : ∀ state job next, job ∈ jobs → Keeps state → attempt state job = .ok (some next) →
      Keeps next) {job : Job}
    (never : ∀ state next, Keeps state → attempt state job ≠ .ok (some next)) (fuel : Nat)
    {state : State} (holds : Keeps state) (isJob : job ∈ jobs) :
    (rounds attempt stuck fuel state jobs).2 ≠ .ok () := by
  induction fuel generalizing state jobs with
  | zero =>
      cases jobs with
      | nil => cases isJob
      | cons first rest =>
          intro ended
          cases ended
  | succ fuel inductionHypothesis =>
      cases jobs with
      | nil => cases isJob
      | cons first rest =>
          intro ended
          have passed := pass_keeps Keeps kept holds
          rcases isPass : onePass attempt state (first :: rest) with ⟨after, failure | left⟩
          · rw [rounds_step, isPass] at ended
            cases ended
          · have isLeft : (onePass attempt state (first :: rest)).2 = .ok left := by rw [isPass]
            rw [isPass] at passed
            rw [rounds_step, isPass] at ended
            simp only at ended
            split at ended
            · cases ended
            · exact inductionHypothesis
                (fun state other next isOther =>
                  kept state other next ((pass_sublist isLeft).subset isOther))
                passed (pass_stuck kept never holds isJob isLeft) ended

end Rounds

end Shiliu.Library
