/-
Module: Shiliu.Retrieval.ChunkRuns
Purpose: What the chunker makes of the usable segments, by position: each pass of the outer loop cuts
  one run of consecutive segments. The runs cover all segments and start further and further on. A
  run that the overlap has moved back may end where the one before ends, and the first segment of a
  run is never held against the duration bound.
Trusted boundary: none
Main exports: ChunkRun, chunkRuns, ChunkOf, RunsSound, Steady, buildRawSubtitleChunks_sound_iff
-/
import Mathlib.Data.List.Chain
import Mathlib.Logic.Relation
import Shiliu.Library.Slices
import Shiliu.Retrieval.Chunking

set_option linter.all false

namespace Shiliu.Retrieval

open Shiliu.Library Shiliu.Storage
open Relation (ReflTransGen)

variable {Time : Type}

/-! ## The text of a selection -/

theorem joinedText_nil : joinedText ([] : List (SubtitleSegment Time)) = "" := by
  rw [joinedText, List.map_nil, String.intercalate_nil]

theorem length_joinedText_concat (selected : List (SubtitleSegment Time))
    (segment : SubtitleSegment Time) :
    (joinedText (selected ++ [segment])).length =
      (joinedText selected).length + (if selected = [] then 0 else 1) +
        (strip segment.content).length := by
  cases selected with
  | nil => simp [joinedText]
  | cons first rest =>
      rw [joinedText, List.map_append,
        String.intercalate_append_of_ne_nil (by simp) (by simp), String.length_append,
        String.length_append, List.map_singleton, String.intercalate_singleton,
        if_neg (List.cons_ne_nil first rest), joinedText]
      rfl

theorem length_joinedText_succ {usable : List (SubtitleSegment Time)} {start stop : Nat}
    (ordered : start < stop) (inside : stop < usable.length) :
    (joinedText (slice usable start (stop + 1))).length =
      (joinedText (slice usable start stop)).length + 1 + (strip usable[stop].content).length := by
  have taken : slice usable start stop ≠ [] := by
    rw [ne_eq, ← List.length_eq_zero_iff, length_slice (Nat.le_of_lt inside)]
    omega
  rw [slice_succ (Nat.le_of_lt ordered) inside, length_joinedText_concat, if_neg taken]

theorem joinedText_single {usable : List (SubtitleSegment Time)} {start : Nat}
    (inside : start < usable.length) :
    (joinedText (slice usable start (start + 1))).length =
      (strip usable[start].content).length := by
  rw [slice_succ (Nat.le_refl start) inside, slice_self, length_joinedText_concat, joinedText_nil]
  simp

/-! ## The runs -/

/-- The positions of the segments of one chunk among the usable ones. -/
structure ChunkRun where
  start : Nat
  stop : Nat
deriving DecidableEq

namespace ChunkRun

def Has (run : ChunkRun) (position : Nat) : Prop := run.start ≤ position ∧ position < run.stop

/-- Every position of the one is a position of the other. -/
def Within (run other : ChunkRun) : Prop := ∀ position, run.Has position → other.Has position

/-- The segments of the run. -/
def segments (usable : List (SubtitleSegment Time)) (run : ChunkRun) :
    List (SubtitleSegment Time) :=
  slice usable run.start run.stop

end ChunkRun

/-- The chunk has the text, the times and the number of the segments of the run. -/
structure ChunkOf (digests : ChunkDigests Time) (origin : ChunkOrigin)
    (usable : List (SubtitleSegment Time)) (chunk : RawSubtitleChunk Time) (run : ChunkRun) :
    Prop where
  ordered : run.start < run.stop
  inside : run.stop ≤ usable.length
  made : ∃ first rest, run.segments usable = first :: rest ∧
    chunk = makeChunk digests origin first.start (rest.getLastD first).stop
      (joinedText (run.segments usable)) (run.stop - run.start)

variable [Sub Time] [LT Time]

/-- A chunk that starts with the first segment goes on with the next one. -/
def ChunkingConfig.joins (config : ChunkingConfig Time) (first next : SubtitleSegment Time) :
    Prop :=
  (strip first.content).length < config.targetCharacters ∧
    (strip first.content).length + 1 + (strip next.content).length ≤ config.maximumCharacters ∧
    ¬ config.maximumDurationSeconds < next.stop - first.start

/-- A reason not to go on: the end, the target, or a bound that the next segment exceeds. -/
def Stopped (config : ChunkingConfig Time) (usable : List (SubtitleSegment Time))
    (start stop : Nat) : Prop :=
  stop = usable.length ∨
    config.targetCharacters ≤ (joinedText (slice usable start stop)).length ∨
    ∃ first ∈ usable[start]?, ∃ next ∈ usable[stop]?,
      config.maximumCharacters <
          (joinedText (slice usable start stop)).length + 1 + (strip next.content).length ∨
        config.maximumDurationSeconds < next.stop - first.start

/-- The first such reason ends the chunk that starts at a position. -/
structure Ends (config : ChunkingConfig Time) (usable : List (SubtitleSegment Time))
    (start stop : Nat) : Prop where
  ordered : start < stop
  inside : stop ≤ usable.length
  stopped : Stopped config usable start stop
  first : ∀ earlier, start < earlier → earlier < stop → ¬ Stopped config usable start earlier

variable [DecidableLT Time]

/-- Where the chunk ends that the outer loop starts at a cursor. -/
def runStop (config : ChunkingConfig Time) (usable : List (SubtitleSegment Time)) (cursor : Nat) :
    Nat :=
  (fillChunk config usable ⟨cursor, [], 0⟩).cursor

/-- The cursor of the next pass. -/
def nextStart (config : ChunkingConfig Time) (usable : List (SubtitleSegment Time))
    (cursor : Nat) : Nat :=
  nextCursor config usable.length cursor (runStop config usable cursor)
    (runStop config usable cursor - cursor)

/-- The runs of the passes from a cursor on. -/
def chunkRuns (config : ChunkingConfig Time) (usable : List (SubtitleSegment Time))
    (cursor : Nat) : List ChunkRun :=
  if cursor < usable.length then
    ⟨cursor, runStop config usable cursor⟩ ::
      chunkRuns config usable (nextStart config usable cursor)
  else []
termination_by usable.length - cursor
decreasing_by
  have : cursor < nextStart config usable cursor := lt_nextCursor config _ _ _ _
  omega

/-! ## One pass -/

section Chunk

omit [DecidableLT Time]

variable {config : ChunkingConfig Time} {usable : List (SubtitleSegment Time)} {start stop : Nat}

/-- A chunk that goes on has not met any of the reasons. -/
theorem not_stopped_iff (within : start < usable.length) (inside : stop < usable.length) :
    ¬ Stopped config usable start stop ↔
      (joinedText (slice usable start stop)).length < config.targetCharacters ∧
      (joinedText (slice usable start stop)).length + 1 + (strip usable[stop].content).length ≤
        config.maximumCharacters ∧
      ¬ config.maximumDurationSeconds < usable[stop].stop - usable[start].start := by
  simp only [Stopped, List.getElem?_eq_getElem within, List.getElem?_eq_getElem inside,
    Option.mem_def, Option.some.injEq, exists_eq_left', not_or, Nat.not_le, Nat.not_lt]
  exact and_iff_right (Nat.ne_of_lt inside)

namespace Ends

/-- A chunk ends at one position. -/
theorem unique {other : Nat} (ends : Ends config usable start stop)
    (again : Ends config usable start other) : stop = other := by
  rcases Nat.lt_trichotomy stop other with before | same | after
  · exact absurd ends.stopped (again.first stop ends.ordered before)
  · exact same
  · exact absurd again.stopped (ends.first other again.ordered after)

theorem within (ends : Ends config usable start stop) : start < usable.length :=
  Nat.lt_of_lt_of_le ends.ordered ends.inside

/-- The second segment is taken if it joins the first one. -/
theorem two_iff (ends : Ends config usable start stop) :
    start + 2 ≤ stop ↔
      ∃ first ∈ usable[start]?, ∃ next ∈ usable[start + 1]?, config.joins first next := by
  have within := ends.within
  have single := joinedText_single within
  constructor
  · intro two
    have inside : start + 1 < usable.length := Nat.lt_of_lt_of_le two ends.inside
    have going := ends.first (start + 1) (Nat.lt_succ_self start) two
    rw [not_stopped_iff within inside, single] at going
    exact ⟨_, List.getElem?_eq_getElem within, _, List.getElem?_eq_getElem inside, going⟩
  · rintro ⟨first, isFirst, next, isNext, joins⟩
    obtain ⟨_, rfl⟩ := List.getElem?_eq_some_iff.mp isFirst
    obtain ⟨inside, rfl⟩ := List.getElem?_eq_some_iff.mp isNext
    have going : ¬ Stopped config usable start (start + 1) := by
      rw [not_stopped_iff within inside, single]
      exact joins
    by_contra short
    have same : stop = start + 1 := by
      have := ends.ordered
      omega
    exact going (same ▸ ends.stopped)

theorem fits (ends : Ends config usable start stop) (two : start + 2 ≤ stop) :
    (joinedText (slice usable start stop)).length ≤ config.maximumCharacters := by
  obtain ⟨before, rfl⟩ : ∃ before, stop = before + 1 := ⟨stop - 1, by omega⟩
  have going := ends.first before (by omega) (Nat.lt_succ_self before)
  rw [not_stopped_iff ends.within ends.inside] at going
  rw [length_joinedText_succ (by omega) ends.inside]
  exact going.2.1

theorem spans (ends : Ends config usable start stop) {position : Nat}
    (after : start < position) (before : position < stop) :
    ∀ first ∈ usable[start]?, ∀ segment ∈ usable[position]?,
      ¬ config.maximumDurationSeconds < segment.stop - first.start := by
  intro first isFirst segment isSegment
  obtain ⟨_, rfl⟩ := List.getElem?_eq_some_iff.mp isFirst
  obtain ⟨inside, rfl⟩ := List.getElem?_eq_some_iff.mp isSegment
  have going := ends.first position after before
  rw [not_stopped_iff ends.within inside] at going
  exact going.2.2

end Ends

end Chunk

/-- What the inner loop has done since it started at a cursor. -/
structure Filled (config : ChunkingConfig Time) (usable : List (SubtitleSegment Time))
    (start : Nat) (state : Filling (SubtitleSegment Time)) : Prop where
  ordered : start ≤ state.cursor
  inside : state.cursor ≤ usable.length
  selected : state.selected = slice usable start state.cursor
  characters : state.characters = (joinedText state.selected).length
  going : ∀ earlier, start < earlier → earlier < state.cursor →
    ¬ Stopped config usable start earlier

section Pass

variable {config : ChunkingConfig Time} {usable : List (SubtitleSegment Time)} {start : Nat}
  {state : Filling (SubtitleSegment Time)}

omit [DecidableLT Time] in
theorem Filled.length_selected (filled : Filled config usable start state) :
    state.selected.length = state.cursor - start := by
  rw [filled.selected, length_slice filled.inside]

omit [DecidableLT Time] in
theorem Filled.selected_eq_nil (filled : Filled config usable start state) :
    state.selected = [] ↔ state.cursor = start := by
  have length := filled.length_selected
  have ordered := filled.ordered
  rw [← List.length_eq_zero_iff]
  omega

variable (config) in
omit [DecidableLT Time] in
theorem Filled.empty (inside : start ≤ usable.length) :
    Filled config usable start ⟨start, [], 0⟩ where
  ordered := Nat.le_refl _
  inside := inside
  selected := (slice_self usable start).symm
  characters := by rw [joinedText_nil]; rfl
  going := by
    intro earlier after before
    exact absurd before (Nat.lt_asymm after)

omit [DecidableLT Time] in
theorem Filled.firstStart (filled : Filled config usable start state)
    (before : start < state.cursor) (candidate : SubtitleSegment Time) :
    ∃ first, usable[start]? = some first ∧
      state.selected.head?.elim candidate.start SubtitleSegment.start = first.start := by
  have within : start < usable.length := Nat.lt_of_lt_of_le before filled.inside
  refine ⟨usable[start], List.getElem?_eq_getElem within, ?_⟩
  rw [filled.selected, head?_slice before, List.getElem?_eq_getElem within]
  rfl

omit [DecidableLT Time] in
/-- The test of the inner loop is the test for a reason to stop. -/
theorem Filled.stopped_iff (filled : Filled config usable start state)
    (inside : state.cursor < usable.length) (before : start < state.cursor)
    (below : state.characters < config.targetCharacters) :
    Stopped config usable start state.cursor ↔
      config.maximumCharacters <
          state.characters + 1 + (strip usable[state.cursor].content).length ∨
        config.maximumDurationSeconds < usable[state.cursor].stop -
          state.selected.head?.elim usable[state.cursor].start SubtitleSegment.start := by
  obtain ⟨first, isFirst, sameStart⟩ := filled.firstStart before usable[state.cursor]
  rw [filled.characters, filled.selected] at below
  rw [Stopped, sameStart, filled.characters, filled.selected, isFirst,
    List.getElem?_eq_getElem inside]
  simp [Nat.ne_of_lt inside, Nat.not_le_of_lt below]

omit [DecidableLT Time] in
/-- One turn of the inner loop that takes a segment. -/
theorem Filled.take (filled : Filled config usable start state)
    (inside : state.cursor < usable.length) {characters : Nat}
    (isCharacters : characters = state.characters + (if state.selected = [] then 0 else 1) +
      (strip usable[state.cursor].content).length)
    (going : start < state.cursor → ¬ Stopped config usable start state.cursor) :
    Filled config usable start
      ⟨state.cursor + 1, state.selected ++ [usable[state.cursor]], characters⟩ where
  ordered := Nat.le_succ_of_le filled.ordered
  inside := inside
  selected := by rw [slice_succ filled.ordered inside, filled.selected]
  characters := by
    rw [length_joinedText_concat, ← filled.characters]
    exact isCharacters
  going := by
    intro earlier after before
    rcases Nat.lt_succ_iff_lt_or_eq.mp before with earlier | rfl
    · exact filled.going _ after earlier
    · exact going after

omit [DecidableLT Time] in
/-- A candidate that passes the test of the inner loop is no reason to stop. -/
theorem Filled.goes (filled : Filled config usable start state)
    (inside : state.cursor < usable.length)
    (passed : ¬ (state.selected ≠ [] ∧ (config.maximumCharacters < state.characters +
        (if state.selected = [] then 0 else 1) + (strip usable[state.cursor].content).length ∨
      config.maximumDurationSeconds < usable[state.cursor].stop -
        state.selected.head?.elim usable[state.cursor].start SubtitleSegment.start)))
    (below : state.selected ≠ [] → state.characters < config.targetCharacters)
    (before : start < state.cursor) : ¬ Stopped config usable start state.cursor := by
  have taken : state.selected ≠ [] := by
    rw [ne_eq, filled.selected_eq_nil]
    omega
  rw [if_neg taken] at passed
  rw [filled.stopped_iff inside before (below taken)]
  exact fun bound => passed ⟨taken, bound⟩

/-- The inner loop goes on up to its first reason to stop. -/
theorem fillChunk_filled (filled : Filled config usable start state)
    (within : start < usable.length)
    (below : state.selected ≠ [] → state.characters < config.targetCharacters) :
    Filled config usable start (fillChunk config usable state) ∧
      Ends config usable start (fillChunk config usable state).cursor := by
  fun_induction fillChunk config usable state with
  | case1 state inside candidate separator nextCharacters firstStart exceedsBound exceeds =>
      have before : start < state.cursor := by
        have := filled.ordered
        have := filled.selected_eq_nil.not.mp exceeds.1
        omega
      have sameSeparator : separator = 1 := if_neg exceeds.1
      have bound := exceeds.2
      simp only [nextCharacters, sameSeparator] at bound
      have stopped := (filled.stopped_iff inside before (below exceeds.1)).mpr bound
      exact ⟨filled, before, filled.inside, stopped, filled.going⟩
  | case2 state inside candidate separator nextCharacters firstStart exceedsBound within next
      reached =>
      have taken := filled.take inside rfl (filled.goes inside within below)
      refine ⟨taken, Nat.lt_succ_of_le filled.ordered, inside, .inr (.inl ?_), taken.going⟩
      rw [← taken.selected, ← taken.characters]
      exact reached
  | case3 state inside candidate separator nextCharacters firstStart exceedsBound within next
      notReached inductionHypothesis =>
      have taken := filled.take inside rfl (filled.goes inside within below)
      exact inductionHypothesis taken fun _ => Nat.lt_of_not_le notReached
  | case4 state outside =>
      have atEnd : state.cursor = usable.length := by
        have := filled.inside
        omega
      exact ⟨filled, atEnd ▸ within, filled.inside, .inl atEnd, filled.going⟩

variable (config) in
/-- The state the inner loop leaves. -/
theorem filled_pass (inside : start < usable.length) :
    Filled config usable start (fillChunk config usable ⟨start, [], 0⟩) :=
  (fillChunk_filled (.empty config (Nat.le_of_lt inside)) inside fun taken => absurd rfl taken).1

variable (config) in
theorem ends_runStop (inside : start < usable.length) :
    Ends config usable start (runStop config usable start) :=
  (fillChunk_filled (.empty config (Nat.le_of_lt inside)) inside fun taken => absurd rfl taken).2

variable (config) in
theorem nextStart_spec (inside : start < usable.length) :
    start < nextStart config usable start ∧
      nextStart config usable start ≤ runStop config usable start ∧
      (nextStart config usable start < runStop config usable start ↔
        config.trailingSegmentOverlap = true ∧ start + 2 ≤ runStop config usable start ∧
          runStop config usable start < usable.length) ∧
      (nextStart config usable start < runStop config usable start →
        nextStart config usable start + 1 = runStop config usable start) := by
  have taken := (ends_runStop config inside).ordered
  have several : 1 < runStop config usable start - start ↔
      start + 2 ≤ runStop config usable start := by omega
  rw [nextStart, nextCursor]
  simp only [several]
  grind

end Pass

/-! ## All passes -/

section Runs

variable (config : ChunkingConfig Time) (usable : List (SubtitleSegment Time))

/-- One pass of the outer loop moves the cursor. -/
def Passes (cursor next : Nat) : Prop :=
  ∃ stop, Ends config usable cursor stop ∧
    next = nextCursor config usable.length cursor stop (stop - cursor)

/-- The loop gets from the one cursor to the other. -/
def Reaches : Nat → Nat → Prop := ReflTransGen (Passes config usable)

/-- What the text of the chunks promises of their runs. -/
structure RunsSound (runs : List ChunkRun) : Prop where
  increasing : runs.Pairwise fun run later => run.start < later.start
  covered : ∀ position < usable.length, ∃ run ∈ runs, run.Has position
  consecutive : runs.IsChain fun run next => ∀ position, run.Has position → next.Has position →
    position + 1 = run.stop ∧ config.trailingSegmentOverlap = true
  apart : runs.Pairwise fun run later => ¬ run.Within later ∧ ¬ later.Within run
  fits : ∀ run ∈ runs, run.start + 2 ≤ run.stop →
    (joinedText (run.segments usable)).length ≤ config.maximumCharacters
  spans : ∀ run ∈ runs, run.start + 2 ≤ run.stop → ∀ first ∈ usable[run.start]?,
    ∀ position, run.Has position → ∀ segment ∈ usable[position]?,
      ¬ config.maximumDurationSeconds < segment.stop - first.start
  stopped : ∀ run ∈ runs, Stopped config usable run.start run.stop

/-- A pass from the cursor goes as the two bounds intend: a segment that alone lasts too long is not
followed by another one in its chunk, and the segment the loop steps back to joins the next one. -/
structure SteadyAt (cursor : Nat) : Prop where
  first : ∀ first ∈ usable[cursor]?, ∀ next ∈ usable[cursor + 1]?, config.joins first next →
    ¬ config.maximumDurationSeconds < first.stop - first.start
  back : config.trailingSegmentOverlap = true → ∀ stop, Ends config usable cursor stop →
    cursor + 2 ≤ stop → ∀ last ∈ usable[stop - 1]?, ∀ next ∈ usable[stop]?, config.joins last next

/-- Every pass does. -/
def Steady : Prop := ∀ cursor, Reaches config usable 0 cursor → SteadyAt config usable cursor

variable {config usable}

variable {cursor : Nat}

theorem passes_nextStart (inside : cursor < usable.length) :
    Passes config usable cursor (nextStart config usable cursor) :=
  ⟨_, ends_runStop config inside, rfl⟩

theorem Passes.spec {next : Nat} (passes : Passes config usable cursor next) :
    cursor < usable.length ∧ next = nextStart config usable cursor := by
  obtain ⟨stop, ends, rfl⟩ := passes
  obtain rfl := ends.unique (ends_runStop config ends.within)
  exact ⟨ends.within, rfl⟩

theorem chunkRuns_of_lt (inside : cursor < usable.length) :
    chunkRuns config usable cursor =
      ⟨cursor, runStop config usable cursor⟩ ::
        chunkRuns config usable (nextStart config usable cursor) := by
  rw [chunkRuns, if_pos inside]

theorem chunkRuns_of_le (outside : usable.length ≤ cursor) :
    chunkRuns config usable cursor = [] := by
  rw [chunkRuns, if_neg (Nat.not_lt_of_le outside)]

theorem mem_chunkRuns {run : ChunkRun} (member : run ∈ chunkRuns config usable cursor) :
    cursor ≤ run.start ∧ Reaches config usable cursor run.start ∧ run.start < usable.length ∧
      run.stop = runStop config usable run.start := by
  fun_induction chunkRuns config usable cursor with
  | case1 cursor inside inductionHypothesis =>
      rcases List.mem_cons.mp member with rfl | later
      · exact ⟨Nat.le_refl _, .refl, inside, rfl⟩
      · obtain ⟨after, reached, rest⟩ := inductionHypothesis later
        refine ⟨?_, .head (passes_nextStart inside) reached, rest⟩
        exact Nat.le_trans (Nat.le_of_lt (nextStart_spec config inside).1) after
  | case2 => nomatch member

theorem chunkRuns_suffix {later : Nat} (reached : Reaches config usable cursor later) :
    chunkRuns config usable later <:+ chunkRuns config usable cursor := by
  induction reached with
  | refl => exact List.suffix_refl _
  | tail _ pass inductionHypothesis =>
      obtain ⟨inside, rfl⟩ := pass.spec
      rw [chunkRuns_of_lt inside] at inductionHypothesis
      exact (List.suffix_cons _ _).trans inductionHypothesis

theorem chunkRuns_increasing (cursor : Nat) :
    (chunkRuns config usable cursor).Pairwise fun run later => run.start < later.start := by
  fun_induction chunkRuns config usable cursor with
  | case1 cursor inside inductionHypothesis =>
      refine List.pairwise_cons.mpr ⟨fun later isLater => ?_, inductionHypothesis⟩
      exact Nat.lt_of_lt_of_le (nextStart_spec config inside).1 (mem_chunkRuns isLater).1
  | case2 => exact .nil

theorem chunkRuns_covered {position : Nat} (after : cursor ≤ position)
    (within : position < usable.length) :
    ∃ run ∈ chunkRuns config usable cursor, run.Has position := by
  fun_induction chunkRuns config usable cursor with
  | case1 cursor inside inductionHypothesis =>
      by_cases here : position < runStop config usable cursor
      · exact ⟨_, List.mem_cons_self, after, here⟩
      · have notPast := (nextStart_spec config inside).2.1
        obtain ⟨run, isRun, has⟩ := inductionHypothesis (by omega)
        exact ⟨run, List.mem_cons_of_mem _ isRun, has⟩
  | case2 cursor outside => exact absurd (Nat.lt_of_le_of_lt after within) outside

/-- Two runs in a row share at most the last segment of the first one. -/
theorem chunkRuns_consecutive (cursor : Nat) :
    (chunkRuns config usable cursor).IsChain fun run next => ∀ position, run.Has position →
      next.Has position →
        position + 1 = run.stop ∧ config.trailingSegmentOverlap = true := by
  fun_induction chunkRuns config usable cursor with
  | case1 cursor inside inductionHypothesis =>
      refine inductionHypothesis.cons fun next isNext position first second => ?_
      obtain ⟨-, -, shared, last⟩ := nextStart_spec config inside
      have isStart : next.start = nextStart config usable cursor := by
        by_cases more : nextStart config usable cursor < usable.length
        · rw [chunkRuns_of_lt more] at isNext
          exact congrArg ChunkRun.start (Option.some.inj isNext).symm
        · rw [chunkRuns_of_le (Nat.le_of_not_lt more)] at isNext
          nomatch isNext
      have back : nextStart config usable cursor < runStop config usable cursor :=
        isStart ▸ Nat.lt_of_le_of_lt second.1 first.2
      have started := isStart ▸ second.1
      have stopped := first.2
      have lastOne := last back
      simp only at stopped ⊢
      exact ⟨by omega, (shared.mp back).1⟩
  | case2 => exact .nil

theorem ends_of_mem {run : ChunkRun} (member : run ∈ chunkRuns config usable cursor) :
    Ends config usable run.start run.stop := by
  obtain ⟨-, -, inside, isStop⟩ := mem_chunkRuns member
  rw [isStop]
  exact ends_runStop config inside

/-! ## When no bound is missed -/

theorem run_of_reached (reached : Reaches config usable 0 cursor)
    (inside : cursor < usable.length) :
    ⟨cursor, runStop config usable cursor⟩ ∈ chunkRuns config usable 0 := by
  refine (chunkRuns_suffix reached).subset ?_
  rw [chunkRuns_of_lt inside]
  exact List.mem_cons_self

theorem RunsSound.steady (sound : RunsSound config usable (chunkRuns config usable 0)) :
    Steady config usable := by
  intro cursor reached
  constructor
  · intro first isFirst next isNext joins
    obtain ⟨inside, rfl⟩ := List.getElem?_eq_some_iff.mp isFirst
    have ends := ends_runStop config inside
    have two := ends.two_iff.mpr ⟨_, isFirst, next, isNext, joins⟩
    exact sound.spans _ (run_of_reached reached inside) two _ isFirst cursor
      ⟨Nat.le_refl _, ends.ordered⟩ _ isFirst
  · intro overlap stop ends two last isLast next isNext
    have inside := ends.within
    obtain rfl := ends.unique (ends_runStop config inside)
    obtain ⟨more, rfl⟩ := List.getElem?_eq_some_iff.mp isNext
    obtain ⟨-, -, shared, lastOne⟩ := nextStart_spec config inside
    have back := shared.mpr ⟨overlap, two, more⟩
    have isBack := lastOne back
    have again : nextStart config usable cursor < usable.length := by omega
    have following := ends_runStop config again
    -- the run the loop steps back to begins inside this one, so it has to end behind it
    have apart := sound.apart.sublist (chunkRuns_suffix reached).sublist
    rw [chunkRuns_of_lt inside, chunkRuns_of_lt again] at apart
    have notWithin := ((List.pairwise_cons.mp apart).1 _ List.mem_cons_self).2
    have further : nextStart config usable cursor + 2 ≤
        runStop config usable (nextStart config usable cursor) := by
      by_contra short
      refine notWithin fun position has => ?_
      have after := has.1
      have before := has.2
      simp only at after before
      exact ⟨by simp only; omega, by simp only; omega⟩
    obtain ⟨stepped, isStepped, second, isSecond, joins⟩ := following.two_iff.mp further
    have sameLast : runStop config usable cursor - 1 = nextStart config usable cursor := by omega
    rw [sameLast, isStepped] at isLast
    rw [isBack, isNext] at isSecond
    obtain rfl := Option.some.inj isLast
    obtain rfl := Option.some.inj isSecond
    exact joins

theorem runStop_lt_next (inside : cursor < usable.length) (steady : SteadyAt config usable cursor)
    (again : nextStart config usable cursor < usable.length) :
    runStop config usable cursor < runStop config usable (nextStart config usable cursor) := by
  obtain ⟨-, notPast, shared, lastOne⟩ := nextStart_spec config inside
  have ends := ends_runStop config inside
  have following := ends_runStop config again
  rcases Nat.lt_or_eq_of_le notPast with back | same
  · obtain ⟨overlap, two, more⟩ := shared.mp back
    have isBack := lastOne back
    have isLast : usable[runStop config usable cursor - 1]? =
        some usable[nextStart config usable cursor] := by
      rw [← isBack, Nat.add_sub_cancel]
      exact List.getElem?_eq_getElem again
    have isNext : usable[nextStart config usable cursor + 1]? =
        some usable[runStop config usable cursor] := by
      rw [isBack]
      exact List.getElem?_eq_getElem more
    have joins := steady.back overlap _ ends two _ isLast _ (List.getElem?_eq_getElem more)
    have := following.two_iff.mpr ⟨_, List.getElem?_eq_getElem again, _, isNext, joins⟩
    omega
  · rw [← same]
    exact following.ordered

theorem chunkRuns_stops
    (steady : ∀ later, Reaches config usable cursor later → SteadyAt config usable later) :
    (chunkRuns config usable cursor).Pairwise fun run later => run.stop < later.stop := by
  fun_induction chunkRuns config usable cursor with
  | case1 cursor inside inductionHypothesis =>
      have rest := inductionHypothesis fun later reached =>
        steady later (.head (passes_nextStart inside) reached)
      refine List.pairwise_cons.mpr ⟨fun later isLater => ?_, rest⟩
      by_cases again : nextStart config usable cursor < usable.length
      · have further := runStop_lt_next inside (steady cursor .refl) again
        rw [chunkRuns_of_lt again] at isLater rest
        rcases List.mem_cons.mp isLater with rfl | after
        · exact further
        · exact Nat.lt_trans further ((List.pairwise_cons.mp rest).1 later after)
      · rw [chunkRuns_of_le (Nat.le_of_not_lt again)] at isLater
        nomatch isLater
  | case2 => exact .nil

theorem Steady.sound (steady : Steady config usable) :
    RunsSound config usable (chunkRuns config usable 0) where
  increasing := chunkRuns_increasing 0
  covered position within := chunkRuns_covered (Nat.zero_le position) within
  consecutive := chunkRuns_consecutive 0
  apart := by
    refine ((chunkRuns_increasing 0).and (chunkRuns_stops steady)).imp_of_mem ?_
    intro run later isRun isLater order
    have ends := (ends_of_mem isRun).ordered
    have laterEnds := (ends_of_mem isLater).ordered
    constructor
    · intro within
      have has := within run.start ⟨Nat.le_refl _, ends⟩
      exact absurd has.1 (Nat.not_le_of_lt order.1)
    · intro within
      have has := within (later.stop - 1) ⟨by omega, by omega⟩
      have := has.2
      omega
  fits run isRun := (ends_of_mem isRun).fits
  spans := by
    intro run isRun two first isFirst position has segment isSegment
    have ends := ends_of_mem isRun
    rcases Nat.lt_or_eq_of_le has.1 with after | same
    · exact ends.spans after has.2 first isFirst segment isSegment
    · obtain ⟨-, reached, -, -⟩ := mem_chunkRuns isRun
      obtain ⟨found, isFound, next, isNext, joins⟩ := ends.two_iff.mp two
      rw [← same, isFound] at isSegment
      rw [isFound] at isFirst
      obtain rfl := Option.some.inj isFirst
      obtain rfl := Option.some.inj isSegment
      exact (steady run.start reached).first _ isFound next isNext joins
  stopped run isRun := (ends_of_mem isRun).stopped

/-! ## The chunks of the runs -/

theorem chunkOf_pass (digests : ChunkDigests Time) (origin : ChunkOrigin)
    (inside : cursor < usable.length) {first : SubtitleSegment Time}
    {rest : List (SubtitleSegment Time)}
    (isSelected : (fillChunk config usable ⟨cursor, [], 0⟩).selected = first :: rest) :
    ChunkOf digests origin usable
      (makeChunk digests origin first.start (rest.getLastD first).stop (joinedText (first :: rest))
        (first :: rest).length)
      ⟨cursor, runStop config usable cursor⟩ := by
  have filled := filled_pass config inside
  have sameSegments :
      ChunkRun.segments usable ⟨cursor, runStop config usable cursor⟩ = first :: rest := by
    rw [← isSelected, filled.selected]
    rfl
  have sameCount : (first :: rest).length = runStop config usable cursor - cursor := by
    rw [← isSelected]
    exact filled.length_selected
  constructor
  · exact (ends_runStop config inside).ordered
  · exact (ends_runStop config inside).inside
  · refine ⟨first, rest, sameSegments, ?_⟩
    rw [sameSegments, sameCount]

variable (config) in
theorem chunkLoop_runs (digests : ChunkDigests Time) (origin : ChunkOrigin)
    (spoken : ∀ segment ∈ usable, strip segment.content ≠ "") (cursor : Nat)
    (chunks : List (RawSubtitleChunk Time)) :
    ∃ made, chunkLoop digests origin config usable cursor chunks = chunks ++ made ∧
      List.Forall₂ (ChunkOf digests origin usable) made (chunkRuns config usable cursor) := by
  fun_induction chunkLoop digests origin config usable cursor chunks with
  | case1 cursor chunks inside filled isEmpty inductionHypothesis =>
      have taken := (ends_runStop config inside).ordered
      have length := (filled_pass config inside).length_selected
      rw [isEmpty, List.length_nil] at length
      exact absurd length.symm (Nat.sub_ne_zero_of_lt taken)
  | case2 cursor chunks inside filled first rest isSelected selected text grown
      inductionHypothesis =>
      obtain ⟨made, isMade, corresponds⟩ := inductionHypothesis
      have sameCount : selected.length = runStop config usable cursor - cursor := by
        rw [runStop, ← (filled_pass config inside).length_selected, isSelected]
      have isSpoken : strip first.content ≠ "" := by
        refine spoken first (mem_of_mem_slice (?_ : first ∈ slice usable cursor filled.cursor))
        rw [← (filled_pass config inside).selected, isSelected]
        exact List.mem_cons_self
      have isGrown : grown = chunks ++ [makeChunk digests origin first.start
          (rest.getLastD first).stop text selected.length] :=
        if_pos (joinedText_ne_empty isSpoken)
      refine ⟨makeChunk digests origin first.start (rest.getLastD first).stop text selected.length ::
        made, ?_, ?_⟩
      rotate_left
      · rw [chunkRuns_of_lt inside]
        refine .cons (chunkOf_pass digests origin inside isSelected) ?_
        rw [sameCount] at corresponds
        exact corresponds
      · rw [isMade, isGrown, List.append_assoc]
        rfl
  | case3 cursor chunks outside =>
      refine ⟨[], (List.append_nil _).symm, ?_⟩
      rw [chunkRuns_of_le (Nat.le_of_not_lt outside)]
      exact .nil

variable (config) in
/-- The chunks are the passes' runs, and the runs are as promised if and only if every pass is
steady. -/
theorem buildRawSubtitleChunks_sound_iff (digests : ChunkDigests Time) (origin : ChunkOrigin)
    (segments : List (SubtitleSegment Time)) :
    let usable := segments.filter fun segment => strip segment.content ≠ ""
    let runs := chunkRuns config usable 0
    List.Forall₂ (ChunkOf digests origin usable)
        (buildRawSubtitleChunks digests origin config segments) runs ∧
      (RunsSound config usable runs ↔ Steady config usable) := by
  intro usable runs
  have spoken : ∀ segment ∈ usable, strip segment.content ≠ "" := by
    intro segment isSegment
    simpa using (List.mem_filter.mp isSegment).2
  constructor
  · obtain ⟨made, isMade, corresponds⟩ := chunkLoop_runs config digests origin spoken 0 []
    rw [buildRawSubtitleChunks, isMade, List.nil_append]
    exact corresponds
  · exact ⟨RunsSound.steady, Steady.sound⟩

end Runs

/-! ## A pause after an overlap -/

/-- Two short segments, and one after a pause that is longer than a chunk may be. -/
def pausedSegments : List (SubtitleSegment Int) :=
  [⟨0, 10, "a"⟩, ⟨10, 20, "b"⟩, ⟨200, 210, "c"⟩]

/-- The loop steps back to the second segment, which the third one does not join: the second chunk
repeats the end of the first. -/
theorem buildRawSubtitleChunks_repeats :
    (buildRawSubtitleChunks ⟨fun text => text, fun identity => identity.contentHash⟩
        ⟨"bilibili", "BV1", 1, "raw_subtitle"⟩ (.standard Int) pausedSegments).map
      RawSubtitleChunk.text = ["a b", "b", "c"] ∧
    chunkRuns (.standard Int) pausedSegments 0 = [⟨0, 2⟩, ⟨1, 2⟩, ⟨2, 3⟩] ∧
    ¬ RunsSound (.standard Int) pausedSegments (chunkRuns (.standard Int) pausedSegments 0) := by
  have runs : chunkRuns (.standard Int) pausedSegments 0 = [⟨0, 2⟩, ⟨1, 2⟩, ⟨2, 3⟩] := by
    decide +kernel
  refine ⟨by decide +kernel, runs, fun sound => ?_⟩
  have apart := sound.apart
  rw [runs] at apart
  refine ((List.pairwise_cons.mp apart).1 ⟨1, 2⟩ (by simp)).2 fun position has => ?_
  exact ⟨Nat.zero_le position, has.2⟩

end Shiliu.Retrieval
