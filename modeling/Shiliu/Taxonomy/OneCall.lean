/-
Module: Shiliu.Taxonomy.OneCall
Purpose: `provider_call` is started at most once for each request kind of a call directory. The
  lease file is created once, and every later write of it is of a copy that was read from it, so
  its owner never changes; a process only starts the call after it has read itself as the owner,
  and never comes back to where it could start another.
Trusted boundary: none
Main exports: SingleMove, advance_single, Single, single_run, provider_called_once
-/
import Shiliu.Taxonomy.SingleFlight

namespace Shiliu.Taxonomy

open Shiliu.Library

/-- Whom the lease file of a kind names. -/
def CallDirectory.owner (directory : CallDirectory) (kind : RequestKind) : Option Nat :=
  (directory.leases kind).bind (Option.map Lease.ownerId)

/-- The lease a process has read and not written back yet. -/
def Phase.copy : Phase → Option Lease
  | .judging lease | .takingOver lease | .abandoning lease | .replacing _ lease => some lease
  | _ => none

/-- The process has read itself as the owner and goes on to start the call. -/
def Phase.mayCall : Phase → Bool
  | .replacing .requesting _ | .calling => true
  | _ => false

/-- The process cannot come to start the call any more. -/
def Phase.past : Phase → Bool
  | .looking | .acquiring | .creating | .filling | .reading | .judging _ | .takingOver _
  | .abandoning _ | .rechecking | .updating .requesting | .replacing .requesting _
  | .calling => false
  | _ => true

def Phase.filling? : Phase → Bool
  | .filling => true
  | _ => false

def Process.Holds (process : Process) (lease : Lease) : Prop :=
  process.phase.copy = some lease ∨ process.beat = some lease

/-- The owners a process takes the lease file to name. -/
def Process.Relies (index : Nat) (process : Process) (owner : Nat) : Prop :=
  (∃ lease, process.Holds lease ∧ lease.ownerId = owner) ∨
    (process.phase.mayCall = true ∧ owner = index)

variable {rules : SingleFlightRules} {now index : Nat} {answer : Answer}
  {directory after : CallDirectory} {process moved : Process} {world : World}

/-- A process that goes where nothing is relied on relies on no more than it did. -/
theorem Process.Relies.of_goto {phase : Phase} {owner : Nat} (copy : phase.copy = none)
    (calls : phase.mayCall = false) (relied : (process.goto phase).Relies index owner) :
    process.Relies index owner := by
  rcases relied with ⟨lease, isCopy | isBeat, named⟩ | ⟨mayCall, -⟩
  · exact nomatch copy.symm.trans isCopy
  · exact Or.inl ⟨lease, Or.inr isBeat, named⟩
  · exact nomatch calls.symm.trans mayCall

/-! ## One step of one process -/

/-- What one file operation does to the lease files and to the process. -/
structure SingleMove (index : Nat) (directory : CallDirectory) (process : Process)
    (after : CallDirectory) (moved : Process) : Prop where
  kind : moved.requestKind = process.requestKind
  owner : ∀ kind, after.owner kind = directory.owner kind ∨ kind = process.requestKind ∧
    ((process.phase.filling? = true ∧ after.owner kind = some index) ∨
      ∃ lease, process.Holds lease ∧ after.owner kind = some lease.ownerId)
  relies : ∀ owner, moved.Relies index owner →
    process.Relies index owner ∨ directory.owner process.requestKind = some owner
  fills : moved.phase.filling? = true → process.phase.filling? = true ∨
    (directory.leases process.requestKind = none ∧ after.leases process.requestKind = some none)
  unfilled : ∀ kind, directory.leases kind = some none →
    after.leases kind = some none ∨ kind = process.requestKind ∧
      ((process.phase.filling? = true ∧ moved.phase.filling? = false) ∨
        ∃ lease, process.Holds lease)

/-- The phases that rely on nothing. -/
def Phase.quiet (phase : Phase) : Bool :=
  phase.copy.isNone && !phase.mayCall && !phase.filling?

theorem Phase.quiet_iff {phase : Phase} : phase.quiet = true ↔
    phase.copy = none ∧ phase.mayCall = false ∧ phase.filling? = false := by
  simp [quiet, and_assoc]

/-- A step that leaves the lease files alone and ends where nothing is relied on. -/
theorem SingleMove.of_quiet (kind : moved.requestKind = process.requestKind)
    (leases : after.leases = directory.leases) (quiet : moved.phase.quiet = true)
    (beat : ∀ lease, moved.beat = some lease → process.beat = some lease := by exact fun _ => id) :
    SingleMove index directory process after moved := by
  obtain ⟨copy, calls, fills⟩ := Phase.quiet_iff.mp quiet
  constructor
  case kind => exact kind
  case owner => exact fun other => Or.inl (by simp only [CallDirectory.owner, leases])
  case relies =>
      rintro owner (⟨lease, holds, named⟩ | ⟨mayCall, -⟩)
      · rw [Process.Holds, copy] at holds
        exact Or.inl (Or.inl ⟨lease, Or.inr (beat lease (holds.resolve_left (by simp))), named⟩)
      · rw [calls] at mayCall
        cases mayCall
  case fills => simp [fills]
  case unfilled => exact fun other unfilled => Or.inl (by rw [leases, unfilled])

/-- A step that leaves the lease files alone and takes a copy of one, or keeps the one it has. -/
theorem SingleMove.of_copy {phase : Phase} {lease : Lease}
    (leases : after.leases = directory.leases) (copy : phase.copy = some lease)
    (fills : phase.filling? = false)
    (known : process.phase.copy = some lease ∨
      directory.owner process.requestKind = some lease.ownerId)
    (calls : phase.mayCall = true → lease.ownerId = index) :
    SingleMove index directory process after (process.goto phase) := by
  have backed : process.Relies index lease.ownerId ∨
      directory.owner process.requestKind = some lease.ownerId :=
    known.imp_left (fun held => Or.inl ⟨lease, Or.inl held, rfl⟩)
  constructor
  case kind => rfl
  case owner => exact fun other => Or.inl (by simp only [CallDirectory.owner, leases])
  case relies =>
      rintro owner (⟨held, isCopy | isBeat, rfl⟩ | ⟨mayCall, rfl⟩)
      · obtain rfl : lease = held := Option.some.inj (copy.symm.trans isCopy)
        exact backed
      · exact Or.inl (Or.inl ⟨held, Or.inr isBeat, rfl⟩)
      · exact calls mayCall ▸ backed
  case fills => simp [Process.goto, fills]
  case unfilled => exact fun other unfilled => Or.inl (by rw [leases, unfilled])

/-- A step that writes a copy back. -/
theorem SingleMove.of_replace {lease written : Lease} (holds : process.Holds lease)
    (kind : moved.requestKind = process.requestKind) (sameOwner : written.ownerId = lease.ownerId)
    (relies : ∀ owner, moved.Relies index owner → process.Relies index owner)
    (fills : moved.phase.filling? = true → process.phase.filling? = true) :
    SingleMove index directory process
      (directory.setLease process.requestKind (some written)) moved := by
  constructor
  case kind => exact kind
  case owner =>
      intro other
      by_cases same : other = process.requestKind
      · refine Or.inr ⟨same, Or.inr ⟨lease, holds, ?_⟩⟩
        simp [same, CallDirectory.owner, CallDirectory.setLease, sameOwner]
      · left
        simp [CallDirectory.owner, CallDirectory.setLease, Function.update_of_ne same]
  case relies => exact fun owner relied => Or.inl (relies owner relied)
  case fills => exact fun filling => Or.inl (fills filling)
  case unfilled =>
      intro other unfilled
      by_cases same : other = process.requestKind
      · exact Or.inr ⟨same, Or.inr ⟨lease, holds⟩⟩
      · left
        simp [CallDirectory.setLease, Function.update_of_ne same, unfilled]

theorem onResponse_quiet {outcome : Except CallFailure (Option Invocation)}
    {found : Invocation → Phase} {missing : Phase}
    (onFound : ∀ invocation, (found invocation).quiet = true) (onMissing : missing.quiet = true) :
    (onResponse outcome found missing).quiet = true := by
  unfold onResponse
  split
  · rfl
  · exact onFound _
  · exact onMissing

theorem compareAccepted_quiet (existing : Option AcceptedPointer) (invocation : Invocation) :
    (compareAccepted existing invocation).quiet = true := by
  unfold compareAccepted
  split
  · rfl
  · split <;> rfl

theorem Stage.ownerId_apply (stage : Stage) (kind : RequestKind) (lease : Lease) :
    (stage.apply rules kind now lease).ownerId = lease.ownerId := by
  unfold Stage.apply
  cases stage <;> dsimp only <;> split_ifs <;> rfl

theorem judge_cases (lease : Lease) : judge now answer.ownerAlive lease = .takingOver lease ∨
    ∃ failure, judge now answer.ownerAlive lease = .raised failure := by
  unfold judge
  split_ifs <;> simp

theorem owner_of_lease {kind : RequestKind} {lease : Lease}
    (isLease : directory.leases kind = some (some lease)) :
    directory.owner kind = some lease.ownerId := by
  simp [CallDirectory.owner, isLease]

theorem SingleMove.of_read {next : Lease → Phase}
    (goes : ∀ lease, directory.leases process.requestKind = some (some lease) →
      SingleMove index directory process directory (process.goto (next lease))) :
    SingleMove index directory process directory
      (process.goto (onLease (directory.leases process.requestKind) next)) := by
  unfold onLease
  split
  · rename_i lease isLease
    exact goes lease isLease
  · exact .of_quiet rfl rfl rfl

theorem afterStored_quiet (reasoning : Bool) (response : CompletionResponse) :
    (afterStored reasoning response).quiet = true := by
  unfold afterStored
  split <;> rfl

theorem advance_single : SingleMove index directory process
    (advance rules now index answer directory process).1
    (advance rules now index answer directory process).2 := by
  cases atPhase : process.phase with
  | looking =>
      simp only [advance, atPhase]
      exact .of_quiet rfl rfl (onResponse_quiet (fun _ => rfl) rfl)
  | acquiring =>
      simp only [advance, atPhase]
      exact .of_quiet rfl rfl (onResponse_quiet (fun _ => rfl) rfl)
  | creating =>
      simp only [advance, atPhase]
      cases absent : directory.leases process.requestKind with
      | some _ => exact .of_quiet rfl rfl rfl
      | none =>
          constructor
          case kind => rfl
          case owner =>
              intro other
              left
              by_cases same : other = process.requestKind
              · simp [same, CallDirectory.owner, CallDirectory.setLease, absent]
              · simp [CallDirectory.owner, CallDirectory.setLease, Function.update_of_ne same]
          case relies => exact fun owner relied => Or.inl (relied.of_goto rfl rfl)
          case fills => exact fun _ => Or.inr ⟨absent, by simp [CallDirectory.setLease]⟩
          case unfilled =>
              intro other unfilled
              have different : other ≠ process.requestKind := by
                rintro rfl
                rw [absent] at unfilled
                cases unfilled
              exact Or.inl (by simp [CallDirectory.setLease, Function.update_of_ne different,
                unfilled])
  | filling =>
      simp only [advance, atPhase]
      constructor
      case kind => rfl
      case owner =>
          intro other
          by_cases same : other = process.requestKind
          · refine Or.inr ⟨same, Or.inl ⟨by rw [atPhase]; rfl, ?_⟩⟩
            simp [same, CallDirectory.owner, CallDirectory.setLease]
          · left
            simp [CallDirectory.owner, CallDirectory.setLease, Function.update_of_ne same]
      case relies => exact fun owner relied => Or.inl (relied.of_goto rfl rfl)
      case fills => exact fun impossible => by cases impossible
      case unfilled =>
          intro other unfilled
          by_cases same : other = process.requestKind
          · exact Or.inr ⟨same, Or.inl ⟨by rw [atPhase]; rfl, rfl⟩⟩
          · exact Or.inl (by simp [CallDirectory.setLease, Function.update_of_ne same, unfilled])
  | reading =>
      simp only [advance, atPhase]
      exact .of_read fun lease isLease =>
        .of_copy rfl rfl rfl (Or.inr (owner_of_lease isLease)) (by simp [Phase.mayCall])
  | judging lease =>
      simp only [advance, atPhase, onResponse]
      split
      · exact .of_quiet rfl rfl rfl
      · exact .of_quiet rfl rfl rfl
      · rcases @judge_cases now answer lease with goes | ⟨failure, raises⟩
        · rw [goes]
          exact .of_copy rfl rfl rfl (Or.inl (by rw [atPhase]; rfl)) (by simp [Phase.mayCall])
        · rw [raises]
          exact .of_quiet rfl rfl rfl
  | takingOver lease =>
      simp only [advance, atPhase]
      split_ifs
      · exact .of_quiet rfl rfl rfl
      · exact .of_copy rfl rfl rfl (Or.inl (by rw [atPhase]; rfl)) (by simp [Phase.mayCall])
  | abandoning lease =>
      have holds : process.Holds lease := Or.inl (by rw [atPhase]; rfl)
      simp only [advance, atPhase]
      exact .of_replace holds rfl rfl (fun owner relied => relied.of_goto rfl rfl)
        (by simp [Process.goto, Phase.filling?])
  | rechecking =>
      simp only [advance, atPhase]
      exact .of_quiet rfl rfl (onResponse_quiet (fun _ => rfl) rfl)
  | updating stage =>
      simp only [advance, atPhase]
      refine .of_read fun lease isLease => ?_
      unfold readUpdate
      split_ifs with isOwner
      · refine .of_copy rfl rfl rfl (Or.inr ?_) ?_
        · rw [Stage.ownerId_apply, owner_of_lease isLease]
        · rw [Stage.ownerId_apply, isOwner]
          cases stage <;> simp [Phase.mayCall, Stage.ownerId]
      · exact .of_quiet rfl rfl rfl
  | replacing stage lease =>
      simp only [advance, atPhase]
      refine .of_replace (Or.inl (by rw [atPhase]; rfl)) rfl rfl ?_ ?_
      · rintro owner (⟨held, isCopy | isBeat, named⟩ | ⟨mayCall, rfl⟩)
        · cases stage <;> cases isCopy
        · exact Or.inl ⟨held, Or.inr isBeat, named⟩
        · refine Or.inr ⟨?_, rfl⟩
          cases stage with
          | requesting => rw [atPhase]; rfl
          | _ => cases mayCall
      · cases stage <;> simp [Process.goto, Stage.next, Phase.filling?]
  | calling =>
      simp only [advance, atPhase]
      exact .of_quiet rfl rfl rfl
  | awaiting =>
      simp only [advance, atPhase]
      cases answer.reply <;> exact .of_quiet rfl rfl rfl
  | opening reasoning response =>
      simp only [advance, atPhase]
      split
      · exact .of_quiet rfl rfl rfl
      · split_ifs
        · exact .of_quiet rfl rfl (afterStored_quiet reasoning response)
        · exact .of_quiet rfl rfl rfl
  | writing reasoning response =>
      simp only [advance, atPhase]
      exact .of_quiet rfl rfl (afterStored_quiet reasoning response)
  | recording response =>
      simp only [advance, atPhase]
      exact .of_quiet rfl rfl rfl
  | returned invocation =>
      simp only [advance, atPhase]
      cases answer.verdict <;> exact .of_quiet rfl rfl rfl
  | accepting invocation | pointing invocation =>
      simp only [advance, atPhase]
      split
      · exact .of_quiet rfl rfl (compareAccepted_quiet _ invocation)
      · exact .of_quiet rfl rfl rfl
  | fillingPointer invocation | recordingAccepted invocation =>
      simp only [advance, atPhase]
      exact .of_quiet rfl rfl rfl
  | finished | raised failure | ended =>
      simp only [advance, atPhase]
      exact .of_quiet rfl rfl (by rw [atPhase]; rfl)

theorem heartbeat_single : SingleMove index directory process
    (heartbeat rules now index directory process).1
    (heartbeat rules now index directory process).2 := by
  -- a thread that writes or ends relies on no more than its process did
  have fewer : ∀ moved : Process, moved.phase = process.phase →
      (moved.beat = none ∨ moved.beat = process.beat) → ∀ owner, moved.Relies index owner →
        process.Relies index owner := by
    rintro moved phase beat owner (⟨lease, isCopy | isBeat, named⟩ | mayCall)
    · exact Or.inl ⟨lease, Or.inl (phase ▸ isCopy), named⟩
    · rcases beat with gone | same
      · rw [gone] at isBeat
        cases isBeat
      · exact Or.inl ⟨lease, Or.inr (same ▸ isBeat), named⟩
    · exact Or.inr (phase ▸ mayCall)
  have still : ∀ moved : Process, moved.requestKind = process.requestKind →
      moved.phase = process.phase → (∀ owner, moved.Relies index owner →
        process.Relies index owner ∨ directory.owner process.requestKind = some owner) →
      SingleMove index directory process directory moved := fun moved kind phase relies =>
    ⟨kind, fun _ => Or.inl rfl, relies, fun fills => Or.inl (phase ▸ fills),
      fun _ unfilled => Or.inl unfilled⟩
  unfold heartbeat
  split
  · rename_i lease isBeat
    exact .of_replace (Or.inr isBeat) rfl rfl (fewer _ rfl (Or.inl rfl)) id
  · rename_i isBeat
    split_ifs
    · split
      · rename_i lease isLease
        split
        · refine still _ rfl rfl ?_
          rintro owner (⟨held, isCopy | isBeat, rfl⟩ | mayCall)
          · exact Or.inl (Or.inl ⟨held, Or.inl isCopy, rfl⟩)
          · obtain rfl := Option.some.inj isBeat
            right
            rw [owner_of_lease isLease]
            split_ifs <;> rfl
          · exact Or.inl (Or.inr mayCall)
        · exact still _ rfl rfl fun owner relied => Or.inl (fewer _ rfl (Or.inr rfl) owner relied)
      · exact still _ rfl rfl fun owner relied => Or.inl (fewer _ rfl (Or.inr rfl) owner relied)
    · exact still _ rfl rfl fun owner relied => Or.inl relied

theorem heartbeat_phase :
    (heartbeat rules now index directory process).2.phase = process.phase := by
  unfold heartbeat
  split
  · rfl
  · split_ifs
    · split
      · split <;> rfl
      · rfl
    · rfl

theorem advance_past (past : process.phase.past = true) :
    (advance rules now index answer directory process).2.phase.past = true := by
  cases atPhase : process.phase with
  | looking | acquiring | creating | filling | reading | judging lease | takingOver lease
  | abandoning lease | rechecking | calling =>
      rw [atPhase] at past
      cases past
  | updating stage =>
      simp only [advance, atPhase, onLease, readUpdate]
      rw [atPhase] at past
      split
      · split_ifs
        · cases stage with
          | requesting => cases past
          | _ => rfl
        · rfl
      · rfl
  | replacing stage lease =>
      simp only [advance, atPhase]
      rw [atPhase] at past
      cases stage with
      | requesting => cases past
      | _ => rfl
  | awaiting =>
      simp only [advance, atPhase]
      cases answer.reply <;> rfl
  | opening reasoning response | writing reasoning response =>
      simp only [advance, atPhase, afterStored]
      split_ifs <;> first | rfl | (split <;> first | rfl | (split_ifs <;> rfl))
  | returned invocation =>
      simp only [advance, atPhase]
      cases answer.verdict <;> rfl
  | accepting invocation | pointing invocation =>
      simp only [advance, atPhase, compareAccepted]
      split
      · split
        · rfl
        · split_ifs <;> rfl
      · rfl
  | recording response | fillingPointer invocation | recordingAccepted invocation =>
      simp only [advance, atPhase]
      rfl
  | finished | raised failure | ended =>
      simp only [advance, atPhase]
      rfl

/-! ## The invariant -/

/-- Leases name their creator for good, and who has started the call is that creator. -/
structure Single (world : World) : Prop where
  relies : ∀ index owner, (world.processes index).Relies index owner →
    world.directory.owner (world.processes index).requestKind = some owner
  fills : ∀ index, (world.processes index).phase.filling? = true →
    world.directory.leases (world.processes index).requestKind = some none
  filler : ∀ first second, (world.processes first).phase.filling? = true →
    (world.processes second).phase.filling? = true →
    (world.processes first).requestKind = (world.processes second).requestKind → first = second
  starter : ∀ index ∈ world.started, (world.processes index).phase.past = true ∧
    world.directory.owner (world.processes index).requestKind = some index
  once : world.started.Nodup

theorem owner_of_unfilled {kind : RequestKind} (unfilled : directory.leases kind = some none) :
    directory.owner kind = none := by
  simp [CallDirectory.owner, unfilled]

/-- Nobody has a copy of a file that is not filled. -/
theorem Single.no_copy (single : Single world)
    (unfilled : world.directory.leases (world.processes index).requestKind = some none) :
    ¬ ∃ lease, (world.processes index).Holds lease := by
  rintro ⟨lease, holds⟩
  have named := single.relies index lease.ownerId (Or.inl ⟨lease, holds, rfl⟩)
  rw [owner_of_unfilled unfilled] at named
  cases named

theorem Single.owner_kept (single : Single world) (kind : RequestKind) (owner : Nat)
    (move : SingleMove index world.directory (world.processes index) after moved)
    (named : world.directory.owner kind = some owner) : after.owner kind = some owner := by
  rcases move.owner kind with same | ⟨rfl, ⟨fills, -⟩ | ⟨lease, holds, written⟩⟩
  · rw [same, named]
  · rw [owner_of_unfilled (single.fills index fills)] at named
    cases named
  · rw [written, ← named]
    exact (single.relies index lease.ownerId (Or.inl ⟨lease, holds, rfl⟩)).symm

theorem set_self (world : World) (index : Nat) (after : CallDirectory × Process) :
    (world.set index after).processes index = after.2 := by
  simp [World.set]

theorem set_other (world : World) {index other : Nat} (after : CallDirectory × Process)
    (different : other ≠ index) :
    (world.set index after).processes other = world.processes other := by
  simp [World.set, Function.update_of_ne different]

theorem kind_set (move : SingleMove index world.directory (world.processes index) after moved)
    (other : Nat) : ((world.set index (after, moved)).processes other).requestKind =
      (world.processes other).requestKind := by
  by_cases same : other = index
  · rw [same, set_self, move.kind]
  · rw [set_other world _ same]

/-- What one file operation keeps. -/
theorem Single.set (single : Single world)
    (move : SingleMove index world.directory (world.processes index) after moved)
    (past : (world.processes index).phase.past = true → moved.phase.past = true) :
    Single (world.set index (after, moved)) := by
  have kinds := kind_set move
  constructor
  case relies =>
      intro other owner relied
      rw [kinds]
      by_cases same : other = index
      · subst same
        rw [set_self] at relied
        rcases move.relies owner relied with before | read
        · exact single.owner_kept _ owner move (single.relies other owner before)
        · exact single.owner_kept _ owner move read
      · rw [set_other world _ same] at relied
        exact single.owner_kept _ owner move (single.relies other owner relied)
  case fills =>
      intro other filling
      rw [kinds]
      by_cases same : other = index
      · subst same
        rw [set_self] at filling
        rcases move.fills filling with before | ⟨-, created⟩
        · rcases move.unfilled _ (single.fills other before) with kept | ⟨-, ⟨-, gone⟩ | copy⟩
          · exact kept
          · rw [gone] at filling
            cases filling
          · exact (single.no_copy (single.fills other before) copy).elim
        · exact created
      · rw [set_other world _ same] at filling
        have unfilled := single.fills other filling
        rcases move.unfilled _ unfilled with kept | ⟨sameKind, ⟨fills, -⟩ | copy⟩
        · exact kept
        · exact absurd (single.filler other index filling fills sameKind) same
        · exact (single.no_copy (sameKind ▸ unfilled) copy).elim
  case filler =>
      -- whoever else fills a file of the kind has created it before
      have alone : ∀ other, other ≠ index → moved.phase.filling? = true →
          (world.processes other).phase.filling? = true →
          (world.processes other).requestKind ≠ (world.processes index).requestKind := by
        intro other different filling otherFilling sameKind
        rcases move.fills filling with before | ⟨absent, -⟩
        · exact different (single.filler other index otherFilling before sameKind)
        · have unfilled := single.fills other otherFilling
          rw [sameKind, absent] at unfilled
          cases unfilled
      intro first second
      rw [kinds, kinds]
      by_cases isFirst : first = index <;> by_cases isSecond : second = index
      · exact fun _ _ _ => isFirst.trans isSecond.symm
      · subst isFirst
        rw [set_self, set_other world _ isSecond]
        exact fun filling other same => absurd same.symm (alone second isSecond filling other)
      · subst isSecond
        rw [set_self, set_other world _ isFirst]
        exact fun other filling same => absurd same (alone first isFirst filling other)
      · rw [set_other world _ isFirst, set_other world _ isSecond]
        exact single.filler first second
  case starter =>
      intro starter isStarter
      obtain ⟨wasPast, named⟩ := single.starter starter isStarter
      refine ⟨?_, by rw [kinds]; exact single.owner_kept _ starter move named⟩
      by_cases same : starter = index
      · subst same
        rw [set_self]
        exact past wasPast
      · rwa [set_other world _ same]
  case once => exact single.once

theorem Phase.isCalling_iff {phase : Phase} : phase.isCalling = true ↔ phase = .calling := by
  cases phase <;> simp [isCalling]

theorem Single.call (single : Single world) (calling : (world.processes index).phase = .calling) :
    Single { world.set index (advance rules now index answer world.directory
      (world.processes index)) with started := index :: world.started } := by
  have after : Single (world.set index (advance rules now index answer world.directory
      (world.processes index))) := single.set advance_single advance_past
  have named : world.directory.owner (world.processes index).requestKind = some index :=
    single.relies index index (Or.inr ⟨by rw [calling]; rfl, rfl⟩)
  refine { after with starter := ?_, once := ?_ }
  · intro starter isStarter
    rcases List.mem_cons.mp isStarter with rfl | before
    · rw [kind_set advance_single, set_self]
      refine ⟨by simp [advance, calling, Process.goto, Phase.past], ?_⟩
      exact single.owner_kept _ starter advance_single named
    · exact after.starter starter before
  · refine List.nodup_cons.mpr ⟨fun isStarter => ?_, single.once⟩
    have past := (single.starter index isStarter).1
    rw [calling] at past
    cases past

theorem Single.step (single : Single world) (action : Action) :
    Single (step rules world action) := by
  cases action with
  | advance index answer =>
      dsimp only [Taxonomy.step]
      split_ifs with calling
      · exact single.call (Phase.isCalling_iff.mp calling)
      · exact single.set advance_single advance_past
  | heartbeat index =>
      exact single.set heartbeat_single fun past => heartbeat_phase.symm ▸ past
  | crash index =>
      exact single.set (.of_quiet rfl rfl rfl (by simp)) fun _ => rfl
  | tick elapsed => exact ⟨single.relies, single.fills, single.filler, single.starter, single.once⟩

theorem Single.start (calls : Nat → RequestKind × String) : Single (World.start calls) where
  relies := by
    rintro index owner (⟨lease, isCopy | isBeat, -⟩ | ⟨mayCall, -⟩)
    · cases isCopy
    · cases isBeat
    · cases mayCall
  fills index filling := by cases filling
  filler first second filling := by cases filling
  starter index isStarter := by cases isStarter
  once := List.nodup_nil

/-- Over any interleaving of any number of processes, with crashes anywhere, `provider_call` is
started at most once for each request kind of a call directory. -/
theorem provider_called_once (rules : SingleFlightRules) (calls : Nat → RequestKind × String)
    (actions : List Action) (kind : RequestKind) :
    let world := runFrom (step rules) (World.start calls) actions
    (world.started.filter fun index => (world.processes index).requestKind = kind).length ≤ 1 := by
  intro world
  have kept : ∀ before action, Single before → Single (step rules before action) :=
    fun _ action before => before.step action
  have single : Single world := invariant_run kept (.start calls) actions
  have distinct := single.once.filter fun index => (world.processes index).requestKind = kind
  cases ofKind : world.started.filter fun index => (world.processes index).requestKind = kind with
  | nil => exact Nat.zero_le 1
  | cons first rest =>
      -- both are the owner the lease file of the kind names
      have isOwner : ∀ index ∈ first :: rest, world.directory.owner kind = some index := by
        intro index isIn
        rw [← ofKind, List.mem_filter, decide_eq_true_eq] at isIn
        exact isIn.2 ▸ (single.starter index isIn.1).2
      cases rest with
      | nil => exact Nat.le_refl 1
      | cons second others =>
          have same : some first = some second :=
            (isOwner first (by simp)).symm.trans (isOwner second (by simp))
          rw [ofKind, Option.some.inj same] at distinct
          simp at distinct

end Shiliu.Taxonomy
