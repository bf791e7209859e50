/-
Module: Shiliu.Assistant.ModelSequence
Purpose: The messages a model is sent and the protocol between them. `validateModelSequence` walks
  over a sequence as the source does; a sequence passes exactly when it is made of complete
  protocol units, one behind the other, and units can be left out or put together freely.
Trusted boundary: none
Main exports: ModelMessage, validateModelSequence, ProtocolUnit, validateModelSequence_ok_iff
-/
import Mathlib.Data.List.TakeWhile
import Shiliu.Library.Outcome
import Shiliu.Storage.Basic

namespace Shiliu.Assistant.WorkingContext

open Shiliu.Library Shiliu.Storage

inductive ModelRole where
  | system
  | user
  | assistant
  | tool
deriving DecidableEq

/-- An entry of `tool_calls`: its id, and the JSON text of the function called. -/
structure ToolCall where
  id : Option String
  function : String

/-- A message of a request. -/
structure ModelMessage where
  role : ModelRole
  content : Option String
  toolCalls : List ToolCall
  toolCallId : Option String
  name : Option String

/-- `{'role': 'system', 'content': …}`. -/
def systemMessage (content : String) : ModelMessage :=
  ⟨.system, some content, [], none, none⟩

def ModelMessage.isTool (message : ModelMessage) : Bool :=
  message.role = .tool

/-- What raises while a request is put together. -/
inductive ContextFailure where
  | contextBudgetExceeded (message : String)
  | assistantConflict (code : String)
  | valueError (code : String)
  | keyError
  | indexError
  | pipelineError (code : String)

/-- `set(left) == set(right)`. -/
def SameMembers (left right : List (Option String)) : Prop :=
  (∀ id ∈ left, id ∈ right) ∧ ∀ id ∈ right, id ∈ left

instance (left right : List (Option String)) : Decidable (SameMembers left right) :=
  inferInstanceAs (Decidable (_ ∧ _))

/-- `validate_model_sequence`. -/
def validateModelSequence : List ModelMessage → Except ContextFailure Unit
  | [] => .ok ()
  | message :: rest => do
      ensure (message.role ≠ .tool) (.valueError "working_context_orphan_tool")
      if message.toolCalls = [] then validateModelSequence rest
      else do
        let ids := message.toolCalls.map ToolCall.id
        ensure (message.role = .assistant ∧ (∀ id ∈ ids, truthy id = true) ∧ ids.Nodup)
          (.valueError "working_context_duplicate_call")
        let received := (rest.takeWhile ModelMessage.isTool).map ModelMessage.toolCallId
        ensure (received.length = ids.length ∧ SameMembers received ids)
          (.valueError "working_context_incomplete_tool_group")
        validateModelSequence (rest.dropWhile ModelMessage.isTool)
termination_by messages => messages.length
decreasing_by
  · exact Nat.lt_succ_self _
  · exact Nat.lt_succ_of_le (List.dropWhile_sublist _).length_le

/-! ## Protocol units -/

/-- The tool results that answer the calls of an assistant's message. -/
structure Answers (calls : List ToolCall) (results : List ModelMessage) : Prop where
  named : ∀ call ∈ calls, truthy call.id = true
  distinct : (calls.map ToolCall.id).Nodup
  tools : ∀ result ∈ results, result.role = .tool
  count : results.length = calls.length
  matched : SameMembers (results.map ModelMessage.toolCallId) (calls.map ToolCall.id)

/-- What may not be taken apart: one message, or an assistant's calls with all their results. -/
inductive ProtocolUnit : List ModelMessage → Prop where
  | single {message : ModelMessage} (role : message.role ≠ .tool) (calls : message.toolCalls = []) :
      ProtocolUnit [message]
  | exchange {message : ModelMessage} {results : List ModelMessage} (role : message.role = .assistant)
      (calls : message.toolCalls ≠ []) (answers : Answers message.toolCalls results) :
      ProtocolUnit (message :: results)

/-- A sequence of whole protocol units. -/
def ValidSequence (messages : List ModelMessage) : Prop :=
  ∃ units : List (List ModelMessage), units.flatten = messages ∧ ∀ unit ∈ units, ProtocolUnit unit

theorem validSequence_nil : ValidSequence [] :=
  ⟨[], rfl, by simp⟩

variable {unit messages : List ModelMessage}

theorem ValidSequence.cons (isUnit : ProtocolUnit unit) (valid : ValidSequence messages) :
    ValidSequence (unit ++ messages) := by
  obtain ⟨units, rfl, all⟩ := valid
  exact ⟨unit :: units, rfl, by simpa using ⟨isUnit, all⟩⟩

theorem validSequence_flatten {units : List (List ModelMessage)}
    (all : ∀ unit ∈ units, ProtocolUnit unit) : ValidSequence units.flatten :=
  ⟨units, rfl, all⟩

theorem ProtocolUnit.head (isUnit : ProtocolUnit unit) :
    ∃ message results, unit = message :: results ∧ message.role ≠ .tool := by
  cases isUnit with
  | single role calls => exact ⟨_, [], rfl, role⟩
  | exchange role calls answers => exact ⟨_, _, rfl, by simp [role]⟩

theorem ValidSequence.takeWhile_isTool (valid : ValidSequence messages) :
    messages.takeWhile ModelMessage.isTool = [] := by
  obtain ⟨units, rfl, all⟩ := valid
  cases units with
  | nil => rfl
  | cons unit units =>
      obtain ⟨message, results, rfl, role⟩ := (all unit List.mem_cons_self).head
      simp [ModelMessage.isTool, role]

theorem ValidSequence.dropWhile_isTool (valid : ValidSequence messages) :
    messages.dropWhile ModelMessage.isTool = messages := by
  have split := List.takeWhile_append_dropWhile (p := ModelMessage.isTool) (l := messages)
  rwa [valid.takeWhile_isTool, List.nil_append] at split

theorem takeWhile_isTool_append {results : List ModelMessage}
    (tools : ∀ result ∈ results, result.role = .tool) (valid : ValidSequence messages) :
    (results ++ messages).takeWhile ModelMessage.isTool = results := by
  rw [List.takeWhile_append_of_pos (by simpa [ModelMessage.isTool] using tools),
    valid.takeWhile_isTool, List.append_nil]

theorem dropWhile_isTool_append {results : List ModelMessage}
    (tools : ∀ result ∈ results, result.role = .tool) (valid : ValidSequence messages) :
    (results ++ messages).dropWhile ModelMessage.isTool = messages := by
  rw [List.dropWhile_append_of_pos (by simpa [ModelMessage.isTool] using tools),
    valid.dropWhile_isTool]

theorem validateModelSequence_append (isUnit : ProtocolUnit unit) (valid : ValidSequence messages)
    (passes : validateModelSequence messages = .ok ()) :
    validateModelSequence (unit ++ messages) = .ok () := by
  cases isUnit with
  | single role calls =>
      rw [List.singleton_append, validateModelSequence, ensure_then_eq_ok, if_pos calls]
      exact ⟨role, passes⟩
  | @exchange message results role calls answers =>
      rw [List.cons_append, validateModelSequence, ensure_then_eq_ok, if_neg calls,
        ensure_then_eq_ok, ensure_then_eq_ok, takeWhile_isTool_append answers.tools valid,
        dropWhile_isTool_append answers.tools valid]
      refine ⟨by simp [role], ⟨role, ?_, answers.distinct⟩, ⟨?_, answers.matched⟩, passes⟩
      · simpa using answers.named
      · simpa using answers.count

theorem ValidSequence.passes (valid : ValidSequence messages) :
    validateModelSequence messages = .ok () := by
  obtain ⟨units, rfl, all⟩ := valid
  induction units with
  | nil => simp [validateModelSequence]
  | cons unit units inductionHypothesis =>
      have rest : ∀ unit ∈ units, ProtocolUnit unit := fun unit member =>
        all unit (List.mem_cons_of_mem _ member)
      exact validateModelSequence_append (all unit List.mem_cons_self) (validSequence_flatten rest)
        (inductionHypothesis rest)

theorem validSequence_of_passes (passes : validateModelSequence messages = .ok ()) :
    ValidSequence messages := by
  induction messages using validateModelSequence.induct with
  | case1 => exact validSequence_nil
  | case2 message rest single exchange =>
      rw [validateModelSequence, ensure_then_eq_ok] at passes
      obtain ⟨role, passes⟩ := passes
      by_cases calls : message.toolCalls = []
      · rw [if_pos calls] at passes
        exact (single passes).cons (.single role calls)
      · rw [if_neg calls, ensure_then_eq_ok, ensure_then_eq_ok] at passes
        obtain ⟨⟨isAssistant, named, distinct⟩, ⟨count, matched⟩, passes⟩ := passes
        have isUnit : ProtocolUnit (message :: rest.takeWhile ModelMessage.isTool) := by
          apply ProtocolUnit.exchange isAssistant calls
          exact {
            named := by simpa using named
            distinct := distinct
            tools := fun result member => by
              simpa [ModelMessage.isTool] using List.mem_takeWhile_imp member
            count := by simpa using count
            matched := matched }
        have valid := (exchange passes).cons isUnit
        rwa [List.cons_append, List.takeWhile_append_dropWhile] at valid

/-- The check passes exactly on the sequences of whole protocol units. -/
theorem validateModelSequence_ok_iff :
    validateModelSequence messages = .ok () ↔ ValidSequence messages :=
  ⟨validSequence_of_passes, ValidSequence.passes⟩

/-! ## Messages of one shape -/

/-- The part of a message the protocol reads. -/
def ModelMessage.protocol (message : ModelMessage) :
    ModelRole × List ToolCall × Option String :=
  (message.role, message.toolCalls, message.toolCallId)

theorem ProtocolUnit.of_alike {others : List ModelMessage} (isUnit : ProtocolUnit unit)
    (alike : others.map ModelMessage.protocol = unit.map ModelMessage.protocol) :
    ProtocolUnit others := by
  cases isUnit with
  | @single message role calls =>
      obtain ⟨other, rest, rfl, same, none⟩ := List.map_eq_cons_iff.mp alike
      obtain rfl := List.map_eq_nil_iff.mp none
      simp only [ModelMessage.protocol, Prod.mk.injEq] at same
      exact .single (same.1 ▸ role) (same.2.1.trans calls)
  | @exchange message results role calls answers =>
      obtain ⟨other, rest, rfl, same, restAlike⟩ := List.map_eq_cons_iff.mp alike
      simp only [ModelMessage.protocol, Prod.mk.injEq] at same
      have sameRoles : rest.map ModelMessage.role = results.map ModelMessage.role := by
        simpa [ModelMessage.protocol, Function.comp_def] using congrArg (List.map Prod.fst) restAlike
      have sameIds : rest.map ModelMessage.toolCallId = results.map ModelMessage.toolCallId := by
        simpa [ModelMessage.protocol, Function.comp_def] using
          congrArg (List.map fun part => part.2.2) restAlike
      have allTools : ∀ role ∈ rest.map ModelMessage.role, role = .tool := by
        rw [sameRoles]
        simpa using answers.tools
      apply ProtocolUnit.exchange (same.1.trans role) (by rwa [same.2.1])
      exact {
        named := same.2.1 ▸ answers.named
        distinct := same.2.1 ▸ answers.distinct
        tools := by simpa using allTools
        count := by
          rw [same.2.1, ← answers.count]
          simpa using congrArg List.length restAlike
        matched := by
          rw [sameIds, same.2.1]
          exact answers.matched }

/-- A sequence whose messages get other contents still passes. -/
theorem ValidSequence.of_alike {others : List ModelMessage} (valid : ValidSequence messages)
    (alike : others.map ModelMessage.protocol = messages.map ModelMessage.protocol) :
    ValidSequence others := by
  obtain ⟨units, rfl, all⟩ := valid
  induction units generalizing others with
  | nil =>
      obtain rfl : others = [] := by simpa using alike
      exact validSequence_nil
  | cons unit units inductionHypothesis =>
      rw [List.flatten_cons, List.map_append] at alike
      obtain ⟨first, rest, rfl, firstAlike, restAlike⟩ := List.map_eq_append_iff.mp alike
      apply ValidSequence.cons ((all unit List.mem_cons_self).of_alike firstAlike)
      exact inductionHypothesis (fun unit member => all unit (List.mem_cons_of_mem _ member)) restAlike

end Shiliu.Assistant.WorkingContext
