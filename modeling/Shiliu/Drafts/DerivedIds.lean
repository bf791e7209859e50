/-
Module: Shiliu.Drafts.DerivedIds
Purpose: The ids that a draft command makes of its own: those of its phases, cut to 160 characters,
  and those of the transactions of its publication, made of the first 96. Each is a text, a colon
  and a word without a colon, so it names the command and the phase it is made for as long as the
  cut leaves a letter of the word.
Trusted boundary: none
Main exports: PublicationStep, Derivation, usedId, DraftCall.uses, RoomyIds, ApartIds, usedId_inj
-/
import Shiliu.Drafts.Commands

namespace Shiliu.Drafts

open Shiliu.Library Shiliu.Research Shiliu.Storage Shiliu.Knowledge

/-! ## What ids are made for -/

/-- The transactions of a publication. -/
inductive PublicationStep where
  | candidate (index : Nat)
  | artifact
  | page
  | publish
deriving DecidableEq

def PublicationStep.id (request : PublishRequest) : PublicationStep → String
  | .candidate index => request.candidateCommandId index
  | .artifact => request.artifactCommandId
  | .page => request.pageCommandId
  | .publish => request.publishCommandId

inductive Derivation where
  | phase (phase : Phase)
  | publication (step : PublicationStep)
deriving DecidableEq

def usedId (commandId : String) : Derivation → String
  | .phase phase => derivedId commandId phase
  | .publication step => step.id ⟨publicationId commandId, []⟩

/-- The ids a command uses. -/
def DraftCall.uses : DraftCall → Derivation → Prop
  | .save _, derivation | .cancel _, derivation => derivation = .phase .own
  | .prepare _, derivation => ∃ phase, derivation = .phase phase
  | .confirm _, derivation =>
      derivation = .phase .own ∨ derivation = .phase .blocked ∨
        ∃ step, derivation = .publication step

/-! ## The condition -/

/-- The text does not begin or end with white space. -/
def Trimmed (text : String) : Prop :=
  (∀ letter ∈ text.toList.head?, isSpace letter = false) ∧
    ∀ letter ∈ text.toList.getLast?, isSpace letter = false

/-- A command id with room for a letter of every suffix. -/
structure RoomyIds (call : DraftCall) : Prop where
  admitted : call.commandId.length ≤ 160
  room : ∀ derivation, call.uses derivation → derivation ≠ .phase .own →
    call.commandId.length ≤ 158 ∧ Trimmed call.commandId

/-- No command id is one that the other command derives, and of two confirmations with different
command ids the first 96 characters differ. -/
structure ApartIds (first second : DraftCall) : Prop where
  notDerived : ∀ derivation, second.uses derivation → derivation ≠ .phase .own →
    first.commandId ≠ usedId second.commandId derivation
  prefixes : ∀ one other, first = .confirm one → second = .confirm other →
    publicationId one.commandId = publicationId other.commandId → one.commandId = other.commandId

/-! ## The last word of an id -/

theorem last_word {first second left right : List Char} (noColon : ':' ∉ left)
    (noColon' : ':' ∉ right) (same : first ++ ':' :: left = second ++ ':' :: right) :
    first = second ∧ left = right := by
  induction first generalizing second with
  | nil =>
      cases second with
      | nil => exact ⟨rfl, (List.cons.inj same).2⟩
      | cons letter rest =>
          have isRest : left = rest ++ ':' :: right := (List.cons.inj same).2
          exact absurd (isRest ▸ List.mem_append_right _ List.mem_cons_self) noColon
  | cons letter rest inductionHypothesis =>
      cases second with
      | nil =>
          have isRest : rest ++ ':' :: left = right := (List.cons.inj same).2
          exact absurd (isRest ▸ List.mem_append_right _ List.mem_cons_self) noColon'
      | cons other others =>
          obtain ⟨rfl, sameRest⟩ := List.cons.inj same
          obtain ⟨rfl, rfl⟩ := inductionHypothesis sameRest
          exact ⟨rfl, rfl⟩

/-- A text that does not begin or end with white space is its own strip. -/
theorem strip_of_trimmed {text : String} (trimmed : Trimmed text) : strip text = text := by
  have front : text.toList.dropWhile isSpace = text.toList := by
    cases isText : text.toList with
    | nil => rfl
    | cons letter rest =>
        have solid := trimmed.1 letter (by rw [isText]; rfl)
        exact List.dropWhile_cons_of_neg (by rw [solid]; nofun)
  have back : text.toList.reverse.dropWhile isSpace = text.toList.reverse := by
    cases isText : text.toList.reverse with
    | nil => rfl
    | cons letter rest =>
        have isLast : text.toList.getLast? = some letter := by
          rw [← List.head?_reverse, isText]
          rfl
        have solid := trimmed.2 letter isLast
        exact List.dropWhile_cons_of_neg (by rw [solid]; nofun)
  rw [strip, front, back, List.reverse_reverse, String.ofList_toList]

/-- The word of a phase: its suffix without the colon. -/
def Phase.word : Phase → List Char
  | .own => []
  | .started => ['s', 't', 'a', 'r', 't', 'e', 'd']
  | .blocked => ['b', 'l', 'o', 'c', 'k', 'e', 'd']
  | .create => ['c', 'r', 'e', 'a', 't', 'e']
  | .evidence => ['e', 'v', 'i', 'd', 'e', 'n', 'c', 'e']
  | .run => ['r', 'u', 'n']
  | .intake => ['i', 'n', 't', 'a', 'k', 'e']

theorem Phase.suffix_word {phase : Phase} (notOwn : phase ≠ .own) :
    phase.suffix.toList = ':' :: phase.word := by
  cases phase with
  | own => exact absurd rfl notOwn
  | _ => decide

theorem Phase.solid_word (phase : Phase) : ∀ letter ∈ phase.word, isSpace letter = false := by
  have whole : (phase.word.all fun letter => !isSpace letter) = true := by
    cases phase <;> rfl
  simpa using whole

theorem Phase.no_colon (phase : Phase) : ':' ∉ phase.word := by
  cases phase <;> simp [Phase.word]

theorem Phase.word_inj {one other : Phase} {left right : Nat} (notOwn : one ≠ .own)
    (notOwn' : other ≠ .own)
    (same : one.word.take (left + 1) = other.word.take (right + 1)) : one = other := by
  cases one <;> cases other <;>
    first
    | rfl
    | exact absurd rfl notOwn
    | exact absurd rfl notOwn'
    | simp [Phase.word] at same

theorem derivedId_toList {commandId : String} {phase : Phase} (notOwn : phase ≠ .own) {left : Nat}
    (room : commandId.length + left = 158) (trimmed : Trimmed commandId) :
    (derivedId commandId phase).toList =
      commandId.toList ++ ':' :: phase.word.take (left + 1) := by
  have isCut : (prefixOf (commandId ++ phase.suffix) 160).toList =
      commandId.toList ++ ':' :: phase.word.take (left + 1) := by
    have lengths : commandId.toList.length = commandId.length := String.length_toList
    have cut : 160 - commandId.toList.length = left + 2 := by omega
    rw [prefixOf, String.toList_ofList, String.toList_append, Phase.suffix_word notOwn,
      List.take_append, List.take_of_length_le (by omega), cut, List.take_succ_cons]
  have solid : Trimmed (prefixOf (commandId ++ phase.suffix) 160) := by
    rw [Trimmed, isCut]
    constructor
    · intro letter isHead
      cases isCommand : commandId.toList with
      | nil =>
          rw [isCommand] at isHead
          obtain rfl := Option.some.inj isHead
          decide
      | cons first rest =>
          rw [isCommand] at isHead
          exact trimmed.1 letter (by rw [isCommand]; exact isHead)
    · intro letter isLast
      cases isWord : phase.word with
      | nil => cases phase <;> first | exact absurd rfl notOwn | cases isWord
      | cons first rest =>
          rw [isWord, List.take_succ_cons, List.getLast?_append] at isLast
          refine Phase.solid_word phase letter (List.mem_of_mem_take (i := left + 1) ?_)
          rw [isWord, List.take_succ_cons]
          refine List.mem_of_getLast? ?_
          simpa using isLast
  unfold derivedId
  split
  · rw [strip_of_trimmed solid, isCut]
  · exact isCut

/-! ## The parts of an id -/

/-- What an id is made of: the text before its last colon and the word after it. -/
structure Parts (text : String) (base word : List Char) : Prop where
  joined : text.toList = base ++ ':' :: word
  noColon : ':' ∉ word

/-- The word of a transaction: a number for a candidate. -/
def PublicationStep.word : PublicationStep → List Char
  | .candidate index => Nat.toDigits 10 index
  | .artifact => ['a', 'r', 't', 'i', 'f', 'a', 'c', 't']
  | .page => ['p', 'a', 'g', 'e']
  | .publish => ['p', 'u', 'b', 'l', 'i', 's', 'h']

/-- The words an id may end in: a phase may have lost letters of its word. -/
def Derivation.Word : Derivation → List Char → Prop
  | .phase one, word => ∃ left, word = one.word.take (left + 1)
  | .publication step, word => word = step.word

/-- The text before the last colon. -/
def Derivation.base (commandId : String) : Derivation → List Char
  | .phase _ => commandId.toList
  | .publication (.candidate _) =>
      (publicationId commandId).toList ++ [':', 'c', 'a', 'n', 'd', 'i', 'd', 'a', 't', 'e']
  | .publication _ => (publicationId commandId).toList

theorem digit_of_toDigits {index : Nat} {letter : Char} (isLetter : letter ∈ Nat.toDigits 10 index) :
    letter.isDigit = true :=
  Nat.isDigit_of_mem_toDigits (by decide) (by decide) isLetter

theorem publication_parts (commandId : String) (step : PublicationStep) :
    Parts (usedId commandId (.publication step)) ((Derivation.publication step).base commandId)
      step.word := by
  cases step with
  | candidate index =>
      refine ⟨?_, fun isColon => ?_⟩
      · have isNumber : (toString index).toList = Nat.toDigits 10 index := Nat.toList_repr
        simp only [usedId, PublicationStep.id, PublishRequest.candidateCommandId,
          String.toList_append, Derivation.base, List.append_assoc]
        rw [show (toString (publicationId commandId)) = publicationId commandId from rfl, isNumber]
        rfl
      · have isDigit := digit_of_toDigits isColon
        revert isDigit
        decide
  | artifact => exact ⟨String.toList_append, by decide⟩
  | page => exact ⟨String.toList_append, by decide⟩
  | publish => exact ⟨String.toList_append, by decide⟩

theorem usedId_parts {call : DraftCall} {derivation : Derivation} (roomy : RoomyIds call)
    (uses : call.uses derivation) (notOwn : derivation ≠ .phase .own) :
    ∃ word, Parts (usedId call.commandId derivation) (derivation.base call.commandId) word ∧
      derivation.Word word := by
  cases derivation with
  | publication step => exact ⟨step.word, publication_parts _ step, rfl⟩
  | phase phase =>
      obtain ⟨room, trimmed⟩ := roomy.room _ uses notOwn
      obtain ⟨left, isLeft⟩ := Nat.exists_eq_add_of_le room
      have differs : phase ≠ .own := fun isOwn => notOwn (isOwn ▸ rfl)
      refine ⟨phase.word.take (left + 1), ⟨derivedId_toList differs isLeft.symm trimmed, ?_⟩,
        left, rfl⟩
      exact fun isColon => phase.no_colon (List.mem_of_mem_take isColon)

/-- No number begins with a letter. -/
theorem toDigits_ne {index : Nat} {letter : Char} {rest : List Char}
    (notDigit : letter.isDigit = false) : Nat.toDigits 10 index ≠ letter :: rest := by
  intro same
  have isDigit : letter.isDigit = true := digit_of_toDigits (same ▸ List.mem_cons_self)
  rw [notDigit] at isDigit
  cases isDigit

theorem PublicationStep.word_inj {one other : PublicationStep} (same : one.word = other.word) :
    one = other := by
  cases one with
  | candidate index =>
      cases other with
      | candidate number =>
          have isIndex : Nat.ofDigitChars 10 (Nat.toDigits 10 index) 0 =
              Nat.ofDigitChars 10 (Nat.toDigits 10 number) 0 := congrArg (Nat.ofDigitChars 10 · 0) same
          simp only [Nat.ofDigitChars_ten_toDigits] at isIndex
          rw [isIndex]
      | artifact => exact absurd same (toDigits_ne (by decide))
      | page => exact absurd same (toDigits_ne (by decide))
      | publish => exact absurd same (toDigits_ne (by decide))
  | artifact | page | publish =>
      cases other with
      | candidate number => exact absurd same.symm (toDigits_ne (by decide))
      | artifact | page | publish => first | rfl | cases same

/-- The last word tells what an id is made for. -/
theorem word_inj {one other : Derivation} {word : List Char} (notOwn : one ≠ .phase .own)
    (notOwn' : other ≠ .phase .own) (isOne : one.Word word) (isOther : other.Word word) :
    one = other := by
  have digits : ∀ index letter rest, letter :: rest = Nat.toDigits 10 index →
      letter.isDigit = true :=
    fun index letter rest isNumber => digit_of_toDigits (isNumber ▸ List.mem_cons_self)
  have heads : ∀ step : PublicationStep, ∃ letter rest, step.word = letter :: rest ∧
      (letter.isDigit = true ∨ letter = 'a' ∨ letter = 'p') := by
    intro step
    cases step with
    | candidate index =>
        cases isNumber : Nat.toDigits 10 index with
        | nil => exact absurd isNumber Nat.toDigits_ne_nil
        | cons letter rest => exact ⟨letter, rest, isNumber, .inl (digits index _ _ isNumber.symm)⟩
    | artifact => exact ⟨_, _, rfl, .inr (.inl rfl)⟩
    | page => exact ⟨_, _, rfl, .inr (.inr rfl)⟩
    | publish => exact ⟨_, _, rfl, .inr (.inr rfl)⟩
  have words : ∀ phase : Phase, phase ≠ .own → ∀ left, ∃ letter rest,
      phase.word.take (left + 1) = letter :: rest ∧ letter.isDigit = false ∧ letter ≠ 'a' ∧
        letter ≠ 'p' := by
    intro phase notOwn left
    cases phase with
    | own => exact absurd rfl notOwn
    | _ => exact ⟨_, _, rfl, by decide, by decide, by decide⟩
  have apart : ∀ phase : Phase, phase ≠ .own → ∀ left (step : PublicationStep),
      phase.word.take (left + 1) ≠ step.word := by
    intro phase notOwn left step same
    obtain ⟨letter, rest, isWord, notDigit, notA, notP⟩ := words phase notOwn left
    obtain ⟨first, others, isHead, kinds⟩ := heads step
    rw [isWord, isHead] at same
    obtain rfl := (List.cons.inj same).1
    rcases kinds with isDigit | isA | isP
    · rw [notDigit] at isDigit
      cases isDigit
    · exact notA isA
    · exact notP isP
  cases one with
  | phase phase =>
      obtain ⟨left, rfl⟩ := isOne
      have isPhase : phase ≠ .own := fun isOwn => notOwn (isOwn ▸ rfl)
      cases other with
      | phase other =>
          obtain ⟨right, same⟩ := isOther
          exact congrArg _ (Phase.word_inj isPhase (fun isOwn => notOwn' (isOwn ▸ rfl)) same)
      | publication step => exact absurd isOther (apart phase isPhase left step)
  | publication step =>
      cases other with
      | phase phase =>
          obtain ⟨left, same⟩ := isOther
          have isPhase : phase ≠ .own := fun isOwn => notOwn' (isOwn ▸ rfl)
          exact absurd (same.symm.trans isOne) (apart phase isPhase left step)
      | publication other => exact congrArg _ (PublicationStep.word_inj (isOne.symm.trans isOther))

/-- Commands with room for their suffixes and apart from one another use no id twice. -/
theorem usedId_inj {first second : DraftCall} {one other : Derivation} (roomy : RoomyIds first)
    (roomy' : RoomyIds second) (apart : ApartIds first second) (apart' : ApartIds second first)
    (uses : first.uses one) (uses' : second.uses other)
    (same : usedId first.commandId one = usedId second.commandId other) :
    first.commandId = second.commandId ∧ one = other := by
  have own : ∀ call : DraftCall, RoomyIds call →
      usedId call.commandId (.phase .own) = call.commandId := by
    intro call roomy
    have admitted : call.commandId.toList.length ≤ 160 :=
      String.length_toList.trans_le roomy.admitted
    have isSame : (call.commandId ++ Phase.own.suffix).toList = call.commandId.toList := by
      rw [String.toList_append]
      exact List.append_nil _
    change prefixOf (call.commandId ++ Phase.own.suffix) 160 = _
    rw [prefixOf, isSame, List.take_of_length_le admitted, String.ofList_toList]
  by_cases isOwn : one = .phase .own
  · subst isOwn
    rw [own first roomy] at same
    by_cases isOwn' : other = .phase .own
    · subst isOwn'
      rw [own second roomy'] at same
      exact ⟨same, rfl⟩
    · exact absurd same (apart.notDerived other uses' isOwn')
  · by_cases isOwn' : other = .phase .own
    · subst isOwn'
      rw [own second roomy'] at same
      exact absurd same.symm (apart'.notDerived one uses isOwn)
    · obtain ⟨word, parts, isWord⟩ := usedId_parts roomy uses isOwn
      obtain ⟨word', parts', isWord'⟩ := usedId_parts roomy' uses' isOwn'
      obtain ⟨sameBase, rfl⟩ := last_word parts.noColon parts'.noColon
        (parts.joined.symm.trans ((congrArg String.toList same).trans parts'.joined))
      obtain rfl := word_inj isOwn isOwn' isWord isWord'
      refine ⟨?_, rfl⟩
      cases one with
      | phase phase => exact String.toList_injective sameBase
      | publication step =>
          have samePublication : publicationId first.commandId = publicationId second.commandId := by
            refine String.toList_injective ?_
            cases step with
            | candidate index => exact List.append_cancel_right sameBase
            | artifact => exact sameBase
            | page => exact sameBase
            | publish => exact sameBase
          cases first with
          | confirm one =>
              cases second with
              | confirm other => exact apart.prefixes one other rfl rfl samePublication
              | save _ => cases uses'
              | cancel _ => cases uses'
              | prepare _ => obtain ⟨phase, isPhase⟩ := uses'; cases isPhase
          | save _ => cases uses
          | cancel _ => cases uses
          | prepare _ => obtain ⟨phase, isPhase⟩ := uses; cases isPhase

end Shiliu.Drafts
