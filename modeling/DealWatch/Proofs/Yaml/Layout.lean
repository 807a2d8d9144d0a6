import DealWatch.Proofs.Failure
import DealWatch.Yaml.Layout

/-!
# Which failures the tokens of a text can have

* `Fault` lists the failures of reading a document in YAML;
* `Layout.takeNext_failsOnly` says that the next token of a text fails only with them, and
  `fault_of_tokens` that nothing else is wrong behind the tokens of a text.

There is a lemma for each reader, and it is put together of those for its steps, as the reader is.
Nothing is said of the tokens themselves.
-/

namespace DealWatch

namespace Yaml

open Outcome

/-- The failures of reading a document. Only the first of them is about YAML itself; the others come
of values that its scalars do not write, and of documents without an end. -/
inductive Fault : Failure → Prop
  | badYaml : Fault .badYaml
  | badScalar : Fault .badScalar
  | emptyNumber : Fault .emptyNumber
  | wideEscape : Fault .wideEscape
  | endless : Fault .endless
  | missingKey (key : String) : Fault (.missingKey key)
  | wrongKind (message : String) : Fault (.wrongKind message)
  | missingAttribute (message : String) : Fault (.missingAttribute message)

theorem failsOnly_badYaml {α : Type} : FailsOnly Fault (.error .badYaml : Outcome α) :=
  failsOnly_error.2 .badYaml

theorem require_failsOnly (condition : Bool) : FailsOnly Fault (Cursor.require condition) := by
  unfold Cursor.require
  exact .ite (failsOnly_ok ()) failsOnly_badYaml

theorem endLine_failsOnly (c : Cursor) : FailsOnly Fault c.endLine :=
  (require_failsOnly _).bind fun _ => failsOnly_ok _

/-! ### Tokens made of names -/

theorem readName_failsOnly (c : Cursor) : FailsOnly Fault (readName c) :=
  (require_failsOnly _).bind fun _ => (require_failsOnly _).bind fun _ => failsOnly_ok _

theorem readEscapes_failsOnly (cs : List Char) : FailsOnly Fault (readEscapes cs) := by
  fun_induction readEscapes cs with
  | case1 a b rest x y ha hb ih => exact ih.bind fun _ => failsOnly_ok _
  | case2 | case3 => exact failsOnly_badYaml
  | case4 => exact failsOnly_ok _

theorem readTagChars_failsOnly (fuel : Nat) (c : Cursor) :
    FailsOnly Fault (readTagChars fuel c) := by
  induction fuel generalizing c with
  | zero => exact failsOnly_ok _
  | succ fuel ih =>
    rw [readTagChars]
    dsimp only [Cursor.span]
    split
    · refine (readEscapes_failsOnly _).bind fun (bytes, rest) => ?_
      dsimp only
      split
      · exact failsOnly_badYaml
      · exact (ih _).bind fun _ => failsOnly_ok _
    · exact failsOnly_ok _

theorem readTagRest_failsOnly (c : Cursor) : FailsOnly Fault (readTagRest c) :=
  (readTagChars_failsOnly _ _).bind fun _ => (require_failsOnly _).bind fun _ => failsOnly_ok _

theorem readHandle_failsOnly (c : Cursor) : FailsOnly Fault (readHandle c) := by
  refine (require_failsOnly _).bind fun _ => .ite (failsOnly_ok _) ?_
  exact (require_failsOnly _).bind fun _ => failsOnly_ok _

theorem readTag_failsOnly (c : Cursor) : FailsOnly Fault (readTag c) := by
  refine FailsOnly.bind ?_ fun _ => (require_failsOnly _).bind fun _ => failsOnly_ok _
  dsimp only
  split
  · exact (readTagRest_failsOnly _).bind fun _ => (require_failsOnly _).bind fun _ => failsOnly_ok _
  · split
    · exact failsOnly_ok _
    · have hrest : ∀ (handle : String) (c : Cursor), FailsOnly Fault
          (readTagRest c >>= fun r => return (Token.tag (some handle) r.1, r.2)) :=
        fun handle c => (readTagRest_failsOnly c).bind fun _ => failsOnly_ok _
      split
      · exact (readHandle_failsOnly c).bind fun r => hrest r.1 r.2
      · exact hrest "!" c.next

theorem readNumber_failsOnly (c : Cursor) : FailsOnly Fault (readNumber c) :=
  (require_failsOnly _).bind fun _ => failsOnly_ok _

theorem readDirectiveValue_failsOnly (name : String) (c : Cursor) :
    FailsOnly Fault (readDirectiveValue name c) := by
  unfold readDirectiveValue
  split
  · refine (readNumber_failsOnly _).bind fun _ => (require_failsOnly _).bind fun _ => ?_
    exact (readNumber_failsOnly _).bind fun _ => (require_failsOnly _).bind fun _ => failsOnly_ok _
  · split
    · refine (readHandle_failsOnly _).bind fun _ => (require_failsOnly _).bind fun _ => ?_
      exact (readTagRest_failsOnly _).bind fun _ =>
        (require_failsOnly _).bind fun _ => failsOnly_ok _
    · exact failsOnly_ok _

theorem readDirective_failsOnly (c : Cursor) : FailsOnly Fault (readDirective c) :=
  (require_failsOnly _).bind fun _ => (require_failsOnly _).bind fun _ =>
    (readDirectiveValue_failsOnly _ _).bind fun _ => (endLine_failsOnly _).bind fun _ =>
      failsOnly_ok _

/-! ### Block scalars -/

theorem readIncrement_failsOnly (c : Cursor) : FailsOnly Fault (readIncrement c) := by
  unfold readIncrement
  split
  · exact .ite ((require_failsOnly _).bind fun _ => failsOnly_ok _) (failsOnly_ok _)
  · exact failsOnly_ok _

theorem readHead_failsOnly (c : Cursor) : FailsOnly Fault (readHead c) := by
  refine FailsOnly.bind ?_ fun _ => (require_failsOnly _).bind fun _ => failsOnly_ok _
  split
  · exact (readIncrement_failsOnly _).bind fun _ => failsOnly_ok _
  · refine (readIncrement_failsOnly _).bind fun (increment, c) => ?_
    dsimp only
    split
    · exact failsOnly_ok _
    · exact failsOnly_ok _

theorem readBlock_failsOnly (folded : Bool) (outer : Int) (c : Cursor) :
    FailsOnly Fault (readBlock folded outer c) := by
  refine (readHead_failsOnly _).bind fun (chomping, increment, c) => ?_
  refine (endLine_failsOnly _).bind fun c => ?_
  exact failsOnly_pure _

/-! ### Quoted scalars -/

theorem foldedBreaks_failsOnly (fuel : Nat) (c : Cursor) :
    FailsOnly Fault (foldedBreaks fuel c) := by
  induction fuel generalizing c with
  | zero => exact failsOnly_ok _
  | succ fuel ih =>
    rw [foldedBreaks]
    refine (require_failsOnly _).bind fun _ => ?_
    exact .ite ((ih _).bind fun _ => failsOnly_ok _) (failsOnly_ok _)

theorem readNumbered_failsOnly (digits : List Char) : FailsOnly Fault (readNumbered digits) := by
  unfold readNumbered
  split
  · unfold pointOfNumber
    exact .ite (failsOnly_error.2 .wideEscape) (.ite (failsOnly_error.2 .badScalar)
      (failsOnly_ok _))
  · exact failsOnly_badYaml

theorem readEscape_failsOnly (c : Cursor) : FailsOnly Fault (readEscape c) := by
  unfold readEscape
  split
  · exact failsOnly_badYaml
  · split
    · exact failsOnly_ok _
    · exact (require_failsOnly _).bind fun _ => (readNumbered_failsOnly _).bind fun _ =>
        failsOnly_ok _
    · exact (require_failsOnly _).bind fun _ => (foldedBreaks_failsOnly _ _).bind fun _ =>
        failsOnly_ok _

theorem readQuotedFrom_failsOnly (double : Bool) (fuel : Nat) (c : Cursor) :
    FailsOnly Fault (readQuotedFrom double fuel c) := by
  induction fuel generalizing c with
  | zero => exact failsOnly_badYaml
  | succ fuel ih =>
    have hrest : ∀ (part : List CodePoint) (c : Cursor), FailsOnly Fault
        (readQuotedFrom double fuel c >>= fun r => return (part ++ r.1, r.2)) :=
      fun part c => (ih c).bind fun _ => failsOnly_ok _
    rw [readQuotedFrom]
    split
    · exact failsOnly_badYaml
    · split
      · refine FailsOnly.bind ?_ fun r => hrest (r.1.map .char) r.2
        split
        · exact (foldedBreaks_failsOnly _ _).bind fun _ => failsOnly_ok _
        · exact failsOnly_ok _
      · split
        · exact (readEscape_failsOnly _).bind fun r => hrest r.1 r.2
        · split
          · exact hrest [.char '\''] _
          · exact .ite (failsOnly_ok _) (hrest [.char _] _)

theorem readQuoted_failsOnly (double : Bool) (c : Cursor) :
    FailsOnly Fault (readQuoted double c) :=
  (readQuotedFrom_failsOnly _ _ _).bind fun _ => failsOnly_ok _

/-! ### Layout -/

namespace Layout

theorem fail_failsOnly {α : Type} : StepFailsOnly Fault (fail : Scan α) :=
  stepFailsOnly_throw .badYaml

theorem emit_failsOnly (t : Token) : StepFailsOnly Fault (emit t) := stepFailsOnly_modify

theorem insert_failsOnly (position : Nat) (t : Token) : StepFailsOnly Fault (insert position t) :=
  stepFailsOnly_modify

theorem move_failsOnly (n : Nat) : StepFailsOnly Fault (move n) := stepFailsOnly_modify

theorem allowKey_failsOnly (allowed : Bool) : StepFailsOnly Fault (allowKey allowed) :=
  stepFailsOnly_modify

theorem dropCandidate_failsOnly : StepFailsOnly Fault dropCandidate := by
  refine stepFailsOnly_get.bind fun s => ?_
  dsimp only
  split
  · exact .ite (fail_failsOnly.bind fun _ => stepFailsOnly_modify) stepFailsOnly_modify
  · exact stepFailsOnly_modify

theorem dropStale_failsOnly : StepFailsOnly Fault dropStale :=
  stepFailsOnly_get.bind fun _ =>
    .ite (fail_failsOnly.bind fun _ => stepFailsOnly_set) stepFailsOnly_set

theorem noteCandidate_failsOnly : StepFailsOnly Fault noteCandidate :=
  stepFailsOnly_get.bind fun _ =>
    .ite (dropCandidate_failsOnly.bind fun _ => stepFailsOnly_modify) (stepFailsOnly_pure _)

theorem closeBlocks_failsOnly (column : Int) (outer : List Int) :
    StepFailsOnly Fault (closeBlocks column outer) := by
  induction outer with
  | nil => exact stepFailsOnly_pure _
  | cons i outer ih =>
    refine stepFailsOnly_get.bind fun _ => .ite ?_ (stepFailsOnly_pure _)
    exact stepFailsOnly_modify.bind fun _ => (emit_failsOnly _).bind fun _ => ih

theorem unwind_failsOnly (column : Int) : StepFailsOnly Fault (unwind column) :=
  stepFailsOnly_get.bind fun _ => .ite (stepFailsOnly_pure _) (closeBlocks_failsOnly _ _)

theorem openBlock_failsOnly (column position : Nat) (t : Token) :
    StepFailsOnly Fault (openBlock column position t) :=
  stepFailsOnly_get.bind fun _ =>
    .ite (stepFailsOnly_set.bind fun _ => insert_failsOnly _ _) (stepFailsOnly_pure _)

theorem skipGap_failsOnly (fuel : Nat) : StepFailsOnly Fault (skipGap fuel) := by
  induction fuel with
  | zero => exact stepFailsOnly_pure _
  | succ fuel ih =>
    exact stepFailsOnly_get.bind fun _ =>
      .ite (stepFailsOnly_set.bind fun _ => ih) stepFailsOnly_set

theorem accept_failsOnly {read : Outcome (Token × Cursor)} (h : FailsOnly Fault read) :
    StepFailsOnly Fault (accept read) :=
  h.lift.bind fun _ => (emit_failsOnly _).bind fun _ => stepFailsOnly_modify

theorem acceptNode_failsOnly {read : Cursor → Outcome (Token × Cursor)}
    (h : ∀ c, FailsOnly Fault (read c)) : StepFailsOnly Fault (acceptNode read) :=
  noteCandidate_failsOnly.bind fun _ => (allowKey_failsOnly _).bind fun _ =>
    stepFailsOnly_get.bind fun _ => accept_failsOnly (h _)

theorem takeDirective_failsOnly : StepFailsOnly Fault takeDirective :=
  (unwind_failsOnly _).bind fun _ => dropCandidate_failsOnly.bind fun _ =>
    (allowKey_failsOnly _).bind fun _ => stepFailsOnly_get.bind fun _ =>
      accept_failsOnly (readDirective_failsOnly _)

theorem takeSeparator_failsOnly (t : Token) : StepFailsOnly Fault (takeSeparator t) :=
  (unwind_failsOnly _).bind fun _ => dropCandidate_failsOnly.bind fun _ =>
    (allowKey_failsOnly _).bind fun _ => (move_failsOnly _).bind fun _ => emit_failsOnly _

theorem takeOpening_failsOnly (t : Token) : StepFailsOnly Fault (takeOpening t) :=
  noteCandidate_failsOnly.bind fun _ => stepFailsOnly_modify.bind fun _ =>
    (allowKey_failsOnly _).bind fun _ => (move_failsOnly _).bind fun _ => emit_failsOnly _

theorem takeClosing_failsOnly (t : Token) : StepFailsOnly Fault (takeClosing t) :=
  dropCandidate_failsOnly.bind fun _ => stepFailsOnly_modify.bind fun _ =>
    (allowKey_failsOnly _).bind fun _ => (move_failsOnly _).bind fun _ => emit_failsOnly _

/-- How the signs of entries, keys and values end. -/
theorem takeSign_failsOnly (allowed : Bool) (t : Token) : StepFailsOnly Fault (do
    allowKey allowed
    dropCandidate
    move 1
    emit t) :=
  (allowKey_failsOnly _).bind fun _ => dropCandidate_failsOnly.bind fun _ =>
    (move_failsOnly _).bind fun _ => emit_failsOnly _

theorem takeEntry_failsOnly : StepFailsOnly Fault takeEntry := by
  refine stepFailsOnly_get.bind fun s => ?_
  have hsign := takeSign_failsOnly true .blockEntry
  have hopen := (openBlock_failsOnly s.cursor.column s.count .blockSequenceStart).bind
    fun _ => hsign
  exact .ite hsign (.ite hopen (fail_failsOnly.bind fun _ => hopen))

theorem takeKey_failsOnly : StepFailsOnly Fault takeKey := by
  refine stepFailsOnly_get.bind fun s => ?_
  have hsign := takeSign_failsOnly (!s.inFlow) .key
  have hopen := (openBlock_failsOnly s.cursor.column s.count .blockMappingStart).bind
    fun _ => hsign
  exact .ite hsign (.ite hopen (fail_failsOnly.bind fun _ => hopen))

theorem takeValue_failsOnly : StepFailsOnly Fault takeValue := by
  refine stepFailsOnly_get.bind fun s => ?_
  dsimp only
  split
  · rename_i k _
    have hend : StepFailsOnly Fault (do
        allowKey false
        move 1
        emit .value) :=
      (allowKey_failsOnly _).bind fun _ => (move_failsOnly _).bind fun _ => emit_failsOnly _
    refine stepFailsOnly_set.bind fun _ => (insert_failsOnly _ _).bind fun _ => ?_
    exact .ite hend ((openBlock_failsOnly _ _ _).bind fun _ => hend)
  · have hsign := takeSign_failsOnly (!s.inFlow) .value
    have hopen := (openBlock_failsOnly s.cursor.column s.count .blockMappingStart).bind
      fun _ => hsign
    exact .ite hsign (.ite hopen (fail_failsOnly.bind fun _ => hopen))

theorem takeBlock_failsOnly (folded : Bool) : StepFailsOnly Fault (takeBlock folded) :=
  (allowKey_failsOnly _).bind fun _ => dropCandidate_failsOnly.bind fun _ =>
    stepFailsOnly_get.bind fun _ => accept_failsOnly (readBlock_failsOnly _ _ _)

theorem takePlain_failsOnly : StepFailsOnly Fault takePlain :=
  noteCandidate_failsOnly.bind fun _ => stepFailsOnly_get.bind fun _ =>
    stepFailsOnly_set.bind fun _ => emit_failsOnly _

theorem takeToken_failsOnly (c : Cursor) (flow : Bool) (ch : Char) (rest : List Char) :
    StepFailsOnly Fault (takeToken c flow ch rest) := by
  have hname : ∀ (t : String → Token) (c : Cursor), FailsOnly Fault
      (readName c >>= fun r => return (t r.1, r.2)) :=
    fun t c => (readName_failsOnly c).bind fun _ => failsOnly_ok _
  refine .ite takeDirective_failsOnly ?_
  refine .ite (takeSeparator_failsOnly _) (.ite (takeSeparator_failsOnly _) ?_)
  refine .ite (takeOpening_failsOnly _) (.ite (takeOpening_failsOnly _) ?_)
  refine .ite (takeClosing_failsOnly _) (.ite (takeClosing_failsOnly _) ?_)
  refine .ite (takeSign_failsOnly true .flowEntry) ?_
  refine .ite takeEntry_failsOnly (.ite takeKey_failsOnly (.ite takeValue_failsOnly ?_))
  refine .ite (acceptNode_failsOnly (hname .alias)) (.ite (acceptNode_failsOnly (hname .anchor)) ?_)
  refine .ite (acceptNode_failsOnly readTag_failsOnly) ?_
  refine .ite (takeBlock_failsOnly _) (.ite (takeBlock_failsOnly _) ?_)
  refine .ite (acceptNode_failsOnly (readQuoted_failsOnly _)) ?_
  refine .ite (acceptNode_failsOnly (readQuoted_failsOnly _)) ?_
  exact .ite takePlain_failsOnly fail_failsOnly

theorem takeNext_failsOnly : StepFailsOnly Fault takeNext := by
  refine stepFailsOnly_get.bind fun _ => (skipGap_failsOnly _).bind fun _ => ?_
  refine dropStale_failsOnly.bind fun _ => stepFailsOnly_get.bind fun _ => ?_
  refine (unwind_failsOnly _).bind fun _ => stepFailsOnly_get.bind fun s => ?_
  split
  · exact (unwind_failsOnly _).bind fun _ => dropCandidate_failsOnly.bind fun _ =>
      stepFailsOnly_pure _
  · exact (takeToken_failsOnly _ _ _ _).bind fun _ => stepFailsOnly_pure _

/-- What is wrong behind the tokens of a text is a fault of the document. -/
theorem toTokens_fault (fuel : Nat) (s : Layout) :
    ∀ f ∈ (s.toTokens fuel).fault, Fault f := by
  induction fuel generalizing s with
  | zero => exact fun _ => nofun
  | succ fuel ih =>
    rw [toTokens]
    split
    · exact ih _
    · exact fun _ => nofun
    · rename_i f hrun
      rintro _ ⟨⟩
      exact takeNext_failsOnly.fails s trivial _ hrun

end Layout

theorem tokens_failsOnly (cs : List Char) : FailsOnly Fault (tokens cs) :=
  (require_failsOnly _).bind fun _ => failsOnly_ok _

theorem fault_of_tokens {cs : List Char} {ts : Tokens} (h : tokens cs = .ok ts) :
    ∀ f ∈ ts.fault, Fault f := by
  obtain ⟨_, -, hts⟩ := Outcome.bind_eq_ok.1 h
  cases hts
  exact Layout.toTokens_fault _ _

end Yaml

end DealWatch
