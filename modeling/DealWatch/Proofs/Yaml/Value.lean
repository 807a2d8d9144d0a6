import DealWatch.Proofs.Yaml.Layout
import DealWatch.Yaml.Value

/-!
# Which failures a document can have

A document is read in two parts. Its tokens form nodes, and what is wrong in the text behind the
tokens is met when they are used up; then values are made of the nodes, which fails in ways of its
own.

* `Composer.Sound` says that a step of composing nodes fails only with faults of the document, and
  `Composer.soundWithin` that the functions that call each other do so;
* `read_failsOnly` says the same of a whole text.

The functions that compose nodes call each other with less fuel, so what is claimed of them is
claimed of all at once and proved by induction on the fuel (`Composer.SoundWithin`). Each step keeps
what is assumed of the tokens, that what is wrong behind them is such a fault.
-/

namespace DealWatch

namespace Yaml

open Outcome

/-! ### Composition -/

namespace Composer

/-- What is wrong behind the tokens is a fault of the document. -/
def EndsFaulty (s : Composer) : Prop := ∀ f ∈ s.tokens.fault, Fault f

/-- A step of composing nodes that fails only with faults of the document. -/
abbrev Sound {α : Type} (m : Compose α) : Prop := StepFailsOnlyFrom EndsFaulty Fault m

variable {α : Type}

theorem sound_bad : Sound (throw .badYaml : Compose α) := stepFailsOnly_throw .badYaml

theorem sound_peek : Sound peek := by
  constructor
  · intro s hs
    rcases s with ⟨⟨_ | ⟨t, ts⟩, _ | f⟩, handles, anchors, nodes⟩
    · exact failsOnly_ok _
    · exact failsOnly_error.2 (hs f rfl)
    · exact failsOnly_ok _
    · exact failsOnly_ok _
  · intro s hs a s' hrun
    rcases s with ⟨⟨_ | ⟨t, ts⟩, _ | f⟩, handles, anchors, nodes⟩
    · cases hrun
      exact hs
    · cases hrun
    · cases hrun
      exact hs
    · cases hrun
      exact hs

theorem sound_skip (count : Nat) : Sound (skip count) := stepFailsOnlyFrom_modify fun _ => id

theorem sound_nextIs (ts : List Token) : Sound (nextIs ts) :=
  sound_peek.bind fun _ => stepFailsOnly_pure _

theorem sound_expect (t : Token) : Sound (expect t) :=
  (sound_nextIs _).bind fun _ => .ite (sound_skip 1) sound_bad

theorem sound_takeAnchor : Sound takeAnchor := by
  refine sound_peek.bind fun t => ?_
  split
  · exact (sound_skip 1).bind fun _ => stepFailsOnly_pure _
  · exact stepFailsOnly_pure _

theorem sound_takeTag : Sound takeTag := by
  refine sound_peek.bind fun t => ?_
  split
  · exact (sound_skip 1).bind fun _ => stepFailsOnly_pure _
  · exact stepFailsOnly_pure _

theorem sound_fullTag (tag : Option String × String) : Sound (fullTag tag) := by
  unfold fullTag
  split
  · exact stepFailsOnly_pure _
  · refine stepFailsOnly_get.bind fun s => ?_
    split
    · exact stepFailsOnly_pure _
    · exact sound_bad

theorem sound_takeProperties : Sound takeProperties := by
  refine sound_takeTag.bind fun before => sound_takeAnchor.bind fun name => ?_
  extract_lets rest
  have hrest : ∀ tag, Sound (rest tag) := by
    intro tag
    unfold rest
    split
    · exact (sound_fullTag _).bind fun _ => stepFailsOnly_pure _
    · exact stepFailsOnly_pure _
  exact .ite (sound_takeTag.bind hrest) ((stepFailsOnly_pure _).bind hrest)

theorem sound_add (n : Node) : Sound (add n) :=
  stepFailsOnly_get.bind fun _ =>
    .bind (stepFailsOnlyFrom_modify fun _ => id) fun _ => stepFailsOnly_pure _

theorem sound_define (name : Option String) (n : Node) : Sound (define name n) := by
  unfold define
  split
  · exact sound_add n
  · rename_i name
    have hnew : Sound (do
        let id ← add n
        modify fun s => { s with anchors := (name, id) :: s.anchors }
        return id) :=
      (sound_add n).bind fun _ =>
        .bind (stepFailsOnlyFrom_modify fun _ => id) fun _ => stepFailsOnly_pure _
    exact stepFailsOnly_get.bind fun _ => .ite (sound_bad.bind fun _ => hnew) hnew

theorem sound_fill (i : NodeId) (n : Node) : Sound (fill i n) :=
  .bind (stepFailsOnlyFrom_modify fun _ => id) fun _ => stepFailsOnly_pure _

theorem sound_aliased (name : String) : Sound (aliased name) := by
  refine stepFailsOnly_get.bind fun s => ?_
  split
  · exact stepFailsOnly_pure _
  · exact sound_bad

theorem sound_below (levels : Nat) : Sound (below levels) := by
  cases levels with
  | zero => exact stepFailsOnly_throw .endless
  | succ levels => exact stepFailsOnly_pure _

/-- A collection is in the table before its parts are. -/
theorem sound_collection {β : Type} (name : Option String) (empty : Node) (whole : β → Node)
    (levels : Nat) {parts : Nat → Compose β} (h : ∀ inner, Sound (parts inner)) : Sound (do
      let id ← define name empty
      fill id (whole (← parts (← below levels)))) :=
  (sound_define _ _).bind fun _ => (sound_below _).bind fun _ => (h _).bind fun _ => sound_fill _ _

/-- The functions that compose nodes, with a bound on the depth of their calls. -/
structure SoundWithin (fuel : Nat) : Prop where
  node : ∀ place levels, Sound (node place levels fuel)
  content : ∀ place levels name tag, Sound (content place levels name tag fuel)
  optionalNode : ∀ place ends levels, Sound (optionalNode place ends levels fuel)
  blockItems : ∀ levels, Sound (blockItems levels fuel)
  looseItems : ∀ levels, Sound (looseItems levels fuel)
  optionalValue : ∀ place ends levels, Sound (optionalValue place ends levels fuel)
  blockEntries : ∀ levels, Sound (blockEntries levels fuel)
  flowItems : ∀ first levels, Sound (flowItems first levels fuel)
  flowEntries : ∀ first levels, Sound (flowEntries first levels fuel)

namespace SoundWithin

variable {fuel : Nat}

theorem zero : SoundWithin 0 where
  node _ _ := sound_bad
  content _ _ _ _ := sound_bad
  optionalNode _ _ _ := sound_bad
  blockItems _ := sound_bad
  looseItems _ := sound_bad
  optionalValue _ _ _ := sound_bad
  blockEntries _ := sound_bad
  flowItems _ _ := sound_bad
  flowEntries _ _ := sound_bad

theorem node_succ (h : SoundWithin fuel) (place : Place) (levels : Nat) :
    Sound (Composer.node place levels (fuel + 1)) := by
  refine sound_peek.bind fun t => ?_
  split
  · exact (sound_skip 1).bind fun _ => sound_aliased _
  · exact sound_takeProperties.bind fun (name, tag) => h.content place levels name tag

theorem content_succ (h : SoundWithin fuel) (place : Place) (levels : Nat)
    (name tag : Option String) : Sound (Composer.content place levels name tag (fuel + 1)) := by
  refine sound_peek.bind fun t => ?_
  split
  · exact sound_collection _ _ _ _ h.looseItems
  · exact (sound_skip 1).bind fun _ => sound_define _ _
  · exact (sound_skip 1).bind fun _ => sound_collection _ _ _ _ (h.flowItems true)
  · exact (sound_skip 1).bind fun _ => sound_collection _ _ _ _ (h.flowEntries true)
  · exact (sound_skip 1).bind fun _ => sound_collection _ _ _ _ h.blockItems
  · exact (sound_skip 1).bind fun _ => sound_collection _ _ _ _ h.blockItems
  · exact (sound_skip 1).bind fun _ => sound_collection _ _ _ _ h.blockEntries
  · exact (sound_skip 1).bind fun _ => sound_collection _ _ _ _ h.blockEntries
  · exact .ite (sound_define _ _) sound_bad

theorem optionalNode_succ (h : SoundWithin fuel) (place : Place) (ends : List Token)
    (levels : Nat) : Sound (Composer.optionalNode place ends levels (fuel + 1)) :=
  (sound_nextIs _).bind fun _ => .ite (sound_add _) (h.node place levels)

theorem blockItems_succ (h : SoundWithin fuel) (levels : Nat) :
    Sound (Composer.blockItems levels (fuel + 1)) := by
  refine (sound_nextIs _).bind fun _ => .ite ?_ ?_
  · exact (sound_skip 1).bind fun _ => (h.optionalNode _ _ _).bind fun _ =>
      (h.blockItems levels).bind fun _ => stepFailsOnly_pure _
  · exact (sound_expect _).bind fun _ => stepFailsOnly_pure _

theorem looseItems_succ (h : SoundWithin fuel) (levels : Nat) :
    Sound (Composer.looseItems levels (fuel + 1)) := by
  refine (sound_nextIs _).bind fun _ => .ite ?_ (stepFailsOnly_pure _)
  exact (sound_skip 1).bind fun _ => (h.optionalNode _ _ _).bind fun _ =>
    (h.looseItems levels).bind fun _ => stepFailsOnly_pure _

theorem optionalValue_succ (h : SoundWithin fuel) (place : Place) (ends : List Token)
    (levels : Nat) : Sound (Composer.optionalValue place ends levels (fuel + 1)) :=
  (sound_nextIs _).bind fun _ =>
    .ite ((sound_skip 1).bind fun _ => h.optionalNode _ _ _) (sound_add _)

theorem blockEntries_succ (h : SoundWithin fuel) (levels : Nat) :
    Sound (Composer.blockEntries levels (fuel + 1)) := by
  refine (sound_nextIs _).bind fun _ => .ite ?_ ?_
  · exact (sound_skip 1).bind fun _ => (h.optionalNode _ _ _).bind fun _ =>
      (h.optionalValue _ _ _).bind fun _ => (h.blockEntries levels).bind fun _ =>
        stepFailsOnly_pure _
  · exact (sound_expect _).bind fun _ => stepFailsOnly_pure _

/-- What a collection in brackets does before its next part. -/
theorem sound_flow {β : Type} (first : Bool) (close : Token) {next : Compose (List β)}
    (h : Sound next) : Sound (do
      if ← nextIs [close] then
        skip 1
        return []
      else
        unless first do expect .flowEntry
        if ← nextIs [close] then
          skip 1
          return []
        else next) := by
  have hend : Sound (do
      skip 1
      return ([] : List β)) := (sound_skip 1).bind fun _ => stepFailsOnly_pure _
  have hnext : Sound (do
      if ← nextIs [close] then
        skip 1
        return []
      else next) := (sound_nextIs _).bind fun _ => .ite hend h
  exact (sound_nextIs _).bind fun _ =>
    .ite hend (.ite hnext ((sound_expect _).bind fun _ => hnext))

theorem flowItems_succ (h : SoundWithin fuel) (first : Bool) (levels : Nat) :
    Sound (Composer.flowItems first levels (fuel + 1)) := by
  refine sound_flow first .flowSequenceEnd ((sound_nextIs _).bind fun _ => .ite ?_ ?_)
  · exact (sound_skip 1).bind fun _ => (sound_below _).bind fun _ =>
      (h.optionalNode _ _ _).bind fun _ => (h.optionalValue _ _ _).bind fun _ =>
        (sound_add _).bind fun _ => (h.flowItems false levels).bind fun _ => stepFailsOnly_pure _
  · exact (h.node _ _).bind fun _ => (h.flowItems false levels).bind fun _ => stepFailsOnly_pure _

theorem flowEntries_succ (h : SoundWithin fuel) (first : Bool) (levels : Nat) :
    Sound (Composer.flowEntries first levels (fuel + 1)) := by
  refine sound_flow first .flowMappingEnd ((sound_nextIs _).bind fun _ => .ite ?_ ?_)
  · exact (sound_skip 1).bind fun _ => (h.optionalNode _ _ _).bind fun _ =>
      (h.optionalValue _ _ _).bind fun _ => (h.flowEntries false levels).bind fun _ =>
        stepFailsOnly_pure _
  · exact (h.node _ _).bind fun _ => (sound_add _).bind fun _ =>
      (h.flowEntries false levels).bind fun _ => stepFailsOnly_pure _

end SoundWithin

theorem soundWithin (fuel : Nat) : SoundWithin fuel := by
  -- The functions call one another with less fuel, so all of them are shown sound at once.
  induction fuel with
  | zero => exact .zero
  | succ fuel ih =>
    exact ⟨ih.node_succ, ih.content_succ, ih.optionalNode_succ, ih.blockItems_succ,
      ih.looseItems_succ, ih.optionalValue_succ, ih.blockEntries_succ, ih.flowItems_succ,
      ih.flowEntries_succ⟩

theorem handlesOf_failsOnly (hasVersion : Bool) (handles : List (String × String))
    (ds : List Directive) : FailsOnly Fault (handlesOf hasVersion handles ds) := by
  fun_induction handlesOf hasVersion handles ds with
  | case1 => exact failsOnly_ok _
  | case2 | case4 => exact failsOnly_badYaml
  | case3 _ _ _ _ _ ih | case5 _ _ _ _ _ _ ih | case6 _ _ _ ih => exact ih

theorem sound_takeStart : Sound takeStart :=
  stepFailsOnly_get.bind fun _ => (handlesOf_failsOnly _ _ _).lift.bind fun _ =>
    (sound_skip _).bind fun _ =>
      .bind (stepFailsOnlyFrom_modify fun _ => id) fun _ => sound_expect _

theorem sound_document : Sound document := by
  have hnode : ∀ fuel, Sound (do return some (← node .block maxLevels fuel)) :=
    fun fuel => ((soundWithin fuel).node _ _).bind fun _ => stepFailsOnly_pure _
  refine stepFailsOnly_get.bind fun _ => sound_peek.bind fun t => ?_
  have hstart : ∀ fuel, Sound (do
      takeStart
      if isDocumentEnd (← peek) then return some (← add .absent)
      else return some (← node .block maxLevels fuel)) := fun fuel =>
    sound_takeStart.bind fun _ => sound_peek.bind fun _ =>
      .ite ((sound_add _).bind fun _ => stepFailsOnly_pure _) (hnode fuel)
  split
  · exact stepFailsOnly_pure _
  · exact hstart _
  · exact hstart _
  · exact hnode _

theorem sound_finish : Sound finish :=
  stepFailsOnly_get.bind fun _ => (sound_skip _).bind fun _ => sound_peek.bind fun _ =>
    .ite (sound_takeStart.bind fun _ => sound_bad) (stepFailsOnly_pure _)

end Composer

theorem ofTokens_failsOnly {ts : Tokens} (h : ∀ f ∈ ts.fault, Fault f) :
    FailsOnly Fault (Graph.ofTokens ts) := by
  have hstep : Composer.Sound (do
      let root ← Composer.document
      if root.isSome then Composer.finish
      return root) :=
    Composer.sound_document.bind fun _ =>
      .ite (Composer.sound_finish.bind fun _ => stepFailsOnly_pure _) (stepFailsOnly_pure _)
  exact (hstep.fails ⟨ts, Composer.standardHandles, [], #[]⟩ h).bind fun _ => failsOnly_ok _

/-! ### Scalars -/

theorem numberText_failsOnly (s : String) : FailsOnly Fault (numberText s) := by
  unfold numberText
  exact .ite (failsOnly_error.2 .emptyNumber) (failsOnly_ok _)

theorem orBad_failsOnly {α : Type} (x : Option α) : FailsOnly Fault (orBad x) := by
  cases x with
  | none => exact failsOnly_error.2 .badScalar
  | some a => exact failsOnly_ok a

theorem intValue_failsOnly (s : String) : FailsOnly Fault (intValue s) :=
  (numberText_failsOnly s).bind fun _ =>
    .ite (failsOnly_error.2 .emptyNumber) ((orBad_failsOnly _).bind fun _ => failsOnly_ok _)

theorem floatValue_failsOnly (s : String) : FailsOnly Fault (floatValue s) := by
  refine (numberText_failsOnly _).bind fun (negative, cs) => ?_
  refine FailsOnly.bind ?_ fun _ => failsOnly_ok _
  split
  · exact failsOnly_ok _
  · exact failsOnly_ok _
  · refine (orBad_failsOnly _).bind fun parts => ?_
    split
    · exact failsOnly_ok _
    · exact failsOnly_ok _

theorem timeValue_failsOnly (s : String) : FailsOnly Fault (timeValue s) := by
  unfold timeValue
  split
  · exact failsOnly_error.2 (.missingAttribute _)
  · refine .ite (failsOnly_error.2 .badScalar) ?_
    split
    · exact failsOnly_ok _
    · exact .ite (failsOnly_error.2 .badScalar) (failsOnly_ok _)

theorem flagValue_failsOnly (s : String) : FailsOnly Fault (flagValue s) := by
  unfold flagValue
  split
  · exact failsOnly_ok _
  · exact failsOnly_error.2 (.missingKey _)

theorem bytesValue_failsOnly (s : String) : FailsOnly Fault (bytesValue s) := by
  unfold bytesValue
  split
  · split
    · exact failsOnly_ok _
    · exact failsOnly_badYaml
  · exact failsOnly_badYaml

theorem scalarValue_failsOnly (tag : Tag) (text : Text) :
    FailsOnly Fault (scalarValue tag text) := by
  unfold scalarValue
  split
  · exact failsOnly_ok _
  · exact failsOnly_ok _
  · exact flagValue_failsOnly _
  · exact intValue_failsOnly _
  · exact floatValue_failsOnly _
  · exact timeValue_failsOnly _
  · exact bytesValue_failsOnly _
  · exact failsOnly_error.2 (.missingKey _)
  · exact failsOnly_error.2 .badScalar
  · exact failsOnly_error.2 .badScalar
  · exact failsOnly_error.2 (.missingAttribute _)
  · exact failsOnly_badYaml

/-! ### Values -/

theorem flattenBelow_failsOnly (fuel : Nat) (id : NodeId) (merged : List NodePair) :
    StepFailsOnly Fault (NodeTable.flattenBelow fuel id merged) := by
  have hbad : StepFailsOnly Fault (throw .badYaml : NodeTable.Change Unit) :=
    stepFailsOnly_throw .badYaml
  induction fuel generalizing id merged with
  | zero => exact stepFailsOnly_throw .endless
  | succ fuel ih =>
    refine stepFailsOnly_get.bind fun t => ?_
    split
    · split
      · exact stepFailsOnly_set
      · refine stepFailsOnly_set.bind fun _ => ?_
        split
        · exact (ih _ _).bind fun _ => stepFailsOnly_get.bind fun _ => ih _ _
        · refine StepFailsOnlyFrom.bind (.mapM fun _ => ?_) fun _ => ih _ _
          exact (ih _ _).bind fun _ => stepFailsOnly_get.bind fun _ => stepFailsOnly_pure _
        · exact hbad
    · exact hbad

theorem flatten_failsOnly (id : NodeId) : StepFailsOnly Fault (NodeTable.flatten id) :=
  stepFailsOnly_get.bind fun _ => flattenBelow_failsOnly _ _ _

namespace Builder

theorem textOf_failsOnly (t : NodeTable) (fuel : Nat) (id : NodeId) :
    FailsOnly Fault (textOf t fuel id) := by
  induction fuel generalizing id with
  | zero => exact failsOnly_error.2 .endless
  | succ fuel ih =>
    unfold textOf
    split
    · exact failsOnly_ok _
    · exact failsOnly_badYaml
    · split
      · exact ih _
      · exact failsOnly_badYaml

theorem scalarOf_failsOnly (t : NodeTable) (id : NodeId) : FailsOnly Fault (scalarOf t id) := by
  refine .ite failsOnly_badYaml ((textOf_failsOnly _ _ _).bind fun text => ?_)
  split
  · exact failsOnly_error.2 (.wrongKind _)
  · exact scalarValue_failsOnly _ _

theorem node_failsOnly (id : NodeId) : StepFailsOnly Fault (node id) :=
  stepFailsOnly_get.bind fun _ => stepFailsOnly_pure _

theorem put_failsOnly (id : NodeId) (part : Part) : StepFailsOnly Fault (put id part) :=
  stepFailsOnly_modify

theorem start_failsOnly (id : NodeId) : StepFailsOnly Fault (start id) := by
  refine stepFailsOnly_get.bind fun s => .ite (.ite ?_ ?_) (stepFailsOnly_pure _)
  · exact (put_failsOnly _ _).bind fun _ => stepFailsOnly_modify
  · exact (scalarOf_failsOnly _ _).lift.bind fun _ => put_failsOnly _ _

theorem keyOf_failsOnly (id : NodeId) : StepFailsOnly Fault (keyOf id) := by
  refine (start_failsOnly id).bind fun _ => stepFailsOnly_get.bind fun s => ?_
  split
  · exact stepFailsOnly_pure _
  · exact stepFailsOnly_throw .badYaml

theorem itemsOf_failsOnly (id : NodeId) : StepFailsOnly Fault (itemsOf id) := by
  refine (node_failsOnly id).bind fun n => ?_
  split
  · exact stepFailsOnly_pure _
  · exact stepFailsOnly_throw .badYaml

theorem entriesOf_failsOnly (id : NodeId) : StepFailsOnly Fault (entriesOf id) := by
  refine stepFailsOnly_get.bind fun s => ?_
  refine ((flatten_failsOnly id).fails s.nodes trivial).lift.bind fun _ => ?_
  refine stepFailsOnly_modify.bind fun _ => (node_failsOnly id).bind fun _ => ?_
  refine StepFailsOnlyFrom.bind (.mapM fun (k, v) => ?_) fun _ => stepFailsOnly_pure _
  exact (keyOf_failsOnly k).bind fun _ => (start_failsOnly v).bind fun _ => stepFailsOnly_pure _

theorem pairOf_failsOnly (id : NodeId) : StepFailsOnly Fault (pairOf id) := by
  refine (node_failsOnly id).bind fun n => ?_
  split
  · exact (start_failsOnly _).bind fun _ => (start_failsOnly _).bind fun _ => stepFailsOnly_pure _
  · exact stepFailsOnly_throw .badYaml

theorem finish_failsOnly (id : NodeId) : StepFailsOnly Fault (finish id) := by
  refine (node_failsOnly id).bind fun n => ?_
  split
  · exact (entriesOf_failsOnly id).bind fun _ => put_failsOnly _ _
  · exact (entriesOf_failsOnly id).bind fun _ => put_failsOnly _ _
  · exact (itemsOf_failsOnly id).bind fun _ =>
      StepFailsOnlyFrom.bind (.forM start_failsOnly) fun _ => put_failsOnly _ _
  · exact (itemsOf_failsOnly id).bind fun _ =>
      StepFailsOnlyFrom.bind (.mapM pairOf_failsOnly) fun _ => put_failsOnly _ _

theorem finishAll_failsOnly (fuel : Nat) : StepFailsOnly Fault (finishAll fuel) := by
  induction fuel with
  | zero => exact stepFailsOnly_pure _
  | succ fuel ih =>
    refine stepFailsOnly_get.bind fun s => .ite (stepFailsOnly_pure _) ?_
    exact stepFailsOnly_modify.bind fun _ =>
      StepFailsOnlyFrom.bind (.forM finish_failsOnly) fun _ => ih

end Builder

theorem Part.toDatum_failsOnly (parts : Array (Option Part)) (fuel : Nat) (id : NodeId) :
    FailsOnly Fault (Part.toDatum parts fuel id) := by
  induction fuel generalizing id with
  | zero => exact failsOnly_error.2 .endless
  | succ fuel ih =>
    rw [Part.toDatum]
    split
    · exact failsOnly_ok _
    · exact (FailsOnly.mapM fun _ _ => ih _).bind fun _ => failsOnly_ok _
    · exact (FailsOnly.mapM fun _ _ => (ih _).bind fun _ => failsOnly_ok _).bind fun _ =>
        failsOnly_ok _
    · exact failsOnly_ok _
    · refine FailsOnly.bind (.mapM fun _ _ => ?_) fun _ => failsOnly_ok _
      exact (ih _).bind fun _ => (ih _).bind fun _ => failsOnly_ok _

/-! ### Documents -/

theorem Graph.toDatum_failsOnly (g : Graph) : FailsOnly Fault g.toDatum := by
  have hstep : StepFailsOnly Fault (do
      Builder.start g.root
      Builder.finishAll (g.nodes.size + 1)) :=
    (Builder.start_failsOnly _).bind fun _ => Builder.finishAll_failsOnly _
  have hparts : FailsOnly Fault g.parts :=
    (hstep.fails ⟨g.nodes, Array.replicate g.nodes.size none, []⟩ trivial).bind
      fun _ => failsOnly_ok _
  exact hparts.bind fun _ => Part.toDatum_failsOnly _ _ _

/-- **What can be wrong with a document** in YAML. Beside those of YAML itself, there are failures
of making values from scalars, and documents that contain themselves or are too deep. -/
theorem read_failsOnly (cs : List Char) : FailsOnly Fault (read cs) := by
  intro f hf
  cases htokens : tokens cs with
  | error e =>
    rw [read, htokens] at hf
    cases hf
    exact tokens_failsOnly cs f htokens
  | ok ts =>
    rw [read, htokens] at hf
    refine FailsOnly.bind (ofTokens_failsOnly (fault_of_tokens htokens)) (fun root => ?_) f hf
    split
    · exact failsOnly_ok _
    · exact Graph.toDatum_failsOnly _

end Yaml

end DealWatch
