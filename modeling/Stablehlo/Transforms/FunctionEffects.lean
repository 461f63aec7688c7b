import Mathlib.Data.Fintype.Card
import Stablehlo.Support.MemoizedSearch
import Stablehlo.Support.RegionTree

/-! The analysis of the memory effects of functions, which shape refinement consults before it
drops a call. -/

namespace Stablehlo

variable {FuncOp : Type}

/-- What the analysis reads of an operation. -/
structure OperationEffects (FuncOp : Type) where
  /-- For an operation with the call interface: the function that its callee resolves to. -/
  call : Option (Option FuncOp)
  hasRecursiveMemoryEffects : Bool
  /-- For an operation with the memory effect interface: that it has no effect. -/
  hasNoEffect : Option Bool
  deriving DecidableEq

/-- The operations of a program. -/
abbrev EffectOperation (FuncOp : Type) := RegionTree.Operation (OperationEffects FuncOp) Unit

/-- The regions of a program. -/
abbrev EffectRegion (FuncOp : Type) := RegionTree.Region (OperationEffects FuncOp) Unit

/-- The blocks of a program. -/
abbrev EffectBlock (FuncOp : Type) := RegionTree.Block (OperationEffects FuncOp) Unit

/-- The functions of a program, where an external function has no body. -/
structure CallGraph (FuncOp : Type) where
  body : FuncOp → Option (EffectRegion FuncOp)

namespace FunctionEffectAnalysis

open MemoizedSearch

/-- What is known of a function while the functions are analysed. -/
abbrev State := Mark

/-- The function is being analysed. -/
abbrev State.visiting : State := Mark.visiting

/-- The function is known to have no memory effect. -/
abbrev State.effectFree : State := Mark.clear

/-- The function may have memory effects. -/
abbrev State.mayHaveEffects : State := Mark.blocked

/-- What is known of the functions. -/
abbrev FunctionEffects (FuncOp : Type) := FuncOp → Option State

-- The operations are checked in order up to the first one that may have an effect.
mutual

/-- Check an operation: a call by its callee, and an operation whose effects are recursive by the
operations of its regions. -/
def operationIsMemoryEffectFree
    (computeFunctionEffects : FuncOp → FunctionEffects FuncOp →
      Option (Bool × FunctionEffects FuncOp)) :
    EffectOperation FuncOp → FunctionEffects FuncOp → Option (Bool × FunctionEffects FuncOp)
  | .node own regions, functionEffects =>
    match own.call with
    | some none => some (false, functionEffects)
    | some (some callee) => computeFunctionEffects callee functionEffects
    | none =>
      if !own.hasRecursiveMemoryEffects then some (own.hasNoEffect == some true, functionEffects)
      else if own.hasNoEffect == some false then some (false, functionEffects)
      else regionsAreMemoryEffectFree computeFunctionEffects regions functionEffects

/-- Check a region. -/
def regionIsMemoryEffectFree
    (computeFunctionEffects : FuncOp → FunctionEffects FuncOp →
      Option (Bool × FunctionEffects FuncOp)) :
    EffectRegion FuncOp → FunctionEffects FuncOp → Option (Bool × FunctionEffects FuncOp)
  | .node blocks, functionEffects =>
    blocksAreMemoryEffectFree computeFunctionEffects blocks functionEffects

/-- Check a block. -/
def blockIsMemoryEffectFree
    (computeFunctionEffects : FuncOp → FunctionEffects FuncOp →
      Option (Bool × FunctionEffects FuncOp)) :
    EffectBlock FuncOp → FunctionEffects FuncOp → Option (Bool × FunctionEffects FuncOp)
  | .node _ operations, functionEffects =>
    operationsAreMemoryEffectFree computeFunctionEffects operations functionEffects

/-- Check one region after another. -/
def regionsAreMemoryEffectFree
    (computeFunctionEffects : FuncOp → FunctionEffects FuncOp →
      Option (Bool × FunctionEffects FuncOp)) :
    List (EffectRegion FuncOp) → FunctionEffects FuncOp →
      Option (Bool × FunctionEffects FuncOp)
  | [], functionEffects => some (true, functionEffects)
  | region :: regions, functionEffects => do
    let (free, functionEffects) ←
      regionIsMemoryEffectFree computeFunctionEffects region functionEffects
    if free then regionsAreMemoryEffectFree computeFunctionEffects regions functionEffects
    else some (false, functionEffects)

/-- Check one block after another. -/
def blocksAreMemoryEffectFree
    (computeFunctionEffects : FuncOp → FunctionEffects FuncOp →
      Option (Bool × FunctionEffects FuncOp)) :
    List (EffectBlock FuncOp) → FunctionEffects FuncOp →
      Option (Bool × FunctionEffects FuncOp)
  | [], functionEffects => some (true, functionEffects)
  | block :: blocks, functionEffects => do
    let (free, functionEffects) ←
      blockIsMemoryEffectFree computeFunctionEffects block functionEffects
    if free then blocksAreMemoryEffectFree computeFunctionEffects blocks functionEffects
    else some (false, functionEffects)

/-- Check one operation after another. -/
def operationsAreMemoryEffectFree
    (computeFunctionEffects : FuncOp → FunctionEffects FuncOp →
      Option (Bool × FunctionEffects FuncOp)) :
    List (EffectOperation FuncOp) → FunctionEffects FuncOp →
      Option (Bool × FunctionEffects FuncOp)
  | [], functionEffects => some (true, functionEffects)
  | operation :: operations, functionEffects => do
    let (free, functionEffects) ←
      operationIsMemoryEffectFree computeFunctionEffects operation functionEffects
    if free then operationsAreMemoryEffectFree computeFunctionEffects operations functionEffects
    else some (false, functionEffects)

end

section Analysis

variable [DecidableEq FuncOp]

/-- Analyse a function, unless something is known of it: an external function may have effects,
and so may one that is being analysed. The depth of the recursion is limited. -/
def computeFunctionEffects (program : CallGraph FuncOp) :
    Nat → FuncOp → FunctionEffects FuncOp → Option (Bool × FunctionEffects FuncOp)
  | 0, _, _ => none
  | depth + 1, func, functionEffects =>
    match functionEffects func with
    | some state => some (state == State.effectFree, functionEffects)
    | none => do
      let entered := Function.update functionEffects func (some State.visiting)
      let (effectFree, functionEffects) ←
        match program.body func with
        | none => some (false, entered)
        | some body => regionIsMemoryEffectFree (computeFunctionEffects program depth) body entered
      return (effectFree, Function.update functionEffects func
        (some (if effectFree then State.effectFree else State.mayHaveEffects)))

/-- Analyse one function after another. -/
def computeAll (program : CallGraph FuncOp) (depth : Nat) :
    List FuncOp → FunctionEffects FuncOp → Option (FunctionEffects FuncOp)
  | [], functionEffects => some functionEffects
  | func :: funcs, functionEffects => do
    let (_, functionEffects) ← computeFunctionEffects program depth func functionEffects
    computeAll program depth funcs functionEffects

/-- The analysis: of the entry function first, and then of the functions of its module in their
order, when it is in a module. The recursion may be deeper than there are functions. -/
def construct [Fintype FuncOp] (program : CallGraph FuncOp) (entryFunction : FuncOp)
    (module : Option (List FuncOp)) : Option (FunctionEffects FuncOp) :=
  computeAll program (Fintype.card FuncOp + 1) (entryFunction :: module.getD []) (fun _ => none)

end Analysis

/-- A function is taken to be free of memory effects when it is known to be. -/
def isMemoryEffectFree (functionEffects : FunctionEffects FuncOp) (func : FuncOp) : Bool :=
  functionEffects func == some State.effectFree

/-! What the analysis is for: the effects of all that a call of a function may run. -/

/-- How the effects of the operations in a program are read. -/
structure Reading (FuncOp : Type) where
  /-- The operations in the regions of the operation are run with it. -/
  follows : OperationEffects FuncOp → Bool
  hasMemoryEffect : OperationEffects FuncOp → Bool

/-- Regions are followed where the effects of an operation are said to include theirs, and the
effects of a call are those of its callee. -/
def Reading.byInterface : Reading FuncOp where
  follows own := own.call.isNone && own.hasRecursiveMemoryEffects
  hasMemoryEffect own :=
    own.call.isNone &&
      if own.hasRecursiveMemoryEffects then own.hasNoEffect == some false
      else own.hasNoEffect != some true

/-- Every region is followed, and an operation may have effects that are not said to be absent:
those that it declares, and those of an operation of which nothing is known. -/
def Reading.everyRegion : Reading FuncOp where
  follows _ := true
  hasMemoryEffect own :=
    match own.hasNoEffect with
    | some hasNoEffect => !hasNoEffect
    | none => own.call.isNone && !own.hasRecursiveMemoryEffects

end FunctionEffectAnalysis

namespace CallGraph

open FunctionEffectAnalysis

variable (program : CallGraph FuncOp) (reading : Reading FuncOp)

/-- The operations that a function runs itself. -/
def operations (func : FuncOp) : List (OperationEffects FuncOp) :=
  match program.body func with
  | none => []
  | some body => body.reached reading.follows

/-- A function calls the functions that the callees of its operations resolve to. -/
def Calls (func callee : FuncOp) : Prop :=
  ∃ own ∈ program.operations reading func, own.call = some (some callee)

/-- No operation that is reached from a function has a memory effect, and neither an external
function nor an unresolved one is reached. -/
def EffectFree (func : FuncOp) : Prop :=
  ∀ reached, Relation.ReflTransGen (program.Calls reading) func reached →
    program.body reached ≠ none ∧
      ∀ own ∈ program.operations reading reached,
        reading.hasMemoryEffect own = false ∧ own.call ≠ some none

/-- No cycle of calls is reached from a function. -/
def CallsAcyclic (func : FuncOp) : Prop :=
  ∀ reached, Relation.ReflTransGen (program.Calls reading) func reached →
    ¬ Relation.TransGen (program.Calls reading) reached reached

end CallGraph

namespace FunctionEffectAnalysis

open MemoizedSearch

/-- What is asked for an operation: its callee for a call, and an obstacle for an effect. -/
def asked (own : OperationEffects FuncOp) : List (Option FuncOp) :=
  match own.call with
  | some callee => [callee]
  | none => if Reading.byInterface.hasMemoryEffect own then [none] else []

/-- What is asked for operations is asked for each of them in order. -/
abbrev askedAll (operations : List (OperationEffects FuncOp)) : List (Option FuncOp) :=
  operations.flatMap asked

/-- What is asked for a function: an external one is an obstacle. -/
def graph (program : CallGraph FuncOp) : Graph FuncOp := fun func =>
  match program.body func with
  | none => [none]
  | some body => askedAll (body.reached Reading.byInterface.follows)

variable {visit : FuncOp → FunctionEffects FuncOp → Option (Bool × FunctionEffects FuncOp)}

/-- One thing alone is asked for as it is visited. -/
theorem askAll_singleton (callee : FuncOp) (marks : FunctionEffects FuncOp) :
    askAll visit [some callee] marks = visit callee marks := by
  rw [askAll]
  cases visit callee marks with
  | none => rfl
  | some visited =>
    obtain ⟨found, later⟩ := visited
    cases found with
    | true => rfl
    | false => rfl

-- A check of a tree is one search through what its operations ask for.
-- The lists of regions, of blocks and of operations have loops of their own.
mutual

/-- An operation is checked by asking for what it and its regions ask for. -/
theorem operationIsMemoryEffectFree_eq : (operation : EffectOperation FuncOp) →
    (marks : FunctionEffects FuncOp) → operationIsMemoryEffectFree visit operation marks =
      askAll visit (askedAll (operation.reached Reading.byInterface.follows)) marks
  | .node own regions, marks => by
    obtain ⟨call, recursive, noEffect⟩ := own
    rw [operationIsMemoryEffectFree, RegionTree.Operation.reached]
    cases call with
    | some callee =>
      -- The regions of a call are not followed.
      cases callee with
      | none => rfl
      | some callee => exact (askAll_singleton callee marks).symm
    | none =>
      cases recursive with
      | false =>
        -- An operation without recursive effects is checked by itself.
        match noEffect with
        | none => rfl
        | some false => rfl
        | some true => rfl
      | true =>
        -- An effect of its own stops the search before the regions are asked.
        match noEffect with
        | some false => rfl
        | none => exact regionsAreMemoryEffectFree_eq regions marks
        | some true => exact regionsAreMemoryEffectFree_eq regions marks

/-- A region is checked by asking for what its operations ask for. -/
theorem regionIsMemoryEffectFree_eq : (region : EffectRegion FuncOp) →
    (marks : FunctionEffects FuncOp) → regionIsMemoryEffectFree visit region marks =
      askAll visit (askedAll (region.reached Reading.byInterface.follows)) marks
  | .node blocks, marks => blocksAreMemoryEffectFree_eq blocks marks

/-- A block is checked by asking for what its operations ask for. -/
theorem blockIsMemoryEffectFree_eq : (block : EffectBlock FuncOp) →
    (marks : FunctionEffects FuncOp) → blockIsMemoryEffectFree visit block marks =
      askAll visit (askedAll (block.reached Reading.byInterface.follows)) marks
  | .node _ operations, marks => operationsAreMemoryEffectFree_eq operations marks

/-- Regions are checked in order. -/
theorem regionsAreMemoryEffectFree_eq : (regions : List (EffectRegion FuncOp)) →
    (marks : FunctionEffects FuncOp) → regionsAreMemoryEffectFree visit regions marks =
      askAll visit
        (askedAll (RegionTree.Region.allReached Reading.byInterface.follows regions)) marks
  | [], _ => rfl
  | region :: regions, marks => by
    rw [regionsAreMemoryEffectFree, RegionTree.Region.allReached, askedAll, List.flatMap_append,
      askAll_append, regionIsMemoryEffectFree_eq region marks]
    simp only [regionsAreMemoryEffectFree_eq regions]

/-- Blocks are checked in order. -/
theorem blocksAreMemoryEffectFree_eq : (blocks : List (EffectBlock FuncOp)) →
    (marks : FunctionEffects FuncOp) → blocksAreMemoryEffectFree visit blocks marks =
      askAll visit
        (askedAll (RegionTree.Block.allReached Reading.byInterface.follows blocks)) marks
  | [], _ => rfl
  | block :: blocks, marks => by
    rw [blocksAreMemoryEffectFree, RegionTree.Block.allReached, askedAll, List.flatMap_append,
      askAll_append, blockIsMemoryEffectFree_eq block marks]
    simp only [blocksAreMemoryEffectFree_eq blocks]

/-- Operations are checked in order. -/
theorem operationsAreMemoryEffectFree_eq : (operations : List (EffectOperation FuncOp)) →
    (marks : FunctionEffects FuncOp) → operationsAreMemoryEffectFree visit operations marks =
      askAll visit
        (askedAll (RegionTree.Operation.allReached Reading.byInterface.follows operations)) marks
  | [], _ => rfl
  | operation :: operations, marks => by
    rw [operationsAreMemoryEffectFree, RegionTree.Operation.allReached, askedAll,
      List.flatMap_append, askAll_append, operationIsMemoryEffectFree_eq operation marks]
    simp only [operationsAreMemoryEffectFree_eq operations]

end

section Search

variable [DecidableEq FuncOp] (program : CallGraph FuncOp)

/-- A function is analysed by a search from it. -/
theorem computeFunctionEffects_eq (depth : Nat) :
    computeFunctionEffects program depth = search (graph program) depth := by
  induction depth with
  | zero => rfl
  | succ depth ih =>
    funext func marks
    rw [computeFunctionEffects, search, graph, ih]
    cases marks func with
    | some state => rfl
    | none =>
      cases program.body func with
      | none => rfl
      | some body => simp only [regionIsMemoryEffectFree_eq]

/-- Functions are analysed by searches with one table. -/
theorem computeAll_eq (depth : Nat) (funcs : List FuncOp) (marks : FunctionEffects FuncOp) :
    computeAll program depth funcs marks = searchAll (graph program) depth funcs marks := by
  induction funcs generalizing marks with
  | nil => rfl
  | cons func funcs ih =>
    simp only [computeAll, searchAll, computeFunctionEffects_eq, ih]

end Search

variable (program : CallGraph FuncOp)

/-- The search goes from a function to the functions that it calls. -/
theorem edge_iff (func callee : FuncOp) :
    Edge (graph program) func callee ↔ program.Calls Reading.byInterface func callee := by
  rw [Edge, graph, CallGraph.Calls, CallGraph.operations]
  cases program.body func with
  | none => simp
  | some body =>
    simp only [List.mem_flatMap]
    refine exists_congr fun own => and_congr_right fun _ => ?_
    rw [asked]
    cases own.call with
    | some resolved => simp [eq_comm]
    | none => cases Reading.byInterface.hasMemoryEffect own <;> simp

/-- The search meets no obstacle at a function that has a body whose operations have no effects
and no unresolved callees. -/
theorem not_obstacle_iff (func : FuncOp) :
    none ∉ graph program func ↔ program.body func ≠ none ∧
      ∀ own ∈ program.operations Reading.byInterface func,
        Reading.byInterface.hasMemoryEffect own = false ∧ own.call ≠ some none := by
  rw [graph, CallGraph.operations]
  cases program.body func with
  | none => simp
  | some body =>
    simp only [List.mem_flatMap, not_exists, not_and, ne_eq, reduceCtorEq, not_false_eq_true,
      true_and]
    refine forall_congr' fun own => imp_congr_right fun _ => ?_
    rw [asked]
    obtain ⟨call, recursive, noEffect⟩ := own
    cases call with
    | some resolved => cases resolved <;> simp [Reading.byInterface]
    | none => cases Reading.byInterface.hasMemoryEffect ⟨none, recursive, noEffect⟩ <;> simp

/-- The search meets no obstacle when a function is free of memory effects. -/
theorem clear_iff (func : FuncOp) :
    Clear (graph program) func ↔ program.EffectFree Reading.byInterface func := by
  have same : Edge (graph program) = program.Calls Reading.byInterface := by
    funext caller callee
    exact propext (edge_iff program caller callee)
  rw [Clear, CallGraph.EffectFree, same]
  exact forall_congr' fun reached => imp_congr_right fun _ => not_obstacle_iff program reached

/-- The search meets no cycle when no cycle of calls is reached. -/
theorem acyclic_iff (func : FuncOp) :
    Acyclic (graph program) func ↔ program.CallsAcyclic Reading.byInterface func := by
  have same : Edge (graph program) = program.Calls Reading.byInterface := by
    funext caller callee
    exact propext (edge_iff program caller callee)
  rw [Acyclic, CallGraph.CallsAcyclic, same]

/-- The analysis ends. What it takes to be free of memory effects is, whatever the calls are and
in whatever order the functions are analysed; and a function of its module that is free of them
and reaches no cycle of calls is taken to be. -/
theorem construct_decides [DecidableEq FuncOp] [Fintype FuncOp] (entryFunction : FuncOp)
    (module : Option (List FuncOp)) :
    ∃ functionEffects, construct program entryFunction module = some functionEffects ∧
      ∀ func,
        (isMemoryEffectFree functionEffects func = true →
          program.EffectFree Reading.byInterface func) ∧
        (func ∈ entryFunction :: module.getD [] →
          program.EffectFree Reading.byInterface func →
          program.CallsAcyclic Reading.byInterface func →
          isMemoryEffectFree functionEffects func = true) := by
  have start : Settled (graph program) [] (fun _ => none) := by
    refine ⟨consistent_empty, ?_, ?_⟩
    · intro func visiting
      contradiction
    · intro func listed
      contradiction
  obtain ⟨functionEffects, done, settled⟩ := searchAll_settles
    (fun _ _ callee _ => Finset.mem_univ callee) (Nat.lt_succ_self (Fintype.card FuncOp))
    (entryFunction :: module.getD []) (fun func _ => Finset.mem_univ func) [] _ start
  refine ⟨functionEffects, ?_, ?_⟩
  · rw [construct, computeAll_eq]
    exact done
  · intro func
    rw [isMemoryEffectFree, beq_iff_eq, ← clear_iff, ← acyclic_iff]
    exact settled.decides func

/-- A function that calls another one, which only has an operation without effects. -/
def caller : CallGraph (Fin 2) where
  body func :=
    if func = 0 then some (.node [.node () [.node ⟨some (some 1), false, none⟩ []]])
    else some (.node [.node () [.node ⟨none, false, some true⟩ []]])

/-- The functions only call later ones. -/
theorem caller_calls {func callee : Fin 2} (calls : caller.Calls Reading.byInterface func callee) :
    func < callee := by
  obtain ⟨own, listed, resolved⟩ := calls
  match func with
  | 0 =>
    cases List.mem_singleton.1 listed
    cases resolved
    decide
  | 1 =>
    cases List.mem_singleton.1 listed
    contradiction

/-- Both functions are free of memory effects. -/
theorem caller_effectFree (func : Fin 2) : caller.EffectFree Reading.byInterface func := by
  intro reached _
  match reached with
  | 0 =>
    refine ⟨by simp [caller], ?_⟩
    intro own listed
    cases List.mem_singleton.1 listed
    exact ⟨rfl, by simp⟩
  | 1 =>
    refine ⟨by simp [caller], ?_⟩
    intro own listed
    cases List.mem_singleton.1 listed
    exact ⟨rfl, by simp⟩

/-- There are no cycles among later and later functions. -/
theorem caller_callsAcyclic (func : Fin 2) : caller.CallsAcyclic Reading.byInterface func := by
  intro reached _ cycle
  have later : ∀ last, Relation.TransGen (caller.Calls Reading.byInterface) reached last →
      reached < last := by
    intro last path
    induction path with
    | single calls => exact caller_calls calls
    | tail _ calls ih => exact ih.trans (caller_calls calls)
  exact lt_irrefl reached (later reached cycle)

/-- The caller is taken to be free of memory effects, and it is. -/
theorem construct_decides_caller :
    ∃ functionEffects, construct caller 0 (some [1, 0]) = some functionEffects ∧
      isMemoryEffectFree functionEffects 0 = true ∧
      caller.EffectFree Reading.byInterface 0 := by
  obtain ⟨functionEffects, done, decides⟩ := construct_decides caller 0 (some [1, 0])
  have free := (decides 0).2 (by decide) (caller_effectFree 0) (caller_callsAcyclic 0)
  exact ⟨functionEffects, done, free, (decides 0).1 free⟩

/-- An operation that is said to have no effects, with an effect in its region that the operation
is not said to include. -/
def quietRegion : CallGraph (Fin 1) where
  body _ := some (.node [.node () [.node ⟨none, false, some true⟩
    [.node [.node () [.node ⟨none, false, some false⟩ []]]]]])

/-- A call that is said to have effects, of a function that has none. -/
def declaredCall : CallGraph (Fin 2) where
  body func :=
    if func = 0 then some (.node [.node () [.node ⟨some (some 1), false, some false⟩ []]])
    else some (.node [.node () []])

/-- Neither the regions of an operation without recursive effects nor the effects that a call
declares are looked at. -/
theorem undeclaredEffects_ignored :
    ((construct quietRegion 0 (some [0])).map (isMemoryEffectFree · 0) = some true ∧
      ¬ quietRegion.EffectFree Reading.everyRegion 0) ∧
    ((construct declaredCall 0 (some [0, 1])).map (isMemoryEffectFree · 0) = some true ∧
      ¬ declaredCall.EffectFree Reading.everyRegion 0) := by
  refine ⟨⟨by decide, ?_⟩, ⟨by decide, ?_⟩⟩
  · intro free
    have nested := ((free 0 .refl).2 ⟨none, false, some false⟩ (by decide)).1
    exact absurd nested (by decide)
  · intro free
    have declared := ((free 0 .refl).2 ⟨some (some 1), false, some false⟩
      (by decide)).1
    exact absurd declared (by decide)

end FunctionEffectAnalysis

end Stablehlo
