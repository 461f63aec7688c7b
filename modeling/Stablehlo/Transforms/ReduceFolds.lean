import Stablehlo.Reference.Ops
import Stablehlo.Transforms.ImplicitCapture
import Stablehlo.Transforms.UnusedResultsExact

/-! The rewrites that leave no reduction, and when they keep its results. -/

namespace Stablehlo

open Ssa

section Model

variable {κ V τ : Type}

/-- A tensor type: its sizes, where they are known, and what else belongs to it. -/
structure TensorType (τ : Type) where
  shape : List (Option Nat)
  elementType : τ
  deriving DecidableEq

/-- The sizes of a type of static shape. -/
def TensorType.sizes (type : TensorType τ) : Option Sizes := type.shape.mapM id

/-- The type of a scalar. -/
def scalarType (elementType : τ) : TensorType τ := ⟨[], elementType⟩

/-- A reduction whose body is any region, with the values around it and what is known of them. -/
structure ReduceOp (κ V τ : Type) where
  denote : Denotation κ V
  env : Env V
  body : Region κ
  inputs : List (Tensor V)
  initValues : List (Tensor V)
  dimensions : List Nat
  inputTypes : List (TensorType τ)
  resultTypes : List (TensorType τ)
  /-- The element types of what the body returns. -/
  returnedTypes : List τ
  /-- The elements of operands, inputs first, that are splat constants. -/
  splats : List (Option V)
  /-- The values around the reduction that are constants. -/
  constants : Nat → Option V
  /-- The kind is that of a conjunction or a disjunction. -/
  isAndOrOr : κ → Bool

/-- What the interpreter computes: results of the types. -/
def ReduceOp.eval (op : ReduceOp κ V τ) : Except Failure (List (Tensor V)) :=
  match op.resultTypes.mapM TensorType.sizes with
  | some resultShapes => reduceOp op.inputs op.initValues op.dimensions
      (regionReducer op.denote op.env op.body) resultShapes
  | none => .error (.fatalError "dynamic result types are not supported at the moment")

/-- A value in place of a result. -/
inductive Replacement (V τ : Type) where
  /-- One of the inputs. -/
  | input (type : TensorType τ) (place : Nat)
  /-- A constant all of whose elements are the same. -/
  | splat (type : TensorType τ) (value : V)
  /-- A scalar from around the reduction. -/
  | captured (type : TensorType τ) (name : Nat)
  /-- A broadcast of one of the init values. -/
  | broadcastInDim (type : TensorType τ) (place : Nat)

/-- The type of a value in place of a result. -/
def Replacement.type : Replacement V τ → TensorType τ
  | .input type _ | .splat type _ | .captured type _ | .broadcastInDim type _ => type

/-- What a value in place of a result stands for. -/
def Replacement.value (op : ReduceOp κ V τ) : Replacement V τ → Option (Tensor V)
  | .input _ place => op.inputs[place]?
  | .splat type value => type.sizes.map fun sizes => .tabulate sizes fun _ => value
  | .captured _ name => (op.env name).map fun value => .tabulate [] fun _ => value
  | .broadcastInDim type place => do
    let initValue ← op.initValues[place]?
    let sizes ← type.sizes
    (initValue.broadcastInDimOp [] sizes).toOption

/-- Replace a reduction of no dimensions by its inputs, if they have the types of the results. -/
def foldReduceOpReducingZeroDims [DecidableEq τ] (op : ReduceOp κ V τ) :
    Option (List (Replacement V τ)) :=
  if op.dimensions = [] ∧ op.inputTypes = op.resultTypes then
    some (op.inputTypes.zipIdx.map fun (type, place) => .input type place)
  else
    none

/-- The names of the constants that arguments are replaced by: those from the next one on. -/
def constantNames (next : Nat) (arguments : List Nat) (name : Nat) : Nat :=
  match arguments.idxOf? name with
  | some argNumber => next + argNumber
  | none => name

/-- The values of names, and those of the constants. -/
def withConstants (next : Nat) (constants : List V) (env : Env V) : Env V := fun name =>
  if next ≤ name then constants[name - next]? else env name

/-- Use the elements of operands that are splat constants in place of the arguments of the body,
one by one, if it has a single operation. The constants are defined in front of the reduction, with
the names from the next one on. -/
def lowerBoolSplatConstantsIntoReduceOpRegion (next : Nat) (op : ReduceOp κ V τ) :
    Option (ReduceOp κ V τ) :=
  match op.body.operations with
  | [.node kind _ _ _] =>
    if op.isAndOrOr kind then do
      let bodyArgConstants ← op.splats.mapM id
      some { op with
        body := op.body.rename (constantNames next op.body.arguments)
        env := withConstants next bodyArgConstants op.env
        constants := withConstants next bodyArgConstants op.constants }
    else
      none
  | _ => none

/-- Replace a reduction by constants, if its body does nothing but to return them. -/
def foldReduceOpToConstantInitializer (op : ReduceOp κ V τ) : Option (List (Replacement V τ)) :=
  if op.body.operations.isEmpty then do
    let values ← op.body.returned.mapM op.constants
    some (List.zipWith .splat op.resultTypes values)
  else
    none

/-- All that the body returns is defined around the reduction. -/
def ReduceOp.ReturnsCaptured (op : ReduceOp κ V τ) : Prop :=
  ∀ name ∈ op.body.returned, name ∉ ownValues op.body

instance (op : ReduceOp κ V τ) : Decidable op.ReturnsCaptured :=
  inferInstanceAs (Decidable (∀ name ∈ op.body.returned, name ∉ ownValues op.body))

/-- What the body returns, in place of the results. -/
def ReduceOp.returnedValues (op : ReduceOp κ V τ) : List (Replacement V τ) :=
  List.zipWith (fun type name => .captured (scalarType type) name) op.returnedTypes
    op.body.returned

/-- Replace a reduction by what its body returns, if that is defined around the reduction and has
the types of the results. -/
def foldReduceOpWithRedundantResults [DecidableEq τ] (op : ReduceOp κ V τ) :
    Option (List (Replacement V τ)) :=
  if op.ReturnsCaptured ∧ op.returnedTypes.map scalarType = op.resultTypes then
    some op.returnedValues
  else
    none

/-- Replace a reduction by what its body returns, if that is defined around the reduction. -/
def reduceOpNoopVariableReturn (op : ReduceOp κ V τ) : Option (List (Replacement V τ)) :=
  if op.ReturnsCaptured then some op.returnedValues else none

/-- Replace a reduction of inputs without elements by broadcasts of the init values. -/
def reduceOpEmptyCanon (op : ReduceOp κ V τ) : Option (List (Replacement V τ)) :=
  match op.inputTypes with
  | elemTy :: _ =>
    if some 0 ∈ elemTy.shape then
      some (op.resultTypes.zipIdx.map fun (type, place) => .broadcastInDim type place)
    else
      none
  | [] => none

/-- A type has the sizes, where it has any. -/
def TensorType.Describes (type : TensorType τ) (sizes : Sizes) : Prop :=
  List.Forall₂ (fun size dim => dim = none ∨ dim = some size) sizes type.shape

/-- What is verified of the operands and the results of a reduction of tensors of a shape. -/
structure ReduceOp.Shaped (op : ReduceOp κ V τ) (shape : Sizes) (start : List V) : Prop where
  inputs : op.inputs ≠ []
  initValues : op.initValues.length = op.inputs.length
  returned : op.body.returned.length = op.inputs.length
  resultTypes : op.resultTypes.length = op.inputs.length
  inputTypes : op.inputTypes.length = op.inputs.length
  shapes : ∀ input ∈ op.inputs, input.shape = shape
  inputShapes : ∀ type ∈ op.inputTypes, type.Describes shape
  resultShapes : ∀ type ∈ op.resultTypes,
    type.Describes (MixedRadix.select (notReduced op.dimensions) 0 shape)
  read : readTogether op.initValues [] = .ok start

/-- What is verified of a reduction, and what is known of the values around it. The names from the
next one on are not in use. -/
structure ReduceOp.Accepted (op : ReduceOp κ V τ) (next : Nat) (shape : Sizes) (start : List V) :
    Prop extends op.Shaped shape start where
  arguments : op.body.arguments.length = op.inputs.length + op.inputs.length
  returnedTypes : op.resultTypes.map TensorType.elementType = op.returnedTypes
  definitions : op.body.definitions.Nodup
  defined : ∀ name ∈ op.body.definitions, name < next
  mentioned : ∀ name ∈ op.body.mentions, name < next
  captured : ∀ name ∈ op.body.returned, name ∉ ownValues op.body →
    ∃ value, op.env name = some value
  splatCount : op.splats.length = op.inputs.length + op.inputs.length
  splats : ∀ (place : Nat) (operand : Tensor V) (value : V),
    (op.inputs ++ op.initValues)[place]? = some operand → op.splats[place]? = some (some value) →
      ∀ element ∈ operand.data, element = value
  constants : ∀ name value, op.constants name = some value →
    op.env name = some value ∧ name ∉ ownValues op.body

/-- The body returns elements of the inputs that it is called on with the init values. -/
def ReduceOp.KeepsElements (op : ReduceOp κ V τ) (start : List V) : Prop :=
  ∀ index elements, readTogether op.inputs index = .ok elements →
    op.body.call op.denote op.env (start ++ elements) = some elements

/-- The values have the types of the results, and are those that the interpreter computes. -/
def ReduceOp.ReplacedBy (op : ReduceOp κ V τ) (replaced : List (Replacement V τ))
    (results : List (Tensor V)) : Prop :=
  replaced.map Replacement.type = op.resultTypes ∧
    replaced.mapM (Replacement.value op) = some results

/-- The patterns. -/
inductive ReducePattern where
  | foldReduceOpReducingZeroDims
  | lowerBoolSplatConstantsIntoReduceOpRegion
  | foldReduceOpToConstantInitializer
  | foldReduceOpWithRedundantResults
  | reduceOpNoopVariableReturn

/-- What a pattern has in place of the results. -/
def ReducePattern.apply [DecidableEq τ] (op : ReduceOp κ V τ) :
    ReducePattern → Option (List (Replacement V τ))
  | foldReduceOpReducingZeroDims => Stablehlo.foldReduceOpReducingZeroDims op
  | lowerBoolSplatConstantsIntoReduceOpRegion => none
  | foldReduceOpToConstantInitializer => Stablehlo.foldReduceOpToConstantInitializer op
  | foldReduceOpWithRedundantResults => Stablehlo.foldReduceOpWithRedundantResults op
  | reduceOpNoopVariableReturn => Stablehlo.reduceOpNoopVariableReturn op

/-- What a pattern makes of the reduction, if it leaves one. -/
def ReducePattern.lower (next : Nat) (op : ReduceOp κ V τ) :
    ReducePattern → Option (ReduceOp κ V τ)
  | lowerBoolSplatConstantsIntoReduceOpRegion =>
    Stablehlo.lowerBoolSplatConstantsIntoReduceOpRegion next op
  | _ => none

/-- Where inputs have no elements, the values are the broadcasts of the init values. -/
def ReduceOp.AgreesWithEmptyCanon (op : ReduceOp κ V τ) (values : Option (List (Tensor V))) :
    Prop :=
  ∀ canon, reduceOpEmptyCanon op = some canon → canon.mapM (Replacement.value op) = values

/-- What a pattern puts in place of the results has their types and what the interpreter computes,
in agreement with the broadcasts of the init values. -/
def ReducePattern.KeepsResults [DecidableEq τ] (op : ReduceOp κ V τ) (next : Nat)
    (results : List (Tensor V)) (pattern : ReducePattern) : Prop :=
  (∀ replaced, pattern.apply op = some replaced → op.ReplacedBy replaced results ∧
    op.AgreesWithEmptyCanon (replaced.mapM (Replacement.value op))) ∧
  ∀ lowered, pattern.lower next op = some lowered → lowered.resultTypes = op.resultTypes ∧
    lowered.eval = .ok results ∧ op.AgreesWithEmptyCanon lowered.eval.toOption

/-- Call the body on the same elements a number of times, each on the values before. -/
def ReduceOp.repeatBody (op : ReduceOp κ V τ) (elements : List V) : Nat → List V → Option (List V)
  | 0, values => some values
  | count + 1, values =>
    (op.body.call op.denote op.env (values ++ elements)).bind (op.repeatBody elements count)

/-- When a pattern keeps the results of a reduction of tensors of a shape. -/
def ReducePattern.Fits (op : ReduceOp κ V τ) (shape : Sizes) (start : List V) :
    ReducePattern → Prop
  | foldReduceOpReducingZeroDims => True
  | lowerBoolSplatConstantsIntoReduceOpRegion => ∀ kind operands results regions constants,
    op.body.operations = [.node kind operands results regions] → op.isAndOrOr kind = true →
    op.splats = constants.map some →
      0 ∈ MixedRadix.select (notReduced op.dimensions) 0 shape ∨ 0 ∈ shape ∨
        -- The constants are used in the order of the operands, inputs first.
        op.body.call op.denote op.env constants =
          op.repeatBody (constants.take op.inputs.length)
            (MixedRadix.select op.dimensions.contains 0 shape).prod start
  | foldReduceOpToConstantInitializer => op.body.operations = [] →
    ∀ values, op.body.returned.mapM op.constants = some values →
      0 ∈ MixedRadix.select (notReduced op.dimensions) 0 shape ∨ 0 ∉ shape ∨ values = start
  | foldReduceOpWithRedundantResults => op.ReturnsCaptured →
    op.returnedTypes.map scalarType = op.resultTypes →
      0 ∉ shape ∨ op.env.read op.body.returned = some start
  | reduceOpNoopVariableReturn => op.ReturnsCaptured →
    op.returnedTypes.map scalarType = op.resultTypes ∧
      (0 ∉ shape ∨ op.env.read op.body.returned = some start)

end Model

section Cells

variable {κ V τ : Type} {op : ReduceOp κ V τ} {shape : Sizes} {start : List V}
  {results : List (Tensor V)}

/-- The sizes of a static type are those that it describes. -/
theorem TensorType.Describes.sizes_eq {type : TensorType τ} {sizes own : Sizes}
    (describes : type.Describes sizes) (static : type.sizes = some own) : own = sizes := by
  -- Dimension by dimension, the size is known.
  obtain ⟨dims, elementType⟩ := type
  rw [TensorType.Describes] at describes
  rw [TensorType.sizes] at static
  dsimp only at describes static
  induction describes generalizing own with
  | nil =>
    cases static
    rfl
  | @cons size dim sizes dims here _ ih =>
    rw [List.mapM_cons] at static
    obtain ⟨first, known, static⟩ := Option.bind_eq_some_iff.1 static
    obtain ⟨rest, others, same⟩ := Option.bind_eq_some_iff.1 static
    cases same
    rw [ih others]
    rw [id_eq] at known
    rcases here with dynamic | exact
    · rw [dynamic] at known
      contradiction
    · rw [exact, Option.some.injEq] at known
      rw [known]

/-- Types that all have the sizes have one list of them each. -/
theorem mapM_sizes {types : List (TensorType τ)} {sizes : Sizes}
    (static : ∀ type ∈ types, type.sizes = some sizes) :
    types.mapM TensorType.sizes = some (List.replicate types.length sizes) := by
  induction types with
  | nil => rfl
  | cons type types ih =>
    rw [List.forall_mem_cons] at static
    rw [List.mapM_cons, static.1, ih static.2]
    rfl

/-- Types that describe the sizes have them when all of them are static. -/
theorem sizes_of_mapM {types : List (TensorType τ)} {sizes : Sizes} {all : List Sizes}
    (describe : ∀ type ∈ types, type.Describes sizes)
    (static : types.mapM TensorType.sizes = some all) :
    ∀ type ∈ types, type.sizes = some sizes := by
  induction types generalizing all with
  | nil =>
    intro type listed
    contradiction
  | cons type types ih =>
    rw [List.forall_mem_cons] at describe
    rw [List.mapM_cons] at static
    obtain ⟨own, here, static⟩ := Option.bind_eq_some_iff.1 static
    obtain ⟨rest, others, -⟩ := Option.bind_eq_some_iff.1 static
    rw [List.forall_mem_cons]
    refine ⟨?_, ih describe.2 others⟩
    rw [here, describe.1.sizes_eq here]

/-- The interpreter computes results of static types whose elements are folds of the body. -/
theorem ReduceOp.Shaped.eval_iff (shaped : op.Shaped shape start) : op.eval = .ok results ↔
    (∀ type ∈ op.resultTypes,
      type.sizes = some (MixedRadix.select (notReduced op.dimensions) 0 shape)) ∧
    results.map Tensor.shape = List.replicate op.inputs.length
      (MixedRadix.select (notReduced op.dimensions) 0 shape) ∧
    ∀ index, MixedRadix.Within (MixedRadix.select (notReduced op.dimensions) 0 shape) index →
      foldTogether (readTogether op.inputs) (regionReducer op.denote op.env op.body) start
        (reducedInto op.dimensions shape index) = readTogether results index := by
  have cells := @reduceOp_eq_ok_iff V op.inputs op.initValues results shape _ op.dimensions start
    _ shaped.inputs (regionReducer op.denote op.env op.body) shaped.shapes
    (shaped.initValues.trans shaped.returned.symm) shaped.read rfl
  rw [shaped.initValues] at cells
  -- With a type that is not static, the interpreter stops.
  by_cases static : ∀ type ∈ op.resultTypes,
      type.sizes = some (MixedRadix.select (notReduced op.dimensions) 0 shape)
  · rw [ReduceOp.eval, mapM_sizes static, shaped.resultTypes]
    rw [← shaped.returned] at cells ⊢
    exact cells.trans (and_iff_right static).symm
  · refine iff_of_false ?_ fun known => static known.1
    intro evaluated
    rw [ReduceOp.eval] at evaluated
    split at evaluated
    · next all known => exact static (sizes_of_mapM shaped.resultShapes known)
    · contradiction

/-- What comes of a call, which may fail. -/
def outcomeOf : Option (List V) → Except Failure (List V)
  | some values => .ok values
  | none => .error .undefinedBehavior

/-- Calls with the same outcome return the same. -/
theorem outcomeOf_inj {first second : Option (List V)} :
    outcomeOf first = outcomeOf second ↔ first = second := by
  cases first <;> cases second <;> simp [outcomeOf]

/-- What is computed from scalars comes of a call of the region. -/
theorem regionReducer_run (denote : Denotation κ V) (env : Env V) (body : Region κ)
    (args : List V) : (regionReducer denote env body).run args =
      outcomeOf (body.call denote env args) := by
  rw [regionReducer]
  dsimp only
  cases body.call denote env args <;> rfl

/-- Nothing is reduced where the inputs have no elements. -/
theorem reducedInto_of_empty {dimensions : List Nat} (empty : 0 ∈ shape) (index : Index) :
    reducedInto dimensions shape index = [] := by
  rw [reducedInto, List.filter_eq_nil_iff]
  intro other listed
  exact absurd empty (MixedRadix.exists_within_iff.1 ⟨other, MixedRadix.mem_all.1 listed⟩)

/-- Something is reduced into each result where the inputs have elements. -/
theorem reducedInto_ne_nil {dimensions : List Nat} (occupied : 0 ∉ shape) {index : Index}
    (within : MixedRadix.Within (MixedRadix.select (notReduced dimensions) 0 shape) index) :
    reducedInto dimensions shape index ≠ [] := by
  obtain ⟨other, inside, same⟩ := MixedRadix.exists_select_eq within occupied
  have listed : other ∈ reducedInto dimensions shape index :=
    List.mem_filter.2 ⟨MixedRadix.mem_all.2 inside, decide_eq_true same⟩
  exact List.ne_nil_of_mem listed

/-- A fold of a computation that always has the same outcome has it after one turn or more. -/
theorem eq_of_foldTogether {count : Nat} {body : Reducer V count}
    {elements : Index → Except Failure (List V)} {captured values : List V} {indices : List Index}
    (returns : ∀ args values, body.run args = .ok values → values = captured)
    (some : indices ≠ []) (folded : foldTogether elements body start indices = .ok values) :
    values = captured := by
  -- The last turn decides.
  rcases indices.eq_nil_or_concat with none | ⟨before, last, rfl⟩
  · contradiction
  rw [List.concat_eq_append] at folded
  rw [foldTogether, List.foldlM_append] at folded
  obtain ⟨earlier, _, folded⟩ := Fallible.bind_eq_ok.1 folded
  rw [List.foldlM_cons] at folded
  obtain ⟨final, turn, folded⟩ := Fallible.bind_eq_ok.1 folded
  cases folded
  obtain ⟨read, _, run⟩ := Fallible.bind_eq_ok.1 turn
  exact returns _ _ run

/-- A body that returns what is defined around it returns the values that this has. -/
theorem eq_of_call_captured (outside : op.ReturnsCaptured) {args values captured : List V}
    (known : op.env.read op.body.returned = some captured)
    (run : (regionReducer op.denote op.env op.body).run args = .ok values) : values = captured := by
  have counted := (regionReducer op.denote op.env op.body).counted _ _ run
  rw [regionReducer] at run
  dsimp only at run
  split at run
  · next called =>
    cases run
    apply List.ext_getElem?
    intro place
    by_cases inside : place < op.body.returned.length
    · have found := List.getElem?_eq_getElem inside
      rw [getElem?_call_other called found (outside _ (List.getElem_mem inside)),
        Env.getElem?_read known found]
    · rw [List.getElem?_eq_none (by omega),
        List.getElem?_eq_none (by rw [Env.length_read known]; omega)]
  · contradiction

/-- The results are splats of the captured values when there are none, when something is reduced
into each of them, or when these are the init values. -/
theorem ReduceOp.Shaped.results_eq_iff (shaped : op.Shaped shape start)
    (evaluated : op.eval = .ok results) (outside : op.ReturnsCaptured) {captured : List V}
    (known : op.env.read op.body.returned = some captured) :
    results = (captured.map fun value => Tensor.tabulate
        (MixedRadix.select (notReduced op.dimensions) 0 shape) fun _ => value) ↔
      0 ∈ MixedRadix.select (notReduced op.dimensions) 0 shape ∨ 0 ∉ shape ∨ captured = start := by
  obtain ⟨_, resultShapes, cells⟩ := shaped.eval_iff.1 evaluated
  have own : ∀ result ∈ results,
      result.shape = MixedRadix.select (notReduced op.dimensions) 0 shape :=
    fun result member => List.eq_of_mem_replicate (resultShapes ▸ List.mem_map_of_mem member)
  constructor
  · rintro rfl
    by_contra neither
    simp only [not_or, not_not] at neither
    obtain ⟨occupied, empty, differs⟩ := neither
    obtain ⟨index, within⟩ := MixedRadix.exists_within_iff.2 occupied
    have here := cells index within
    rw [reducedInto_of_empty empty, readTogether_splats within] at here
    exact differs (Except.ok.inj here).symm
  · intro fits
    refine eq_of_readTogether ?_ own ?_
    · rw [resultShapes, List.map_map, ← shaped.returned, ← Env.length_read known]
      exact (List.map_const' ..).symm
    · intro index within
      obtain ⟨values, read, -⟩ := exists_readTogether own within
      have folded := (cells index within).trans read
      rw [readTogether_splats within, read]
      congr 1
      -- There is an index, so there are results.
      have occupied : 0 ∉ MixedRadix.select (notReduced op.dimensions) 0 shape :=
        MixedRadix.exists_within_iff.1 ⟨index, within⟩
      by_cases empty : 0 ∈ shape
      · rw [reducedInto_of_empty empty] at folded
        have same : captured = start := by
          rcases fits with none | some | same
          · contradiction
          · contradiction
          · exact same
        rw [same]
        exact (Except.ok.inj folded).symm
      · exact eq_of_foldTogether (fun args values => eq_of_call_captured outside known)
          (reducedInto_ne_nil empty within) folded

end Cells

section Values

variable {κ V τ : Type} {op : ReduceOp κ V τ} {next : Nat} {shape resultShape : Sizes}
  {start : List V} {results : List (Tensor V)} {types : List (TensorType τ)}

/-- What is made of the first components is all that is seen of the pairs. -/
theorem map_zipWith_left {α β γ δ : Type} {make : α → β → γ} {part : γ → δ} {image : α → δ}
    (made : ∀ first second, part (make first second) = image first) {firsts : List α}
    {seconds : List β} (count : firsts.length = seconds.length) :
    (List.zipWith make firsts seconds).map part = firsts.map image := by
  induction firsts generalizing seconds with
  | nil => rfl
  | cons first firsts ih =>
    cases seconds with
    | nil => cases count
    | cons second seconds =>
      rw [List.zipWith_cons_cons, List.map_cons, List.map_cons, made, ih (by simpa using count)]

/-- Splats of static types are tensors of the values. -/
theorem mapM_splat {values : List V} (count : types.length = values.length)
    (static : ∀ type ∈ types, type.sizes = some resultShape) :
    (List.zipWith Replacement.splat types values).mapM (Replacement.value op) =
      some (values.map fun value => .tabulate resultShape fun _ => value) := by
  rw [Fallible.mapM_eq_some_iff]
  induction values generalizing types with
  | nil =>
    rw [List.length_nil, List.length_eq_zero_iff] at count
    subst count
    exact .nil
  | cons value values ih =>
    cases types with
    | nil => cases count
    | cons type types =>
      rw [List.forall_mem_cons] at static
      refine .cons ?_ (ih (by simpa using count) static.2)
      rw [Replacement.value, static.1]
      rfl

/-- Captured values are scalars of what their names stand for. -/
theorem mapM_captured {elementTypes : List τ} {names : List Nat} {captured : List V}
    (count : elementTypes.length = names.length) (known : op.env.read names = some captured) :
    (List.zipWith (fun type name => Replacement.captured (scalarType type) name) elementTypes
        names).mapM (Replacement.value op) =
      some (captured.map fun value => .tabulate [] fun _ => value) := by
  rw [Env.read, Fallible.mapM_eq_some_iff] at known
  rw [Fallible.mapM_eq_some_iff]
  induction known generalizing elementTypes with
  | nil => cases elementTypes <;> exact .nil
  | cons here _ ih =>
    cases elementTypes with
    | nil => cases count
    | cons elementType elementTypes =>
      refine .cons ?_ (ih (by simpa using count))
      rw [Replacement.value, here]
      rfl

/-- What is at the places of items is listed in their order. -/
theorem mapM_places {α β : Type} {items : List α} {values : List β} {start : Nat}
    {find : α × Nat → Option β} (count : items.length = values.length)
    (found : ∀ (item : α) (place : Nat) (value : β), item ∈ items →
      values[place]? = some value → find (item, start + place) = some value) :
    (items.zipIdx start).mapM find = some values := by
  rw [Fallible.mapM_eq_some_iff]
  induction items generalizing values start with
  | nil =>
    rw [List.length_nil, eq_comm, List.length_eq_zero_iff] at count
    subst count
    exact .nil
  | cons item items ih =>
    cases values with
    | nil => cases count
    | cons value values =>
      rw [List.zipIdx_cons]
      refine .cons (found item 0 value List.mem_cons_self rfl) (ih (by simpa using count) ?_)
      intro other place result listed there
      -- Places are counted from the next one on.
      have behind := found other (place + 1) result (List.mem_cons_of_mem _ listed) there
      rwa [Nat.add_assoc, Nat.add_comm 1 place]

/-- A tensor with an element at the empty index is a scalar with that element. -/
theorem eq_constant_of_get {tensor : Tensor V} {value : V} (got : tensor.get [] = .ok value) :
    tensor = .constant value := by
  -- The empty index is only an index of the empty shape.
  have scalar : tensor.shape = [] := by
    have within := Tensor.within_of_get got
    cases shape : tensor.shape with
    | nil => rfl
    | cons size sizes =>
      rw [shape] at within
      cases within
  apply Tensor.ext_get scalar
  intro index within
  rw [scalar] at within
  cases within
  exact got

/-- Broadcasts of init values replace a reduction of inputs without elements. -/
theorem reduceOpEmptyCanon_replaces (shaped : op.Shaped shape start)
    (evaluated : op.eval = .ok results) {canon : List (Replacement V τ)}
    (made : reduceOpEmptyCanon op = some canon) : op.ReplacedBy canon results := by
  obtain ⟨static, resultShapes, cells⟩ := shaped.eval_iff.1 evaluated
  have startCount : start.length = op.initValues.length := Fallible.length_of_mapM shaped.read
  have empty : 0 ∈ shape := by
    rw [reduceOpEmptyCanon] at made
    split at made
    · next elemTy others types =>
      split at made
      · next contained =>
        have describes := shaped.inputShapes elemTy (by rw [types]; exact List.mem_cons_self)
        obtain ⟨place, found⟩ := List.getElem?_of_mem contained
        have below := (List.getElem?_eq_some_iff.1 found).1
        have inside : place < shape.length := by
          rw [describes.length_eq]
          exact below
        have here := (List.forall₂_iff_get.1 describes).2 place inside below
        rw [List.get_eq_getElem, List.get_eq_getElem, (List.getElem?_eq_some_iff.1 found).2] at here
        rcases here with dynamic | exact
        · contradiction
        · rw [Option.some.inj exact]
          exact List.getElem_mem inside
      · contradiction
    · contradiction
  -- Each result has the init value everywhere.
  have own : results = start.map fun value =>
      Tensor.tabulate (MixedRadix.select (notReduced op.dimensions) 0 shape) fun _ => value := by
    refine eq_of_readTogether ?_
      (fun result member => List.eq_of_mem_replicate (resultShapes ▸ List.mem_map_of_mem member)) ?_
    · rw [resultShapes, List.map_map, ← shaped.initValues, ← startCount]
      exact (List.map_const' ..).symm
    · intro index within
      rw [← cells index within, reducedInto_of_empty empty, readTogether_splats within]
      rfl
  have listed : canon = op.resultTypes.zipIdx.map fun (type, place) =>
      .broadcastInDim type place := by
    rw [reduceOpEmptyCanon] at made
    split at made
    · split at made
      · exact (Option.some.inj made).symm
      · contradiction
    · contradiction
  rw [listed]
  constructor
  · rw [List.map_map]
    exact List.zipIdx_map_fst 0 op.resultTypes
  · rw [List.mapM_map]
    refine mapM_places ?_ ?_
    · rw [own, List.length_map, startCount, shaped.resultTypes, shaped.initValues]
    · intro type place result listed found
      rw [own, List.getElem?_map, Option.map_eq_some_iff] at found
      obtain ⟨value, there, rfl⟩ := found
      have read := shaped.read
      rw [readTogether, Fallible.mapM_eq_ok_iff] at read
      have below := (List.getElem?_eq_some_iff.1 there).1
      have inside : place < op.initValues.length := by omega
      have got := (List.forall₂_iff_get.1 read).2 place inside below
      rw [List.get_eq_getElem, List.get_eq_getElem, (List.getElem?_eq_some_iff.1 there).2] at got
      show Replacement.value op (.broadcastInDim type (0 + place)) = _
      rw [Replacement.value, Nat.zero_add, List.getElem?_eq_getElem inside,
        eq_constant_of_get got, static type listed]
      show (Tensor.broadcastInDimOp (Tensor.constant value) [] _).toOption = _
      rw [Tensor.broadcastInDimOp_constant]
      rfl

/-- Without dimensions, each element is reduced into the one at its own index. -/
theorem reducedInto_nil {index : Index} (within : MixedRadix.Within shape index) :
    reducedInto [] shape index = [index] := by
  have only : (fun other : Index =>
      decide (MixedRadix.select (notReduced []) 0 other = index)) = (· == index) := by
    funext other
    have all : MixedRadix.select (notReduced []) 0 other = other :=
      MixedRadix.select_of_forall (fun _ => rfl) other
    rw [all, beq_eq_decide]
  rw [reducedInto, indexSpace, only, List.filter_beq,
    List.count_eq_one_of_mem (MixedRadix.nodup_all shape) (MixedRadix.mem_all.2 within)]
  rfl

/-- Inputs replace a reduction of no dimensions whose body keeps their elements. -/
theorem foldReduceOpReducingZeroDims_replaces [DecidableEq τ] (shaped : op.Shaped shape start)
    (keeps : op.KeepsElements start) (evaluated : op.eval = .ok results)
    {replaced : List (Replacement V τ)} (made : foldReduceOpReducingZeroDims op = some replaced) :
    op.ReplacedBy replaced results := by
  obtain ⟨_, resultShapes, cells⟩ := shaped.eval_iff.1 evaluated
  rw [foldReduceOpReducingZeroDims] at made
  split at made
  · next conditions =>
    obtain ⟨none, sameTypes⟩ := conditions
    cases made
    have same : MixedRadix.select (notReduced op.dimensions) 0 shape = shape := by
      rw [none]
      exact MixedRadix.select_of_forall (fun _ => rfl) shape
    rw [same] at resultShapes cells
    have own : results = op.inputs := by
      refine eq_of_readTogether ?_ (fun result member =>
        List.eq_of_mem_replicate (resultShapes ▸ List.mem_map_of_mem member)) ?_
      · rw [resultShapes, eq_comm]
        exact List.eq_replicate_iff.2 ⟨List.length_map _, fun size listed => by
          obtain ⟨input, member, rfl⟩ := List.mem_map.1 listed
          exact shaped.shapes input member⟩
      · intro index within
        obtain ⟨elements, read, -⟩ := exists_readTogether shaped.shapes within
        -- The body is called once, on the init values and the elements.
        have kept := keeps index elements read
        rw [← cells index within, none, reducedInto_nil within, read, foldTogether,
          List.foldlM_cons, read, Fallible.ok_bind, regionReducer_run, kept]
        rfl
    constructor
    · rw [List.map_map, ← sameTypes]
      exact List.zipIdx_map_fst 0 op.inputTypes
    · rw [List.mapM_map, own]
      refine mapM_places shaped.inputTypes ?_
      intro type place result _ found
      show op.inputs[0 + place]? = some result
      rw [Nat.zero_add]
      exact found
  · contradiction

/-- Names that all have a value can be read. -/
theorem exists_read {env : Env V} {names : List Nat}
    (known : ∀ name ∈ names, ∃ value, env name = some value) :
    ∃ values, env.read names = some values := by
  induction names with
  | nil => exact ⟨[], rfl⟩
  | cons name names ih =>
    rw [List.forall_mem_cons] at known
    obtain ⟨value, here⟩ := known.1
    obtain ⟨values, others⟩ := ih known.2
    refine ⟨value :: values, ?_⟩
    rw [Env.read, Fallible.mapM_eq_some_iff] at others ⊢
    exact .cons here others

/-- What the body returns can replace the results exactly when they are scalars that something is
reduced into, or when it is the init values. -/
theorem returnedValues_iff (accepted : op.Accepted next shape start)
    (evaluated : op.eval = .ok results) (outside : op.ReturnsCaptured) :
    op.ReplacedBy op.returnedValues results ↔ op.returnedTypes.map scalarType = op.resultTypes ∧
      (0 ∉ shape ∨ op.env.read op.body.returned = some start) := by
  obtain ⟨captured, known⟩ := exists_read fun name listed =>
    accepted.captured name listed (outside name listed)
  have count : op.returnedTypes.length = op.body.returned.length := by
    rw [← accepted.returnedTypes, List.length_map, accepted.resultTypes, accepted.returned]
  have types : op.returnedValues.map Replacement.type = op.returnedTypes.map scalarType := by
    refine map_zipWith_left ?_ count
    intro type name
    rfl
  rw [ReduceOp.ReplacedBy, types]
  apply and_congr_right
  intro scalars
  -- The results are scalars, since they have types of scalars.
  have scalar : MixedRadix.select (notReduced op.dimensions) 0 shape = [] := by
    have some : op.resultTypes ≠ [] := by
      intro none
      have empty := accepted.resultTypes
      rw [none, List.length_nil, eq_comm, List.length_eq_zero_iff] at empty
      exact accepted.inputs empty
    obtain ⟨type, others, listed⟩ := List.exists_cons_of_ne_nil some
    have first : type ∈ op.resultTypes := by
      rw [listed]
      exact List.mem_cons_self
    have describes := accepted.resultShapes type first
    rw [← scalars, List.mem_map] at first
    obtain ⟨elementType, -, rfl⟩ := first
    exact List.forall₂_nil_right_iff.1 describes
  have same := accepted.results_eq_iff evaluated outside known
  rw [scalar] at same
  rw [ReduceOp.returnedValues, mapM_captured count known, known, Option.some.injEq,
    Option.some.injEq, eq_comm, same]
  simp

/-- Constants that the body returns can replace the results exactly when there are none, when
something is reduced into each of them, or when they are the init values. -/
theorem foldReduceOpToConstantInitializer_iff (accepted : op.Accepted next shape start)
    (evaluated : op.eval = .ok results) {replaced : List (Replacement V τ)} {values : List V}
    (nothing : op.body.operations = []) (known : op.body.returned.mapM op.constants = some values)
    (made : foldReduceOpToConstantInitializer op = some replaced) :
    op.ReplacedBy replaced results ↔
      0 ∈ MixedRadix.select (notReduced op.dimensions) 0 shape ∨ 0 ∉ shape ∨ values = start := by
  obtain ⟨static, -⟩ := accepted.eval_iff.1 evaluated
  rw [foldReduceOpToConstantInitializer, nothing, known] at made
  cases made
  have listed := Fallible.mapM_eq_some_iff.1 known
  have count : op.resultTypes.length = values.length := by
    rw [← listed.length_eq, accepted.resultTypes, accepted.returned]
  have captured : op.env.read op.body.returned = some values := by
    rw [Env.read, Fallible.mapM_eq_some_iff]
    exact listed.imp fun name value constant => (accepted.constants name value constant).1
  have outside : op.ReturnsCaptured := by
    intro name member
    obtain ⟨place, below, rfl⟩ := List.getElem_of_mem member
    have here := (List.forall₂_iff_get.1 listed).2 place below (by rw [← listed.length_eq]; exact below)
    exact (accepted.constants _ _ here).2
  have types : (List.zipWith Replacement.splat op.resultTypes values).map Replacement.type =
      op.resultTypes.map id := by
    refine map_zipWith_left ?_ count
    intro type value
    rfl
  rw [ReduceOp.ReplacedBy, types, List.map_id]
  rw [mapM_splat count static, Option.some.injEq, and_iff_right rfl, eq_comm,
    accepted.results_eq_iff evaluated outside captured]

end Values

section Lowered

variable {κ V τ : Type} {op : ReduceOp κ V τ} {next : Nat} {shape : Sizes} {start : List V}
  {results : List (Tensor V)} {constants : List V}

/-- An argument has the name of its constant. -/
theorem constantNames_argument {arguments : List Nat} (nodup : arguments.Nodup)
    {place name : Nat} (found : arguments[place]? = some name) :
    constantNames next arguments name = next + place := by
  have below := (List.getElem?_eq_some_iff.1 found).1
  have here : arguments.idxOf? name = some place := by
    rw [List.idxOf?_eq_some_iff]
    refine ⟨below, (List.getElem?_eq_some_iff.1 found).2, ?_⟩
    intro other earlier same
    -- The name is at no earlier place.
    have inside : other < arguments.length := by omega
    have there : arguments[other]? = some name := List.getElem?_eq_some_iff.2 ⟨inside, same⟩
    have equal := (List.getElem?_inj inside nodup).1 (there.trans found.symm)
    omega
  rw [constantNames, here]

/-- A name that is no argument stays. -/
theorem constantNames_other {arguments : List Nat} {name : Nat} (other : name ∉ arguments) :
    constantNames next arguments name = name := by
  have none : arguments.idxOf? name = none := List.idxOf?_eq_none_iff.2 other
  rw [constantNames, none]

/-- The constants are what the body is called on, whatever values are. -/
theorem call_lowered {env : Env V} {denote : Denotation κ V} {body : Region κ}
    (definitions : body.definitions.Nodup) (defined : ∀ name ∈ body.definitions, name < next)
    (mentioned : ∀ name ∈ body.mentions, name < next)
    (constantCount : body.arguments.length = constants.length) {args : List V}
    (count : body.arguments.length = args.length) :
    (body.rename (constantNames next body.arguments)).call denote
      (withConstants next constants env) args = body.call denote env constants := by
  -- The constants have names that are not in use.
  have fresh : AgreeOn (· < next) env (withConstants next constants env) := by
    intro name below
    rw [withConstants, if_neg (by omega)]
  rw [Region.call_congr fresh body mentioned, call_eq, call_eq, rename_arguments,
    rename_operations, rename_returned]
  obtain ⟨entered, binds⟩ := (withConstants next constants env).exists_bind count
  obtain ⟨given, givenBinds⟩ := (withConstants next constants env).exists_bind constantCount
  have nodup : body.arguments.Nodup := arguments_nodup definitions
  have renamed : RenamedEnv (constantNames next body.arguments) entered given := by
    intro name
    by_cases argument : name ∈ body.arguments
    · obtain ⟨place, found⟩ := List.getElem?_of_mem argument
      rw [constantNames_argument nodup found, Env.bind_at nodup givenBinds found,
        Env.bind_other binds, withConstants, if_pos (by omega), Nat.add_sub_cancel_left]
      intro listed
      have below := defined _ (mem_definitions listed)
      omega
    · rw [constantNames_other argument, Env.bind_other binds argument,
        Env.bind_other givenBinds argument]
  have unmoved : ∀ definition ∈ Operation.allDefinitions body.operations,
      Unmoved (constantNames next body.arguments) definition := by
    intro definition listed name
    cases body with
    | node arguments operations returned =>
      rw [Region.definitions] at definitions defined
      have below := defined definition (List.mem_append_right _ listed)
      have other : definition ∉ arguments := fun argument =>
        (List.nodup_append.1 definitions).2.2 definition argument definition listed rfl
      have distinct : arguments.Nodup := nodup
      show constantNames next arguments name = definition ↔ _
      by_cases argument : name ∈ arguments
      · obtain ⟨place, found⟩ := List.getElem?_of_mem argument
        rw [constantNames_argument distinct found]
        constructor
        · intro same
          omega
        · intro same
          exact absurd (same ▸ argument) other
      · rw [constantNames_other argument]
  rw [binds, givenBinds, Option.bind_some, Option.bind_some]
  refine (Operation.run_rename renamed body.operations unmoved).bind ?_
  intro former latter left
  exact left.read body.returned

/-- A fold of a computation whose outcome is always the same has it after one turn or more. -/
theorem foldTogether_of_same {count : Nat} {body : Reducer V count}
    {elements : Index → Except Failure (List V)} {outcome : Except Failure (List V)}
    {known : List V} {indices : List Index}
    (same : ∀ args, args.length = count + known.length → body.run args = outcome)
    (read : ∀ index ∈ indices, elements index = .ok known) (counted : start.length = count)
    (some : indices ≠ []) : foldTogether elements body start indices = outcome := by
  induction indices generalizing start with
  | nil => contradiction
  | cons index indices ih =>
    rw [List.forall_mem_cons] at read
    have turn := same (start ++ known) (by rw [List.length_append, counted])
    unfold foldTogether at ih ⊢
    rw [List.foldlM_cons, read.1, Fallible.ok_bind, turn]
    by_cases last : indices = []
    · rw [last]
      cases outcome <;> rfl
    · cases result : outcome with
      | error failure => rfl
      | ok values =>
        rw [Fallible.ok_bind, ← result]
        exact ih read.2 (body.counted _ _ (turn.trans result)) last

/-- A fold over the same elements calls the body on them as often as there are indices. -/
theorem foldTogether_repeat {elements : Index → Except Failure (List V)} {known : List V}
    {indices : List Index} (read : ∀ index ∈ indices, elements index = .ok known) :
    foldTogether elements (regionReducer op.denote op.env op.body) start indices =
      outcomeOf (op.repeatBody known indices.length start) := by
  induction indices generalizing start with
  | nil => rfl
  | cons index indices ih =>
    rw [List.forall_mem_cons] at read
    unfold foldTogether at ih ⊢
    rw [List.foldlM_cons, read.1, Fallible.ok_bind, List.length_cons, ReduceOp.repeatBody,
      regionReducer_run]
    cases op.body.call op.denote op.env (start ++ known) with
    | none => rfl
    | some values => exact ih read.2

/-- There is one index into each result for each choice of the reduced coordinates. -/
theorem length_reducedInto {dimensions : List Nat} {index : Index}
    (within : MixedRadix.Within (MixedRadix.select (notReduced dimensions) 0 shape) index) :
    (reducedInto dimensions shape index).length =
      (MixedRadix.select dimensions.contains 0 shape).prod := by
  have reduced : (fun axis => !notReduced dimensions axis) = dimensions.contains := by
    funext axis
    rw [notReduced, Bool.not_not]
  rw [← reduced]
  exact MixedRadix.length_filter_select within

/-- Splat constants are read wherever inputs are read. -/
theorem ReduceOp.Accepted.read_splats (accepted : op.Accepted next shape start)
    (known : op.splats = constants.map some) {index : Index}
    (within : MixedRadix.Within shape index) :
    readTogether op.inputs index = .ok (constants.take op.inputs.length) := by
  have count : constants.length = op.inputs.length + op.inputs.length := by
    rw [← accepted.splatCount, known, List.length_map]
  rw [readTogether, Fallible.mapM_eq_ok_iff, List.forall₂_iff_get]
  refine ⟨by rw [List.length_take]; omega, ?_⟩
  intro place below inside
  rw [List.get_eq_getElem, List.get_eq_getElem, List.getElem_take]
  have own := accepted.shapes _ (List.getElem_mem below)
  obtain ⟨element, got, stored⟩ := Tensor.get_eq (own ▸ within)
  have listed : (op.inputs ++ op.initValues)[place]? = some op.inputs[place] := by
    rw [List.getElem?_append_left below, List.getElem?_eq_getElem below]
  have constant : op.splats[place]? = some (some constants[place]) := by
    rw [known, List.getElem?_map, List.getElem?_eq_getElem (by omega)]
    rfl
  rw [got, accepted.splats place _ _ listed constant element (List.mem_of_getElem? stored)]

/-- A reduction whose body is called on constants has the same results exactly when it has none,
when nothing is reduced, or when this gives what the repeated calls give. -/
theorem lowerBoolSplatConstantsIntoReduceOpRegion_iff (accepted : op.Accepted next shape start)
    (evaluated : op.eval = .ok results) (known : op.splats = constants.map some) :
    ReduceOp.eval { op with
      body := op.body.rename (constantNames next op.body.arguments)
      env := withConstants next constants op.env
      constants := withConstants next constants op.constants } = .ok results ↔
    0 ∈ MixedRadix.select (notReduced op.dimensions) 0 shape ∨ 0 ∈ shape ∨
      op.body.call op.denote op.env constants =
        op.repeatBody (constants.take op.inputs.length)
          (MixedRadix.select op.dimensions.contains 0 shape).prod start := by
  have constantCount : constants.length = op.inputs.length + op.inputs.length := by
    rw [← accepted.splatCount, known, List.length_map]
  have startCount : start.length = op.initValues.length := Fallible.length_of_mapM accepted.read
  obtain ⟨static, resultShapes, cells⟩ := accepted.eval_iff.1 evaluated
  have returned : (op.body.rename (constantNames next op.body.arguments)).returned.length =
      op.inputs.length := by
    rw [rename_returned, List.length_map, accepted.returned]
  have shaped : ReduceOp.Shaped { op with
      body := op.body.rename (constantNames next op.body.arguments)
      env := withConstants next constants op.env
      constants := withConstants next constants op.constants } shape start :=
    { accepted.toShaped with returned := returned }
  rw [shaped.eval_iff, and_iff_right static, and_iff_right resultShapes]
  -- Each call is one on the constants.
  have calls (args : List V) (count : args.length =
      (op.body.rename (constantNames next op.body.arguments)).returned.length +
        (constants.take op.inputs.length).length) :
      (regionReducer op.denote (withConstants next constants op.env)
        (op.body.rename (constantNames next op.body.arguments))).run args =
        outcomeOf (op.body.call op.denote op.env constants) := by
    rw [List.length_take, returned] at count
    rw [regionReducer_run, call_lowered accepted.definitions accepted.defined accepted.mentioned
      (by rw [accepted.arguments, constantCount]) (by rw [accepted.arguments]; omega)]
  have read (index : Index) : ∀ other ∈ reducedInto op.dimensions shape index,
      readTogether op.inputs other = .ok (constants.take op.inputs.length) :=
    fun other listed => accepted.read_splats known
      (MixedRadix.mem_all.1 (List.mem_filter.1 listed).1)
  by_cases empty : 0 ∈ shape
  · refine iff_of_true ?_ (.inr (.inl empty))
    intro index within
    rw [← cells index within, reducedInto_of_empty empty]
    rfl
  have lowered (index : Index)
      (within : MixedRadix.Within (MixedRadix.select (notReduced op.dimensions) 0 shape) index) :=
    foldTogether_of_same calls (read index)
      (startCount.trans (accepted.initValues.trans returned.symm))
      (reducedInto_ne_nil empty within)
  have original (index : Index)
      (within : MixedRadix.Within (MixedRadix.select (notReduced op.dimensions) 0 shape) index) :=
    (foldTogether_repeat (read index)).symm.trans (cells index within)
  constructor
  · intro same
    by_cases none : 0 ∈ MixedRadix.select (notReduced op.dimensions) 0 shape
    · exact .inl none
    · obtain ⟨index, within⟩ := MixedRadix.exists_within_iff.2 none
      have here := (lowered index within).symm.trans (same index within)
      rw [← original index within, length_reducedInto within, outcomeOf_inj] at here
      exact .inr (.inr here)
  · intro fits index within
    have repeated : op.body.call op.denote op.env constants =
        op.repeatBody (constants.take op.inputs.length)
          (MixedRadix.select op.dimensions.contains 0 shape).prod start := by
      rcases fits with none | some | repeated
      · exact absurd none (MixedRadix.exists_within_iff.1 ⟨index, within⟩)
      · contradiction
      · exact repeated
    refine (lowered index within).trans ?_
    rw [← original index within, length_reducedInto within, repeated]

/-- All operands are splat constants when there is a constant for each of them. -/
theorem mapM_id_iff {splats : List (Option V)} :
    splats.mapM id = some constants ↔ splats = constants.map some := by
  rw [Fallible.mapM_eq_some_iff]
  constructor
  · intro known
    induction known with
    | nil => rfl
    | cons here _ ih => rw [List.map_cons, ← ih, ← here, id_eq]
  · rintro rfl
    rw [List.forall₂_map_left_iff]
    exact List.forall₂_same.2 fun _ _ => rfl

/-- Values that replace the results agree with the broadcasts of the init values. -/
theorem ReduceOp.ReplacedBy.agrees {replaced : List (Replacement V τ)}
    (replaces : op.ReplacedBy replaced results) (shaped : op.Shaped shape start)
    (evaluated : op.eval = .ok results) :
    op.AgreesWithEmptyCanon (replaced.mapM (Replacement.value op)) := by
  intro canon made
  rw [(reduceOpEmptyCanon_replaces shaped evaluated made).2, replaces.2]

end Lowered

section Patterns

variable {κ V τ : Type} [DecidableEq τ] {op : ReduceOp κ V τ} {next : Nat} {shape : Sizes}
  {start : List V} {results : List (Tensor V)}

/-- A pattern that leaves no reduction keeps the results when its values replace them. -/
theorem ReducePattern.keepsResults_of_apply {pattern : ReducePattern}
    (shaped : op.Shaped shape start) (evaluated : op.eval = .ok results)
    (none : pattern.lower next op = none) : pattern.KeepsResults op next results ↔
      ∀ replaced, pattern.apply op = some replaced → op.ReplacedBy replaced results := by
  constructor
  · intro keeps replaced made
    exact (keeps.1 replaced made).1
  · intro replaces
    refine ⟨fun replaced made => ⟨replaces replaced made, ?_⟩, fun lowered made => ?_⟩
    · exact (replaces replaced made).agrees shaped evaluated
    · rw [none] at made
      contradiction

/-- A pattern keeps the results of an accepted reduction, whose body keeps elements that it is
called on with the init values, exactly when it fits. -/
theorem ReducePattern.keepsResults_iff (pattern : ReducePattern)
    (accepted : op.Accepted next shape start) (keeps : op.KeepsElements start)
    (evaluated : op.eval = .ok results) :
    pattern.KeepsResults op next results ↔ pattern.Fits op shape start := by
  have shaped := accepted.toShaped
  cases pattern with
  | foldReduceOpReducingZeroDims =>
    rw [keepsResults_of_apply shaped evaluated rfl]
    refine iff_of_true ?_ trivial
    intro replaced made
    exact foldReduceOpReducingZeroDims_replaces shaped keeps evaluated made
  | lowerBoolSplatConstantsIntoReduceOpRegion =>
    constructor
    · intro same kind operands results regions constants operations conjunction known
      obtain ⟨-, evaluatedToo, -⟩ := same.2 _ (by
        rw [lower, Stablehlo.lowerBoolSplatConstantsIntoReduceOpRegion, operations]
        dsimp only
        rw [if_pos conjunction, mapM_id_iff.2 known]
        rfl)
      exact (lowerBoolSplatConstantsIntoReduceOpRegion_iff accepted evaluated known).1 evaluatedToo
    · intro fits
      refine ⟨fun replaced made => (nomatch made), fun lowered made => ?_⟩
      rw [lower, Stablehlo.lowerBoolSplatConstantsIntoReduceOpRegion] at made
      split at made
      · next kind operands names regions operations =>
        split at made
        · next conjunction =>
          obtain ⟨constants, known, same⟩ := Option.bind_eq_some_iff.1 made
          cases same
          rw [mapM_id_iff] at known
          have same := (lowerBoolSplatConstantsIntoReduceOpRegion_iff accepted evaluated known).2
            (fits kind operands names regions constants operations conjunction known)
          refine ⟨rfl, same, ?_⟩
          rw [same]
          intro canon canonMade
          exact (reduceOpEmptyCanon_replaces shaped evaluated canonMade).2
        · contradiction
      · contradiction
  | foldReduceOpToConstantInitializer =>
    rw [keepsResults_of_apply shaped evaluated rfl]
    constructor
    · intro replaces nothing values known
      have made : Stablehlo.foldReduceOpToConstantInitializer op =
          some (List.zipWith .splat op.resultTypes values) := by
        rw [Stablehlo.foldReduceOpToConstantInitializer, nothing, known]
        rfl
      exact (foldReduceOpToConstantInitializer_iff accepted evaluated nothing known made).1
        (replaces _ made)
    · intro fits replaced made
      have unfolded := made
      rw [apply, Stablehlo.foldReduceOpToConstantInitializer] at unfolded
      split at unfolded
      · next nothing =>
        rw [List.isEmpty_iff] at nothing
        obtain ⟨values, known, -⟩ := Option.bind_eq_some_iff.1 unfolded
        exact (foldReduceOpToConstantInitializer_iff accepted evaluated nothing known made).2
          (fits nothing values known)
      · contradiction
  | foldReduceOpWithRedundantResults =>
    rw [keepsResults_of_apply shaped evaluated rfl]
    constructor
    · intro replaces outside scalars
      have made : Stablehlo.foldReduceOpWithRedundantResults op = some op.returnedValues :=
        if_pos ⟨outside, scalars⟩
      exact ((returnedValues_iff accepted evaluated outside).1 (replaces _ made)).2
    · intro fits replaced made
      rw [apply, Stablehlo.foldReduceOpWithRedundantResults] at made
      split at made
      · next conditions =>
        obtain ⟨outside, scalars⟩ := conditions
        cases made
        exact (returnedValues_iff accepted evaluated outside).2 ⟨scalars, fits outside scalars⟩
      · contradiction
  | reduceOpNoopVariableReturn =>
    rw [keepsResults_of_apply shaped evaluated rfl]
    constructor
    · intro replaces outside
      have made : Stablehlo.reduceOpNoopVariableReturn op = some op.returnedValues :=
        if_pos outside
      exact (returnedValues_iff accepted evaluated outside).1 (replaces _ made)
    · intro fits replaced made
      rw [apply, Stablehlo.reduceOpNoopVariableReturn] at made
      split at made
      · next outside =>
        cases made
        exact (returnedValues_iff accepted evaluated outside).2 (fits outside)
      · contradiction

end Patterns

/-- A body that returns a value from around it. -/
def constantBody : Region Unit := .node [0, 1] [] [2]

/-- A reduction of a number of sevens from five on, whose body returns a seven that is defined
around it. -/
def constantReduce (size : Nat) : ReduceOp Unit Int Unit where
  denote := fun _ _ _ => none
  env := fun name => if name = 2 then some 7 else none
  body := constantBody
  inputs := [.tabulate [size] fun _ => 7]
  initValues := [.tabulate [] fun _ => 5]
  dimensions := [0]
  inputTypes := [⟨[some size], ()⟩]
  resultTypes := [scalarType ()]
  returnedTypes := [()]
  splats := [none, none]
  constants := fun name => if name = 2 then some 7 else none
  isAndOrOr := fun _ => false

/-- The reduction is accepted. -/
theorem constantReduce_accepted (size : Nat) :
    (constantReduce size).Accepted 3 [size] [5] where
  inputs := List.cons_ne_nil _ _
  initValues := rfl
  returned := rfl
  resultTypes := rfl
  inputTypes := rfl
  shapes := by
    intro input listed
    rw [List.mem_singleton.1 listed]
    rfl
  inputShapes := by
    intro type listed
    rw [List.mem_singleton.1 listed]
    exact .cons (.inr rfl) .nil
  resultShapes := by
    intro type listed
    rw [List.mem_singleton.1 listed]
    exact .nil
  read := rfl
  arguments := rfl
  returnedTypes := rfl
  definitions := by
    show constantBody.definitions.Nodup
    decide
  defined := by
    show ∀ name ∈ constantBody.definitions, name < 3
    decide
  mentioned := by
    show ∀ name ∈ constantBody.mentions, name < 3
    decide
  captured := by
    intro name listed _
    rw [List.mem_singleton.1 listed]
    exact ⟨7, rfl⟩
  splatCount := rfl
  splats := by
    intro place operand value _ known
    -- No operand is known to be a splat.
    have listed := List.mem_of_getElem? known
    change some value ∈ [none, none] at listed
    simp at listed
  constants := by
    intro name value known
    refine ⟨known, ?_⟩
    change (if name = 2 then some (7 : Int) else none) = some value at known
    split at known
    · next same =>
      subst same
      show 2 ∉ ownValues constantBody
      decide
    · contradiction

/-- The body keeps elements that it is called on with the init value. -/
theorem constantReduce_keeps (size : Nat) : (constantReduce size).KeepsElements [5] := by
  intro index elements read
  -- All elements are sevens.
  rw [readTogether, Fallible.mapM_eq_ok_iff] at read
  cases read with
  | cons got rest =>
    cases rest
    have within : MixedRadix.Within [size] index := Tensor.within_of_get got
    cases got.symm.trans (Tensor.get_tabulate within)
    rfl

/-- With two elements, the reduction can be replaced by the constant. -/
theorem reducePattern_keepsResults_two :
    (constantReduce 2).eval = .ok [.tabulate [] fun _ => 7] ∧
    (ReducePattern.foldReduceOpToConstantInitializer.KeepsResults (constantReduce 2) 3
        [.tabulate [] fun _ => 7] ↔
      ReducePattern.foldReduceOpToConstantInitializer.Fits (constantReduce 2) [2] [5]) ∧
    ReducePattern.foldReduceOpToConstantInitializer.Fits (constantReduce 2) [2] [5] :=
  ⟨rfl, ReducePattern.keepsResults_iff _ (constantReduce_accepted 2) (constantReduce_keeps 2) rfl,
    fun _ _ _ => .inr (.inl (by decide))⟩

/-- Without elements, the result is the init value, and the constant is not. -/
theorem constantReduce_empty :
    (constantReduce 0).Accepted 3 [0] [5] ∧ (constantReduce 0).KeepsElements [5] ∧
    (constantReduce 0).eval = .ok [.tabulate [] fun _ => 5] ∧
    ¬ ∀ pattern : ReducePattern,
      pattern.KeepsResults (constantReduce 0) 3 [.tabulate [] fun _ => 5] := by
  refine ⟨constantReduce_accepted 0, constantReduce_keeps 0, rfl, ?_⟩
  intro keeps
  have replaced := ((keeps .foldReduceOpToConstantInitializer).1 _ rfl).1.2
  exact absurd replaced (by decide)

end Stablehlo
