import Stablehlo.Reference.SortSlices
import Stablehlo.Transforms.KeptComputation

/-! The simplification of a sort some of whose operands are not compared and not used. -/

namespace Stablehlo

open Ssa

section Pattern

variable {κ : Type}

/-- Whether a block argument has uses, which may be in nested regions. -/
def argumentUsed (body : Region κ) (place : Nat) : Bool :=
  match body.arguments[place]? with
  | some argument => body.mentions.contains argument
  | none => false

/-- Whether each operand stays: its result is used, or one of the two arguments that it has. -/
def keptOperands (used : List Bool) (comparator : Region κ) : List Bool :=
  used.zipIdx.map fun (used, i) =>
    used || argumentUsed comparator (i * 2) || argumentUsed comparator (i * 2 + 1)

/-- Whether each block argument stays: there are two of them for each operand. -/
def keptArguments (kept : List Bool) : List Bool := kept.flatMap fun flag => [flag, flag]

/-- A sort with fewer operands: those that are left, and its comparator. -/
structure SmallerSort (κ : Type) where
  kept : List Bool
  comparator : Region κ

/-- Drop the operands that are not compared and whose results are not used. -/
def sortOpDropUnusedArgs (used : List Bool) (comparator : Region κ) : Option (SmallerSort κ) :=
  let kept := keptOperands used comparator
  if kept.all id then none
  else some {
    kept
    comparator := .node (keep (keptArguments kept) comparator.arguments) comparator.operations
      comparator.returned }

end Pattern

section Comparators

variable {κ : Type}

/-- The types of the block arguments of a comparator: two scalars for each operand. -/
def argumentTypes (inputs : List TypedTensor) : List StablehloType :=
  inputs.flatMap fun input => List.replicate 2 (.rankedTensor [] input.elementType none)

/-- The type of what a comparator returns. -/
def comparisonType : StablehloType := .rankedTensor [] (.integer .signless 1) none

/-- The computation of a comparator, given the values around it. -/
def regionComparator (denote : Denotation κ Element) (env : Env Element) (body : Region κ)
    (parameterTypes : List StablehloType) :
    UpdateComputation parameterTypes [comparisonType] where
  run args :=
    match body.call denote env args with
    | some values =>
      if values.map Element.scalarType = [comparisonType] then .ok values
      else .error .undefinedBehavior
    | none => .error .undefinedBehavior
  typed args values returned := by
    split at returned
    · split at returned
      · next types =>
        cases returned
        obtain ⟨value, rfl, type⟩ := List.map_eq_singleton_iff.mp types
        have same : value.type = .integer .signless 1 := by
          simpa [Element.scalarType, comparisonType] using type
        exact .cons ⟨some [], by rw [same]; rfl⟩ .nil
      · cases returned
    · cases returned

/-- A sort whose comparator is a region, with the values around it, as its verifier accepts it. -/
structure RegionSort (κ : Type) where
  denote : Denotation κ Element
  env : Env Element
  comparator : Region κ
  inputs : List TypedTensor
  dimension : Int
  isStable : Bool
  /-- The shape of all inputs. -/
  shape : Sizes
  /-- Whether each of the results has uses. -/
  used : List Bool
  alike : ∀ input ∈ inputs, input.elements.shape = shape
  counted : used.length = inputs.length
  arguments : comparator.arguments.length = 2 * inputs.length

/-- The results of a sort. -/
def RegionSort.results (op : RegionSort κ) (algorithm : SortAlgorithm) (allocator : Allocator) :
    Except Failure (List TypedTensor) :=
  sortOp algorithm allocator op.inputs op.dimension op.isStable
    (regionComparator op.denote op.env op.comparator (argumentTypes op.inputs))

/-- The results of a smaller sort. -/
def SmallerSort.results (made : SmallerSort κ) (op : RegionSort κ) (algorithm : SortAlgorithm)
    (allocator : Allocator) : Except Failure (List TypedTensor) :=
  sortOp algorithm allocator (keep made.kept op.inputs) op.dimension op.isStable
    (regionComparator op.denote op.env made.comparator (argumentTypes (keep made.kept op.inputs)))

end Comparators

section Arguments

variable {κ V α : Type} {denote : Denotation κ V} {env : Env V} {kept : List Bool}

/-- A region that does not read some of its arguments returns the same without them. -/
theorem call_keep {arguments returned : List Nat} {operations : List (Operation κ)}
    {flags : List Bool} {args : List V} (count : flags.length = arguments.length)
    (unread : ∀ (place : Nat) (name : Nat), flags[place]? = some false →
      arguments[place]? = some name → name ∉ (Region.node arguments operations returned).mentions)
    (supplied : args.length = arguments.length) :
    (Region.node (keep flags arguments) operations returned).call denote env (keep flags args) =
      (Region.node arguments operations returned).call denote env args := by
  obtain ⟨entered, binds⟩ := env.exists_bind supplied.symm
  -- What is bound agrees on all names that the region reads.
  obtain ⟨entered', binds', agree⟩ := bind_keep (fun _ _ => rfl) count unread binds
  have inside : ∀ name ∈ Operation.allMentions operations,
      name ∈ (Region.node arguments operations returned).mentions := by
    intro name listed
    rw [Region.mentions]
    exact List.mem_append_left _ listed
  have outcome := @Operation.run_congr _ _ denote _ _ _ agree operations inside
  rw [Region.call, Region.call, binds, binds']
  refine (SameOutcome.bind outcome fun former latter same => ?_).symm
  refine same.read fun name listed => ?_
  rw [Region.mentions]
  exact List.mem_append_right _ listed

/-- Flagged pairs are kept item by item. -/
theorem flatten_keep {args : List (List α)} (pairs : ∀ arg ∈ args, arg.length = 2) :
    (keep kept args).flatten = keep (keptArguments kept) args.flatten := by
  induction args generalizing kept with
  | nil => cases kept with
    | nil => simp [keep, keptArguments]
    | cons flag kept => cases flag <;> simp [keep, keptArguments]
  | cons arg args ih =>
    rw [List.forall_mem_cons] at pairs
    obtain ⟨first, second, rfl⟩ := List.length_eq_two.mp pairs.1
    cases kept with
    | nil => simp [keep, keptArguments]
    | cons flag kept =>
      have rest := @ih kept pairs.2
      rw [keptArguments] at rest
      cases flag <;> simp [keep, keptArguments, rest]

/-- There are two flags for each flag. -/
theorem getElem?_keptArguments (place : Nat) : (keptArguments kept)[place]? = kept[place / 2]? := by
  induction kept generalizing place with
  | nil => simp [keptArguments]
  | cons flag kept ih =>
    rw [keptArguments] at ih ⊢
    rcases place with _ | _ | place
    · rfl
    · rfl
    · have half : (place + 1 + 1) / 2 = place / 2 + 1 := by omega
      simp [half, ih]

/-- There are twice as many flags. -/
theorem length_keptArguments : (keptArguments kept).length = 2 * kept.length := by
  induction kept with
  | nil => rfl
  | cons flag kept ih =>
    rw [keptArguments] at ih
    simp only [keptArguments, List.flatMap_cons, List.length_append, List.length_cons, ih]
    simp only [List.length_nil]
    omega

end Arguments

section Runs

variable {σ τ ι ε : Type} {step : σ → ι → Except ε σ} {other : τ → ι → Except ε τ}
  {items : List ι} {α β : Type}

/-- A run that shows a part of what another one does at each step shows it at the end. -/
theorem foldlM_shown {invariant : σ → Prop} {shown : σ → τ}
    (steps : ∀ item ∈ items, ∀ state, invariant state →
      other (shown state) item = (step state item).map shown ∧
        ∀ next, step state item = .ok next → invariant next)
    {state : σ} (start : invariant state) :
    items.foldlM other (shown state) = (items.foldlM step state).map shown := by
  induction items generalizing state with
  | nil => rfl
  | cons item items ih =>
    rw [List.forall_mem_cons] at steps
    obtain ⟨same, preserved⟩ := steps.1 state start
    rw [List.foldlM_cons, List.foldlM_cons, same]
    cases stepped : step state item with
    | error failure => rfl
    | ok next => exact ih steps.2 (preserved next stepped)

/-- A loop all of whose passes fail alike fails, unless it has none. -/
theorem mapM_eq_error {items : List α} {pass : α → Except ε β} {failure : ε} (some : items ≠ [])
    (fails : ∀ item ∈ items, pass item = .error failure) :
    items.mapM pass = .error failure := by
  cases items with
  | nil => exact absurd rfl some
  | cons item items =>
    rw [List.mapM_cons, fails item List.mem_cons_self]
    rfl

/-- What flagged items come to is what all of them do, where all passes fail alike or none does. -/
theorem mapM_keep_eq {flags : List Bool} {items : List α} {pass : α → Except ε β} {failure : ε}
    (count : flags.length = items.length) (some : true ∈ flags)
    (alike : (∀ item ∈ items, ∃ value, pass item = .ok value) ∨
      ∀ item ∈ items, pass item = .error failure) :
    (keep flags items).mapM pass = (items.mapM pass).map (keep flags) := by
  rcases alike with succeeds | fails
  · obtain ⟨values, computed⟩ := Fallible.mapM_succeeds succeeds
    rw [computed, mapM_keep computed]
    rfl
  · obtain ⟨place, flagged⟩ := List.mem_iff_getElem?.mp some
    obtain ⟨below, -⟩ := List.getElem?_eq_some_iff.mp flagged
    -- The flagged item is in both lists.
    have found := List.getElem?_eq_getElem (show place < items.length by omega)
    have kept : items[place] ∈ keep flags items := mem_keep.mpr ⟨place, flagged, found⟩
    rw [mapM_eq_error (List.ne_nil_of_mem kept) fun item listed => ?_,
      mapM_eq_error (List.ne_nil_of_mem (List.mem_of_getElem? found)) fails]
    · rfl
    · obtain ⟨place, -, found⟩ := mem_keep.mp listed
      exact fails item (List.mem_of_getElem? found)

end Runs

section Elements

variable {κ : Type} {inputs results : List TypedTensor} {shape : Sizes} {index other : Index}

/-- What the interpreter reports for an index that is not within the shape of a tensor. -/
def indexFailure : Failure :=
  .fatalError "Incompatible index and shape found while flattening index"

/-- An index that is not within a shape is reported. -/
theorem flattenIndex_eq_error (outside : ¬MixedRadix.Within shape index) :
    flattenIndex shape index = .error indexFailure := by
  rw [flattenIndex, if_neg fun inside => outside (inBounds_iff.mp inside)]
  rfl

/-- Nothing is read outside of a tensor. -/
theorem get_eq_error {tensor : Tensor α} (outside : ¬MixedRadix.Within tensor.shape index) :
    tensor.get index = .error indexFailure := by
  rw [Tensor.get, flattenIndex_eq_error outside]
  rfl

/-- Nothing is set outside of a tensor. -/
theorem set_eq_error {tensor : TypedTensor} {element : Element}
    (outside : ¬MixedRadix.Within tensor.elements.shape index)
    (same : element.type = tensor.elementType) :
    tensor.set index element = .error indexFailure := by
  have failed : tensor.elements.set index element = .error indexFailure := by
    rw [Tensor.set, flattenIndex_eq_error outside]
    rfl
  rw [TypedTensor.set, dif_pos same]
  split
  · next failure reported =>
    rw [failed] at reported
    cases reported
    rfl
  · next elements done =>
    rw [failed] at done
    cases done

variable {flags : List Bool}

/-- Reading flagged inputs is reading all of them, where flagged. -/
theorem readPairs_keep (count : flags.length = inputs.length) (some : true ∈ flags)
    (alike : ∀ input ∈ inputs, input.elements.shape = shape) :
    ((keep flags inputs).mapM fun input => do
      let lhs ← input.elements.get index
      let rhs ← input.elements.get other
      .ok [lhs, rhs] : Except Failure (List (List Element))) =
    (inputs.mapM fun input => do
      let lhs ← input.elements.get index
      let rhs ← input.elements.get other
      .ok [lhs, rhs] : Except Failure (List (List Element))).map (keep flags) := by
  refine @mapM_keep_eq _ _ _ _ _ _ indexFailure count some ?_
  by_cases first : MixedRadix.Within shape index
  · by_cases second : MixedRadix.Within shape other
    · refine .inl fun input listed => ?_
      obtain ⟨lhs, left, -⟩ := Tensor.get_eq (alike input listed ▸ first)
      obtain ⟨rhs, right, -⟩ := Tensor.get_eq (alike input listed ▸ second)
      rw [left, right]
      exact ⟨[lhs, rhs], rfl⟩
    · refine .inr fun input listed => ?_
      obtain ⟨lhs, left, -⟩ := Tensor.get_eq (alike input listed ▸ first)
      rw [left, get_eq_error (alike input listed ▸ second)]
      rfl
  · refine .inr fun input listed => ?_
    rw [get_eq_error (alike input listed ▸ first)]
    rfl

/-- A tensor of which an element is replaced has the type that it had. -/
theorem type_of_set {tensor replaced : TypedTensor} {element : Element}
    (set : tensor.set index element = .ok replaced) : replaced.type = tensor.type := by
  unfold TypedTensor.set at set
  split at set
  · split at set
    · cases set
    · next elements done =>
      cases set
      obtain ⟨position, -, same⟩ := Fallible.bind_eq_ok.mp done
      cases same
      rfl
  · cases set

/-- Copying keeps the types of the results. -/
theorem types_of_copyTogether {copied : List TypedTensor}
    (types : results.map TypedTensor.type = inputs.map TypedTensor.type)
    (copies : copyTogether inputs results index other = .ok copied) :
    copied.map TypedTensor.type = inputs.map TypedTensor.type := by
  rw [copyTogether, Fallible.mapM_eq_ok_iff] at copies
  induction inputs generalizing results copied with
  | nil =>
    cases results with
    | nil =>
      cases copies
      rfl
    | cons result results => cases types
  | cons input inputs ih =>
    cases results with
    | nil => cases types
    | cons result results =>
      rw [List.map_cons, List.map_cons, List.cons.injEq] at types
      rw [List.zip_cons_cons] at copies
      cases copies with
      | @cons _ first _ rest passed others =>
        obtain ⟨element, -, set⟩ := Fallible.bind_eq_ok.mp passed
        rw [List.map_cons, List.map_cons, ih types.2 others, ← types.1,
          type_of_set set]

/-- Copying the elements of flagged inputs is copying those of all, where flagged. -/
theorem copyTogether_keep (count : flags.length = inputs.length) (some : true ∈ flags)
    (alike : ∀ input ∈ inputs, input.elements.shape = shape)
    (types : results.map TypedTensor.type = inputs.map TypedTensor.type) :
    copyTogether (keep flags inputs) (keep flags results) index other =
      (copyTogether inputs results index other).map (keep flags) := by
  have lengths : results.length = inputs.length := by simpa using congrArg List.length types
  have pairCount : flags.length = (inputs.zip results).length := by
    rw [List.length_zip]
    omega
  -- Both tensors of a pair have the same type.
  have own : ∀ pair ∈ inputs.zip results, pair.1 ∈ inputs ∧ pair.2.type = pair.1.type := by
    intro pair listed
    obtain ⟨place, below, same⟩ := List.mem_iff_getElem.mp listed
    have bounds : place < inputs.length ∧ place < results.length := by
      rw [List.length_zip] at below
      omega
    rw [List.getElem_zip] at same
    subst same
    have typed := congrArg (·[place]?) types
    simp only [List.getElem?_map, List.getElem?_eq_getElem bounds.1,
      List.getElem?_eq_getElem bounds.2, Option.map_some, Option.some.injEq] at typed
    exact ⟨List.getElem_mem _, typed⟩
  rw [copyTogether, copyTogether, ← keep_zip]
  refine @mapM_keep_eq _ _ _ _ _ _ indexFailure pairCount some ?_
  -- All tensors have one shape, so that the indices are outside of all of them or of none.
  by_cases first : MixedRadix.Within shape index
  · have element : ∀ pair ∈ inputs.zip results, ∃ element, pair.1.elements.get index = .ok element ∧
        element.type = pair.2.elementType ∧ pair.2.elements.shape = shape := by
      intro pair listed
      obtain ⟨input, type⟩ := own pair listed
      obtain ⟨element, got, stored⟩ := Tensor.get_eq (alike pair.1 input ▸ first)
      exact ⟨element, got, (pair.1.typed element (List.mem_of_getElem? stored)).trans
        (congrArg ShapedType.elementType type).symm,
        (congrArg ShapedType.shape type).trans (alike pair.1 input)⟩
    by_cases second : MixedRadix.Within shape other
    · refine .inl fun pair listed => ?_
      obtain ⟨element, got, same, resultShape⟩ := element pair listed
      obtain ⟨replaced, set, -⟩ := TypedTensor.set_eq (resultShape ▸ second) same
      refine ⟨replaced, ?_⟩
      show (pair.1.elements.get index >>= fun element => pair.2.set other element) = _
      rw [got, Fallible.ok_bind, set]
    · refine .inr fun pair listed => ?_
      obtain ⟨element, got, same, resultShape⟩ := element pair listed
      show (pair.1.elements.get index >>= fun element => pair.2.set other element) = _
      rw [got, Fallible.ok_bind, set_eq_error (resultShape ▸ second) same]
  · refine .inr fun pair listed => ?_
    show (pair.1.elements.get index >>= fun element => pair.2.set other element) = _
    rw [get_eq_error (alike pair.1 (own pair listed).1 ▸ first)]
    rfl

end Elements

section Exact

variable {κ : Type} {op : RegionSort κ} {made : SmallerSort κ}

/-- The conditions under which operands are dropped, and what is made then. -/
theorem sortOpDropUnusedArgs_eq_some {used : List Bool} {comparator : Region κ}
    (fires : sortOpDropUnusedArgs used comparator = some made) :
    made.kept = keptOperands used comparator ∧
      made.comparator = .node (keep (keptArguments made.kept) comparator.arguments)
        comparator.operations comparator.returned := by
  unfold sortOpDropUnusedArgs at fires
  dsimp only at fires
  split at fires
  · cases fires
  · cases fires
    exact ⟨rfl, rfl⟩

/-- There is a flag for each operand. -/
theorem length_keptOperands {used : List Bool} {comparator : Region κ} :
    (keptOperands used comparator).length = used.length := by
  rw [keptOperands, List.length_map, List.length_zipIdx]

/-- An operand is kept when its result or one of its arguments is used. -/
theorem getElem?_keptOperands {used : List Bool} {comparator : Region κ} {place : Nat} :
    (keptOperands used comparator)[place]? = used[place]?.map fun used =>
      used || argumentUsed comparator (place * 2) || argumentUsed comparator (place * 2 + 1) := by
  rw [keptOperands, List.getElem?_map, List.getElem?_zipIdx]
  cases used[place]? <;> simp

/-- The comparator does not read the arguments that are dropped. -/
theorem unread_of_keptOperands {used : List Bool} {comparator : Region κ} {place name : Nat}
    (dropped : (keptArguments (keptOperands used comparator))[place]? = some false)
    (found : comparator.arguments[place]? = some name) : name ∉ comparator.mentions := by
  intro listed
  have read : argumentUsed comparator place = true := by
    rw [argumentUsed, found]
    exact List.contains_iff_mem.mpr listed
  rw [getElem?_keptArguments, getElem?_keptOperands] at dropped
  obtain ⟨flag, -, unused⟩ := Option.map_eq_some_iff.mp dropped
  simp only [Bool.or_eq_false_iff] at unused
  -- The place is one of the two that belong to the operand.
  rcases Nat.mod_two_eq_zero_or_one place with even | odd
  · have own : place / 2 * 2 = place := by omega
    rw [own, read] at unused
    cases unused.1.2
  · have own : place / 2 * 2 + 1 = place := by omega
    rw [own, read] at unused
    cases unused.2

/-- The elements of pairs are of the types of the arguments. -/
theorem types_of_pairs {inputs : List TypedTensor} {index other : Index}
    {args : List (List Element)}
    (read : (inputs.mapM fun input => do
      let lhs ← input.elements.get index
      let rhs ← input.elements.get other
      .ok [lhs, rhs] : Except Failure (List (List Element))) = .ok args) :
    args.flatten.map Element.scalarType = argumentTypes inputs ∧ ∀ arg ∈ args, arg.length = 2 := by
  rw [Fallible.mapM_eq_ok_iff] at read
  induction read with
  | nil => exact ⟨rfl, by simp⟩
  | @cons input arg inputs args passed _ ih =>
    obtain ⟨lhs, left, rest⟩ := Fallible.bind_eq_ok.mp passed
    obtain ⟨rhs, right, same⟩ := Fallible.bind_eq_ok.mp rest
    cases same
    have typed {element : Element} {place : Index} (got : input.elements.get place = .ok element) :
        element.type = input.elementType := by
      obtain ⟨stored, same, found⟩ := Tensor.get_eq (Tensor.within_of_get got)
      rw [got, Except.ok.injEq] at same
      exact input.typed element (same ▸ List.mem_of_getElem? found)
    refine ⟨?_, List.forall_mem_cons.mpr ⟨rfl, ih.2⟩⟩
    rw [List.flatten_cons, List.map_append, ih.1, argumentTypes, argumentTypes, List.flatMap_cons]
    simp [Element.scalarType, typed left, typed right, List.replicate]

/-- A computation is run on arguments of the types of its parameters. -/
theorem eval_eq_run {parameterTypes returnTypes : List StablehloType}
    (computation : UpdateComputation parameterTypes returnTypes) {args : List Element}
    (types : args.map Element.scalarType = parameterTypes) :
    computation.eval args = computation.run args := by
  have count : parameterTypes.length = args.length := by
    rw [← types, List.length_map]
  rw [UpdateComputation.eval, if_neg (not_not.mpr count), if_neg (not_not.mpr types.symm)]

/-- Places of a slice are compared alike without the operands that are dropped. -/
theorem comparatorTogether_keep (fires : sortOpDropUnusedArgs op.used op.comparator = some made)
    (some : true ∈ made.kept) (axis : Nat) (index : Index) (lhs rhs : Nat) :
    comparatorTogether (keep made.kept op.inputs) axis index
        (regionComparator op.denote op.env made.comparator
          (argumentTypes (keep made.kept op.inputs))) lhs rhs =
      comparatorTogether op.inputs axis index
        (regionComparator op.denote op.env op.comparator (argumentTypes op.inputs)) lhs rhs := by
  obtain ⟨keptSame, comparatorSame⟩ := sortOpDropUnusedArgs_eq_some fires
  have count : made.kept.length = op.inputs.length := by
    rw [keptSame, length_keptOperands, op.counted]
  rw [comparatorTogether, comparatorTogether, readPairs_keep count some op.alike]
  cases read : (op.inputs.mapM fun input => do
      let l ← input.elements.get (index.set axis lhs)
      let r ← input.elements.get (index.set axis rhs)
      .ok [l, r] : Except Failure (List (List Element))) with
  | error failure => rfl
  | ok args =>
    obtain ⟨types, pairs⟩ := types_of_pairs read
    obtain ⟨keptTypes, -⟩ := types_of_pairs (@mapM_keep _ _ made.kept _ _ _ _ read)
    have supplied : args.flatten.length = op.comparator.arguments.length := by
      have lengths := congrArg List.length types
      rw [List.length_map] at lengths
      rw [lengths, op.arguments, argumentTypes, List.length_flatMap]
      simp [Nat.mul_comm]
    show (UpdateComputation.eval _ (keep made.kept args).flatten >>= _) = _
    rw [Fallible.ok_bind, eval_eq_run _ types, eval_eq_run _ keptTypes]
    have run : (regionComparator op.denote op.env made.comparator
          (argumentTypes (keep made.kept op.inputs))).run (keep made.kept args).flatten =
        (regionComparator op.denote op.env op.comparator (argumentTypes op.inputs)).run
          args.flatten := by
      have called : made.comparator.call op.denote op.env (keep made.kept args).flatten =
          op.comparator.call op.denote op.env args.flatten := by
        rw [comparatorSame, flatten_keep pairs]
        rcases body : op.comparator with ⟨arguments, operations, returned⟩
        rw [body] at supplied
        refine call_keep ?_ (fun place name dropped found => ?_) supplied
        · have length := op.arguments
          rw [body] at length
          rw [length_keptArguments, count]
          exact length.symm
        · rw [keptSame, body] at dropped
          exact unread_of_keptOperands dropped found
      simp only [regionComparator, called]
    rw [run]

/-- The slice through an index is sorted alike without the operands that are dropped. -/
theorem sortSlice_keep (fires : sortOpDropUnusedArgs op.used op.comparator = some made)
    (some : true ∈ made.kept) (algorithm : SortAlgorithm) (dimension : Int) (index : Index)
    {results : List TypedTensor}
    (types : results.map TypedTensor.type = op.inputs.map TypedTensor.type) :
    sortSlice algorithm (keep made.kept op.inputs) op.shape dimension op.isStable
        (regionComparator op.denote op.env made.comparator
          (argumentTypes (keep made.kept op.inputs))) (keep made.kept results) index =
      (sortSlice algorithm op.inputs op.shape dimension op.isStable
        (regionComparator op.denote op.env op.comparator (argumentTypes op.inputs)) results
          index).map (keep made.kept) ∧
      ∀ next, sortSlice algorithm op.inputs op.shape dimension op.isStable
        (regionComparator op.denote op.env op.comparator (argumentTypes op.inputs)) results index =
          .ok next → next.map TypedTensor.type = op.inputs.map TypedTensor.type := by
  have count : made.kept.length = op.inputs.length := by
    rw [(sortOpDropUnusedArgs_eq_some fires).1, length_keptOperands, op.counted]
  -- The same handles are copied for all operands.
  have copies : ∀ handles : List (Nat × Nat), ∀ state : List TypedTensor,
      state.map TypedTensor.type = op.inputs.map TypedTensor.type →
      handles.foldlM (copyHandle (keep made.kept op.inputs) dimension.toNat index)
          (keep made.kept state) =
        (handles.foldlM (copyHandle op.inputs dimension.toNat index) state).map
          (keep made.kept) := by
    intro handles state own
    refine @foldlM_shown _ _ _ _ _ _ _ (fun state : List TypedTensor =>
      state.map TypedTensor.type = op.inputs.map TypedTensor.type) (keep made.kept) ?_ _ own
    exact fun handle _ state own => ⟨copyTogether_keep count some op.alike own,
      fun next copied => types_of_copyTogether own copied⟩
  unfold sortSlice
  split
  · -- The dimension is not one of the index.
    exact ⟨rfl, fun next run => by cases run⟩
  · dsimp only
    split
    · -- The slice is sorted at another one of its indices.
      exact ⟨rfl, fun next run => by cases run; exact types⟩
    · have compares : comparatorTogether (keep made.kept op.inputs) dimension.toNat index
            (regionComparator op.denote op.env made.comparator
              (argumentTypes (keep made.kept op.inputs))) =
          comparatorTogether op.inputs dimension.toNat index
            (regionComparator op.denote op.env op.comparator (argumentTypes op.inputs)) := by
        funext lhs rhs
        exact comparatorTogether_keep fires some _ _ lhs rhs
      rw [compares]
      cases sortTogether algorithm op.isStable (comparatorTogether op.inputs dimension.toNat index
          (regionComparator op.denote op.env op.comparator (argumentTypes op.inputs)))
          (List.range (op.shape.getD dimension.toNat 0)) with
      | error failure => exact ⟨rfl, fun next run => by cases run⟩
      | ok sorted =>
        refine ⟨copies sorted.zipIdx results types, fun next run => ?_⟩
        exact @Fallible.foldlM_invariant _ _ _ _ _ (fun state : List TypedTensor =>
          state.map TypedTensor.type = op.inputs.map TypedTensor.type)
          (fun handle _ state next own copied => types_of_copyTogether own copied) _ _ types run

/-- What is flagged is one of the items. -/
theorem mem_of_mem_keep {α : Type} {flags : List Bool} {items : List α} {item : α}
    (listed : item ∈ keep flags items) : item ∈ items := by
  obtain ⟨place, -, found⟩ := mem_keep.mp listed
  exact List.mem_of_getElem? found

/-- A sort is a run over the indices of the shape that all inputs have. -/
theorem sortOp_eq_foldlM {parameterTypes returnTypes : List StablehloType} {shape : Sizes}
    {inputs : List TypedTensor} (algorithm : SortAlgorithm) (allocator : Allocator)
    {dimension : Int} {isStable : Bool}
    {comparator : UpdateComputation parameterTypes returnTypes} (some : inputs ≠ [])
    (alike : ∀ input ∈ inputs, input.elements.shape = shape) :
    sortOp algorithm allocator inputs dimension isStable comparator =
      (indexSpace shape).foldlM (sortSlice algorithm inputs shape
        (if 0 ≤ dimension then dimension else dimension + shape.length) isStable comparator)
        (inputs.map allocator.allocate) := by
  cases inputs with
  | nil => exact absurd rfl some
  | cons input inputs =>
    have own := alike input List.mem_cons_self
    have allocated : (allocator.allocate input).elements.shape = shape :=
      (congrArg ShapedType.shape (allocator.type_allocate input)).trans own
    rw [← own] at allocated ⊢
    show (indexSpace (allocator.allocate input).elements.shape).foldlM _ _ = _
    rw [allocated]

/--
A sort without the operands that are dropped has the results that the sort has for the others.

This holds for every algorithm, and for comparisons that are no order or fail as well. The operands
whose results are used are among those that are left.
-/
theorem sortOpDropUnusedArgs_keeps (op : RegionSort κ) (made : SmallerSort κ)
    (algorithm : SortAlgorithm) (allocator : Allocator)
    (fires : sortOpDropUnusedArgs op.used op.comparator = some made) (left : true ∈ made.kept) :
    made.results op algorithm allocator =
        (op.results algorithm allocator).map (keep made.kept) ∧
      ∀ place : Nat, op.used[place]? = some true → made.kept[place]? = some true := by
  have keptSame := (sortOpDropUnusedArgs_eq_some fires).1
  have count : made.kept.length = op.inputs.length := by
    rw [keptSame, length_keptOperands, op.counted]
  refine ⟨?_, fun place used => ?_⟩
  · have types : (op.inputs.map allocator.allocate).map TypedTensor.type =
        op.inputs.map TypedTensor.type := by
      rw [List.map_map]
      exact List.map_congr_left fun tensor _ => allocator.type_allocate tensor
    -- Both sorts go through the indices of the same shape.
    obtain ⟨place, flagged⟩ := List.mem_iff_getElem?.mp left
    obtain ⟨below, -⟩ := List.getElem?_eq_some_iff.mp flagged
    have found := List.getElem?_eq_getElem (show place < op.inputs.length by omega)
    have kept : op.inputs[place] ∈ keep made.kept op.inputs :=
      mem_keep.mpr ⟨place, flagged, found⟩
    rw [SmallerSort.results, RegionSort.results, sortOp_eq_foldlM _ _ (List.ne_nil_of_mem kept)
      (fun input listed => op.alike input (mem_of_mem_keep listed)),
      sortOp_eq_foldlM _ _ (List.ne_nil_of_mem (List.mem_of_getElem? found)) op.alike, ← keep_map]
    refine @foldlM_shown _ _ _ _ _ _ _ (fun state : List TypedTensor =>
      state.map TypedTensor.type = op.inputs.map TypedTensor.type) (keep made.kept) ?_ _ types
    exact fun index _ state own => sortSlice_keep fires left algorithm _ index own
  · rw [keptSame, getElem?_keptOperands, used]
    rfl

end Exact

section Pairs

/-- Bytes are compared by their numbers. -/
def compareNumbers : Denotation Unit Element
  | (), [lhs, rhs], _ => some [Element.boolean (decide (lhs.integer < rhs.integer))]
  | _, _, _ => none

/-- A sort of two vectors by the first one, where only the first result is used. -/
def sortOfPairs : RegionSort Unit where
  denote := compareNumbers
  env _ := none
  comparator := .node [0, 1, 2, 3] [.node () [0, 1] [4] []] [4]
  inputs := List.replicate 2 (integerTensor [3] .signless ⟨8, 5⟩ rfl)
  dimension := 0
  isStable := true
  shape := [3]
  used := [true, false]
  alike _ listed := by
    rw [List.eq_of_mem_replicate listed]
    rfl
  counted := rfl
  arguments := rfl

/-- The second vector is dropped. -/
theorem sortOpDropUnusedArgs_keeps_pairs :
    (SmallerSort.mk [true, false] (.node [0, 1] [.node () [0, 1] [4] []] [4])).results sortOfPairs
        .stable ⟨id, fun _ => rfl⟩ =
      (sortOfPairs.results .stable ⟨id, fun _ => rfl⟩).map (keep [true, false]) :=
  (sortOpDropUnusedArgs_keeps sortOfPairs
    ⟨[true, false], .node [0, 1] [.node () [0, 1] [4] []] [4]⟩ .stable ⟨id, fun _ => rfl⟩ (by rfl)
    (by decide)).1

end Pairs

end Stablehlo
