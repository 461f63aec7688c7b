import Stablehlo.Reference.ElementBits
import Stablehlo.Reference.IndexSpace

/-! Conversions that keep the bits of a tensor. -/

namespace Stablehlo

/-- The result of a conversion while it is filled, and the accesses so far. -/
structure BitcastState where
  /-- Elements that have not been written are unknown. -/
  result : Tensor (Option Element)
  reads : List Index
  writes : List Index

namespace BitcastState

/-- A result none of whose elements has been written. -/
def start (shape : Sizes) : BitcastState where
  result := {
    shape
    data := List.replicate shape.prod none
    complete := List.length_replicate
  }
  reads := []
  writes := []

/-- Read an element of the operand. -/
def read (state : BitcastState) (operand : TypedTensor) (index : Index) :
    Except Failure (Element × BitcastState) := do
  let element ← operand.elements.get index
  .ok (element, { state with reads := state.reads ++ [index] })

/-- Write an element of the result. -/
def write (state : BitcastState) (index : Index) (element : Element) :
    Except Failure BitcastState := do
  let result ← state.result.set index (some element)
  .ok { state with result, writes := state.writes ++ [index] }

/-- Write elements where the iterator stands and behind. -/
def writeElements : List Element → BitcastState → IndexSpaceIterator →
    Except Failure (BitcastState × IndexSpaceIterator)
  | [], state, resultIt => .ok (state, resultIt)
  | resultElement :: resultElements, state, resultIt => do
    let (index, resultIt) ← resultIt.postIncrement
    let state ← state.write index resultElement
    writeElements resultElements state resultIt

/-- Read a number of elements from where the iterator stands. -/
def readElements (operand : TypedTensor) : Nat → BitcastState → IndexSpaceIterator →
    Except Failure (List Element × BitcastState × IndexSpaceIterator)
  | 0, state, operandIt => .ok ([], state, operandIt)
  | count + 1, state, operandIt => do
    let (index, operandIt) ← operandIt.postIncrement
    let (element, state) ← state.read operand index
    let (operandElements, state, operandIt) ← readElements operand count state operandIt
    .ok (element :: operandElements, state, operandIt)

end BitcastState

section Loops

variable [TypePrinter]

/-- Convert the elements at the indices of the operand to several elements each. -/
def bitcastOneToMany (operand : TypedTensor) (resultElementType : StablehloType) :
    List Index → BitcastState → IndexSpaceIterator → Except Failure BitcastState
  | [], state, _ => .ok state
  | operandIndex :: operandIndices, state, resultIt => do
    let (element, state) ← state.read operand operandIndex
    let resultElements ← bitcastConvertOneToMany resultElementType element
    let (state, resultIt) ← state.writeElements resultElements resultIt
    bitcastOneToMany operand resultElementType operandIndices state resultIt

/-- Convert several elements of the operand to the element at each index of the result. -/
def bitcastManyToOne (operand : TypedTensor) (resultElementType : StablehloType) (count : Nat) :
    List Index → BitcastState → IndexSpaceIterator → Except Failure BitcastState
  | [], state, _ => .ok state
  | resultIndex :: resultIndices, state, operandIt => do
    let (operandElements, state, operandIt) ← state.readElements operand count operandIt
    let element ← bitcastConvertManyToOne resultElementType operandElements
    let state ← state.write resultIndex element
    bitcastManyToOne operand resultElementType count resultIndices state operandIt

/-- Convert the element of the operand at each index of the result. -/
def bitcastOneToOne (operand : TypedTensor) (resultElementType : StablehloType) :
    List Index → BitcastState → Except Failure BitcastState
  | [], state => .ok state
  | index :: indices, state => do
    let (element, state) ← state.read operand index
    let resultElement ← bitcastConvertOneToOne resultElementType element
    let state ← state.write index resultElement
    bitcastOneToOne operand resultElementType indices state

/-- Convert a tensor to a tensor of the type with the same bits. -/
def bitcastConvertOp (operand : TypedTensor) (resultType : ShapedType) :
    Except Failure BitcastState := do
  let resultNumBits ← numBits resultType.elementType
  let operandNumBits ← numBits operand.elementType
  let state := BitcastState.start resultType.shape
  if resultNumBits < operandNumBits then
    bitcastOneToMany operand resultType.elementType (indexSpace operand.elements.shape) state
      resultType.shape.indexBegin
  else if resultNumBits > operandNumBits then
    bitcastManyToOne operand resultType.elementType (resultNumBits / operandNumBits)
      (indexSpace resultType.shape) state operand.elements.shape.indexBegin
  else
    bitcastOneToOne operand resultType.elementType (indexSpace resultType.shape) state

end Loops

namespace BitcastState

/-- So many elements of the operand have been read, and the result begins with what has been
written. -/
structure Progress (operand : TypedTensor) (resultShape : Sizes) (readCount : Nat)
    (written : List Element) (state : BitcastState) : Prop where
  shape : state.result.shape = resultShape
  data : state.result.data =
    written.map some ++ List.replicate (resultShape.prod - written.length) none
  reads : state.reads = (indexSpace operand.elements.shape).take readCount
  writes : state.writes = (indexSpace resultShape).take written.length

variable {operand : TypedTensor} {resultShape : Sizes} {readCount : Nat} {written : List Element}
  {state : BitcastState}

/-- Nothing has been read or written at the start. -/
theorem progress_start (operand : TypedTensor) (resultShape : Sizes) :
    Progress operand resultShape 0 [] (start resultShape) where
  shape := rfl
  data := rfl
  reads := rfl
  writes := rfl

/-- The next element of the operand is read. -/
theorem Progress.read (progress : Progress operand resultShape readCount written state)
    {element : Element} (next : operand.elements.data[readCount]? = some element) :
    ∃ after, state.read operand (MixedRadix.decode operand.elements.shape readCount) =
        .ok (element, after) ∧
      Progress operand resultShape (readCount + 1) written after := by
  have below : readCount < operand.elements.shape.prod := by
    rw [← operand.elements.complete]
    exact (List.getElem?_eq_some_iff.mp next).1
  -- The element at the index is the one at the place of its number.
  obtain ⟨found, got, stored⟩ := Tensor.get_eq (MixedRadix.decode_within below)
  rw [MixedRadix.encode_decode below, next, Option.some.injEq] at stored
  subst stored
  refine ⟨{ state with reads := _ }, by rw [BitcastState.read, got]; rfl, ?_⟩
  exact {
    shape := progress.shape
    data := progress.data
    reads := by rw [indexSpace_take below, progress.reads]
    writes := progress.writes
  }

/-- The next element of the result is written. -/
theorem Progress.write (progress : Progress operand resultShape readCount written state)
    (room : written.length < resultShape.prod) (element : Element) :
    ∃ after, state.write (MixedRadix.decode resultShape written.length) element = .ok after ∧
      Progress operand resultShape readCount (written ++ [element]) after := by
  have flat : flattenIndex state.result.shape (MixedRadix.decode resultShape written.length) =
      .ok written.length := by
    rw [progress.shape, flattenIndex_eq (MixedRadix.decode_within room),
      MixedRadix.encode_decode room]
  refine ⟨_, by rw [BitcastState.write, Tensor.set, flat]; rfl, ?_⟩
  refine ⟨progress.shape, ?_, progress.reads, ?_⟩
  · -- The first unknown element becomes known.
    have more : resultShape.prod - written.length =
        resultShape.prod - (written.length + 1) + 1 := by omega
    show state.result.data.set written.length (some element) = _
    rw [progress.data, more, List.replicate_succ, List.length_append, List.length_singleton]
    rw [List.set_append_right _ _ (by simp)]
    simp
  · show state.writes ++ [_] = _
    rw [progress.writes, List.length_append, List.length_singleton, indexSpace_take room]

/-- The next elements of the result are written. -/
theorem Progress.writeElements (progress : Progress operand resultShape readCount written state)
    {elements : List Element} (room : written.length + elements.length ≤ resultShape.prod) :
    ∃ after, state.writeElements elements (.place resultShape written.length) =
        .ok (after, .place resultShape (written.length + elements.length)) ∧
      Progress operand resultShape readCount (written ++ elements) after := by
  induction elements generalizing written state with
  | nil => exact ⟨state, rfl, by rwa [List.append_nil]⟩
  | cons element elements ih =>
    rw [List.length_cons] at room
    have below : written.length < resultShape.prod := by omega
    obtain ⟨next, wrote, advanced⟩ := progress.write below element
    obtain ⟨after, wroteRest, finished⟩ := ih advanced (by simp; omega)
    refine ⟨after, ?_, by rwa [List.append_assoc] at finished⟩
    rw [BitcastState.writeElements, IndexSpaceIterator.postIncrement_place below]
    simp only [List.length_append, List.length_singleton] at wroteRest
    show (state.write _ element >>= _) = _
    rw [wrote, Fallible.ok_bind, wroteRest, List.length_cons]
    congr 3
    omega

/-- What remains to be read begins with the element at its place. -/
theorem getElem?_of_drop {element : Element} {elements : List Element}
    (remaining : operand.elements.data.drop readCount = element :: elements) :
    operand.elements.data[readCount]? = some element ∧ readCount < operand.elements.shape.prod ∧
      operand.elements.data.drop (readCount + 1) = elements := by
  have found : operand.elements.data[readCount]? = some element := by
    have head : (operand.elements.data.drop readCount)[0]? = operand.elements.data[readCount]? := by
      rw [List.getElem?_drop, Nat.add_zero]
    rw [← head, remaining]
    rfl
  refine ⟨found, ?_, ?_⟩
  · rw [← operand.elements.complete]
    exact (List.getElem?_eq_some_iff.mp found).1
  · rw [← List.drop_drop, remaining]
    rfl

/-- The next elements of the operand are read. -/
theorem Progress.readElements (progress : Progress operand resultShape readCount written state)
    {elements rest : List Element}
    (next : operand.elements.data.drop readCount = elements ++ rest) :
    ∃ after, state.readElements operand elements.length
          (.place operand.elements.shape readCount) =
        .ok (elements, after, .place operand.elements.shape (readCount + elements.length)) ∧
      Progress operand resultShape (readCount + elements.length) written after := by
  induction elements generalizing readCount state with
  | nil => exact ⟨state, rfl, progress⟩
  | cons element elements ih =>
    obtain ⟨found, below, remaining⟩ := getElem?_of_drop next
    obtain ⟨between, got, advanced⟩ := progress.read found
    obtain ⟨after, gotRest, finished⟩ := ih advanced remaining
    have count : readCount + 1 + elements.length = readCount + (element :: elements).length := by
      rw [List.length_cons]
      omega
    rw [count] at gotRest finished
    refine ⟨after, ?_, finished⟩
    rw [List.length_cons, BitcastState.readElements, IndexSpaceIterator.postIncrement_place below]
    show (state.read operand _ >>= _) = _
    rw [got]
    show (between.readElements operand _ _ >>= _) = _
    rw [gotRest]
    rfl

/-- When nothing remains to be read, everything has been. -/
theorem Progress.exhausted (progress : Progress operand resultShape readCount written state)
    (none : operand.elements.data.drop readCount = []) :
    (indexSpace operand.elements.shape).drop readCount = [] ∧
      Progress operand resultShape operand.elements.shape.prod written state := by
  have length : (indexSpace operand.elements.shape).length = operand.elements.shape.prod :=
    MixedRadix.length_all _
  have beyond : operand.elements.shape.prod ≤ readCount := by
    rw [← operand.elements.complete]
    exact List.drop_eq_nil_iff.mp none
  refine ⟨List.drop_eq_nil_of_le (by omega), progress.shape, progress.data, ?_, progress.writes⟩
  rw [progress.reads, List.take_of_length_le (by omega), List.take_of_length_le (by omega)]

/-- When everything has been written, the result is known. -/
theorem Progress.finished (progress : Progress operand resultShape readCount written state)
    (all : written.length = resultShape.prod) :
    state.result.data = written.map some ∧ state.writes = indexSpace resultShape := by
  have length : (indexSpace resultShape).length = resultShape.prod := MixedRadix.length_all _
  constructor
  · rw [progress.data, all, Nat.sub_self, List.replicate_zero, List.append_nil]
  · rw [progress.writes, all, ← length, List.take_length]

end BitcastState

section Loops

variable [TypePrinter] {operand : TypedTensor} {resultShape : Sizes} {resultType : StablehloType}
  {readCount : Nat} {written : List Element} {state : BitcastState}

open BitcastState

/-- From some place on, each element is converted to the elements of its block. -/
theorem bitcastOneToMany_progress {elements : List Element} {blocks : List (List Element)}
    (converted : List.Forall₂
      (fun element block => bitcastConvertOneToMany resultType element = .ok block) elements blocks)
    (progress : Progress operand resultShape readCount written state)
    (remaining : operand.elements.data.drop readCount = elements)
    (room : written.length + blocks.flatten.length ≤ resultShape.prod) :
    ∃ after, bitcastOneToMany operand resultType
          ((indexSpace operand.elements.shape).drop readCount) state
          (.place resultShape written.length) = .ok after ∧
      Progress operand resultShape operand.elements.shape.prod (written ++ blocks.flatten)
        after := by
  induction converted generalizing readCount written state with
  | nil =>
    obtain ⟨stopped, finished⟩ := progress.exhausted remaining
    rw [stopped, List.flatten_nil, List.append_nil]
    exact ⟨state, rfl, finished⟩
  | @cons element block elements blocks own _ ih =>
    rw [List.flatten_cons, List.length_append] at room
    obtain ⟨found, below, later⟩ := getElem?_of_drop remaining
    -- The element is read, and the elements it is converted to are written.
    obtain ⟨between, got, advanced⟩ := progress.read found
    have fits : written.length + block.length ≤ resultShape.prod := by omega
    obtain ⟨next, wrote, proceeded⟩ := advanced.writeElements fits
    obtain ⟨after, looped, finished⟩ := ih proceeded later (by rw [List.length_append]; omega)
    rw [List.length_append] at looped
    refine ⟨after, ?_, by rwa [List.append_assoc] at finished⟩
    rw [indexSpace_drop below, bitcastOneToMany, got]
    show (bitcastConvertOneToMany resultType element >>= _) = _
    rw [own]
    show (between.writeElements block _ >>= _) = _
    rw [wrote]
    exact looped

/-- From some place on, each block of elements is converted to its element. -/
theorem bitcastManyToOne_progress {elements : List Element} {blocks : List (List Element)}
    {count : Nat} (converted : List.Forall₂
      (fun block element => block.length = count ∧
        bitcastConvertManyToOne resultType block = .ok element) blocks elements)
    (progress : Progress operand resultShape readCount written state)
    (remaining : operand.elements.data.drop readCount = blocks.flatten)
    (room : written.length + elements.length = resultShape.prod) :
    ∃ after, bitcastManyToOne operand resultType count
          ((indexSpace resultShape).drop written.length) state
          (.place operand.elements.shape readCount) = .ok after ∧
      Progress operand resultShape (readCount + blocks.flatten.length) (written ++ elements)
        after := by
  induction converted generalizing readCount written state with
  | nil =>
    have length : (indexSpace resultShape).length = resultShape.prod := MixedRadix.length_all _
    rw [List.length_nil] at room
    rw [List.drop_eq_nil_of_le (by omega), List.append_nil]
    exact ⟨state, rfl, progress⟩
  | @cons block element blocks elements own _ ih =>
    obtain ⟨counted, own⟩ := own
    rw [List.length_cons] at room
    rw [List.flatten_cons] at remaining
    -- The elements of the block are read, and the one they are converted to is written.
    obtain ⟨between, got, advanced⟩ := progress.readElements remaining
    obtain ⟨next, wrote, proceeded⟩ := advanced.write (by omega) element
    have later : operand.elements.data.drop (readCount + block.length) = blocks.flatten := by
      rw [← List.drop_drop, remaining, List.drop_left]
    obtain ⟨after, looped, finished⟩ := ih proceeded later (by simp; omega)
    rw [List.append_assoc] at finished
    rw [List.length_append, List.length_singleton] at looped
    refine ⟨after, ?_, by rwa [List.flatten_cons, List.length_append, ← Nat.add_assoc]⟩
    rw [indexSpace_drop (by omega), bitcastManyToOne, ← counted, got]
    show (bitcastConvertManyToOne resultType block >>= _) = _
    rw [own, Fallible.ok_bind, wrote, Fallible.ok_bind]
    rw [← counted] at looped
    exact looped

/-- From some place on, each element is converted to one element. -/
theorem bitcastOneToOne_progress {elements results : List Element}
    (converted : List.Forall₂ (fun element result =>
      bitcastConvertOneToOne resultType element = .ok result) elements results)
    (progress : Progress operand operand.elements.shape written.length written state)
    (remaining : operand.elements.data.drop written.length = elements) :
    ∃ after, bitcastOneToOne operand resultType
          ((indexSpace operand.elements.shape).drop written.length) state = .ok after ∧
      Progress operand operand.elements.shape operand.elements.shape.prod (written ++ results)
        after := by
  induction converted generalizing written state with
  | nil =>
    obtain ⟨stopped, finished⟩ := progress.exhausted remaining
    rw [stopped, List.append_nil]
    exact ⟨state, rfl, finished⟩
  | @cons element result elements results own _ ih =>
    obtain ⟨found, below, later⟩ := getElem?_of_drop remaining
    obtain ⟨between, got, advanced⟩ := progress.read found
    obtain ⟨next, wrote, proceeded⟩ := advanced.write below result
    have count : written.length + 1 = (written ++ [result]).length := by simp
    rw [count] at proceeded later
    obtain ⟨after, looped, finished⟩ := ih proceeded later
    refine ⟨after, ?_, by rwa [List.append_assoc] at finished⟩
    rw [indexSpace_drop below, bitcastOneToOne, got]
    show (bitcastConvertOneToOne resultType element >>= _) = _
    rw [own, Fallible.ok_bind, wrote, Fallible.ok_bind, count]
    exact looped

end Loops

end Stablehlo
