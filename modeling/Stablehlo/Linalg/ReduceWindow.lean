import Stablehlo.Linalg.Generic
import Stablehlo.Reference.Rearrangements
import Stablehlo.Reference.ReduceWindow

/-! The conversion of windowed reductions to loops over the results and the positions of a window. -/

namespace Stablehlo

namespace Linalg

section Expressions

/-- The coordinates that are found dimension by dimension. Dimensions of a window that have a single
position have no loop. -/
structure WindowMaps where
  srcExprs : AffineMap
  windowExprs : AffineMap
  filteredWindowDims : Sizes
  deriving DecidableEq, Repr

/-- An expression that is multiplied, unless by one. -/
def scale (expr : AffineExpr) (factor : Int64) : AffineExpr :=
  if factor ≠ 1 then .mul expr (.constant factor.toInt) else expr

end Expressions

section Padding

/-- The padding of inputs. -/
structure WindowPadding where
  staticLows : List Int64
  staticHighs : List Int64
  staticInteriors : List Int64

end Padding

section Conversion

/-- What a windowed reduction is converted to: the inputs are padded if necessary, and reduced into
broadcast init values. -/
structure ReduceWindowProgram where
  rank : Nat
  maps : WindowMaps
  padding : Option WindowPadding

variable {α : Type} {count : Nat}

/-- The loops over the results and the window, whose shape comes with an input of its own. The values
so far are the first arguments of the computation, and the elements the others. -/
def ReduceWindowProgram.toGeneric (program : ReduceWindowProgram) (body : Reducer α count) :
    GenericOp α α where
  numLoops := program.rank + program.maps.filteredWindowDims.length
  inputMaps := List.replicate count program.maps.srcExprs ++ [program.maps.windowExprs]
  outputDims := List.range program.rank
  body _ args outs := body.run (outs ++ args.dropLast)

/-- Pad the inputs with the init values, if necessary. -/
def ReduceWindowProgram.pad (program : ReduceWindowProgram) (elementType : StablehloType)
    (inputs initValues : List (Tensor α)) : Except Failure (List (Tensor α)) :=
  match program.padding with
  | some padding =>
    (inputs.zip initValues).mapM fun (input, initValue) =>
      inferAndPadOp elementType input initValue padding.staticLows padding.staticHighs
        padding.staticInteriors
  | none => .ok inputs

/-- Run what a windowed reduction is converted to. -/
def ReduceWindowProgram.run (program : ReduceWindowProgram) (elementType : StablehloType)
    (storage : Storage α) (inputs initValues : List (Tensor α)) (body : Reducer α count)
    (resultShapes : List Sizes) : Except Failure (List (Tensor α)) := do
  let broadcastValues ← makeSplats resultShapes initValues
  let inputs ← program.pad elementType inputs initValues
  (program.toGeneric body).run (inputs ++ [storage.allocate program.maps.filteredWindowDims])
    broadcastValues

end Conversion

end Linalg

end Stablehlo
