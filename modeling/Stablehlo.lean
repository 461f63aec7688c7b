import Stablehlo.Dialect.ReplicaGroupUtils
import Stablehlo.Reference.CollectivePermute
import Stablehlo.Reference.Collectives
import Stablehlo.Reference.GridPartition
import Stablehlo.Reference.RendezvousRounds
import Stablehlo.Reference.SendRecv
import Stablehlo.Support.RegionTree
import Stablehlo.Vhlo.Legality
import Stablehlo.Vhlo.Ops
import Stablehlo.Support.NamedFields
import Stablehlo.Vhlo.VersionPatterns
import Stablehlo.Vhlo.ToVersion
import Stablehlo.Dialect.Types
import Stablehlo.Legalize.Types
import Stablehlo.Dialect.Enums
import Stablehlo.Support.ByteReader
import Stablehlo.Vhlo.Bytecode
import Stablehlo.Vhlo.Enums
import Stablehlo.Vhlo.BytecodeRoundTrip
import Stablehlo.Dialect.Attrs
import Stablehlo.Legalize.Attrs
import Stablehlo.Legalize.AttrsRoundTrip
import Stablehlo.Dialect.Base
import Stablehlo.Dialect.BoundedDynamism
import Stablehlo.Dialect.MergeOrder
import Stablehlo.Dialect.TypeInference
import Stablehlo.Dialect.TypeInferenceSound
import Stablehlo.Dialect.BoundedOps
import Stablehlo.Reference.Element
import Stablehlo.Dialect.BitcastConvert
import Stablehlo.Reference.BitcastConvert
import Stablehlo.Support.Blocks
import Stablehlo.Reference.BitcastLossless
import Stablehlo.Dialect.DimensionChecks
import Stablehlo.Dialect.Gather
import Stablehlo.Reference.IndexVectors
import Stablehlo.Reference.Gather
import Stablehlo.Dialect.ReducerShape
import Stablehlo.Dialect.Scatter
import Stablehlo.Support.Deposits
import Stablehlo.Reference.Scatter
import Stablehlo.Reference.ScatterExact
import Stablehlo.Dialect.DynamicSlice
import Stablehlo.Reference.DynamicSlice
import Stablehlo.Dialect.Slice
import Stablehlo.Reference.DotGeneral
import Stablehlo.Reference.DotShapes
import Stablehlo.Reference.Pad
import Stablehlo.Reference.Arithmetic
import Stablehlo.Reference.Power
import Stablehlo.Reference.Reduce
import Stablehlo.Reference.ReducePrecision
import Stablehlo.Reference.SortSlices
import Stablehlo.Dialect.Windows
import Stablehlo.Reference.WindowShapes
import Stablehlo.Reference.ReduceWindow
import Stablehlo.Support.Selection
import Stablehlo.Reference.SelectAndScatter
import Stablehlo.Reference.TriangularSolveMeetsSpec
import Stablehlo.Dialect.TupleTypes
import Stablehlo.Dialect.CollectiveTypes
import Stablehlo.Transforms.SliceOfConcatenate
import Stablehlo.Reference.FloatOrder
import Stablehlo.Transforms.FoldCompare
import Stablehlo.Reference.Reshape
import Stablehlo.Transforms.StaticSlices
import Stablehlo.Transforms.GatherToSlice
import Stablehlo.Transforms.UnusedResultsExact
import Stablehlo.Reference.Rearrangements
import Stablehlo.Transforms.ShapeRewrites
import Stablehlo.Reference.ElementOperations
import Stablehlo.Transforms.FoldElements
import Stablehlo.Transforms.FoldElementwiseExact
import Stablehlo.Support.MemoizedSearch
import Stablehlo.Transforms.FunctionEffects
import Stablehlo.Dialect.Specificity
import Stablehlo.Transforms.RefineValues
import Stablehlo.Support.WhileLoop
import Stablehlo.Transforms.ImplicitCapture
import Stablehlo.Support.Projection
import Stablehlo.Transforms.ReduceFolds
import Stablehlo.Linalg.Einsum
import Stablehlo.Linalg.EinsumConfig
import Stablehlo.Linalg.EinsumExact
import Stablehlo.Linalg.BroadcastInDim
import Stablehlo.Linalg.BroadcastInDimExact
import Stablehlo.Linalg.Gather
import Stablehlo.Linalg.GatherExact
import Stablehlo.Linalg.ReduceWindow
import Stablehlo.Linalg.ReduceWindowExact
import Stablehlo.Quant.Types
import Stablehlo.Tosa.QuantRescale
import Stablehlo.Chlo.NextAfter
import Stablehlo.Chlo.Mulhi
import Stablehlo.Quant.Requantize
import Stablehlo.Quant.RequantizeExact
import Stablehlo.Reference.Slabs
import Stablehlo.Chlo.Scan
import Stablehlo.Chlo.ScanExact
import Stablehlo.Reference.Vectors
import Stablehlo.Transforms.ShapeComputations
import Stablehlo.Transforms.ShapeComputationsExact
import Stablehlo.Transforms.BroadcastLowering
import Stablehlo.Transforms.BroadcastLoweringOrder
import Stablehlo.Transforms.BroadcastLoweringTypes
import Stablehlo.Transforms.BroadcastLoweringExact
import Stablehlo.Reference.IndexTraversal
import Stablehlo.Quant.SameQuantization
import Stablehlo.Support.Decimal
import Stablehlo.Vhlo.VersionStrings
import Stablehlo.Transforms.SortRewrites
import Stablehlo.Vhlo.BooleanTensors
import Stablehlo.Chlo.TopK
import Stablehlo.Transforms.ConcatenateRewrites
