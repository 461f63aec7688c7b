import Mathlib.Algebra.Ring.Int.Defs
import Mathlib.Data.Int.Basic
import Mathlib.Data.List.Induction
import Mathlib.Logic.Equiv.Basic
import Stablehlo.Reference.Ops
import Stablehlo.Reference.ProcessGrid

/-! Collective reductions of the interpreter, seen from one process of the grid. -/

namespace Stablehlo

section Operations

variable {α : Type}

end Operations

section Folds

variable {α : Type} {computation : α → α → α} {operands : ProcessId → List (Tensor α)}
  {members : List ProcessId} {resultIndex : Nat} {index : Index} {value : α}

end Folds

section Specs

variable {α : Type} {computation : α → α → α} {operands : ProcessId → List (Tensor α)}
  {grid : ProcessGrid} {id : ProcessId} {processGroup : ProcessGroup} {channelId : ChannelId}
  {shapes : List Sizes}

end Specs

section Reductions

variable {grid : ProcessGrid} {id : ProcessId} {replicaGroups : List (List UInt32)}
  {channelId : ChannelId} {useGlobalDeviceIds : Bool} {processGroup : ProcessGroup}

end Reductions

section Order

variable {α : Type} {grid : ProcessGrid} {id : ProcessId} {replicaGroups : List (List UInt32)}
  {channelId : ChannelId} {useGlobalDeviceIds : Bool} {processGroup : ProcessGroup}

end Order

section Main

variable {α : Type} {grid : ProcessGrid} {id : ProcessId} {replicaGroups : List (List UInt32)}
  {channelId : ChannelId} {useGlobalDeviceIds : Bool} {processGroup : ProcessGroup}

end Main

end Stablehlo
