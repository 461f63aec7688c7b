import Stablehlo.Dialect.ReducerShape

/-! The verifiers of operations that slide a window over their operands. -/

namespace Stablehlo

open TypePrinter

section Operations

variable [TypePrinter]

end Operations

end Stablehlo
