import Mathlib.Init

/-! Programs as trees: an operation has regions of blocks, and a block has operations. -/

universe u

namespace RegionTree

mutual

/-- An operation: its own part, and its regions. -/
inductive Operation (α β : Type u) where
  | node (own : α) (regions : List (Region α β))

/-- A region: its blocks. -/
inductive Region (α β : Type u) where
  | node (blocks : List (Block α β))

/-- A block: its own part, and its operations in order. -/
inductive Block (α β : Type u) where
  | node (own : β) (operations : List (Operation α β))

end

variable {α β : Type u}

-- Every operation is replaced, with the number of its regions at hand.
-- The lists of operations, of blocks and of regions have loops of their own.
mutual

/-- Replace every operation of a tree, where a failure at any of them is one of the whole. -/
def Operation.rewrite (visit : α → Nat → Option α) : Operation α β → Option (Operation α β)
  | .node own regions => do
    let replaced ← visit own regions.length
    let rest ← Region.rewriteAll visit regions
    return .node replaced rest

/-- Replace every operation of a region. -/
def Region.rewrite (visit : α → Nat → Option α) : Region α β → Option (Region α β)
  | .node blocks => do return .node (← Block.rewriteAll visit blocks)

/-- Replace every operation of a block. -/
def Block.rewrite (visit : α → Nat → Option α) : Block α β → Option (Block α β)
  | .node own operations => do return .node own (← Operation.rewriteAll visit operations)

/-- Replace every operation of a list of regions. -/
def Region.rewriteAll (visit : α → Nat → Option α) :
    List (Region α β) → Option (List (Region α β))
  | [] => some []
  | region :: regions => do
    let first ← Region.rewrite visit region
    let rest ← Region.rewriteAll visit regions
    return first :: rest

/-- Replace every operation of a list of blocks. -/
def Block.rewriteAll (visit : α → Nat → Option α) : List (Block α β) → Option (List (Block α β))
  | [] => some []
  | block :: blocks => do
    let first ← Block.rewrite visit block
    let rest ← Block.rewriteAll visit blocks
    return first :: rest

/-- Replace every operation of a list. -/
def Operation.rewriteAll (visit : α → Nat → Option α) :
    List (Operation α β) → Option (List (Operation α β))
  | [] => some []
  | operation :: operations => do
    let first ← Operation.rewrite visit operation
    let rest ← Operation.rewriteAll visit operations
    return first :: rest

end

-- The own parts are listed as the operations are replaced, the outer ones first.
mutual

/-- The own parts of the operations of a tree. -/
def Operation.parts : Operation α β → List α
  | .node own regions => own :: Region.allParts regions

/-- The own parts of the operations of a region. -/
def Region.parts : Region α β → List α
  | .node blocks => Block.allParts blocks

/-- The own parts of the operations of a block. -/
def Block.parts : Block α β → List α
  | .node _ operations => Operation.allParts operations

/-- The own parts of the operations of a list of regions. -/
def Region.allParts : List (Region α β) → List α
  | [] => []
  | region :: regions => Region.parts region ++ Region.allParts regions

/-- The own parts of the operations of a list of blocks. -/
def Block.allParts : List (Block α β) → List α
  | [] => []
  | block :: blocks => Block.parts block ++ Block.allParts blocks

/-- The own parts of the operations of a list. -/
def Operation.allParts : List (Operation α β) → List α
  | [] => []
  | operation :: operations => Operation.parts operation ++ Operation.allParts operations

end

-- The walk goes into the regions of some of the operations only.
mutual

/-- The own parts of the operations that a walk meets, the outer ones first. -/
def Operation.reached (follows : α → Bool) : Operation α β → List α
  | .node own regions => own :: if follows own then Region.allReached follows regions else []

/-- The own parts that a walk meets in a region. -/
def Region.reached (follows : α → Bool) : Region α β → List α
  | .node blocks => Block.allReached follows blocks

/-- The own parts that a walk meets in a block. -/
def Block.reached (follows : α → Bool) : Block α β → List α
  | .node _ operations => Operation.allReached follows operations

/-- The own parts that a walk meets in a list of regions. -/
def Region.allReached (follows : α → Bool) : List (Region α β) → List α
  | [] => []
  | region :: regions => Region.reached follows region ++ Region.allReached follows regions

/-- The own parts that a walk meets in a list of blocks. -/
def Block.allReached (follows : α → Bool) : List (Block α β) → List α
  | [] => []
  | block :: blocks => Block.reached follows block ++ Block.allReached follows blocks

/-- The own parts that a walk meets in a list of operations. -/
def Operation.allReached (follows : α → Bool) : List (Operation α β) → List α
  | [] => []
  | operation :: operations =>
    Operation.reached follows operation ++ Operation.allReached follows operations

end

/-- Two replacements, one after the other, are a third one at each of the own parts. -/
def Chain (first second both : α → Nat → Option α) (parts : List α) : Prop :=
  ∀ own ∈ parts, ∀ count replaced, first own count = some replaced →
    second replaced count = both own count

variable {first second both : α → Nat → Option α}

/-- Replacements that chain at two lists chain at both of them. -/
theorem Chain.append {parts rest : List α} :
    Chain first second both (parts ++ rest) ↔
      Chain first second both parts ∧ Chain first second both rest :=
  List.forall_mem_append

-- The induction follows the tree.
-- A loop keeps the number of the elements, which is what an operation is replaced with.
mutual

/-- Replacing the operations twice is replacing them once, when it is at each of them. -/
theorem Operation.rewrite_rewrite : (operation result : Operation α β) →
    Chain first second both operation.parts → operation.rewrite first = some result →
    result.rewrite second = operation.rewrite both
  | .node own regions, result, chain, done => by
    rw [Operation.parts, Chain, List.forall_mem_cons] at chain
    simp only [Operation.rewrite, Option.bind_eq_bind, Option.bind_eq_some_iff, Option.pure_def,
      Option.some.injEq] at done
    obtain ⟨replaced, visited, rest, continued, rfl⟩ := done
    obtain ⟨same, length⟩ := Region.rewriteAll_rewriteAll regions rest chain.2 continued
    rw [Operation.rewrite, Operation.rewrite, length, chain.1 _ _ visited, same]

/-- The operations of a region are replaced once. -/
theorem Region.rewrite_rewrite : (region result : Region α β) →
    Chain first second both region.parts → region.rewrite first = some result →
    result.rewrite second = region.rewrite both
  | .node blocks, result, chain, done => by
    simp only [Region.rewrite, Option.bind_eq_bind, Option.bind_eq_some_iff, Option.pure_def,
      Option.some.injEq] at done
    obtain ⟨rest, continued, rfl⟩ := done
    rw [Region.rewrite, Region.rewrite, Block.rewriteAll_rewriteAll blocks rest chain continued]

/-- The operations of a block are replaced once. -/
theorem Block.rewrite_rewrite : (block result : Block α β) →
    Chain first second both block.parts → block.rewrite first = some result →
    result.rewrite second = block.rewrite both
  | .node own operations, result, chain, done => by
    simp only [Block.rewrite, Option.bind_eq_bind, Option.bind_eq_some_iff, Option.pure_def,
      Option.some.injEq] at done
    obtain ⟨rest, continued, rfl⟩ := done
    rw [Block.rewrite, Block.rewrite,
      Operation.rewriteAll_rewriteAll operations rest chain continued]

/-- The operations of a list of regions are replaced once. -/
theorem Region.rewriteAll_rewriteAll : (regions results : List (Region α β)) →
    Chain first second both (Region.allParts regions) →
    Region.rewriteAll first regions = some results →
    Region.rewriteAll second results = Region.rewriteAll both regions ∧
      results.length = regions.length
  | [], results, _, done => by
    rw [Region.rewriteAll, Option.some.injEq] at done
    subst done
    exact ⟨rfl, rfl⟩
  | region :: regions, results, chain, done => by
    rw [Region.allParts, Chain.append] at chain
    simp only [Region.rewriteAll, Option.bind_eq_bind, Option.bind_eq_some_iff, Option.pure_def,
      Option.some.injEq] at done
    obtain ⟨result, visited, rest, continued, rfl⟩ := done
    obtain ⟨same, length⟩ := Region.rewriteAll_rewriteAll regions rest chain.2 continued
    rw [Region.rewriteAll, Region.rewriteAll, same,
      Region.rewrite_rewrite region result chain.1 visited, List.length_cons, List.length_cons,
      length]
    exact ⟨rfl, rfl⟩

/-- The operations of a list of blocks are replaced once. -/
theorem Block.rewriteAll_rewriteAll : (blocks results : List (Block α β)) →
    Chain first second both (Block.allParts blocks) →
    Block.rewriteAll first blocks = some results →
    Block.rewriteAll second results = Block.rewriteAll both blocks
  | [], results, _, done => by
    rw [Block.rewriteAll, Option.some.injEq] at done
    subst done
    rfl
  | block :: blocks, results, chain, done => by
    rw [Block.allParts, Chain.append] at chain
    simp only [Block.rewriteAll, Option.bind_eq_bind, Option.bind_eq_some_iff, Option.pure_def,
      Option.some.injEq] at done
    obtain ⟨result, visited, rest, continued, rfl⟩ := done
    rw [Block.rewriteAll, Block.rewriteAll,
      Block.rewriteAll_rewriteAll blocks rest chain.2 continued,
      Block.rewrite_rewrite block result chain.1 visited]

/-- The operations of a list are replaced once. -/
theorem Operation.rewriteAll_rewriteAll : (operations results : List (Operation α β)) →
    Chain first second both (Operation.allParts operations) →
    Operation.rewriteAll first operations = some results →
    Operation.rewriteAll second results = Operation.rewriteAll both operations
  | [], results, _, done => by
    rw [Operation.rewriteAll, Option.some.injEq] at done
    subst done
    rfl
  | operation :: operations, results, chain, done => by
    rw [Operation.allParts, Chain.append] at chain
    simp only [Operation.rewriteAll, Option.bind_eq_bind, Option.bind_eq_some_iff,
      Option.pure_def, Option.some.injEq] at done
    obtain ⟨result, visited, rest, continued, rfl⟩ := done
    rw [Operation.rewriteAll, Operation.rewriteAll,
      Operation.rewriteAll_rewriteAll operations rest chain.2 continued,
      Operation.rewrite_rewrite operation result chain.1 visited]

end

-- Nothing changes at the operations, and so nothing does at the trees that hold them.
mutual

/-- Replacing every operation by itself changes nothing. -/
theorem Operation.rewrite_some :
    (operation : Operation α β) → operation.rewrite (fun own _ => some own) = some operation
  | .node own regions => by
    rw [Operation.rewrite, Region.rewriteAll_some regions]
    rfl

/-- Nothing changes in a region. -/
theorem Region.rewrite_some :
    (region : Region α β) → region.rewrite (fun own _ => some own) = some region
  | .node blocks => by
    rw [Region.rewrite, Block.rewriteAll_some blocks]
    rfl

/-- Nothing changes in a block. -/
theorem Block.rewrite_some :
    (block : Block α β) → block.rewrite (fun own _ => some own) = some block
  | .node own operations => by
    rw [Block.rewrite, Operation.rewriteAll_some operations]
    rfl

/-- Nothing changes in a list of regions. -/
theorem Region.rewriteAll_some : (regions : List (Region α β)) →
    Region.rewriteAll (fun own _ => some own) regions = some regions
  | [] => rfl
  | region :: regions => by
    rw [Region.rewriteAll, Region.rewrite_some region, Region.rewriteAll_some regions]
    rfl

/-- Nothing changes in a list of blocks. -/
theorem Block.rewriteAll_some : (blocks : List (Block α β)) →
    Block.rewriteAll (fun own _ => some own) blocks = some blocks
  | [] => rfl
  | block :: blocks => by
    rw [Block.rewriteAll, Block.rewrite_some block, Block.rewriteAll_some blocks]
    rfl

/-- Nothing changes in a list of operations. -/
theorem Operation.rewriteAll_some : (operations : List (Operation α β)) →
    Operation.rewriteAll (fun own _ => some own) operations = some operations
  | [] => rfl
  | operation :: operations => by
    rw [Operation.rewriteAll, Operation.rewrite_some operation,
      Operation.rewriteAll_some operations]
    rfl

end

/-- Replacements that are the same at every operation of a tree are the same on the tree. -/
theorem Operation.rewrite_congr {operation : Operation α β}
    (same : ∀ own ∈ operation.parts, ∀ count, first own count = second own count) :
    operation.rewrite first = operation.rewrite second := by
  -- Nothing is replaced before the first of them.
  apply Operation.rewrite_rewrite operation operation _ (Operation.rewrite_some operation)
  intro own listed count replaced kept
  cases kept
  exact same own listed count

end RegionTree
