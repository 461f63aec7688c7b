import Stablehlo.Reference.Tensor
import Stablehlo.Support.AxisMap
import Stablehlo.Support.NamedValues

/-! The simplification of a reduction some of whose results have no uses. -/

namespace Stablehlo

open Ssa

section Pattern

variable {κ : Type}

/-- The items that are flagged. -/
def keep {α : Type} : List Bool → List α → List α
  | true :: flags, item :: items => item :: keep flags items
  | false :: flags, _ :: items => keep flags items
  | _, _ => []

/-- The names of the values that belong to the region itself. -/
def ownValues (body : Region κ) : List Nat :=
  body.arguments ++ body.operations.flatMap Operation.results

/-- The position of the operation that defines a value. -/
def getDefiningOp (body : Region κ) (definition : Nat) : Option Nat :=
  body.operations.findIdx? fun operation => operation.results.contains definition

/-- The values that are pushed for those that are used: values of other regions are left out. -/
def addToWorkList (body : Region κ) (values : List Nat) : List Nat :=
  values.filter (ownValues body).contains

/-- What is needed of the body of a reduction. -/
structure UsedParts where
  usedArgs : List Nat
  usedOps : List Nat

/-- Mark what defines a value as used, and push what it is defined by. -/
def visitDefinition (body : Region κ) (numOperandPairs : Nat) (definition : Nat)
    (parts : UsedParts) : List Nat × UsedParts :=
  match body.arguments.idxOf? definition with
  | some argNumber =>
    -- Using one argument implies using the whole argument pair.
    let pairNo := argNumber % numOperandPairs
    ([], { parts with usedArgs := pairNo :: (pairNo + numOperandPairs) :: parts.usedArgs })
  | none =>
    match (getDefiningOp body definition).bind fun place =>
        (body.operations[place]?).map (place, ·) with
    | some (place, defOp) =>
      (addToWorkList body defOp.operands, { parts with usedOps := place :: parts.usedOps })
    | none => ([], parts)

/-- Follow the definitions of the values in the work list, the last of which is its head here. -/
def followDefinitions (body : Region κ) (numOperandPairs : Nat) :
    Nat → List Nat → UsedParts → Option UsedParts
  | _, [], parts => some parts
  | 0, _ :: _, _ => none
  | fuel + 1, definition :: workList, parts =>
    let (pushed, parts) := visitDefinition body numOperandPairs definition parts
    followDefinitions body numOperandPairs fuel (pushed.reverse ++ workList) parts

/-- How often values are popped for a value, given the operations before it with the last first. -/
def countVisits (body : Region κ) : List (Operation κ) → Nat → Nat
  | [], _ => 1
  | operation :: earlier, definition =>
    if operation.results.contains definition then
      1 + ((addToWorkList body operation.operands).map (countVisits body earlier)).sum
    else
      countVisits body earlier definition

/-- Find out what is needed for the values that are returned. -/
def collectUsedParts (body : Region κ) (numOperandPairs : Nat) (usedReturns : List Nat) :
    Option UsedParts :=
  usedReturns.foldlM (fun parts value =>
    followDefinitions body numOperandPairs (countVisits body body.operations.reverse value)
      (addToWorkList body [value]) parts) ⟨[], []⟩

/-- A reduction with fewer operands: the pairs that are left, and its body. -/
structure SmallerReduce (κ : Type) where
  usedPairs : List Bool
  body : Region κ

/-- The body with what is used, where clones keep the names of what they are clones of. -/
def clonedBody (body : Region κ) (numOperandPairs : Nat) (used : List Bool) (parts : UsedParts) :
    Region κ :=
  .node (keep ((List.range (numOperandPairs * 2)).map parts.usedArgs.contains) body.arguments)
    (keep ((List.range body.operations.length).map parts.usedOps.contains) body.operations)
    (keep used body.returned)

/-- Leave out the operands of a reduction that only unused results are computed from. -/
def reduceOpUnusedResultCanon (body : Region κ) (used : List Bool) :
    Except Failure (Option (SmallerReduce κ)) :=
  let numOperandPairs := used.length
  let usedReturns := keep used body.returned
  if used.all id then .ok none
  else
    match collectUsedParts body numOperandPairs usedReturns with
    | none => .ok none
    | some parts =>
      let newNumOperands := usedReturns.length * 2
      if newNumOperands ≠
          ((List.range (numOperandPairs * 2)).filter parts.usedArgs.contains).length then
        .ok none
      else
        let newBody := clonedBody body numOperandPairs used parts
        -- Values that are returned have to be mapped to values of the new body.
        if usedReturns.all (ownValues newBody).contains then
          .ok (some {
            usedPairs := (List.range numOperandPairs).map parts.usedArgs.contains
            body := newBody })
        else
          .error .undefinedBehavior

end Pattern

section Keep

variable {α β : Type}

attribute [local simp] keep

/-- An item is kept when it is flagged at some place. -/
theorem mem_keep {flags : List Bool} {items : List α} {item : α} :
    item ∈ keep flags items ↔ ∃ place : Nat, flags[place]? = some true ∧
      items[place]? = some item := by
  induction flags generalizing items with
  | nil => simp [keep]
  | cons flag flags ih =>
    cases items with
    | nil => simp [keep]
    | cons first items =>
      -- The first item is at the first place, and the others one place further.
      have shift : (∃ place : Nat, (flag :: flags)[place]? = some true ∧
          (first :: items)[place]? = some item) ↔ (flag = true ∧ first = item) ∨
            ∃ place : Nat, flags[place]? = some true ∧ items[place]? = some item := by
        constructor
        · rintro ⟨place, flagged, found⟩
          cases place with
          | zero => exact .inl ⟨by simpa using flagged, by simpa using found⟩
          | succ place => exact .inr ⟨place, by simpa using flagged, by simpa using found⟩
        · rintro (⟨rfl, rfl⟩ | ⟨place, flagged, found⟩)
          · exact ⟨0, rfl, rfl⟩
          · exact ⟨place + 1, by simpa using flagged, by simpa using found⟩
      rw [shift, ← ih]
      cases flag with
      | true => simp [keep, eq_comm]
      | false => simp [keep]

/-- Items that are changed are kept like before. -/
theorem keep_map (change : α → β) (flags : List Bool) (items : List α) :
    keep flags (items.map change) = (keep flags items).map change := by
  induction flags generalizing items with
  | nil => simp [keep]
  | cons flag flags ih =>
    cases items with
    | nil => simp [keep]
    | cons item items => cases flag <;> simp [keep, ih]

end Keep

section Reached

variable {κ : Type} {body : Region κ} {numOperandPairs : Nat}

/-- The verifiers accept the body: values have one name each, and operations read values of the
body only behind their definitions. -/
structure BodyVerified (body : Region κ) (numOperandPairs : Nat) : Prop where
  arguments : body.arguments.length = numOperandPairs * 2
  returned : body.returned.length = numOperandPairs
  unique : (ownValues body).Nodup
  dominated : ∀ before operation after, body.operations = before ++ operation :: after →
    ∀ operand ∈ operation.operands, operand ∈ ownValues body →
      operand ∈ body.arguments ++ before.flatMap Operation.results

/-- A value of the body is one of those, or what the computation of one of those reads. -/
inductive Reached (body : Region κ) (roots : List Nat) : Nat → Prop
  | root {value : Nat} (listed : value ∈ roots) (own : value ∈ ownValues body) :
    Reached body roots value
  | operand {value operand : Nat} {operation : Operation κ} (reached : Reached body roots value)
    (listed : operation ∈ body.operations) (defines : value ∈ operation.results)
    (reads : operand ∈ operation.operands) (own : operand ∈ ownValues body) :
    Reached body roots operand

/-- Values that are reached are values of the body. -/
theorem Reached.own {roots : List Nat} {value : Nat} (reached : Reached body roots value) :
    value ∈ ownValues body := by
  cases reached with
  | root _ own => exact own
  | operand _ _ _ _ own => exact own

/-- A result is defined by its operation and by no argument. -/
theorem BodyVerified.definingOp (verified : BodyVerified body numOperandPairs) {place : Nat}
    {operation : Operation κ} (found : body.operations[place]? = some operation) {value : Nat}
    (defines : value ∈ operation.results) :
    body.arguments.idxOf? value = none ∧ getDefiningOp body value = some place := by
  have unique := verified.unique
  rw [ownValues, List.nodup_append] at unique
  obtain ⟨-, results, apart⟩ := unique
  have listed := List.mem_of_getElem? found
  constructor
  · refine AxisMap.idxOf?_eq_none fun argument => ?_
    exact apart value argument value (List.mem_flatMap.mpr ⟨operation, listed, defines⟩) rfl
  · obtain ⟨below, same⟩ := List.getElem?_eq_some_iff.mp found
    rw [getDefiningOp, List.findIdx?_eq_some_iff_getElem]
    refine ⟨below, by rw [same]; simpa using defines, fun earlier before again => ?_⟩
    -- An earlier operation with the result would define it twice.
    rw [List.nodup_flatMap] at results
    have different := List.pairwise_iff_getElem.mp results.2 earlier place (by omega) below before
    rw [same] at different
    exact different (by simpa using again) defines

/-- A value of the body is an argument or a result. -/
theorem ownValues_cases {value : Nat} (own : value ∈ ownValues body) :
    (∃ argNumber, body.arguments.idxOf? value = some argNumber ∧
      body.arguments[argNumber]? = some value) ∨
    ∃ (place : Nat) (operation : Operation κ), body.operations[place]? = some operation ∧
      value ∈ operation.results := by
  rcases List.mem_append.mp own with argument | result
  · exact .inl (AxisMap.exists_place argument)
  · obtain ⟨operation, listed, defines⟩ := List.mem_flatMap.mp result
    obtain ⟨place, found⟩ := List.mem_iff_getElem?.mp listed
    exact .inr ⟨place, operation, found, defines⟩

/-- The definition of a value is marked as used. -/
inductive UsedParts.Marks (body : Region κ) (numOperandPairs : Nat) (parts : UsedParts)
    (value : Nat) : Prop
  | argument {argNumber : Nat} (found : body.arguments.idxOf? value = some argNumber)
    (first : argNumber % numOperandPairs ∈ parts.usedArgs)
    (second : argNumber % numOperandPairs + numOperandPairs ∈ parts.usedArgs)
  | result {place : Nat} {operation : Operation κ}
    (found : body.operations[place]? = some operation) (defines : value ∈ operation.results)
    (used : place ∈ parts.usedOps)

/-- What is known of what is marked, with values that are still to be looked at. -/
structure UsedParts.Explores (body : Region κ) (numOperandPairs : Nat) (roots : List Nat)
    (workList : List Nat) (parts : UsedParts) : Prop where
  /-- All values that are looked at are reached. -/
  work : ∀ value ∈ workList, Reached body roots value
  /-- Arguments are marked in pairs, one of which is reached. -/
  args : ∀ number ∈ parts.usedArgs, ∃ argNumber value, Reached body roots value ∧
    body.arguments[argNumber]? = some value ∧ (number = argNumber % numOperandPairs ∨
      number = argNumber % numOperandPairs + numOperandPairs)
  /-- Operations are marked for a result that is reached. -/
  ops : ∀ place ∈ parts.usedOps, ∃ operation value, body.operations[place]? = some operation ∧
    value ∈ operation.results ∧ Reached body roots value
  /-- What operations that are marked read is marked, or looked at later. -/
  closed : ∀ place ∈ parts.usedOps, ∀ operation, body.operations[place]? = some operation →
    ∀ operand ∈ operation.operands, operand ∈ ownValues body →
      parts.Marks body numOperandPairs operand ∨ operand ∈ workList

/-- Parts that are used stay used. -/
theorem UsedParts.Marks.mono {parts more : UsedParts} {value : Nat}
    (marks : parts.Marks body numOperandPairs value)
    (args : ∀ number ∈ parts.usedArgs, number ∈ more.usedArgs)
    (ops : ∀ place ∈ parts.usedOps, place ∈ more.usedOps) :
    more.Marks body numOperandPairs value := by
  cases marks with
  | argument found first second => exact .argument found (args _ first) (args _ second)
  | result found defines used => exact .result found defines (ops _ used)

/-- A visit marks the value, and pushes what its computation reads. -/
theorem UsedParts.Explores.visit {roots workList : List Nat} {parts next : UsedParts}
    {definition : Nat} {pushed : List Nat} (verified : BodyVerified body numOperandPairs)
    (explores : parts.Explores body numOperandPairs roots (definition :: workList))
    (visited : visitDefinition body numOperandPairs definition parts = (pushed, next)) :
    next.Explores body numOperandPairs roots (pushed.reverse ++ workList) ∧
      next.Marks body numOperandPairs definition ∧
      ∀ value, parts.Marks body numOperandPairs value →
        next.Marks body numOperandPairs value := by
  obtain ⟨work, args, ops, closed⟩ := explores
  obtain ⟨reached, work⟩ := List.forall_mem_cons.mp work
  rcases ownValues_cases reached.own with ⟨argNumber, found, stored⟩ | ⟨place, operation, found,
    defines⟩
  · -- An argument marks its pair, and reads nothing.
    unfold visitDefinition at visited
    rw [found] at visited
    obtain ⟨rfl, rfl⟩ := Prod.mk.inj visited
    have keeps (value : Nat) (marks : parts.Marks body numOperandPairs value) :
        UsedParts.Marks body numOperandPairs { parts with usedArgs :=
          argNumber % numOperandPairs :: (argNumber % numOperandPairs + numOperandPairs) ::
            parts.usedArgs } value :=
      marks.mono (fun number listed => List.mem_cons_of_mem _ (List.mem_cons_of_mem _ listed))
        fun place listed => listed
    have marked : UsedParts.Marks body numOperandPairs { parts with usedArgs :=
        argNumber % numOperandPairs :: (argNumber % numOperandPairs + numOperandPairs) ::
          parts.usedArgs } definition :=
      .argument found List.mem_cons_self (List.mem_cons_of_mem _ List.mem_cons_self)
    refine ⟨⟨work, ?_, ops, ?_⟩, marked, keeps⟩
    · intro number listed
      rcases List.mem_cons.mp listed with rfl | listed
      · exact ⟨argNumber, definition, reached, stored, .inl rfl⟩
      · rcases List.mem_cons.mp listed with rfl | listed
        · exact ⟨argNumber, definition, reached, stored, .inr rfl⟩
        · exact args number listed
    · intro place listed operation found operand reads own
      rcases closed place listed operation found operand reads own with marks | waits
      · exact .inl (keeps operand marks)
      · rcases List.mem_cons.mp waits with rfl | waits
        · exact .inl marked
        · exact .inr waits
  · -- An operation pushes its operands.
    obtain ⟨none, definedBy⟩ := verified.definingOp found defines
    unfold visitDefinition at visited
    rw [none, definedBy] at visited
    simp only [Option.bind_some, found, Option.map_some] at visited
    obtain ⟨rfl, rfl⟩ := Prod.mk.inj visited
    have keeps (value : Nat) (marks : parts.Marks body numOperandPairs value) :
        UsedParts.Marks body numOperandPairs { parts with usedOps := place :: parts.usedOps }
          value :=
      marks.mono (fun number listed => listed) fun place listed => List.mem_cons_of_mem _ listed
    have marked : UsedParts.Marks body numOperandPairs
        { parts with usedOps := place :: parts.usedOps } definition :=
      .result found defines List.mem_cons_self
    refine ⟨⟨?_, args, ?_, ?_⟩, marked, keeps⟩
    · intro value listed
      rcases List.mem_append.mp listed with pushed | waits
      · obtain ⟨reads, own⟩ := List.mem_filter.mp (List.mem_reverse.mp pushed)
        exact .operand reached (List.mem_of_getElem? found) defines reads (by simpa using own)
      · exact work value waits
    · intro other listed
      rcases List.mem_cons.mp listed with rfl | listed
      · exact ⟨operation, definition, found, defines, reached⟩
      · exact ops other listed
    · intro other listed otherOperation otherFound operand reads own
      rcases List.mem_cons.mp listed with rfl | listed
      · -- All operands of the operation have been pushed.
        rw [found] at otherFound
        cases otherFound
        refine .inr (List.mem_append_left _ (List.mem_reverse.mpr ?_))
        exact List.mem_filter.mpr ⟨reads, by simpa using own⟩
      · rcases closed other listed otherOperation otherFound operand reads own with marks | waits
        · exact .inl (keeps operand marks)
        · rcases List.mem_cons.mp waits with rfl | waits
          · exact .inl marked
          · exact .inr (List.mem_append_right _ waits)

/-- Following definitions marks all values that are looked at, and what they are computed from. -/
theorem UsedParts.Explores.follow {roots workList : List Nat} {parts last : UsedParts} {fuel : Nat}
    (verified : BodyVerified body numOperandPairs)
    (explores : parts.Explores body numOperandPairs roots workList)
    (followed : followDefinitions body numOperandPairs fuel workList parts = some last) :
    last.Explores body numOperandPairs roots [] ∧
      ∀ value, parts.Marks body numOperandPairs value ∨ value ∈ workList →
        last.Marks body numOperandPairs value := by
  induction fuel generalizing workList parts with
  | zero =>
    cases workList with
    | nil =>
      cases followed
      exact ⟨explores, fun value known => known.resolve_right (List.not_mem_nil)⟩
    | cons definition workList => cases followed
  | succ fuel ih =>
    cases workList with
    | nil =>
      cases followed
      exact ⟨explores, fun value known => known.resolve_right (List.not_mem_nil)⟩
    | cons definition workList =>
      rcases visited : visitDefinition body numOperandPairs definition parts with ⟨pushed, next⟩
      rw [followDefinitions, visited] at followed
      obtain ⟨nextExplores, marked, keeps⟩ := explores.visit verified visited
      obtain ⟨finished, marks⟩ := ih nextExplores followed
      refine ⟨finished, fun value known => marks value ?_⟩
      rcases known with known | waits
      · exact .inl (keeps value known)
      · rcases List.mem_cons.mp waits with rfl | waits
        · exact .inl marked
        · exact .inr (List.mem_append_right _ waits)

end Reached

end Stablehlo
