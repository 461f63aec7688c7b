import Mathlib.Data.List.Nodup

/-! Programs over named values: operations, the regions nested in them, and their evaluation. -/

namespace Ssa

mutual

/-- An operation: what it reads by name, the names of its results, and its regions. -/
inductive Operation (κ : Type) where
  | node (kind : κ) (operands results : List Nat) (regions : List (Region κ))

/-- A region of a single block: its arguments, its operations in order, and what it returns. -/
inductive Region (κ : Type) where
  | node (arguments : List Nat) (operations : List (Operation κ)) (returned : List Nat)

end

/-- The values of the names that are in scope. -/
abbrev Env (V : Type) := Nat → Option V

/-- What the kinds of operations compute from their operands and what their regions compute. -/
abbrev Denotation (κ V : Type) :=
  κ → List V → List (List V → Option (List V)) → Option (List V)

variable {κ V : Type}

namespace Operation

def operands : Operation κ → List Nat
  | .node _ operands _ _ => operands

def results : Operation κ → List Nat
  | .node _ _ results _ => results

def regions : Operation κ → List (Region κ)
  | .node _ _ _ regions => regions

end Operation

namespace Region

def arguments : Region κ → List Nat
  | .node arguments _ _ => arguments

def operations : Region κ → List (Operation κ)
  | .node _ operations _ => operations

def returned : Region κ → List Nat
  | .node _ _ returned => returned

end Region

/-- The values of names. -/
def Env.read (env : Env V) (names : List Nat) : Option (List V) := names.mapM env

/-- Give values to names, as many as there are. -/
def Env.bind (env : Env V) : List Nat → List V → Option (Env V)
  | [], [] => some env
  | name :: names, value :: values =>
    Env.bind (fun other => if other = name then some value else env other) names values
  | _, _ => none

-- The lists of operations and of regions have loops of their own.
mutual

/-- The values that an operation computes. -/
def Operation.compute (denote : Denotation κ V) (env : Env V) : Operation κ → Option (List V)
  | .node kind operands _ regions => do
    let values ← env.read operands
    denote kind values (Region.callAll denote env regions)

/-- What a region returns for values of its arguments. -/
def Region.call (denote : Denotation κ V) (env : Env V) :
    Region κ → List V → Option (List V)
  | .node arguments operations returned, values => do
    let entered ← env.bind arguments values
    let left ← Operation.run denote entered operations
    left.read returned

/-- What each of the regions returns. -/
def Region.callAll (denote : Denotation κ V) (env : Env V) :
    List (Region κ) → List (List V → Option (List V))
  | [] => []
  | region :: regions => Region.call denote env region :: Region.callAll denote env regions

/-- Compute operations one after the other, each with the results of those before. -/
def Operation.run (denote : Denotation κ V) (env : Env V) : List (Operation κ) → Option (Env V)
  | [] => some env
  | operation :: operations => do
    let values ← Operation.compute denote env operation
    let next ← env.bind operation.results values
    Operation.run denote next operations

end

-- Names are listed with those of what is nested, also those that are defined there.
mutual

/-- The names that an operation and what is nested in it read. -/
def Operation.mentions : Operation κ → List Nat
  | .node _ operands _ regions => operands ++ Region.allMentions regions

/-- The names that are read in a region. -/
def Region.mentions : Region κ → List Nat
  | .node _ operations returned => Operation.allMentions operations ++ returned

/-- The names that are read in regions. -/
def Region.allMentions : List (Region κ) → List Nat
  | [] => []
  | region :: regions => Region.mentions region ++ Region.allMentions regions

/-- The names that operations and what is nested in them read. -/
def Operation.allMentions : List (Operation κ) → List Nat
  | [] => []
  | operation :: operations => Operation.mentions operation ++ Operation.allMentions operations

end

/-- The environments give the same values to the names. -/
def AgreeOn (names : Nat → Prop) (first second : Env V) : Prop :=
  ∀ name, names name → first name = second name

/-- Both computations fail, or both succeed with environments that agree. -/
def SameOutcome (names : Nat → Prop) : Option (Env V) → Option (Env V) → Prop
  | none, none => True
  | some first, some second => AgreeOn names first second
  | _, _ => False

section Agree

variable {names : Nat → Prop} {first second : Env V}

/-- Names are read alike. -/
theorem AgreeOn.read (agree : AgreeOn names first second) {listed : List Nat}
    (inside : ∀ name ∈ listed, names name) : first.read listed = second.read listed := by
  -- The values are the same one by one.
  induction listed with
  | nil => rfl
  | cons name listed ih =>
    obtain ⟨here, inside⟩ := List.forall_mem_cons.mp inside
    rw [Env.read, Env.read, List.mapM_cons, List.mapM_cons, agree name here]
    have rest := ih inside
    rw [Env.read, Env.read] at rest
    rw [rest]

/-- There is a value for each of the names. -/
theorem Env.length_read {env : Env V} {listed : List Nat} {values : List V}
    (reads : env.read listed = some values) : values.length = listed.length := by
  induction listed generalizing values with
  | nil =>
    have none : values = [] := by simpa [Env.read] using reads.symm
    rw [none]
    rfl
  | cons name listed ih =>
    rw [Env.read, List.mapM_cons] at reads
    obtain ⟨value, -, reads⟩ := Option.bind_eq_some_iff.mp reads
    obtain ⟨rest, others, same⟩ := Option.bind_eq_some_iff.mp reads
    cases same
    exact congrArg (· + 1) (ih others)

/-- The value of a listed name is at its place. -/
theorem Env.getElem?_read {env : Env V} {listed : List Nat} {values : List V}
    (reads : env.read listed = some values) {place name : Nat}
    (found : listed[place]? = some name) : values[place]? = env name := by
  induction listed generalizing values place with
  | nil => cases found
  | cons first listed ih =>
    rw [Env.read, List.mapM_cons] at reads
    obtain ⟨value, here, reads⟩ := Option.bind_eq_some_iff.mp reads
    obtain ⟨rest, others, same⟩ := Option.bind_eq_some_iff.mp reads
    cases same
    cases place with
    | zero =>
      cases found
      exact here.symm
    | succ place => exact ih others found

/-- Binding names changes no other name. -/
theorem Env.bind_other {env entered : Env V} {bound : List Nat} {values : List V}
    (binds : env.bind bound values = some entered) {name : Nat} (other : name ∉ bound) :
    entered name = env name := by
  induction bound generalizing env values with
  | nil =>
    cases values with
    | nil =>
      cases binds
      rfl
    | cons value values => cases binds
  | cons first bound ih =>
    rw [List.mem_cons, not_or] at other
    cases values with
    | nil => cases binds
    | cons value values => exact (ih binds other.2).trans (if_neg other.1)

/-- As many values as there are names can be bound. -/
theorem Env.exists_bind (env : Env V) {bound : List Nat} {values : List V}
    (count : bound.length = values.length) : ∃ entered, env.bind bound values = some entered := by
  induction bound generalizing env values with
  | nil =>
    rw [List.length_nil, eq_comm, List.length_eq_zero_iff] at count
    subst count
    exact ⟨env, rfl⟩
  | cons name bound ih =>
    cases values with
    | nil => cases count
    | cons value values => exact ih _ (by simpa using count)

/-- Names that are bound once have their values. -/
theorem Env.bind_at {env entered : Env V} {bound : List Nat} {values : List V}
    (nodup : bound.Nodup) (binds : env.bind bound values = some entered) {place name : Nat}
    (found : bound[place]? = some name) : entered name = values[place]? := by
  induction bound generalizing env values place with
  | nil => cases found
  | cons first bound ih =>
    rw [List.nodup_cons] at nodup
    cases values with
    | nil => cases binds
    | cons value values =>
      cases place with
      | zero =>
        -- The names behind are others.
        cases found
        have rest : Env.bind (fun other => if other = name then some value else env other) bound
            values = some entered := binds
        rw [Env.bind_other rest nodup.1, if_pos rfl]
        rfl
      | succ place => exact ih nodup.2 binds found

/-- Operations change no other names than those of their results. -/
theorem Operation.run_other {denote : Denotation κ V} {env left : Env V}
    {operations : List (Operation κ)} (runs : Operation.run denote env operations = some left)
    {name : Nat} (other : name ∉ operations.flatMap Operation.results) : left name = env name := by
  induction operations generalizing env with
  | nil =>
    rw [Operation.run] at runs
    cases runs
    rfl
  | cons operation operations ih =>
    rw [Operation.run] at runs
    obtain ⟨values, -, runs⟩ := Option.bind_eq_some_iff.mp runs
    obtain ⟨next, bound, runs⟩ := Option.bind_eq_some_iff.mp runs
    rw [List.flatMap_cons, List.mem_append, not_or] at other
    rw [ih runs other.2, Env.bind_other bound other.1]

/-- Environments that agree still do when the same values are given to the same names. -/
theorem AgreeOn.bind (agree : AgreeOn names first second) (bound : List Nat) (values : List V) :
    SameOutcome names (first.bind bound values) (second.bind bound values) := by
  induction bound generalizing first second values with
  | nil =>
    cases values with
    | nil => exact agree
    | cons value values => trivial
  | cons name bound ih =>
    cases values with
    | nil => trivial
    | cons value values =>
      refine ih (fun other inside => ?_) values
      by_cases same : other = name
      · rw [if_pos same, if_pos same]
      · rw [if_neg same, if_neg same]
        exact agree other inside

/-- What follows on environments that agree has the same outcome. -/
theorem SameOutcome.bind {first second : Option (Env V)} {β : Type}
    (outcome : SameOutcome names first second) {next next' : Env V → Option β}
    (same : ∀ former latter, AgreeOn names former latter → next former = next' latter) :
    (first >>= next) = (second >>= next') := by
  match first, second, outcome with
  | none, none, _ => rfl
  | some former, some latter, agree => exact same former latter agree

end Agree

-- The induction follows the nesting of operations and regions.
mutual

/-- What an operation computes depends on the names that it and what is nested in it read. -/
theorem Operation.compute_congr {denote : Denotation κ V} {names : Nat → Prop}
    {first second : Env V} (agree : AgreeOn names first second) :
    ∀ operation : Operation κ, (∀ name ∈ operation.mentions, names name) →
      operation.compute denote first = operation.compute denote second
  | .node kind operands results regions, inside => by
    rw [Operation.mentions] at inside
    obtain ⟨own, nested⟩ := List.forall_mem_append.mp inside
    rw [Operation.compute, Operation.compute, agree.read own,
      Region.callAll_congr agree regions nested]

/-- What a region returns depends on the names that are read in it. -/
theorem Region.call_congr {denote : Denotation κ V} {names : Nat → Prop}
    {first second : Env V} (agree : AgreeOn names first second) :
    ∀ region : Region κ, (∀ name ∈ region.mentions, names name) →
      region.call denote first = region.call denote second
  | .node arguments operations returned, inside => by
    rw [Region.mentions] at inside
    obtain ⟨inner, last⟩ := List.forall_mem_append.mp inside
    funext values
    rw [Region.call, Region.call]
    refine (agree.bind arguments values).bind fun former latter entered => ?_
    refine (Operation.run_congr entered operations inner).bind fun former latter left => ?_
    exact left.read last

/-- What regions return depends on the names that are read in them. -/
theorem Region.callAll_congr {denote : Denotation κ V} {names : Nat → Prop}
    {first second : Env V} (agree : AgreeOn names first second) :
    ∀ regions : List (Region κ), (∀ name ∈ Region.allMentions regions, names name) →
      Region.callAll denote first regions = Region.callAll denote second regions
  | [], _ => rfl
  | region :: regions, inside => by
    rw [Region.allMentions] at inside
    obtain ⟨here, others⟩ := List.forall_mem_append.mp inside
    rw [Region.callAll, Region.callAll, Region.call_congr agree region here,
      Region.callAll_congr agree regions others]

/-- What operations compute depends on the names that they and what is nested in them read. -/
theorem Operation.run_congr {denote : Denotation κ V} {names : Nat → Prop}
    {first second : Env V} (agree : AgreeOn names first second) :
    ∀ operations : List (Operation κ), (∀ name ∈ Operation.allMentions operations, names name) →
      SameOutcome names (Operation.run denote first operations)
        (Operation.run denote second operations)
  | [], _ => agree
  | operation :: operations, inside => by
    rw [Operation.allMentions] at inside
    obtain ⟨here, others⟩ := List.forall_mem_append.mp inside
    rw [Operation.run, Operation.run, Operation.compute_congr agree operation here]
    cases Operation.compute denote second operation with
    | none => trivial
    | some values =>
      have bound := agree.bind operation.results values
      show SameOutcome names (first.bind operation.results values >>= _)
        (second.bind operation.results values >>= _)
      match first.bind operation.results values, second.bind operation.results values, bound with
      | none, none, _ => trivial
      | some former, some latter, next => exact Operation.run_congr next operations others

end

/-! Other names for the values that are read. -/

-- Definitions keep their names, and so do the arguments of regions.
mutual

/-- An operation with other names for what it and what is nested in it read. -/
def Operation.rename (names : Nat → Nat) : Operation κ → Operation κ
  | .node kind operands results regions =>
    .node kind (operands.map names) results (Region.renameAll names regions)

/-- A region with other names for what is read in it. -/
def Region.rename (names : Nat → Nat) : Region κ → Region κ
  | .node arguments operations returned =>
    .node arguments (Operation.renameAll names operations) (returned.map names)

/-- Regions with other names for what is read in them. -/
def Region.renameAll (names : Nat → Nat) : List (Region κ) → List (Region κ)
  | [] => []
  | region :: regions => region.rename names :: Region.renameAll names regions

/-- Operations with other names for what they and what is nested in them read. -/
def Operation.renameAll (names : Nat → Nat) : List (Operation κ) → List (Operation κ)
  | [] => []
  | operation :: operations => operation.rename names :: Operation.renameAll names operations

end

mutual

/-- The names that an operation and what is nested in it define. -/
def Operation.definitions : Operation κ → List Nat
  | .node _ _ results regions => results ++ Region.allDefinitions regions

/-- The names that a region defines, its arguments among them. -/
def Region.definitions : Region κ → List Nat
  | .node arguments operations _ => arguments ++ Operation.allDefinitions operations

/-- The names that regions define. -/
def Region.allDefinitions : List (Region κ) → List Nat
  | [] => []
  | region :: regions => region.definitions ++ Region.allDefinitions regions

/-- The names that operations and what is nested in them define. -/
def Operation.allDefinitions : List (Operation κ) → List Nat
  | [] => []
  | operation :: operations => operation.definitions ++ Operation.allDefinitions operations

end

/-- Results of operations are defined by them. -/
theorem Operation.results_subset (operations : List (Operation κ)) :
    operations.flatMap Operation.results ⊆ Operation.allDefinitions operations := by
  intro name listed
  induction operations with
  | nil => contradiction
  | cons operation operations ih =>
    rw [Operation.allDefinitions, List.mem_append]
    rw [List.flatMap_cons, List.mem_append] at listed
    rcases listed with own | others
    · cases operation with
      | node kind operands results regions => exact .inl (List.mem_append_left _ own)
    · exact .inr (ih others)

-- Names are replaced one by one, wherever they are read.
mutual

/-- Names that are replaced twice are replaced once. -/
theorem Operation.rename_rename (first second : Nat → Nat) : (operation : Operation κ) →
    (operation.rename first).rename second = operation.rename (second ∘ first)
  | .node kind operands results regions => by
    rw [Operation.rename, Operation.rename, Operation.rename, List.map_map,
      Region.renameAll_renameAll first second regions]

/-- Names in a region are replaced once. -/
theorem Region.rename_rename (first second : Nat → Nat) : (region : Region κ) →
    (region.rename first).rename second = region.rename (second ∘ first)
  | .node arguments operations returned => by
    rw [Region.rename, Region.rename, Region.rename, List.map_map,
      Operation.renameAll_renameAll first second operations]

/-- Names in regions are replaced once. -/
theorem Region.renameAll_renameAll (first second : Nat → Nat) : (regions : List (Region κ)) →
    Region.renameAll second (Region.renameAll first regions) =
      Region.renameAll (second ∘ first) regions
  | [] => rfl
  | region :: regions => by
    rw [Region.renameAll, Region.renameAll, Region.renameAll,
      Region.rename_rename first second region, Region.renameAll_renameAll first second regions]

/-- Names in operations are replaced once. -/
theorem Operation.renameAll_renameAll (first second : Nat → Nat) :
    (operations : List (Operation κ)) →
    Operation.renameAll second (Operation.renameAll first operations) =
      Operation.renameAll (second ∘ first) operations
  | [] => rfl
  | operation :: operations => by
    rw [Operation.renameAll, Operation.renameAll, Operation.renameAll,
      Operation.rename_rename first second operation,
      Operation.renameAll_renameAll first second operations]

end

-- Nothing is replaced by itself.
mutual

/-- Names that are replaced by themselves stay. -/
theorem Operation.rename_id : (operation : Operation κ) → operation.rename id = operation
  | .node kind operands results regions => by
    rw [Operation.rename, List.map_id, Region.renameAll_id regions]

/-- Names in a region stay. -/
theorem Region.rename_id : (region : Region κ) → region.rename id = region
  | .node arguments operations returned => by
    rw [Region.rename, List.map_id, Operation.renameAll_id operations]

/-- Names in regions stay. -/
theorem Region.renameAll_id : (regions : List (Region κ)) → Region.renameAll id regions = regions
  | [] => rfl
  | region :: regions => by
    rw [Region.renameAll, Region.rename_id region, Region.renameAll_id regions]

/-- Names in operations stay. -/
theorem Operation.renameAll_id :
    (operations : List (Operation κ)) → Operation.renameAll id operations = operations
  | [] => rfl
  | operation :: operations => by
    rw [Operation.renameAll, Operation.rename_id operation, Operation.renameAll_id operations]

end

/-- What a name stands for in the second environment, its other name stands for in the first. -/
def RenamedEnv (names : Nat → Nat) (first second : Env V) : Prop :=
  ∀ name, first (names name) = second name

/-- Both computations fail, or both succeed with environments that are renamed. -/
def RenamedOutcome (names : Nat → Nat) : Option (Env V) → Option (Env V) → Prop
  | none, none => True
  | some first, some second => RenamedEnv names first second
  | _, _ => False

/-- A definition has its own name, and no other value has it. -/
def Unmoved (names : Nat → Nat) (definition : Nat) : Prop :=
  ∀ name, names name = definition ↔ name = definition

section Renamed

variable {names : Nat → Nat} {first second : Env V}

/-- Other names are read for the same values. -/
theorem RenamedEnv.read (renamed : RenamedEnv names first second) (listed : List Nat) :
    first.read (listed.map names) = second.read listed := by
  induction listed with
  | nil => rfl
  | cons name listed ih =>
    rw [Env.read, Env.read] at ih
    rw [Env.read, Env.read, List.map_cons, List.mapM_cons, List.mapM_cons, renamed name, ih]

/-- Definitions that are not moved are defined alike. -/
theorem RenamedEnv.define (renamed : RenamedEnv names first second) {definition : Nat}
    (unmoved : Unmoved names definition) (value : V) :
    RenamedEnv names (fun other => if other = definition then some value else first other)
      (fun other => if other = definition then some value else second other) := by
  intro name
  show (if names name = definition then some value else first (names name)) =
    if name = definition then some value else second name
  by_cases same : name = definition
  · rw [if_pos ((unmoved name).2 same), if_pos same]
  · rw [if_neg (mt (unmoved name).1 same), if_neg same]
    exact renamed name

/-- Environments that are renamed still are when definitions are added that are not moved. -/
theorem RenamedEnv.bind (renamed : RenamedEnv names first second) (bound : List Nat)
    (unmoved : ∀ definition ∈ bound, Unmoved names definition) (values : List V) :
    RenamedOutcome names (first.bind bound values) (second.bind bound values) := by
  induction bound generalizing first second values with
  | nil =>
    cases values with
    | nil => exact renamed
    | cons value values => trivial
  | cons definition bound ih =>
    rw [List.forall_mem_cons] at unmoved
    cases values with
    | nil => trivial
    | cons value values => exact ih (renamed.define unmoved.1 value) unmoved.2 values

/-- A computation does not fail when the renamed one succeeds. -/
theorem RenamedOutcome.of_some {outcome : Option (Env V)}
    (renamed : RenamedOutcome names outcome (some second)) :
    ∃ former, outcome = some former ∧ RenamedEnv names former second := by
  cases outcome with
  | none => exact renamed.elim
  | some former => exact ⟨former, rfl, renamed⟩

/-- A computation fails when the renamed one does. -/
theorem RenamedOutcome.of_none {outcome : Option (Env V)}
    (renamed : RenamedOutcome names outcome none) : outcome = none := by
  cases outcome with
  | none => rfl
  | some former => exact renamed.elim

/-- What follows on environments that are renamed has the same outcome. -/
theorem RenamedOutcome.bind {first second : Option (Env V)} {β : Type}
    (outcome : RenamedOutcome names first second) {next next' : Env V → Option β}
    (same : ∀ former latter, RenamedEnv names former latter → next former = next' latter) :
    (first >>= next) = (second >>= next') := by
  match first, second, outcome with
  | none, none, _ => rfl
  | some former, some latter, renamed => exact same former latter renamed

end Renamed

-- The induction follows the nesting of operations and regions.
mutual

/-- An operation computes the same from other names for the same values. -/
theorem Operation.compute_rename {denote : Denotation κ V} {names : Nat → Nat}
    {first second : Env V} (renamed : RenamedEnv names first second) :
    ∀ operation : Operation κ,
      (∀ definition ∈ operation.definitions, Unmoved names definition) →
      (operation.rename names).compute denote first = operation.compute denote second
  | .node kind operands results regions, unmoved => by
    rw [Operation.definitions] at unmoved
    obtain ⟨_, nested⟩ := List.forall_mem_append.mp unmoved
    rw [Operation.rename, Operation.compute, Operation.compute, renamed.read operands,
      Region.callAll_rename renamed regions nested]

/-- A region returns the same with other names for the same values. -/
theorem Region.call_rename {denote : Denotation κ V} {names : Nat → Nat}
    {first second : Env V} (renamed : RenamedEnv names first second) :
    ∀ region : Region κ, (∀ definition ∈ region.definitions, Unmoved names definition) →
      (region.rename names).call denote first = region.call denote second
  | .node arguments operations returned, unmoved => by
    rw [Region.definitions] at unmoved
    obtain ⟨own, inner⟩ := List.forall_mem_append.mp unmoved
    funext values
    rw [Region.rename, Region.call, Region.call]
    refine (renamed.bind arguments own values).bind fun former latter entered => ?_
    refine (Operation.run_rename entered operations inner).bind fun former latter left => ?_
    exact left.read returned

/-- Regions return the same with other names for the same values. -/
theorem Region.callAll_rename {denote : Denotation κ V} {names : Nat → Nat}
    {first second : Env V} (renamed : RenamedEnv names first second) :
    ∀ regions : List (Region κ),
      (∀ definition ∈ Region.allDefinitions regions, Unmoved names definition) →
      Region.callAll denote first (Region.renameAll names regions) =
        Region.callAll denote second regions
  | [], _ => rfl
  | region :: regions, unmoved => by
    rw [Region.allDefinitions] at unmoved
    obtain ⟨here, others⟩ := List.forall_mem_append.mp unmoved
    rw [Region.renameAll, Region.callAll, Region.callAll, Region.call_rename renamed region here,
      Region.callAll_rename renamed regions others]

/-- Operations compute the same from other names for the same values. -/
theorem Operation.run_rename {denote : Denotation κ V} {names : Nat → Nat}
    {first second : Env V} (renamed : RenamedEnv names first second) :
    ∀ operations : List (Operation κ),
      (∀ definition ∈ Operation.allDefinitions operations, Unmoved names definition) →
      RenamedOutcome names (Operation.run denote first (Operation.renameAll names operations))
        (Operation.run denote second operations)
  | [], _ => renamed
  | operation :: operations, unmoved => by
    rw [Operation.allDefinitions] at unmoved
    obtain ⟨here, others⟩ := List.forall_mem_append.mp unmoved
    rw [Operation.renameAll, Operation.run, Operation.run,
      Operation.compute_rename renamed operation here]
    cases Operation.compute denote second operation with
    | none => trivial
    | some values =>
      have own : ∀ definition ∈ operation.results, Unmoved names definition := by
        intro definition listed
        apply here
        cases operation with
        | node kind operands results regions => exact List.mem_append_left _ listed
      have results : (operation.rename names).results = operation.results := by
        cases operation with
        | node kind operands results regions => rfl
      have bound := renamed.bind operation.results own values
      rw [results]
      show RenamedOutcome names (first.bind operation.results values >>= _)
        (second.bind operation.results values >>= _)
      match first.bind operation.results values, second.bind operation.results values, bound with
      | none, none, _ => trivial
      | some former, some latter, next => exact Operation.run_rename next operations others

end

end Ssa
