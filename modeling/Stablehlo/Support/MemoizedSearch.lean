import Mathlib.Data.Finset.Card
import Mathlib.Logic.Relation

/-! Depth-first search for obstacles in a graph, with a table of what is known of its nodes. -/

namespace MemoizedSearch

universe u

variable {Node : Type u}

/-- What a node asks for, in order: an obstacle is `none`, and a successor is `some`. -/
abbrev Graph (Node : Type u) := Node → List (Option Node)

/-- A node leads to each of its successors. -/
def Edge (graph : Graph Node) (node successor : Node) : Prop := some successor ∈ graph node

/-- No obstacle is reached from a node. -/
def Clear (graph : Graph Node) (node : Node) : Prop :=
  ∀ reached, Relation.ReflTransGen (Edge graph) node reached → none ∉ graph reached

/-- No cycle is reached from a node. -/
def Acyclic (graph : Graph Node) (node : Node) : Prop :=
  ∀ reached, Relation.ReflTransGen (Edge graph) node reached →
    ¬ Relation.TransGen (Edge graph) reached reached

/-- What the table knows of a node. -/
inductive Mark where
  | visiting | clear | blocked
  deriving DecidableEq, Repr

/-- The table: a node that was never entered has no mark. -/
abbrev Marks (Node : Type u) := Node → Option Mark

/-- Ask for one thing after another, and stop at the first one that is not clear. -/
def askAll (visit : Node → Marks Node → Option (Bool × Marks Node)) :
    List (Option Node) → Marks Node → Option (Bool × Marks Node)
  | [], marks => some (true, marks)
  | none :: _, marks => some (false, marks)
  | some successor :: rest, marks => do
    let (clear, marks) ← visit successor marks
    if clear then askAll visit rest marks else some (false, marks)

/-- Asking for two lists is asking for the second one when the first one is clear. -/
theorem askAll_append (visit : Node → Marks Node → Option (Bool × Marks Node))
    (first second : List (Option Node)) (marks : Marks Node) :
    askAll visit (first ++ second) marks = (do
      let (clear, marks) ← askAll visit first marks
      if clear then askAll visit second marks else some (false, marks)) := by
  -- The induction is on the first list, which stops the second one as it stops itself.
  induction first generalizing marks with
  | nil => rfl
  | cons asked rest ih =>
    cases asked with
    | none => rfl
    | some successor =>
      simp only [List.cons_append, askAll, Option.bind_eq_bind, Option.bind_assoc]
      refine Option.bind_congr fun visited _ => ?_
      cases visited.1 with
      | false => rfl
      | true => exact ih visited.2

variable {graph : Graph Node}

/-- Nothing that was known is forgotten or changed. -/
def Extends (marks later : Marks Node) : Prop :=
  ∀ node mark, marks node = some mark → later node = some mark

/-- Knowing more twice is knowing more. -/
theorem Extends.trans {marks later last : Marks Node} (first : Extends marks later)
    (second : Extends later last) : Extends marks last :=
  fun node mark known => second node mark (first node mark known)

/-- Asking for a list keeps what is known, when each visit does. -/
theorem askAll_extends {visit : Node → Marks Node → Option (Bool × Marks Node)}
    (keeps : ∀ node marks clear later, visit node marks = some (clear, later) →
      Extends marks later) (asked : List (Option Node)) (marks : Marks Node) {clear : Bool}
    {later : Marks Node} (done : askAll visit asked marks = some (clear, later)) :
    Extends marks later := by
  -- One turn is one visit, and the rest goes on from its table.
  induction asked generalizing marks with
  | nil =>
    cases done
    exact fun _ _ known => known
  | cons first rest ih =>
    cases first with
    | none =>
      cases done
      exact fun _ _ known => known
    | some successor =>
      simp only [askAll, Option.bind_eq_bind, Option.bind_eq_some_iff] at done
      obtain ⟨⟨found, between⟩, visited, rest⟩ := done
      have first := keeps _ _ _ _ visited
      cases found with
      | false =>
        cases rest
        exact first
      | true => exact first.trans (ih between rest)

/-- The nodes that were never entered. -/
def unmarked (nodes : Finset Node) (marks : Marks Node) : Finset Node :=
  nodes.filter (fun node => marks node = none)

/-- Knowing more leaves fewer nodes to enter. -/
theorem unmarked_of_extends {nodes : Finset Node} {marks later : Marks Node}
    (grown : Extends marks later) : (unmarked nodes later).card ≤ (unmarked nodes marks).card := by
  apply Finset.card_le_card
  intro node member
  rw [unmarked, Finset.mem_filter] at member ⊢
  refine ⟨member.1, ?_⟩
  -- A mark would still be there later.
  cases stored : marks node with
  | none => rfl
  | some mark =>
    have kept := grown node mark stored
    rw [kept] at member
    exact absurd member.2 (by simp)

/-- A clear node asks for clear nodes alone, and a blocked one reaches an obstacle or a cycle. -/
structure Consistent (graph : Graph Node) (marks : Marks Node) : Prop where
  clear : ∀ node, marks node = some .clear →
    ∀ asked ∈ graph node, ∃ successor, asked = some successor ∧ marks successor = some .clear
  blocked : ∀ node, marks node = some .blocked → ¬ (Clear graph node ∧ Acyclic graph node)

/-- Nothing is wrong in a table without marks. -/
theorem consistent_empty : Consistent graph (fun _ => none) where
  clear := by
    intro node marked
    contradiction
  blocked := by
    intro node marked
    contradiction

/-- From a clear node only clear nodes are reached, and so no obstacle is. -/
theorem Consistent.clear_of_clear {marks : Marks Node} (consistent : Consistent graph marks)
    {node : Node} (clear : marks node = some .clear) : Clear graph node := by
  intro reached path
  -- The induction is on the path: every node on it is clear.
  have every : marks reached = some .clear := by
    induction path with
    | refl => exact clear
    | tail _ edge ih =>
      obtain ⟨successor, same, next⟩ := consistent.clear _ ih _ edge
      cases same
      exact next
  intro obstacle
  obtain ⟨_, impossible, _⟩ := consistent.clear _ every _ obstacle
  contradiction

/-- Obstacles and cycles that a successor reaches are reached from the node. -/
theorem not_free_of_edge {node successor : Node} (edge : Edge graph node successor)
    (obstructed : ¬ (Clear graph successor ∧ Acyclic graph successor)) :
    ¬ (Clear graph node ∧ Acyclic graph node) := by
  intro free
  apply obstructed
  refine ⟨?_, ?_⟩
  · exact fun reached path => free.1 reached (.head edge path)
  · exact fun reached path => free.2 reached (.head edge path)

/-- A later table is consistent, knows what was known, and leaves no further node open. -/
structure Continues (graph : Graph Node) (marks later : Marks Node) : Prop where
  consistent : Consistent graph later
  grown : Extends marks later
  closed : ∀ node, later node = some .visiting → marks node = some .visiting

/-- A consistent table continues itself. -/
theorem Continues.refl {marks : Marks Node} (consistent : Consistent graph marks) :
    Continues graph marks marks where
  consistent := consistent
  grown := fun _ _ known => known
  closed := fun _ visiting => visiting

/-- A table is continued by what continues a continuation of it. -/
theorem Continues.trans {marks later last : Marks Node} (first : Continues graph marks later)
    (second : Continues graph later last) : Continues graph marks last where
  consistent := second.consistent
  grown := first.grown.trans second.grown
  closed := fun node visiting => first.closed node (second.closed node visiting)

/-- What a visit is right about, as long as the open nodes lead to the node it enters. -/
def Correct (graph : Graph Node) (visit : Node → Marks Node → Option (Bool × Marks Node)) :
    Prop :=
  ∀ node marks clear later, visit node marks = some (clear, later) → Consistent graph marks →
    (∀ other, marks other = some .visiting → Relation.TransGen (Edge graph) other node) →
    Continues graph marks later ∧ (clear = true → later node = some .clear) ∧
      (clear = false → ¬ (Clear graph node ∧ Acyclic graph node))

/-- Asking for what a node asks for is right about the node, when the visits are right. -/
theorem askAll_correct {visit : Node → Marks Node → Option (Bool × Marks Node)}
    (correct : Correct graph visit) (node : Node) (asked : List (Option Node))
    (within : asked ⊆ graph node) (marks : Marks Node) {clear : Bool} {later : Marks Node}
    (done : askAll visit asked marks = some (clear, later)) (consistent : Consistent graph marks)
    (path : ∀ other, marks other = some .visiting →
      Relation.ReflTransGen (Edge graph) other node) :
    Continues graph marks later ∧
      (clear = true → ∀ one ∈ asked, ∃ successor, one = some successor ∧
        later successor = some .clear) ∧
      (clear = false → ¬ (Clear graph node ∧ Acyclic graph node)) := by
  induction asked generalizing marks with
  | nil =>
    cases done
    refine ⟨.refl consistent, ?_, ?_⟩
    · intro _ one listed
      contradiction
    · intro impossible
      contradiction
  | cons first rest ih =>
    rw [List.cons_subset] at within
    cases first with
    | none =>
      -- An obstacle of the node itself.
      cases done
      refine ⟨.refl consistent, ?_, ?_⟩
      · intro impossible
        contradiction
      · intro _ free
        exact free.1 node .refl within.1
    | some successor =>
      simp only [askAll, Option.bind_eq_bind, Option.bind_eq_some_iff] at done
      obtain ⟨⟨found, between⟩, visited, continued⟩ := done
      -- The open nodes lead to the node, and so to its successor.
      obtain ⟨continues, whenClear, whenBlocked⟩ := correct successor marks found between visited
        consistent (fun other visiting => .tail' (path other visiting) within.1)
      cases found with
      | false =>
        cases continued
        refine ⟨continues, ?_, ?_⟩
        · intro impossible
          contradiction
        · intro _
          exact not_free_of_edge within.1 (whenBlocked rfl)
      | true =>
        obtain ⟨after, restClear, restBlocked⟩ := ih within.2 between continued
          continues.consistent (fun other visiting => path other (continues.closed other visiting))
        refine ⟨continues.trans after, ?_, restBlocked⟩
        intro clear one listed
        rw [List.mem_cons] at listed
        cases listed with
        | inl same => exact ⟨successor, same, after.grown _ _ (whenClear rfl)⟩
        | inr listed => exact restClear clear one listed

/-- The table after searches from a list of nodes: it is consistent, nothing is open in it, and
each of the nodes is marked. -/
structure Settled (graph : Graph Node) (nodes : List Node) (marks : Marks Node) : Prop where
  consistent : Consistent graph marks
  closed : ∀ node, marks node ≠ some .visiting
  marked : ∀ node ∈ nodes, marks node ≠ none

/-- No obstacle is reached from a clear node, and a settled node that is not clear reaches an
obstacle or a cycle. -/
theorem Settled.decides {nodes : List Node} {marks : Marks Node}
    (settled : Settled graph nodes marks) (node : Node) :
    (marks node = some .clear → Clear graph node) ∧
      (node ∈ nodes → Clear graph node → Acyclic graph node → marks node = some .clear) := by
  refine ⟨settled.consistent.clear_of_clear, ?_⟩
  intro listed clear acyclic
  -- It has a mark, it is not open, and it would be blocked for a reason.
  obtain ⟨mark, stored⟩ := Option.ne_none_iff_exists'.1 (settled.marked node listed)
  cases mark with
  | visiting => exact absurd stored (settled.closed node)
  | clear => exact stored
  | blocked => exact absurd ⟨clear, acyclic⟩ (settled.consistent.blocked node stored)

variable [DecidableEq Node]

/-- Search from a node, unless the table knows it already; a node is being visited meanwhile. -/
def search (graph : Graph Node) : Nat → Node → Marks Node → Option (Bool × Marks Node)
  | 0, _, _ => none
  | fuel + 1, node, marks =>
    match marks node with
    | some mark => some (mark == .clear, marks)
    | none => do
      let (clear, marks) ← askAll (search graph fuel) (graph node)
        (Function.update marks node (some .visiting))
      return (clear, Function.update marks node (some (if clear then .clear else .blocked)))

/-- Search from one node after another, with one table. -/
def searchAll (graph : Graph Node) (fuel : Nat) :
    List Node → Marks Node → Option (Marks Node)
  | [], marks => some marks
  | node :: rest, marks => do
    let (_, marks) ← search graph fuel node marks
    searchAll graph fuel rest marks

/-- Leaving a node changes nothing that was known when it was entered. -/
theorem extends_leave {marks later : Marks Node} {node : Node} (fresh : marks node = none)
    (grown : Extends (Function.update marks node (some .visiting)) later) (mark : Mark) :
    Extends marks (Function.update later node (some mark)) := by
  intro other known stored
  -- The node had no mark, so it is another one that has it.
  have apart : other ≠ node := by
    intro same
    rw [same, fresh] at stored
    contradiction
  rw [Function.update_of_ne apart]
  apply grown
  rw [Function.update_of_ne apart, stored]

/-- A search keeps what is known. -/
theorem search_extends (fuel : Nat) (node : Node) (marks : Marks Node) {clear : Bool}
    {later : Marks Node} (done : search graph fuel node marks = some (clear, later)) :
    Extends marks later := by
  -- The induction is on the depth of the search, and the list is asked for one level below.
  induction fuel generalizing node marks clear later with
  | zero => contradiction
  | succ fuel ih =>
    rw [search] at done
    cases stored : marks node with
    | some mark =>
      rw [stored] at done
      cases done
      exact fun _ _ known => known
    | none =>
      rw [stored] at done
      simp only [Option.bind_eq_bind, Option.bind_eq_some_iff, Option.pure_def] at done
      obtain ⟨⟨found, between⟩, asked, rest⟩ := done
      cases rest
      apply extends_leave stored
      exact askAll_extends (fun _ _ _ _ visited => ih _ _ visited) _ _ asked

/-- A search leaves its node with a mark. -/
theorem search_marks {fuel : Nat} {node : Node} {marks : Marks Node} {clear : Bool}
    {later : Marks Node} (done : search graph fuel node marks = some (clear, later)) :
    later node ≠ none := by
  cases fuel with
  | zero => contradiction
  | succ fuel =>
    rw [search] at done
    cases stored : marks node with
    | some mark =>
      rw [stored] at done
      cases done
      rw [stored]
      simp
    | none =>
      rw [stored] at done
      simp only [Option.bind_eq_bind, Option.bind_eq_some_iff, Option.pure_def] at done
      obtain ⟨_, _, rest⟩ := done
      cases rest
      rw [Function.update_self]
      simp

/-! The depth that a search needs: every deeper one has entered one more node. -/

/-- Entering a node leaves one node fewer. -/
theorem unmarked_enter {nodes : Finset Node} {marks : Marks Node} {node : Node}
    (member : node ∈ nodes) (fresh : marks node = none) :
    (unmarked nodes (Function.update marks node (some .visiting))).card
      < (unmarked nodes marks).card := by
  apply Finset.card_lt_card
  rw [Finset.ssubset_iff_of_subset]
  · refine ⟨node, ?_, ?_⟩
    · rw [unmarked, Finset.mem_filter]
      exact ⟨member, fresh⟩
    · rw [unmarked, Finset.mem_filter, Function.update_self]
      simp
  · intro other unseen
    rw [unmarked, Finset.mem_filter] at unseen ⊢
    refine ⟨unseen.1, ?_⟩
    have apart : other ≠ node := by
      intro same
      rw [same, Function.update_self] at unseen
      exact absurd unseen.2 (by simp)
    rw [Function.update_of_ne apart] at unseen
    exact unseen.2

/-- A search ends when it may go deeper than there are nodes to enter. -/
theorem search_ends {nodes : Finset Node}
    (closed : ∀ node ∈ nodes, ∀ successor, Edge graph node successor → successor ∈ nodes)
    (fuel : Nat) (node : Node) (member : node ∈ nodes) (marks : Marks Node)
    (enough : (unmarked nodes marks).card < fuel) :
    ∃ clear later, search graph fuel node marks = some (clear, later) := by
  induction fuel generalizing node marks with
  | zero => omega
  | succ fuel ih =>
    cases stored : marks node with
    | some mark => exact ⟨_, _, by rw [search, stored]⟩
    | none =>
      -- The node is entered, so the list is asked for with one node fewer to enter.
      have fewer := unmarked_enter member stored
      have asks : ∀ asked : List (Option Node), (∀ successor, some successor ∈ asked →
          successor ∈ nodes) → ∀ marks : Marks Node, (unmarked nodes marks).card < fuel →
          ∃ clear later, askAll (search graph fuel) asked marks = some (clear, later) := by
        intro asked
        induction asked with
        | nil => exact fun _ marks _ => ⟨true, marks, rfl⟩
        | cons first rest continued =>
          intro within marks enough
          cases first with
          | none => exact ⟨false, marks, rfl⟩
          | some successor =>
            obtain ⟨found, between, visited⟩ :=
              ih successor (within successor (List.mem_cons_self ..)) marks enough
            rw [askAll, visited]
            cases found with
            | false => exact ⟨false, between, rfl⟩
            | true =>
              have grown : (unmarked nodes between).card ≤ (unmarked nodes marks).card :=
                unmarked_of_extends (search_extends _ _ _ visited)
              exact continued (fun other listed => within other (List.mem_cons_of_mem _ listed))
                between (by omega)
      obtain ⟨found, between, asked⟩ := asks (graph node) (closed node member)
        (Function.update marks node (some .visiting)) (by omega)
      exact ⟨_, _, by rw [search, stored, asked]; rfl⟩

/-! What the table says is true: of the clear nodes at once, of the blocked ones at the end. -/

/-- Entering a node says nothing of any other one. -/
theorem consistent_enter {marks : Marks Node} (consistent : Consistent graph marks) {node : Node}
    (fresh : marks node = none) :
    Consistent graph (Function.update marks node (some .visiting)) where
  clear := by
    intro other clear asked listed
    have apart : other ≠ node := by
      intro same
      rw [same, Function.update_self] at clear
      exact absurd clear (by simp)
    rw [Function.update_of_ne apart] at clear
    obtain ⟨successor, same, next⟩ := consistent.clear other clear asked listed
    -- A clear successor has a mark, so it is not the node that is entered.
    have distinct : successor ≠ node := by
      intro same
      rw [same, fresh] at next
      contradiction
    exact ⟨successor, same, by rw [Function.update_of_ne distinct, next]⟩
  blocked := by
    intro other blocked
    have apart : other ≠ node := by
      intro same
      rw [same, Function.update_self] at blocked
      exact absurd blocked (by simp)
    rw [Function.update_of_ne apart] at blocked
    exact consistent.blocked other blocked

/-- A node is left with the mark that its list was worth. -/
theorem consistent_leave {marks : Marks Node} (consistent : Consistent graph marks) {node : Node}
    (entered : marks node = some .visiting) {clear : Bool}
    (whenClear : clear = true → ∀ one ∈ graph node, ∃ successor, one = some successor ∧
      marks successor = some .clear)
    (whenBlocked : clear = false → ¬ (Clear graph node ∧ Acyclic graph node)) :
    Consistent graph
      (Function.update marks node (some (if clear then .clear else .blocked))) := by
  -- A clear successor is not the node, which was open until now.
  have keeps : ∀ successor, marks successor = some .clear →
      Function.update marks node (some (if clear then .clear else .blocked)) successor
        = some .clear := by
    intro successor next
    have distinct : successor ≠ node := by
      intro same
      rw [same, entered] at next
      exact absurd next (by simp)
    rw [Function.update_of_ne distinct, next]
  refine ⟨?_, ?_⟩
  · intro other marked one listed
    by_cases same : other = node
    · subst same
      have isClear : clear = true := by
        cases clear with
        | true => rfl
        | false => exact absurd marked (by simp)
      obtain ⟨successor, named, next⟩ := whenClear isClear one listed
      exact ⟨successor, named, keeps successor next⟩
    · rw [Function.update_of_ne same] at marked
      obtain ⟨successor, named, next⟩ := consistent.clear other marked one listed
      exact ⟨successor, named, keeps successor next⟩
  · intro other marked
    by_cases same : other = node
    · subst same
      apply whenBlocked
      cases clear with
      | true => exact absurd marked (by simp)
      | false => rfl
    · rw [Function.update_of_ne same] at marked
      exact consistent.blocked other marked

/-- A search is right about the node it starts from, to every depth. -/
theorem search_correct (fuel : Nat) : Correct graph (search graph fuel) := by
  induction fuel with
  | zero =>
    intro node marks clear later done
    contradiction
  | succ fuel ih =>
    intro node marks clear later done consistent path
    rw [search] at done
    cases stored : marks node with
    | some mark =>
      rw [stored] at done
      cases done
      refine ⟨.refl consistent, ?_, ?_⟩
      · intro isClear
        rw [stored, beq_iff_eq.1 isClear]
      · intro notClear free
        cases mark with
        | visiting => exact free.2 node .refl (path node stored)
        | clear => contradiction
        | blocked => exact consistent.blocked node stored free
    | none =>
      rw [stored] at done
      simp only [Option.bind_eq_bind, Option.bind_eq_some_iff, Option.pure_def] at done
      obtain ⟨⟨found, between⟩, asked, rest⟩ := done
      cases rest
      -- The nodes that are open now are the earlier ones and the node itself.
      have opened : ∀ other,
          Function.update marks node (some .visiting) other = some .visiting →
          Relation.ReflTransGen (Edge graph) other node := by
        intro other visiting
        by_cases same : other = node
        · rw [same]
        · rw [Function.update_of_ne same] at visiting
          exact (path other visiting).to_reflTransGen
      obtain ⟨continues, whenClear, whenBlocked⟩ := askAll_correct ih node (graph node)
        (fun _ member => member) _ asked (consistent_enter consistent stored) opened
      have entered : between node = some .visiting :=
        continues.grown node _ (Function.update_self ..)
      refine ⟨⟨?_, extends_leave stored continues.grown _, ?_⟩, ?_, whenBlocked⟩
      · exact consistent_leave continues.consistent entered whenClear whenBlocked
      · intro other visiting
        by_cases same : other = node
        · subst same
          rw [Function.update_self] at visiting
          cases found with
          | true => exact absurd visiting (by simp)
          | false => exact absurd visiting (by simp)
        · rw [Function.update_of_ne same] at visiting
          have before := continues.closed other visiting
          rw [Function.update_of_ne same] at before
          exact before
      · intro isClear
        rw [Function.update_self, isClear]
        rfl

/-- Searches from nodes of a closed set end, and they settle the nodes. -/
theorem searchAll_settles {nodes : Finset Node}
    (closed : ∀ node ∈ nodes, ∀ successor, Edge graph node successor → successor ∈ nodes)
    {fuel : Nat} (enough : nodes.card < fuel) (order : List Node)
    (within : ∀ node ∈ order, node ∈ nodes) (done : List Node) (marks : Marks Node)
    (settled : Settled graph done marks) :
    ∃ later, searchAll graph fuel order marks = some later ∧
      Settled graph (done ++ order) later := by
  -- The nodes that are done grow by one with each search.
  induction order generalizing done marks with
  | nil => exact ⟨marks, rfl, by rw [List.append_nil]; exact settled⟩
  | cons node rest ih =>
    have few : (unmarked nodes marks).card < fuel :=
      Nat.lt_of_le_of_lt (Finset.card_le_card (Finset.filter_subset _ _)) enough
    obtain ⟨clear, between, searched⟩ :=
      search_ends closed fuel node (within node (List.mem_cons_self ..)) marks few
    obtain ⟨continues, whenClear, whenBlocked⟩ := search_correct fuel node marks clear between
      searched settled.consistent (fun other visiting => absurd visiting (settled.closed other))
    have next : Settled graph (done ++ [node]) between := by
      refine ⟨continues.consistent, ?_, ?_⟩
      · exact fun other visiting => settled.closed other (continues.closed other visiting)
      · intro other listed
        rw [List.mem_append, List.mem_singleton] at listed
        cases listed with
        | inl before =>
          -- What was marked before the search still is.
          obtain ⟨mark, stored⟩ := Option.ne_none_iff_exists'.1 (settled.marked other before)
          rw [continues.grown other mark stored]
          simp
        | inr same =>
          rw [same]
          exact search_marks searched
    obtain ⟨later, rest, settles⟩ :=
      ih (fun other listed => within other (List.mem_cons_of_mem _ listed)) _ between next
    refine ⟨later, ?_, ?_⟩
    · rw [searchAll, searched]
      exact rest
    · rwa [List.append_assoc] at settles

end MemoizedSearch
