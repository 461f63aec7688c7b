import Mathlib.Tactic.ByContra
import Stablehlo.Dialect.Types

/-! Lists of types whose tuples are flattened, and put together again. -/

namespace Stablehlo

/-- Flatten tuple types into the result, in the order of a traversal. -/
def flattenTupleTypes : List StablehloType → List StablehloType → List StablehloType
  | [], result => result
  | .tuple inner :: types, result => flattenTupleTypes types (flattenTupleTypes inner result)
  | type :: types, result => flattenTupleTypes types (result ++ [type])

/-- Put types together as in the prototype, and return the number of them that are consumed. -/
def unflattenLoop : List StablehloType → List StablehloType → List StablehloType →
    Option Int × List StablehloType
  | [], [], result => (some 0, result)
  | [], _ :: _, result => (none, result)
  | _ :: _, [], result => (none, result)
  | .tuple inner :: prototype, type :: types, result =>
    match unflattenLoop inner (type :: types) [] with
    | (none, _) => (none, result)
    | (some consumedFront, tupleResult) =>
      match unflattenLoop prototype ((type :: types).drop consumedFront.toNat) result with
      | (none, rest) => (none, rest)
      -- The tuple comes behind what is put together after it.
      | (some consumedRest, rest) =>
        (some (consumedFront + consumedRest), rest ++ [.tuple tupleResult])
  | _ :: prototype, type :: types, result =>
    match unflattenLoop prototype types (result ++ [type]) with
    | (none, rest) => (none, rest)
    | (some consumed, rest) => (some (consumed + 1), rest)

/-- Put types together as in the prototype. -/
def unflattenTupleTypes (prototype types result : List StablehloType) :
    Bool × List StablehloType :=
  let (consumed, result) := unflattenLoop prototype types result
  -- A missing number is not -1 either.
  (consumed != some (-1), result)

/-- Every tuple is the last one of its list, and has something to flatten. -/
def tuplesTrail : List StablehloType → Bool
  | [] => true
  | [.tuple inner] => !(flattenTupleTypes inner []).isEmpty && tuplesTrail inner
  | .tuple _ :: _ :: _ => false
  | _ :: types => tuplesTrail types

section Flattening

variable {inner types : List StablehloType} {type : StablehloType}

/-- What is flattened comes behind the result. -/
theorem flattenTupleTypes_append (types front result : List StablehloType) :
    flattenTupleTypes types (front ++ result) = front ++ flattenTupleTypes types result := by
  -- The induction is on the traversal, for the result that is known so far.
  fun_induction flattenTupleTypes types result with
  | case1 result => rw [flattenTupleTypes]
  | case2 inner types result innerIh typesIh => rw [flattenTupleTypes, innerIh, typesIh]
  | case3 type types result leaf ih =>
    rw [flattenTupleTypes, List.append_assoc, ih]
    exact leaf

/-- The types of a tuple are flattened in front of those behind it. -/
theorem flattenTupleTypes_tuple : flattenTupleTypes (.tuple inner :: types) [] =
    flattenTupleTypes inner [] ++ flattenTupleTypes types [] := by
  rw [flattenTupleTypes, ← flattenTupleTypes_append, List.append_nil]

/-- Other types are kept. -/
theorem flattenTupleTypes_leaf (leaf : ∀ inner, type = .tuple inner → False) :
    flattenTupleTypes (type :: types) [] = type :: flattenTupleTypes types [] := by
  have pushed : flattenTupleTypes (type :: types) [] = flattenTupleTypes types [type] := by
    rw [flattenTupleTypes, List.nil_append]
    exact leaf
  rw [pushed]
  exact flattenTupleTypes_append types [type] []

/-- A tuple trails when it is the last type, and the tuples in it trail. -/
theorem tuplesTrail_tuple : tuplesTrail (.tuple inner :: types) = true ↔
    types = [] ∧ flattenTupleTypes inner [] ≠ [] ∧ tuplesTrail inner = true := by
  cases types with
  | nil => simp [tuplesTrail]
  | cons next types => simp [tuplesTrail]

/-- Other types may be followed by anything. -/
theorem tuplesTrail_leaf (leaf : ∀ inner, type = .tuple inner → False) :
    tuplesTrail (type :: types) = tuplesTrail types := by
  rw [tuplesTrail]
  · exact fun inner same _ => leaf inner same
  · exact fun inner _ _ same _ => leaf inner same

/-- There is something to flatten when the tuples trail. -/
theorem flattenTupleTypes_ne_nil (trail : tuplesTrail (type :: types) = true) :
    flattenTupleTypes (type :: types) [] ≠ [] := by
  by_cases tuple : ∃ inner, type = .tuple inner
  · obtain ⟨inner, rfl⟩ := tuple
    rw [flattenTupleTypes_tuple]
    simp [(tuplesTrail_tuple.mp trail).2.1]
  · rw [flattenTupleTypes_leaf fun inner same => tuple ⟨inner, same⟩]
    simp

end Flattening

/-- Types are put together exactly when there are as many as in the prototype, and no tuple of it is
in front of another type. -/
theorem unflattenLoop_fst (prototype types result : List StablehloType) :
    (unflattenLoop prototype types result).1 =
      if tuplesTrail prototype = true ∧ types.length = (flattenTupleTypes prototype []).length then
        some (types.length : Int)
      else
        none := by
  fun_induction unflattenLoop prototype types result with
  | case1 result => simp [tuplesTrail, flattenTupleTypes]
  | case2 => simp [tuplesTrail, flattenTupleTypes]
  | case3 front prototype result =>
    -- The prototype goes on where there are no types.
    rw [if_neg]
    rintro ⟨trail, lengths⟩
    exact flattenTupleTypes_ne_nil trail (List.eq_nil_of_length_eq_zero lengths.symm)
  | case4 inner prototype type types result rest stopped innerIh =>
    -- The types of the tuple do not match, since they go on behind it or do not reach its end.
    rw [stopped] at innerIh
    rw [if_neg]
    rintro ⟨trail, lengths⟩
    obtain ⟨rfl, -, innerTrail⟩ := tuplesTrail_tuple.mp trail
    rw [flattenTupleTypes_tuple, flattenTupleTypes, List.append_nil] at lengths
    rw [if_pos ⟨innerTrail, lengths⟩] at innerIh
    cases innerIh
  | case5 inner prototype type types result consumed tupleResult front rest stopped innerIh ih =>
    -- The tuple takes all types, and there are none for what is behind it.
    rw [stopped] at ih
    rw [if_neg]
    rintro ⟨trail, lengths⟩
    obtain ⟨rfl, -, innerTrail⟩ := tuplesTrail_tuple.mp trail
    rw [flattenTupleTypes_tuple, flattenTupleTypes, List.append_nil] at lengths
    rw [front, if_pos ⟨innerTrail, lengths⟩, Option.some.injEq] at innerIh
    rw [innerIh] at ih
    simp [tuplesTrail, flattenTupleTypes] at ih
  | case6 inner prototype type types result consumed tupleResult front consumedRest rest behind
      innerIh ih =>
    rw [front] at innerIh
    rw [behind] at ih
    split at innerIh
    · next matched =>
      rw [Option.some.injEq] at innerIh
      subst innerIh
      -- Nothing is left, so nothing may stand behind the tuple.
      rw [Int.toNat_natCast, List.drop_length] at ih behind
      split at ih
      · next both =>
        cases prototype with
        | cons next prototype =>
          exact absurd (List.eq_nil_of_length_eq_zero both.2.symm) (flattenTupleTypes_ne_nil both.1)
        | nil =>
          have trail : tuplesTrail [.tuple inner] = true := by
            refine tuplesTrail_tuple.mpr ⟨rfl, fun empty => ?_, matched.1⟩
            rw [empty] at matched
            cases matched.2
          have lengths : (type :: types).length =
              (flattenTupleTypes [.tuple inner] []).length := by
            rw [flattenTupleTypes_tuple, flattenTupleTypes, List.append_nil]
            exact matched.2
          rw [if_pos ⟨trail, lengths⟩]
          rw [Option.some.injEq] at ih
          simp [ih]
      · cases ih
    · cases innerIh
  | case7 front prototype type types result leaf rest stopped ih =>
    rw [stopped] at ih
    rw [if_neg]
    rintro ⟨trail, lengths⟩
    rw [tuplesTrail_leaf leaf] at trail
    rw [flattenTupleTypes_leaf leaf, List.length_cons, List.length_cons] at lengths
    rw [if_pos ⟨trail, by omega⟩] at ih
    cases ih
  | case8 front prototype type types result leaf consumed rest matched ih =>
    rw [matched] at ih
    rw [tuplesTrail_leaf leaf, flattenTupleTypes_leaf leaf, List.length_cons, List.length_cons]
    simp only [Nat.add_right_cancel_iff]
    split at ih
    · next both =>
      rw [if_pos both]
      rw [Option.some.injEq] at ih
      simp [ih]
    · cases ih

/-- The types of a tuple that are put together are all there are, and are those of a prototype with
tuples that trail. -/
theorem unflattenLoop_some {prototype types result rest : List StablehloType} {consumed : Int}
    (matched : unflattenLoop prototype types result = (some consumed, rest)) :
    consumed = types.length ∧ tuplesTrail prototype = true ∧
      types.length = (flattenTupleTypes prototype []).length := by
  have number := unflattenLoop_fst prototype types result
  rw [matched] at number
  split at number
  · next both => exact ⟨Option.some.inj number, both⟩
  · cases number

/-- Nothing is put together where there are no types. -/
theorem unflattenLoop_nil (prototype result : List StablehloType) :
    unflattenLoop prototype [] result = (if prototype = [] then some 0 else none, result) := by
  cases prototype with
  | nil => rw [unflattenLoop, if_pos rfl]
  | cons front prototype => rw [unflattenLoop, if_neg (by simp)]

/-- Putting flattened types together behind a result gives the prototype, when its tuples trail. -/
theorem unflattenLoop_flatten {prototype types : List StablehloType}
    (trail : tuplesTrail prototype = true) (same : types = flattenTupleTypes prototype [])
    (result : List StablehloType) :
    (unflattenLoop prototype types result).2 = result ++ prototype := by
  fun_induction unflattenLoop prototype types result with
  | case1 result => rw [List.append_nil]
  | case2 type types result =>
    rw [flattenTupleTypes] at same
    cases same
  | case3 front prototype result => exact absurd same.symm (flattenTupleTypes_ne_nil trail)
  | case4 inner prototype type types result rest stopped innerIh =>
    -- The types of the last tuple match.
    obtain ⟨rfl, -, innerTrail⟩ := tuplesTrail_tuple.mp trail
    rw [flattenTupleTypes_tuple, flattenTupleTypes, List.append_nil] at same
    have matched := unflattenLoop_fst inner (type :: types) []
    rw [stopped, if_pos ⟨innerTrail, congrArg _ same⟩] at matched
    cases matched
  | case5 inner prototype type types result consumed tupleResult front rest stopped innerIh ih =>
    obtain ⟨rfl, -, -⟩ := tuplesTrail_tuple.mp trail
    rw [(unflattenLoop_some front).1, Int.toNat_natCast, List.drop_length, unflattenLoop_nil,
      if_pos rfl] at stopped
    cases stopped
  | case6 inner prototype type types result consumed tupleResult front consumedRest rest behind
      innerIh ih =>
    obtain ⟨rfl, -, innerTrail⟩ := tuplesTrail_tuple.mp trail
    rw [(unflattenLoop_some front).1, Int.toNat_natCast, List.drop_length, unflattenLoop_nil]
      at behind
    rw [flattenTupleTypes_tuple, flattenTupleTypes, List.append_nil] at same
    have tuple := innerIh innerTrail same
    rw [front, List.nil_append] at tuple
    cases behind
    show result ++ [.tuple tupleResult] = _
    rw [show tupleResult = inner from tuple]
  | case7 front prototype type types result leaf rest stopped ih =>
    rw [tuplesTrail_leaf leaf] at trail
    rw [flattenTupleTypes_leaf leaf, List.cons.injEq] at same
    rw [stopped] at ih
    rw [ih trail same.2, same.1]
    simp
  | case8 front prototype type types result leaf consumed rest matched ih =>
    rw [tuplesTrail_leaf leaf] at trail
    rw [flattenTupleTypes_leaf leaf, List.cons.injEq] at same
    rw [matched] at ih
    rw [ih trail same.2, same.1]
    simp

/-- What is put together is shorter than the prototype, when a tuple of it does not trail. -/
theorem unflattenLoop_length {prototype : List StablehloType}
    (blocked : ¬ tuplesTrail prototype = true) (types result : List StablehloType) :
    (unflattenLoop prototype types result).2.length < result.length + prototype.length := by
  fun_induction unflattenLoop prototype types result with
  | case1 result => exact absurd (by rw [tuplesTrail]) blocked
  | case2 type types result => exact absurd (by rw [tuplesTrail]) blocked
  | case3 front prototype result => simp
  | case4 inner prototype type types result rest stopped innerIh => simp
  | case5 inner prototype type types result consumed tupleResult front rest stopped innerIh ih =>
    -- All types are taken by the tuple, so nothing is added.
    rw [(unflattenLoop_some front).1, Int.toNat_natCast, List.drop_length, unflattenLoop_nil]
      at stopped
    obtain ⟨-, rfl⟩ := Prod.mk.inj stopped
    simp
  | case6 inner prototype type types result consumed tupleResult front consumedRest rest behind
      innerIh ih =>
    obtain ⟨count, innerTrail, lengths⟩ := unflattenLoop_some front
    rw [count, Int.toNat_natCast, List.drop_length, unflattenLoop_nil] at behind
    obtain ⟨last, -⟩ := Prod.mk.inj behind
    -- The tuple is the last type, and is matched, so that it trails.
    refine absurd (tuplesTrail_tuple.mpr ⟨?_, fun empty => ?_, innerTrail⟩) blocked
    · by_contra others
      rw [if_neg others] at last
      cases last
    · rw [empty] at lengths
      cases lengths
  | case7 front prototype type types result leaf rest stopped ih =>
    rw [tuplesTrail_leaf leaf] at blocked
    rw [stopped] at ih
    have shorter := ih blocked
    simp only [List.length_append, List.length_cons, List.length_nil] at shorter ⊢
    omega
  | case8 front prototype type types result leaf consumed rest matched ih =>
    rw [tuplesTrail_leaf leaf] at blocked
    rw [matched] at ih
    have shorter := ih blocked
    simp only [List.length_append, List.length_cons, List.length_nil] at shorter ⊢
    omega

/-- Types are always put together, whatever there is. -/
theorem unflattenTupleTypes_succeeds (prototype types result : List StablehloType) :
    (unflattenTupleTypes prototype types result).1 = true := by
  show ((unflattenLoop prototype types result).1 != some (-1)) = true
  rw [unflattenLoop_fst, bne_iff_ne]
  split
  · simp
  · simp

/-- Flattened types are put together as they were exactly when every tuple is the last type of its
list and has something to flatten, and a failure is that of another number of types exactly when
there is no other number. -/
theorem unflattenTupleTypes_iff (prototype types : List StablehloType) :
    (unflattenTupleTypes prototype (flattenTupleTypes prototype []) [] = (true, prototype) ∧
        ((unflattenTupleTypes prototype types []).1 = false ↔
          types.length ≠ (flattenTupleTypes prototype []).length)) ↔
      tuplesTrail prototype = true ∧
        types.length = (flattenTupleTypes prototype []).length := by
  refine and_congr ⟨fun same => ?_, fun trail => Prod.ext ?_ ?_⟩ ?_
  · by_contra blocked
    have shorter := unflattenLoop_length blocked (flattenTupleTypes prototype []) []
    have whole : (unflattenLoop prototype (flattenTupleTypes prototype []) []).2 = prototype :=
      congrArg Prod.snd same
    rw [whole] at shorter
    simp at shorter
  · exact unflattenTupleTypes_succeeds _ _ _
  · exact (unflattenLoop_flatten trail rfl []).trans (List.nil_append _)
  · rw [unflattenTupleTypes_succeeds]
    simp

/-- A tuple in front of another type is lost, and what is behind it. -/
theorem unflattenTupleTypes_front :
    flattenTupleTypes [.tuple [.token], .index] [] = [.token, .index] ∧
      unflattenTupleTypes [.tuple [.token], .index] [.token, .index] [] = (true, []) ∧
      ([] : List StablehloType) ≠ [.tuple [.token], .index] := by
  simp [flattenTupleTypes, unflattenTupleTypes, unflattenLoop]

end Stablehlo
