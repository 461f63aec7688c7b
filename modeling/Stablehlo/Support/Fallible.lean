import Mathlib.Data.List.Forall2

/-! Sequences of computations that may fail: what a success says about each of the parts. -/

universe u v w

namespace Fallible

variable {ε : Type u} {α : Type v} {β : Type v}

/-- A success is handed to the next computation. -/
@[simp] theorem ok_bind (value : α) (next : α → Except ε β) :
    (Except.ok value >>= next) = next value := rfl

/-- A failure ends the sequence. -/
@[simp] theorem error_bind (failure : ε) (next : α → Except ε β) :
    (Except.error failure >>= next) = .error failure := rfl

/-- A sequence succeeds when its first part does and the rest does from there. -/
theorem bind_eq_ok {first : Except ε α} {next : α → Except ε β} {result : β} :
    (first >>= next) = .ok result ↔ ∃ value, first = .ok value ∧ next value = .ok result := by
  cases first with
  | error failure => simp
  | ok value => simp

/-- A check is followed by the rest of the sequence. -/
theorem check_bind_eq_ok {ε : Type u} {β : Type} {check : Except ε Unit}
    {next : Unit → Except ε β} {result : β} :
    (check >>= next) = .ok result ↔ check = .ok () ∧ next () = .ok result := by
  -- There is only one value that a check succeeds with.
  rw [bind_eq_ok]
  exact ⟨fun ⟨_, passed, rest⟩ => ⟨passed, rest⟩, fun ⟨passed, rest⟩ => ⟨(), passed, rest⟩⟩

/-- A loop over a list succeeds when each of its passes does. -/
theorem mapM_eq_ok_iff {items : List α} {pass : α → Except ε β} {results : List β} :
    items.mapM pass = .ok results ↔
      List.Forall₂ (fun item result => pass item = .ok result) items results := by
  induction items generalizing results with
  | nil => cases results <;> simp [pure, Except.pure]
  | cons item items ih =>
    rw [List.mapM_cons, bind_eq_ok, List.forall₂_cons_left_iff]
    constructor
    · rintro ⟨result, passed, continued⟩
      obtain ⟨rest, looped, same⟩ := bind_eq_ok.mp continued
      cases same
      exact ⟨result, rest, passed, ih.mp looped, rfl⟩
    · rintro ⟨result, rest, passed, looped, rfl⟩
      refine ⟨result, passed, bind_eq_ok.mpr ⟨rest, ih.mpr looped, rfl⟩⟩

/-- Results are there exactly when there is one for each item. -/
theorem mapM_eq_some_iff {items : List α} {pass : α → Option β} {results : List β} :
    items.mapM pass = some results ↔
      List.Forall₂ (fun item result => pass item = some result) items results := by
  induction items generalizing results with
  | nil => cases results <;> simp
  | cons item items ih =>
    rw [List.mapM_cons, Option.bind_eq_bind, Option.bind_eq_some_iff, List.forall₂_cons_left_iff]
    constructor
    · rintro ⟨result, passed, continued⟩
      obtain ⟨rest, looped, same⟩ := Option.bind_eq_some_iff.mp continued
      cases same
      exact ⟨result, rest, passed, ih.mp looped, rfl⟩
    · rintro ⟨result, rest, passed, looped, rfl⟩
      exact ⟨result, passed, Option.bind_eq_some_iff.mpr ⟨rest, ih.mpr looped, rfl⟩⟩

/-- Loops with the same passes over the items of a list are the same. -/
theorem mapM_congr {items : List α} {pass other : α → Except ε β}
    (same : ∀ item ∈ items, pass item = other item) : items.mapM pass = items.mapM other := by
  induction items with
  | nil => rfl
  | cons item items ih =>
    rw [List.mapM_cons, List.mapM_cons, same item (by simp),
      ih fun member listed => same member (by simp [listed])]

/-- A successful loop has one result for each pass. -/
theorem length_of_mapM {items : List α} {pass : α → Except ε β} {results : List β}
    (looped : items.mapM pass = .ok results) : results.length = items.length :=
  (mapM_eq_ok_iff.mp looped).length_eq.symm

/-- A pass that has results for the numbers below a bound has them in order. -/
theorem mapM_range_eq_some {count : Nat} {pass : Nat → Option β}
    (passes : ∀ number, number < count → (pass number).isSome = true) :
    ∃ results, (List.range count).mapM pass = some results ∧ results.length = count ∧
      ∀ number, number < count → results[number]? = pass number := by
  induction count with
  | zero => exact ⟨[], rfl, rfl, fun number below => absurd below (Nat.not_lt_zero number)⟩
  | succ count ih =>
    obtain ⟨results, looped, length, found⟩ := ih fun number below => passes number (by omega)
    obtain ⟨last, isLast⟩ := Option.isSome_iff_exists.mp (passes count (by omega))
    refine ⟨results ++ [last], ?_, by simp [length], ?_⟩
    · rw [List.range_succ, List.mapM_append, looped, List.mapM_cons, isLast]
      rfl
    · intro number below
      rcases Nat.lt_or_ge number count with less | last
      · rw [List.getElem?_append_left (by omega), found number less]
      · obtain rfl : number = count := by omega
        rw [isLast, List.getElem?_append_right (by omega), length, Nat.sub_self]
        rfl

/-- The pass over the item at some place has its result at the same place. -/
theorem getElem?_of_mapM {items : List α} {pass : α → Except ε β} {results : List β}
    (looped : items.mapM pass = .ok results) {place : Nat} {item : α}
    (found : items[place]? = some item) :
    ∃ result, results[place]? = some result ∧ pass item = .ok result := by
  -- Both lists are as long as each other, so the place is one of the results too.
  obtain ⟨short, rfl⟩ := List.getElem?_eq_some_iff.mp found
  have shortResults : place < results.length := by
    rw [length_of_mapM looped]
    exact short
  exact ⟨results[place], List.getElem?_eq_getElem shortResults,
    (List.forall₂_iff_get.mp (mapM_eq_ok_iff.mp looped)).2 place short shortResults⟩

/-- A loop succeeds when each of its passes can. -/
theorem mapM_succeeds {items : List α} {pass : α → Except ε β}
    (passes : ∀ item ∈ items, ∃ result, pass item = .ok result) :
    ∃ results, items.mapM pass = .ok results := by
  induction items with
  | nil => exact ⟨[], rfl⟩
  | cons item items ih =>
    obtain ⟨result, passed⟩ := passes item (by simp)
    obtain ⟨rest, looped⟩ := ih fun other listed => passes other (by simp [listed])
    exact ⟨result :: rest, mapM_eq_ok_iff.mpr (.cons passed (mapM_eq_ok_iff.mp looped))⟩

/-- A loop whose passes all succeed collects their results. -/
theorem mapM_eq_ok_map {items : List α} {pass : α → Except ε β} {result : α → β}
    (passes : ∀ item ∈ items, pass item = .ok (result item)) :
    items.mapM pass = .ok (items.map result) := by
  rw [mapM_eq_ok_iff, List.forall₂_map_right_iff]
  exact List.forall₂_same.mpr passes

/-- A loop of checks succeeds when each of them does. -/
theorem forM_eq_ok_iff {ε : Type u} {α : Type v} {items : List α}
    {pass : α → Except ε Unit} :
    items.forM pass = .ok () ↔ ∀ item ∈ items, pass item = .ok () := by
  -- Each pass is a check that the rest of the loop follows.
  induction items with
  | nil => simp [pure, Except.pure]
  | cons item items ih =>
    show (pass item >>= fun _ => items.forM pass) = _ ↔ _
    rw [check_bind_eq_ok, ih, List.forall_mem_cons]

/-- A loop that reads one value in each pass folds over the values it reads. -/
theorem foldlM_eq_ok_iff {γ : Type v} {items : List α} {read : α → Except ε β}
    {combine : γ → β → γ} {start result : γ} :
    items.foldlM (fun state item => do
      let value ← read item
      .ok (combine state value)) start = .ok result ↔
    ∃ values, List.Forall₂ (fun item value => read item = .ok value) items values ∧
      values.foldl combine start = result := by
  induction items generalizing start with
  | nil =>
    constructor
    · intro looped
      cases looped
      exact ⟨[], .nil, rfl⟩
    · intro ⟨values, reads, folded⟩
      cases reads
      rw [← folded]
      rfl
  | cons item items ih =>
    -- The first pass reads the first value, and the others go on from its combination.
    rw [List.foldlM_cons, bind_eq_ok]
    constructor
    · intro ⟨next, passed, looped⟩
      obtain ⟨value, first, same⟩ := bind_eq_ok.mp passed
      cases same
      obtain ⟨values, reads, folded⟩ := ih.mp looped
      exact ⟨value :: values, .cons first reads, folded⟩
    · intro ⟨values, reads, folded⟩
      cases reads with
      | @cons _ value _ values first rest =>
        exact ⟨combine start value, bind_eq_ok.mpr ⟨value, first, rfl⟩,
          ih.mpr ⟨values, rest, folded⟩⟩

section Runs

variable {ε : Type u} {σ : Type v} {ι : Type w} {step : σ → ι → Except ε σ} {items : List ι}

/-- Each step of a run that succeeds does, from a state that the steps before it lead to. -/
theorem foldlM_forall {invariant : σ → Prop}
    (preserved : ∀ item ∈ items, ∀ state next, invariant state → step state item = .ok next →
      invariant next) {state final : σ} (start : invariant state)
    (run : items.foldlM step state = .ok final) :
    ∀ item ∈ items, ∃ before after, invariant before ∧ step before item = .ok after := by
  induction items generalizing state with
  | nil => simp
  | cons first items ih =>
    rw [List.foldlM_cons] at run
    obtain ⟨next, stepped, rest⟩ := bind_eq_ok.mp run
    intro item listed
    rcases List.mem_cons.mp listed with rfl | later
    · exact ⟨state, next, start, stepped⟩
    · -- The invariant holds after the first step.
      exact ih (fun other member => preserved other (by simp [member]))
        (preserved first (by simp) state next start stepped) rest item later

/-- A run succeeds when each step does from a state that the steps before it lead to. -/
theorem foldlM_succeeds {invariant : σ → Prop}
    (proceeds : ∀ item ∈ items, ∀ state, invariant state →
      ∃ next, step state item = .ok next ∧ invariant next) {state : σ} (start : invariant state) :
    ∃ final, items.foldlM step state = .ok final ∧ invariant final := by
  induction items generalizing state with
  | nil => exact ⟨state, rfl, start⟩
  | cons first items ih =>
    obtain ⟨next, stepped, holds⟩ := proceeds first (by simp) state start
    rw [List.foldlM_cons, stepped]
    exact ih (fun other listed => proceeds other (by simp [listed])) holds

/-- What holds at the start and is kept by each step holds in the end. -/
theorem foldlM_invariant {invariant : σ → Prop}
    (preserved : ∀ item ∈ items, ∀ state next, invariant state → step state item = .ok next →
      invariant next) {state final : σ} (start : invariant state)
    (run : items.foldlM step state = .ok final) : invariant final := by
  induction items generalizing state with
  | nil =>
    cases run
    exact start
  | cons first items ih =>
    rw [List.foldlM_cons] at run
    obtain ⟨next, stepped, rest⟩ := bind_eq_ok.mp run
    exact ih (fun other listed => preserved other (by simp [listed]))
      (preserved first (by simp) state next start stepped) rest

/-- What one step of a run establishes holds in the end, when the others keep it. -/
theorem foldlM_establishes {invariant established : σ → Prop} {target : ι}
    (preserved : ∀ item ∈ items, ∀ state next, invariant state → step state item = .ok next →
      invariant next)
    (keeps : ∀ item ∈ items, ∀ state next, invariant state → established state →
      step state item = .ok next → established next)
    (establishes : ∀ state next, invariant state → step state target = .ok next →
      established next)
    {state final : σ} (start : invariant state) (run : items.foldlM step state = .ok final)
    (listed : target ∈ items) : established final := by
  induction items generalizing state with
  | nil => cases listed
  | cons first items ih =>
    rw [List.foldlM_cons] at run
    obtain ⟨next, stepped, rest⟩ := bind_eq_ok.mp run
    have holds := preserved first (by simp) state next start stepped
    have later (item : ι) (member : item ∈ items) := preserved item (by simp [member])
    have kept (item : ι) (member : item ∈ items) := keeps item (by simp [member])
    rcases List.mem_cons.mp listed with rfl | after
    · -- The steps after the target keep what it establishes.
      have both := @foldlM_invariant ε σ ι step items (fun s => invariant s ∧ established s)
        (fun item member before next held stepped =>
          ⟨later item member before next held.1 stepped,
            kept item member before next held.1 held.2 stepped⟩)
        next final ⟨holds, establishes state next start stepped⟩ rest
      exact both.2
    · exact ih later kept holds rest after

/-- Runs of the same steps are the same. -/
theorem foldlM_congr {other : σ → ι → Except ε σ}
    (same : ∀ item ∈ items, ∀ state, step state item = other state item) {state : σ} :
    items.foldlM step state = items.foldlM other state := by
  induction items generalizing state with
  | nil => rfl
  | cons item items ih =>
    rw [List.forall_mem_cons] at same
    rw [List.foldlM_cons, List.foldlM_cons, same.1]
    exact congrArg _ (funext fun next => ih same.2)

/-- A run stays in a state that no step leaves. -/
theorem foldlM_fixed {state : σ} (steps : ∀ item ∈ items, step state item = .ok state) :
    items.foldlM step state = .ok state := by
  induction items with
  | nil => rfl
  | cons item items ih =>
    rw [List.foldlM_cons, steps item (by simp), ok_bind]
    exact ih fun other listed => steps other (by simp [listed])

/-- A run of steps that all lead to one state ends there. -/
theorem foldlM_constant {state result : σ}
    (steps : ∀ item ∈ items, ∀ before, step before item = .ok result) (some : items ≠ []) :
    items.foldlM step state = .ok result := by
  cases items with
  | nil => exact absurd rfl some
  | cons item items =>
    -- The first step leads there, and the others stay there.
    rw [List.foldlM_cons, steps item (by simp), ok_bind]
    exact foldlM_fixed fun other listed => steps other (by simp [listed]) result

/-- A run that marks its state at one of the items tells whether the item is among them. -/
theorem foldlM_marks [DecidableEq ι] {plain marked : σ} {target : ι}
    (keeps : ∀ item ∈ items, step marked item = .ok marked)
    (marks : ∀ item ∈ items, step plain item = .ok (if item = target then marked else plain)) :
    items.foldlM step plain = .ok (if target ∈ items then marked else plain) := by
  induction items with
  | nil =>
    rw [if_neg List.not_mem_nil]
    rfl
  | cons item items ih =>
    have rest := ih (fun other listed => keeps other (by simp [listed]))
      fun other listed => marks other (by simp [listed])
    rw [List.foldlM_cons, marks item (by simp), ok_bind]
    by_cases here : item = target
    · -- Once it is marked, the state stays so.
      rw [if_pos here, if_pos (by simp [here])]
      exact foldlM_fixed fun other listed => keeps other (by simp [listed])
    · have same : target ∈ item :: items ↔ target ∈ items := by simp [Ne.symm here]
      rw [if_neg here, rest]
      simp only [same]

end Runs

end Fallible
