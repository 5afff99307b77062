import Mathlib.Data.List.Chain
import XmlDiagnostics.Proofs.Tree.Paths

/-! # Folding a tree

To fold a tree is to fold the list of its values in pre-order and to end at the first step that stops
(`foldNodes_eq_foldUntil`). What a fold calls its step on is seen by a step that takes notes (`noting`): these are the
values from the first on up to the one where the step stops, each with the accumulator that the call before has
handed on (`reduce_early_exit`). A step may have a state of its own, which is kept beside the accumulator
(`keeping`). -/

namespace XmlDiagnostics.Tree

variable {α β σ : Type}

/-- Fold a list from its first value on until a step stops. -/
def foldUntil (f : β → α → FoldStep β) (acc : β) : List α → FoldStep β
  | [] => .next acc
  | value :: values =>
    match f acc value with
    | .stop acc => .stop acc
    | .next acc => foldUntil f acc values

/-- A step with a state of its own, which every call reads and changes. -/
def keeping (f : σ → β → α → σ × FoldStep β) : σ × β → α → FoldStep (σ × β)
  | (state, acc), value =>
    match f state acc value with
    | (state, .next acc) => .next (state, acc)
    | (state, .stop acc) => .stop (state, acc)

/-- A step that notes each of its calls, with the accumulator that it got. -/
def noting (f : β → α → FoldStep β) : List (β × α) × β → α → FoldStep (List (β × α) × β) :=
  keeping fun calls acc value => (calls ++ [(acc, value)], f acc value)

/-- The calls of a step, each an accumulator with a value, that fold a list from an accumulator to a result and end
early. -/
structure EarlyExit (f : β → α → FoldStep β) (acc : β) (values : List α) (calls : List (β × α)) (result : β) :
    Prop where
  /-- the calls are on the values from the first on -/
  values_prefix : calls.map Prod.snd <+: values
  /-- the first call gets the initial accumulator -/
  starts : ∀ call ∈ calls.head?, call.1 = acc
  /-- every call before another goes on, and the next one gets its accumulator -/
  hands_on : calls.IsChain fun call next => f call.1 call.2 = .next next.1
  /-- the last call stops with the result, or all values have been used and the result is what the last call
  hands on -/
  ends : (∃ call ∈ calls.getLast?, f call.1 call.2 = .stop result) ∨
    (calls.map Prod.snd = values ∧ (calls = [] → result = acc) ∧
      ∀ call ∈ calls.getLast?, f call.1 call.2 = .next result)

/-! ### Folds of a tree and of its values -/

theorem foldUntil_append (f : β → α → FoldStep β) (acc : β) (values values' : List α) :
    foldUntil f acc (values ++ values') =
      match foldUntil f acc values with
      | .stop acc => .stop acc
      | .next acc => foldUntil f acc values' := by
  induction values generalizing acc with
  | nil => rfl
  | cons value values ih =>
      rw [List.cons_append, foldUntil, foldUntil]
      cases f acc value with
      | next acc => exact ih acc
      | stop acc => rfl

theorem foldNodesIn_eq_foldUntil (f : β → α → FoldStep β) (acc : β) (trees : List (Tree α)) :
    foldNodesIn f acc trees = foldUntil f acc (valuesIn trees) := by
  induction trees using forest_induction generalizing acc with
  | nil => rfl
  | cons value children trees ihChildren ih =>
      have hfirst : (node value children).foldNodes f acc = foldUntil f acc (node value children).values := by
        cases value with
        | none => exact ihChildren acc
        | some value =>
            rw [foldNodes, values, Option.toList_some, List.singleton_append, foldUntil]
            cases f acc value with
            | next acc => exact ihChildren acc
            | stop acc => rfl
      rw [foldNodesIn, valuesIn, foldUntil_append, hfirst]
      cases foldUntil f acc (node value children).values with
      | next acc => exact ih acc
      | stop acc => rfl

/-- The fold of a tree is that of its values in pre-order. -/
theorem foldNodes_eq_foldUntil (f : β → α → FoldStep β) (acc : β) (tree : Tree α) :
    tree.foldNodes f acc = foldUntil f acc tree.values := by
  have h := foldNodesIn_eq_foldUntil f acc [tree]
  rw [valuesIn, valuesIn, List.append_nil, foldNodesIn] at h
  rw [← h]
  cases tree.foldNodes f acc <;> rfl

theorem reduce_eq (f : β → α → FoldStep β) (acc : β) (tree : Tree α) :
    tree.reduce f acc = (foldUntil f acc tree.values).acc := by
  rw [reduce, foldNodes_eq_foldUntil]

/-! ### The calls of a step -/

theorem earlyExit_nil (f : β → α → FoldStep β) (acc : β) : EarlyExit f acc [] [] acc where
  values_prefix := List.prefix_rfl
  starts := by simp
  hands_on := .nil
  ends := by simp

/-- The step stops at the first value. -/
theorem earlyExit_stop {f : β → α → FoldStep β} {acc result : β} {value : α} (h : f acc value = .stop result)
    (values : List α) : EarlyExit f acc (value :: values) [(acc, value)] result where
  values_prefix := by simp
  starts := by simp
  hands_on := .singleton _
  ends := .inl ⟨(acc, value), by simp, h⟩

/-- The step goes on after the first value. -/
theorem EarlyExit.cons {f : β → α → FoldStep β} {acc acc' result : β} {value : α} {values : List α}
    {calls : List (β × α)} (h : f acc value = .next acc') (hcalls : EarlyExit f acc' values calls result) :
    EarlyExit f acc (value :: values) ((acc, value) :: calls) result where
  values_prefix := by simpa using hcalls.values_prefix
  starts := by simp
  hands_on := by
    refine hcalls.hands_on.cons fun call hcall => ?_
    rw [hcalls.starts call hcall]
    exact h
  ends := by
    rcases hcalls.ends with ⟨call, hlast, hstop⟩ | ⟨hall, hnone, hlast⟩
    · exact .inl ⟨call, by simp_all [List.getLast?_cons], hstop⟩
    · refine .inr ⟨by simp [hall], by simp, fun call hcall => ?_⟩
      cases calls with
      | nil =>
          obtain rfl : (acc, value) = call := by simpa using hcall
          rw [hnone rfl]
          exact h
      | cons first calls => exact hlast call (by simpa [List.getLast?_cons] using hcall)

/-- A step that takes notes makes the decisions of the step itself. -/
theorem foldUntil_noting (f : β → α → FoldStep β) (before : List (β × α)) (acc : β) (values : List α) :
    ∃ calls, (foldUntil (noting f) (before, acc) values).acc = (before ++ calls, (foldUntil f acc values).acc) ∧
      EarlyExit f acc values calls (foldUntil f acc values).acc := by
  induction values generalizing before acc with
  | nil => exact ⟨[], by simp [foldUntil, FoldStep.acc], earlyExit_nil f acc⟩
  | cons value values ih =>
      rw [foldUntil, foldUntil]
      cases h : f acc value with
      | stop result =>
          exact ⟨[(acc, value)], by simp [noting, keeping, h, FoldStep.acc], earlyExit_stop h values⟩
      | next acc' =>
          obtain ⟨calls, hnoted, hcalls⟩ := ih (before ++ [(acc, value)]) acc'
          refine ⟨(acc, value) :: calls, ?_, hcalls.cons h⟩
          simpa [noting, keeping, h] using hnoted

/-! ### Folds for one value and for all of them -/

theorem foldUntil_find (p : α → Bool) (values : List α) :
    (foldUntil (fun _ value => if p value then .stop (some value) else .next none) none values).acc =
      values.find? p := by
  induction values with
  | nil => rfl
  | cons value values ih =>
      rw [foldUntil, List.find?_cons]
      by_cases h : p value
      · simp [h, FoldStep.acc]
      · simpa [h] using ih

theorem foldUntil_count (count : Nat) (values : List α) :
    foldUntil (fun count _ => .next (count + 1)) count values = .next (count + values.length) := by
  induction values generalizing count with
  | nil => rfl
  | cons value values ih =>
      rw [foldUntil]
      show foldUntil _ (count + 1) values = _
      rw [ih, List.length_cons, Nat.add_right_comm, Nat.add_assoc]

/-- **A fold ends early**: its step, whatever state it keeps, is called on the values in pre-order up to the first at
which it stops. So the first value that satisfies a condition is found, and all values are counted. -/
theorem reduce_early_exit (tree : Tree α) :
    (∀ (σ β : Type) (f : σ → β → α → σ × FoldStep β) (state : σ) (acc : β), ∃ calls,
      tree.reduce (noting (keeping f)) ([], state, acc) = (calls, tree.reduce (keeping f) (state, acc)) ∧
        EarlyExit (keeping f) (state, acc) tree.values calls (tree.reduce (keeping f) (state, acc))) ∧
      (∀ p, tree.find? p = tree.values.find? p) ∧ tree.size = tree.values.length := by
  refine ⟨fun σ β f state acc => ?_, fun p => ?_, ?_⟩
  · obtain ⟨calls, hnoted, hcalls⟩ := foldUntil_noting (keeping f) [] (state, acc) tree.values
    refine ⟨calls, ?_, ?_⟩
    · rw [reduce_eq, reduce_eq]
      exact hnoted
    · rw [reduce_eq]
      exact hcalls
  · rw [find?, reduce_eq]
    exact foldUntil_find p tree.values
  · rw [size, reduce_eq, foldUntil_count, FoldStep.acc, Nat.zero_add]

end XmlDiagnostics.Tree
