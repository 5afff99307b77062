import Mathlib.Order.Bounds.Defs
import XmlDiagnostics.Suggestion

/-! # What the edit distance is

The edit distance of two texts is the least number of edits that lead from one to the other, where an edit inserts
or deletes a character anywhere or puts another one in its place (`isLeast_distance`).

Between the table of `distance` and the edits stands the recursion `least`. The table goes forward through both texts, and
the recursion takes their first characters off, so a row of the table has the values of `least` for the texts read
backwards (`foldl_nextRow`). That no edits are fewer than `least` says follows from one edit (`Edit.least_le`). -/

namespace XmlDiagnostics

namespace EditDistance

/-- One character is inserted, or deleted, or another one is put in its place. -/
inductive Edit : List Char → List Char → Prop
  | insert (before : List Char) (x : Char) (after : List Char) : Edit (before ++ after) (before ++ x :: after)
  | delete (before : List Char) (x : Char) (after : List Char) : Edit (before ++ x :: after) (before ++ after)
  | substitute (before : List Char) (x y : Char) (after : List Char) : Edit (before ++ x :: after) (before ++ y :: after)

/-- As many edits, one after the other, lead from one text to another. -/
inductive Edits : Nat → List Char → List Char → Prop
  | done {as} : Edits 0 as as
  | edit {n as bs cs} : Edit as bs → Edits n bs cs → Edits (n + 1) as cs

/-- The least number of edits from one text to another, by what happens to their first characters. -/
def least : List Char → List Char → Nat
  | [], bs => bs.length
  | a :: as, [] => (a :: as).length
  | a :: as, b :: bs =>
    min (min (least as (b :: bs) + 1) (least (a :: as) bs + 1)) (least as bs + if a = b then 0 else 1)
termination_by as bs => as.length + bs.length

variable {n : Nat} {as bs cs : List Char}

/-! ### Edits -/

theorem Edit.cons (x : Char) (h : Edit as bs) : Edit (x :: as) (x :: bs) := by
  cases h with
  | insert before y after => exact .insert (x :: before) y after
  | delete before y after => exact .delete (x :: before) y after
  | substitute before y z after => exact .substitute (x :: before) y z after

theorem Edit.reverse (h : Edit as bs) : Edit as.reverse bs.reverse := by
  cases h with
  | insert before x after =>
      simp only [List.reverse_append, List.reverse_cons, List.append_assoc, List.singleton_append]
      exact .insert _ x _
  | delete before x after =>
      simp only [List.reverse_append, List.reverse_cons, List.append_assoc, List.singleton_append]
      exact .delete _ x _
  | substitute before x y after =>
      simp only [List.reverse_append, List.reverse_cons, List.append_assoc, List.singleton_append]
      exact .substitute _ x y _

theorem Edits.cons (x : Char) (h : Edits n as bs) : Edits n (x :: as) (x :: bs) := by
  induction h with
  | done => exact .done
  | edit hedit _ ih => exact .edit (hedit.cons x) ih

theorem Edits.reverse (h : Edits n as bs) : Edits n as.reverse bs.reverse := by
  induction h with
  | done => exact .done
  | edit hedit _ ih => exact .edit hedit.reverse ih

theorem edits_reverse_iff : Edits n as.reverse bs.reverse ↔ Edits n as bs := by
  constructor
  · intro h
    simpa using h.reverse
  · exact Edits.reverse

theorem Edits.min {m : Nat} (h : Edits n as bs) (h' : Edits m as bs) : Edits (min n m) as bs := by
  rcases Nat.le_total n m with hle | hle
  · rwa [Nat.min_eq_left hle]
  · rwa [Nat.min_eq_right hle]

/-! ### As many edits as the recursion says -/

theorem least_nil_left (bs : List Char) : least [] bs = bs.length := by
  rw [least]

theorem least_nil_right (as : List Char) : least as [] = as.length := by
  cases as with
  | nil => rw [least]
  | cons a as => rw [least]

theorem least_cons_cons (a b : Char) (as bs : List Char) : least (a :: as) (b :: bs) =
    min (min (least as (b :: bs) + 1) (least (a :: as) bs + 1)) (least as bs + if a = b then 0 else 1) := by
  rw [least]

theorem least_self (as : List Char) : least as as = 0 := by
  induction as with
  | nil => rw [least_nil_left, List.length_nil]
  | cons a as ih =>
      rw [least_cons_cons, ih, if_pos rfl]
      omega

theorem edits_from_nil : ∀ bs : List Char, Edits bs.length [] bs
  | [] => .done
  | b :: bs => .edit (.insert [] b []) ((edits_from_nil bs).cons b)

theorem edits_to_nil : ∀ as : List Char, Edits as.length as []
  | [] => .done
  | a :: as => .edit (.delete [] a as) (edits_to_nil as)

/-- As many edits as `least` says lead from one text to the other. -/
theorem edits_least (as bs : List Char) : Edits (least as bs) as bs := by
  fun_induction least as bs with
  | case1 bs => exact edits_from_nil bs
  | case2 a as => exact edits_to_nil (a :: as)
  | case3 a as b bs ihDelete ihInsert ihBoth =>
      have hdelete : Edits (least as (b :: bs) + 1) (a :: as) (b :: bs) := .edit (.delete [] a as) ihDelete
      have hinsert : Edits (least (a :: as) bs + 1) (a :: as) (b :: bs) := .edit (.insert [] b (a :: as)) (ihInsert.cons b)
      have hboth : Edits (least as bs + if a = b then 0 else 1) (a :: as) (b :: bs) := by
        split
        · rename_i hsame
          rw [hsame]
          exact ihBoth.cons b
        · exact .edit (.substitute [] a b as) (ihBoth.cons b)
      exact (hdelete.min hinsert).min hboth

/-! ### No fewer edits -/

/-- What stands in front of a text takes no more than one edit. -/
theorem least_cons_le (a : Char) (as bs : List Char) :
    least (a :: as) bs ≤ least as bs + 1 ∧ least bs (a :: as) ≤ least bs as + 1 := by
  constructor
  · cases bs with
    | nil => exact Nat.le_of_eq (by rw [least_nil_right, least_nil_right, List.length_cons])
    | cons b bs =>
        rw [least_cons_cons]
        omega
  · cases bs with
    | nil => exact Nat.le_of_eq (by rw [least_nil_left, least_nil_left, List.length_cons])
    | cons b bs =>
        rw [least_cons_cons]
        omega

theorem least_le_cons (a : Char) (as bs : List Char) : least as bs ≤ least (a :: as) bs + 1 := by
  induction bs with
  | nil =>
      rw [least_nil_right, least_nil_right, List.length_cons]
      omega
  | cons b bs ih =>
      have hinsert := (least_cons_le b bs as).2
      rw [least_cons_cons]
      omega

theorem least_substitute_le (a b : Char) (as cs : List Char) : least (a :: as) cs ≤ least (b :: as) cs + 1 := by
  induction cs with
  | nil =>
      rw [least_nil_right, least_nil_right, List.length_cons, List.length_cons]
      omega
  | cons c cs ih =>
      rw [least_cons_cons, least_cons_cons]
      split
      · omega
      · split <;> omega

/-- Texts that are one edit apart stay so behind one more character. -/
theorem least_cons_congr (h : ∀ cs, least as cs ≤ least bs cs + 1) (x : Char) (cs : List Char) :
    least (x :: as) cs ≤ least (x :: bs) cs + 1 := by
  induction cs with
  | nil =>
      have hlength := h []
      rw [least_nil_right, least_nil_right] at hlength
      rw [least_nil_right, least_nil_right, List.length_cons, List.length_cons]
      omega
  | cons c cs ih =>
      have hdelete := h (c :: cs)
      have hboth := h cs
      rw [least_cons_cons, least_cons_cons]
      omega

/-- **One edit** changes the recursion by one at most. -/
theorem Edit.least_le (h : Edit as bs) (cs : List Char) : least as cs ≤ least bs cs + 1 := by
  have hbehind : ∀ {as bs : List Char} (before : List Char), (∀ cs, least as cs ≤ least bs cs + 1) →
      ∀ cs, least (before ++ as) cs ≤ least (before ++ bs) cs + 1 := by
    intro as bs before hnear
    induction before with
    | nil => exact hnear
    | cons x before ih => exact least_cons_congr ih x
  cases h with
  | insert before x after => exact hbehind before (least_le_cons x after) cs
  | delete before x after => exact hbehind before (fun cs => (least_cons_le x after cs).1) cs
  | substitute before x y after => exact hbehind before (least_substitute_le x y after) cs

theorem Edits.least_le (h : Edits n as bs) (cs : List Char) : least as cs ≤ least bs cs + n := by
  induction h with
  | done => exact Nat.le_refl _
  | edit hedit _ ih =>
      have := hedit.least_le cs
      omega

theorem isLeast_least (as bs : List Char) : IsLeast {n | Edits n as bs} (least as bs) := by
  refine ⟨edits_least as bs, fun n hedits => ?_⟩
  have hle := Edits.least_le hedits bs
  rwa [least_self, Nat.zero_add] at hle

/-! ### The table -/

/-- The values for the beginnings of a text, each behind the same text and read backwards. -/
def along (value : List Char → Nat) (before : List Char) : List Char → List Nat
  | [] => [value before]
  | b :: bs => value before :: along value (b :: before) bs

theorem along_eq_cons (value : List Char → Nat) (before bs : List Char) :
    along value before bs = value before :: (along value before bs).tail := by
  cases bs <;> rfl

theorem getLast?_along (value : List Char → Nat) (before bs : List Char) :
    (along value before bs).getLast? = some (value (bs.reverse ++ before)) := by
  induction bs generalizing before with
  | nil => rfl
  | cons b bs ih =>
      rw [along, List.getLast?_cons, ih, List.reverse_cons, List.append_assoc, List.singleton_append]
      rfl

theorem firstRow_eq (bs : List Char) : firstRow bs = along (least []) [] bs := by
  have hrange : ∀ before : List Char, along (least []) before bs = List.range' before.length (bs.length + 1) := by
    induction bs with
    | nil =>
        intro before
        rw [along, least_nil_left]
        rfl
    | cons b bs ih =>
        intro before
        rw [along, least_nil_left, ih (b :: before), List.length_cons]
        rfl
  rw [firstRow, List.range_eq_range', hrange]
  rfl

/-- The entries behind the first one, if this and the row above are right. -/
theorem rowRest_eq (a : Char) (as before bs : List Char) :
    rowRest a (least (a :: as) before) bs (along (least as) before bs) = (along (least (a :: as)) before bs).tail := by
  induction bs generalizing before with
  | nil => rfl
  | cons b bs ih =>
      rw [along, along_eq_cons, rowRest, ← along_eq_cons, ← least_cons_cons, ih, along, List.tail_cons, ← along_eq_cons]

theorem nextRow_eq (a : Char) (as bs : List Char) :
    nextRow bs (along (least as) [] bs) a = along (least (a :: as)) [] bs := by
  have hfirst : least (a :: as) [] = least as [] + 1 := by
    rw [least_nil_right, least_nil_right, List.length_cons]
  rw [along_eq_cons (least as), nextRow, ← along_eq_cons, ← hfirst, rowRest_eq, ← along_eq_cons]

/-- **The rows of the table** have the values of the recursion for what has been read of the first text. -/
theorem foldl_nextRow (as read bs : List Char) :
    as.foldl (nextRow bs) (along (least read) [] bs) = along (least (as.reverse ++ read)) [] bs := by
  induction as generalizing read with
  | nil => rfl
  | cons a as ih =>
      rw [List.foldl_cons, nextRow_eq, ih, List.reverse_cons, List.append_assoc, List.singleton_append]

theorem distance_eq (as bs : List Char) : distance as bs = least as.reverse bs.reverse := by
  rw [distance, firstRow_eq, foldl_nextRow, getLast?_along, Option.getD_some, List.append_nil, List.append_nil]

/-- **The edit distance** is the least number of edits from one text to the other. -/
theorem isLeast_distance (as bs : List Char) : IsLeast {n | Edits n as bs} (distance as bs) := by
  have hleast := isLeast_least as.reverse bs.reverse
  simp only [edits_reverse_iff] at hleast
  rwa [distance_eq]

end EditDistance

/-- **The edit distance of two texts** is the number of edits of a shortest way from one to the other. -/
theorem isLeast_levenshtein (a b : String) : IsLeast {n | EditDistance.Edits n a.toList b.toList} (levenshtein a b) :=
  EditDistance.isLeast_distance a.toList b.toList

end XmlDiagnostics
