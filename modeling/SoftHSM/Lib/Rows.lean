import Mathlib.Data.List.Basic

/-!
A table of a database with a key and a value in each row, as the list of its rows in the order in
which they were inserted. A key may come in several rows; a query is answered with the first.
-/

namespace SoftHSM.Rows

variable {K V : Type*} [DecidableEq K]

/-- `select value where key = k`, its first row. -/
def select (k : K) (rows : List (K × V)) : Option V := (rows.find? fun r => r.1 = k).map (·.2)

/-- `insert into`. -/
def insertInto (k : K) (v : V) (rows : List (K × V)) : List (K × V) := rows ++ [(k, v)]

/-- `update set value = v where key = k`. -/
def update (k : K) (v : V) (rows : List (K × V)) : List (K × V) :=
  rows.map fun r => if r.1 = k then (k, v) else r

/-- `delete where key = k`. -/
def deleteFrom (k : K) (rows : List (K × V)) : List (K × V) := rows.filter fun r => r.1 ≠ k

variable {k k' : K} {v : V} {rows : List (K × V)}

@[simp] lemma select_nil : select k ([] : List (K × V)) = none := rfl

lemma select_cons (r : K × V) : select k (r :: rows) =
    if r.1 = k then some r.2 else select k rows := by
  rw [select, List.find?_cons]
  by_cases h : r.1 = k
  · simp [h]
  · simp [h, select]

lemma select_append (rows' : List (K × V)) : select k (rows ++ rows') =
    (select k rows).or (select k rows') := by
  induction rows with
  | nil => simp
  | cons r rows ih =>
    rw [List.cons_append, select_cons, select_cons, ih]
    split <;> simp

/-- **A row that is inserted** counts where there was none. -/
theorem select_insertInto : select k' (insertInto k v rows) =
    if k' = k then some ((select k rows).getD v) else select k' rows := by
  rw [insertInto, select_append, select_cons, select_nil]
  by_cases h : k' = k
  · subst h
    cases select k' rows <;> simp
  · simp [h, Ne.symm h]

/-- **An update** changes the rows that are there. -/
theorem select_update : select k' (update k v rows) =
    if k' = k then (select k rows).map fun _ => v else select k' rows := by
  induction rows with
  | nil => simp [update]
  | cons r rows ih =>
    rw [update, List.map_cons, ← update, select_cons, ih, select_cons, select_cons]
    by_cases hr : r.1 = k
    · by_cases h : k' = k
      · simp [hr, h]
      · simp [hr, h, Ne.symm h]
    · by_cases h : k' = k
      · simp [hr, h]
      · simp [hr, h]

/-- **A key that is deleted** is in no row. -/
theorem select_deleteFrom : select k' (deleteFrom k rows) =
    if k' = k then none else select k' rows := by
  induction rows with
  | nil => simp [deleteFrom]
  | cons r rows ih =>
    unfold deleteFrom at ih ⊢
    by_cases hr : r.1 = k
    · rw [List.filter_cons_of_neg (by simp [hr]), ih, select_cons]
      by_cases h : k' = k
      · simp [h]
      · simp [h, hr, Ne.symm h]
    · rw [List.filter_cons_of_pos (by simp [hr]), select_cons, select_cons, ih]
      by_cases h : k' = k
      · simp [h, hr]
      · simp [h]

end SoftHSM.Rows
