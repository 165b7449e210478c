import Mathlib.Data.List.TakeDrop
import Mathlib.Data.List.TakeWhile

/-!
# Texts cut at a separator

`splitOn` cuts a list at every occurrence of a separator, `cutAt` at the first one. Where the pieces do not hold
the separator themselves, both undo the writing of the pieces one after another.
-/

namespace List
variable {α β : Type*} {a : α} {l k v : List α}

/-! ### The first separator -/

section First
variable [DecidableEq α]

theorem takeWhile_ne_of_not_mem (h : a ∉ l) : l.takeWhile (· ≠ a) = l := by
  refine takeWhile_eq_self_iff.2 fun x hx => ?_
  rw [decide_eq_true_eq]
  rintro rfl
  exact h hx

theorem takeWhile_ne_append_cons (h : a ∉ k) : (k ++ a :: v).takeWhile (· ≠ a) = k := by
  rw [takeWhile_append_of_pos (takeWhile_eq_self_iff.1 (takeWhile_ne_of_not_mem h)), takeWhile_cons_of_neg (by simp),
    append_nil]

theorem findIdx?_eq_of_not_mem (h : a ∉ l) : l.findIdx? (· = a) = none := by
  refine findIdx?_eq_none_iff.2 fun x hx => ?_
  rw [decide_eq_false_iff_not]
  rintro rfl
  exact h hx

theorem findIdx?_eq_append_cons (h : a ∉ k) : (k ++ a :: v).findIdx? (· = a) = some k.length := by
  rw [findIdx?_append, findIdx?_eq_of_not_mem h, Option.none_or, findIdx?_cons, if_pos (decide_eq_true rfl)]
  simp

end First

/-! ### The pieces -/

variable [BEq α] [LawfulBEq α]

theorem not_mem_of_mem_splitOn {p : List α} (h : p ∈ l.splitOn a) : a ∉ p := by
  induction l generalizing p with
  | nil =>
    rw [splitOn_nil, mem_singleton] at h
    rw [h]
    exact not_mem_nil
  | cons x l ih =>
    obtain ⟨q, qs, hq⟩ := exists_cons_of_ne_nil (splitOn_ne_nil a l)
    rw [splitOn_cons_eq_if_modifyHead, hq] at h
    rw [hq] at ih
    split at h
    · rcases mem_cons.1 h with rfl | h
      · exact not_mem_nil
      · exact ih h
    · rename_i hx
      rw [modifyHead_cons] at h
      rcases mem_cons.1 h with rfl | h
      · intro ha
        rcases mem_cons.1 ha with rfl | ha
        · exact hx (beq_self_eq_true a)
        · exact ih mem_cons_self ha
      · exact ih (mem_cons_of_mem q h)

/-- Pieces without the separator come back, with an empty one behind the last separator. -/
theorem splitOn_flatMap {f : β → List α} {xs : List β} (h : ∀ x ∈ xs, a ∉ f x) :
    (xs.flatMap fun x => f x ++ [a]).splitOn a = xs.map f ++ [[]] := by
  induction xs with
  | nil => exact splitOn_nil a
  | cons x xs ih =>
    rw [flatMap_cons, append_assoc, singleton_append, splitOn_append_cons_self_of_not_mem (h x mem_cons_self),
      ih fun y hy => h y (mem_cons_of_mem x hy), map_cons, cons_append]

/-- Without the last piece if there is nothing in it. -/
def dropEmptyLast : List (List α) → List (List α)
  | [] => []
  | [p] => if p.isEmpty then [] else [p]
  | p :: q :: ps => p :: dropEmptyLast (q :: ps)

/-- The pieces one after another as a stream gives them, which ends with the last separator. -/
def getlines (a : α) (l : List α) : List (List α) := dropEmptyLast (l.splitOn a)

theorem getlines_append_cons (h : a ∉ k) : (k ++ a :: l).getlines a = k :: l.getlines a := by
  obtain ⟨q, qs, hq⟩ := exists_cons_of_ne_nil (splitOn_ne_nil a l)
  rw [getlines, splitOn_append_cons_self_of_not_mem h, hq, dropEmptyLast, getlines, hq]

theorem getlines_of_not_mem (h : a ∉ k) : k.getlines a = if k.isEmpty then [] else [k] := by
  rw [getlines, splitOn_eq_singleton h, dropEmptyLast]

/-- What stands before the first `a` and what stands behind it. -/
def cutAt (a : α) (l : List α) : Option (List α × List α) :=
  match l.span (· != a) with
  | (_, []) => none
  | (k, _ :: v) => some (k, v)

theorem cutAt_append_cons (h : a ∉ k) : (k ++ a :: v).cutAt a = some (k, v) := by
  have hk : ∀ x ∈ k, (x != a) = true := fun x hx => bne_iff_ne.2 fun he => h (he ▸ hx)
  have htake : (k ++ a :: v).takeWhile (· != a) = k := by
    rw [takeWhile_append_of_pos hk, takeWhile_cons_of_neg (by simp), append_nil]
  have hdrop : (k ++ a :: v).dropWhile (· != a) = a :: v := by
    rw [dropWhile_append_of_pos hk, dropWhile_cons_of_neg (by simp)]
  rw [cutAt, span_eq_takeWhile_dropWhile, htake, hdrop]

theorem cutAt_eq_some_iff : l.cutAt a = some (k, v) ↔ l = k ++ a :: v ∧ a ∉ k := by
  constructor
  · intro h
    rw [cutAt, span_eq_takeWhile_dropWhile] at h
    cases hd : l.dropWhile (· != a) with
    | nil => simp [hd] at h
    | cons b w =>
      simp only [hd, Option.some.injEq, Prod.mk.injEq] at h
      obtain ⟨rfl, rfl⟩ := h
      have hb : b = a := by
        have := head_dropWhile_not (· != a) (by rw [hd]; simp : l.dropWhile (· != a) ≠ [])
        simpa [hd] using this
      subst hb
      refine ⟨?_, fun ha => ?_⟩
      · rw [← hd]
        exact takeWhile_append_dropWhile.symm
      · simpa using mem_takeWhile_imp ha
  · rintro ⟨rfl, h⟩
    exact cutAt_append_cons h

end List
