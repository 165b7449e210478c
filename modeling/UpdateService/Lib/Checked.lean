import Mathlib.Algebra.Order.BigOperators.Group.List
import Mathlib.Algebra.Order.Monoid.Defs
import Mathlib.Order.Defs.LinearOrder

/-!
# Arithmetic in a range

`fit lo hi x` is `x` where a machine integer between `lo` and `hi` has room for it. `sumFit` adds up a list in such
integers: every summand is computed, and every partial sum has to fit. Where no summand is negative the last sum
decides.
-/

namespace Checked
variable {α β : Type*} [LinearOrder α] {lo hi x y : α}

def fit (lo hi x : α) : Option α := if lo ≤ x ∧ x ≤ hi then some x else none

theorem fit_eq_some_iff : fit lo hi x = some y ↔ (lo ≤ x ∧ x ≤ hi) ∧ x = y := by
  unfold fit
  split <;> simp [*]

theorem fit_eq_some (hlo : lo ≤ x) (hhi : x ≤ hi) : fit lo hi x = some x := if_pos ⟨hlo, hhi⟩

/-- `g` is what `f` computes without a range. -/
theorem mapM_eq_some_iff {γ : Type*} {f : β → Option γ} {g : β → γ} {l : List β} {t : List γ}
    (hf : ∀ b ∈ l, ∀ a, f b = some a → a = g b) :
    l.mapM f = some t ↔ (∀ b ∈ l, f b = some (g b)) ∧ l.map g = t := by
  induction l generalizing t with
  | nil => simp
  | cons b l ih =>
    have ih' := fun t => @ih t fun c hc => hf c (List.mem_cons_of_mem b hc)
    rw [List.mapM_cons, List.forall_mem_cons, List.map_cons]
    cases hb : f b with
    | none => simp
    | some a =>
      obtain rfl : a = g b := hf b List.mem_cons_self a hb
      simp [Option.bind_eq_some_iff, ih', and_assoc]

variable [AddCommMonoid α] {f : β → Option α} {g : β → α} {l : List β} {s t : α}

def sumFit (lo hi : α) (f : β → Option α) (l : List β) (s : α) : Option α :=
  l.foldlM (fun s b => (f b).bind fun a => fit lo hi (s + a)) s

/-- `g` is what `f` computes without a range. -/
theorem sumFit_eq_some_iff [IsOrderedAddMonoid α] (hlo : lo ≤ 0) (hf : ∀ b ∈ l, ∀ a, f b = some a → a = g b)
    (hg : ∀ b ∈ l, 0 ≤ g b) (hs : 0 ≤ s) (hhi : s ≤ hi) :
    sumFit lo hi f l s = some t ↔
      ((∀ b ∈ l, f b = some (g b)) ∧ s + (l.map g).sum ≤ hi) ∧ s + (l.map g).sum = t := by
  induction l generalizing s with
  | nil => simp [sumFit, hhi]
  | cons b l ih =>
    have hrest : 0 ≤ (l.map g).sum := by
      refine List.sum_nonneg fun a ha => ?_
      obtain ⟨c, hc, rfl⟩ := List.mem_map.1 ha
      exact hg c (List.mem_cons_of_mem b hc)
    rw [sumFit, List.foldlM_cons, List.map_cons, List.sum_cons, List.forall_mem_cons, ← add_assoc]
    cases hb : f b with
    | none => simp
    | some a =>
      obtain rfl : a = g b := hf b List.mem_cons_self a hb
      have hsum : 0 ≤ s + g b := add_nonneg hs (hg b List.mem_cons_self)
      by_cases hfit : s + g b ≤ hi
      · have ih' := ih (fun c hc => hf c (List.mem_cons_of_mem b hc)) (fun c hc => hg c (List.mem_cons_of_mem b hc))
          hsum hfit
        simpa [sumFit, fit_eq_some (hlo.trans hsum) hfit] using ih'
      · have hbig : ¬ s + g b + (l.map g).sum ≤ hi := fun h => hfit ((le_add_of_nonneg_right hrest).trans h)
        simp [fit, hfit, hbig]

end Checked
