import Mathlib.Algebra.Order.Field.Power
import Mathlib.Data.Rat.Cast.Order
import Mathlib.Tactic.FieldSimp
import Mathlib.Tactic.Linarith
import Mathlib.Tactic.NormNum
import Mathlib.Tactic.Positivity
import Mathlib.Tactic.Push
import Mathlib.Tactic.Ring

/-!
# The finite values of binary64 and the rounding of natural numbers

A finite value is `m * 2 ^ e` with a significand of 53 bits. `ofNat` rounds a natural number to one of them, to the
even significand where two are as near; `isNearest_ofNat` says that no value is nearer.
-/

namespace Binary64

def Representable (q : Rat) : Prop :=
  ∃ (m : Int) (e : Int), |m| < 2 ^ 53 ∧ -1074 ≤ e ∧ e ≤ 971 ∧ q = m * 2 ^ e

structure IsNearest (x q : Rat) : Prop where
  representable : Representable q
  le : ∀ q', Representable q' → |x - q| ≤ |x - q'|

/-- The bits of `n` that no significand has room for. -/
def excess (n : Nat) : Nat := n.log2 - 52

/-- `n` in units of the last bit kept, rounded to the nearest, a tie to the even. -/
def significand (n : Nat) : Nat :=
  let u := 2 ^ excess n
  if 2 * (n % u) < u ∨ 2 * (n % u) = u ∧ n / u % 2 = 0 then n / u else n / u + 1

def ofNat (n : Nat) : Nat := significand n * 2 ^ excess n

variable {n k : Nat} {m : Int} {q : Rat}

/-- A value with more than `52 + k` bits in front of the point has `k` zero bits there at the end. -/
theorem Representable.multiple (h : Representable q) (hq : 2 ^ (52 + k) ≤ q) : ∃ m : Int, q = m * 2 ^ k := by
  obtain ⟨m, e, hm, -, -, rfl⟩ := h
  have hlt : (2 : Rat) ^ ((52 + k : Nat) : Int) < 2 ^ (53 + e) := by
    have hm' : (m : Rat) < 2 ^ 53 := by exact_mod_cast (abs_lt.1 hm).2
    have hpos : (0 : Rat) < 2 ^ e := by positivity
    calc (2 : Rat) ^ ((52 + k : Nat) : Int) = 2 ^ (52 + k) := zpow_natCast 2 (52 + k)
      _ ≤ m * 2 ^ e := hq
      _ < 2 ^ 53 * 2 ^ e := mul_lt_mul_of_pos_right hm' hpos
      _ = 2 ^ (53 + e) := by rw [zpow_add₀ two_ne_zero]; norm_num
  have hke : (k : Int) ≤ e := by
    have := (zpow_lt_zpow_iff_right₀ one_lt_two).1 hlt
    push_cast at this
    omega
  obtain ⟨j, rfl⟩ : ∃ j : Nat, e = k + j := ⟨(e - k).toNat, by omega⟩
  refine ⟨m * 2 ^ j, ?_⟩
  rw [zpow_add₀ two_ne_zero, zpow_natCast, zpow_natCast]
  push_cast
  ring

theorem significand_dist (n : Nat) (m : Int) :
    |(n : Int) - significand n * 2 ^ excess n| ≤ |(n : Int) - m * 2 ^ excess n| := by
  have hu : (0 : Int) < 2 ^ excess n := by positivity
  have hdiv : (n : Int) = 2 ^ excess n * ((n / 2 ^ excess n : Nat) : Int) + ((n % 2 ^ excess n : Nat) : Int) := by
    exact_mod_cast (Nat.div_add_mod n (2 ^ excess n)).symm
  have hr : ((n % 2 ^ excess n : Nat) : Int) < 2 ^ excess n := by
    exact_mod_cast Nat.mod_lt n (by positivity)
  have hs : (significand n = n / 2 ^ excess n ∧ 2 * ((n % 2 ^ excess n : Nat) : Int) ≤ 2 ^ excess n) ∨
      (significand n = n / 2 ^ excess n + 1 ∧ 2 ^ excess n ≤ 2 * ((n % 2 ^ excess n : Nat) : Int)) := by
    have hcast : ((2 ^ excess n : Nat) : Int) = 2 ^ excess n := by push_cast; rfl
    rw [← hcast]
    unfold significand
    dsimp only
    split
    · exact .inl ⟨rfl, by omega⟩
    · exact .inr ⟨rfl, by omega⟩
  have hr0 : (0 : Int) ≤ ((n % 2 ^ excess n : Nat) : Int) := Int.natCast_nonneg _
  generalize ((n % 2 ^ excess n : Nat) : Int) = r at *
  generalize (2 : Int) ^ excess n = u at *
  generalize hf : n / 2 ^ excess n = f at *
  -- a multiple is at most the one below `n` or at least the one above it
  have hside : m * u ≤ u * f ∨ u * f + u ≤ m * u := by
    rcases lt_or_ge (f : Int) m with h | h
    · right; nlinarith
    · left; nlinarith
  rcases hs with ⟨hs, h2⟩ | ⟨hs, h2⟩
  · have : (n : Int) - significand n * u = r := by rw [hs, hdiv]; ring
    rw [this, abs_of_nonneg hr0, le_abs]
    rcases hside with h | h
    · left; omega
    · right; omega
  · have : (n : Int) - significand n * u = r - u := by rw [hs, hdiv]; push_cast; ring
    rw [this, abs_of_neg (by omega), le_abs]
    rcases hside with h | h
    · left; omega
    · right; omega

theorem significand_le (n : Nat) : significand n ≤ 2 ^ 53 := by
  have hn : n / 2 ^ excess n < 2 ^ 53 := by
    rw [Nat.div_lt_iff_lt_mul (by positivity), ← pow_add]
    refine Nat.lt_log2_self.trans_le (Nat.pow_le_pow_right (by omega) ?_)
    unfold excess
    omega
  unfold significand
  dsimp only
  split <;> omega

theorem representable_ofNat (hn : n.log2 < 1023) : Representable (ofNat n) := by
  have he : excess n + 1 ≤ 971 := by
    unfold excess
    omega
  rcases Nat.lt_or_ge (significand n) (2 ^ 53) with h | h
  · refine ⟨significand n, excess n, ?_, by omega, by omega, ?_⟩
    · rw [abs_of_nonneg (by omega)]
      exact_mod_cast h
    · rw [ofNat, zpow_natCast]
      push_cast
      rfl
  · have h : significand n = 2 ^ 53 := le_antisymm (significand_le n) h
    refine ⟨2 ^ 52, (excess n + 1 : Nat), by norm_num, by omega, by omega, ?_⟩
    rw [ofNat, h, zpow_natCast]
    push_cast
    ring

theorem isNearest_ofNat (hn : n.log2 < 1023) : IsNearest n (ofNat n) where
  representable := representable_ofNat hn
  le q hq := by
    -- a multiple of the unit that is at least as near as `q`
    obtain ⟨m, hm⟩ : ∃ m : Int, |(n : Rat) - m * 2 ^ excess n| ≤ |(n : Rat) - q| := by
      rcases Nat.lt_or_ge n.log2 52 with hlog | hlog
      · refine ⟨n, ?_⟩
        have : excess n = 0 := by unfold excess; omega
        rw [this]
        simp
      have hexc : n.log2 = 52 + excess n := by unfold excess; omega
      rcases lt_or_ge q (2 ^ (52 + excess n)) with hlt | hge
      · refine ⟨2 ^ 52, ?_⟩
        have hle : (2 : Rat) ^ (52 + excess n) ≤ n := by
          have hne : n ≠ 0 := by rintro rfl; simp at hlog
          have := Nat.log2_self_le hne
          rw [hexc] at this
          exact_mod_cast this
        have : (((2 : Int) ^ 52 : Int) : Rat) * 2 ^ excess n = 2 ^ (52 + excess n) := by
          rw [pow_add]; push_cast; rfl
        rw [this, abs_of_nonneg (by linarith), abs_of_nonneg (by linarith)]
        linarith
      · obtain ⟨m, rfl⟩ := hq.multiple hge
        exact ⟨m, le_rfl⟩
    refine le_trans ?_ hm
    have := significand_dist n m
    rw [ofNat]
    exact_mod_cast this

end Binary64
