import Mathlib.Tactic.TypeStar

/-!
# Loops that may not end

The body of a loop goes on with a state or ends with a result. `Returns` is a run of it that ends, within some number of
turns (`returns_iff_run`); `not_returns` says that a loop which an invariant keeps going has no end.
-/

namespace Loop
variable {σ ρ : Type*} {body : σ → σ ⊕ ρ} {s s' : σ} {r r' : ρ}

inductive Returns (body : σ → σ ⊕ ρ) : σ → ρ → Prop
  | done {s : σ} {r : ρ} : body s = .inr r → Returns body s r
  | next {s s' : σ} {r : ρ} : body s = .inl s' → Returns body s' r → Returns body s r

/-- At most `fuel` turns. -/
def run (body : σ → σ ⊕ ρ) : Nat → σ → Option ρ
  | 0, _ => none
  | fuel + 1, s =>
    match body s with
    | .inl s' => run body fuel s'
    | .inr r => some r

theorem returns_of_inr (h : body s = .inr r') : Returns body s r ↔ r = r' := by
  constructor
  · intro hr
    cases hr with
    | done h' => exact Sum.inr.inj (h'.symm.trans h)
    | next h' _ => cases h'.symm.trans h
  · rintro rfl
    exact .done h

theorem returns_of_inl (h : body s = .inl s') : Returns body s r ↔ Returns body s' r := by
  constructor
  · intro hr
    cases hr with
    | done h' => cases h'.symm.trans h
    | next h' hr =>
      obtain rfl := Sum.inl.inj (h'.symm.trans h)
      exact hr
  · exact .next h

theorem Returns.unique (h : Returns body s r) (h' : Returns body s r') : r = r' := by
  induction h with
  | done hb => exact ((returns_of_inr hb).1 h').symm
  | next hb _ ih => exact ih ((returns_of_inl hb).1 h')

/-- An invariant that keeps the loop going. -/
theorem not_returns {I : σ → Prop} (hI : ∀ s, I s → ∃ s', body s = .inl s' ∧ I s') (h : I s) : ¬ Returns body s r := by
  intro hr
  induction hr with
  | done hb =>
    obtain ⟨_, hnext, -⟩ := hI _ h
    cases hb.symm.trans hnext
  | next hb _ ih =>
    obtain ⟨_, hnext, hs'⟩ := hI _ h
    obtain rfl := Sum.inl.inj (hb.symm.trans hnext)
    exact ih hs'

theorem returns_iff_run : Returns body s r ↔ ∃ fuel, run body fuel s = some r := by
  constructor
  · intro h
    induction h with
    | done hb => exact ⟨1, by simp only [run, hb]⟩
    | next hb _ ih =>
      obtain ⟨fuel, hfuel⟩ := ih
      exact ⟨fuel + 1, by simp only [run, hb, hfuel]⟩
  · rintro ⟨fuel, h⟩
    induction fuel generalizing s with
    | zero => cases h
    | succ fuel ih =>
      rw [run] at h
      split at h
      · exact .next ‹_› (ih h)
      · obtain rfl := Option.some.inj h
        exact .done ‹_›

end Loop
