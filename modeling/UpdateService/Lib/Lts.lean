import Mathlib.Logic.Relation

/-!
# Labelled transition systems

Runs of a step relation whose steps carry a label (an operation with what the environment answers
to it). `Run.invariant` and `Run.relates` are the two induction rules: what every step keeps holds
along a run, and what every step relates is related by a run. `guard G` keeps only the steps that
meet `G`, so "a run whose steps all meet `G`" is a run of `L.guard G`.
-/

/-- A labelled transition system: `step s a s'` leads from `s` to `s'` under the label `a`. -/
structure Lts (σ α : Type*) where
  step : σ → α → σ → Prop

namespace Lts
variable {σ α : Type*} {L : Lts σ α}

/-- The run of the labels `as`, first label first. -/
inductive Run (L : Lts σ α) : σ → List α → σ → Prop
  | nil (s : σ) : Run L s [] s
  | cons {s s' s'' : σ} {a : α} {as : List α} :
      L.step s a s' → Run L s' as s'' → Run L s (a :: as) s''

def Preserved (L : Lts σ α) (I : σ → Prop) : Prop :=
  ∀ s a s', L.step s a s' → I s → I s'

namespace Run
variable {s s' s'' : σ} {a : α} {as bs : List α}

theorem single (h : L.step s a s') : L.Run s [a] s' := .cons h (.nil _)

theorem append (h : L.Run s as s') (h' : L.Run s' bs s'') : L.Run s (as ++ bs) s'' := by
  induction h with
  | nil => exact h'
  | cons hs _ ih => exact .cons hs (ih h')

theorem exists_of_append (h : L.Run s (as ++ bs) s'') : ∃ s', L.Run s as s' ∧ L.Run s' bs s'' := by
  induction as generalizing s with
  | nil => exact ⟨s, .nil s, h⟩
  | cons a as ih =>
    cases h with
    | cons hs h =>
      obtain ⟨s', h₁, h₂⟩ := ih h
      exact ⟨s', .cons hs h₁, h₂⟩

theorem snoc (h : L.Run s as s') (h' : L.step s' a s'') : L.Run s (as ++ [a]) s'' :=
  h.append (single h')

theorem invariant {I : σ → Prop} (hI : L.Preserved I) (h : L.Run s as s') (h₀ : I s) : I s' := by
  induction h with
  | nil => exact h₀
  | cons hs _ ih => exact ih (hI _ _ _ hs h₀)

theorem history_append {I : List α → σ → Prop} (hI : ∀ as s a s', L.step s a s' → I as s → I (as ++ [a]) s')
    (h : L.Run s bs s') (h₀ : I as s) : I (as ++ bs) s' := by
  induction h generalizing as with
  | nil => rwa [List.append_nil]
  | @cons s t u a bs hs _ ih =>
    rw [List.append_cons]
    exact ih (hI as s a t hs h₀)

/-- What every step keeps of a state and the labels that led to it. -/
theorem history {I : List α → σ → Prop} (hI : ∀ as s a s', L.step s a s' → I as s → I (as ++ [a]) s')
    (h : L.Run s as s') (h₀ : I [] s) : I as s' :=
  h.history_append hI h₀

/-- A preorder that every step from an `I` state respects relates the ends of a run. -/
theorem relates {I : σ → Prop} {R : σ → σ → Prop} (hI : L.Preserved I) (hrefl : ∀ s, R s s)
    (htrans : ∀ s t u, R s t → R t u → R s u) (hstep : ∀ s a s', I s → L.step s a s' → R s s')
    (h : L.Run s as s') (h₀ : I s) : R s s' := by
  induction h with
  | nil => exact hrefl _
  | cons hs _ ih => exact htrans _ _ _ (hstep _ _ _ h₀ hs) (ih (hI _ _ _ hs h₀))

end Run

def guard (L : Lts σ α) (G : σ → α → Prop) : Lts σ α :=
  ⟨fun s a s' => G s a ∧ L.step s a s'⟩

theorem Run.of_guard {G : σ → α → Prop} {s s' : σ} {as : List α} (h : (L.guard G).Run s as s') : L.Run s as s' := by
  induction h with
  | nil => exact .nil _
  | cons hs _ ih => exact .cons hs.2 ih

/-- A condition on the labels alone. -/
theorem Run.to_guard {G : α → Prop} {s s' : σ} {as : List α} (h : L.Run s as s') (hG : ∀ a ∈ as, G a) :
    (L.guard fun _ => G).Run s as s' := by
  induction h with
  | nil => exact .nil _
  | cons hs _ ih => exact .cons ⟨hG _ List.mem_cons_self, hs⟩ (ih fun a ha => hG a (List.mem_cons_of_mem _ ha))

/-- Steps that meet `G` meet `G'` as well where an invariant says so. -/
theorem Run.guard_mono {G G' : σ → α → Prop} {I : σ → Prop} {s s' : σ} {as : List α} (hI : (L.guard G).Preserved I)
    (hG : ∀ s a, I s → G s a → G' s a) (h : (L.guard G).Run s as s') (h₀ : I s) : (L.guard G').Run s as s' := by
  induction h with
  | nil => exact .nil _
  | @cons s t u a as hs _ ih => exact .cons ⟨hG s a h₀ hs.1, hs.2⟩ (ih (hI s a t hs h₀))

/-- `L` with a counter, to which every step adds what `w` says of it. -/
def tally (L : Lts σ α) (w : σ → α → σ → Nat) : Lts (σ × Nat) α :=
  ⟨fun x a y => L.step x.1 a y.1 ∧ y.2 = x.2 + w x.1 a y.1⟩

/-- `L` with an observer, which makes of every step what it is to know. -/
def observe {ο : Type*} (L : Lts σ α) (u : ο → σ → α → σ → ο) : Lts (σ × ο) α :=
  ⟨fun x a y => L.step x.1 a y.1 ∧ y.2 = u x.2 x.1 a y.1⟩

theorem Run.exists_observe {ο : Type*} {s s' : σ} {as : List α} (h : L.Run s as s') (u : ο → σ → α → σ → ο) (o : ο) :
    ∃ o', (L.observe u).Run (s, o) as (s', o') := by
  induction h generalizing o with
  | nil s => exact ⟨o, .nil _⟩
  | @cons s t _ a _ hs _ ih =>
    obtain ⟨o', ho⟩ := ih (u o s a t)
    exact ⟨o', .cons ⟨hs, rfl⟩ ho⟩

/-- The system of a total function. -/
def ofFun (f : σ → α → σ) : Lts σ α := ⟨fun s a s' => s' = f s a⟩

theorem run_ofFun (f : σ → α → σ) (s : σ) (as : List α) : (ofFun f).Run s as (as.foldl f s) := by
  induction as generalizing s with
  | nil => exact .nil s
  | cons a as ih => exact .cons rfl (ih (f s a))

/-- The system of a partial function: a label is enabled where the function is defined. -/
def ofPartial (f : σ → α → Option σ) : Lts σ α := ⟨fun s a s' => f s a = some s'⟩

theorem guard_ofPartial (f : σ → α → Option σ) (G : σ → α → Prop) [∀ s a, Decidable (G s a)] :
    (ofPartial f).guard G = ofPartial fun s a => if G s a then f s a else none := by
  unfold ofPartial guard
  congr 1
  funext s a s'
  by_cases hg : G s a <;> simp [hg]

theorem observe_ofPartial {ο : Type*} (f : σ → α → Option σ) (u : ο → σ → α → σ → ο) :
    (ofPartial f).observe u = ofPartial fun x a => (f x.1 a).map fun s' => (s', u x.2 x.1 a s') := by
  unfold ofPartial observe
  congr 1
  funext x a ⟨s', o'⟩
  simp only [Option.map_eq_some_iff, Prod.mk.injEq, eq_iff_iff]
  constructor
  · rintro ⟨hs, rfl⟩
    exact ⟨s', hs, rfl, rfl⟩
  · rintro ⟨t, ht, rfl, rfl⟩
    exact ⟨ht, rfl⟩

/-- The state after the labels `as`, if each of them is enabled in turn. -/
def execAll (f : σ → α → Option σ) : σ → List α → Option σ
  | s, [] => some s
  | s, a :: as => (f s a).bind fun s' => execAll f s' as

theorem run_ofPartial {f : σ → α → Option σ} {s s' : σ} {as : List α}
    (h : execAll f s as = some s') : (ofPartial f).Run s as s' := by
  induction as generalizing s with
  | nil => exact Option.some.inj h ▸ .nil s
  | cons a as ih =>
    obtain ⟨t, ht, h⟩ := Option.bind_eq_some_iff.1 h
    exact .cons ht (ih h)

theorem run_ofPartial_get {f : σ → α → Option σ} {s : σ} {as : List α} (h : (execAll f s as).isSome = true) :
    (ofPartial f).Run s as ((execAll f s as).get h) :=
  run_ofPartial (Option.some_get h).symm

end Lts
