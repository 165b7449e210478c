import Mathlib.Logic.Basic
import Mathlib.Data.List.Basic

/-!
# Programs over a store, and what a cut leaves behind

A `Program` reads a store and answers with a value and the writes it has made, in order. It may be cut off after any
number of them: `cut n` is the store with the first `n` writes. `Triple P m Q C` is a Hoare triple with a crash
condition: from a `P` store `m` ends in `Q`, and every cut of it meets `C`; `Keeps I C` is the case of an invariant.
`Only A` bounds the writes of a program whatever the store is, and `Only.keeps` turns that into an invariant.
-/

/-- A store and what a write does to it. -/
class Store (σ : Type) (ω : outParam Type) where
  apply : σ → ω → σ

def Program (σ ω α : Type) : Type := σ → α × List ω

namespace Program
variable {σ ω α β : Type}

/-- The answer of a program started in a store, and its writes. -/
def answer (m : Program σ ω α) (s : σ) : α := (m s).1

def writes (m : Program σ ω α) (s : σ) : List ω := (m s).2

/-- A question about the store. -/
def read (f : σ → α) : Program σ ω α := fun s => (f s, [])

def write (w : ω) : Program σ ω Unit := fun _ => ((), [w])

@[simp] theorem answer_read (g : σ → α) (s : σ) : (read g : Program σ ω α).answer s = g s := rfl

@[simp] theorem writes_read (g : σ → α) (s : σ) : (read g : Program σ ω α).writes s = [] := rfl

@[simp] theorem writes_write (w : ω) (s : σ) : (write w : Program σ ω Unit).writes s = [w] := rfl

variable [Store σ ω]

def after (s : σ) (ws : List ω) : σ := ws.foldl Store.apply s

def final (m : Program σ ω α) (s : σ) : σ := after s (m.writes s)

def cut (n : Nat) (m : Program σ ω α) (s : σ) : σ := after s ((m.writes s).take n)

instance : Monad (Program σ ω) where
  pure a := fun _ => (a, [])
  bind m f := fun s => ((f (m.answer s)).answer (m.final s), m.writes s ++ (f (m.answer s)).writes (m.final s))

def when (c : Prop) [Decidable c] (m : Program σ ω Unit) : Program σ ω Unit := if c then m else pure ()

/-- The program of each element in turn. -/
def forEach (f : α → Program σ ω Unit) : List α → Program σ ω Unit
  | [] => pure ()
  | a :: l => do
    f a
    forEach f l

variable {s : σ} {m : Program σ ω α} {f : α → Program σ ω β}

@[simp] theorem after_nil : after s ([] : List ω) = s := rfl

theorem after_append (ws ws' : List ω) : after s (ws ++ ws') = after (after s ws) ws' := List.foldl_append

@[simp] theorem answer_pure (a : α) : (pure a : Program σ ω α).answer s = a := rfl

@[simp] theorem writes_pure (a : α) : (pure a : Program σ ω α).writes s = [] := rfl

@[simp] theorem final_pure (a : α) : (pure a : Program σ ω α).final s = s := rfl

@[simp] theorem final_read (g : σ → α) : (read g : Program σ ω α).final s = s := rfl

@[simp] theorem final_write (w : ω) : (write w : Program σ ω Unit).final s = Store.apply s w := rfl

@[simp] theorem answer_bind : (m >>= f).answer s = (f (m.answer s)).answer (m.final s) := rfl

@[simp] theorem writes_bind : (m >>= f).writes s = m.writes s ++ (f (m.answer s)).writes (m.final s) := rfl

@[simp] theorem final_bind : (m >>= f).final s = (f (m.answer s)).final (m.final s) :=
  after_append _ _

@[simp] theorem final_when (c : Prop) [Decidable c] (m : Program σ ω Unit) :
    (when c m).final s = if c then m.final s else s := by
  unfold when
  split <;> rfl

@[simp] theorem writes_when (c : Prop) [Decidable c] (m : Program σ ω Unit) :
    (when c m).writes s = if c then m.writes s else [] := by
  unfold when
  split <;> rfl

@[simp] theorem final_ite (c : Prop) [Decidable c] (m m' : Program σ ω α) :
    (if c then m else m').final s = if c then m.final s else m'.final s :=
  apply_ite (fun m => final m s) c m m'

@[simp] theorem final_forEach (f : α → Program σ ω Unit) (l : List α) :
    (forEach f l).final s = l.foldl (fun s a => (f a).final s) s := by
  induction l generalizing s with
  | nil => rfl
  | cons a l ih => exact final_bind.trans ih

/-- A cut of a sequence is a cut of its first part, or a cut of the second after all of the first. -/
theorem cut_bind (n : Nat) :
    (m >>= f).cut n s = if n ≤ (m.writes s).length then m.cut n s
      else (f (m.answer s)).cut (n - (m.writes s).length) (m.final s) := by
  unfold cut
  rw [writes_bind, List.take_append]
  split
  · rename_i h
    rw [Nat.sub_eq_zero_of_le h, List.take_zero, List.append_nil]
  · rename_i h
    rw [after_append, List.take_of_length_le (by omega)]
    rfl

/-! ### Answers -/

/-- A program that only asks, started in a store. -/
theorem bind_apply {a : α} (h : m s = (a, [])) : (m >>= f) s = f a s := by
  change ((f (m s).1 (after s (m s).2)).1, (m s).2 ++ (f (m s).1 (after s (m s).2)).2) = f a s
  rw [h]
  rfl

/-- The answers of a program, whatever the store is. -/
def Gives (P : α → Prop) (m : Program σ ω α) : Prop := ∀ s, P (m.answer s)

namespace Gives
variable {P P' : α → Prop} {Q : β → Prop}

theorem pure {a : α} (h : P a) : Gives P (pure a : Program σ ω α) := fun _ => h

theorem bind (hm : Gives P m) (hf : ∀ a, P a → Gives Q (f a)) : Gives Q (m >>= f) := fun s => hf _ (hm s) _

theorem bind' (hf : ∀ a, Gives Q (f a)) : Gives Q (m >>= f) := fun _ => hf _ _

omit [Store σ ω] in
theorem ite {c : Prop} [Decidable c] {m m' : Program σ ω α} (h : Gives P m) (h' : Gives P m') :
    Gives P (if c then m else m') := by
  split <;> assumption

omit [Store σ ω] in
theorem mono (h : Gives P m) (hP : ∀ a, P a → P' a) : Gives P' m := fun s => hP _ (h s)

end Gives

/-! ### Triples -/

def Triple (P : σ → Prop) (m : Program σ ω α) (Q : α → σ → Prop) (C : σ → Prop) : Prop :=
  ∀ s, P s → Q (m.answer s) (m.final s) ∧ ∀ n, C (m.cut n s)

namespace Triple
variable {P P' : σ → Prop} {Q Q' : α → σ → Prop} {R : β → σ → Prop} {C C' : σ → Prop}

theorem pure {a : α} (h : ∀ s, P s → Q a s ∧ C s) : Triple P (pure a) Q C := by
  intro s hs
  refine ⟨(h s hs).1, fun n => ?_⟩
  rw [show Program.cut n (Pure.pure a : Program σ ω α) s = s by simp [cut]]
  exact (h s hs).2

theorem read {g : σ → α} (h : ∀ s, P s → Q (g s) s ∧ C s) : Triple P (read g) Q C := by
  intro s hs
  refine ⟨(h s hs).1, fun n => ?_⟩
  rw [show Program.cut n (Program.read g : Program σ ω α) s = s by simp [cut]]
  exact (h s hs).2

theorem write {w : ω} {Q : Unit → σ → Prop} (h : ∀ s, P s → C s)
    (h' : ∀ s, P s → Q () (Store.apply s w) ∧ C (Store.apply s w)) : Triple P (write w) Q C := by
  intro s hs
  refine ⟨(h' s hs).1, fun n => ?_⟩
  cases n with
  | zero => exact h s hs
  | succ n =>
    rw [show Program.cut (n + 1) (Program.write w) s = Store.apply s w by simp [cut, after]]
    exact (h' s hs).2

theorem bind (hm : Triple P m Q C) (hf : ∀ a, Triple (Q a) (f a) R C) : Triple P (m >>= f) R C := by
  intro s hs
  have hf := hf _ _ (hm s hs).1
  refine ⟨final_bind (m := m) (f := f) ▸ hf.1, fun n => ?_⟩
  rw [cut_bind]
  split
  · exact (hm s hs).2 n
  · exact hf.2 _

/-- What is only asked in a store that is known. -/
theorem bind_apply {a : α} {Q : β → σ → Prop} {s₀ : σ} (h : m s₀ = (a, [])) (hf : Triple (fun s => s = s₀) (f a) Q C) :
    Triple (fun s => s = s₀) (m >>= f) Q C := by
  rintro _ rfl
  have he := Program.bind_apply (f := f) h
  have hf := hf _ rfl
  unfold answer final cut writes at hf ⊢
  rwa [he]

theorem conseq (h : Triple P m Q C) (hP : ∀ s, P' s → P s) (hQ : ∀ a s, Q a s → Q' a s) (hC : ∀ s, C s → C' s) :
    Triple P' m Q' C' := by
  intro s hs
  exact ⟨hQ _ _ (h s (hP s hs)).1, fun n => hC _ ((h s (hP s hs)).2 n)⟩

theorem ite {c : Prop} [Decidable c] {m m' : Program σ ω α} (h : c → Triple P m Q C) (h' : ¬c → Triple P m' Q C) :
    Triple P (if c then m else m') Q C := by
  split
  · exact h ‹_›
  · exact h' ‹_›

/-- What is known of the answers in any store. -/
theorem gives {S : α → Prop} (h : Triple P m Q C) (hm : Gives S m) : Triple P m (fun a s => Q a s ∧ S a) C := by
  intro s hs
  exact ⟨⟨(h s hs).1, hm s⟩, (h s hs).2⟩

/-- What does not depend on the store. -/
theorem assume {c : Prop} (h : c → Triple P m Q C) : Triple (fun s => P s ∧ c) m Q C := by
  intro s hs
  exact h hs.2 s hs.1

/-- What is known of the store at the start may be used in what follows. -/
theorem of_store (h : ∀ s₀, P s₀ → Triple (fun s => s = s₀) m Q C) : Triple P m Q C := by
  intro s hs
  exact h s hs s rfl

end Triple

/-! ### Invariants -/

/-- From an `I` store `m` ends in an `I` store, and every cut of it meets `C`. -/
def Keeps (I C : σ → Prop) (m : Program σ ω α) : Prop := Triple I m (fun _ => I) C

namespace Keeps
variable {I C : σ → Prop} (hIC : ∀ s, I s → C s)
include hIC

theorem pure {a : α} : Keeps I C (pure a : Program σ ω α) := Triple.pure fun s hs => ⟨hs, hIC s hs⟩

theorem read {g : σ → α} : Keeps I C (read g : Program σ ω α) := Triple.read fun s hs => ⟨hs, hIC s hs⟩

theorem write {w : ω} (h : ∀ s, I s → I (Store.apply s w)) : Keeps I C (write w : Program σ ω Unit) :=
  Triple.write hIC fun s hs => ⟨h s hs, hIC _ (h s hs)⟩

omit hIC in
theorem weaken {I' : σ → Prop} (hm : Keeps I C m) (hI : ∀ s, I s → I' s) : Triple I m (fun _ => I') C :=
  hm.conseq (fun _ h => h) (fun _ => hI) fun _ h => h

omit hIC in
theorem and {I' C' : σ → Prop} (hm : Keeps I C m) (hm' : Keeps I' C' m) : Keeps (fun s => I s ∧ I' s) C m := by
  intro s hs
  exact ⟨⟨(hm s hs.1).1, (hm' s hs.2).1⟩, (hm s hs.1).2⟩

omit hIC in
theorem bind (hm : Keeps I C m) (hf : ∀ a, Keeps I C (f a)) : Keeps I C (m >>= f) := Triple.bind hm hf

omit hIC in
/-- The second part has to do only with what the first can answer. -/
theorem bind_answer (hm : Keeps I C m) (hf : ∀ s, Keeps I C (f (m.answer s))) : Keeps I C (m >>= f) := by
  refine Triple.of_store fun s hs => .bind (Q := fun a s' => I s' ∧ a = m.answer s) ?_ fun a s' hs' => ?_
  · rintro s rfl
    exact ⟨⟨(hm s hs).1, rfl⟩, (hm s hs).2⟩
  · obtain ⟨hI, rfl⟩ := hs'
    exact hf s s' hI

omit hIC in
theorem ite {c : Prop} [Decidable c] {m m' : Program σ ω α} (h : Keeps I C m) (h' : Keeps I C m') :
    Keeps I C (if c then m else m') :=
  Triple.ite (fun _ => h) fun _ => h'

theorem when {c : Prop} [Decidable c] {m : Program σ ω Unit} (h : c → Keeps I C m) : Keeps I C (when c m) :=
  Triple.ite h fun _ => pure hIC

theorem forEach {l : List α} {f : α → Program σ ω Unit} (h : ∀ a ∈ l, Keeps I C (f a)) : Keeps I C (forEach f l) := by
  induction l with
  | nil => exact pure hIC
  | cons a l ih => exact bind (h a List.mem_cons_self) fun _ => ih fun a' ha' => h a' (List.mem_cons_of_mem a ha')

end Keeps

/-- A program that keeps `I` at every write, and answers with an `R` where it is started in an `I` store. -/
def Yields (I : σ → Prop) (R : α → Prop) (m : Program σ ω α) : Prop := Triple I m (fun a s => I s ∧ R a) I

namespace Yields
variable {I : σ → Prop} {R R' : α → Prop} {S : β → Prop}

theorem pure {a : α} (h : R a) : Yields I R (pure a : Program σ ω α) := Triple.pure fun _ hs => ⟨⟨hs, h⟩, hs⟩

theorem read {g : σ → α} (h : ∀ s, I s → R (g s)) : Yields I R (read g : Program σ ω α) :=
  Triple.read fun s hs => ⟨⟨hs, h s hs⟩, hs⟩

theorem ask {g : σ → α} : Yields I (fun _ => True) (Program.read g : Program σ ω α) := read fun _ _ => trivial

theorem write {w : ω} (h : ∀ s, I s → I (Store.apply s w)) :
    Yields I (fun _ => True) (write w : Program σ ω Unit) :=
  Triple.write (fun _ hs => hs) fun s hs => ⟨⟨h s hs, trivial⟩, h s hs⟩

theorem bind (hm : Yields I R m) (hf : ∀ a, R a → Yields I S (f a)) : Yields I S (m >>= f) :=
  Triple.bind hm fun a => .assume fun ha => hf a ha

theorem ite {c : Prop} [Decidable c] {m m' : Program σ ω α} (h : c → Yields I R m) (h' : ¬c → Yields I R m') :
    Yields I R (if c then m else m') :=
  Triple.ite h h'

theorem when {c : Prop} [Decidable c] {m : Program σ ω Unit} (h : c → Yields I (fun _ => True) m) :
    Yields I (fun _ => True) (when c m) :=
  Triple.ite h fun _ => pure trivial

theorem mono (h : Yields I R m) (hR : ∀ a, R a → R' a) : Yields I R' m :=
  h.conseq (fun _ hs => hs) (fun a _ hs => ⟨hs.1, hR a hs.2⟩) fun _ hs => hs

end Yields

/-! ### Bounds on the writes -/

def Only (A : ω → Prop) (m : Program σ ω α) : Prop := ∀ s, ∀ w ∈ m.writes s, A w

namespace Only
variable {A B : ω → Prop} {I : σ → Prop}

theorem pure {a : α} : Only A (pure a : Program σ ω α) := by
  intro s w hw
  cases hw

omit [Store σ ω] in
theorem read {g : σ → α} : Only A (read g : Program σ ω α) := by
  intro s w hw
  cases hw

omit [Store σ ω] in
theorem write {w : ω} (h : A w) : Only A (write w : Program σ ω Unit) := by
  intro s w' hw'
  rwa [List.mem_singleton.1 hw']

theorem bind (hm : Only A m) (hf : ∀ a, Only A (f a)) : Only A (m >>= f) := by
  intro s w hw
  rcases List.mem_append.1 hw with hw | hw
  exacts [hm s w hw, hf _ _ w hw]

omit [Store σ ω] in
theorem ite {c : Prop} [Decidable c] {m m' : Program σ ω α} (h : Only A m) (h' : Only A m') :
    Only A (if c then m else m') := by
  split <;> assumption

theorem when {c : Prop} [Decidable c] {m : Program σ ω Unit} (h : Only A m) : Only A (when c m) := ite h pure

theorem forEach {l : List α} {f : α → Program σ ω Unit} (h : ∀ a ∈ l, Only A (f a)) : Only A (forEach f l) := by
  induction l with
  | nil => exact pure
  | cons a l ih => exact bind (h a List.mem_cons_self) fun _ => ih fun a' ha' => h a' (List.mem_cons_of_mem a ha')

omit [Store σ ω] in
theorem mono (h : Only A m) (hAB : ∀ w, A w → B w) : Only B m := fun s w hw => hAB w (h s w hw)

/-- What every write of `A` keeps, a program that only makes such writes keeps, and so does every cut of it. -/
theorem keeps (h : Only A m) (hI : ∀ s w, A w → I s → I (Store.apply s w)) : Keeps I I m := by
  have hfold : ∀ (ws : List ω) (s : σ), (∀ w ∈ ws, A w) → I s → I (after s ws) := by
    intro ws
    induction ws with
    | nil => exact fun s _ hs => hs
    | cons w ws ih =>
      intro s hws hs
      exact ih _ (fun w' hw' => hws w' (List.mem_cons_of_mem w hw')) (hI s w (hws w List.mem_cons_self) hs)
  intro s hs
  exact ⟨hfold _ s (h s) hs, fun n => hfold _ s (fun w hw => h s w (List.mem_of_mem_take hw)) hs⟩

end Only

end Program
