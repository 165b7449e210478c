/-!
# Writers and readers of a queue

A writer puts a value into a queue as a list of items, a reader takes one from its front. `Reads` says what the
reader makes of what the writer has written, whatever follows it in the queue; where that is the value itself the
value makes the round trip.
-/

namespace Codec
variable {τ α : Type}

abbrev Reader (τ α : Type) := StateT (List τ) Option α

/-- The reader takes what was written for `a`, and nothing else, and makes `norm a` of it. -/
def Reads (write : α → List τ) (read : Reader τ α) (norm : α → α) : Prop :=
  ∀ a rest, read.run (write a ++ rest) = some (norm a, rest)

def RoundTrips (write : α → List τ) (read : Reader τ α) (a : α) : Prop :=
  ∀ rest, read.run (write a ++ rest) = some (a, rest)

variable {write : α → List τ} {read : Reader τ α} {norm : α → α} {a : α} {l : List α} {p rest : List τ}

theorem Reads.roundTrips_iff (h : Reads write read norm) : RoundTrips write read a ↔ norm a = a := by
  constructor
  · intro ha
    exact (Prod.mk.inj (Option.some.inj ((h a []).symm.trans (ha [])))).1
  · intro ha rest
    rw [h a rest, ha]

def readMany (read : Reader τ α) : Nat → Reader τ (List α)
  | 0 => pure []
  | n + 1 => do
    let a ← read
    let l ← readMany read n
    pure (a :: l)

theorem Reads.readMany (h : Reads write read norm) (l : List α) (rest : List τ) :
    (readMany read l.length).run (l.flatMap write ++ rest) = some (l.map norm, rest) := by
  induction l with
  | nil => rfl
  | cons a l ih =>
    rw [List.flatMap_cons, List.append_assoc, List.length_cons, Codec.readMany, StateT.run_bind, h, Option.bind_eq_bind,
      Option.bind_some, StateT.run_bind, ih]
    rfl

theorem length_of_readMany {n : Nat} (h : (readMany read n).run p = some (l, rest)) : l.length = n := by
  induction n generalizing p l rest with
  | zero =>
    obtain ⟨rfl, -⟩ := Prod.mk.inj (Option.some.inj h)
    rfl
  | succ n ih =>
    rw [readMany, StateT.run_bind] at h
    obtain ⟨⟨a, p₁⟩, -, h⟩ := Option.bind_eq_some_iff.1 h
    rw [StateT.run_bind] at h
    obtain ⟨⟨l', p₂⟩, hl', h⟩ := Option.bind_eq_some_iff.1 h
    obtain ⟨rfl, -⟩ := Prod.mk.inj (Option.some.inj h)
    rw [List.length_cons, ih hl']

end Codec
