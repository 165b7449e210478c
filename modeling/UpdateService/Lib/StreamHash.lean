import Mathlib.Data.List.TakeDrop

/-!
# Streaming hashes

A hash that takes its input piece by piece: `update` of two pieces is that of both together, so the digest of the pieces
of a stream is the digest of the stream, however it is cut.
-/

structure StreamHash (κ β δ : Type*) where
  init : κ
  update : κ → List β → κ
  final : κ → δ
  update_nil : ∀ c, update c [] = c
  update_append : ∀ c xs ys, update c (xs ++ ys) = update (update c xs) ys

namespace StreamHash
variable {κ β δ : Type*} (h : StreamHash κ β δ)

def digest (xs : List β) : δ := h.final (h.update h.init xs)

theorem update_take_drop (c : κ) (n : Nat) (xs : List β) :
    h.update (h.update c (xs.take n)) (xs.drop n) = h.update c xs := by
  rw [← h.update_append, List.take_append_drop]

/-- The hash that keeps what it is given until the end. -/
def ofFun (f : List β → δ) : StreamHash (List β) β δ where
  init := []
  update := (· ++ ·)
  final := f
  update_nil := List.append_nil
  update_append c xs ys := (List.append_assoc c xs ys).symm

@[simp] theorem digest_ofFun (f : List β → δ) (xs : List β) : (ofFun f).digest xs = f xs := rfl

end StreamHash
