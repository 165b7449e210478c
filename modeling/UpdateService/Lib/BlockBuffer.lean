import Mathlib.Data.List.TakeDrop

/-!
# Streams cut into blocks

`BlockBuffer` is an array of a fixed length that is filled from its front. `Blocked k xs blocks rest` says
that the stream `xs` is the blocks, none of them empty or longer than `k`, followed by a rest shorter than
`k`. A stream that grows goes into the rest (`Blocked.grow`), which becomes a block at any time after
(`Blocked.close`).
-/

/-- An array of `n` cells, of which the first `pos` are filled. -/
structure BlockBuffer (α : Type*) (n : Nat) where
  cells : List α
  pos : Nat
  length_cells : cells.length = n
  pos_le : pos ≤ n

namespace BlockBuffer
variable {α : Type*} {n : Nat} {xs : List α}

def content (b : BlockBuffer α n) : List α := b.cells.take b.pos

/-- All cells hold `a`, and none of them counts as filled. -/
def clear (a : α) : BlockBuffer α n where
  cells := List.replicate n a
  pos := 0
  length_cells := List.length_replicate
  pos_le := n.zero_le

def write (b : BlockBuffer α n) (xs : List α) (h : b.pos + xs.length ≤ n) : BlockBuffer α n where
  cells := b.content ++ xs ++ b.cells.drop (b.pos + xs.length)
  pos := b.pos + xs.length
  length_cells := by
    have hn := b.length_cells
    simp only [content, List.length_append, List.length_take, List.length_drop]
    omega
  pos_le := h

@[simp] theorem length_content (b : BlockBuffer α n) : b.content.length = b.pos := by
  rw [content, List.length_take, b.length_cells]
  exact Nat.min_eq_left b.pos_le

@[simp] theorem pos_clear (a : α) : (clear a : BlockBuffer α n).pos = 0 := rfl

@[simp] theorem content_clear (a : α) : (clear a : BlockBuffer α n).content = [] := List.take_zero

@[simp] theorem pos_write (b : BlockBuffer α n) (h : b.pos + xs.length ≤ n) :
    (b.write xs h).pos = b.pos + xs.length := rfl

@[simp] theorem content_write (b : BlockBuffer α n) (h : b.pos + xs.length ≤ n) :
    (b.write xs h).content = b.content ++ xs := by
  have hlen : (b.content ++ xs).length = b.pos + xs.length := by rw [List.length_append, length_content]
  show (b.content ++ xs ++ b.cells.drop (b.pos + xs.length)).take (b.pos + xs.length) = _
  rw [← hlen, List.take_left]

end BlockBuffer

structure Blocked {α : Type*} (k : Nat) (xs : List α) (blocks : List (List α)) (rest : List α) : Prop where
  flatten : blocks.flatten ++ rest = xs
  blocks : ∀ b ∈ blocks, 0 < b.length ∧ b.length ≤ k
  rest : rest.length < k

namespace Blocked
variable {α : Type*} {k : Nat} {xs rest : List α} {blocks : List (List α)}

theorem nil (hk : 0 < k) : Blocked k ([] : List α) [] [] := ⟨rfl, by simp, hk⟩

theorem grow (h : Blocked k xs blocks rest) {ys : List α} (hlt : (rest ++ ys).length < k) :
    Blocked k (xs ++ ys) blocks (rest ++ ys) where
  flatten := by rw [← List.append_assoc, h.flatten]
  blocks := h.blocks
  rest := hlt

theorem close (h : Blocked k xs blocks rest) {ys : List α} (hpos : 0 < ys.length) (hle : (rest ++ ys).length ≤ k) :
    Blocked k (xs ++ ys) (blocks ++ [rest ++ ys]) [] where
  flatten := by simp [← h.flatten]
  blocks b hb := by
    rcases List.mem_append.1 hb with hb | hb
    · exact h.blocks b hb
    · obtain rfl := List.mem_singleton.1 hb
      rw [List.length_append] at hle ⊢
      omega
  rest := Nat.zero_lt_of_lt h.rest

end Blocked
