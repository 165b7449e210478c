import UpdateService.StringUtils

/-!
# Where a text is found first

`findString` gives the place of the first occurrence, so that a text falls apart in what stands before it, the text
that was searched for, and what stands behind it (`eq_of_findString`).
-/

namespace UpdateService

namespace StringUtils
variable {sub s post : List Char} {i : Nat}

/-- `post` stands behind the first `sub`. -/
def Behind (sub s post : List Char) : Prop :=
  ∃ pre, s = pre ++ (sub ++ post) ∧ ∀ pre' post', s = pre' ++ (sub ++ post') → pre.length ≤ pre'.length

theorem Behind.unique {post' : List Char} (h : Behind sub s post) (h' : Behind sub s post') : post = post' := by
  obtain ⟨pre, rfl, hfirst⟩ := h
  obtain ⟨pre', hs, hfirst'⟩ := h'
  have hlen : pre.length = pre'.length := le_antisymm (hfirst pre' post' hs) (hfirst' pre post rfl)
  exact List.append_cancel_left (List.append_inj hs hlen).2

theorem eq_of_findString (h : findString sub s = some i) : s = s.take i ++ (sub ++ s.drop (i + sub.length)) ∧
    ∀ pre' post', s = pre' ++ (sub ++ post') → i ≤ pre'.length := by
  induction s generalizing i with
  | nil =>
    rw [findString] at h
    split at h
    · rename_i hsub
      subst hsub
      obtain rfl := Option.some.inj h
      exact ⟨rfl, fun _ _ _ => Nat.zero_le _⟩
    · cases h
  | cons c s ih =>
    rw [findString] at h
    split at h
    · rename_i hsub
      obtain rfl := Option.some.inj h
      obtain ⟨post, hpost⟩ := hsub
      refine ⟨?_, fun _ _ _ => Nat.zero_le _⟩
      rw [← hpost, Nat.zero_add, List.drop_left, List.take_zero, List.nil_append]
    · rename_i hsub
      obtain ⟨j, hj, rfl⟩ := Option.map_eq_some_iff.1 h
      obtain ⟨hs, hfirst⟩ := ih hj
      refine ⟨?_, fun pre' post' hs => ?_⟩
      · rw [List.take_succ_cons, List.cons_append, Nat.add_right_comm, List.drop_succ_cons, ← hs]
      · cases pre' with
        | nil => exact absurd ⟨post', hs.symm⟩ hsub
        | cons d pre' =>
          rw [List.cons_append, List.cons.injEq] at hs
          exact Nat.succ_le_succ (hfirst pre' post' hs.2)

theorem findString_eq_some (h : findString sub s = some i) :
    Behind sub s (s.drop (i + sub.length)) := by
  obtain ⟨hs, hfirst⟩ := eq_of_findString h
  exact ⟨s.take i, hs, fun pre' post' h => (List.length_take_le i s).trans (hfirst pre' post' h)⟩

theorem not_infix_of_findString (h : findString sub s = none) : ¬ sub <:+: s := by
  rintro ⟨pre, post, rfl⟩
  rw [List.append_assoc] at h
  induction pre with
  | nil =>
    cases hs : sub ++ post with
    | nil =>
      rw [List.nil_append, hs, findString, if_pos (List.append_eq_nil_iff.1 hs).1] at h
      cases h
    | cons c s =>
      rw [List.nil_append, hs, findString, if_pos (hs ▸ List.prefix_append sub post)] at h
      cases h
  | cons c pre ih =>
    rw [List.cons_append, findString] at h
    split at h
    · cases h
    · exact ih (Option.map_eq_none_iff.1 h)

theorem findString_eq_none_iff : findString sub s = none ↔ ¬ sub <:+: s := by
  refine ⟨not_infix_of_findString, fun h => ?_⟩
  cases hi : findString sub s with
  | none => rfl
  | some i => exact absurd ⟨s.take i, s.drop (i + sub.length), by simpa using (eq_of_findString hi).1.symm⟩ h

theorem findString_append {pre : List Char} (hfirst : ∀ pre' post', pre ++ (sub ++ post) = pre' ++ (sub ++ post') →
    pre.length ≤ pre'.length) : findString sub (pre ++ (sub ++ post)) = some pre.length := by
  cases hi : findString sub (pre ++ (sub ++ post)) with
  | none => exact absurd ⟨pre, post, List.append_assoc pre sub post⟩ (not_infix_of_findString hi)
  | some i =>
    obtain ⟨hs, hmin⟩ := eq_of_findString hi
    have hle : pre.length ≤ i := (hfirst _ _ hs).trans (List.length_take_le i _)
    rw [le_antisymm (hmin pre post rfl) hle]

theorem findString_eq_none (h : findString sub s = none) : ¬Behind sub s post := by
  rintro ⟨pre, rfl, -⟩
  exact not_infix_of_findString h ⟨pre, post, List.append_assoc pre sub post⟩

end StringUtils

end UpdateService
