import UpdateService.Lib.Loop
import UpdateService.Proofs.FindText

/-!
# Replacing all occurrences of a text

`ReplaceStringAll` searches in the text that it is changing, from behind the last replacement on, so that it finds what
stood there before. With an empty text to replace it never gets past the first place.
-/

namespace UpdateService

namespace StringUtils
variable {sub new s t : List Char} {i : Nat}

/-- From left to right the occurrences of `sub` in the text are replaced, of those that overlap the first. -/
inductive ReplacedAll (sub new : List Char) : List Char → List Char → Prop
  | rest {s : List Char} : ¬ sub <:+: s → ReplacedAll sub new s s
  | first {pre post t : List Char} :
      (∀ pre' post', pre ++ (sub ++ post) = pre' ++ (sub ++ post') → pre.length ≤ pre'.length) →
      ReplacedAll sub new post t → ReplacedAll sub new (pre ++ (sub ++ post)) (pre ++ (new ++ t))

/-! ### From one occurrence to the next -/

theorem length_drop_lt (hsub : sub ≠ []) (h : findString sub s = some i) :
    (s.drop (i + sub.length)).length < s.length := by
  have hlen := congrArg List.length (eq_of_findString h).1
  have hpos := List.length_pos_iff.2 hsub
  simp only [List.length_append, List.length_drop] at hlen ⊢
  omega

theorem occurrence_induction (hsub : sub ≠ []) {P : List Char → Prop} (hrest : ∀ s, findString sub s = none → P s)
    (hfirst : ∀ s i, findString sub s = some i → P (s.drop (i + sub.length)) → P s) (s : List Char) : P s := by
  induction hn : s.length using Nat.strong_induction_on generalizing s with
  | _ n ih =>
    cases h : findString sub s with
    | none => exact hrest s h
    | some i => exact hfirst s i h (ih _ (hn ▸ length_drop_lt hsub h) _ rfl)

theorem replaceStringAll_skip (k : Nat) (s : List Char) :
    replaceStringAll sub new k s = replaceStringAll sub new 0 (s.drop k) := by
  induction s generalizing k with
  | nil => rw [List.drop_nil, replaceStringAll, replaceStringAll]
  | cons c s ih =>
    cases k with
    | zero => rfl
    | succ k => exact ih k

theorem replaceStringAll_of_none (h : findString sub s = none) : replaceStringAll sub new 0 s = s := by
  induction s with
  | nil => rfl
  | cons c s ih =>
    rw [findString] at h
    split at h
    · cases h
    · rename_i hsub
      rw [replaceStringAll, if_neg hsub, ih (Option.map_eq_none_iff.1 h)]

theorem replaceStringAll_of_some (hsub : sub ≠ []) (h : findString sub s = some i) :
    replaceStringAll sub new 0 s = s.take i ++ (new ++ replaceStringAll sub new 0 (s.drop (i + sub.length))) := by
  induction s generalizing i with
  | nil =>
    rw [findString, if_neg hsub] at h
    cases h
  | cons c s ih =>
    rw [findString] at h
    split at h
    · rename_i hpre
      obtain rfl := Option.some.inj h
      obtain ⟨n, hn⟩ := Nat.exists_eq_succ_of_ne_zero (mt List.length_eq_zero_iff.1 hsub)
      rw [replaceStringAll, if_pos hpre, replaceStringAll_skip, hn, Nat.zero_add, List.drop_succ_cons]
      rfl
    · rename_i hpre
      obtain ⟨j, hj, rfl⟩ := Option.map_eq_some_iff.1 h
      rw [replaceStringAll, if_neg hpre, ih hj, List.take_succ_cons, Nat.add_right_comm, List.drop_succ_cons]
      rfl

theorem replacedAll_replaceStringAll (hsub : sub ≠ []) (s : List Char) :
    ReplacedAll sub new s (replaceStringAll sub new 0 s) := by
  induction s using occurrence_induction hsub with
  | hrest s h =>
    rw [replaceStringAll_of_none h]
    exact .rest (findString_eq_none_iff.1 h)
  | hfirst s i h ih =>
    obtain ⟨hs, hfirst⟩ := eq_of_findString h
    rw [replaceStringAll_of_some hsub h]
    conv => arg 3; rw [hs]
    refine .first (fun pre' post' he => ?_) ih
    exact (List.length_take_le i s).trans (hfirst pre' post' (hs.trans he))

theorem replacedAll_iff (hsub : sub ≠ []) : ReplacedAll sub new s t ↔ t = replaceStringAll sub new 0 s := by
  constructor
  · intro h
    induction h with
    | rest hno => exact (replaceStringAll_of_none (findString_eq_none_iff.2 hno)).symm
    | @first pre post t hfirst _ ih =>
      have hpost : (pre ++ (sub ++ post)).drop (pre.length + sub.length) = post := by
        rw [← List.append_assoc, ← List.length_append, List.drop_left]
      rw [replaceStringAll_of_some hsub (findString_append hfirst), List.take_left, hpost, ih]
  · rintro rfl
    exact replacedAll_replaceStringAll hsub s

/-! ### The loop -/

/-- A turn that begins behind `done` changes nothing of it. -/
theorem replaceTurn_append (done s : List Char) : replaceTurn sub new (done ++ s, done.length) =
    match findString sub s with
    | some i => .inl (done ++ s.take i ++ new ++ s.drop (i + sub.length), (done ++ s.take i ++ new).length)
    | none => .inr (done ++ s) := by
  have hfind : findFrom sub done.length (done ++ s) = (findString sub s).map (done.length + ·) := by
    rw [findFrom, if_pos (by simp), List.drop_left]
  unfold replaceTurn
  simp only [hfind]
  cases h : findString sub s with
  | none => rfl
  | some i =>
    have hi : i ≤ s.length := by
      obtain ⟨hs, hfirst⟩ := eq_of_findString h
      exact (hfirst _ _ hs).trans (List.length_take_le' i s)
    simp only [Option.map_some, List.length_append, List.length_take, Nat.min_eq_left hi]
    rw [List.take_length_add_append, Nat.add_assoc done.length, List.drop_length_add_append]

theorem returns_replaceTurn (hsub : sub ≠ []) (done s : List Char) :
    Loop.Returns (replaceTurn sub new) (done ++ s, done.length) (done ++ replaceStringAll sub new 0 s) := by
  induction s using occurrence_induction hsub generalizing done with
  | hrest s h =>
    rw [replaceStringAll_of_none h]
    refine .done ?_
    rw [replaceTurn_append, h]
  | hfirst s i h ih =>
    have hturn : replaceTurn sub new (done ++ s, done.length) = _ := replaceTurn_append done s
    rw [h] at hturn
    have hrest := ih (done ++ s.take i ++ new)
    rw [Loop.returns_of_inl hturn, replaceStringAll_of_some hsub h]
    simpa only [List.append_assoc] using hrest

/-- The loop gives the text with all occurrences replaced, for a text to replace that is not empty. -/
theorem returns_replaceTurn_iff (hsub : sub ≠ []) :
    Loop.Returns (replaceTurn sub new) (s, 0) t ↔ t = replaceStringAll sub new 0 s := by
  have h : Loop.Returns (replaceTurn sub new) (s, 0) (replaceStringAll sub new 0 s) := returns_replaceTurn hsub [] s
  constructor
  · intro ht
    exact ht.unique h
  · rintro rfl
    exact h

/-- The empty text is found where the search begins, whatever has been put in. -/
theorem not_returns_replaceTurn_nil : ¬ Loop.Returns (replaceTurn [] new) (s, 0) t := by
  refine Loop.not_returns (I := fun s => s.2 ≤ s.1.length) (fun s hs => ?_) (Nat.zero_le _)
  obtain ⟨s, pos⟩ := s
  have hfind : findFrom [] pos s = some pos := by
    rw [findFrom, if_pos hs]
    cases s.drop pos <;> simp [findString]
  refine ⟨(s.take pos ++ new ++ s.drop pos, pos + new.length), ?_, ?_⟩
  · simp only [replaceTurn, hfind, List.length_nil, Nat.add_zero]
  · have hs : pos ≤ s.length := hs
    simp only [List.length_append, List.length_take, List.length_drop]
    omega

/-- The loop ends, and with the occurrences of the text as it was before replaced. -/
structure ReplacesAll (srcString subString newString : List Char) : Prop where
  ends : ∃ t, Loop.Returns (replaceTurn subString newString) (srcString, 0) t
  replaced : subString ≠ [] → ∀ t, Loop.Returns (replaceTurn subString newString) (srcString, 0) t →
    ReplacedAll subString newString srcString t

theorem replacesAll_iff (srcString subString newString : List Char) :
    ReplacesAll srcString subString newString ↔ subString ≠ [] := by
  constructor
  · rintro h rfl
    obtain ⟨t, ht⟩ := h.ends
    exact not_returns_replaceTurn_nil ht
  · intro hsub
    refine ⟨⟨_, (returns_replaceTurn_iff hsub).2 rfl⟩, fun _ t ht => ?_⟩
    exact (replacedAll_iff hsub).2 ((returns_replaceTurn_iff hsub).1 ht)

/-- Nothing is replaced by nothing for ever. -/
theorem not_replacesAll : ¬ ∀ srcString subString newString, ReplacesAll srcString subString newString := by
  intro h
  obtain ⟨t, ht⟩ := (h "a".toList [] []).ends
  exact not_returns_replaceTurn_nil ht

end StringUtils

end UpdateService
