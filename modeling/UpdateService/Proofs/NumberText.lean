import UpdateService.StringUtils

/-!
# Numbers as text

`DecStringToNumber` reads what `std::to_string` writes.
-/

namespace UpdateService

namespace StringUtils

theorem trim_eq_self {s : List Char} (h : ∀ c ∈ s, isSpace c = false) : trim s = s := by
  have hl : lTrim s = s := by
    cases s with
    | nil => rfl
    | cons c s => rw [lTrim, List.dropWhile_cons_of_neg (by rw [h c (by simp)]; exact Bool.false_ne_true)]
  rw [trim, hl, rTrim, List.rdropWhile_eq_self_iff]
  intro hne
  rw [h _ (List.getLast_mem hne)]
  exact Bool.false_ne_true

theorem foldl_digits (s : List Char) (n : Nat) :
    s.foldl (fun n c => n * 10 + (c.toNat - 48)) n = Nat.ofDigitChars 10 s n := by
  rw [Nat.ofDigitChars_eq_foldl]
  simp only [Nat.mul_comm]
  rfl

theorem isSpace_of_isDigit {c : Char} (h : c.isDigit = true) : isSpace c = false := by
  have hge : 48 ≤ c.toNat := (Char.isDigit_iff_toNat.1 h).1
  have hne : c ≠ ' ' := fun hc => absurd (hc ▸ hge) (by decide)
  rw [isSpace, decide_eq_false hne, Bool.false_or, Bool.and_eq_false_iff]
  exact .inr (decide_eq_false (by omega))

theorem mem_toString {t : Int} {c : Char} (h : c ∈ (toString t).toList) : c = '-' ∨ c.isDigit = true := by
  cases t with
  | ofNat n =>
    rw [show (toString (Int.ofNat n)).toList = Nat.toDigits 10 n from Nat.toList_repr] at h
    exact .inr (Nat.isDigit_of_mem_toDigits (by decide) (by decide) h)
  | negSucc n =>
    rw [show toString (Int.negSucc n) = "-" ++ Nat.repr (n + 1) from rfl, String.toList_append, Nat.toList_repr] at h
    rcases List.mem_cons.1 h with rfl | h
    · exact .inl rfl
    · exact .inr (Nat.isDigit_of_mem_toDigits (by decide) (by decide) h)

theorem isSpace_of_mem_toString {t : Int} {c : Char} (h : c ∈ (toString t).toList) : isSpace c = false := by
  rcases mem_toString h with rfl | hc
  · decide
  · exact isSpace_of_isDigit hc

theorem fromChars_toString (t : Int) : fromChars (toString t).toList = (some t, []) := by
  have htake : ∀ n, (Nat.toDigits 10 n).takeWhile Char.isDigit = Nat.toDigits 10 n := fun n =>
    List.takeWhile_eq_self_iff.2 fun c hc => Nat.isDigit_of_mem_toDigits (by decide) (by decide) hc
  have hfold : ∀ n, (Nat.toDigits 10 n).foldl (fun n c => n * 10 + (c.toNat - 48)) 0 = n := fun n => by
    rw [foldl_digits, Nat.ofDigitChars_ten_toDigits]
  cases t with
  | ofNat n =>
    rw [show (toString (Int.ofNat n)).toList = Nat.toDigits 10 n from Nat.toList_repr]
    have hminus : ∀ rest, Nat.toDigits 10 n ≠ '-' :: rest := by
      intro rest hrest
      have hdigit := Nat.isDigit_of_mem_toDigits (b := 10) (n := n) (c := '-') (by decide) (by decide) (by simp [hrest])
      exact absurd hdigit (by decide)
    unfold fromChars
    dsimp only
    split
    · rename_i rest hrest
      exact absurd hrest (hminus rest)
    · rw [htake, hfold, if_neg Nat.toDigits_ne_nil, List.drop_length]
      rfl
  | negSucc n =>
    rw [show toString (Int.negSucc n) = "-" ++ Nat.repr (n + 1) from rfl, String.toList_append, Nat.toList_repr]
    show fromChars ('-' :: Nat.toDigits 10 (n + 1)) = _
    simp only [fromChars, htake, hfold, if_neg Nat.toDigits_ne_nil, List.drop_length]
    rfl

/-- `DecStringToNumber` reads back what `std::to_string` has written, if the type holds it. -/
theorem stringToNumberInner_toString {min sup t : Int} (hmin : min ≤ t) (hsup : t < sup) (number : Int) :
    stringToNumberInner min sup (toString t).toList number = (.success, t) := by
  rw [stringToNumberInner, trim_eq_self fun c hc => isSpace_of_mem_toString hc, fromChars_toString]
  dsimp only
  rw [if_neg (by omega), if_neg (not_not.2 rfl), if_neg (not_not.2 rfl)]

end StringUtils

end UpdateService
