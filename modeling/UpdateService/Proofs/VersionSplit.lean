import UpdateService.CombineVersion
import UpdateService.Lib.Separated

/-!
# The version in brackets is split

`HandleBaseVersionLog` splits the text between the last brackets after its first number, and no search of
`GetPackageVersion` leads to a cut that starts beyond the end of its string.
-/

namespace UpdateService

namespace FirmwareResultProcess
variable {s : List Char} {pos count : Nat}

theorem exists_substr (h : pos ≤ s.length) (count : Nat) : ∃ t, substr s pos count = some t := ⟨_, if_pos h⟩

theorem substr_append (a t b : List Char) : substr (a ++ t ++ b) a.length t.length = some t := by
  simp [substr]

end FirmwareResultProcess

namespace CombinePackageVersionUtils
open FirmwareResultProcess
variable {c : Char} {s l r text base log : List Char} {i : Nat}

/-! ### The searches -/

theorem lt_of_find (h : find c s = some i) : i < s.length := (List.findIdx?_eq_some_iff_getElem.1 h).1

theorem findLastOf_eq_none (h : c ∉ s) : findLastOf c s = none := by
  rw [findLastOf, List.findIdx?_eq_of_not_mem (by rwa [List.mem_reverse]), Option.map_none]

theorem findLastOf_append_cons (h : c ∉ r) : findLastOf c (l ++ c :: r) = some l.length := by
  have hreverse : (l ++ c :: r).reverse = r.reverse ++ c :: l.reverse := by simp
  rw [findLastOf, hreverse, List.findIdx?_eq_append_cons (by rwa [List.mem_reverse]), Option.map_some]
  simp

theorem exists_last (h : c ∈ s) : ∃ l r, s = l ++ c :: r ∧ c ∉ r := by
  obtain ⟨k, v, hs, hk⟩ := List.eq_append_cons_of_mem (List.mem_reverse.2 h)
  refine ⟨v.reverse, k.reverse, ?_, by rwa [List.mem_reverse]⟩
  rw [← List.reverse_reverse s, hs]
  simp

theorem eq_of_findLastOf (h : findLastOf c s = some i) : ∃ l r, s = l ++ c :: r ∧ c ∉ r ∧ l.length = i := by
  by_cases hc : c ∈ s
  · obtain ⟨l, r, rfl, hr⟩ := exists_last hc
    rw [findLastOf_append_cons hr] at h
    exact ⟨l, r, rfl, hr, Option.some.inj h⟩
  · rw [findLastOf_eq_none hc] at h
    cases h

theorem lt_of_findLastOf (h : findLastOf c s = some i) : i < s.length := by
  obtain ⟨l, r, rfl, -, rfl⟩ := eq_of_findLastOf h
  simp

/-! ### The scan -/

/-- The text is cut after its first number, and nothing of a text without a digit is base. -/
inductive IsSplit : List Char → List Char → List Char → Prop
  | noNumber {text : List Char} (htext : ∀ c ∈ text, c.isDigit = false) : IsSplit text [] text
  | number {before number log : List Char} (hbefore : ∀ c ∈ before, c.isDigit = false) (hne : number ≠ [])
      (hnumber : ∀ c ∈ number, c.isDigit = true) (hlog : ∀ c ∈ log.head?, c.isDigit = false) :
      IsSplit (before ++ number ++ log) (before ++ number) log

theorem exists_isSplit (text : List Char) : ∃ base log, IsSplit text base log := by
  let before := text.takeWhile fun c => !c.isDigit
  let rest := text.dropWhile fun c => !c.isDigit
  have hbefore : ∀ c ∈ before, c.isDigit = false := fun c hc => by simpa using List.mem_takeWhile_imp hc
  have htext : before ++ rest = text := List.takeWhile_append_dropWhile
  by_cases hrest : rest = []
  · rw [hrest, List.append_nil] at htext
    exact ⟨[], text, .noNumber (htext ▸ hbefore)⟩
  · have hdigit : (rest.head hrest).isDigit = true := by
      simpa using List.head_dropWhile_not (fun c : Char => !c.isDigit) hrest
    let number := rest.takeWhile Char.isDigit
    let log := rest.dropWhile Char.isDigit
    have hne : number ≠ [] := by
      obtain ⟨c, rest', hcons⟩ := List.exists_cons_of_ne_nil hrest
      simp only [hcons, List.head_cons] at hdigit
      simp [number, hcons, hdigit]
    have hlog : ∀ c ∈ log.head?, c.isDigit = false := fun c hc => by
      have hhead := List.head?_dropWhile_not Char.isDigit rest
      rwa [show (rest.dropWhile Char.isDigit).head? = some c from hc] at hhead
    refine ⟨before ++ number, log, ?_⟩
    rw [← htext, ← List.takeWhile_append_dropWhile (p := Char.isDigit) (l := rest), ← List.append_assoc]
    exact .number hbefore hne (fun c hc => List.mem_takeWhile_imp hc) hlog

theorem scan_cons (a : List Char) (c : Char) (r : List Char) (isNumbers : Bool) (left : Nat) :
    scan (a ++ c :: r) a.length isNumbers (left + 1) =
      if c.isDigit then scan (a ++ c :: r) (a ++ [c]).length true left
      else if isNumbers then some (a.length, isNumbers)
      else scan (a ++ c :: r) (a ++ [c]).length isNumbers left := by
  have hread : (a ++ c :: r)[a.length]? = some c := by simp
  rw [scan, hread, Option.bind_eq_bind, Option.bind_some, List.length_append, List.length_singleton]

/-- The flag stays what it is over characters that are as it says. -/
theorem scan_run {isNumbers : Bool} (a : List Char) (htext : ∀ c ∈ text, c.isDigit = isNumbers) (r : List Char)
    (left : Nat) : scan (a ++ (text ++ r)) a.length isNumbers (text.length + left) =
      scan (a ++ (text ++ r)) (a ++ text).length isNumbers left := by
  induction text generalizing a with
  | nil => simp
  | cons c text ih =>
    have ih' := ih (a ++ [c]) fun x hx => htext x (List.mem_cons_of_mem c hx)
    rw [List.append_assoc, List.append_assoc, List.singleton_append, List.singleton_append] at ih'
    rw [List.length_cons, Nat.add_right_comm, List.cons_append, scan_cons, htext c List.mem_cons_self]
    cases isNumbers <;> exact ih'

theorem scan_number {number : List Char} (a : List Char) (hne : number ≠ []) (hnumber : ∀ c ∈ number, c.isDigit = true)
    (r : List Char) (left : Nat) : scan (a ++ (number ++ r)) a.length false (number.length + left) =
      scan (a ++ (number ++ r)) (a ++ number).length true left := by
  obtain ⟨c, number, rfl⟩ := List.exists_cons_of_ne_nil hne
  have hrun := scan_run (a ++ [c]) (fun x hx => hnumber x (List.mem_cons_of_mem c hx)) r left
  rw [List.append_assoc, List.append_assoc, List.singleton_append, List.singleton_append] at hrun
  rw [List.length_cons, Nat.add_right_comm, List.cons_append, scan_cons, hnumber c List.mem_cons_self]
  exact hrun

theorem scan_log (a : List Char) (hlog : ∀ c ∈ log.head?, c.isDigit = false) (r : List Char) :
    scan (a ++ (log ++ r)) a.length true log.length = some (a.length, true) := by
  cases log with
  | nil => rfl
  | cons c log =>
    rw [List.length_cons, List.cons_append, scan_cons, hlog c rfl]
    rfl

/-- The scan of a text with a number in it. -/
theorem scan_split {before number : List Char} (a : List Char) (hbefore : ∀ c ∈ before, c.isDigit = false)
    (hne : number ≠ []) (hnumber : ∀ c ∈ number, c.isDigit = true) (hlog : ∀ c ∈ log.head?, c.isDigit = false)
    (r : List Char) : scan (a ++ (before ++ number ++ log ++ r)) a.length false (before ++ number ++ log).length =
      some ((a ++ (before ++ number)).length, true) := by
  have hbefore' := scan_run a hbefore (number ++ (log ++ r)) (number.length + log.length)
  have hnumber' := scan_number (a ++ before) hne hnumber (log ++ r) log.length
  have hlog' := scan_log (a ++ before ++ number) hlog r
  simp only [List.append_assoc, List.length_append] at hbefore' hnumber' hlog' ⊢
  rw [hbefore', hnumber', hlog']

/-! ### The brackets -/

/-- The last brackets of `v`, the opening one first, with `text` between them. -/
structure LastBrackets (v before text rest : List Char) : Prop where
  eq : v = before ++ '(' :: (text ++ ')' :: rest)
  text : '(' ∉ text
  rest : '(' ∉ rest ∧ ')' ∉ rest

section Brackets
variable {v before rest base₀ log₀ : List Char}

theorem LastBrackets.start (hv : LastBrackets v before text rest) : findLastOf '(' v = some before.length := by
  rw [hv.eq]
  exact findLastOf_append_cons (by simp [hv.text, hv.rest.1])

theorem LastBrackets.stop (hv : LastBrackets v before text rest) :
    findLastOf ')' v = some (before.length + 1 + text.length) := by
  rw [hv.eq, ← List.cons_append, ← List.append_assoc, findLastOf_append_cons hv.rest.2, List.length_append,
    List.length_cons, Nat.add_comm text.length, Nat.add_assoc]

/-- The outputs, from where the scan of the text stops. -/
theorem handleBaseVersionLog_eq (hv : LastBrackets v before text rest) {mid : Nat} {isNumbers : Bool}
    (hscan : scan v (before.length + 1) false text.length = some (before.length + 1 + mid, isNumbers)) :
    handleBaseVersionLog v base₀ log₀ =
      if mid = text.length ∧ !isNumbers then do
        let log ← substr v (before.length + 1) mid
        return ([], log)
      else do
        let base ← substr v (before.length + 1) mid
        if mid ≥ text.length then return (base, [])
        else
          let log ← substr v (before.length + 1 + mid) (text.length - mid)
          return (base, log) := by
  have hlt : ¬ before.length ≥ before.length + 1 + text.length := by omega
  unfold handleBaseVersionLog
  rw [hv.start, hv.stop]
  dsimp only
  rw [if_neg hlt, Nat.add_sub_cancel_left, hscan, Option.bind_eq_bind, Option.bind_some]
  simp only [Nat.add_left_cancel_iff, Nat.add_sub_cancel_left, Nat.add_sub_add_left, ge_iff_le, Nat.add_le_add_iff_left]

theorem handleBaseVersionLog_of_lastBrackets (hv : LastBrackets v before text rest) (h : IsSplit text base log) :
    handleBaseVersionLog v base₀ log₀ = some (base, log) := by
  let a := before ++ ['(']
  have ha : a.length = before.length + 1 := by simp [a]
  have heq : v = a ++ (text ++ ')' :: rest) := by
    rw [hv.eq, List.append_assoc]
    rfl
  cases h with
  | noNumber htext =>
    have hscan := scan_run a htext (')' :: rest) 0
    have hsubstr := substr_append a text (')' :: rest)
    rw [← heq, ha, List.length_append, ha] at hscan
    rw [List.append_assoc, ← heq, ha] at hsubstr
    rw [handleBaseVersionLog_eq hv hscan, if_pos ⟨rfl, rfl⟩, hsubstr]
    rfl
  | @number u number _ hbefore hne hnumber hlog =>
    have hscan := scan_split a hbefore hne hnumber hlog (')' :: rest)
    have hbase := substr_append a (u ++ number) (log ++ ')' :: rest)
    have hlog' := substr_append (a ++ (u ++ number)) log (')' :: rest)
    have hmid : (a ++ (u ++ number)).length = before.length + 1 + (u ++ number).length := by rw [List.length_append, ha]
    rw [← heq, ha, hmid] at hscan
    simp only [List.append_assoc a, List.append_assoc (u ++ number)] at hbase hlog' heq
    rw [← heq, ha] at hbase
    rw [← heq, hmid] at hlog'
    rw [handleBaseVersionLog_eq hv hscan, if_neg (by simp), hbase, Option.bind_eq_bind, Option.bind_some]
    cases log with
    | nil =>
      rw [List.append_nil, if_pos le_rfl]
      rfl
    | cons c log =>
      have hlt : ¬ (u ++ number).length ≥ (u ++ number ++ c :: log).length := by simp
      have hcount : (u ++ number ++ c :: log).length - (u ++ number).length = (c :: log).length := by
        rw [List.length_append, Nat.add_sub_cancel_left]
      rw [if_neg hlt, hcount, hlog']
      rfl

theorem exists_lastBrackets {start stop : Nat} (hstart : findLastOf '(' v = some start)
    (hstop : findLastOf ')' v = some stop) (hlt : start < stop) :
    ∃ before text rest, LastBrackets v before text rest := by
  obtain ⟨before, r, hv, hr, rfl⟩ := eq_of_findLastOf hstart
  obtain ⟨l, rest, hv', hrest, rfl⟩ := eq_of_findLastOf hstop
  rcases List.append_eq_append_iff.1 (hv.symm.trans hv') with ⟨k, rfl, hk⟩ | ⟨k, rfl, -⟩
  · cases k with
    | nil => simp at hlt
    | cons c text =>
      obtain ⟨rfl, rfl⟩ := List.cons.inj hk
      replace hr : '(' ∉ text ++ ')' :: rest := hr
      rw [List.mem_append, List.mem_cons, not_or, not_or] at hr
      exact ⟨before, text, rest, hv, hr.1, hr.2.2, hrest⟩
  · simp at hlt

theorem handleBaseVersionLog_of_not_lastBrackets (hv : ¬ ∃ before text rest, LastBrackets v before text rest) :
    handleBaseVersionLog v base₀ log₀ = some (base₀, log₀) := by
  unfold handleBaseVersionLog
  split
  · rename_i start stop hstart hstop
    refine if_pos ?_
    by_contra hlt
    exact hv (exists_lastBrackets hstart hstop (by omega))
  · rfl

theorem exists_handleBaseVersionLog (v base₀ log₀ : List Char) :
    ∃ base log, handleBaseVersionLog v base₀ log₀ = some (base, log) := by
  by_cases hv : ∃ before text rest, LastBrackets v before text rest
  · obtain ⟨before, text, rest, hv⟩ := hv
    obtain ⟨base, log, h⟩ := exists_isSplit text
    exact ⟨base, log, handleBaseVersionLog_of_lastBrackets hv h⟩
  · exact ⟨base₀, log₀, handleBaseVersionLog_of_not_lastBrackets hv⟩

end Brackets

/-! ### The cuts -/

theorem exists_handleBaseVersion (baseVersion : List Char) : ∃ base, handleBaseVersion baseVersion = some base := by
  unfold handleBaseVersion
  split
  · exact ⟨_, rfl⟩
  · rename_i start hstart
    have hle := (lt_of_find hstart).le
    split <;> exact exists_substr hle _

/-- A bracket before the space does not end the cut: it takes what is left. -/
theorem handleBaseVersion_of_lt {baseVersion : List Char} {start stop : Nat} (hstart : find ' ' baseVersion = some start)
    (hstop : find '(' baseVersion = some stop) (hlt : stop < start) (hlen : baseVersion.length ≤ 2 ^ 63) :
    handleBaseVersion baseVersion = some (baseVersion.drop start) := by
  have hle := (lt_of_find hstart).le
  have hcount : (baseVersion.drop start).length ≤ sizeSub stop start := by
    rw [List.length_drop, sizeSub, if_neg (by omega)]
    omega
  unfold handleBaseVersion
  rw [hstart, hstop]
  dsimp only
  rw [substr, if_pos hle, List.take_of_length_le hcount]

theorem exists_handleCustVersion (custVersion : List Char) : ∃ cust, handleCustVersion custVersion = some cust := by
  unfold handleCustVersion
  split
  · exact ⟨_, rfl⟩
  split
  · rename_i mid stop start hmid hstop hstart
    split
    · exact ⟨_, rfl⟩
    · obtain ⟨cust, hcust⟩ := exists_substr (lt_of_findLastOf hmid) (stop - mid - 1)
      obtain ⟨getEnum, hgetEnum⟩ := exists_substr (lt_of_findLastOf hstart) (mid - start - 1)
      rw [hcust, hgetEnum]
      exact ⟨_, rfl⟩
  · exact ⟨_, rfl⟩

theorem exists_handlePreloadVersion (preloadVersion : List Char) :
    ∃ preload, handlePreloadVersion preloadVersion = some preload := by
  unfold handlePreloadVersion
  split
  · exact ⟨_, rfl⟩
  split
  · rename_i start stop hstart hstop
    split
    · exact ⟨_, rfl⟩
    obtain ⟨preload, hpreload⟩ := exists_substr (lt_of_findLastOf hstart).le (stop - start)
    rw [hpreload]
    split
    · rename_i start stop hstart hstop
      split
      · exact ⟨_, rfl⟩
      · obtain ⟨getPnum, hgetPnum⟩ := exists_substr (lt_of_findLastOf hstart) (stop - start - 1)
        rw [hgetPnum]
        exact ⟨_, rfl⟩
    · exact ⟨_, rfl⟩
  · exact ⟨_, rfl⟩

/-- The outputs where there are brackets and where there are none, and that every cut begins inside its string. -/
theorem splitsVersions (deviceName baseVersion custVersion preloadVersion base₀ log₀ : List Char) :
    (∀ before text rest, LastBrackets baseVersion before text rest →
      ∃ base log, handleBaseVersionLog baseVersion base₀ log₀ = some (base, log) ∧ IsSplit text base log) ∧
    ((¬ ∃ before text rest, LastBrackets baseVersion before text rest) →
      handleBaseVersionLog baseVersion base₀ log₀ = some (base₀, log₀)) ∧
    (getPackageVersion deviceName baseVersion custVersion preloadVersion).isSome := by
  refine ⟨fun before text rest hv => ?_, handleBaseVersionLog_of_not_lastBrackets, ?_⟩
  · obtain ⟨base, log, h⟩ := exists_isSplit text
    exact ⟨base, log, handleBaseVersionLog_of_lastBrackets hv h, h⟩
  · obtain ⟨base, hbase⟩ := exists_handleBaseVersion baseVersion
    obtain ⟨baseLog, log, hlog⟩ := exists_handleBaseVersionLog baseVersion [] []
    obtain ⟨cust, hcust⟩ := exists_handleCustVersion custVersion
    obtain ⟨preload, hpreload⟩ := exists_handlePreloadVersion preloadVersion
    rw [getPackageVersion, hbase, hlog, hcust, hpreload]
    rfl

example : handleBaseVersionLog "Device 3.0(SP12C00)".toList [] [] = some ("SP12".toList, "C00".toList) := by decide

end CombinePackageVersionUtils

end UpdateService
