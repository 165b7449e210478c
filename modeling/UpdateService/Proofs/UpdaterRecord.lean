import UpdateService.FirmwareResultProcess

/-!
# The records of the updater

The place of the colon is taken in the trimmed result and used in the text as it was read. With white space behind
the bar the two differ, and what is cut off for the reason begins too early.
-/

namespace UpdateService

namespace StringUtils
variable {c : Char} {s k v : List Char}

theorem lTrim_append_cons (hc : isSpace c = false) : lTrim (k ++ c :: v) = lTrim k ++ c :: v := by
  induction k with
  | nil => exact List.dropWhile_cons_of_neg (by simp [hc])
  | cons x k ih =>
    unfold lTrim at ih ⊢
    rw [List.cons_append, List.dropWhile_cons, List.dropWhile_cons]
    split
    · exact ih
    · rfl

theorem rTrim_append_cons (hc : isSpace c = false) : rTrim (k ++ c :: v) = k ++ c :: rTrim v := by
  have h := lTrim_append_cons (k := v.reverse) (v := k.reverse) hc
  unfold lTrim at h
  unfold rTrim List.rdropWhile
  rw [List.reverse_append, List.reverse_cons, List.append_assoc, List.singleton_append, h]
  simp

theorem trim_append_cons (hc : isSpace c = false) : trim (k ++ c :: v) = lTrim k ++ c :: rTrim v := by
  rw [trim, lTrim_append_cons hc, rTrim_append_cons hc]

theorem lTrim_suffix (s : List Char) : lTrim s <:+ s := List.dropWhile_suffix isSpace

theorem lTrim_lTrim (s : List Char) : lTrim (lTrim s) = lTrim s := List.dropWhile_idempotent isSpace s

theorem trim_lTrim (s : List Char) : trim (lTrim s) = trim s := by rw [trim, lTrim_lTrim, trim]

theorem lTrim_of_not_space (hc : isSpace c = false) : lTrim (c :: s) = c :: s :=
  List.dropWhile_cons_of_neg (by simp [hc])

theorem isSpace_of_lTrim_eq_cons (h : lTrim s = c :: v) : isSpace c = false := by
  have hne : lTrim s ≠ [] := by rw [h]; exact List.cons_ne_nil c v
  simpa [show s.dropWhile isSpace = c :: v from h] using List.head_dropWhile_not isSpace hne

/-- What trimming leaves over begins with no white space and ends with none. -/
theorem trim_trim (s : List Char) : trim (trim s) = trim s := by
  have hl : lTrim (trim s) = trim s := by
    cases ht : trim s with
    | nil => rfl
    | cons c t =>
      obtain ⟨r, hr⟩ : trim s <+: lTrim s := List.rdropWhile_prefix isSpace (lTrim s)
      rw [ht, List.cons_append] at hr
      exact lTrim_of_not_space (isSpace_of_lTrim_eq_cons hr.symm)
  rw [trim, hl]
  exact List.rdropWhile_idempotent isSpace (lTrim s)

theorem length_trim_le (s : List Char) : (trim s).length ≤ s.length :=
  (List.rdropWhile_prefix isSpace (lTrim s)).length_le.trans (lTrim_suffix s).length_le

theorem count_lTrim (hc : isSpace c = false) (s : List Char) : (lTrim s).count c = s.count c := by
  have h := congrArg (List.count c) (List.takeWhile_append_dropWhile (p := isSpace) (l := s))
  have h0 : (s.takeWhile isSpace).count c = 0 := by
    refine List.count_eq_zero.2 fun hmem => ?_
    rw [List.mem_takeWhile_imp hmem] at hc
    cases hc
  rw [List.count_append, h0, Nat.zero_add] at h
  exact h

theorem count_trim (hc : isSpace c = false) (s : List Char) : (trim s).count c = s.count c := by
  rw [trim, rTrim, List.rdropWhile, List.count_reverse]
  exact (count_lTrim hc _).trans (List.count_reverse.trans (count_lTrim hc s))

end StringUtils

namespace FirmwareResultProcess
open StringUtils

abbrev Field := { s : List Char // '|' ∉ s }

/-- The three forms of a record, with the fields as they stand in the line. -/
inductive Record
  | colon (spath result reason : Field) (h : ':' ∉ result.1)
  | bars (spath result reason : Field) (h : ':' ∉ result.1)
  | path (spath : Field) (h : spath.1 ≠ [])

namespace Record

def line : Record → List Char
  | colon spath result reason _ => spath.1 ++ '|' :: (result.1 ++ ':' :: reason.1)
  | bars spath result reason _ => spath.1 ++ '|' :: (result.1 ++ '|' :: reason.1)
  | path spath _ => spath.1

def updateResult : Record → UpdateResult
  | colon spath result reason _ | bars spath result reason _ =>
    { spath := trim spath.1, result := trim result.1, reason := trim reason.1 }
  | path spath _ => { spath := trim spath.1 }

/-- No white space between the bar and a result that a colon ends. -/
def FlushLeft : Record → Prop
  | colon _ result _ _ => lTrim result.1 = result.1
  | _ => True

end Record

/-- No line makes the parser slice out of range, and the record is added under its path or, where there is one
already, changes nothing. -/
structure ParsesRecord (record : Record) (resultMap : ResultMap) : Prop where
  inRange : ∀ resultLine, (parseUpdaterResultRecord resultLine resultMap).isSome
  added : resultMap.find? record.updateResult.spath = none →
    parseUpdaterResultRecord record.line resultMap =
      some (resultMap.insert (record.updateResult.spath, record.updateResult))
  kept : (resultMap.find? record.updateResult.spath).isSome →
    parseUpdaterResultRecord record.line resultMap = some resultMap

variable {line k v token : List Char} {results : List (List Char)} {resultMap : ResultMap} {record : Record}

/-! ### One line -/

theorem updateResultOf_of_not_mem (hresults : line.getlines '|' = results)
    (h : ':' ∉ parseResult results [] resultIndex) :
    updateResultOf line = some
      { spath := trim (parseResult results [] pkgPathIndex)
        result := trim (parseResult results [] resultIndex)
        reason := trim (parseResult results [] reasonIndex) } := by
  have hidx : (parseResult results [] resultIndex).findIdx? (· = ':') = none := List.findIdx?_eq_of_not_mem h
  simp only [updateResultOf, hresults, hidx]
  rfl

/-- The reason is cut off the text as it was read, as far in as the colon is in the trimmed one. -/
theorem updateResultOf_of_colon (hresults : line.getlines '|' = results) (htoken : results[resultIndex]? = some token)
    (hcut : trim token = k ++ ':' :: v) (hk : ':' ∉ k) :
    updateResultOf line = some
      { spath := trim (parseResult results [] pkgPathIndex)
        result := trim k
        reason := trim (token.drop (k.length + 1)) } := by
  have hresult : parseResult results [] resultIndex = k ++ ':' :: v := by
    simp only [parseResult, htoken, hcut]
  have hlen : k.length + 1 ≤ token.length := by
    have := length_trim_le token
    rw [hcut, List.length_append, List.length_cons] at this
    omega
  have hsub : substr (k ++ ':' :: v) 0 k.length = some k := by simp [substr]
  have hsub' : substr token (k.length + symbolLength) token.length = some (token.drop (k.length + 1)) := by
    rw [substr, symbolLength, if_pos hlen, List.take_of_length_le (by simp)]
  simp only [updateResultOf, hresults, hresult, List.findIdx?_eq_append_cons hk, htoken, hsub, hsub', Option.bind_eq_bind,
    Option.bind_some, Option.pure_def]

theorem isSome_updateResultOf (line : List Char) : (updateResultOf line).isSome := by
  by_cases h : ':' ∈ parseResult (line.getlines '|') [] resultIndex
  · cases htoken : (line.getlines '|')[resultIndex]? with
    | none =>
      rw [parseResult, htoken] at h
      cases h
    | some token =>
      rw [parseResult, htoken] at h
      obtain ⟨k, v, hcut, hk⟩ := List.eq_append_cons_of_mem h
      rw [updateResultOf_of_colon rfl htoken hcut hk]
      rfl
  · rw [updateResultOf_of_not_mem rfl h]
    rfl

theorem isSome_parseUpdaterResultRecord (line : List Char) (resultMap : ResultMap) :
    (parseUpdaterResultRecord line resultMap).isSome := by
  unfold parseUpdaterResultRecord
  split
  · rfl
  · rw [Option.isSome_map]
    exact isSome_updateResultOf line

/-! ### The three forms -/

theorem getlines_line_colon (spath result reason : Field) :
    (spath.1 ++ '|' :: (result.1 ++ ':' :: reason.1)).getlines '|' = [spath.1, result.1 ++ ':' :: reason.1] := by
  have hbar : '|' ∉ result.1 ++ ':' :: reason.1 := by
    simp [result.2, reason.2]
  rw [List.getlines_append_cons spath.2, List.getlines_of_not_mem hbar]
  simp

theorem updateResultOf_colon (spath result reason : Field) (h : ':' ∉ result.1) :
    updateResultOf (spath.1 ++ '|' :: (result.1 ++ ':' :: reason.1)) = some
      { spath := trim spath.1
        result := trim result.1
        reason := trim ((result.1 ++ ':' :: reason.1).drop ((lTrim result.1).length + 1)) } := by
  have hk : ':' ∉ lTrim result.1 := fun hmem => h ((lTrim_suffix result.1).mem hmem)
  rw [updateResultOf_of_colon (getlines_line_colon spath result reason) rfl (trim_append_cons (by decide)) hk]
  simp only [parseResult, pkgPathIndex, List.getElem?_cons_zero, trim_trim, trim_lTrim]

theorem updateResultOf_bars (spath result reason : Field) (h : ':' ∉ result.1) :
    updateResultOf (spath.1 ++ '|' :: (result.1 ++ '|' :: reason.1)) = some
      { spath := trim spath.1, result := trim result.1, reason := trim reason.1 } := by
  have hlines : (spath.1 ++ '|' :: (result.1 ++ '|' :: reason.1)).getlines '|' =
      spath.1 :: result.1 :: reason.1.getlines '|' := by
    rw [List.getlines_append_cons spath.2, List.getlines_append_cons result.2]
  have hreason : parseResult (spath.1 :: result.1 :: reason.1.getlines '|') [] reasonIndex = trim reason.1 := by
    rw [List.getlines_of_not_mem reason.2]
    rcases reason with ⟨_ | ⟨c, reason⟩, hr⟩ <;> rfl
  have hresult : parseResult (spath.1 :: result.1 :: reason.1.getlines '|') [] resultIndex = trim result.1 := rfl
  have hcolon : ':' ∉ trim result.1 := by
    rw [← List.count_eq_zero, count_trim (by decide), List.count_eq_zero]
    exact h
  rw [updateResultOf_of_not_mem hlines (hresult ▸ hcolon), hreason, hresult]
  simp only [parseResult, pkgPathIndex, List.getElem?_cons_zero, trim_trim]

theorem updateResultOf_path (spath : Field) (h : spath.1 ≠ []) :
    updateResultOf spath.1 = some { spath := trim spath.1 } := by
  have hlines : spath.1.getlines '|' = [spath.1] := by
    rw [List.getlines_of_not_mem spath.2, if_neg (by simpa using h)]
  rw [updateResultOf_of_not_mem hlines List.not_mem_nil]
  simp only [parseResult, pkgPathIndex, List.getElem?_cons_zero, trim_trim]
  rfl

/-- What is cut off for the reason is the reason only where the result has nothing in front of it. -/
theorem trim_drop_eq_iff (result reason : List Char) :
    trim ((result ++ ':' :: reason).drop ((lTrim result).length + 1)) = trim reason ↔ lTrim result = result := by
  constructor
  · intro h
    by_contra hne
    have hlt : (lTrim result).length < result.length :=
      lt_of_le_of_ne (lTrim_suffix result).length_le fun he => hne ((lTrim_suffix result).eq_of_length he)
    have hdrop : (result ++ ':' :: reason).drop ((lTrim result).length + 1) =
        result.drop ((lTrim result).length + 1) ++ ':' :: reason := List.drop_append_of_le_length (by omega)
    have hcount := congrArg (List.count ':') h
    rw [count_trim (by decide), count_trim (by decide), hdrop, List.count_append, List.count_cons_self] at hcount
    omega
  · intro h
    rw [h, List.append_cons, List.drop_left' (by simp)]

/-- Every record gives its trimmed fields, but for the reason behind a colon. -/
theorem updateResultOf_line (record : Record) : ∃ reason,
    updateResultOf record.line = some { record.updateResult with reason } ∧
      (reason = record.updateResult.reason ↔ record.FlushLeft) := by
  cases record with
  | colon spath result reason h =>
    exact ⟨_, updateResultOf_colon spath result reason h, trim_drop_eq_iff result.1 reason.1⟩
  | bars spath result reason h =>
    exact ⟨_, updateResultOf_bars spath result reason h, by simp [Record.FlushLeft, Record.updateResult]⟩
  | path spath h => exact ⟨[], updateResultOf_path spath h, by simp [Record.FlushLeft, Record.updateResult]⟩

theorem line_ne_nil (record : Record) : record.line ≠ [] := by
  cases record with
  | colon spath result reason h | bars spath result reason h => simp [Record.line]
  | path spath h => exact h

/-- Where the path is not in the map yet a record is read as it is written exactly if no white space stands between
the bar and a result that a colon ends. -/
theorem parsesRecord_iff (record : Record) (resultMap : ResultMap) :
    ParsesRecord record resultMap ↔ record.FlushLeft ∨ (resultMap.find? record.updateResult.spath).isSome := by
  obtain ⟨reason, hof, hreason⟩ := updateResultOf_line record
  have hparse : parseUpdaterResultRecord record.line resultMap =
      some (resultMap.emplace (record.updateResult.spath, { record.updateResult with reason })) := by
    rw [parseUpdaterResultRecord, if_neg (line_ne_nil record), hof, Option.map_some]
  constructor
  · rintro ⟨-, hadded, -⟩
    cases hfind : resultMap.find? record.updateResult.spath with
    | some r => exact .inr rfl
    | none =>
      refine .inl (hreason.1 ?_)
      have hlookup := congrArg (KeyedList.find? · record.updateResult.spath)
        (Option.some.inj (hparse.symm.trans (hadded hfind)))
      simp only [KeyedList.find?_emplace, KeyedList.find?_insert, hfind, if_true, Option.none_or] at hlookup
      exact congrArg UpdateResult.reason (congrArg Prod.snd (Option.some.inj hlookup))
  · intro h
    refine ⟨fun line => isSome_parseUpdaterResultRecord line resultMap, fun hnone => ?_, fun hsome => ?_⟩
    · obtain rfl := hreason.2 (h.resolve_right (by rw [hnone]; exact Bool.false_ne_true))
      rw [hparse, KeyedList.emplace, hnone, Option.isSome_none, if_neg Bool.false_ne_true]
    · rw [hparse, KeyedList.emplace, if_pos hsome]

/-- The blank in front of the result brings the colon into the reason. -/
theorem parseUpdaterResultRecord_blank :
    let record : Record :=
      .colon ⟨"updater.zip".toList, by decide⟩ ⟨" fail".toList, by decide⟩ ⟨"-1".toList, by decide⟩ (by decide)
    record.line = "updater.zip| fail:-1".toList ∧
      parseUpdaterResultRecord record.line ∅ = some (KeyedList.insert ∅ ("updater.zip".toList,
        { spath := "updater.zip".toList, result := "fail".toList, reason := ":-1".toList })) ∧
      ¬ParsesRecord record ∅ := by
  intro record
  refine ⟨by decide, by decide, ?_⟩
  rintro ⟨-, hadded, -⟩
  have := hadded (by decide)
  revert this
  decide

end FirmwareResultProcess

end UpdateService
