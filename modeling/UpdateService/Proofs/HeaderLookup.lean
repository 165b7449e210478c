import UpdateService.Proofs.NumberText
import UpdateService.ThreadRun
import UpdateService.Lib.Separated

/-!
# Header lines

A line is cut at its first colon. The text after it is taken by `safeSubString` with the length of the text as the
index of its end, so that it is lost where the name and the colon are longer than it; and `findKeyFromHeader` takes
a line for found that has nothing after its colon.
-/

namespace UpdateService

namespace ResponseHeaderParseUtils
open StringUtils
variable {key line name text : List Char} {headers keys : List (List Char)}

/-- The two sides of the first colon. -/
def splitLine : List Char → Option (List Char × List Char)
  | [] => none
  | c :: line => if c = ':' then some ([], line) else (splitLine line).map fun l => (c :: l.1, l.2)

/-- The sides of a line that says something of `key`. -/
def lineOf (key line : List Char) : Option (List Char × List Char) :=
  (splitLine line).filter fun l => trim l.1 = key ∧ l.2 ≠ []

/-- What the lines say of `key`. -/
def announced (key : List Char) (headers : List (List Char)) : List Char :=
  match headers.findSome? (lineOf key) with
  | some l => trim l.2
  | none => []

theorem splitLine_append (hname : ':' ∉ name) : splitLine (name ++ ':' :: text) = some (name, text) := by
  induction name with
  | nil => rfl
  | cons c name ih =>
    obtain ⟨hc, hname⟩ := not_or.1 (mt List.mem_cons.2 hname)
    rw [List.cons_append, splitLine, if_neg (Ne.symm hc), ih hname]
    rfl

theorem splitLine_of_not_mem (h : ':' ∉ line) : splitLine line = none := by
  induction line with
  | nil => rfl
  | cons c line ih =>
    obtain ⟨hc, hline⟩ := not_or.1 (mt List.mem_cons.2 h)
    rw [splitLine, if_neg (Ne.symm hc), ih hline]
    rfl

/-! ### What the source makes of a line -/

theorem find_of_not_mem (h : ':' ∉ line) : find ':' line = -1 := by rw [find, List.findIdx?_eq_of_not_mem h]

theorem find_append (hname : ':' ∉ name) : find ':' (name ++ ':' :: text) = name.length := by
  rw [find, List.findIdx?_eq_append_cons hname]

theorem keyOf_of_not_mem (h : ':' ∉ line) : keyOf line = [] := by
  rw [keyOf, find_of_not_mem h, safeSubString]
  split
  · rfl
  · rw [if_pos (.inr (.inr (by decide)))]

theorem keyOf_append (hname : ':' ∉ name) : keyOf (name ++ ':' :: text) = name := by
  rw [keyOf, find_append hname, safeSubString, if_neg (by simp), if_neg]
  · simp
  · rw [List.length_append]
    omega

/-- The text that is taken from a line. -/
def taken (name text : List Char) : List Char := if name.length + 1 ≤ text.length then text else []

theorem safeSubString_append (hname : ':' ∉ name) :
    safeSubString (name ++ ':' :: text) (find ':' (name ++ ':' :: text) + 1)
      ((name ++ ':' :: text).length - find ':' (name ++ ':' :: text) - 1) [] = taken name text := by
  have hlen : ((name ++ ':' :: text).length : Int) - name.length - 1 = text.length := by
    rw [List.length_append, List.length_cons]
    omega
  rw [find_append hname, hlen, safeSubString, if_neg (by simp), taken]
  by_cases h : name.length + 1 ≤ text.length
  · rw [if_pos h, if_neg (by rw [List.length_append, List.length_cons]; omega)]
    rw [show ((name.length : Int) + 1).toNat = (name ++ [':']).length by simp,
      show name ++ ':' :: text = (name ++ [':']) ++ text by simp, List.drop_left]
    simp
  · rw [if_neg h, if_pos (by omega)]

theorem split_cases (line : List Char) :
    (':' ∉ line ∧ splitLine line = none) ∨
      ∃ name text, line = name ++ ':' :: text ∧ ':' ∉ name ∧ splitLine line = some (name, text) := by
  by_cases h : ':' ∈ line
  · obtain ⟨name, text, rfl, hname⟩ := List.eq_append_cons_of_mem h
    exact .inr ⟨name, text, rfl, hname, splitLine_append hname⟩
  · exact .inl ⟨h, splitLine_of_not_mem h⟩

theorem lineOf_append (hname : ':' ∉ name) : lineOf key (name ++ ':' :: text) =
    if trim name = key ∧ text ≠ [] then some (name, text) else none := by
  rw [lineOf, splitLine_append hname, Option.filter_some]
  simp

theorem lineOf_of_not_mem (h : ':' ∉ line) : lineOf key line = none := by
  rw [lineOf, splitLine_of_not_mem h]
  rfl

theorem split_of_lineOf {l : List Char × List Char} (h : lineOf key line = some l) :
    splitLine line = some l ∧ trim l.1 = key := by
  obtain ⟨hsplit, hl⟩ := Option.filter_eq_some_iff.1 h
  exact ⟨hsplit, (of_decide_eq_true hl).1⟩

/-- The test of both loops that a line has a colon, and not as its last character. -/
theorem find_ne_iff (hname : ':' ∉ name) : (find ':' (name ++ ':' :: text) ≠ -1 ∧
    find ':' (name ++ ':' :: text) ≠ (name ++ ':' :: text).length - 1) ↔ text ≠ [] := by
  rw [find_append hname, List.length_append, List.length_cons, ← List.length_pos_iff]
  omega

/-! ### The lookups -/

theorem parseKeyFromHeader_cons (hkey : key ≠ []) : parseKeyFromHeader key (line :: headers) =
    match lineOf key line with
    | some l => trim (taken l.1 l.2)
    | none => parseKeyFromHeader key headers := by
  rw [parseKeyFromHeader]
  rcases split_cases line with ⟨hmem, -⟩ | ⟨name, text, rfl, hname, -⟩
  · rw [lineOf_of_not_mem hmem, find_of_not_mem hmem]
    rfl
  · rw [lineOf_append hname, safeSubString_append hname, keyOf_append hname]
    by_cases htext : text = []
    · rw [if_neg (mt (find_ne_iff hname).1 (not_not.2 htext)), if_neg fun h => h.2 htext]
    rw [if_pos ((find_ne_iff hname).2 htext)]
    by_cases hsame : trim name = key
    · rw [if_neg (by rintro rfl; exact hkey hsame.symm), if_pos hsame, if_pos ⟨hsame, htext⟩]
    · have hnot : ¬ (trim name = key ∧ text ≠ []) := fun h => hsame h.1
      rw [if_neg hsame, if_neg hnot]
      split <;> rfl

theorem parseKeyFromHeader_eq (hkey : key ≠ []) : parseKeyFromHeader key headers =
    match headers.findSome? (lineOf key) with
    | some l => trim (taken l.1 l.2)
    | none => [] := by
  induction headers with
  | nil => rfl
  | cons line headers ih =>
    rw [parseKeyFromHeader_cons hkey, List.findSome?_cons]
    cases lineOf key line with
    | some l => rfl
    | none => exact ih

theorem findKeyFromHeader_iff (hkey : key ≠ []) : findKeyFromHeader key headers = true ↔
    ∃ line ∈ headers, ∃ name text, splitLine line = some (name, text) ∧ trim name = key := by
  rw [findKeyFromHeader, List.any_eq_true]
  refine exists_congr fun line => and_congr_right fun _ => ?_
  rcases split_cases line with ⟨hmem, hsplit⟩ | ⟨name, text, rfl, hname, hsplit⟩
  · rw [keyOf_of_not_mem hmem, hsplit]
    simp
  · rw [keyOf_append hname, hsplit]
    simp only [Bool.and_eq_true, decide_eq_true_eq, Option.some.injEq, Prod.mk.injEq]
    constructor
    · rintro ⟨-, hsame⟩
      exact ⟨name, text, ⟨rfl, rfl⟩, hsame⟩
    · rintro ⟨_, _, ⟨rfl, rfl⟩, hsame⟩
      refine ⟨?_, hsame⟩
      rintro rfl
      exact hkey hsame.symm

/-- One turn of the loop puts what `parseKeyFromHeader` makes of the line. -/
theorem find?_parseKeys (hkey : key ≠ []) (m : KeyedList (Prod.fst : List Char × List Char → List Char)) :
    (parseKeys keys line m).find? key =
      if key ∈ keys ∧ (lineOf key line).isSome then some (key, parseKeyFromHeader key [line]) else m.find? key := by
  rw [parseKeyFromHeader_cons hkey, parseKeys]
  rcases split_cases line with ⟨hmem, -⟩ | ⟨name, text, rfl, hname, -⟩
  · rw [lineOf_of_not_mem hmem, find_of_not_mem hmem]
    simp
  by_cases htext : text = []
  · have hline : lineOf key (name ++ ':' :: text) = none := by rw [lineOf_append hname, if_neg fun h => h.2 htext]
    rw [hline, if_neg (mt (find_ne_iff hname).1 (not_not.2 htext))]
    simp
  rw [if_pos ((find_ne_iff hname).2 htext), safeSubString_append hname, keyOf_append hname]
  by_cases hsame : trim name = key
  · have hline : lineOf key (name ++ ':' :: text) = some (name, text) := by rw [lineOf_append hname,
      if_pos ⟨hsame, htext⟩]
    rw [hline, if_neg (by rintro rfl; exact hkey hsame.symm), hsame]
    by_cases hmem : key ∈ keys
    · rw [if_pos hmem, KeyedList.find?_insert, if_pos rfl, if_pos ⟨hmem, rfl⟩]
    · rw [if_neg hmem, if_neg fun h => hmem h.1]
  · have hline : lineOf key (name ++ ':' :: text) = none := by rw [lineOf_append hname, if_neg fun h => hsame h.1]
    simp only [hline, Option.isSome_none, Bool.false_eq_true, and_false, if_false]
    split
    · rfl
    split
    · rw [KeyedList.find?_insert, if_neg (Ne.symm hsame)]
    · rfl

theorem isSome_find?_foldl (hkey : key ≠ []) (m : KeyedList (Prod.fst : List Char × List Char → List Char)) :
    ((headers.foldl (fun m header => parseKeys keys header m) m).find? key).isSome ↔
      (m.find? key).isSome ∨ key ∈ keys ∧ ∃ line ∈ headers, (lineOf key line).isSome := by
  induction headers generalizing m with
  | nil => simp
  | cons line headers ih =>
    rw [List.foldl_cons, ih, find?_parseKeys hkey]
    split
    · rename_i h
      simp [h]
    · rename_i h
      simp only [List.mem_cons, exists_eq_or_imp]
      constructor
      · rintro (hm | ⟨hmem, hline⟩)
        · exact .inl hm
        · exact .inr ⟨hmem, .inr hline⟩
      · rintro (hm | ⟨hmem, hline | hline⟩)
        · exact .inl hm
        · exact absurd ⟨hmem, hline⟩ h
        · exact .inr ⟨hmem, hline⟩

/-! ### Agreement -/

/-- The lookups of `key` agree, and say what the lines say. -/
structure LookedUp (key : List Char) (keys headers : List (List Char)) : Prop where
  value : parseKeyFromHeader key headers = announced key headers
  found : ∀ line ∈ headers, findKeyFromHeader key [line] = true ↔ (lineOf key line).isSome
  keysFound : ∀ line ∈ headers, (parseKeysFromHeader [line] keys).find? key =
    if key ∈ keys ∧ (lineOf key line).isSome then some (key, parseKeyFromHeader key [line]) else none
  all : announced key headers ≠ [] → parseKeyFromHeader key headers ≠ [] ∧ findKeyFromHeader key headers = true ∧
    (key ∈ keys → ((parseKeysFromHeader headers keys).find? key).isSome)
  responseSize : key = "Content-Length".toList → ∀ n : Nat, n < 2 ^ 63 → announced key headers = (toString n).toList →
    DownloadThread.getResponseSize (headers.map String.ofList) = n

/-- The first line with a text for `key` has no more than this text before it, or only blanks after its colon; and no
line of `key` ends with its colon. -/
structure Intact (key : List Char) (headers : List (List Char)) : Prop where
  first : ∀ l, headers.findSome? (lineOf key) = some l → l.1.length + 1 ≤ l.2.length ∨ trim l.2 = []
  noEmpty : ∀ line ∈ headers, ∀ name, splitLine line = some (name, []) → trim name ≠ key

theorem value_iff (hkey : key ≠ []) : parseKeyFromHeader key headers = announced key headers ↔
    ∀ l, headers.findSome? (lineOf key) = some l → l.1.length + 1 ≤ l.2.length ∨ trim l.2 = [] := by
  rw [parseKeyFromHeader_eq hkey, announced]
  cases headers.findSome? (lineOf key) with
  | none => simp
  | some l =>
    simp only [Option.some.injEq, forall_eq', taken]
    split
    · rename_i hlen
      exact ⟨fun _ => .inl hlen, fun _ => rfl⟩
    · rename_i hlen
      constructor
      · intro h
        exact .inr h.symm
      · intro h
        exact (h.resolve_left hlen).symm

theorem found_iff (hkey : key ≠ []) : (findKeyFromHeader key [line] = true ↔ (lineOf key line).isSome) ↔
    ∀ name, splitLine line = some (name, []) → trim name ≠ key := by
  rw [findKeyFromHeader_iff hkey]
  simp only [List.mem_singleton, exists_eq_left]
  rcases split_cases line with ⟨hmem, hsplit⟩ | ⟨name, text, rfl, hname, hsplit⟩
  · rw [lineOf_of_not_mem hmem, hsplit]
    simp
  · rw [lineOf_append hname, hsplit]
    by_cases htext : text = []
    · subst htext
      simp
    · simp [htext]

/-- The lookups agree exactly where no text is lost. -/
theorem header_lookup_iff (hkey : key ≠ []) : LookedUp key keys headers ↔ Intact key headers := by
  constructor
  · intro h
    exact ⟨(value_iff hkey).1 h.value, fun line hline => (found_iff hkey).1 (h.found line hline)⟩
  · intro h
    have hvalue := (value_iff hkey).2 h.first
    refine ⟨hvalue, fun line hline => (found_iff hkey).2 (h.noEmpty line hline), fun line _ => ?_, fun hne => ?_, ?_⟩
    · show (parseKeys keys line ∅).find? key = _
      rw [find?_parseKeys hkey]
      rfl
    · obtain ⟨l, hl⟩ : ∃ l, headers.findSome? (lineOf key) = some l := by
        by_contra hnone
        rw [not_exists] at hnone
        rw [announced, Option.eq_none_iff_forall_ne_some.2 hnone] at hne
        exact hne rfl
      obtain ⟨line, hline, hsome⟩ := List.exists_of_findSome?_eq_some hl
      obtain ⟨hsplit, hsame⟩ := split_of_lineOf hsome
      refine ⟨hvalue ▸ hne, (findKeyFromHeader_iff hkey).2 ⟨line, hline, l.1, l.2, hsplit, hsame⟩, fun hmem => ?_⟩
      exact (isSome_find?_foldl hkey ∅).2 (.inr ⟨hmem, line, hline, by rw [hsome]; rfl⟩)
    · rintro rfl n hn hannounced
      have hnumber : decStringToNumber (toString (n : Int)).toList 0 = (.success, (n : Int)) :=
        stringToNumberInner_toString (by omega) (by omega) 0
      have hheaders : (headers.map String.ofList).map String.toList = headers := by
        rw [List.map_map]
        exact List.map_id'' (fun s => String.toList_ofList) headers
      rw [DownloadThread.getResponseSize, hheaders, hvalue, hannounced,
        show (toString n).toList = (toString (n : Int)).toList from rfl, hnumber]

/-- A number of fourteen digits is long enough. -/
theorem header_lookup_long : LookedUp "Content-Length".toList ["Content-Length".toList]
    ["Server: nginx".toList, "Content-Length: 12345678901234".toList] := by
  refine (header_lookup_iff (by decide)).2 ⟨?_, ?_⟩
  · rintro l ⟨⟩
    exact .inl (by decide)
  · intro line hline name hsplit
    rcases List.mem_cons.1 hline with rfl | hline
    · cases hsplit
    · obtain rfl := List.mem_singleton.1 hline
      cases hsplit

/-- Shorter numbers are lost, so that the response size is 0; and a line with an empty text is found. -/
theorem not_header_lookup :
    (announced "Content-Length".toList ["Content-Length: 5".toList] = "5".toList ∧
      parseKeyFromHeader "Content-Length".toList ["Content-Length: 5".toList] = [] ∧
      DownloadThread.getResponseSize ["Content-Length: 5"] = 0 ∧
      ¬ LookedUp "Content-Length".toList [] ["Content-Length: 5".toList]) ∧
    findKeyFromHeader "Transfer-Encoding".toList ["Transfer-Encoding:".toList] = true ∧
      parseKeysFromHeader ["Transfer-Encoding:".toList] ["Transfer-Encoding".toList] = ∅ ∧
      ¬ LookedUp "Transfer-Encoding".toList [] ["Transfer-Encoding:".toList] := by
  refine ⟨⟨by decide, by decide, by decide, fun h => ?_⟩, by decide, by decide, fun h => ?_⟩
  · exact absurd h.value (by decide)
  · exact absurd ((h.found _ (List.mem_singleton.2 rfl)).1 (by decide)) (by decide)

end ResponseHeaderParseUtils

end UpdateService
