import UpdateService.Proofs.FindText
import UpdateService.Proofs.NumberText
import UpdateService.StreamProgressThread

/-!
# The size check before a streamed download

`CheckFileSize` takes the header blocks of all responses for one text and the first digits behind the first key for
the length of the file, wherever they stand.
-/

namespace UpdateService

namespace StringUtils
variable {sub s post : List Char} {i : Nat}

/-- Behind whole lines that do not hold it, a text of one line stands first where it is written. -/
theorem behind_of_lines {before : List Char} (hsub : '\n' ∉ sub) (hlast : ∀ c ∈ before.getLast?, c = '\n')
    (hno : ¬sub <:+: before) : Behind sub (before ++ (sub ++ post)) post := by
  refine ⟨before, rfl, fun pre' post' hs => ?_⟩
  rcases List.append_eq_append_iff.1 hs with ⟨t, rfl, -⟩ | ⟨t, rfl, ht⟩
  · rw [List.length_append]
    omega
  · rcases List.append_eq_append_iff.1 ht with ⟨u, rfl, -⟩ | ⟨u, rfl, -⟩
    · exact absurd ⟨pre', u, List.append_assoc pre' sub u⟩ hno
    · rcases List.eq_nil_or_concat t with rfl | ⟨t, c, rfl⟩
      · rw [List.append_nil]
      · obtain rfl := hlast c (by simp)
        exact absurd (by simp) hsub

theorem isDigit_of_isSpace {c : Char} (h : isSpace c = true) : c.isDigit = false := by
  rw [Bool.eq_false_iff]
  intro hd
  rw [isSpace_of_isDigit hd] at h
  cases h

end StringUtils

namespace StreamProgressThread
open StringUtils

/-! ### The first number of a text -/

/-- `digits` is the first run of digits in `s`. -/
def FirstDigits (s digits : List Char) : Prop :=
  ∃ mid post, s = mid ++ (digits ++ post) ∧ digits ≠ [] ∧ (∀ c ∈ mid, c.isDigit = false) ∧
    (∀ c ∈ digits, c.isDigit = true) ∧ ∀ c ∈ post.head?, c.isDigit = false

variable {s digits text : List Char} {n m : Nat} {totalFileSize : Int}

theorem searchDigits_of_firstDigits (h : FirstDigits s digits) : searchDigits s = digits := by
  obtain ⟨mid, post, rfl, hne, hmid, hdigits, hpost⟩ := h
  obtain ⟨d, ds, rfl⟩ := List.exists_cons_of_ne_nil hne
  have hdrop : (mid ++ (d :: ds ++ post)).dropWhile (fun c => !c.isDigit) = d :: ds ++ post := by
    rw [List.dropWhile_append_of_pos fun c hc => by rw [hmid c hc]; rfl, List.cons_append,
      List.dropWhile_cons_of_neg (by simp [hdigits d])]
  have htake : post.takeWhile Char.isDigit = [] := by
    cases post with
    | nil => rfl
    | cons c post => exact List.takeWhile_cons_of_neg (by simpa using hpost c (by simp))
  rw [searchDigits, hdrop, List.takeWhile_append_of_pos hdigits, htake, List.append_nil]

theorem firstDigits_searchDigits (h : searchDigits s ≠ []) : FirstDigits s (searchDigits s) := by
  refine ⟨s.takeWhile fun c => !c.isDigit, (s.dropWhile fun c => !c.isDigit).dropWhile Char.isDigit, ?_, h, ?_, ?_, ?_⟩
  · rw [searchDigits, List.takeWhile_append_dropWhile, List.takeWhile_append_dropWhile]
  · intro c hc
    simpa using List.mem_takeWhile_imp hc
  · exact fun c hc => List.mem_takeWhile_imp hc
  · intro c hc
    cases hd : (s.dropWhile fun c => !c.isDigit).dropWhile Char.isDigit with
    | nil => simp [hd] at hc
    | cons d t =>
      have := List.head_dropWhile_not Char.isDigit (by rw [hd]; exact List.cons_ne_nil d t)
      rw [hd] at hc
      obtain rfl : d = c := by simpa using hc
      simpa [hd] using this

/-- The number that a search of `text` for the key and then for digits meets. -/
def Meets (text : List Char) (n : Nat) : Prop :=
  ∃ rest digits, Behind contentLengthKey text rest ∧ FirstDigits rest digits ∧ digitsToNat digits = n

theorem Meets.unique (h : Meets text n) (h' : Meets text m) : n = m := by
  obtain ⟨rest, digits, hrest, hdigits, rfl⟩ := h
  obtain ⟨rest', digits', hrest', hdigits', rfl⟩ := h'
  obtain rfl := hrest.unique hrest'
  rw [← searchDigits_of_firstDigits hdigits, searchDigits_of_firstDigits hdigits']

/-- The source decides by the number it meets, if there is one. -/
theorem checkFileSize_cases (text : List Char) (totalFileSize : Int) :
    (∃ n, Meets text n ∧ checkFileSize true text totalFileSize =
      if n < 2 ^ 63 then some (decide (0 < totalFileSize ∧ (n : Int) = totalFileSize)) else none) ∨
    (¬∃ n, Meets text n) ∧ checkFileSize true text totalFileSize = some false := by
  unfold checkFileSize
  cases hfind : findString contentLengthKey text with
  | none =>
    right
    refine ⟨?_, rfl⟩
    rintro ⟨n, rest, digits, hrest, -⟩
    exact findString_eq_none hfind hrest
  | some pos =>
    have hrest := findString_eq_some hfind
    by_cases hdigits : searchDigits (text.drop (pos + contentLengthKey.length)) = []
    · right
      refine ⟨?_, by simp [hdigits]⟩
      rintro ⟨n, rest, digits, hrest', hfirst, -⟩
      obtain rfl := hrest.unique hrest'
      rw [searchDigits_of_firstDigits hfirst] at hdigits
      obtain ⟨-, -, -, hne, -⟩ := hfirst
      exact hne hdigits
    · left
      refine ⟨_, ⟨_, _, hrest, firstDigits_searchDigits hdigits, rfl⟩, ?_⟩
      simp only [Bool.not_true, Bool.false_eq_true, if_false, hdigits, stoll]
      split
      · rw [Option.map_some, Option.some.injEq, Bool.eq_iff_iff]
        simp only [Bool.not_eq_true', Bool.or_eq_false_iff, decide_eq_false_iff_not, decide_eq_true_eq, not_le, ne_eq,
          not_not]
        constructor
        · rintro ⟨hpos, heq⟩
          exact ⟨heq ▸ hpos, heq⟩
        · rintro ⟨hpos, heq⟩
          exact ⟨heq ▸ hpos, heq⟩
      · rfl

/-! ### What a server sends -/

abbrev LineText := { s : List Char // '\r' ∉ s ∧ '\n' ∉ s }

structure HeaderLine where
  name : LineText
  value : LineText
  colon_not_mem : ':' ∉ name.1

structure Response where
  statusLine : LineText
  headers : List HeaderLine

def crlf : List Char := "\r\n".toList

def HeaderLine.line (h : HeaderLine) : List Char := h.name.1 ++ ':' :: h.value.1 ++ crlf

/-- The lines the callback is called with, the empty one at the end of the block included. -/
def Response.lines (r : Response) : List (List Char) :=
  (r.statusLine.1 ++ crlf) :: r.headers.map HeaderLine.line ++ [crlf]

def headerData (responses : List Response) : List Char := (responses.flatMap Response.lines).foldl headerCallback []

/-- The length a line announces; the name may be written in capital letters or not. -/
def HeaderLine.contentLength (h : HeaderLine) : Option Nat :=
  if h.name.1.map Char.toLower = "content-length".toList ∧ trim h.value.1 ≠ [] ∧ (trim h.value.1).all Char.isDigit then
    some (digitsToNat (trim h.value.1))
  else none

/-- The response has a header for the length, and its value is the size that is expected. -/
def Announced (final : Response) (totalFileSize : Int) : Prop :=
  0 < totalFileSize ∧ ∃ h ∈ final.headers, h.contentLength = some totalFileSize.toNat

instance (final : Response) (totalFileSize : Int) : Decidable (Announced final totalFileSize) :=
  inferInstanceAs (Decidable (_ ∧ _))

/-- The check decides by the last of the responses and fails in no other way. -/
structure SizeChecked (redirects : List Response) (final : Response) (totalFileSize : Int) : Prop where
  accepts : checkFileSize true (headerData (redirects ++ [final])) totalFileSize = some true ↔
    Announced final totalFileSize
  rejects : ¬Announced final totalFileSize →
    checkFileSize true (headerData (redirects ++ [final])) totalFileSize = some false

variable {redirects : List Response} {final : Response}

/-- The number met is none of an `int64_t`. -/
def TooLong (text : List Char) : Prop := ∃ n, Meets text n ∧ 2 ^ 63 ≤ n

/-- The size is announced, and it is not the number met. -/
def Missed (final : Response) (text : List Char) (totalFileSize : Int) : Prop :=
  Announced final totalFileSize ∧ ¬Meets text totalFileSize.toNat

/-- The number met is the size, and it is not announced. -/
def Mistaken (final : Response) (text : List Char) (totalFileSize : Int) : Prop :=
  ¬Announced final totalFileSize ∧ 0 < totalFileSize ∧ Meets text totalFileSize.toNat

theorem Meets.eq_iff (h : Meets text n) (hpos : 0 < totalFileSize) :
    (n : Int) = totalFileSize ↔ Meets text totalFileSize.toNat := by
  constructor
  · intro he
    rwa [← he, Int.toNat_natCast]
  · intro h'
    have := h.unique h'
    omega

/-- What the check makes of the number it meets. -/
theorem checkFileSize_eq_some_true_iff : checkFileSize true text totalFileSize = some true ↔
    ¬TooLong text ∧ 0 < totalFileSize ∧ Meets text totalFileSize.toNat := by
  rcases checkFileSize_cases text totalFileSize with ⟨n, hn, heq⟩ | ⟨hno, heq⟩
  · rw [heq]
    constructor
    · intro h
      split at h
      · rename_i hlt
        rw [Option.some.injEq, decide_eq_true_eq] at h
        refine ⟨?_, h.1, (hn.eq_iff h.1).1 h.2⟩
        rintro ⟨m, hm, hge⟩
        have := hn.unique hm
        omega
      · cases h
    · rintro ⟨hlong, hpos, hmeets⟩
      have hlt : n < 2 ^ 63 := by
        by_contra hge
        exact hlong ⟨n, hn, by omega⟩
      rw [if_pos hlt, decide_eq_true ⟨hpos, (hn.eq_iff hpos).2 hmeets⟩]
  · rw [heq]
    exact iff_of_false (by decide) fun h => hno ⟨_, h.2.2⟩

theorem checkFileSize_eq_none_iff : checkFileSize true text totalFileSize = none ↔ TooLong text := by
  rcases checkFileSize_cases text totalFileSize with ⟨n, hn, heq⟩ | ⟨hno, heq⟩
  · rw [heq]
    constructor
    · intro h
      split at h
      · cases h
      · exact ⟨n, hn, by omega⟩
    · rintro ⟨m, hm, hge⟩
      have := hn.unique hm
      rw [if_neg (by omega)]
  · rw [heq]
    exact iff_of_false (by decide) fun ⟨n, hn, _⟩ => hno ⟨n, hn⟩

theorem sizeChecked_of_not (hlong : ¬TooLong (headerData (redirects ++ [final])))
    (hmissed : ¬Missed final (headerData (redirects ++ [final])) totalFileSize)
    (hmistaken : ¬Mistaken final (headerData (redirects ++ [final])) totalFileSize) :
    SizeChecked redirects final totalFileSize := by
  have haccepts : checkFileSize true (headerData (redirects ++ [final])) totalFileSize = some true ↔
      Announced final totalFileSize := by
    rw [checkFileSize_eq_some_true_iff]
    constructor
    · rintro ⟨-, hpos, hmeets⟩
      by_contra hann
      exact hmistaken ⟨hann, hpos, hmeets⟩
    · intro hann
      refine ⟨hlong, hann.1, ?_⟩
      by_contra hmeets
      exact hmissed ⟨hann, hmeets⟩
  refine ⟨haccepts, fun hann => ?_⟩
  cases hres : checkFileSize true (headerData (redirects ++ [final])) totalFileSize with
  | none => exact absurd (checkFileSize_eq_none_iff.1 hres) hlong
  | some isRight =>
    cases isRight with
    | false => rfl
    | true => exact absurd (haccepts.1 hres) hann

theorem headerData_eq (responses : List Response) :
    headerData responses = (responses.flatMap Response.lines).flatten := by
  have hfold : ∀ (lines : List (List Char)) (header : List Char),
      lines.foldl headerCallback header = header ++ lines.flatten := by
    intro lines
    induction lines with
    | nil => intro header; simp
    | cons line lines ih => intro header; rw [List.foldl_cons, ih, headerCallback, List.flatten_cons, List.append_assoc]
  exact hfold _ []

/-- The digits of a value stand first in it, whatever follows its line. -/
theorem firstDigits_value {value rest : List Char} (hne : trim value ≠ []) (hall : (trim value).all Char.isDigit) :
    FirstDigits (value ++ crlf ++ rest) (trim value) := by
  refine ⟨value.takeWhile isSpace, (lTrim value).rtakeWhile isSpace ++ crlf ++ rest, ?_, hne, ?_, ?_, ?_⟩
  · have hr : trim value ++ (lTrim value).rtakeWhile isSpace = lTrim value :=
      List.rdropWhile_append_rtakeWhile
    calc value ++ crlf ++ rest = value.takeWhile isSpace ++ lTrim value ++ crlf ++ rest := by
          rw [lTrim, List.takeWhile_append_dropWhile]
      _ = value.takeWhile isSpace ++ (trim value ++ (lTrim value).rtakeWhile isSpace) ++ crlf ++ rest := by rw [hr]
      _ = value.takeWhile isSpace ++ (trim value ++ ((lTrim value).rtakeWhile isSpace ++ crlf ++ rest)) := by
          simp only [List.append_assoc]
  · exact fun c hc => isDigit_of_isSpace (List.mem_takeWhile_imp hc)
  · exact fun c hc => List.all_eq_true.1 hall c hc
  · intro c hc
    cases hw : (lTrim value).rtakeWhile isSpace with
    | nil =>
      rw [hw] at hc
      obtain rfl : '\r' = c := by simpa [crlf] using hc
      decide
    | cons d w =>
      rw [hw] at hc
      obtain rfl : d = c := by simpa using hc
      exact isDigit_of_isSpace (List.mem_rtakeWhile_imp (hw ▸ List.mem_cons_self))

theorem getLast?_flatten {lines : List (List Char)} (h : ∀ line ∈ lines, line.getLast? = some '\n') :
    ∀ c ∈ lines.flatten.getLast?, c = '\n' := by
  induction lines with
  | nil => intro c hc; cases hc
  | cons line lines ih =>
    intro c hc
    rw [List.flatten_cons, List.getLast?_append] at hc
    cases hlast : lines.flatten.getLast? with
    | none =>
      rw [hlast, Option.none_or, h line List.mem_cons_self] at hc
      exact (Option.some.inj hc).symm
    | some d =>
      rw [hlast, Option.some_or] at hc
      obtain rfl := Option.some.inj hc
      exact ih (fun line hline => h line (List.mem_cons_of_mem _ hline)) d hlast

/-- Where nothing in front of it holds the key, the header of the last response is the one that is met. -/
theorem meets_of_first {hs hs' : List HeaderLine} {h : HeaderLine} (hfinal : final.headers = hs ++ h :: hs')
    (hname : h.name.1 = "Content-Length".toList) (hvalue : h.contentLength = some n)
    (hno : ¬contentLengthKey <:+: (redirects.flatMap Response.lines ++
      (final.statusLine.1 ++ crlf) :: hs.map HeaderLine.line).flatten) :
    Meets (headerData (redirects ++ [final])) n := by
  rw [HeaderLine.contentLength, ite_eq_iff] at hvalue
  obtain ⟨⟨-, hne, hall⟩, hn⟩ | ⟨-, hn⟩ := hvalue
  · refine ⟨h.value.1 ++ crlf ++ ((hs'.map HeaderLine.line).flatten ++ crlf), _, ?_, firstDigits_value hne hall,
      Option.some.inj hn⟩
    have htext : headerData (redirects ++ [final]) = (redirects.flatMap Response.lines ++
        (final.statusLine.1 ++ crlf) :: hs.map HeaderLine.line).flatten ++ (contentLengthKey ++
          (h.value.1 ++ crlf ++ ((hs'.map HeaderLine.line).flatten ++ crlf))) := by
      have hkey : h.line = contentLengthKey ++ (h.value.1 ++ crlf) := by
        rw [HeaderLine.line, hname]
        rfl
      rw [headerData_eq]
      simp [Response.lines, hfinal, hkey]
    rw [htext]
    refine behind_of_lines (by decide) (getLast?_flatten fun line hline => ?_) hno
    have hcrlf : ∀ s : List Char, (s ++ crlf).getLast? = some '\n' := fun s => by
      rw [List.getLast?_append]
      rfl
    rcases List.mem_append.1 hline with hline | hline
    · obtain ⟨r, -, hr⟩ := List.mem_flatMap.1 hline
      simp only [Response.lines, List.mem_append, List.mem_cons, List.mem_map, List.not_mem_nil, or_false] at hr
      rcases hr with (rfl | ⟨h, -, rfl⟩) | rfl
      exacts [hcrlf _, hcrlf _, rfl]
    · rcases List.mem_cons.1 hline with rfl | hline
      · exact hcrlf _
      · obtain ⟨h, -, rfl⟩ := List.mem_map.1 hline
        exact hcrlf _
  · cases hn

/-- The check is right for every size where the last response announces one length, of an `int64_t`, and nothing in
front of that header holds the key. -/
theorem sizeChecked_of_first {hs hs' : List HeaderLine} {h : HeaderLine} (hfinal : final.headers = hs ++ h :: hs')
    (hname : h.name.1 = "Content-Length".toList) (hvalue : h.contentLength = some n) (hn : n < 2 ^ 63)
    (hone : ∀ h' ∈ final.headers, ∀ n', h'.contentLength = some n' → n' = n)
    (hno : ¬contentLengthKey <:+: (redirects.flatMap Response.lines ++
      (final.statusLine.1 ++ crlf) :: hs.map HeaderLine.line).flatten) (totalFileSize : Int) :
    SizeChecked redirects final totalFileSize := by
  have hmeets := meets_of_first hfinal hname hvalue hno
  have hmem : h ∈ final.headers := by rw [hfinal]; simp
  refine sizeChecked_of_not ?_ ?_ ?_
  · rintro ⟨m, hm, hge⟩
    have := hmeets.unique hm
    omega
  · rintro ⟨⟨-, h', hh', hlen⟩, hnot⟩
    exact hnot (hone h' hh' _ hlen ▸ hmeets)
  · rintro ⟨hnot, hpos, hm⟩
    exact hnot ⟨hpos, h, hmem, hvalue.trans (congrArg some (hmeets.unique hm))⟩

end StreamProgressThread

end UpdateService
