import Mathlib.Data.List.TakeWhile

/-!
# JSON texts

A text is a JSON text of a value if its tokens are the tokens of the value; numbers are kept as they are written.
The lexer goes through the text once, so that what it makes of a text is what it makes of the pieces. `Denotes`
is about a piece in the place of a value, and `Denotes.object` puts an object together from its members.
-/

inductive JsonToken
  | beginObject | endObject | beginArray | endArray | nameSeparator | valueSeparator
  | string (s : List Char)
  | number (lexeme : List Char)
  | literal (name : List Char)
deriving DecidableEq, Repr

inductive JsonValue
  | string (s : List Char)
  | number (lexeme : List Char)
  | literal (name : List Char)
  | array (items : List JsonValue)
  | object (members : List (List Char × JsonValue))
deriving Inhabited

namespace JsonValue

mutual

def tokens : JsonValue → List JsonToken
  | string s => [.string s]
  | number lexeme => [.number lexeme]
  | literal name => [.literal name]
  | array items => .beginArray :: (itemTokens items ++ [.endArray])
  | object members => .beginObject :: (memberTokens members ++ [.endObject])

def itemTokens : List JsonValue → List JsonToken
  | [] => []
  | item :: items => item.tokens ++ restTokens items

def restTokens : List JsonValue → List JsonToken
  | [] => []
  | item :: items => .valueSeparator :: (item.tokens ++ restTokens items)

def memberTokens : List (List Char × JsonValue) → List JsonToken
  | [] => []
  | (name, value) :: members => .string name :: .nameSeparator :: (value.tokens ++ restMemberTokens members)

def restMemberTokens : List (List Char × JsonValue) → List JsonToken
  | [] => []
  | (name, value) :: members =>
    .valueSeparator :: .string name :: .nameSeparator :: (value.tokens ++ restMemberTokens members)

end

/-- No value begins with a closing bracket. -/
theorem tokens_append_ne_endArray (v : JsonValue) (E E' : List JsonToken) : v.tokens ++ E ≠ .endArray :: E' := by
  cases v <;> simp [tokens]

mutual

/-- A sequence of tokens begins with at most one value. -/
theorem tokens_append_inj (v w : JsonValue) (E E' : List JsonToken) (h : v.tokens ++ E = w.tokens ++ E') :
    v = w ∧ E = E' := by
  cases v with
  | string s => cases w <;> simp_all [tokens]
  | number lexeme => cases w <;> simp_all [tokens]
  | literal name => cases w <;> simp_all [tokens]
  | array items =>
    cases w with
    | array items' =>
      simp only [tokens, List.cons_append, List.append_assoc, List.cons.injEq, true_and, List.nil_append] at h
      obtain ⟨rfl, hE⟩ := itemTokens_append_inj items items' E E' h
      exact ⟨rfl, hE⟩
    | string _ | number _ | literal _ | object _ => simp [tokens] at h
  | object members =>
    cases w with
    | object members' =>
      simp only [tokens, List.cons_append, List.append_assoc, List.cons.injEq, true_and, List.nil_append] at h
      obtain ⟨rfl, hE⟩ := memberTokens_append_inj members members' E E' h
      exact ⟨rfl, hE⟩
    | string _ | number _ | literal _ | array _ => simp [tokens] at h

theorem itemTokens_append_inj (items items' : List JsonValue) (E E' : List JsonToken)
    (h : itemTokens items ++ .endArray :: E = itemTokens items' ++ .endArray :: E') : items = items' ∧ E = E' := by
  cases items with
  | nil =>
    cases items' with
    | nil => exact ⟨rfl, List.tail_eq_of_cons_eq h⟩
    | cons item' items' =>
      rw [itemTokens, itemTokens, List.append_assoc] at h
      exact absurd h.symm (tokens_append_ne_endArray _ _ _)
  | cons item items =>
    cases items' with
    | nil =>
      rw [itemTokens, itemTokens, List.append_assoc] at h
      exact absurd h (tokens_append_ne_endArray _ _ _)
    | cons item' items' =>
      rw [itemTokens, itemTokens, List.append_assoc, List.append_assoc] at h
      obtain ⟨rfl, hrest⟩ := tokens_append_inj item item' _ _ h
      obtain ⟨rfl, hE⟩ := restTokens_append_inj items items' E E' hrest
      exact ⟨rfl, hE⟩

theorem restTokens_append_inj (items items' : List JsonValue) (E E' : List JsonToken)
    (h : restTokens items ++ .endArray :: E = restTokens items' ++ .endArray :: E') : items = items' ∧ E = E' := by
  cases items with
  | nil =>
    cases items' with
    | nil => exact ⟨rfl, List.tail_eq_of_cons_eq h⟩
    | cons item' items' => simp [restTokens] at h
  | cons item items =>
    cases items' with
    | nil => simp [restTokens] at h
    | cons item' items' =>
      simp only [restTokens, List.cons_append, List.append_assoc, List.cons.injEq, true_and] at h
      obtain ⟨rfl, hrest⟩ := tokens_append_inj item item' _ _ h
      obtain ⟨rfl, hE⟩ := restTokens_append_inj items items' E E' hrest
      exact ⟨rfl, hE⟩

theorem memberTokens_append_inj (members members' : List (List Char × JsonValue)) (E E' : List JsonToken)
    (h : memberTokens members ++ .endObject :: E = memberTokens members' ++ .endObject :: E') :
    members = members' ∧ E = E' := by
  match members, members' with
  | [], [] => exact ⟨rfl, List.tail_eq_of_cons_eq h⟩
  | [], (_, _) :: _ => simp [memberTokens] at h
  | (_, _) :: _, [] => simp [memberTokens] at h
  | (name, value) :: members, (name', value') :: members' =>
    simp only [memberTokens, List.cons_append, List.append_assoc, List.cons.injEq,
      JsonToken.string.injEq, true_and] at h
    obtain ⟨rfl, hvalue⟩ := h
    obtain ⟨rfl, hrest⟩ := tokens_append_inj value value' _ _ hvalue
    obtain ⟨rfl, hE⟩ := restMemberTokens_append_inj members members' E E' hrest
    exact ⟨rfl, hE⟩

theorem restMemberTokens_append_inj (members members' : List (List Char × JsonValue)) (E E' : List JsonToken)
    (h : restMemberTokens members ++ .endObject :: E = restMemberTokens members' ++ .endObject :: E') :
    members = members' ∧ E = E' := by
  match members, members' with
  | [], [] => exact ⟨rfl, List.tail_eq_of_cons_eq h⟩
  | [], (_, _) :: _ => simp [restMemberTokens] at h
  | (_, _) :: _, [] => simp [restMemberTokens] at h
  | (name, value) :: members, (name', value') :: members' =>
    simp only [restMemberTokens, List.cons_append, List.append_assoc, List.cons.injEq,
      JsonToken.string.injEq, true_and] at h
    obtain ⟨rfl, hvalue⟩ := h
    obtain ⟨rfl, hrest⟩ := tokens_append_inj value value' _ _ hvalue
    obtain ⟨rfl, hE⟩ := restMemberTokens_append_inj members members' E E' hrest
    exact ⟨rfl, hE⟩

end

end JsonValue

namespace JsonText

def isWhitespace (c : Char) : Bool := c = ' ' || c = '\t' || c = '\n' || c = '\r'

/-- A character of a number or of a literal. -/
def isWordChar (c : Char) : Bool := c.isAlphanum || c = '+' || c = '-' || c = '.'

def structural : Char → Option JsonToken
  | '{' => some .beginObject
  | '}' => some .endObject
  | '[' => some .beginArray
  | ']' => some .endArray
  | ':' => some .nameSeparator
  | ',' => some .valueSeparator
  | _ => none

def isDigits (s : List Char) : Bool := s ≠ [] && s.all Char.isDigit

def isExponent : List Char → Bool
  | [] => true
  | c :: s => (c = 'e' || c = 'E') && (match s with | '+' :: s | '-' :: s => isDigits s | s => isDigits s)

def isFraction : List Char → Bool
  | '.' :: s => s.takeWhile Char.isDigit ≠ [] && isExponent (s.dropWhile Char.isDigit)
  | s => isExponent s

def isUnsigned : List Char → Bool
  | '0' :: s => isFraction s
  | c :: s => c.isDigit && isFraction (s.dropWhile Char.isDigit)
  | [] => false

def isNumber : List Char → Bool
  | '-' :: s => isUnsigned s
  | s => isUnsigned s

def wordToken (word : List Char) : Option JsonToken :=
  if word = "true".toList ∨ word = "false".toList ∨ word = "null".toList then some (.literal word)
  else if isNumber word then some (.number word)
  else none

def hexDigit (c : Char) : Option Nat :=
  if '0' ≤ c ∧ c ≤ '9' then some (c.toNat - 48)
  else if 'a' ≤ c ∧ c ≤ 'f' then some (c.toNat - 87)
  else if 'A' ≤ c ∧ c ≤ 'F' then some (c.toNat - 55)
  else none

def escaped : Char → Option Char
  | '"' => some '"'
  | '\\' => some '\\'
  | '/' => some '/'
  | 'b' => some (Char.ofNat 8)
  | 'f' => some (Char.ofNat 12)
  | 'n' => some '\n'
  | 'r' => some '\r'
  | 't' => some '\t'
  | _ => none

/-- Where the lexer stands. `high` is the first half of a surrogate pair, whose second half must follow. -/
inductive Mode
  | idle
  | word (word : List Char)
  | string (s : List Char)
  | escape (s : List Char) (high : Option Nat)
  | unicode (s : List Char) (high : Option Nat) (digits value : Nat)
  | low (s : List Char) (high : Nat)
deriving DecidableEq, Repr

def isControl (c : Char) : Bool := c.toNat < 32

def idleStep (c : Char) : Option (Mode × List JsonToken) :=
  if isWhitespace c then some (.idle, [])
  else if c = '"' then some (.string [], [])
  else if isWordChar c then some (.word [c], [])
  else (structural c).map fun t => (.idle, [t])

/-- The character of a `\u` escape, alone or as the second half of a pair. -/
def unicodeStep (s : List Char) (high : Option Nat) (value : Nat) : Option (Mode × List JsonToken) :=
  match high with
  | none =>
    if 0xD800 ≤ value ∧ value < 0xDC00 then some (.low s value, [])
    else if 0xDC00 ≤ value ∧ value < 0xE000 then none
    else some (.string (s ++ [Char.ofNat value]), [])
  | some high =>
    if 0xDC00 ≤ value ∧ value < 0xE000 then
      some (.string (s ++ [Char.ofNat (0x10000 + (high - 0xD800) * 0x400 + (value - 0xDC00))]), [])
    else none

def step : Mode → Char → Option (Mode × List JsonToken)
  | .idle, c => idleStep c
  | .word word, c =>
    if isWordChar c then some (.word (word ++ [c]), [])
    else (wordToken word).bind fun t => (idleStep c).map fun x => (x.1, t :: x.2)
  | .string s, c =>
    if c = '"' then some (.idle, [.string s])
    else if c = '\\' then some (.escape s none, [])
    else if isControl c then none
    else some (.string (s ++ [c]), [])
  | .escape s high, c =>
    if c = 'u' then some (.unicode s high 0 0, [])
    else match high with
      | none => (escaped c).map fun e => (.string (s ++ [e]), [])
      | some _ => none
  | .unicode s high digits value, c =>
    (hexDigit c).bind fun d =>
      if digits < 3 then some (.unicode s high (digits + 1) (16 * value + d), [])
      else unicodeStep s high (16 * value + d)
  | .low s high, c => if c = '\\' then some (.escape s (some high), []) else none

def finish : Mode → Option (List JsonToken)
  | .idle => some []
  | .word word => (wordToken word).map fun t => [t]
  | .string _ | .escape _ _ | .unicode _ _ _ _ | .low _ _ => none

/-- The tokens of a text that begins in the given mode. -/
def lexFrom : Mode → List Char → Option (List JsonToken)
  | m, [] => finish m
  | m, c :: text => (step m c).bind fun x => (lexFrom x.1 text).map (x.2 ++ ·)

def lex (text : List Char) : Option (List JsonToken) := lexFrom .idle text

/-- `text` is a JSON text of `v`. -/
def IsText (text : List Char) (v : JsonValue) : Prop := lex text = some v.tokens

/-- A text has one value. -/
theorem IsText.iff_eq {text : List Char} {v w : JsonValue} (h : IsText text v) : IsText text w ↔ w = v := by
  constructor
  · intro hw
    have htokens : w.tokens = v.tokens := Option.some.inj (hw.symm.trans h)
    exact (JsonValue.tokens_append_inj w v [] [] (by rw [htokens])).1
  · rintro rfl
    exact h

/-! ### Pieces of a text -/

/-- No character has to be escaped. -/
def IsPlain (s : List Char) : Prop := ∀ c ∈ s, c ≠ '"' ∧ c ≠ '\\' ∧ isControl c = false

instance (s : List Char) : Decidable (IsPlain s) :=
  decidable_of_iff (s.all (fun c => c != '"' && c != '\\' && !isControl c) = true)
    (by simp [IsPlain, List.all_eq_true, and_assoc])

/-- What stands before `rest` is not a part of a word with it. -/
def EndsWord (rest : List Char) : Prop := ∀ c, rest.head? = some c → isWordChar c = false

variable {rest text s : List Char} {E V : List JsonToken} {v : JsonValue} {m : Mode}

theorem lexFrom_structural {c : Char} {t : JsonToken} (h : idleStep c = some (.idle, [t])) (rest : List Char) :
    lexFrom .idle (c :: rest) = (lexFrom .idle rest).map (t :: ·) := by
  rw [lexFrom, step, h]
  rfl

theorem lexFrom_string (hs : IsPlain s) (acc rest : List Char) :
    lexFrom (.string acc) (s ++ '"' :: rest) = (lexFrom .idle rest).map (.string (acc ++ s) :: ·) := by
  induction s generalizing acc with
  | nil =>
    rw [List.nil_append, lexFrom, List.append_nil]
    rfl
  | cons c s ih =>
    obtain ⟨⟨hquote, hbackslash, hcontrol⟩, hs⟩ := List.forall_mem_cons.1 hs
    have hstep : step (.string acc) c = some (.string (acc ++ [c]), []) := by
      rw [step, if_neg hquote, if_neg hbackslash, hcontrol, if_neg Bool.false_ne_true]
    rw [List.cons_append, lexFrom, hstep, Option.bind_some, ih hs, List.append_assoc, List.singleton_append]
    exact Option.map_id' ..

theorem lexFrom_append (h : lexFrom m text = some V) (hrest : EndsWord rest) :
    lexFrom m (text ++ rest) = (lexFrom .idle rest).map (V ++ ·) := by
  induction text generalizing m V with
  | nil =>
    cases m with
    | idle =>
      obtain rfl : [] = V := Option.some.inj h
      exact (Option.map_id' ..).symm
    | word word =>
      obtain ⟨t, ht, rfl⟩ := Option.map_eq_some_iff.1 h
      cases rest with
      | nil => exact h
      | cons c rest =>
        have hc : isWordChar c = false := hrest c rfl
        rw [List.nil_append, lexFrom, lexFrom, step, step, hc, if_neg Bool.false_ne_true, ht, Option.bind_some]
        cases idleStep c with
        | none => rfl
        | some x => simp [Option.map_map, Function.comp_def]
    | string _ | escape _ _ | unicode _ _ _ _ | low _ _ => cases h
  | cons c text ih =>
    rw [lexFrom] at h
    obtain ⟨x, hx, h⟩ := Option.bind_eq_some_iff.1 h
    obtain ⟨V', hV', rfl⟩ := Option.map_eq_some_iff.1 h
    rw [List.cons_append, lexFrom, hx, Option.bind_some, ih hV', Option.map_map]
    simp [Function.comp_def]

/-! ### A string that is not escaped -/

/-- The characters a string mode has decoded. -/
def Mode.decoded : Mode → Option (List Char)
  | .string s | .escape s _ | .unicode s _ _ _ | .low s _ => some s
  | .idle | .word _ => none

/-- Of `w` with a quote behind it a string `e` is read: then an escape has given `e` a quote early, or `e` is
shorter than `w`, or nothing was escaped. Inside an escape one character has been read for nothing. -/
def ReadOf (m : Mode) (w e : List Char) : Prop :=
  match m with
  | .string _ => (∃ i < w.length, e[i]? = some '"') ∨ e.length < w.length ∨ (e = w ∧ IsPlain w)
  | _ => (∃ i ≤ w.length, e[i]? = some '"') ∨ e.length ≤ w.length

theorem ReadOf.weaken {m m' : Mode} {c : Char} {w e : List Char} (hm : ∀ s, m ≠ .string s) (hm' : ∀ s, m' ≠ .string s)
    (h : ReadOf m w e) : ReadOf m' (c :: w) e := by
  have h : (∃ i ≤ w.length, e[i]? = some '"') ∨ e.length ≤ w.length := by
    cases m <;> first | exact h | exact absurd rfl (hm _)
  have h' : (∃ i ≤ (c :: w).length, e[i]? = some '"') ∨ e.length ≤ (c :: w).length := by
    rw [List.length_cons]
    rcases h with ⟨i, hi, he⟩ | h
    · exact .inl ⟨i, by omega, he⟩
    · exact .inr (by omega)
  cases m' <;> first | exact h' | exact absurd rfl (hm' _)

theorem ReadOf.decode {m : Mode} {c d : Char} {acc w e : List Char} (hm : ∀ s, m ≠ .string s)
    (h : ReadOf (.string acc) w e) :
    ReadOf m (c :: w) (d :: e) := by
  have h' : (∃ i ≤ (c :: w).length, (d :: e)[i]? = some '"') ∨ (d :: e).length ≤ (c :: w).length := by
    rw [List.length_cons, List.length_cons]
    rcases h with ⟨i, hi, he⟩ | h | ⟨rfl, -⟩
    · exact .inl ⟨i + 1, by omega, he⟩
    · exact .inr (by omega)
    · exact .inr (Nat.le_refl _)
  cases m <;> first | exact h' | exact absurd rfl (hm _)

theorem ReadOf.escape {m : Mode} {acc w e : List Char} {c : Char} (hm : ∀ s, m ≠ .string s) (h : ReadOf m w e) :
    ReadOf (.string acc) (c :: w) e := by
  have h : (∃ i ≤ w.length, e[i]? = some '"') ∨ e.length ≤ w.length := by
    cases m <;> first | exact h | exact absurd rfl (hm _)
  rcases h with ⟨i, hi, he⟩ | h
  · exact .inl ⟨i, Nat.lt_succ_of_le hi, he⟩
  · exact .inr (.inl (Nat.lt_succ_of_le h))

theorem ReadOf.plain {acc acc' w e : List Char} {c : Char} (hc : c ≠ '"' ∧ c ≠ '\\' ∧ isControl c = false)
    (h : ReadOf (.string acc) w e) : ReadOf (.string acc') (c :: w) (c :: e) := by
  rcases h with ⟨i, hi, he⟩ | h | ⟨rfl, h⟩
  · exact .inl ⟨i + 1, Nat.succ_lt_succ hi, he⟩
  · exact .inr (.inl (Nat.succ_lt_succ h))
  · exact .inr (.inr ⟨rfl, List.forall_mem_cons.2 ⟨hc, h⟩⟩)

/-- A step inside a string ends it, goes on with an escape or decodes one character. -/
theorem step_cases {acc : List Char} {c : Char} {x : Mode × List JsonToken} (hacc : m.decoded = some acc)
    (h : step m c = some x) :
    (c = '"' ∧ m = .string acc ∧ x = (.idle, [.string acc])) ∨
    (c ≠ '"' ∧ (∀ s, x.1 ≠ .string s) ∧ x.1.decoded = some acc ∧ x.2 = []) ∨
    ∃ d, x = (.string (acc ++ [d]), []) ∧
      ((∀ s, m ≠ .string s) ∧ (c = '"' → d = '"') ∨ (d = c ∧ c ≠ '"' ∧ c ≠ '\\' ∧ isControl c = false)) := by
  cases m with
  | idle | word _ => cases hacc
  | string s =>
    obtain rfl := Option.some.inj hacc
    rw [step] at h
    split at h
    · rename_i hc
      exact .inl ⟨hc, rfl, (Option.some.inj h).symm⟩
    rename_i hquote
    split at h
    · obtain rfl := Option.some.inj h
      exact .inr (.inl ⟨hquote, by simp, rfl, rfl⟩)
    rename_i hbackslash
    split at h
    · cases h
    rename_i hcontrol
    exact .inr (.inr ⟨c, (Option.some.inj h).symm, .inr ⟨rfl, hquote, hbackslash, by simpa using hcontrol⟩⟩)
  | escape s high =>
    obtain rfl := Option.some.inj hacc
    simp only [step] at h
    split at h
    · rename_i hu
      obtain rfl := Option.some.inj h
      exact .inr (.inl ⟨by rw [hu]; decide, by simp, rfl, rfl⟩)
    cases high with
    | some _ => cases h
    | none =>
      obtain ⟨e, he, rfl⟩ := Option.map_eq_some_iff.1 h
      refine .inr (.inr ⟨e, rfl, .inl ⟨by simp, ?_⟩⟩)
      rintro rfl
      exact (Option.some.inj he).symm
  | unicode s high digits value =>
    obtain rfl := Option.some.inj hacc
    rw [step] at h
    obtain ⟨d, hd, h⟩ := Option.bind_eq_some_iff.1 h
    have hquote : c ≠ '"' := by
      rintro rfl
      cases hd
    split at h
    · obtain rfl := Option.some.inj h
      exact .inr (.inl ⟨hquote, by simp, rfl, rfl⟩)
    cases high with
    | none =>
      rw [unicodeStep] at h
      split at h
      · obtain rfl := Option.some.inj h
        exact .inr (.inl ⟨hquote, by simp, rfl, rfl⟩)
      split at h
      · cases h
      · exact .inr (.inr ⟨_, (Option.some.inj h).symm, .inl ⟨by simp, fun hc => absurd hc hquote⟩⟩)
    | some high =>
      rw [unicodeStep] at h
      split at h
      · exact .inr (.inr ⟨_, (Option.some.inj h).symm, .inl ⟨by simp, fun hc => absurd hc hquote⟩⟩)
      · cases h
  | low s high =>
    obtain rfl := Option.some.inj hacc
    rw [step] at h
    split at h
    · rename_i hc
      obtain rfl := Option.some.inj h
      exact .inr (.inl ⟨by rw [hc]; decide, by simp, rfl, rfl⟩)
    · cases h

theorem lexFrom_cons_eq_some {c : Char} {T : List JsonToken} (h : lexFrom m (c :: text) = some T) :
    ∃ x T', step m c = some x ∧ lexFrom x.1 text = some T' ∧ x.2 ++ T' = T := by
  obtain ⟨x, hx, h⟩ := Option.bind_eq_some_iff.1 h
  obtain ⟨T', hT', rfl⟩ := Option.map_eq_some_iff.1 h
  exact ⟨x, T', hx, hT', rfl⟩

/-- What has been decoded of a string stays. -/
theorem decoded_prefix {acc d : List Char} (hacc : m.decoded = some acc) (h : lexFrom m text = some (.string d :: E)) :
    ∃ e, d = acc ++ e := by
  induction text generalizing m acc with
  | nil =>
    cases m with
    | idle | word _ => cases hacc
    | string _ | escape _ _ | unicode _ _ _ _ | low _ _ => cases h
  | cons c text ih =>
    obtain ⟨x, T', hx, hT', hT⟩ := lexFrom_cons_eq_some h
    rcases step_cases hacc hx with ⟨-, -, rfl⟩ | ⟨-, -, hx', hnil⟩ | ⟨b, rfl, -⟩
    · obtain ⟨hd, -⟩ := List.cons.inj hT
      exact ⟨[], by rw [List.append_nil, JsonToken.string.inj hd]⟩
    · rw [hnil] at hT
      subst hT
      exact ih hx' hT'
    · subst hT
      obtain ⟨e, rfl⟩ := ih rfl hT'
      exact ⟨b :: e, by rw [List.append_assoc]; rfl⟩

/-- The first token of a text that begins inside a string is that string, as far as it has been decoded. -/
theorem readOf_lexFrom {w z acc d : List Char} (hw : ∀ c ∈ w, c ≠ '"') (hacc : m.decoded = some acc)
    (h : lexFrom m (w ++ '"' :: z) = some (.string d :: E)) : ∃ e, d = acc ++ e ∧ ReadOf m w e := by
  induction w generalizing m acc with
  | nil =>
    obtain ⟨x, T', hx, hT', hT⟩ := lexFrom_cons_eq_some h
    rcases step_cases hacc hx with ⟨-, rfl, rfl⟩ | ⟨hc, -⟩ | ⟨b, rfl, ⟨hm, hb⟩ | ⟨-, hc, -⟩⟩
    · obtain ⟨hd, -⟩ := List.cons.inj hT
      exact ⟨[], by rw [List.append_nil, JsonToken.string.inj hd], .inr (.inr ⟨rfl, by simp [IsPlain]⟩)⟩
    · exact absurd rfl hc
    · subst hT
      obtain ⟨e, rfl⟩ := decoded_prefix rfl hT'
      obtain rfl := hb rfl
      refine ⟨'"' :: e, by rw [List.append_assoc]; rfl, ?_⟩
      cases m with
      | string _ => exact absurd rfl (hm _)
      | idle | word _ => cases hacc
      | escape _ _ | unicode _ _ _ _ | low _ _ => exact .inl ⟨0, Nat.le_refl 0, rfl⟩
    · exact absurd rfl hc
  | cons c w ih =>
    obtain ⟨hc, hw⟩ := List.forall_mem_cons.1 hw
    obtain ⟨x, T', hx, hT', hT⟩ := lexFrom_cons_eq_some h
    rcases step_cases hacc hx with ⟨hq, -, -⟩ | ⟨-, hns, hx', hnil⟩ | ⟨b, rfl, hb⟩
    · exact absurd hq hc
    · rw [hnil] at hT
      subst hT
      obtain ⟨e, rfl, he⟩ := ih hw hx' hT'
      refine ⟨e, rfl, ?_⟩
      by_cases hm : ∀ s, m ≠ .string s
      · exact he.weaken hns hm
      · simp only [not_forall, not_not] at hm
        obtain ⟨s, rfl⟩ := hm
        exact he.escape hns
    · subst hT
      obtain ⟨e, rfl, he⟩ := ih hw rfl hT'
      refine ⟨b :: e, by rw [List.append_assoc]; rfl, ?_⟩
      rcases hb with ⟨hb, -⟩ | ⟨rfl, hplain⟩
      · exact he.decode hb
      · cases m with
        | string s => exact he.plain hplain
        | idle | word _ => cases hacc
        | escape _ _ | unicode _ _ _ _ | low _ _ => exact he.decode (by simp)

theorem isPlain_of_lexFrom (h : lexFrom (.string []) (s ++ '"' :: rest) = some (.string s :: E)) : IsPlain s := by
  set w := s.takeWhile (· ≠ '"') with hw
  have hquote : ∀ c ∈ w, c ≠ '"' := fun c hc => by simpa using List.mem_takeWhile_imp hc
  have hsplit : w ++ s.dropWhile (· ≠ '"') = s := List.takeWhile_append_dropWhile
  have hnoquote : ∀ i < w.length, s[i]? ≠ some '"' := by
    intro i hi hs
    rw [← hsplit, List.getElem?_append_left hi] at hs
    exact hquote _ (List.mem_of_getElem? hs) rfl
  have hread : ∃ z, s ++ '"' :: rest = w ++ '"' :: z ∧ (s.length ≤ w.length → s = w) := by
    cases hd : s.dropWhile (· ≠ '"') with
    | nil =>
      rw [hd, List.append_nil] at hsplit
      exact ⟨rest, by rw [hsplit], fun _ => hsplit.symm⟩
    | cons c s' =>
      have hc : c = '"' := by
        have hhead := List.head?_dropWhile_not (· ≠ '"') s
        rw [hd] at hhead
        simpa using hhead
      rw [hd, hc] at hsplit
      refine ⟨s' ++ '"' :: rest, by rw [← hsplit, List.append_assoc]; rfl, fun hle => ?_⟩
      rw [← hsplit, List.length_append, List.length_cons] at hle
      omega
  obtain ⟨z, hz, hlen⟩ := hread
  rw [hz] at h
  obtain ⟨e, hs, he⟩ := readOf_lexFrom hquote rfl h
  obtain rfl : s = e := hs
  rcases he with ⟨i, hi, hq⟩ | hlt | ⟨heq, hplain⟩
  · exact absurd hq (hnoquote i hi)
  · exact absurd (congrArg List.length (hlen hlt.le)) hlt.ne
  · rw [heq]
    exact hplain

/-! ### Values in a text -/

/-- In front of what ends a word, `text` stands for `v` if and only if `safe` holds. -/
def Denotes (safe : Prop) (text : List Char) (v : JsonValue) : Prop :=
  ∀ rest E, EndsWord rest → (lexFrom .idle (text ++ rest) = some (v.tokens ++ E) ↔ safe ∧ lexFrom .idle rest = some E)

theorem map_append_eq_some_iff {o : Option (List JsonToken)} : o.map (V ++ ·) = some (V ++ E) ↔ o = some E := by
  cases o <;> simp

theorem Denotes.of_isText (h : IsText text v) : Denotes True text v := by
  intro rest E hrest
  rw [lexFrom_append h hrest, map_append_eq_some_iff, true_and]

theorem Denotes.string (s : List Char) : Denotes (IsPlain s) ('"' :: (s ++ ['"'])) (.string s) := by
  intro rest E _
  have hopen : lexFrom .idle (('"' :: (s ++ ['"'])) ++ rest) = lexFrom (.string []) (s ++ '"' :: rest) := by
    rw [List.cons_append, List.append_assoc, lexFrom]
    exact Option.map_id' ..
  rw [hopen]
  constructor
  · intro h
    have hs := isPlain_of_lexFrom h
    rw [lexFrom_string hs] at h
    have h : (lexFrom .idle rest).map ([.string s] ++ ·) = some ([.string s] ++ E) := h
    exact ⟨hs, map_append_eq_some_iff.1 h⟩
  · rintro ⟨hs, h⟩
    rw [lexFrom_string hs, h]
    rfl

/-- A member of an object as it is written. -/
def memberText (name text : List Char) : List Char := '"' :: (name ++ '"' :: ':' :: text)

def restMembersText : List (List Char × List Char) → List Char
  | [] => []
  | (name, text) :: members => ',' :: (memberText name text ++ restMembersText members)

def membersText : List (List Char × List Char) → List Char
  | [] => []
  | (name, text) :: members => memberText name text ++ restMembersText members

theorem membersText_concat {members : List (List Char × List Char)} (hm : members ≠ []) (name text : List Char) :
    membersText (members ++ [(name, text)]) = membersText members ++ ',' :: memberText name text := by
  have hrest : ∀ members, restMembersText (members ++ [(name, text)]) =
      restMembersText members ++ ',' :: memberText name text := by
    intro members
    induction members with
    | nil => exact congrArg (',' :: ·) (List.append_nil _)
    | cons m members ih =>
      show ',' :: (memberText m.1 m.2 ++ restMembersText (members ++ [(name, text)])) =
        ',' :: (memberText m.1 m.2 ++ restMembersText members) ++ ',' :: memberText name text
      rw [ih, List.cons_append, List.append_assoc]
  cases members with
  | nil => exact absurd rfl hm
  | cons m members =>
    show memberText m.1 m.2 ++ restMembersText (members ++ [(name, text)]) =
      memberText m.1 m.2 ++ restMembersText members ++ ',' :: memberText name text
    rw [hrest, List.append_assoc]

def objectText (members : List (List Char × List Char)) : List Char := '{' :: (membersText members ++ ['}'])

def restItemsText : List (List Char) → List Char
  | [] => []
  | text :: items => ',' :: (text ++ restItemsText items)

def itemsText : List (List Char) → List Char
  | [] => []
  | text :: items => text ++ restItemsText items

def arrayText (items : List (List Char)) : List Char := '[' :: (itemsText items ++ [']'])

/-- A text in the place of a value, with the condition under which it stands for it. -/
structure Part where
  text : List Char
  value : JsonValue
  safe : Prop
  denotes : Denotes safe text value

/-- A member whose name needs no escape. -/
structure Member extends Part where
  name : List Char
  plain : IsPlain name

theorem lexFrom_memberText {name : List Char} (hname : IsPlain name) (text rest : List Char) :
    lexFrom .idle (memberText name text ++ rest) =
      (lexFrom .idle (text ++ rest)).map fun T => .string name :: .nameSeparator :: T := by
  have hopen : lexFrom .idle (memberText name text ++ rest) = lexFrom (.string [])
    (name ++ '"' :: ':' :: (text ++ rest)) := by
    rw [memberText, List.cons_append, List.append_assoc, lexFrom]
    exact Option.map_id' ..
  rw [hopen, lexFrom_string hname, lexFrom_structural (t := .nameSeparator) (by decide), Option.map_map]
  rfl

theorem endsWord_restMembersText (members : List (List Char × List Char)) (rest : List Char) :
    EndsWord (restMembersText members ++ '}' :: rest) := by
  intro c hc
  cases members with
  | nil =>
    obtain rfl := Option.some.inj hc
    decide
  | cons member members =>
    obtain rfl := Option.some.inj hc
    decide

theorem lexFrom_restMembers (members : List Member) (rest : List Char) (E : List JsonToken) :
    lexFrom .idle (restMembersText (members.map fun m => (m.name, m.text)) ++ '}' :: rest) =
        some (JsonValue.restMemberTokens (members.map fun m => (m.name, m.value)) ++ .endObject :: E) ↔
      (∀ m ∈ members, m.safe) ∧ lexFrom .idle rest = some E := by
  induction members with
  | nil =>
    show lexFrom .idle ('}' :: rest) = some (.endObject :: E) ↔ _
    rw [lexFrom_structural (t := .endObject) (by decide)]
    simp
  | cons m members ih =>
    have hends := endsWord_restMembersText (members.map fun m => (m.name, m.text)) rest
    set text := restMembersText (members.map fun m => (m.name, m.text))
    set tokens := JsonValue.restMemberTokens (members.map fun m => (m.name, m.value))
    have hlex : lexFrom .idle (',' :: (memberText m.name m.text ++ text) ++ '}' :: rest) =
        (lexFrom .idle (m.text ++ (text ++ '}' :: rest))).map ([.valueSeparator, .string m.name, .nameSeparator] ++ ·) := by
      rw [List.cons_append, lexFrom_structural (t := .valueSeparator) (by decide), List.append_assoc,
        lexFrom_memberText m.plain, Option.map_map]
      rfl
    have htokens : .valueSeparator :: .string m.name :: .nameSeparator :: (m.value.tokens ++ tokens) ++ .endObject :: E =
        [.valueSeparator, .string m.name, .nameSeparator] ++ (m.value.tokens ++ (tokens ++ .endObject :: E)) := by
      rw [← List.append_assoc m.value.tokens]
      rfl
    show lexFrom .idle (',' :: (memberText m.name m.text ++ text) ++ '}' :: rest) =
      some (.valueSeparator :: .string m.name :: .nameSeparator :: (m.value.tokens ++ tokens) ++ .endObject :: E) ↔ _
    rw [hlex, htokens, map_append_eq_some_iff, m.denotes _ _ hends, ih, List.forall_mem_cons, and_assoc]

/-- An object stands for its members if each of them stands for its value. -/
theorem Denotes.object (members : List Member) :
    Denotes (∀ m ∈ members, m.safe) (objectText (members.map fun m => (m.name, m.text)))
      (.object (members.map fun m => (m.name, m.value))) := by
  intro rest E _
  have hopen : ∀ text, lexFrom .idle ('{' :: (text ++ ['}']) ++ rest) =
      (lexFrom .idle (text ++ '}' :: rest)).map ([.beginObject] ++ ·) := by
    intro text
    rw [List.cons_append, List.append_assoc, lexFrom_structural (t := .beginObject) (by decide)]
    rfl
  have htokens : ∀ tokens, .beginObject :: (tokens ++ [.endObject]) ++ E = [.beginObject] ++ (tokens ++ .endObject :: E) := by
    intro tokens
    rw [List.cons_append, List.append_assoc]
    rfl
  rw [objectText, hopen, JsonValue.tokens, htokens, map_append_eq_some_iff]
  cases members with
  | nil => exact lexFrom_restMembers [] rest E
  | cons m members =>
    have hrest := lexFrom_restMembers members rest E
    have hends := endsWord_restMembersText (members.map fun m => (m.name, m.text)) rest
    set text := restMembersText (members.map fun m => (m.name, m.text))
    set tokens := JsonValue.restMemberTokens (members.map fun m => (m.name, m.value))
    show lexFrom .idle (memberText m.name m.text ++ text ++ '}' :: rest) =
      some ([.string m.name, .nameSeparator] ++ (m.value.tokens ++ tokens) ++ .endObject :: E) ↔ _
    have hlex : lexFrom .idle (memberText m.name m.text ++ text ++ '}' :: rest) =
        (lexFrom .idle (m.text ++ (text ++ '}' :: rest))).map ([.string m.name, .nameSeparator] ++ ·) := by
      rw [List.append_assoc, lexFrom_memberText m.plain]
      rfl
    rw [hlex, List.append_assoc, map_append_eq_some_iff, List.append_assoc, m.denotes _ _ hends, hrest,
      List.forall_mem_cons, and_assoc]

theorem endsWord_restItemsText (items : List (List Char)) (rest : List Char) :
    EndsWord (restItemsText items ++ ']' :: rest) := by
  intro c hc
  cases items with
  | nil =>
    obtain rfl := Option.some.inj hc
    decide
  | cons text items =>
    obtain rfl := Option.some.inj hc
    decide

theorem lexFrom_restItems (items : List Part) (rest : List Char) (E : List JsonToken) :
    lexFrom .idle (restItemsText (items.map (·.text)) ++ ']' :: rest) =
        some (JsonValue.restTokens (items.map (·.value)) ++ .endArray :: E) ↔
      (∀ a ∈ items, a.safe) ∧ lexFrom .idle rest = some E := by
  induction items with
  | nil =>
    show lexFrom .idle (']' :: rest) = some (.endArray :: E) ↔ _
    rw [lexFrom_structural (t := .endArray) (by decide)]
    simp
  | cons a items ih =>
    have hends := endsWord_restItemsText (items.map (·.text)) rest
    set text := restItemsText (items.map (·.text))
    set tokens := JsonValue.restTokens (items.map (·.value))
    have hlex : lexFrom .idle (',' :: (a.text ++ text) ++ ']' :: rest) =
        (lexFrom .idle (a.text ++ (text ++ ']' :: rest))).map ([.valueSeparator] ++ ·) := by
      rw [List.cons_append, lexFrom_structural (t := .valueSeparator) (by decide), List.append_assoc]
      rfl
    have htokens : .valueSeparator :: (a.value.tokens ++ tokens) ++ .endArray :: E =
        [.valueSeparator] ++ (a.value.tokens ++ (tokens ++ .endArray :: E)) := by
      rw [← List.append_assoc a.value.tokens]
      rfl
    show lexFrom .idle (',' :: (a.text ++ text) ++ ']' :: rest) =
      some (.valueSeparator :: (a.value.tokens ++ tokens) ++ .endArray :: E) ↔ _
    rw [hlex, htokens, map_append_eq_some_iff, a.denotes _ _ hends, ih, List.forall_mem_cons, and_assoc]

theorem Denotes.array (items : List Part) :
    Denotes (∀ a ∈ items, a.safe) (arrayText (items.map (·.text))) (.array (items.map (·.value))) := by
  intro rest E _
  have hopen : ∀ text, lexFrom .idle ('[' :: (text ++ [']']) ++ rest) =
      (lexFrom .idle (text ++ ']' :: rest)).map ([.beginArray] ++ ·) := by
    intro text
    rw [List.cons_append, List.append_assoc, lexFrom_structural (t := .beginArray) (by decide)]
    rfl
  have htokens : ∀ tokens, .beginArray :: (tokens ++ [.endArray]) ++ E = [.beginArray] ++ (tokens ++ .endArray :: E) := by
    intro tokens
    rw [List.cons_append, List.append_assoc]
    rfl
  rw [arrayText, hopen, JsonValue.tokens, htokens, map_append_eq_some_iff]
  cases items with
  | nil => exact lexFrom_restItems [] rest E
  | cons a items =>
    have hrest := lexFrom_restItems items rest E
    have hends := endsWord_restItemsText (items.map (·.text)) rest
    set text := restItemsText (items.map (·.text))
    set tokens := JsonValue.restTokens (items.map (·.value))
    show lexFrom .idle (a.text ++ text ++ ']' :: rest) = some (a.value.tokens ++ tokens ++ .endArray :: E) ↔ _
    rw [List.append_assoc, List.append_assoc, a.denotes _ _ hends, hrest, List.forall_mem_cons, and_assoc]

theorem Denotes.congr {safe safe' : Prop} (h : Denotes safe text v) (hsafe : safe ↔ safe') : Denotes safe' text v := by
  intro rest E hrest
  rw [h rest E hrest, hsafe]

/-- A whole text. -/
theorem Denotes.isText_iff {safe : Prop} (h : Denotes safe text v) : IsText text v ↔ safe := by
  have hnil := h [] [] (fun c hc => by cases hc)
  rw [List.append_nil, List.append_nil] at hnil
  rw [IsText, lex, hnil]
  exact and_iff_left rfl

/-! ### Numbers -/

theorem isWordChar_of_isDigit {c : Char} (h : c.isDigit = true) : isWordChar c = true := by
  simp [isWordChar, Char.isAlphanum, h]

theorem lexFrom_word {word acc : List Char} {t : JsonToken} (hword : ∀ c ∈ word, isWordChar c = true)
    (ht : wordToken (acc ++ word) = some t) : lexFrom (.word acc) word = some [t] := by
  induction word generalizing acc with
  | nil =>
    rw [List.append_nil] at ht
    rw [lexFrom, finish, ht]
    rfl
  | cons c word ih =>
    obtain ⟨hc, hword⟩ := List.forall_mem_cons.1 hword
    rw [lexFrom, step, hc, if_pos rfl, Option.bind_some, ih hword (by rwa [List.append_assoc])]
    rfl

theorem idleStep_of_isWordChar {c : Char} (h : isWordChar c = true) : idleStep c = some (.word [c], []) := by
  have hspace : isWhitespace c = false := by
    by_contra hc
    simp only [isWhitespace, Bool.not_eq_false, Bool.or_eq_true, decide_eq_true_eq] at hc
    rcases hc with ((rfl | rfl) | rfl) | rfl <;> exact absurd h (by decide)
  have hquote : c ≠ '"' := by
    rintro rfl
    exact absurd h (by decide)
  rw [idleStep, hspace, if_neg Bool.false_ne_true, if_neg hquote, if_pos h]

theorem isText_number {lexeme : List Char} (hword : ∀ c ∈ lexeme, isWordChar c = true)
    (hnumber : isNumber lexeme = true)
    (hliteral : ∀ c ∈ lexeme, c ≠ 'l' ∧ c ≠ 'u') : IsText lexeme (.number lexeme) := by
  have ht : wordToken lexeme = some (.number lexeme) := by
    rw [wordToken, if_neg, hnumber, if_pos rfl]
    rintro (rfl | rfl | rfl)
    · exact absurd rfl (hliteral 'u' (by decide)).2
    · exact absurd rfl (hliteral 'l' (by decide)).1
    · exact absurd rfl (hliteral 'u' (by decide)).2
  cases lexeme with
  | nil => exact absurd hnumber (by decide)
  | cons c word =>
    obtain ⟨hc, hword⟩ := List.forall_mem_cons.1 hword
    rw [IsText, lex, lexFrom, step, idleStep_of_isWordChar hc, Option.bind_some, lexFrom_word hword ht]
    rfl

theorem head?_toDigits {n : Nat} (hn : 0 < n) : (Nat.toDigits 10 n).head? ≠ some '0' := by
  induction n using Nat.strongRecOn with
  | ind n ih =>
    by_cases h : n < 10
    · have hdigit : ∀ m < 10, 0 < m → [m.digitChar].head? ≠ some '0' := by decide
      rw [Nat.toDigits_of_lt_base h]
      exact hdigit n h hn
    · rw [Nat.toDigits_of_base_le (by decide) (by omega), List.head?_append,
        List.head?_eq_some_head Nat.toDigits_ne_nil, Option.some_or,
        ← List.head?_eq_some_head]
      exact ih (n / 10) (by omega) (by omega)

theorem isUnsigned_toDigits (n : Nat) : isUnsigned (Nat.toDigits 10 n) = true := by
  have hdigit : ∀ c ∈ Nat.toDigits 10 n, c.isDigit = true :=
    fun c hc => Nat.isDigit_of_mem_toDigits (by decide) (by decide) hc
  rcases Nat.eq_zero_or_pos n with rfl | hn
  · decide
  have hhead := head?_toDigits hn
  cases hd : Nat.toDigits 10 n with
  | nil => exact absurd hd Nat.toDigits_ne_nil
  | cons c s =>
    rw [hd] at hdigit hhead
    obtain ⟨hc, hs⟩ := List.forall_mem_cons.1 hdigit
    have hdrop : s.dropWhile Char.isDigit = [] := List.dropWhile_eq_nil_iff.2 hs
    unfold isUnsigned
    split
    · rename_i heq
      obtain ⟨rfl, -⟩ := List.cons.inj heq
      exact absurd rfl hhead
    · rename_i heq
      obtain ⟨rfl, rfl⟩ := List.cons.inj heq
      rw [hc, hdrop]
      rfl
    · rename_i heq
      cases heq

/-- The decimal text of an integer. -/
theorem isText_int (i : Int) : IsText (toString i).toList (.number (toString i).toList) := by
  have hdigit : ∀ n, ∀ c ∈ Nat.toDigits 10 n, c.isDigit = true :=
    fun n c hc => Nat.isDigit_of_mem_toDigits (by decide) (by decide) hc
  have hletter : ∀ c : Char, c.isDigit = true → c ≠ 'l' ∧ c ≠ 'u' := by
    intro c hc
    constructor <;> rintro rfl <;> exact absurd hc (by decide)
  cases i with
  | ofNat n =>
    rw [show (toString (Int.ofNat n)).toList = Nat.toDigits 10 n from Nat.toList_repr]
    refine isText_number (fun c hc => isWordChar_of_isDigit (hdigit n c hc)) ?_ fun c hc => hletter c (hdigit n c hc)
    unfold isNumber
    split
    · rename_i s hs
      exact absurd (hdigit n '-' (by simp [hs])) (by decide)
    · exact isUnsigned_toDigits n
  | negSucc n =>
    rw [show toString (Int.negSucc n) = "-" ++ Nat.repr (n + 1) from rfl, String.toList_append, Nat.toList_repr]
    show IsText ('-' :: Nat.toDigits 10 (n + 1)) (.number ('-' :: Nat.toDigits 10 (n + 1)))
    refine isText_number ?_ (isUnsigned_toDigits (n + 1)) ?_
    · intro c hc
      rcases List.mem_cons.1 hc with rfl | hc
      · decide
      · exact isWordChar_of_isDigit (hdigit _ c hc)
    · intro c hc
      rcases List.mem_cons.1 hc with rfl | hc
      · decide
      · exact hletter c (hdigit _ c hc)

/-! ### Parts -/

namespace Part

def ofIsText (h : IsText text v) : Part := ⟨text, v, True, .of_isText h⟩

def int (i : Int) : Part := .ofIsText (isText_int i)

def string (s : List Char) : Part := ⟨_, _, _, .string s⟩

def array (items : List Part) : Part := ⟨_, _, _, .array items⟩

@[simp] theorem safe_ofIsText (h : IsText text v) : (ofIsText h).safe = True := rfl

@[simp] theorem safe_int (i : Int) : (int i).safe = True := rfl

@[simp] theorem safe_string (s : List Char) : (string s).safe = IsPlain s := rfl

@[simp] theorem safe_array (items : List Part) : (array items).safe = ∀ a ∈ items, a.safe := rfl

end Part

/-- The elements of a list as parts. -/
theorem exists_parts {α : Type} {l : List α} {text : α → List Char} {value : α → JsonValue} {safe : α → Prop}
    (h : ∀ a ∈ l, Denotes (safe a) (text a) (value a)) :
    ∃ items : List Part, items.map (·.text) = l.map text ∧ items.map (·.value) = l.map value ∧
      ((∀ p ∈ items, p.safe) ↔ ∀ a ∈ l, safe a) := by
  refine ⟨l.pmap (fun a ha => ⟨_, _, _, ha⟩) h, ?_, ?_, ?_⟩
  · rw [List.map_pmap, List.pmap_eq_map]
  · rw [List.map_pmap, List.pmap_eq_map]
  · constructor
    · intro hsafe a ha
      exact hsafe _ (List.mem_pmap.2 ⟨a, ha, rfl⟩)
    · intro hsafe p hp
      obtain ⟨a, ha, rfl⟩ := List.mem_pmap.1 hp
      exact hsafe a ha

end JsonText
