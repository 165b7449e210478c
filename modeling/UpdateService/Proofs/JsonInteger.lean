import UpdateService.CJson
import UpdateService.Lib.Binary64

/-!
# Which numbers of a document are taken for integers

`CheckInteger` compares with the limits of the type after they have become a `double`. The limits of 32 bits and the
lower ones are finite values themselves, the upper ones of 64 bits are rounded up by one, so that one value too many
is taken.
-/

namespace UpdateService

namespace IntType
open Binary64
variable {t : IntType} {n : Int}

/-- The upper limit as a `double` is a nearest one. -/
theorem isNearest_maxAsDouble (t : IntType) : IsNearest t.max t.maxAsDouble := by
  have h : Binary64.ofNat (2 ^ 31 - 1) = 2 ^ 31 - 1 ∧ Binary64.ofNat (2 ^ 63 - 1) = 2 ^ 63 ∧
      Binary64.ofNat (2 ^ 32 - 1) = 2 ^ 32 - 1 ∧ Binary64.ofNat (2 ^ 64 - 1) = 2 ^ 64 := by decide
  obtain ⟨h1, h2, h3, h4⟩ := h
  have hlt : t.max.toNat.log2 < 1023 := by cases t <;> decide
  have hmax : ((t.max.toNat : Nat) : Rat) = t.max := by
    have hnonneg : 0 ≤ t.max := by cases t <;> decide
    exact_mod_cast Int.toNat_of_nonneg hnonneg
  have hof : (Binary64.ofNat t.max.toNat : Rat) = t.maxAsDouble := by
    cases t
    · rw [show IntType.int32.max.toNat = 2 ^ 31 - 1 from rfl, h1]; norm_num [maxAsDouble]
    · rw [show IntType.int64.max.toNat = 2 ^ 63 - 1 from rfl, h2]; norm_num [maxAsDouble]
    · rw [show IntType.uint32.max.toNat = 2 ^ 32 - 1 from rfl, h3]; norm_num [maxAsDouble]
    · rw [show IntType.uint64.max.toNat = 2 ^ 64 - 1 from rfl, h4]; norm_num [maxAsDouble]
  have := isNearest_ofNat hlt
  rwa [hmax, hof] at this

/-- The lower one is a `double` as it is. -/
theorem representable_min (t : IntType) : Representable t.min := by
  cases t
  case int32 => exact ⟨-2 ^ 31, 0, by norm_num, by norm_num, by norm_num, by norm_num [IntType.min]⟩
  case int64 => exact ⟨-2 ^ 43, 20, by norm_num, by norm_num, by norm_num, by norm_num [IntType.min]⟩
  case uint32 | uint64 => exact ⟨0, 0, by norm_num, by norm_num, by norm_num, by norm_num [IntType.min]⟩

theorem maxAsDouble_eq (t : IntType) :
    t.maxAsDouble = ((if t = .int64 ∨ t = .uint64 then t.max + 1 else t.max : Int) : Rat) := by
  cases t <;> simp [maxAsDouble, IntType.max] <;> norm_num

/-- What lies beyond the type and not beyond its limit as a `double`. -/
theorem max_lt_le_maxAsDouble_iff :
    t.max < n ∧ (n : Rat) ≤ t.maxAsDouble ↔ t = .int64 ∧ n = 2 ^ 63 ∨ t = .uint64 ∧ n = 2 ^ 64 := by
  rw [maxAsDouble_eq, Int.cast_le]
  cases t <;> simp [IntType.max] <;> omega

end IntType

namespace UpdateServiceJsonUtils
variable {p : JsonPlatform} {t : IntType} {item : Json} {value n : Int}

/-- `CheckInteger` of a node takes the integers of the type, as they are, and nothing else, and what it rejects changes
nothing and makes `GetValueAndSetTo` return `TYPE_ERROR`. -/
structure IntegersExact (p : JsonPlatform) (t : IntType) (item : Json) (value : Int) : Prop where
  accepts : (checkInteger p t item value).1 = true ↔ ∃ n : Int, item = .number (.finite n) ∧ t.min ≤ n ∧ n ≤ t.max
  stores : ∀ n : Int, item = .number (.finite n) → (checkInteger p t item value).1 = true →
    (checkInteger p t item value).2 = n
  rejects : (checkInteger p t item value).1 = false → (checkInteger p t item value).2 = value ∧
    ∀ jsonObject key, key ≠ "" → Json.getObjectItem key jsonObject = some item →
      getValueAndSetTo (checkInteger p t) jsonObject key value = (JsonParseError.typeError.toInt, value)

theorem checkInteger_accepts_iff : (checkInteger p t item value).1 = true ↔
    ∃ n : Int, item = .number (.finite n) ∧ t.min ≤ n ∧ (n : Rat) ≤ t.maxAsDouble := by
  constructor
  · intro h
    unfold checkInteger at h
    split at h
    · rename_i q
      split at h
      · cases h
      rename_i hden
      split at h
      · cases h
      rename_i hrange
      obtain ⟨n, rfl⟩ : ∃ n : Int, (n : Rat) = q := ⟨q.num, Rat.coe_int_num_of_den_eq_one (not_not.1 hden)⟩
      obtain ⟨hmin, hmax⟩ := not_or.1 hrange
      exact ⟨n, rfl, by exact_mod_cast not_lt.1 hmin, not_lt.1 hmax⟩
    · cases h
  · rintro ⟨n, rfl, hmin, hmax⟩
    have hmin' : ¬(n : Rat) < t.min := by exact_mod_cast not_lt.2 hmin
    simp [checkInteger, hmin', not_lt.2 hmax]

theorem checkInteger_stores (p : JsonPlatform) (value : Int) (hn : t.min ≤ n) (hn' : n ≤ t.max) :
    checkInteger p t (.number (.finite n)) value = (true, n) := by
  have hle : (n : Rat) ≤ t.maxAsDouble := by
    rw [IntType.maxAsDouble_eq, Int.cast_le]
    split <;> omega
  have hmin : ¬(n : Rat) < t.min := by exact_mod_cast not_lt.2 hn
  have hmax : (n : Rat) ≤ t.max := by exact_mod_cast hn'
  simp [checkInteger, hmin, not_lt.2 hle, hmax]

theorem checkInteger_rejects (h : (checkInteger p t item value).1 = false) :
    checkInteger p t item value = (false, value) := by
  unfold checkInteger at h ⊢
  split at h
  · split_ifs at h ⊢
    · rfl
    · rfl
  · rfl

/-- One value too many is taken for each of the types of 64 bits. -/
theorem integersExact_iff (p : JsonPlatform) (t : IntType) (item : Json) (value : Int) :
    IntegersExact p t item value ↔ ¬(t = .int64 ∧ item = .number (.finite (2 ^ 63))) ∧
      ¬(t = .uint64 ∧ item = .number (.finite (2 ^ 64))) := by
  have hbeyond : ¬(∃ n : Int, item = .number (.finite n) ∧ t.max < n ∧ (n : Rat) ≤ t.maxAsDouble) ↔
      ¬(t = .int64 ∧ item = .number (.finite (2 ^ 63))) ∧ ¬(t = .uint64 ∧ item = .number (.finite (2 ^ 64))) := by
    rw [← not_or, not_iff_not]
    simp only [IntType.max_lt_le_maxAsDouble_iff]
    constructor
    · rintro ⟨n, hn, ⟨ht, rfl⟩ | ⟨ht, rfl⟩⟩
      · exact .inl ⟨ht, by exact_mod_cast hn⟩
      · exact .inr ⟨ht, by exact_mod_cast hn⟩
    · rintro (⟨ht, hn⟩ | ⟨ht, hn⟩)
      · exact ⟨2 ^ 63, by exact_mod_cast hn, .inl ⟨ht, rfl⟩⟩
      · exact ⟨2 ^ 64, by exact_mod_cast hn, .inr ⟨ht, rfl⟩⟩
  rw [← hbeyond]
  constructor
  · rintro ⟨haccepts, -, -⟩ ⟨n, rfl, hmax, hle⟩
    have hmin : t.min ≤ n := by cases t <;> simp [IntType.min, IntType.max] at hmax ⊢ <;> omega
    obtain ⟨n', hn', -, hn'max⟩ := haccepts.1 (checkInteger_accepts_iff.2 ⟨n, rfl, hmin, hle⟩)
    have : n = n' := by simpa using hn'
    omega
  · intro h
    have haccepts : (checkInteger p t item value).1 = true ↔
        ∃ n : Int, item = .number (.finite n) ∧ t.min ≤ n ∧ n ≤ t.max := by
      rw [checkInteger_accepts_iff]
      constructor
      · rintro ⟨n, rfl, hmin, hle⟩
        exact ⟨n, rfl, hmin, not_lt.1 fun hlt => h ⟨n, rfl, hlt, hle⟩⟩
      · rintro ⟨n, rfl, hmin, hmax⟩
        exact checkInteger_accepts_iff.1 (congrArg Prod.fst (checkInteger_stores p value hmin hmax))
    refine ⟨haccepts, ?_, ?_⟩
    · rintro n rfl htrue
      obtain ⟨n', hn', hmin, hmax⟩ := haccepts.1 htrue
      obtain rfl : n = n' := by simpa using hn'
      rw [checkInteger_stores p value hmin hmax]
    · intro hfalse
      have hrej := checkInteger_rejects hfalse
      refine ⟨by rw [hrej], fun jsonObject key hkey hitem => ?_⟩
      simp only [getValueAndSetTo, if_neg hkey, hitem, hrej]

/-- `9223372036854775808` is no `int64_t` and is taken for one. -/
theorem checkInteger_two_pow_63 :
    let p : JsonPlatform := { parse := fun _ => none, convert := fun t _ => t.min, indeterminate := 0 }
    ¬IntegersExact p .int64 (.number (.finite (2 ^ 63))) 0 := by
  rintro p ⟨haccepts, -, -⟩
  have htaken : (checkInteger p .int64 (.number (.finite (2 ^ 63))) 0).1 = true :=
    checkInteger_accepts_iff.2 ⟨2 ^ 63, by norm_num, by norm_num [IntType.min], by norm_num [IntType.maxAsDouble]⟩
  obtain ⟨n, hn, -, hmax⟩ := haccepts.1 htaken
  obtain rfl : 2 ^ 63 = n := by
    have : (2 : Rat) ^ 63 = n := by simpa using hn
    exact_mod_cast this
  norm_num [IntType.max] at hmax

end UpdateServiceJsonUtils

end UpdateService
