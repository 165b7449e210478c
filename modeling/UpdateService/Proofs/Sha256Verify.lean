import UpdateService.Sha256Utils

/-!
# What a verified digest says

The digest that is compared is that of the bytes that were read, and 32 zero bytes where none were. So a verdict is
sound but for what is expected: no 64 zeros, no digest of a part of the file, and no text after a NUL.
-/

namespace UpdateService

namespace Sha256Utils
variable {κ : Type*} {sha : Sha256 κ} {io : FileIo} {sha256String : List Char} {digest : Digest}
  {part : Option (List UInt8)}

/-! ### What is read -/

/-- What the loop reads that can be stopped. -/
def readUntil (isNeedStop : Nat → Bool) (turn : Nat) (rest : List UInt8) : List UInt8 :=
  if isNeedStop turn ∨ rest.length < maxBufferLength then rest.take maxBufferLength
  else rest.take maxBufferLength ++ readUntil isNeedStop (turn + 1) (rest.drop maxBufferLength)
termination_by rest.length
decreasing_by
  rename_i h
  rw [List.length_drop]
  unfold maxBufferLength at *
  omega

theorem digestFile_fst (isNeedStop : Nat → Bool) (turn : Nat) (bytesRead : Int) (rest : List UInt8) (ctx : κ) :
    (digestFile sha isNeedStop turn bytesRead rest ctx).1 = sha.update ctx (readUntil isNeedStop turn rest) := by
  fun_induction digestFile with
  | case1 turn bytesRead rest ctx buffer ctx' hstop => rw [readUntil, if_pos (.inl hstop)]
  | case2 turn bytesRead rest ctx buffer ctx' hstop bytesRead' hend => rw [readUntil, if_pos (.inr hend)]
  | case3 turn bytesRead rest ctx buffer ctx' hstop bytesRead' hend r ih =>
    rw [readUntil, if_neg (not_or.2 ⟨hstop, hend⟩), sha.update_append]
    exact ih

theorem digestWholeFile_eq (updateRet : Nat → Int) (turn : Nat) (rest : List UInt8) (ctx : κ) :
    digestWholeFile sha updateRet turn rest ctx =
      if ∀ i ≤ rest.length / maxBufferLength, updateRet (turn + i) = opensslSuccess then some (sha.update ctx rest)
      else none := by
  fun_induction digestWholeFile with
  | case1 turn rest ctx hret =>
    rw [if_neg]
    intro h
    exact hret (h 0 (Nat.zero_le _))
  | case2 turn rest ctx buffer hret ctx' hend =>
    have hall : ∀ i ≤ rest.length / maxBufferLength, updateRet (turn + i) = opensslSuccess := by
      intro i hi
      rw [Nat.div_eq_of_lt hend] at hi
      rw [Nat.le_zero.1 hi]
      exact not_not.1 hret
    have hbuffer : buffer = rest := List.take_of_length_le hend.le
    rw [if_pos hall, ← hbuffer]
  | case3 turn rest ctx buffer hret ctx' hend ih =>
    have hdiv : rest.length / maxBufferLength = (rest.drop maxBufferLength).length / maxBufferLength + 1 := by
      rw [List.length_drop]
      unfold maxBufferLength at *
      omega
    have hiff : (∀ i ≤ rest.length / maxBufferLength, updateRet (turn + i) = opensslSuccess) ↔
        ∀ i ≤ (rest.drop maxBufferLength).length / maxBufferLength, updateRet (turn + 1 + i) = opensslSuccess := by
      rw [hdiv]
      constructor
      · intro h i hi
        rw [Nat.add_assoc, Nat.add_comm 1]
        exact h (i + 1) (by omega)
      · rintro h (_ | i) hi
        · exact not_not.1 hret
        · rw [Nat.add_comm i, ← Nat.add_assoc]
          exact h i (by omega)
    rw [ih, if_congr hiff rfl rfl]
    show (if _ then some (sha.update (sha.update ctx (rest.take maxBufferLength)) _) else _) = _
    rw [sha.update_take_drop]

/-- What is hashed with a callback, if the loop is reached. -/
def hashedCallback (io : FileIo) : Option (List UInt8) :=
  if io.hasRealPath = true ∧ io.isOpen = true ∧ io.hasBuffer = true then
    some (readUntil io.isNeedStop 0 (io.content.take io.readable))
  else none

/-- What is hashed without one, if nothing fails. -/
def hashed (io : FileIo) : Option (List UInt8) :=
  let stream := io.content.take io.readable
  if (io.hasRealPath = true ∧ io.isOpen = true ∧ io.hasBuffer = true) ∧ io.startRet = opensslSuccess ∧
      (∀ i ≤ stream.length / maxBufferLength, io.updateRet i = opensslSuccess) ∧ io.finishRet = opensslSuccess then
    some stream
  else none

/-- The digest of what is hashed, or the one that is there before. -/
def digestOf (sha : Sha256 κ) (digest : Digest) : Option (List UInt8) → Digest
  | some bytes => sha.digest bytes
  | none => digest

theorem getDigestFromFileCallback_eq :
    (getDigestFromFileCallback sha io digest).2.1 = digestOf sha digest (hashedCallback io) := by
  unfold getDigestFromFileCallback hashedCallback
  cases io.hasRealPath with
  | false => rfl
  | true =>
  cases io.isOpen with
  | false => rfl
  | true =>
  cases io.hasBuffer with
  | false => rfl
  | true =>
    show sha.final _ = sha.final _
    rw [digestFile_fst]

theorem getDigestFromFile_eq : (getDigestFromFile sha io digest).2 = digestOf sha digest (hashed io) := by
  unfold getDigestFromFile hashed
  cases io.hasRealPath with
  | false => rfl
  | true =>
  cases io.isOpen with
  | false => rfl
  | true =>
  cases io.hasBuffer with
  | false => rfl
  | true =>
  generalize io.content.take io.readable = stream
  simp only [digestWholeFile_eq, Nat.zero_add]
  by_cases hstart : io.startRet = opensslSuccess
  · by_cases hupdate : ∀ i ≤ stream.length / maxBufferLength, io.updateRet i = opensslSuccess
    · by_cases hfinish : io.finishRet = opensslSuccess <;> simp [hstart, if_pos hupdate, hfinish, digestOf, StreamHash.digest]
    · simp [hstart, hupdate, digestOf]
  · simp [hstart, digestOf]

theorem readUntil_isPrefix (isNeedStop : Nat → Bool) (turn : Nat) (rest : List UInt8) :
    readUntil isNeedStop turn rest <+: rest := by
  fun_induction readUntil with
  | case1 turn rest h => exact List.take_prefix ..
  | case2 turn rest h ih =>
    obtain ⟨unread, hunread⟩ := ih
    exact ⟨unread, by rw [List.append_assoc, hunread, List.take_append_drop]⟩

theorem readUntil_eq_iff (isNeedStop : Nat → Bool) (turn : Nat) (rest : List UInt8) :
    readUntil isNeedStop turn rest = rest ↔
      ∀ i, maxBufferLength * (i + 1) < rest.length → isNeedStop (turn + i) = false := by
  fun_induction readUntil with
  | case1 turn rest h =>
    rw [List.take_eq_self_iff]
    constructor
    · intro hlen i hi
      unfold maxBufferLength at *
      omega
    · intro hstop
      by_contra hlen
      have hnot := hstop 0 (by omega)
      rcases h with h | h
      · rw [Nat.add_zero, h] at hnot
        cases hnot
      · omega
  | case2 turn rest h ih =>
    obtain ⟨hstop, hend⟩ := not_or.1 h
    have hcancel : rest.take maxBufferLength ++ readUntil isNeedStop (turn + 1) (rest.drop maxBufferLength) = rest ↔
        readUntil isNeedStop (turn + 1) (rest.drop maxBufferLength) = rest.drop maxBufferLength := by
      conv_lhs => rhs; rw [← List.take_append_drop maxBufferLength rest]
      exact List.append_right_inj _
    rw [hcancel, ih, List.length_drop]
    constructor
    · rintro hall (_ | i) hi
      · exact Bool.eq_false_iff.2 hstop
      · rw [Nat.add_comm i, ← Nat.add_assoc]
        refine hall i ?_
        unfold maxBufferLength at *
        omega
    · intro hall i hi
      rw [Nat.add_assoc, Nat.add_comm 1]
      refine hall (i + 1) ?_
      unfold maxBufferLength at *
      omega

/-- All of the file is hashed exactly if no stop comes before the last read that finds bytes, and no error. -/
theorem hashedCallback_eq_some_iff : hashedCallback io = some io.content ↔
    (io.hasRealPath = true ∧ io.isOpen = true ∧ io.hasBuffer = true) ∧ io.content.length ≤ io.readable ∧
      ∀ turn, maxBufferLength * (turn + 1) < io.content.length → io.isNeedStop turn = false := by
  unfold hashedCallback
  split
  · rename_i hopen
    rw [and_iff_right hopen, Option.some.injEq]
    constructor
    · intro hread
      have hlen : io.content.length ≤ io.readable := by
        have := (readUntil_isPrefix io.isNeedStop 0 (io.content.take io.readable)).length_le
        rw [hread, List.length_take] at this
        omega
      rw [List.take_of_length_le hlen, readUntil_eq_iff] at hread
      exact ⟨hlen, fun turn hturn => Nat.zero_add turn ▸ hread turn hturn⟩
    · rintro ⟨hlen, hstop⟩
      rw [List.take_of_length_le hlen, readUntil_eq_iff]
      exact fun turn hturn => (Nat.zero_add turn).symm ▸ hstop turn hturn
  · rename_i hopen
    exact ⟨nofun, fun h => absurd h.1 hopen⟩

/-! ### The text of a digest -/

def hex (digest : Digest) : List Char := digest.toList.flatMap hexByte

theorem transDigest_eq (componentIdLen : Nat) (sha256Result : List Char) (bytes : List UInt8)
    (h : sha256Result.length + 2 * bytes.length < componentIdLen) :
    transDigest componentIdLen sha256Result bytes = (true, sha256Result ++ bytes.flatMap hexByte) := by
  induction bytes generalizing sha256Result with
  | nil => rw [transDigest, List.flatMap_nil, List.append_nil]
  | cons b bytes ih =>
    rw [List.length_cons] at h
    have hbyte : (hexByte b).length = 2 := rfl
    rw [transDigest, hbyte, if_neg (by omega), if_neg (by omega), ih, List.flatMap_cons, List.append_assoc]
    rw [List.length_append, hbyte]
    omega

/-- There is room for the digits of a digest, so that its text never fails. -/
theorem transDigestToSha256Result_eq : transDigestToSha256Result sha256StringLen digest = (true, hex digest) := by
  rw [transDigestToSha256Result, transDigest_eq]
  · rfl
  · rw [Vector.length_toList]
    decide

/-- The digits have no upper case, and no NUL among them. -/
theorem mem_hex {c : Char} (h : c ∈ hex digest) : c.toLower = c ∧ c ≠ '\x00' := by
  have hdigit : ∀ n < 16, (Nat.digitChar n).toLower = Nat.digitChar n ∧ Nat.digitChar n ≠ '\x00' := by decide
  obtain ⟨b, -, hc⟩ := List.mem_flatMap.1 h
  have hb := b.toNat_lt
  rcases List.mem_cons.1 hc with rfl | hc
  · exact hdigit _ (by omega)
  · obtain rfl := List.mem_singleton.1 hc
    exact hdigit _ (by omega)

theorem cStr_of_not_mem {s : List Char} (h : '\x00' ∉ s) : cStr s = s := by
  refine List.takeWhile_eq_self_iff.2 fun c hc => ?_
  simp only [decide_eq_true_eq, ne_eq]
  rintro rfl
  exact h hc

theorem cStr_hex : cStr (hex digest) = hex digest := cStr_of_not_mem fun h => (mem_hex h).2 rfl

theorem map_toLower_hex : (hex digest).map Char.toLower = hex digest := by
  conv_rhs => rw [← List.map_id (hex digest)]
  exact List.map_congr_left fun c hc => (mem_hex hc).1

/-! ### The verdict -/

theorem checkFileSha256String_iff : checkFileSha256String sha io sha256String = true ↔
    io.isFileExist = true ∧ strcasecmp (hex (digestOf sha (.replicate 32 0) (hashed io))) sha256String = true := by
  rw [checkFileSha256String, getFileSha256Str, getDigestFromFile_eq, transDigestToSha256Result_eq]
  cases io.isFileExist with
  | false => simp
  | true =>
    dsimp only
    cases strcasecmp (hex (digestOf sha (.replicate 32 0) (hashed io))) sha256String <;> simp

theorem getFileSha256VerifyResult_iff : (getFileSha256VerifyResult sha io sha256String).sha256ErrCode = .success ↔
    io.isFileExist = true ∧ strcasecmp (hex (digestOf sha (.replicate 32 0) (hashedCallback io))) sha256String = true := by
  rw [getFileSha256VerifyResult, getFileSha256StrCallback, getDigestFromFileCallback_eq, transDigestToSha256Result_eq]
  cases io.isFileExist with
  | false => simp
  | true =>
    dsimp only
    cases strcasecmp (hex (digestOf sha (.replicate 32 0) (hashedCallback io))) sha256String <;> simp

/-- What a verdict is to mean where `part` has been hashed: all of the file, and its digest is the expected one up to
letter case. -/
structure Sound (sha : Sha256 κ) (io : FileIo) (part : Option (List UInt8)) (sha256String : List Char) : Prop where
  whole : part = some io.content
  digest : (hex (sha.digest io.content)).map Char.toLower = sha256String.map Char.toLower

/-- Nothing is expected that anything else than the digest of the file may pass for: 64 zeros where no byte was hashed,
the digest of a part of the file where only this was, or a text that goes on after a NUL. -/
def Unmistakable (sha : Sha256 κ) (io : FileIo) (part : Option (List UInt8)) (sha256String : List Char) : Prop :=
  io.isFileExist = true →
    match part with
    | none => cStr sha256String ≠ List.replicate 64 '0'
    | some bytes =>
      bytes = io.content ∧ '\x00' ∉ sha256String ∨ strcasecmp (hex (sha.digest bytes)) sha256String = false

theorem strcasecmp_hex : strcasecmp (hex digest) sha256String = true ↔
    hex digest = (cStr sha256String).map Char.toLower := by
  rw [strcasecmp, cStr_hex, map_toLower_hex, decide_eq_true_eq]

theorem toLower_eq_zero_iff {c : Char} : c.toLower = '0' ↔ c = '0' := by
  constructor
  · intro h
    unfold Char.toLower at h
    split at h
    · rename_i hupper
      have hval : c.val.toNat + 32 = 48 := by
        have hlt : c.val.toNat ≤ 90 := hupper.2
        have hsum : (c.val.toNat + 32) % 2 ^ 32 = 48 := congrArg (fun c => c.val.toNat) h
        omega
      have hge : 65 ≤ c.val.toNat := hupper.1
      omega
    · exact h
  · rintro rfl
    decide

theorem strcasecmp_zeros : strcasecmp (hex (.replicate 32 0)) sha256String = true ↔
    cStr sha256String = List.replicate 64 '0' := by
  have hzeros : hex (.replicate 32 0) = List.replicate 64 '0' := by decide
  rw [strcasecmp_hex, hzeros, eq_comm, List.eq_replicate_iff, List.eq_replicate_iff, List.length_map,
    List.forall_mem_map]
  simp only [toLower_eq_zero_iff]

/-- A text with a NUL is not that of a digest. -/
theorem not_mem_of_hex (h : (hex digest).map Char.toLower = sha256String.map Char.toLower) : '\x00' ∉ sha256String := by
  intro hmem
  have hnul : '\x00' ∈ hex digest := by
    rw [← map_toLower_hex, h]
    exact List.mem_map_of_mem hmem
  exact (mem_hex hnul).2 rfl

theorem sound_iff (sha : Sha256 κ) (io : FileIo) (part : Option (List UInt8)) (sha256String : List Char) :
    (io.isFileExist = true ∧ strcasecmp (hex (digestOf sha (.replicate 32 0) part)) sha256String = true →
      Sound sha io part sha256String) ↔ Unmistakable sha io part sha256String := by
  unfold Unmistakable
  rw [and_imp]
  refine forall_congr' fun _ => ?_
  cases part with
  | none =>
    rw [digestOf, strcasecmp_zeros]
    constructor
    · intro h hzeros
      cases (h hzeros).whole
    · intro h hzeros
      exact absurd hzeros h
  | some bytes =>
    rw [digestOf]
    dsimp only
    constructor
    · intro h
      cases hcmp : strcasecmp (hex (sha.digest bytes)) sha256String with
      | false => exact .inr rfl
      | true =>
        obtain ⟨hwhole, hdigest⟩ := h hcmp
        exact .inl ⟨Option.some.inj hwhole, not_mem_of_hex hdigest⟩
    · rintro (⟨rfl, hnul⟩ | hcmp) h
      · refine ⟨rfl, ?_⟩
        rw [strcasecmp_hex, cStr_of_not_mem hnul] at h
        rw [map_toLower_hex, h]
      · rw [h] at hcmp
        cases hcmp

/-- Both verdicts are sound exactly where nothing else is expected than the file can have. -/
theorem verdict_sound_iff (sha : Sha256 κ) (io : FileIo) (sha256String : List Char) :
    (((getFileSha256VerifyResult sha io sha256String).sha256ErrCode = .success →
      Sound sha io (hashedCallback io) sha256String) ↔ Unmistakable sha io (hashedCallback io) sha256String) ∧
    ((checkFileSha256String sha io sha256String = true → Sound sha io (hashed io) sha256String) ↔
      Unmistakable sha io (hashed io) sha256String) := by
  rw [getFileSha256VerifyResult_iff, checkFileSha256String_iff]
  exact ⟨sound_iff sha io _ sha256String, sound_iff sha io _ sha256String⟩

/-- SHA-256 on the text `abc`, and elsewhere a digest of 32 ones. -/
def sampleSha : Sha256 (List UInt8) := .ofFun fun bytes =>
  if bytes = [0x61, 0x62, 0x63] then
    #v[0xba, 0x78, 0x16, 0xbf, 0x8f, 0x01, 0xcf, 0xea, 0x41, 0x41, 0x40, 0xde, 0x5d, 0xae, 0x22, 0x23,
      0xb0, 0x03, 0x61, 0xa3, 0x96, 0x17, 0x7a, 0x9c, 0xb4, 0x10, 0xff, 0x61, 0xf2, 0x00, 0x15, 0xad]
  else .replicate 32 1

/-- A file that is gone between the two times it is opened. -/
def goneFile : FileIo := { content := [0x61, 0x62, 0x63], isOpen := false }

theorem not_verdict_sound :
    (getFileSha256VerifyResult sampleSha goneFile (.replicate 64 '0')).sha256ErrCode = .success ∧
      checkFileSha256String sampleSha goneFile (.replicate 64 '0') = true ∧
      ¬ Sound sampleSha goneFile (hashedCallback goneFile) (.replicate 64 '0') ∧
      ¬ Sound sampleSha goneFile (hashed goneFile) (.replicate 64 '0') := by
  refine ⟨getFileSha256VerifyResult_iff.2 ⟨rfl, ?_⟩, checkFileSha256String_iff.2 ⟨rfl, ?_⟩, fun h => ?_, fun h => ?_⟩
  · exact strcasecmp_zeros.2 (by decide)
  · exact strcasecmp_zeros.2 (by decide)
  · cases h.whole
  · cases h.whole

end Sha256Utils

end UpdateService
