import UpdateService.Lib.StreamHash
import UpdateService.ThreadRun

/-!
# `Sha256Utils`

The two ways to the digest of a file. The one with a callback may be told to stop between two of its reads and looks at
no code that OpenSSL returns; both leave the digest as it was when they fail, which `GetFileSha256Str` does not ask.
SHA-256 itself is a parameter.
-/

namespace UpdateService

def sha256StringLen : Nat := 65
def maxBufferLength : Nat := 1024
def opensslSuccess : Int := 1

/-- As long as `SHA256_LENGTH` says. -/
abbrev Digest := Vector UInt8 32

/-- `SHA256_Init`, `SHA256_Update` and `SHA256_Final`, the returned codes apart. -/
abbrev Sha256 (κ : Type*) := StreamHash κ UInt8 Digest

/-- A file, and what the environment answers to the calls on it. -/
structure FileIo where
  content : List UInt8
  isFileExist : Bool := true
  /-- `realpath` finds the file. -/
  hasRealPath : Bool := true
  isOpen : Bool := true
  /-- The bytes up to a read error, which the stream takes for the end of the file. -/
  readable : Nat := content.length
  hasBuffer : Bool := true
  /-- What `isNeedStop_` is after each read. -/
  isNeedStop : Nat → Bool := fun _ => false
  startRet : Int := opensslSuccess
  updateRet : Nat → Int := fun _ => opensslSuccess
  finishRet : Int := opensslSuccess

namespace Sha256Utils
variable {κ : Type*}

/-- The loop of `GetDigestFromFile` with a callback: the context after it, and what was called back. -/
def digestFile (sha : Sha256 κ) (isNeedStop : Nat → Bool) (cycleCount : Nat) (bytesRead : Int) (rest : List UInt8)
    (ctx : κ) : κ × List Int :=
  let buffer := rest.take maxBufferLength
  let ctx := sha.update ctx buffer
  if isNeedStop cycleCount then (ctx, [])
  else
    let bytesRead := bytesRead + buffer.length
    if rest.length < maxBufferLength then (ctx, [bytesRead])
    else
      let r := digestFile sha isNeedStop (cycleCount + 1) bytesRead (rest.drop maxBufferLength) ctx
      (r.1, bytesRead :: r.2)
termination_by rest.length
decreasing_by
  rw [List.length_drop]
  unfold maxBufferLength at *
  omega

def getDigestFromFileCallback (sha : Sha256 κ) (io : FileIo) (digest : Digest) : Bool × Digest × List Int :=
  if !io.hasRealPath then (false, digest, [])
  else if !io.isOpen then (false, digest, [])
  else if !io.hasBuffer then (false, digest, [])
  else
    let r := digestFile sha io.isNeedStop 0 0 (io.content.take io.readable) sha.init
    (true, sha.final r.1, r.2)

/-- The loop of `GetDigestFromFile` without one: no context where an update fails. -/
def digestWholeFile (sha : Sha256 κ) (updateRet : Nat → Int) (turn : Nat) (rest : List UInt8) (ctx : κ) : Option κ :=
  let buffer := rest.take maxBufferLength
  if updateRet turn ≠ opensslSuccess then none
  else
    let ctx := sha.update ctx buffer
    if rest.length < maxBufferLength then some ctx
    else digestWholeFile sha updateRet (turn + 1) (rest.drop maxBufferLength) ctx
termination_by rest.length
decreasing_by
  rw [List.length_drop]
  unfold maxBufferLength at *
  omega

def getDigestFromFile (sha : Sha256 κ) (io : FileIo) (digest : Digest) : Bool × Digest :=
  if !io.hasRealPath then (false, digest)
  else if !io.isOpen then (false, digest)
  else if !io.hasBuffer then (false, digest)
  else if io.startRet ≠ opensslSuccess then (false, digest)
  else
    match digestWholeFile sha io.updateRet 0 (io.content.take io.readable) sha.init with
    | none => (false, digest)
    | some ctx => if io.finishRet ≠ opensslSuccess then (false, digest) else (true, sha.final ctx)

/-- `%02x` -/
def hexByte (b : UInt8) : List Char := [Nat.digitChar (b.toNat / 16), Nat.digitChar (b.toNat % 16)]

/-- The loop of `TransDigestToSha256Result`; `sprintf_s` fails where the two digits and the NUL after them do not fit. -/
def transDigest (componentIdLen : Nat) (sha256Result : List Char) : List UInt8 → Bool × List Char
  | [] => (true, sha256Result)
  | b :: digest =>
    let deviation := sha256Result.length
    if componentIdLen ≤ deviation then (false, sha256Result)
    else if componentIdLen - deviation ≤ (hexByte b).length then (false, sha256Result)
    else transDigest componentIdLen (sha256Result ++ hexByte b) digest

def transDigestToSha256Result (componentIdLen : Nat) (digest : Digest) : Bool × List Char :=
  transDigest componentIdLen [] digest.toList

def getFileSha256StrCallback (sha : Sha256 κ) (io : FileIo) (len : Nat) : Bool × List Char :=
  transDigestToSha256Result len (getDigestFromFileCallback sha io (.replicate 32 0)).2.1

def getFileSha256Str (sha : Sha256 κ) (io : FileIo) (len : Nat) : Bool × List Char :=
  transDigestToSha256Result len (getDigestFromFile sha io (.replicate 32 0)).2

/-- `c_str` of a string: what comes before the first NUL. -/
def cStr (s : List Char) : List Char := s.takeWhile (· ≠ '\x00')

/-- `strcasecmp`, whether it returns 0. -/
def strcasecmp (s t : List Char) : Bool := (cStr s).map Char.toLower = (cStr t).map Char.toLower

def checkFileSha256String (sha : Sha256 κ) (io : FileIo) (sha256String : List Char) : Bool :=
  if !io.isFileExist then false
  else
    let (isOk, sha256Result) := getFileSha256Str sha io sha256StringLen
    if !isOk then false
    else if !strcasecmp sha256Result sha256String then false
    else true

def getFileSha256VerifyResult (sha : Sha256 κ) (io : FileIo) (sha256String : List Char) : Sha256VerifyResult :=
  if !io.isFileExist then { sha256ErrCode := .fileNotExist }
  else
    let (isOk, sha256Result) := getFileSha256StrCallback sha io sha256StringLen
    if !isOk then { sha256ErrCode := .obtainFileSha256Fail, sha256Result := .ofList sha256Result }
    else if !strcasecmp sha256Result sha256String then
      { sha256ErrCode := .sha256NotMatch, sha256Result := .ofList sha256Result }
    else { sha256ErrCode := .success }

end Sha256Utils

end UpdateService
