import UpdateService.DownloadCommon
import UpdateService.StringUtils
import UpdateService.Lib.BlockBuffer

/-!
# The buffer between the download and the installer (`StreamProgressThread`)

curl hands over chunks of any size. `WriteFunc` gathers them in a buffer and passes it on when it is full up
to its last byte or when the end of the file has been reached.
-/

namespace UpdateService

def bufferSize : Nat := 50 * 1024

def securecMemMaxLen : Nat := 0x7fffffff

def castUint64 (x : Int) : Int := x % 2 ^ 64

def castInt64 (x : Int) : Int := x.bmod (2 ^ 64)

/-- What one call of the callback is given: `nmemb` elements of `size` bytes. -/
structure Chunk where
  ptr : List UInt8
  size : Nat
  nmemb : Nat
  length_ptr : ptr.length = size * nmemb

def Chunk.totalSize (c : Chunk) : Nat := c.size * c.nmemb % 2 ^ 64

structure StreamProgressThread where
  /-- `buffer_` with `bufferPos_`. -/
  buffer : BlockBuffer UInt8 bufferSize
  totalFileSize : Int
  downloadedSize : Int
  /-- What `ProcessStreamData` has been handed. -/
  blocks : List (List UInt8) := []
  /-- The count of every `memcpy_s`, and whether it has succeeded. -/
  copies : List (Nat × Bool) := []

namespace StreamProgressThread

def startDownload (size recordPoint : Int) : StreamProgressThread where
  buffer := .clear 0
  totalFileSize := size
  downloadedSize := recordPoint

/-- `memcpy_s` to the free part of the buffer; it fails if that is empty or too small. -/
def memcpyS (src : List UInt8) (buffer : BlockBuffer UInt8 bufferSize) : Option (BlockBuffer UInt8 bufferSize) :=
  let destMax := bufferSize - buffer.pos
  if h : 0 < destMax ∧ destMax ≤ securecMemMaxLen ∧ src.length ≤ destMax then
    some (buffer.write src (by omega))
  else none

variable (processStreamData : List (List UInt8) → Int)

/-- The body of the loop, with the new `processed`, or none for the `return -1`. `processStreamData` answers
to the last of the blocks. -/
def writeIteration (c : Chunk) (processed : Nat) (s : StreamProgressThread) : StreamProgressThread × Option Nat :=
  -- a full buffer makes `memcpy_s` fail, and so the wrap of `spaceLeft` is not seen
  let spaceLeft := bufferSize - s.buffer.pos - 1
  let bytesToCopy := min spaceLeft (c.totalSize - processed)
  match memcpyS ((c.ptr.drop processed).take bytesToCopy) s.buffer with
  | none => ({ s with copies := s.copies ++ [(bytesToCopy, false)] }, none)
  | some buffer =>
    let s := { s with buffer, copies := s.copies ++ [(bytesToCopy, true)] }
    let processed := processed + bytesToCopy
    if buffer.pos = bufferSize - 1 ∨ castUint64 (s.downloadedSize + processed) = castUint64 s.totalFileSize then
      let s := { s with blocks := s.blocks ++ [buffer.content] }
      if processStreamData s.blocks ≠ 0 then (s, none) else ({ s with buffer := .clear 0 }, some processed)
    else (s, some processed)

/-- The loop; it is false if a `return -1` has ended it, and none if `fuel` iterations are not enough. -/
def writeLoop (c : Chunk) : Nat → Nat → StreamProgressThread → Option (StreamProgressThread × Bool)
  | 0, _, _ => none
  | fuel + 1, processed, s =>
    if processed < c.totalSize then
      match writeIteration processStreamData c processed s with
      | (s, none) => some (s, false)
      | (s, some processed) => writeLoop c fuel processed s
    else some (s, true)

def writeFunc (fuel : Nat) (c : Chunk) (s : StreamProgressThread) : Option (StreamProgressThread × Int) :=
  (writeLoop processStreamData c fuel 0 s).map fun
    | (s, true) => ({ s with downloadedSize := castInt64 (s.downloadedSize + c.totalSize) }, c.totalSize)
    | (s, false) => (s, castUint64 (-1))

/-- curl hands over the chunks, and gives up when the callback has not taken one as a whole. -/
def receive (fuel : Nat) : List Chunk → StreamProgressThread → Option StreamProgressThread
  | [], s => some s
  | c :: chunks, s => (writeFunc processStreamData fuel c s).bind fun r =>
    if r.2 = c.ptr.length then receive fuel chunks r.1 else none

/-! ### The size the server announces -/

/-- `HeaderCallback` for one line. -/
def headerCallback (header buffer : List Char) : List Char := header ++ buffer

def contentLengthKey : List Char := "Content-Length:".toList

/-- The first match of `\d+`, empty if there is none. -/
def searchDigits (s : List Char) : List Char := (s.dropWhile fun c => !c.isDigit).takeWhile Char.isDigit

def digitsToNat (digits : List Char) : Nat := digits.foldl (fun n c => n * 10 + (c.toNat - 48)) 0

/-- `std::stoll` of digits, which throws where they are too large for it. -/
def stoll (digits : List Char) : Option Int :=
  if digitsToNat digits < 2 ^ 63 then some (digitsToNat digits) else none

/-- `CheckFileSize` with the result of `curl_easy_perform` and what the callback has gathered; `none` is the
exception of `stoll`. -/
def checkFileSize (isPerformed : Bool) (headerData : List Char) (totalFileSize : Int) : Option Bool :=
  if !isPerformed then some false
  else
    match StringUtils.findString contentLengthKey headerData with
    | none => some false
    | some pos =>
      let digits := searchDigits (headerData.drop (pos + contentLengthKey.length))
      if digits = [] then some false
      else (stoll digits).map fun fileSize => !(fileSize ≤ 0 || fileSize ≠ totalFileSize)

end StreamProgressThread

end UpdateService
