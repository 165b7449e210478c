import UpdateService.Lib.DurableFile
import UpdateService.Lib.Lts
import UpdateService.DownloadThread

/-!
# Downloading one package into its file (`DownloadRequest`)

`writeFun` is the curl write callback with its fsync threshold and all its failing paths. The
labelled system `PackageDownload.lts` runs it as the threads of one download do, one at a time: a
thread resumes at `DownloadThread.initialDownloadedSize` of the file, curl hands over the package
bytes from there until a call returns short, `SyncFile` ends the transfer, and a power loss may
come at any point.
-/

namespace UpdateService
open DurableFile
variable {β : Type*}

/-- libcurl's `CURL_MAX_WRITE_SIZE`. -/
def curlMaxWriteSize : Nat := 16384

/-- `FILE_SIZE_MB`: the number of unsynced bytes from which `WriteFun` syncs. -/
def fileSizeMb : Nat := minFileDownloadSize - curlMaxWriteSize * 2

/-- What the C library answers to one `WriteFun` call. -/
structure WriteIo where
  /-- Bytes `fwrite` stores, if that is fewer than asked for. -/
  stored : Nat
  fflushOk : Bool
  fsyncOk : Bool
deriving DecidableEq, Repr

structure DownloadRequest where
  /-- The position of `file_`, `none` for a null pointer. -/
  file : Option Nat := none
  downloadedSize : Int := 0
  isNeedStop : Bool := false
  fsyncSize : Nat := 0
deriving DecidableEq, Repr

namespace DownloadRequest

/-- `WriteFun`: what it returns, the request and the file after it. -/
def writeFun (buffer : List β) (io : WriteIo) (r : DownloadRequest) (f : List (Cell β)) :
    Nat × DownloadRequest × List (Cell β) :=
  if buffer.length = 0 ∨ curlMaxWriteSize < buffer.length then (0, r, f)
  else if r.isNeedStop then (0, r, f)
  else
    match r.file with
    | none => (0, r, f)
    | some pos =>
      let stored := buffer.take io.stored
      let f := write f pos stored
      let r := { r with file := some (pos + stored.length) }
      if stored.length ≠ buffer.length then (0, r, f)
      else
        let r := { r with fsyncSize := r.fsyncSize + buffer.length }
        if fileSizeMb ≤ r.fsyncSize then
          if !io.fflushOk then (0, r, f)
          else if !io.fsyncOk then (0, r, f)
          else (buffer.length, { r with fsyncSize := 0 }, sync f)
        else (buffer.length, r, f)

/-- `CallbackProgress`: the arguments passed on to the thread, `none` when it is not called. -/
def callbackProgress (dlTotal dlNow : Int) (r : DownloadRequest) : Option (Int × Int) :=
  if dlTotal = 0 ∧ dlNow = 0 then none
  else if r.isNeedStop then none
  else some (dlTotal + r.downloadedSize, dlNow + r.downloadedSize)

end DownloadRequest

/-- A transfer of a running thread: its request, the bytes curl has handed over, and whether curl
goes on (it ends a transfer whose write callback returned short). -/
structure Transfer where
  request : DownloadRequest
  received : Nat := 0
  isOpen : Bool := true
deriving DecidableEq, Repr

def Transfer.offset (t : Transfer) : Nat := t.request.downloadedSize.toNat + t.received

structure PackageDownload (β : Type*) where
  file : List (Cell β) := []
  thread : Option Transfer := none

inductive TransferOp (β : Type*)
  | resume
  | chunk (n : Nat) (io : WriteIo)
  | stop
  | finish (fflushOk fsyncOk : Bool)
  | powerLoss (file : List (Cell β))
  | clearPackage

namespace PackageDownload

/-- `InitPackageParam` and `DoDownload` of a new thread: the same size is used for `fseek` and for
the requested range. -/
def startTransfer (f : List (Cell β)) : Transfer where
  request :=
    { file := some (DownloadThread.initialDownloadedSize f.length).toNat
      downloadedSize := DownloadThread.initialDownloadedSize f.length }

/-- curl hands over the next bytes of the package, at most `n`. -/
def deliver (pkg : List β) (n : Nat) (io : WriteIo) (t : Transfer) (f : List (Cell β)) : PackageDownload β :=
  let buffer := (pkg.drop t.offset).take n
  let (ret, request, f) := t.request.writeFun buffer io f
  { file := f, thread := some ⟨request, t.received + buffer.length, ret = buffer.length⟩ }

/-- `SyncFile` and the end of the thread. -/
def finishTransfer (fflushOk fsyncOk : Bool) (f : List (Cell β)) : PackageDownload β where
  file := if fflushOk && fsyncOk then sync f else f

def step (pkg : List β) (s : PackageDownload β) : TransferOp β → PackageDownload β → Prop
  | .resume, s' => s.thread = none ∧ s' = { s with thread := some (startTransfer s.file) }
  | .chunk n io, s' => ∃ t, s.thread = some t ∧ t.isOpen = true ∧ s' = deliver pkg n io t s.file
  | .stop, s' => ∃ t, s.thread = some t ∧
      s' = { s with thread := some { t with request := { t.request with isNeedStop := true } } }
  | .finish fflushOk fsyncOk, s' => s.thread ≠ none ∧ s' = finishTransfer fflushOk fsyncOk s.file
  | .powerLoss f, s' => Crash s.file f ∧ s' = { file := f }
  | .clearPackage, s' => s.thread = none ∧ s' = {}

def lts (pkg : List β) : Lts (PackageDownload β) (TransferOp β) := ⟨step pkg⟩

end PackageDownload

end UpdateService
