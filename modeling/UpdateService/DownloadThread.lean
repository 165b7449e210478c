import UpdateService.DownloadCommon

/-!
# `DownloadThread`: construction, stopping and reporting

A thread object keeps its own copy of the `DownloadInfo` it was made from. `phase` is where its
submitted task is: `Start` only queues the task, it begins later, and it is over when its function
returns. A report is what `CallbackDownload` hands to the callback; the ones made while the task
runs are labels of the systems that use threads (`ThreadReport`), the one `NetChangeToPause` makes
from outside the task is computed here.
-/

namespace UpdateService

/-- `Constant::MIN_FILE_DOWNLOAD_SIZE`. -/
def minFileDownloadSize : Nat := 10 * 1024 * 1024

def calculatedRollBackSize (fileDownloadSize : Int) : Int :=
  if fileDownloadSize ≤ 0 then 0
  else if fileDownloadSize ≤ minFileDownloadSize then fileDownloadSize else minFileDownloadSize

inductive ThreadPhase
  | submitted | running | finished
deriving DecidableEq, Repr

structure DownloadThread where
  downloadInfo : DownloadInfo
  status : DownloadStatus := .init
  callbackInfo : DownloadCallbackInfo := {}
  percent : Int := 0
  downloadedSize : Int := 0
  totalSize : Int := 0
  fileInitSize : Int := 0
  verifiedSize : Int := 0
  verifiedPercent : Int := 0
  isNeedAutoPause : Bool := false
  isNeedCancel : Bool := false
  isPackageSizeVerified : Bool := false
  isRequestStopped : Bool := false
  isDisableCallbackFlag : Bool := false
  downloadStartTime : Int := 0
  lastEffectiveTime : Int := 0
  prevCallbackTime : Int := 0
  phase : ThreadPhase := .submitted
deriving DecidableEq, Repr

namespace DownloadThread

/-- The size a new thread starts from: `downloadedSize_` after the constructor. -/
def initialDownloadedSize (fileRealSize : Int) : Int :=
  max (fileRealSize - calculatedRollBackSize fileRealSize) 0

/-- The constructor; `fileRealSize` is `FileUtils::GetFileSize` of the package path. -/
def ofInfo (downloadInfo : DownloadInfo) (fileRealSize now : Int) : DownloadThread where
  downloadInfo := { downloadInfo with downloadedSize := initialDownloadedSize fileRealSize }
  fileInitSize := fileRealSize
  downloadedSize := initialDownloadedSize fileRealSize
  verifiedSize := downloadInfo.verifiedSize
  totalSize := downloadInfo.packageSize
  lastEffectiveTime := downloadInfo.effectiveTime
  status := downloadInfo.status
  callbackInfo :=
    { downloadedSize := initialDownloadedSize fileRealSize
      verifiedSize := downloadInfo.verifiedSize
      startTime := downloadInfo.startTime }
  prevCallbackTime := if downloadInfo.reportInterval > 0 then now else 0

def downloadId (th : DownloadThread) : String := th.downloadInfo.downloadId

@[simp] theorem ofInfo_downloadId (d : DownloadInfo) (size now : Int) :
    (ofInfo d size now).downloadId = d.downloadId := rfl

@[simp] theorem ofInfo_phase (d : DownloadInfo) (size now : Int) : (ofInfo d size now).phase = .submitted := rfl

@[simp] theorem ofInfo_status (d : DownloadInfo) (size now : Int) : (ofInfo d size now).status = d.status := rfl

theorem initialDownloadedSize_natCast (n : Nat) :
    initialDownloadedSize n = ((n - minFileDownloadSize : Nat) : Int) := by
  unfold initialDownloadedSize calculatedRollBackSize
  split
  · omega
  · split <;> omega

theorem initialDownloadedSize_toNat (n : Nat) : (initialDownloadedSize n).toNat = n - minFileDownloadSize := by
  rw [initialDownloadedSize_natCast, Int.toNat_natCast]

def callbackDownload (status : DownloadStatus) (endReason : DownloadEndReason)
    (errorInfo : DownloadErrorInfo) (now : Int) (th : DownloadThread) :
    DownloadThread × DownloadCallbackInfo :=
  let isFail := status = .fail
  let size := if isFail then th.totalSize else th.downloadedSize
  let info : DownloadCallbackInfo :=
    { th.callbackInfo with
      downloadId := th.downloadInfo.downloadId
      startTime := if th.callbackInfo.startTime = 0 then now else th.callbackInfo.startTime
      endTime := if status = .success ∨ isFail then now else th.callbackInfo.endTime
      status := status
      endReason := endReason
      verifiedSize := if isFail then th.totalSize else th.verifiedSize
      downloadedSize := if th.downloadedSize < th.fileInitSize then th.fileInitSize else size
      downloadErrorInfo := errorInfo }
  ({ th with
      callbackInfo := info
      prevCallbackTime := if th.downloadInfo.reportInterval > 0 then now else th.prevCallbackTime }, info)

/-- The error info of a report without error: `CURLE_OK` and HTTP 200. -/
def noError : DownloadErrorInfo := { curlErrorCode := 0, httpErrorCode := 200 }

/-- What the file system says when a package file is opened: the number and the text of an error, and what `fseek` gives
back with them. -/
structure PackageFileAnswers where
  createsDir : Bool := true
  openError : Option (Int × String) := none
  seekError : Option (Int × String × Int) := none

/-- The two `strstr` of `InitPackageParam`. -/
def isInvalidPath (fileName : String) : Bool :=
  "/.".toList <:+: fileName.toList || "./".toList <:+: fileName.toList

/-- `InitPackageParam`: the error message, `none` for a success. A file name holds no NUL. -/
def initPackageParam (fileName : String) (answers : PackageFileAnswers) : Option String :=
  if !answers.createsDir then some "CreateMultiDirWithPermission fail"
  else if isInvalidPath fileName then some (fileName ++ "is invalid")
  else
    match answers.openError with
    | some (errno, errnoMsg) => some ("errno=" ++ toString errno ++ ";" ++ "errnoMsg=" ++ errnoMsg)
    | none =>
      match answers.seekError with
      | some (errno, errnoMsg, ret) =>
        some ("errno=" ++ toString errno ++ ";" ++ "errnoMsg=" ++ errnoMsg ++ ";" ++ "fseekRet=" ++ toString ret)
      | none => none

/-- `NetChangeToPause`: a thread that has not begun reports `AUTO_PAUSE` itself, a downloading one
is told to stop. -/
def netChangeToPause (now : Int) (th : DownloadThread) : DownloadThread × Option DownloadCallbackInfo :=
  if th.status = .init then
    let (th, info) := th.callbackDownload .autoPause .netChange noError now
    (th, some info)
  else if th.status ≠ .downloading then (th, none)
  else ({ th with isNeedAutoPause := true, isRequestStopped := true }, none)

/-- `Stop`; `ended` says whether the run of a started thread is over within the bounded wait. -/
def stop (ended : Bool) (th : DownloadThread) : DownloadThread :=
  { th with
    isNeedCancel := true
    isRequestStopped := true
    phase := if th.phase = .running ∧ ended then .finished else th.phase }

theorem netChangeToPause_fst (now : Int) (th : DownloadThread) :
    (th.netChangeToPause now).1.downloadId = th.downloadId ∧ (th.netChangeToPause now).1.phase = th.phase ∧
      (th.netChangeToPause now).1.status = th.status ∧
      (th.netChangeToPause now).1.callbackInfo.resetRetryTimes = th.callbackInfo.resetRetryTimes := by
  unfold netChangeToPause callbackDownload downloadId
  split
  · exact ⟨rfl, rfl, rfl, rfl⟩
  · split <;> exact ⟨rfl, rfl, rfl, rfl⟩

/-- What a thread reports to a network change: at most that it pauses, and only before it begins. -/
theorem netChangeToPause_snd {now : Int} {th : DownloadThread} {info : DownloadCallbackInfo}
    (h : (th.netChangeToPause now).2 = some info) :
    th.status = .init ∧ info.downloadId = th.downloadId ∧ info.status = .autoPause ∧
      info.resetRetryTimes = th.callbackInfo.resetRetryTimes := by
  unfold netChangeToPause at h
  split at h
  · rename_i hs
    obtain rfl := Option.some.inj h
    exact ⟨hs, rfl, rfl, rfl⟩
  · split at h <;> simp at h

@[simp] theorem stop_downloadId (ended : Bool) (th : DownloadThread) : (th.stop ended).downloadId = th.downloadId := rfl

end DownloadThread

namespace DownloadStatus

/-- The statuses a `DownloadThread` passes to `CallbackDownload`. -/
def isThreadReport : DownloadStatus → Bool
  | downloading | verifying | success | fail | autoPause => true
  | init | pause | cancel => false

/-- The statuses after which `UpdateDownloadProgress` keeps the thread registered. -/
def isOngoing : DownloadStatus → Bool
  | downloading | verifying => true
  | _ => false

theorem isThreadReport_fail : fail.isThreadReport = true := rfl

end DownloadStatus

structure ThreadReport where
  info : DownloadCallbackInfo
  isThreadReport : info.status.isThreadReport = true
deriving DecidableEq

end UpdateService
