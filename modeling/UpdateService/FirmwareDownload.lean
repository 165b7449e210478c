import UpdateService.FirmwareStore

/-!
# The download of the packages (`FirmwareDownloadExecutor`, `FirmwareDownloadDataProcessor`)

From the rows of the component table to the request for `DownloadTaskManager`, and from the reports on
the task back to the rows.
-/

namespace UpdateService

structure FirmwareDownloadProgress where
  versionId : String
  startTime : Int := 0
  endTime : Int := 0
  effectiveTime : Int := 0
  progress : Progress
  downloadErrorInfo : DownloadErrorInfo := {}
  downloadUrl : String := ""
  packageSize : Int := 0
  downloadedSize : Int := 0
  verifiedSize : Int := 0
  isCombineVerifyProgress : Bool := false
deriving DecidableEq, Repr

structure FirmwareDownloadCallbackInfo where
  downloadTaskId : String := ""
  taskProgress : Progress := {}
  progressList : List FirmwareDownloadProgress := []
deriving DecidableEq, Repr

/-- Of `EventId` the two values of a download that `SetDownloadEvent` handles. -/
inductive EventId
  | eventDownloadStart | eventDownloadResume
deriving DecidableEq, Repr

structure FirmwareDownloadDataProcessor where
  tasks : FirmwareTask
  downloadProgress : Progress

namespace FirmwareDownloadDataProcessor
open FirmwareTaskOperator

def ofTable (taskTable : List FirmwareTask) : FirmwareDownloadDataProcessor where
  tasks := queryTask taskTable
  downloadProgress :=
    { percent := castUint32 (queryTask taskTable).progress, status := (queryTask taskTable).status }

/-- The percentage never goes back; each component is found by its version id. -/
def setDownloadCallbackInfo (callbackInfo : FirmwareDownloadCallbackInfo)
    (x : FirmwareDownloadDataProcessor × Firmware) : FirmwareDownloadDataProcessor × Firmware :=
  let (processor, s) := x
  let tasks := queryTask s.taskTable
  let downloadProgress := { callbackInfo.taskProgress with
    percent := max callbackInfo.taskProgress.percent processor.downloadProgress.percent }
  (⟨tasks, downloadProgress⟩,
    { s with
      componentTable := callbackInfo.progressList.foldl
        (fun table p => FirmwareComponentOperator.updateProgressByVersionId p.versionId p.progress.status
          (castInt32 p.progress.percent) table) s.componentTable
      taskTable := updateProgressByTaskId tasks.taskId downloadProgress.status (castInt32 downloadProgress.percent)
        s.taskTable })

def setDownloadEvent (downloadTaskId : String) (eventId : EventId)
    (x : FirmwareDownloadDataProcessor × Firmware) : FirmwareDownloadDataProcessor × Firmware :=
  let (processor, s) := x
  let tasks := queryTask s.taskTable
  ({ processor with tasks },
    { s with
      taskTable := match eventId with
        | .eventDownloadStart =>
          updateStatusByTaskId tasks.taskId .downloading
            (updateDownloadTaskIdByTaskId tasks.taskId downloadTaskId s.taskTable)
        | .eventDownloadResume => updateStatusByTaskId tasks.taskId .downloading s.taskTable })

end FirmwareDownloadDataProcessor

/-- The error codes of `DUpdateErrno` that are reasons of an end. -/
def dupdateErrDloadNetChanged : Int := 3148800

def dupdateErrDloadRequestFail : Int := -301

def dupdateErrVerifyPackageFail : Int := -305

def dupdateErrNoEnoughMemory : Int := -304

def dupdateErrIoException : Int := -312

namespace FirmwareDownloadExecutor
open FirmwareDownloadDataProcessor

def buildDownloadInfos (allowNetwork : NetType) (components : List FirmwareComponent) : List DownloadInfo :=
  components.map fun c =>
    { versionId := c.versionId
      url := c.url
      path := c.spath
      packageSize := c.size
      verifyInfo := c.verifyInfo
      isNeedAutoResume := false
      method := .get
      netType := allowNetwork }

/-- `statusMap`, which holds every status. -/
def upgradeStatus : DownloadStatus → UpgradeStatus
  | .init | .downloading => .downloading
  | .pause | .autoPause => .downloadPause
  | .cancel => .downloadCancel
  | .fail => .downloadFail
  | .success => .downloadSuccess
  | .verifying => .verifying

def getEndReason (status : UpgradeStatus) (reason : DownloadEndReason) : String :=
  match status, reason with
  | .downloadPause, .netChange => toString dupdateErrDloadNetChanged
  | .downloadPause, .netNotAvailiable => toString dupdateErrDloadRequestFail
  | .downloadFail, .verifyFail => toString dupdateErrVerifyPackageFail
  | .downloadFail, .noEnoughMemory => toString dupdateErrNoEnoughMemory
  | .downloadFail, .ioException => toString dupdateErrIoException
  | _, _ => ""

def buildFirmwareDownloadProgress (p : DownloadProgress) : FirmwareDownloadProgress where
  versionId := p.id
  downloadUrl := p.downloadUrl
  startTime := p.startTime
  endTime := p.endTime
  effectiveTime := p.effectiveTime
  progress := { status := upgradeStatus p.status, percent := p.percent, endReason := toString p.reason.toInt }
  downloadErrorInfo := p.downloadErrorInfo
  packageSize := p.packageSize
  downloadedSize := p.downloadedSize
  verifiedSize := p.verifiedSize
  isCombineVerifyProgress := p.isCombineVerifyProgress

/-- `CallbackProgress`: what a report on the task is passed on as. -/
def callbackProgress (taskId : String) (progressInfo : ProgressInfo) : FirmwareDownloadCallbackInfo where
  downloadTaskId := taskId
  taskProgress :=
    { percent := castUint32 progressInfo.taskProgress
      status := upgradeStatus progressInfo.taskStatus
      endReason := getEndReason (upgradeStatus progressInfo.taskStatus) progressInfo.reason }
  progressList := progressInfo.progresses.map buildFirmwareDownloadProgress

def callResultToInt : DownloadCallResult → Int
  | .success => 0
  | .fail => 1

def callbackDownloadFailProgress (error : DownloadError) : FirmwareDownloadCallbackInfo where
  taskProgress := { status := .downloadFail, endReason := toString (callResultToInt error.errorNum) }

/-- `PerformDownload` of the rows read before. -/
def performDownload (calculateHashCode : String → String) (allowNetwork : NetType) (isMemoryEnough : Bool)
    (ended : Nat → Bool) (components : List FirmwareComponent) (x : FirmwareDownloadDataProcessor × Firmware) :
    FirmwareDownloadDataProcessor × Firmware :=
  let downloadInfos := buildDownloadInfos allowNetwork components
  if downloadInfos = [] then x
  else
    let (processor, s) := setDownloadEvent
      (DownloadTaskManager.getTaskId calculateHashCode downloadInfos) .eventDownloadStart x
    let (downloadError, downloads) := s.downloads.start calculateHashCode downloadInfos true isMemoryEnough ended
    let s := { s with downloads }
    if downloadError.errorNum ≠ .success then
      setDownloadCallbackInfo (callbackDownloadFailProgress downloadError) (processor, s)
    else (processor, s)

end FirmwareDownloadExecutor

end UpdateService
