import UpdateService.FirmwareStore

/-!
# Cancelling (`UpdateServiceImplFirmware::Cancel`, `FirmwareManager::DoCancel`)
-/

namespace UpdateService

/-- Of `CallResult` the two values used here. -/
inductive CallResult
  | success | fail
deriving DecidableEq, Repr

structure BusinessError where
  message : String := ""
  errorNum : CallResult := .success
  /-- Error codes with their messages. -/
  data : List (Int × String) := []
deriving DecidableEq, Repr

namespace BusinessError

def build (callResult : CallResult) (msg : String) (e : BusinessError) : BusinessError :=
  { e with errorNum := callResult, message := msg }

def addErrorMessage (errorCode : Int) (errorMessage : String) (e : BusinessError) : BusinessError :=
  { e with data := e.data ++ [(errorCode, errorMessage)] }

end BusinessError

def dupdateErrCancelTaskError : Int := -413

def dupdateErrDownloadCommonError : Int := -300

namespace FirmwareManager

/-- The statuses that the guard of `DoCancel` lets pass. -/
def isCancelable (status : UpgradeStatus) : Bool :=
  status = .downloading || status = .downloadSuccess || status = .downloadPause

def resetComponents (components : List FirmwareComponent) : List FirmwareComponent :=
  components.foldl
    (fun table c => FirmwareComponentOperator.updateProgressByVersionId c.versionId .checkVersionSuccess 0 table) components

/-- The end of `DoCancel`, which comes after a failure as well. -/
def resetTask (task : FirmwareTask) (s : Firmware) : Firmware where
  taskTable := FirmwareTaskOperator.updateProgressByTaskId task.taskId .checkVersionSuccess 0 s.taskTable
  componentTable := resetComponents s.componentTable
  downloads := (s.downloads.removeTask task.downloadTaskId).2

/-- `DoCancel`; `ended` says which download threads end in time. -/
def doCancel (ended : Nat → Bool) (e : BusinessError) (s : Firmware) : BusinessError × Firmware :=
  let task := FirmwareTaskOperator.queryTask s.taskTable
  if !task.isExistTask then
    ((e.build .fail "no download task to cancel!").addErrorMessage dupdateErrDownloadCommonError
      "no download task to cancel!", s)
  else if !isCancelable task.status then
    ((e.build .fail "download task status invalid").addErrorMessage dupdateErrDownloadCommonError
      "download task status invalid!", s)
  else if task.status = .downloading then
    match s.downloads.cancel task.downloadTaskId ended true with
    | (downloadError, downloads) =>
      let e := if downloadError.errorNum ≠ .success then
          (e.build .fail "cancel download error!").addErrorMessage downloadError.endReason.toInt "cancel download error!"
        else e
      (e, resetTask task { s with downloads })
  else (e, resetTask task s)

end FirmwareManager

namespace UpdateServiceImplFirmware

/-- The statuses that `Cancel` itself lets pass. -/
def isCancelable (isStreamUpgrade : Bool) (status : UpgradeStatus) : Bool :=
  if isStreamUpgrade then status = .installing else status = .downloading || status = .downloadPause

def cancel (ended : Nat → Bool) (s : Firmware) : BusinessError × Firmware :=
  let task := FirmwareTaskOperator.queryTask s.taskTable
  if FirmwareUpdateHelper.isStreamUpgrade s.componentTable then
    if !isCancelable true task.status then
      ((BusinessError.build .fail "Cancel install error" {}).addErrorMessage dupdateErrCancelTaskError
        "no install task to cancel!", s)
    else FirmwareManager.doCancel ended {} s
  else if !isCancelable false task.status then
    ((BusinessError.build .fail "Cancel download error" {}).addErrorMessage dupdateErrCancelTaskError
      "no download task to cancel!", s)
  else FirmwareManager.doCancel ended {} s

end UpdateServiceImplFirmware

end UpdateService
