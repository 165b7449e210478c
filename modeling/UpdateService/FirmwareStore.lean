import UpdateService.DownloadTaskManager

/-!
# The firmware tables

The rows of the task table and of the component table with the statements of their operators.
Statements are taken to succeed. `Firmware` is what the firmware part keeps over its requests.
-/

namespace UpdateService

inductive UpgradeStatus
  | error | init
  | checkingVersion | checkVersionFail | checkVersionSuccess
  | downloading | downloadPause | downloadCancel | downloadFail | downloadSuccess
  | verifying | verifyFail | verifySuccess
  | authing | authFail | authSuccess
  | waitTransfer | transferStart | packageTransing | packageTransFail | packageTransSuccess
  | installing | installFail | installSuccess | installPause
  | updating | updateFail | updateSuccess | upgradeReboot
  | upgradeCountDown | upgradeCancel
deriving DecidableEq, Repr

/-- `percent` is a `uint32_t`. -/
structure Progress where
  percent : Int := 0
  status : UpgradeStatus := .init
  endReason : String := ""
deriving DecidableEq, Repr

structure FirmwareTask where
  taskId : String := ""
  status : UpgradeStatus := .init
  progress : Int := 0
  errorCode : Int := 0
  errorMsg : String := ""
  isExistTask : Bool := false
  downloadTaskId : String := ""
  combinationType : Nat := 0
  isStreamUpgrade : Bool := false
deriving DecidableEq, Repr

def abStreamOta : Int := 3

/-- `versionPackageType` and `otaType` are enumerations cast from any `int32_t` of a response. -/
structure FirmwareComponent where
  versionId : String := ""
  versionPackageType : Int := 0
  otaType : Int := 0
  targetBlVersionNumber : String := ""
  targetBlDisplayVersionNumber : String := ""
  versionNumber : String := ""
  componentId : String := ""
  descriptPackageId : String := ""
  blVersionType : Int := 0
  url : String := ""
  fileName : String := ""
  size : Int := 0
  verifyInfo : String := ""
  spath : String := ""
  status : UpgradeStatus := .init
  progress : Int := 0
  recordPoint : Int := 0
deriving DecidableEq, Repr

namespace FirmwareTaskOperator

def queryTask (table : List FirmwareTask) : FirmwareTask :=
  match table with
  | [] => {}
  | task :: _ => { task with isExistTask := true }

def updateByTaskId (taskId : String) (f : FirmwareTask → FirmwareTask) (table : List FirmwareTask) :
    List FirmwareTask :=
  table.updateWhere (fun task => task.taskId = taskId) f

def updateProgressByTaskId (taskId : String) (status : UpgradeStatus) (progress : Int) :
    List FirmwareTask → List FirmwareTask :=
  updateByTaskId taskId fun task => { task with status, progress }

def updateStatusByTaskId (taskId : String) (status : UpgradeStatus) : List FirmwareTask → List FirmwareTask :=
  updateByTaskId taskId fun task => { task with status }

def updateErrMsgByTaskId (taskId : String) (errorCode : Int) (errorMsg : String) :
    List FirmwareTask → List FirmwareTask :=
  updateByTaskId taskId fun task => { task with errorCode, errorMsg }

def updateDownloadTaskIdByTaskId (taskId downloadTaskId : String) : List FirmwareTask → List FirmwareTask :=
  updateByTaskId taskId fun task => { task with downloadTaskId }

end FirmwareTaskOperator

namespace FirmwareComponentOperator

def updateProgressByVersionId (versionId : String) (status : UpgradeStatus) (progress : Int)
    (table : List FirmwareComponent) : List FirmwareComponent :=
  table.updateWhere (fun c => c.versionId = versionId) fun c => { c with status, progress }

def updateUrlByVersionId (versionId url : String) (table : List FirmwareComponent) : List FirmwareComponent :=
  table.updateWhere (fun c => c.versionId = versionId) fun c => { c with url }

def updateProgressByUrl (url : String) (status : UpgradeStatus) (progress : Int)
    (table : List FirmwareComponent) : List FirmwareComponent :=
  table.updateWhere (fun c => c.url = url) fun c => { c with status, progress }

/-- The `int64_t` is put into the bucket by `PutInt`, which takes an `int`. -/
def updateRecordPointByUrl (url : String) (recordPoint : Int) (table : List FirmwareComponent) :
    List FirmwareComponent :=
  table.updateWhere (fun c => c.url = url) fun c => { c with recordPoint := castInt32 recordPoint }

def queryByVersionId (versionId : String) (table : List FirmwareComponent) : Option FirmwareComponent :=
  table.find? fun c => c.versionId = versionId

def queryByUrl (url : String) (table : List FirmwareComponent) : Option FirmwareComponent :=
  table.find? fun c => c.url = url

end FirmwareComponentOperator

structure Firmware where
  taskTable : List FirmwareTask := []
  componentTable : List FirmwareComponent := []
  downloads : DownloadTaskManager := {}

namespace FirmwareUpdateHelper

def isStreamUpgrade (componentList : List FirmwareComponent) : Bool :=
  match componentList with
  | [] => false
  | c :: _ => c.otaType = abStreamOta

/-- `IsUpgradePackagesReady`; a file that does not exist has no size. -/
def isUpgradePackagesReady (fileSize : String → Option Int) (componentList : List FirmwareComponent) : Bool :=
  componentList ≠ [] && componentList.all fun c => fileSize c.spath = some c.size

def buildTaskId (calculateHashCode : String → String) (componentList : List FirmwareComponent) : String :=
  if componentList = [] then ""
  else calculateHashCode
    (componentList.foldl (fun taskId c => (if taskId ≠ "" then taskId ++ "_" else taskId) ++ c.versionId) "")

end FirmwareUpdateHelper

end UpdateService
