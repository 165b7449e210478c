import UpdateService.FirmwareCheck
import UpdateService.FirmwareDownload
import UpdateService.FirmwareInstall
import UpdateService.FirmwareRequests
import UpdateService.JsonBuilder
import UpdateService.StatusCache
import UpdateService.Lib.CrashLogic

/-!
# What the firmware part writes

A `DeviceWrite` is a statement of one of the two operators, a change of a preference or of the bell, a notice to the
application, or a call of an object of the process: each is done as a whole or not at all. The tables, the preferences,
the bell and the files are still there after the process has gone; `FirmwareDevice.restarted` is what is left.
-/

namespace UpdateService

/-- `FirmwarePreferencesUtil`, without the polling time. -/
structure FirmwarePreferences where
  autoDownloadSwitch : Bool := false
  nightUpgradeSwitch : Bool := false
  needRetryCheck : Bool := false
  /-- `restore_boot_animation_sound`. -/
  bellStatus : Option Bool := none
  dueInitFlag : Bool := false
  updateAction : String := ""
  hotaCurrentComponentId : String := ""
deriving DecidableEq, Repr

def FirmwarePreferences.getBellStatus (p : FirmwarePreferences) : Bool := p.bellStatus.getD false

structure FirmwareDevice where
  taskTable : List FirmwareTaskRow := []
  componentTable : List FirmwareComponent := []
  preferences : FirmwarePreferences := {}
  isBellOn : Bool := true
  /-- What the application has been told. -/
  notices : List InnerApi.EventInfo := []
  statusCache : StatusCache := {}
  /-- The night alarm has been asked for and has not gone off. -/
  nightUpgradeAlarm : Bool := false
  downloads : DownloadTaskManager := {}

inductive DeviceWrite
  | insertTask (task : FirmwareTaskRow)
  | deleteAllTasks
  | updateProgressByTaskId (taskId : String) (status : UpgradeStatus) (progress : Int)
  | updateStatusByTaskId (taskId : String) (status : UpgradeStatus)
  | updateDownloadTaskIdByTaskId (taskId downloadTaskId : String)
  | updateDownloadOptionByTaskId (taskId : String) (downloadMode : DownloadMode) (downloadAllowNetwork : NetType)
      (downloadOrder : Order)
  | updateUpgradeModeByTaskId (taskId : String) (upgradeMode : UpgradeMode)
  | insertComponents (components : List FirmwareComponent)
  | deleteAllComponents
  | updateProgressByVersionId (versionId : String) (status : UpgradeStatus) (progress : Int)
  | updateProgressByUrl (url : String) (status : UpgradeStatus) (progress : Int)
  | updateStatusByUrl (url : String) (status : UpgradeStatus)
  | updateUrlByVersionId (versionId url : String)
  | updateRecordPointByUrl (url : String) (recordPoint : Int)
  | deleteDbStore
  | deleteDownloadFiles
  | preferences (preferences : FirmwarePreferences)
  | bell (isBellOn : Bool)
  | notice (eventInfo : InnerApi.EventInfo)
  | statusCache (statusCache : StatusCache)
  | nightUpgradeAlarm (isSet : Bool)
  /-- The download manager after a call. -/
  | downloads (downloads : DownloadTaskManager)

namespace FirmwareDevice

/-- The tables as the operators of `FirmwareStore` see them. -/
def toFirmware (d : FirmwareDevice) : Firmware where
  taskTable := d.taskTable.map (·.toFirmwareTask)
  componentTable := d.componentTable
  downloads := d.downloads

open FirmwareTaskRow FirmwareComponentOperator in
def apply (d : FirmwareDevice) : DeviceWrite → FirmwareDevice
  | .insertTask task => { d with taskTable := d.taskTable ++ [task] }
  | .deleteAllTasks => { d with taskTable := [] }
  | .updateProgressByTaskId taskId status progress =>
    { d with taskTable := updateTaskByTaskId taskId (fun task => { task with status, progress }) d.taskTable }
  | .updateStatusByTaskId taskId status =>
    { d with taskTable := updateTaskByTaskId taskId (fun task => { task with status }) d.taskTable }
  | .updateDownloadTaskIdByTaskId taskId downloadTaskId =>
    { d with taskTable := updateTaskByTaskId taskId (fun task => { task with downloadTaskId }) d.taskTable }
  | .updateDownloadOptionByTaskId taskId downloadMode downloadAllowNetwork downloadOrder =>
    { d with
      taskTable := updateDownloadOptionByTaskId taskId downloadMode downloadAllowNetwork downloadOrder d.taskTable }
  | .updateUpgradeModeByTaskId taskId upgradeMode =>
    { d with taskTable := updateUpgradeModeByTaskId taskId upgradeMode d.taskTable }
  | .insertComponents components => { d with componentTable := d.componentTable ++ components }
  | .deleteAllComponents => { d with componentTable := [] }
  | .updateProgressByVersionId versionId status progress =>
    { d with componentTable := updateProgressByVersionId versionId status progress d.componentTable }
  | .updateProgressByUrl url status progress =>
    { d with componentTable := updateProgressByUrl url status progress d.componentTable }
  | .updateStatusByUrl url status =>
    { d with componentTable := d.componentTable.updateWhere (fun c => c.url = url) fun c => { c with status } }
  | .updateUrlByVersionId versionId url =>
    { d with componentTable := updateUrlByVersionId versionId url d.componentTable }
  | .updateRecordPointByUrl url recordPoint =>
    { d with componentTable := updateRecordPointByUrl url recordPoint d.componentTable }
  | .deleteDbStore => { d with taskTable := [], componentTable := [] }
  | .deleteDownloadFiles => { d with downloads := (FirmwareFileUtils.deleteDownloadFiles d.toFirmware).downloads }
  | .preferences preferences => { d with preferences }
  | .bell isBellOn => { d with isBellOn }
  | .notice eventInfo => { d with notices := d.notices ++ [eventInfo] }
  | .statusCache statusCache => { d with statusCache }
  | .nightUpgradeAlarm isSet => { d with nightUpgradeAlarm := isSet }
  | .downloads downloads => { d with downloads }

instance : Store FirmwareDevice DeviceWrite := ⟨apply⟩

/-- What a new process finds. -/
def restarted (d : FirmwareDevice) : FirmwareDevice :=
  { d with statusCache := {}, nightUpgradeAlarm := false, downloads := d.downloads.restart }

end FirmwareDevice

abbrev FirmwareProgram (α : Type) := Program FirmwareDevice DeviceWrite α

/-! ### The functions of the firmware part as programs over the device -/

namespace FirmwareProgram
open Program

namespace FirmwareTaskOperator

def queryTask : FirmwareProgram FirmwareTaskRow := read fun d => FirmwareTaskRow.queryTask d.taskTable

/-- `QueryTask` to a variable that has a value already, of which an empty table changes the flag alone. -/
def queryTaskTo (task : FirmwareTaskRow) : FirmwareProgram FirmwareTaskRow :=
  read fun d => if d.taskTable = [] then { task with isExistTask := false } else FirmwareTaskRow.queryTask d.taskTable

/-- `GetTask` of the objects that ask only until they have found a task. -/
def queryTaskOnce (task : FirmwareTaskRow) : FirmwareProgram FirmwareTaskRow :=
  if task.isExistTask then pure task else queryTaskTo task

end FirmwareTaskOperator

namespace FirmwareComponentOperator

def queryAll : FirmwareProgram (List FirmwareComponent) := read (·.componentTable)

end FirmwareComponentOperator

/-- `EventInfo` has no type of its own for an error of the install. -/
def errorMessage (e : ErrorMessage) : InnerApi.ErrorMessage := ⟨.ofInt e.errorCode, e.errorMessage⟩

namespace FirmwareCallbackUtils

def notifyEvent (versionDigestInfo : String) (eventId : InnerApi.EventId) (status : UpgradeStatus)
    (error : ErrorMessage := {}) (versionComponents : List InnerApi.VersionComponent := []) (progress : Int := 0) :
    FirmwareProgram Unit :=
  write (.notice (BaseCallbackUtils.notifyEvent versionDigestInfo eventId status (errorMessage error) versionComponents
    (.ofInt progress)))

def progressCallback (versionDigestInfo : String) (progress : Progress) : FirmwareProgram Unit :=
  write (.notice (BaseCallbackUtils.progressCallback versionDigestInfo progress))

end FirmwareCallbackUtils

namespace DownloadTaskManager

def removeTask (taskId : String) : FirmwareProgram Unit := do
  let downloads ← read (·.downloads)
  write (.downloads (downloads.removeTask taskId).2)

def start (calculateHashCode : String → String) (downloadInfos : List DownloadInfo) (isMemoryEnough : Bool)
    (ended : Nat → Bool) : FirmwareProgram DownloadError := do
  let downloads ← read (·.downloads)
  write (.downloads (downloads.start calculateHashCode downloadInfos true isMemoryEnough ended).2)
  return (downloads.start calculateHashCode downloadInfos true isMemoryEnough ended).1

def resume (taskId : String) (netType : NetType) : FirmwareProgram DownloadError := do
  let downloads ← read (·.downloads)
  write (.downloads (downloads.resume taskId netType true).2)
  return (downloads.resume taskId netType true).1

def cancel (taskId : String) (ended : Nat → Bool) : FirmwareProgram DownloadError := do
  let downloads ← read (·.downloads)
  write (.downloads (downloads.cancel taskId ended true).2)
  return (downloads.cancel taskId ended true).1

/-- `GetTaskProgress`, which refreshes the processor of the task. -/
def getTaskProgress (taskId : String) : FirmwareProgram (ProgressInfo × DownloadError) := do
  let downloads ← read (·.downloads)
  match downloads.find? taskId with
  | none => return ({}, UpdateService.DownloadTaskManager.taskInvalid)
  | some i =>
    match downloads.task? i with
    | none => return ({}, UpdateService.DownloadTaskManager.taskInvalid)
    | some _ => do
      write (.downloads (downloads.taskProgress i).1)
      return ((downloads.taskProgress i).2, {})

end DownloadTaskManager

namespace FirmwarePreferencesUtil

def get : FirmwareProgram FirmwarePreferences := read (·.preferences)

def save (f : FirmwarePreferences → FirmwarePreferences) : FirmwareProgram Unit := do
  let preferences ← get
  write (.preferences (f preferences))

end FirmwarePreferencesUtil

namespace FirmwareUpdateHelper

def clearFirmwareInfo : FirmwareProgram Unit := do
  let task ← FirmwareTaskOperator.queryTask
  DownloadTaskManager.removeTask task.downloadTaskId
  write .deleteAllTasks
  write .deleteAllComponents
  write .deleteDownloadFiles

def isStreamUpgrade : FirmwareProgram Bool :=
  read fun d => UpdateService.FirmwareUpdateHelper.isStreamUpgrade d.componentTable

end FirmwareUpdateHelper

end FirmwareProgram

end UpdateService
