import UpdateService.FirmwareManager
import UpdateService.Lib.Lts

/-!
# The requests on a firmware task (`UpdateServiceImplFirmware`)

`Download`, `ResumeDownload` and `Upgrade` on the rows of the task table, with the columns for the options of a
download and of an upgrade. A request that is accepted hands options on to `DoDownload` or `DoInstall`; what these do to
the row is a later write. The gates of `FirmwareStatusCache` are answers.
-/

namespace UpdateService

/-- A request is read from a parcel and cast: `other` is a number that no enumerator has. -/
inductive Order
  | download | install | downloadAndInstall | apply | installAndApply | transfer | transferAndApply
  | other (value : Int)
deriving DecidableEq, Repr

inductive DownloadMode
  | manual | auto
deriving DecidableEq, Repr

inductive UpgradeMode
  | manual | night
deriving DecidableEq, Repr

structure DownloadOptions where
  allowNetwork : NetType := .wifi
  order : Order := .download
deriving DecidableEq, Repr

structure UpgradeOptions where
  order : Order := .install
deriving DecidableEq, Repr

structure FirmwareTaskRow extends FirmwareTask where
  downloadOrder : Order := .download
  downloadAllowNetwork : NetType := .notMeteredWifi
  downloadMode : DownloadMode := .manual
  upgradeOrder : Order := .install
  upgradeMode : UpgradeMode := .manual
deriving DecidableEq, Repr

namespace FirmwareTaskRow

def queryTask (table : List FirmwareTaskRow) : FirmwareTaskRow :=
  match table with
  | [] => {}
  | task :: _ => { task with isExistTask := true }

def updateByTaskId (taskId : String) (f : FirmwareTaskRow → FirmwareTaskRow) (table : List FirmwareTaskRow) :
    List FirmwareTaskRow :=
  table.updateWhere (fun task => task.taskId = taskId) f

def updateDownloadOptionByTaskId (taskId : String) (downloadMode : DownloadMode) (downloadAllowNetwork : NetType)
    (downloadOrder : Order) : List FirmwareTaskRow → List FirmwareTaskRow :=
  updateByTaskId taskId fun task => { task with downloadMode, downloadAllowNetwork, downloadOrder }

def updateUpgradeModeByTaskId (taskId : String) (upgradeMode : UpgradeMode) :
    List FirmwareTaskRow → List FirmwareTaskRow :=
  updateByTaskId taskId fun task => { task with upgradeMode }

/-- A write of the other statements of `FirmwareTaskOperator`. -/
def updateTaskByTaskId (taskId : String) (f : FirmwareTask → FirmwareTask) :
    List FirmwareTaskRow → List FirmwareTaskRow :=
  updateByTaskId taskId fun task => { task with toFirmwareTask := f task.toFirmwareTask }

end FirmwareTaskRow

namespace UpdateServiceImplFirmware
open FirmwareTaskRow

/-- `Download`: the refusal or the options for `DoDownload`, and the table. -/
def download (isDownloadTriggered : Bool) (downloadOptions : DownloadOptions) (table : List FirmwareTaskRow) :
    Except BusinessError DownloadOptions × List FirmwareTaskRow :=
  if isDownloadTriggered then (.error (BusinessError.build .fail "repeat download error" {}), table)
  else
    let task := queryTask table
    if task.status ≠ .checkVersionSuccess then (.error (BusinessError.build .fail "download error" {}), table)
    else (.ok downloadOptions,
      updateDownloadOptionByTaskId task.taskId .manual downloadOptions.allowNetwork downloadOptions.order table)

/-- `ResumeDownload`, whose options are the allowed network. -/
def resumeDownload (allowNetwork : NetType) (table : List FirmwareTaskRow) :
    Except BusinessError DownloadOptions × List FirmwareTaskRow :=
  let task := queryTask table
  if task.status ≠ .checkVersionSuccess ∧ task.status ≠ .downloadPause then
    (.error (BusinessError.build .fail "download error" {}), table)
  else (.ok { order := task.downloadOrder, allowNetwork },
    updateDownloadOptionByTaskId task.taskId .manual allowNetwork task.upgradeOrder table)

def upgrade (isUpgradeTriggered : Bool) (upgradeOptions : UpgradeOptions) (table : List FirmwareTaskRow) :
    Except BusinessError UpgradeOptions × List FirmwareTaskRow :=
  if isUpgradeTriggered then (.error (BusinessError.build .fail "repeat upgrade error" {}), table)
  else (.ok upgradeOptions, updateUpgradeModeByTaskId (queryTask table).taskId .manual table)

/-- `FirmwareEventManager::HandleNightUpgrade`, as far as it writes to the row. -/
def handleNightUpgrade (nightUpgradeSwitch : Bool) (table : List FirmwareTaskRow) : List FirmwareTaskRow :=
  if !nightUpgradeSwitch then table
  else
    let task := queryTask table
    if !task.isExistTask then table
    else if task.status ≠ .downloadSuccess then table
    else updateUpgradeModeByTaskId task.taskId .night table

end UpdateServiceImplFirmware

/-- A request on the task, or a change of its row between the requests. -/
inductive FirmwareRequest
  | download (isDownloadTriggered : Bool) (downloadOptions : DownloadOptions)
  | resumeDownload (allowNetwork : NetType)
  | upgrade (isUpgradeTriggered : Bool) (upgradeOptions : UpgradeOptions)
  | nightUpgrade (nightUpgradeSwitch : Bool)
  | write (taskId : String) (f : FirmwareTask → FirmwareTask)

namespace FirmwareTaskRow
open UpdateServiceImplFirmware

def step (table : List FirmwareTaskRow) : FirmwareRequest → List FirmwareTaskRow
  | .download isDownloadTriggered downloadOptions =>
    (UpdateServiceImplFirmware.download isDownloadTriggered downloadOptions table).2
  | .resumeDownload allowNetwork => (UpdateServiceImplFirmware.resumeDownload allowNetwork table).2
  | .upgrade isUpgradeTriggered upgradeOptions =>
    (UpdateServiceImplFirmware.upgrade isUpgradeTriggered upgradeOptions table).2
  | .nightUpgrade nightUpgradeSwitch => handleNightUpgrade nightUpgradeSwitch table
  | .write taskId f => updateTaskByTaskId taskId f table

def lts : Lts (List FirmwareTaskRow) FirmwareRequest := .ofFun step

end FirmwareTaskRow

end UpdateService
