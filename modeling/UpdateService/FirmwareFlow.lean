import UpdateService.FirmwareDevice
import UpdateService.FirmwareResultProcess

/-!
# The flow of a request (`FirmwareFlowManager`, its modes and executors)

A flow is an object with a mode and the executor of its step. What runs to its end on one thread is one program here:
the beginning of a flow, the body that an executor hands to a thread, and each callback. A flow that has come to
`COMPLETE` is deleted, and its callbacks are not called after that. `Surroundings` are the answers that the rest of
the device gives during a program.
-/

namespace UpdateService

inductive FirmwareStep
  | init | checkStep | downloadStep | authStep | installStep | applyStep | complete
deriving DecidableEq, Repr

/-- `downloadSpace` and `installSpace` are the two functions `IsSpaceEnough` on the rows of the component table, the
latter with a ratio that is a `float`: the required size and the answer. -/
structure Surroundings where
  netType : NetType := .wifi
  downloadSpace : List FirmwareComponent → Int × Bool := fun _ => (0, true)
  installSpace : List FirmwareComponent → Int × Bool := fun _ => (0, true)
  isDeviceHasBattery : Bool := false
  batteryCapacity : Int := 100
  isDeviceIdle : Bool := true
  bootSlot : String := "0"
  isBellSupported : Bool := true
  isBellStatusSaved : Bool := true
  displayVersion : String := ""
  /-- The updater's record, if there is one. -/
  resultFile : Option (List Char) := none
  isMemoryEnough : Bool := true
  ended : Nat → Bool := fun _ => true
  /-- The clock in seconds. -/
  now : Int := 0

def bootslotsAbUpdateValue : String := "2"

def manualUpgradeBatteryLevel : Int := 30

def dupdateErrSystemBusyOnCheck : Int := -207

def dupdateErrSystemBusyOnDownload : Int := -307

def dupdateErrInputParaError : Int := -106

def dupdateErrLowBatteryLevel : Int := -830

namespace Surroundings

/-- `IsNetAvailable` without an argument. -/
def isNetAvailable (env : Surroundings) : Bool := env.netType.isNetAvailable .cellularAndWifi

def isBatteryLow (env : Surroundings) : Bool :=
  env.isDeviceHasBattery && env.batteryCapacity < manualUpgradeBatteryLevel

end Surroundings

structure FirmwareCheckDataProcessor where
  status : CheckStatus := .checkFail
  componentList : List FirmwareComponent := []
  isSameWithDb : Bool := true

structure FirmwareManualCheckMode where
  businessError : BusinessError := {}
  checkDataProcessor : FirmwareCheckDataProcessor := {}

structure FirmwareAutoUpgradeMode where
  checkDataProcessor : FirmwareCheckDataProcessor := {}
  downloadDataProcessor : Option FirmwareDownloadDataProcessor := none
  task : FirmwareTaskRow := {}

structure FirmwareDownloadMode where
  downloadDataProcessor : FirmwareDownloadDataProcessor
  downloadOptions : DownloadOptions
  businessError : BusinessError
  tasks : FirmwareTaskRow := {}

/-- The members of the two modes of an install; `installTasks` is the row that their data processor keeps. -/
structure FirmwareInstallMode where
  upgradeOptions : UpgradeOptions
  businessError : BusinessError
  installType : InstallType
  tasks : FirmwareTaskRow := {}
  installTasks : FirmwareTaskRow := {}

namespace FirmwareInstallMode

def refuse (msg : String) (mode : FirmwareInstallMode) : FirmwareInstallMode :=
  { mode with businessError := mode.businessError.build .fail msg }

def refuseWith (msg : String) (errorCode : Int) (errorMessage : String) (mode : FirmwareInstallMode) :
    FirmwareInstallMode :=
  { mode with businessError := (mode.businessError.build .fail msg).addErrorMessage errorCode errorMessage }

/-- The step after an install that has succeeded. -/
def stepAfterSuccess (mode : FirmwareInstallMode) : FirmwareStep :=
  if mode.upgradeOptions.order = .installAndApply then .applyStep else .complete

end FirmwareInstallMode

inductive FirmwareExecuteMode
  | manualCheck (mode : FirmwareManualCheckMode)
  | autoUpgrade (mode : FirmwareAutoUpgradeMode)
  | download (mode : FirmwareDownloadMode)
  | installApply (mode : FirmwareInstallMode)
  | streamInstallApply (mode : FirmwareInstallMode)

structure FirmwareInstallExecutor where
  installType : InstallType
  installCallbackInfo : InstallCallbackInfo := {}
  tasks : FirmwareTaskRow := {}
  taskProgress : Progress := {}

/-- An executor; `isStarted` when the body has been run from which its callbacks come. -/
inductive FirmwareExecutor
  | check
  | download (downloadOptions : DownloadOptions) (isStarted : Bool)
  | install (executor : FirmwareInstallExecutor) (isStarted : Bool)
  | apply

structure FirmwareFlowManager where
  executeMode : FirmwareExecuteMode
  nextStep : FirmwareStep := .init
  executor : Option FirmwareExecutor := none

/-- After a program of a flow: the flow, unless it is complete, and what has been handed to the one who began it. -/
structure FlowResult where
  flow : Option FirmwareFlowManager
  businessError : BusinessError := {}
  checkResult : Option InnerApi.CheckResult := none

namespace FirmwareProgram
open Program

/-! ### The check -/

namespace FirmwareICheck
open UpdateServiceJsonUtils

/-- `ParseJsonFile`: `valueint` of the search status, which `cJSON` cuts off to a whole number. -/
def parseJsonFile (p : JsonPlatform) (content : String) : Int :=
  match p.parse content with
  | none => -1
  | some root =>
    match root.getObjectItem "searchStatus" with
    | some (.number (.finite q)) => max (-2 ^ 31) (min (2 ^ 31 - 1) (q.num.tdiv q.den))
    | _ => -1

/-- `DoAction` up to the callback; `none` where the server could not be read. -/
def doAction (p : JsonPlatform) (content : Option String) : CheckStatus × List FirmwareComponent :=
  match content with
  | none => (.checkFail, [])
  | some content =>
    if parseJsonFile p content ≠ 0 then (.checkFail, [])
    else if content = "" then (.checkFail, [])
    else (.checkSuccess, (FirmwareCheckAnalyzeUtils.doAnalyze p content [] "").1)

end FirmwareICheck

/-- `FirmwareCheckExecutor::DoCheck` up to `Complete`. -/
def checkComponents (p : JsonPlatform) (content : Option String) : CheckStatus × List FirmwareComponent :=
  let (status, componentList) := FirmwareICheck.doAction p content
  if status = .checkFail then (status, componentList)
  else (status, componentList.map fun c => { c with status := .checkVersionSuccess })

namespace FirmwareUpdateHelper

def getInstallType (env : Surroundings) : FirmwareProgram InstallType := do
  let isStreamUpgrade ← isStreamUpgrade
  return if env.bootSlot = bootslotsAbUpdateValue then
    (if isStreamUpgrade then .streamInstaller else .sysInstaller) else .updater

def dynamicType : Int := 100

/-- `BuildHotaVersionComponent` of components with a first one. -/
def buildHotaVersionComponent (installType : InstallType) (c : FirmwareComponent)
    (hotaComponents : List FirmwareComponent) : InnerApi.VersionComponent where
  componentId := c.componentId
  upgradeAction := "upgrade"
  componentType := 1
  effectiveMode := match installType with
    | .sysInstaller | .streamInstaller => 3
    | _ => 1
  otaMode := match installType with
    | .sysInstaller => 2
    | .streamInstaller => 3
    | _ => 0
  innerVersion := c.targetBlVersionNumber
  displayVersion := c.targetBlDisplayVersionNumber
  size := hotaComponents.foldl (fun size component => size + .ofInt component.size) 0

/-- What `BuildNewVersionInfo` adds to the components of the version. -/
def buildNewVersionInfo (env : Surroundings) (components : List FirmwareComponent) :
    FirmwareProgram (List InnerApi.VersionComponent) := do
  let installType ← getInstallType env
  match components.filter fun c => c.blVersionType = hotaType || c.blVersionType = dynamicType with
  | [] => return []
  | c :: hotaComponents => return [buildHotaVersionComponent installType c (c :: hotaComponents)]

end FirmwareUpdateHelper

namespace FirmwareCheckDataProcessor
open UpdateService.FirmwareCheckDataProcessor

def updateFirmwareComponent (componentList : List FirmwareComponent) : FirmwareProgram Unit := do
  let task ← FirmwareTaskOperator.queryTask
  if !task.isExistTask then return
  else if task.status ≠ .checkVersionSuccess then return
  else forEach (fun c => write (.updateUrlByVersionId c.versionId c.url)) componentList

def handleNewVersion (calculateHashCode : String → String) (p : FirmwareCheckDataProcessor) :
    FirmwareProgram FirmwareCheckDataProcessor := do
  let isSameWithDb ← read fun d => isVersionSameWithDb p.componentList d.componentTable
  if isSameWithDb then do
    updateFirmwareComponent p.componentList
    return { p with isSameWithDb }
  else do
    FirmwareUpdateHelper.clearFirmwareInfo
    let componentList := buildComponentSPath p.componentList
    write (.insertComponents componentList)
    write (.insertTask {
      taskId := UpdateService.FirmwareUpdateHelper.buildTaskId calculateHashCode componentList
      status := .checkVersionSuccess
      isStreamUpgrade := UpdateService.FirmwareUpdateHelper.isStreamUpgrade componentList
      combinationType := getCombinationType componentList })
    return { p with isSameWithDb, componentList }

def handleNoNewVersion : FirmwareProgram Unit := do
  let task ← FirmwareTaskOperator.queryTask
  when task.isExistTask (FirmwareCallbackUtils.notifyEvent task.taskId .eventTaskCancel .init)
  FirmwareUpdateHelper.clearFirmwareInfo

def setCheckResult (calculateHashCode : String → String) (status : CheckStatus)
    (componentList : List FirmwareComponent) (p : FirmwareCheckDataProcessor) :
    FirmwareProgram FirmwareCheckDataProcessor := do
  let p := { p with status, componentList }
  if isCheckFailed status then return p
  else do
    let hasUndoneTask ← read fun d => hasUndoneTask d.toFirmware
    if hasUndoneTask then return p
    else if componentList ≠ [] then handleNewVersion calculateHashCode p
    else do
      handleNoNewVersion
      return p

def isUpdateOnStatus : FirmwareProgram Bool := do
  let task ← FirmwareTaskOperator.queryTask
  return task.isExistTask && task.status = .updating

def buildCheckResult (calculateHashCode : String → String) (env : Surroundings) (p : FirmwareCheckDataProcessor) :
    FirmwareProgram InnerApi.CheckResult := do
  if isCheckFailed p.status then return {}
  else do
    let dbComponentList ← FirmwareComponentOperator.queryAll
    if dbComponentList = [] then return {}
    else do
      let versionComponents ← FirmwareUpdateHelper.buildNewVersionInfo env dbComponentList
      return {
        isExistNewVersion := true
        newVersionInfo := {
          versionDigestInfo :=
            { versionDigest := UpdateService.FirmwareUpdateHelper.buildTaskId calculateHashCode dbComponentList }
          versionComponents } }

end FirmwareCheckDataProcessor

namespace FirmwareManualCheckMode

def getStepAfterInit (env : Surroundings) (mode : FirmwareManualCheckMode) :
    FirmwareProgram (FirmwareStep × FirmwareManualCheckMode) := do
  let isChecking ← read fun d => d.statusCache.isChecking env.now
  let isUpdateOnStatus ← FirmwareCheckDataProcessor.isUpdateOnStatus
  if isChecking then
    return (.complete, { mode with
      businessError := (mode.businessError.build .fail "system busy!").addErrorMessage dupdateErrSystemBusyOnCheck
        "checkNewVersion is checking!" })
  else if isUpdateOnStatus then
    return (.complete, { mode with
      businessError := (mode.businessError.build .fail "system busy!").addErrorMessage dupdateErrSystemBusyOnInstall
        "system is updating!" })
  else if !env.isNetAvailable then
    return (.complete, { mode with
      businessError := (mode.businessError.build .fail "CheckNewVersionService no network!").addErrorMessage (-2)
        "CheckNewVersionService no network !" })
  else return (.checkStep, mode)

def getStepAfterCheck (mode : FirmwareManualCheckMode) : FirmwareProgram FirmwareStep := do
  let p := mode.checkDataProcessor
  if UpdateService.FirmwareCheckDataProcessor.isCheckFailed p.status || p.isSameWithDb || p.componentList = [] then
    return .complete
  else do
    let task ← FirmwareTaskOperator.queryTask
    let preferences ← FirmwarePreferencesUtil.get
    when (task.status = .checkVersionSuccess) do
      FirmwareCallbackUtils.notifyEvent task.taskId .eventTaskReceive .checkVersionSuccess
      when (!preferences.autoDownloadSwitch)
        (FirmwareCallbackUtils.notifyEvent task.taskId .eventDownloadWait .checkVersionSuccess)
    return .complete

end FirmwareManualCheckMode

/-! ### The download -/

namespace FirmwareDownloadDataProcessor

def new : FirmwareProgram FirmwareDownloadDataProcessor :=
  read fun d => .ofTable (d.taskTable.map (·.toFirmwareTask))

def getTask (tasks : FirmwareTask) : FirmwareProgram FirmwareTask := do
  let tasks ← FirmwareTaskOperator.queryTaskTo { toFirmwareTask := tasks }
  return tasks.toFirmwareTask

def setDownloadCallbackInfo (callbackInfo : FirmwareDownloadCallbackInfo) (p : FirmwareDownloadDataProcessor) :
    FirmwareProgram FirmwareDownloadDataProcessor := do
  let tasks ← getTask p.tasks
  let downloadProgress := { callbackInfo.taskProgress with
    percent := max callbackInfo.taskProgress.percent p.downloadProgress.percent }
  forEach (fun c => write (.updateProgressByVersionId c.versionId c.progress.status (castInt32 c.progress.percent)))
    callbackInfo.progressList
  write (.updateProgressByTaskId tasks.taskId downloadProgress.status (castInt32 downloadProgress.percent))
  FirmwareCallbackUtils.progressCallback tasks.taskId downloadProgress
  return ⟨tasks, downloadProgress⟩

def setDownloadEvent (downloadTaskId : String) (eventId : EventId) (p : FirmwareDownloadDataProcessor) :
    FirmwareProgram FirmwareDownloadDataProcessor := do
  let tasks ← getTask p.tasks
  match eventId with
  | .eventDownloadStart => do
    write (.updateDownloadTaskIdByTaskId tasks.taskId downloadTaskId)
    write (.updateStatusByTaskId tasks.taskId .downloading)
    FirmwareCallbackUtils.notifyEvent tasks.taskId .eventDownloadStart .downloading
  | .eventDownloadResume => do
    write (.updateStatusByTaskId tasks.taskId .downloading)
    FirmwareCallbackUtils.notifyEvent tasks.taskId .eventDownloadResume .downloading {} [] tasks.progress
  return { p with tasks }

end FirmwareDownloadDataProcessor

namespace FirmwareDownloadProcess

def downloadPauseProcess (task : FirmwareTaskRow) (errorMessage : ErrorMessage) : FirmwareProgram Unit :=
  FirmwareCallbackUtils.notifyEvent task.taskId .eventDownloadPause .downloadPause errorMessage

def downloadFailProcess (task : FirmwareTaskRow) (errorMessage : ErrorMessage) : FirmwareProgram Unit := do
  FirmwareCallbackUtils.notifyEvent task.taskId .eventDownloadFail .downloadFail errorMessage
  FirmwareUpdateHelper.clearFirmwareInfo

def downloadCancelProcess (task : FirmwareTaskRow) (errorMessage : ErrorMessage) : FirmwareProgram Unit := do
  FirmwareCallbackUtils.notifyEvent task.taskId .eventDownloadCancel .downloadCancel errorMessage
  write (.updateProgressByTaskId task.taskId .checkVersionSuccess 0)
  let components ← FirmwareComponentOperator.queryAll
  forEach (fun c => write (.updateProgressByUrl c.url .checkVersionSuccess 0)) components
  DownloadTaskManager.removeTask task.downloadTaskId
  write (.updateDownloadTaskIdByTaskId task.taskId "")
  write .deleteDownloadFiles

def downloadSuccessProcess (task : FirmwareTaskRow) : FirmwareProgram Unit := do
  FirmwareCallbackUtils.notifyEvent task.taskId .eventUpgradeWait .downloadSuccess
  let preferences ← FirmwarePreferencesUtil.get
  when preferences.nightUpgradeSwitch (write (.nightUpgradeAlarm true))
  DownloadTaskManager.removeTask task.downloadTaskId

/-- The error that `GetStepAfterDownload` reads from an end reason. -/
def errorOf (endReason : String) : ErrorMessage :=
  { errorCode := (StringUtils.stringToNumberInner (-2 ^ 31) (2 ^ 31) endReason.toList 0).2 }

/-- The `switch` of `GetStepAfterDownload`. -/
def downloadProcess (task : FirmwareTaskRow) (errorMessage : ErrorMessage) : FirmwareProgram Unit :=
  match task.status with
  | .downloadPause => downloadPauseProcess task errorMessage
  | .downloadFail => downloadFailProcess task errorMessage
  | .downloadCancel => downloadCancelProcess task errorMessage
  | .downloadSuccess => downloadSuccessProcess task
  | _ => pure ()

/-- `GetStepAfterDownload` of both modes, given the end reason of their data processor. -/
def getStepAfterDownload (endReason : String) : FirmwareProgram FirmwareStep := do
  let task ← FirmwareTaskOperator.queryTask
  if !task.isExistTask then return .complete
  else do
    downloadProcess task (errorOf endReason)
    return .complete

end FirmwareDownloadProcess

namespace FirmwareDownloadMode

/-- The statuses from which a download is begun. -/
def isDownloadable (status : UpgradeStatus) : Bool :=
  status = .checkVersionSuccess || status = .downloadFail || status = .downloadPause

def getStepAfterInit (env : Surroundings) (mode : FirmwareDownloadMode) :
    FirmwareProgram (FirmwareStep × FirmwareDownloadMode) := do
  let tasks ← FirmwareTaskOperator.queryTaskTo mode.tasks
  let components ← FirmwareComponentOperator.queryAll
  let mode := { mode with tasks }
  let e := mode.businessError
  if !tasks.isExistTask then return (.complete, { mode with businessError := e.build .fail "no task!" })
  else if tasks.status = .downloading then
    return (.complete, { mode with
      businessError := (e.build .fail "system busy!").addErrorMessage dupdateErrSystemBusyOnDownload
        "busy on Downloading!" })
  else if !isDownloadable tasks.status then
    return (.complete, { mode with businessError := e.build .fail "status error!" })
  else if !env.netType.isNetAvailable tasks.downloadAllowNetwork then
    return (.complete, { mode with
      businessError := (e.build .fail "download no network!").addErrorMessage dupdateErrDloadRequestFail
        "download no network!" })
  else if !(env.downloadSpace components).2 then
    return (.complete, { mode with
      businessError := (e.build .fail "download condition fail!").addErrorMessage dupdateErrNoEnoughMemory
        (toString (env.downloadSpace components).1) })
  else return (.downloadStep, mode)

end FirmwareDownloadMode

namespace FirmwareAutoUpgradeMode

def getStepAfterInit (env : Surroundings) (mode : FirmwareAutoUpgradeMode) :
    FirmwareProgram (FirmwareStep × FirmwareAutoUpgradeMode) := do
  if !env.isNetAvailable then do
    FirmwarePreferencesUtil.save fun p => { p with needRetryCheck := true }
    return (.complete, mode)
  else do
    let isChecking ← read fun d => d.statusCache.isChecking env.now
    if isChecking then return (.complete, mode)
    else do
      let task ← FirmwareTaskOperator.queryTaskTo mode.task
      if task.status = .downloading ∨ task.status = .updating then return (.complete, { mode with task })
      else return (.checkStep, { mode with task })

def getDownloadDataProcessor (mode : FirmwareAutoUpgradeMode) : FirmwareProgram FirmwareDownloadDataProcessor :=
  match mode.downloadDataProcessor with
  | none => FirmwareDownloadDataProcessor.new
  | some processor => pure processor

/-- The second test for a download under way is never reached. -/
def handlePreDownloadStep (env : Surroundings) (mode : FirmwareAutoUpgradeMode) :
    FirmwareProgram (FirmwareStep × FirmwareAutoUpgradeMode) := do
  let task ← FirmwareTaskOperator.queryTaskTo mode.task
  let mode := { mode with task }
  if !task.isExistTask then return (.complete, mode)
  else if task.status = .downloadSuccess then do
    FirmwareDownloadProcess.downloadSuccessProcess task
    return (.complete, mode)
  else if !FirmwareDownloadMode.isDownloadable task.status then return (.complete, mode)
  else if task.status = .downloading then return (.complete, mode)
  else do
    let processor ← getDownloadDataProcessor mode
    let mode := { mode with downloadDataProcessor := some processor }
    let components ← FirmwareComponentOperator.queryAll
    if !(env.downloadSpace components).2 then return (.complete, mode)
    else return (.downloadStep, mode)

def getStepAfterCheck (env : Surroundings) (mode : FirmwareAutoUpgradeMode) :
    FirmwareProgram (FirmwareStep × FirmwareAutoUpgradeMode) := do
  if UpdateService.FirmwareCheckDataProcessor.isCheckFailed mode.checkDataProcessor.status then do
    FirmwarePreferencesUtil.save fun p => { p with needRetryCheck := true }
    return (.complete, mode)
  else do
    let preferences ← FirmwarePreferencesUtil.get
    if !preferences.autoDownloadSwitch then do
      let task ← FirmwareTaskOperator.queryTaskTo mode.task
      when (mode.checkDataProcessor.componentList ≠ [] ∧ task.isExistTask = true ∧
          task.status = .checkVersionSuccess)
        (FirmwareCallbackUtils.notifyEvent task.taskId .eventDownloadWait .checkVersionSuccess)
      return (.complete, { mode with task })
    else handlePreDownloadStep env mode

end FirmwareAutoUpgradeMode

/-! ### The install -/

namespace FirmwareUpgradeProcessor

/-- `ProcessBeforeUpgrade`: the bell is silent for an upgrade at night. -/
def processBeforeUpgrade (env : Surroundings) (task : FirmwareTaskRow) : FirmwareProgram Unit := do
  let isBellOn ← read (·.isBellOn)
  when (task.upgradeMode = .night ∧ env.isBellSupported = true ∧ env.isBellStatusSaved = true) do
    FirmwarePreferencesUtil.save fun p => { p with bellStatus := some isBellOn }
    when isBellOn (write (.bell false))

def processAfterUpgrade (env : Surroundings) (task : FirmwareTaskRow) : FirmwareProgram Unit := do
  let preferences ← FirmwarePreferencesUtil.get
  when (task.upgradeMode = .night ∧ preferences.getBellStatus = true ∧ env.isBellSupported = true) do
    write (.bell true)
    FirmwarePreferencesUtil.save fun p => { p with bellStatus := none }

end FirmwareUpgradeProcessor

namespace FirmwareInstallDataProcessor

/-- The members after the row has been asked for again, and whether it has the status. -/
def hasStatus (status : UpgradeStatus) (mode : FirmwareInstallMode) :
    FirmwareProgram (Bool × FirmwareInstallMode) := do
  let installTasks ← FirmwareTaskOperator.queryTaskTo mode.installTasks
  return (installTasks.isExistTask && installTasks.status = status, { mode with installTasks })

def setInstallResult (info : InstallCallbackInfo) (mode : FirmwareInstallMode) :
    FirmwareProgram FirmwareInstallMode := do
  let installTasks ← FirmwareTaskOperator.queryTaskOnce mode.installTasks
  let mode := { mode with installTasks }
  if info.progress.status = .updateFail ∨ info.progress.status = .installFail then do
    FirmwareCallbackUtils.notifyEvent installTasks.taskId .eventUpgradeFail info.progress.status info.errorMessage
    return mode
  else do
    when (info.progress.status = .installPause)
      (FirmwareCallbackUtils.notifyEvent installTasks.taskId .eventUpgradePause .installPause info.errorMessage)
    FirmwareCallbackUtils.progressCallback installTasks.taskId info.progress
    return mode

end FirmwareInstallDataProcessor

namespace FirmwareInstallApplyMode

/-- `GetTask` of both modes. -/
def getTask (mode : FirmwareInstallMode) : FirmwareProgram FirmwareInstallMode := do
  let tasks ← FirmwareTaskOperator.queryTaskOnce mode.tasks
  return { mode with tasks }

def isAllowInstall (env : Surroundings) (mode : FirmwareInstallMode) :
    FirmwareProgram (Bool × FirmwareInstallMode) := do
  let components ← FirmwareComponentOperator.queryAll
  if !(env.installSpace components).2 then
    return (false, mode.refuseWith "install condition fail!" dupdateErrNoEnoughMemory
      (toString (env.installSpace components).1))
  else if env.isBatteryLow then
    return (false, mode.refuseWith "install condition fail!" dupdateErrLowBatteryLevel "battery is low")
  else if mode.tasks.upgradeMode = .night then return (env.isDeviceIdle, mode)
  else return (true, mode)

/-- A file that is not there has the size 0, which no component has. -/
def isUpgradeFilesReady (mode : FirmwareInstallMode) : FirmwareProgram (Bool × FirmwareInstallMode) := do
  let isReady ← read fun d => UpdateService.FirmwareUpdateHelper.isUpgradePackagesReady
    (fun path => some (d.downloads.outside.fileSize path)) d.componentTable
  if isReady then return (true, mode)
  else do
    FirmwareUpdateHelper.clearFirmwareInfo
    return (false, mode.refuseWith "check component failed" dupdateErrUpdatePrecheckFail "check component failed")

def getStepForInstallAndApplyOrder (env : Surroundings) (mode : FirmwareInstallMode) :
    FirmwareProgram (FirmwareStep × FirmwareInstallMode) := do
  if mode.tasks.status ≠ .downloadSuccess then return (.complete, mode.refuse "status error!")
  else do
    let (isAllow, mode) ← isAllowInstall env mode
    if !isAllow then return (.complete, mode)
    else do
      let (isReady, mode) ← isUpgradeFilesReady mode
      return (if isReady then .installStep else .complete, mode)

def getStepAfterInit (env : Surroundings) (mode : FirmwareInstallMode) :
    FirmwareProgram (FirmwareStep × FirmwareInstallMode) := do
  let mode ← getTask mode
  if !mode.tasks.isExistTask then return (.complete, mode.refuse "no task!")
  else if mode.upgradeOptions.order = .install ∨ mode.upgradeOptions.order = .installAndApply then do
    let (step, mode) ← getStepForInstallAndApplyOrder env mode
    when (step = .installStep) (FirmwareUpgradeProcessor.processBeforeUpgrade env mode.tasks)
    return (step, mode)
  else if mode.upgradeOptions.order = .apply then return (.applyStep, mode)
  else return (.complete, mode.refuse "upgradeOptions error")

/-- An install that has not succeeded does not restart the device. -/
def getStepAfterInstall (env : Surroundings) (mode : FirmwareInstallMode) :
    FirmwareProgram (FirmwareStep × FirmwareInstallMode) := do
  let (isSuccess, mode) ← FirmwareInstallDataProcessor.hasStatus .installSuccess mode
  when (!isSuccess) do
    FirmwareUpgradeProcessor.processAfterUpgrade env mode.tasks
    FirmwareUpdateHelper.clearFirmwareInfo
  let (isSuccess, mode) ← FirmwareInstallDataProcessor.hasStatus .installSuccess mode
  return (if isSuccess then mode.stepAfterSuccess else .complete, mode)

end FirmwareInstallApplyMode

namespace FirmwareStreamInstallApplyMode

def isAllowInstall (env : Surroundings) (mode : FirmwareInstallMode) : Bool × FirmwareInstallMode :=
  if mode.installType ≠ .streamInstaller then
    (false, mode.refuseWith "install condition fail!" dupdateErrInputParaError "install type error")
  else if !env.isNetAvailable then
    (false, mode.refuseWith "download no network!" dupdateErrDloadRequestFail "download no network!")
  else if env.isBatteryLow then
    (false, mode.refuseWith "install condition fail!" dupdateErrLowBatteryLevel "battery is low")
  else if mode.tasks.upgradeMode = .night then (env.isDeviceIdle, mode)
  else (true, mode)

def getStepAfterInit (env : Surroundings) (mode : FirmwareInstallMode) :
    FirmwareProgram (FirmwareStep × FirmwareInstallMode) := do
  let mode ← FirmwareInstallApplyMode.getTask mode
  if !mode.tasks.isExistTask then return (.complete, mode.refuse "no task!")
  else if mode.upgradeOptions.order = .install ∨ mode.upgradeOptions.order = .installAndApply then
    return (if (isAllowInstall env mode).1 then .installStep else .complete, (isAllowInstall env mode).2)
  else if mode.upgradeOptions.order = .apply then return (.applyStep, mode)
  else return (.complete, mode.refuse "upgradeOptions error")

def getStepAfterInstall (mode : FirmwareInstallMode) : FirmwareProgram (FirmwareStep × FirmwareInstallMode) := do
  let (isFail, mode) ← FirmwareInstallDataProcessor.hasStatus .installFail mode
  when isFail FirmwareUpdateHelper.clearFirmwareInfo
  let (isSuccess, mode) ← FirmwareInstallDataProcessor.hasStatus .installSuccess mode
  return (if isSuccess then mode.stepAfterSuccess else .complete, mode)

end FirmwareStreamInstallApplyMode

end FirmwareProgram

end UpdateService
