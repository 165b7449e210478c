import UpdateService.FirmwareFlowManager

/-!
# The firmware part of the service (`FirmwareManager`, `FirmwareEventManager`, `UpdateServiceImplFirmware`)

The requests, the events and the start of the process, over the device and the flows that have been begun. A
`FirmwareCall` is what one thread does without waiting for another: it runs to its end, or the process is killed after
some of its writes. `DelayInit` is two calls, as other threads may run while it sleeps, and before it.
-/

namespace UpdateService

inductive StartupReason
  | unknown | deviceReboot | scheduleTask | processEnvReset
deriving DecidableEq, Repr

namespace FirmwareProgram
open Program

namespace FirmwareManager

def canInstall (env : Surroundings) : FirmwareProgram Bool := do
  let task ← FirmwareTaskOperator.queryTask
  let installType ← FirmwareUpdateHelper.getInstallType env
  return match installType with
    | .sysInstaller => task.status = .downloadSuccess || task.status = .installSuccess
    | .streamInstaller => task.status ≠ .installing
    | _ => task.status = .downloadSuccess

variable (calculateHashCode : String → String) (env : Surroundings)

def doCheck : FirmwareProgram FlowResult := FirmwareFlowManager.start calculateHashCode env (.manualCheck {})

def doDownload (downloadOptions : DownloadOptions) (businessError : BusinessError) : FirmwareProgram FlowResult := do
  let downloadDataProcessor ← FirmwareDownloadDataProcessor.new
  FirmwareFlowManager.start calculateHashCode env (.download { downloadDataProcessor, downloadOptions, businessError })

def doInstall (upgradeOptions : UpgradeOptions) (businessError : BusinessError) (installType : InstallType) :
    FirmwareProgram FlowResult := do
  let canInstall ← canInstall env
  if !canInstall then return { flow := none, businessError }
  else do
    let isStreamUpgrade ← FirmwareUpdateHelper.isStreamUpgrade
    let mode : FirmwareInstallMode := { upgradeOptions, businessError, installType }
    FirmwareFlowManager.start calculateHashCode env
      (if isStreamUpgrade then .streamInstallApply mode else .installApply mode)

/-- The end of `DoCancel`. -/
def resetTask (task : FirmwareTaskRow) : FirmwareProgram Unit := do
  write (.updateProgressByTaskId task.taskId .checkVersionSuccess 0)
  let components ← FirmwareComponentOperator.queryAll
  forEach (fun c => write (.updateProgressByVersionId c.versionId .checkVersionSuccess 0)) components
  DownloadTaskManager.removeTask task.downloadTaskId

def doCancel (e : BusinessError) : FirmwareProgram BusinessError := do
  let task ← FirmwareTaskOperator.queryTask
  if !task.isExistTask then
    return (e.build .fail "no download task to cancel!").addErrorMessage dupdateErrDownloadCommonError
      "no download task to cancel!"
  else if !UpdateService.FirmwareManager.isCancelable task.status then
    return (e.build .fail "download task status invalid").addErrorMessage dupdateErrDownloadCommonError
      "download task status invalid!"
  else if task.status = .downloading then do
    let downloadError ← DownloadTaskManager.cancel task.downloadTaskId env.ended
    resetTask task
    return if downloadError.errorNum ≠ .success then
      (e.build .fail "cancel download error!").addErrorMessage downloadError.endReason.toInt "cancel download error!"
      else e
  else do
    resetTask task
    return e

def isUpgradeFailed (status : UpgradeStatus) : Bool :=
  status = .downloadFail || status = .packageTransFail || status = .installFail || status = .updateFail ||
    status = .verifyFail

def dupdateErrUpdateCommonError : Int := -400

def doClearError (e : BusinessError) : FirmwareProgram BusinessError := do
  let task ← FirmwareTaskOperator.queryTask
  if !task.isExistTask then return e
  else if !isUpgradeFailed task.status then
    return (e.build .fail "please check status before clear error").addErrorMessage dupdateErrUpdateCommonError
      "please check status before clear error"
  else do
    FirmwareUpdateHelper.clearFirmwareInfo
    return e

def doAutoDownloadSwitchChanged (isDownloadSwitchOn : Bool) : FirmwareProgram Unit := do
  FirmwarePreferencesUtil.save fun p => { p with autoDownloadSwitch := isDownloadSwitchOn }
  let task ← FirmwareTaskOperator.queryTask
  when (task.isExistTask = true ∧ task.status = .checkVersionSuccess ∧ isDownloadSwitchOn = false)
    (FirmwareCallbackUtils.notifyEvent task.taskId .eventDownloadWait .checkVersionSuccess)

def doAutoUpgradeSwitchChanged (isNightUpgradeSwitchOn : Bool) : FirmwareProgram Unit := do
  FirmwarePreferencesUtil.save fun p => { p with nightUpgradeSwitch := isNightUpgradeSwitchOn }
  let task ← FirmwareTaskOperator.queryTask
  when task.isExistTask do
    if !isNightUpgradeSwitchOn then write (.nightUpgradeAlarm false)
    else when (task.status = .downloadSuccess) do
      FirmwareCallbackUtils.notifyEvent task.taskId .eventUpgradeWait task.status
      write (.nightUpgradeAlarm true)

/-- An install that the process did not live to see the end of is begun again. -/
def handleBootInstallOnStatusProcess (task : FirmwareTaskRow) : FirmwareProgram FlowResult := do
  let isStreamUpgrade ← FirmwareUpdateHelper.isStreamUpgrade
  write (if isStreamUpgrade then .updateStatusByTaskId task.taskId .installPause
    else .updateProgressByTaskId task.taskId .downloadSuccess oneHundred)
  let components ← FirmwareComponentOperator.queryAll
  forEach (fun c => when (c.status = .installing)
    (write (if isStreamUpgrade then .updateStatusByUrl c.url .installPause
      else .updateProgressByUrl c.url .downloadSuccess oneHundred))) components
  let installType ← FirmwareUpdateHelper.getInstallType env
  doInstall calculateHashCode env { order := .installAndApply } {} installType

def restoreUpdate : FirmwareProgram FlowResult := do
  let task ← FirmwareTaskOperator.queryTask
  match task.status with
  | .downloading => do
    write (.updateStatusByTaskId task.taskId .downloadPause)
    return { flow := none }
  | .downloadSuccess => do
    let preferences ← FirmwarePreferencesUtil.get
    when preferences.nightUpgradeSwitch (write (.nightUpgradeAlarm true))
    return { flow := none }
  | .installing => handleBootInstallOnStatusProcess calculateHashCode env task
  | _ => return { flow := none }

def notifyInitEvent : FirmwareProgram Unit := do
  let preferences ← FirmwarePreferencesUtil.get
  when (!preferences.dueInitFlag) do
    FirmwarePreferencesUtil.save fun p => { p with dueInitFlag := true }
    FirmwareCallbackUtils.notifyEvent "" .eventInitialize .init

/-- `Init` up to the thread that it begins. -/
def init (startupReason : StartupReason) : FirmwareProgram Unit :=
  when (startupReason = .processEnvReset) do
    write .deleteDownloadFiles
    write (.preferences {})
    write .deleteDbStore

def isIdle : FirmwareProgram Bool := do
  let isChecking ← read fun d => d.statusCache.isChecking env.now
  let task ← FirmwareTaskOperator.queryTask
  return !isChecking && (!task.isExistTask || task.status.number ≤ UpgradeStatus.checkVersionSuccess.number)

end FirmwareManager

namespace FirmwareEventManager
variable (calculateHashCode : String → String) (env : Surroundings)

def doAutoUpgrade : FirmwareProgram FlowResult := do
  let task ← FirmwareTaskOperator.queryTask
  if task.isExistTask = true ∧ task.status = .updating then return { flow := none }
  else FirmwareFlowManager.start calculateHashCode env (.autoUpgrade {})

/-- The alarm has gone off. The options that `DoNightUpgrade` fills are not those that it hands on. -/
def handleNightUpgrade : FirmwareProgram FlowResult := do
  write (.nightUpgradeAlarm false)
  let preferences ← FirmwarePreferencesUtil.get
  let task ← FirmwareTaskOperator.queryTask
  if !preferences.nightUpgradeSwitch then return { flow := none }
  else if !task.isExistTask then return { flow := none }
  else if task.status ≠ .downloadSuccess then return { flow := none }
  else do
    write (.updateUpgradeModeByTaskId task.taskId .night)
    let installType ← FirmwareUpdateHelper.getInstallType env
    FirmwareManager.doInstall calculateHashCode env {} {} installType

/-- `HandleResumeDownload`, which `DoAutoDownload` calls as well. -/
def handleResumeDownload (task : FirmwareTaskRow) : FirmwareProgram FlowResult :=
  FirmwareManager.doDownload calculateHashCode env { allowNetwork := task.downloadAllowNetwork } {}

def handleNetChanged : FirmwareProgram FlowResult := do
  let task ← FirmwareTaskOperator.queryTask
  let preferences ← FirmwarePreferencesUtil.get
  if !task.isExistTask then return { flow := none }
  else if !env.netType.isNetAvailable task.downloadAllowNetwork then return { flow := none }
  else if task.status = .downloadPause then handleResumeDownload calculateHashCode env task
  else if task.status = .checkVersionSuccess then
    if preferences.autoDownloadSwitch then handleResumeDownload calculateHashCode env task
    else return { flow := none }
  else return { flow := none }

def versionComponent (c : FirmwareComponent) : InnerApi.VersionComponent where
  componentType := 1
  componentId := c.componentId
  upgradeAction := "upgrade"
  displayVersion := c.targetBlDisplayVersionNumber
  innerVersion := c.targetBlVersionNumber
  componentExtra := "{}"

/-- `PackageType::NORMAL`. -/
def packageTypeNormal : Int := 1

/-- `FirmwareChangelogUtils::SaveHotaCurrentVersionComponentId`. -/
def saveHotaCurrentVersionComponentId : FirmwareProgram Unit := do
  let components ← FirmwareComponentOperator.queryAll
  match components.find? fun c => c.versionPackageType = packageTypeNormal with
  | none => return
  | some c => FirmwarePreferencesUtil.save fun p => { p with hotaCurrentComponentId := c.componentId }

def handleBootUpdateSuccess (task : FirmwareTaskRow) : FirmwareProgram Unit := do
  FirmwarePreferencesUtil.save fun p => { p with updateAction := "upgrade" }
  let components ← FirmwareComponentOperator.queryAll
  saveHotaCurrentVersionComponentId
  when (task.combinationType = combinationHota) do
    FirmwareCallbackUtils.notifyEvent task.taskId .eventUpgradeSuccess .updateSuccess {}
      (components.map versionComponent)
    FirmwareUpdateHelper.clearFirmwareInfo

/-- The first failed record in the order of the map; its code is `UpdateComponentResultCode::FAILURE`. -/
def failureOf (resultMap : ResultMap) : ErrorMessage :=
  match resultMap.entries.find? fun result => result.2.result = updaterResultFailure with
  | none => {}
  | some result => { errorCode := 1, errorMessage := String.ofList result.2.reason }

def handleBootUpdateFail (task : FirmwareTaskRow) (resultMap : ResultMap) : FirmwareProgram Unit := do
  FirmwarePreferencesUtil.save fun p => { p with updateAction := "recovery" }
  let components ← FirmwareComponentOperator.queryAll
  FirmwareCallbackUtils.notifyEvent task.taskId .eventUpgradeFail .updateFail (failureOf resultMap)
    (components.map versionComponent)
  FirmwareUpdateHelper.clearFirmwareInfo

/-- The answer is whether the process is still there: a record out of range ends it. -/
def handleBootUpdateOnStatusProcess (task : FirmwareTaskRow) : FirmwareProgram Bool := do
  let result ← read fun d => FirmwareResultProcess.getUpdaterResult (d.taskTable.map (·.toFirmwareTask))
    env.displayVersion env.resultFile d.componentTable ∅
  match result with
  | none => return false
  | some (.success, _) => do
    handleBootUpdateSuccess task
    return true
  | some (.failure, resultMap) => do
    handleBootUpdateFail task resultMap
    return true
  | some (.partSuccess, _) => return true

def handleBootComplete : FirmwareProgram Bool := do
  let task ← FirmwareTaskOperator.queryTask
  if !task.isExistTask then return true
  else if task.status = .updating then do
    FirmwareUpgradeProcessor.processAfterUpgrade env task
    handleBootUpdateOnStatusProcess env task
  else if task.status = .installSuccess then do
    FirmwareUpgradeProcessor.processAfterUpgrade env task
    handleBootUpdateSuccess task
    return true
  else return true

/-- `HandleEvent` of `BOOT_COMPLETE` after a reboot, of `PROCESS_INIT` else. -/
def handleEvent (startupReason : StartupReason) : FirmwareProgram Bool :=
  if startupReason = .deviceReboot then handleBootComplete env else pure true

end FirmwareEventManager

namespace UpdateServiceImplFirmware
variable (calculateHashCode : String → String) (env : Surroundings)

/-- The clock in milliseconds is read once or twice. -/
def download (now now' : Int) (downloadOptions : DownloadOptions) : FirmwareProgram FlowResult := do
  let statusCache ← read (·.statusCache)
  write (.statusCache (statusCache.isDownloadTriggered now now').2)
  let table ← read (·.taskTable)
  match (UpdateService.UpdateServiceImplFirmware.download (statusCache.isDownloadTriggered now now').1
    downloadOptions table).1 with
  | .error businessError => return { flow := none, businessError }
  | .ok downloadOptions => do
    let task ← FirmwareTaskOperator.queryTask
    write (.updateDownloadOptionByTaskId task.taskId .manual downloadOptions.allowNetwork downloadOptions.order)
    FirmwareManager.doDownload calculateHashCode env downloadOptions {}

def resumeDownload (allowNetwork : NetType) : FirmwareProgram FlowResult := do
  let table ← read (·.taskTable)
  match (UpdateService.UpdateServiceImplFirmware.resumeDownload allowNetwork table).1 with
  | .error businessError => return { flow := none, businessError }
  | .ok downloadOptions => do
    let task ← FirmwareTaskOperator.queryTask
    write (.updateDownloadOptionByTaskId task.taskId .manual allowNetwork task.upgradeOrder)
    FirmwareManager.doDownload calculateHashCode env downloadOptions {}

def upgrade (now now' : Int) (upgradeOptions : UpgradeOptions) : FirmwareProgram FlowResult := do
  let statusCache ← read (·.statusCache)
  write (.statusCache (statusCache.isUpgradeTriggered now now').2)
  if (statusCache.isUpgradeTriggered now now').1 then
    return { flow := none, businessError := BusinessError.build .fail "repeat upgrade error" {} }
  else do
    let task ← FirmwareTaskOperator.queryTask
    write (.updateUpgradeModeByTaskId task.taskId .manual)
    let installType ← FirmwareUpdateHelper.getInstallType env
    FirmwareManager.doInstall calculateHashCode env upgradeOptions {} installType

def cancel : FirmwareProgram BusinessError := do
  let task ← FirmwareTaskOperator.queryTask
  let isStreamUpgrade ← FirmwareUpdateHelper.isStreamUpgrade
  if !UpdateService.UpdateServiceImplFirmware.isCancelable isStreamUpgrade task.status then
    return (BusinessError.build .fail (if isStreamUpgrade then "Cancel install error" else "Cancel download error")
      {}).addErrorMessage dupdateErrCancelTaskError
      (if isStreamUpgrade then "no install task to cancel!" else "no download task to cancel!")
  else FirmwareManager.doCancel env {}

def setUpgradePolicy (downloadStrategy autoUpgradeStrategy : Bool) : FirmwareProgram Unit := do
  let preferences ← FirmwarePreferencesUtil.get
  when (preferences.nightUpgradeSwitch ≠ autoUpgradeStrategy)
    (FirmwareManager.doAutoUpgradeSwitchChanged autoUpgradeStrategy)
  when (preferences.autoDownloadSwitch ≠ downloadStrategy)
    (FirmwareManager.doAutoDownloadSwitchChanged downloadStrategy)

def getNewVersionInfo : FirmwareProgram InnerApi.NewVersionInfo := do
  let task ← FirmwareTaskOperator.queryTask
  let components ← FirmwareComponentOperator.queryAll
  let versionComponents ← FirmwareUpdateHelper.buildNewVersionInfo env components
  return { versionDigestInfo := { versionDigest := task.taskId }, versionComponents }

/-- `GetTaskInfo`: the task body, if there is a task. -/
def getTaskInfo : FirmwareProgram (Option InnerApi.TaskBody) := do
  let task ← FirmwareTaskOperator.queryTask
  return if task.isExistTask then
    some {
      status := task.status.number
      progress := .ofInt task.progress
      versionDigestInfo := { versionDigest := task.taskId } }
    else none

end UpdateServiceImplFirmware

end FirmwareProgram

/-! ### The system -/

/-- What is left of `DelayInit`. -/
inductive DelayInit
  | restoreUpdate | handleEvent
deriving DecidableEq, Repr

/-- The flows in the order in which they have been begun; `none` where one has been deleted. -/
structure FirmwareProcess where
  flows : List (Option FirmwareFlowManager) := []
  delayInit : Option DelayInit := none
  startupReason : StartupReason := .unknown

structure FirmwareService where
  device : FirmwareDevice := {}
  process : Option FirmwareProcess := none

inductive FirmwareCall
  | init (startupReason : StartupReason)
  | restoreUpdate (env : Surroundings)
  | handleEvent (env : Surroundings)
  | checkNewVersion (env : Surroundings)
  | download (env : Surroundings) (now now' : Int) (downloadOptions : DownloadOptions)
  | resumeDownload (env : Surroundings) (allowNetwork : NetType)
  | upgrade (env : Surroundings) (now now' : Int) (upgradeOptions : UpgradeOptions)
  | cancel (env : Surroundings)
  | clearError
  | setUpgradePolicy (downloadStrategy autoUpgradeStrategy : Bool)
  | netChanged (env : Surroundings)
  | nightUpgrade (env : Surroundings)
  | autoUpgrade (env : Surroundings)
  /-- The body of the executor of the flow at a position, or one of its callbacks. -/
  | doCheck (i : Nat) (env : Surroundings) (content : Option String)
  | doDownload (i : Nat) (env : Surroundings)
  | downloadCallback (i : Nat) (env : Surroundings) (taskId : String) (progressInfo : ProgressInfo)
  | doInstall (i : Nat) (env : Surroundings)
  | installStart (i : Nat) (status : UpgradeStatus)
  | installProgress (i : Nat) (env : Surroundings) (component : FirmwareComponent)
  | installResult (i : Nat) (env : Surroundings) (isSuccess : Bool) (errMsg : ErrorMessage) (status : UpgradeStatus)
  | doApply (i : Nat) (env : Surroundings)
  /-- A step of the download manager and what is around it. -/
  | manager (op : ManagerOp)

namespace FirmwareProcess

def flow? (i : Nat) (process : FirmwareProcess) : Option FirmwareFlowManager := process.flows[i]?.join

/-- Begin a flow. -/
def begin (process : FirmwareProcess) (m : FirmwareProgram FlowResult) : FirmwareProgram (Option FirmwareProcess) := do
  let result ← m
  return some { process with flows := process.flows ++ [result.flow] }

/-- Go on with the flow at a position. -/
def goOn (process : FirmwareProcess) (i : Nat) (m : FirmwareProgram FlowResult) :
    FirmwareProgram (Option FirmwareProcess) := do
  let result ← m
  return some { process with flows := process.flows.set i result.flow }

def keep {α : Type} (process : FirmwareProcess) (m : FirmwareProgram α) :
    FirmwareProgram (Option FirmwareProcess) := do
  let _ ← m
  return some process

variable (p : JsonPlatform) (calculateHashCode : String → String)

/-- The calls of a flow: only of the executor of its step, and the callbacks only after the body. -/
def flowCall (process : FirmwareProcess) (i : Nat) (flow : FirmwareFlowManager) (executor : FirmwareExecutor) :
    FirmwareCall → Option (FirmwareProgram (Option FirmwareProcess))
  | .doCheck _ env content =>
    match executor with
    | .check => some (process.goOn i (FirmwareProgram.doCheck p calculateHashCode env content flow))
    | _ => none
  | .doDownload _ env =>
    match executor with
    | .download downloadOptions false => some do
      let result ← FirmwareProgram.FirmwareDownloadExecutor.doDownload calculateHashCode env downloadOptions flow
      return result.map fun result => { process with flows := process.flows.set i result.flow }
    | _ => none
  | .downloadCallback _ env taskId progressInfo =>
    match executor with
    | .download _ true =>
      some (process.goOn i (FirmwareProgram.FirmwareFlowManager.onDownloadCallback calculateHashCode env
        (FirmwareDownloadExecutor.callbackProgress taskId progressInfo) flow))
    | _ => none
  | .doInstall _ env =>
    match executor with
    | .install executor false =>
      some (process.goOn i (FirmwareProgram.FirmwareInstallExecutor.doInstall calculateHashCode env executor flow))
    | _ => none
  | .installStart _ status =>
    match executor with
    | .install executor true =>
      some (process.keep
        (FirmwareProgram.FirmwareCallbackUtils.notifyEvent executor.tasks.taskId .eventUpgradeStart status))
    | _ => none
  | .installProgress _ env component =>
    match executor with
    | .install executor true =>
      some (process.goOn i
        (FirmwareProgram.FirmwareInstallExecutor.handleInstallProgress calculateHashCode env component executor flow))
    | _ => none
  | .installResult _ env isSuccess errMsg status =>
    match executor with
    | .install executor true =>
      some (process.goOn i (FirmwareProgram.FirmwareInstallExecutor.handleInstallResult calculateHashCode env isSuccess
        errMsg status executor flow))
    | _ => none
  | .doApply _ env =>
    match executor with
    | .apply => some (process.goOn i (FirmwareProgram.doApply calculateHashCode env flow))
    | _ => none
  | _ => none

def onFlow (process : FirmwareProcess) (i : Nat) (call : FirmwareCall) :
    Option (FirmwareProgram (Option FirmwareProcess)) := do
  let flow ← process.flow? i
  let executor ← flow.executor
  process.flowCall p calculateHashCode i flow executor call

/-- The program of a call, if it can come now; its answer is the process that is left. -/
def call (process : FirmwareProcess) : FirmwareCall → Option (FirmwareProgram (Option FirmwareProcess))
  | .init _ => none
  | .restoreUpdate env =>
    if process.delayInit = some .restoreUpdate then
      some ({ process with delayInit := some .handleEvent }.begin
        (FirmwareProgram.FirmwareManager.restoreUpdate calculateHashCode env))
    else none
  | .handleEvent env =>
    if process.delayInit = some .handleEvent then some do
      FirmwareProgram.FirmwareManager.notifyInitEvent
      let isRunning ← FirmwareProgram.FirmwareEventManager.handleEvent env process.startupReason
      return if isRunning then some { process with delayInit := none } else none
    else none
  | .checkNewVersion env => some (process.begin (FirmwareProgram.FirmwareManager.doCheck calculateHashCode env))
  | .download env now now' downloadOptions =>
    some (process.begin
      (FirmwareProgram.UpdateServiceImplFirmware.download calculateHashCode env now now' downloadOptions))
  | .resumeDownload env allowNetwork =>
    some (process.begin (FirmwareProgram.UpdateServiceImplFirmware.resumeDownload calculateHashCode env allowNetwork))
  | .upgrade env now now' upgradeOptions =>
    some (process.begin
      (FirmwareProgram.UpdateServiceImplFirmware.upgrade calculateHashCode env now now' upgradeOptions))
  | .cancel env => some (process.keep (FirmwareProgram.UpdateServiceImplFirmware.cancel env))
  | .clearError => some (process.keep (FirmwareProgram.FirmwareManager.doClearError {}))
  | .setUpgradePolicy downloadStrategy autoUpgradeStrategy =>
    some (process.keep
      (FirmwareProgram.UpdateServiceImplFirmware.setUpgradePolicy downloadStrategy autoUpgradeStrategy))
  | .netChanged env =>
    some (process.begin (FirmwareProgram.FirmwareEventManager.handleNetChanged calculateHashCode env))
  | .nightUpgrade env =>
    some (process.begin (FirmwareProgram.FirmwareEventManager.handleNightUpgrade calculateHashCode env))
  | .autoUpgrade env => some (process.begin (FirmwareProgram.FirmwareEventManager.doAutoUpgrade calculateHashCode env))
  | .doCheck i env content => process.onFlow p calculateHashCode i (.doCheck i env content)
  | .doDownload i env => process.onFlow p calculateHashCode i (.doDownload i env)
  | .downloadCallback i env taskId progressInfo =>
    process.onFlow p calculateHashCode i (.downloadCallback i env taskId progressInfo)
  | .doInstall i env => process.onFlow p calculateHashCode i (.doInstall i env)
  | .installStart i status => process.onFlow p calculateHashCode i (.installStart i status)
  | .installProgress i env component => process.onFlow p calculateHashCode i (.installProgress i env component)
  | .installResult i env isSuccess errMsg status =>
    process.onFlow p calculateHashCode i (.installResult i env isSuccess errMsg status)
  | .doApply i env => process.onFlow p calculateHashCode i (.doApply i env)
  | .manager op => some do
    let downloads ← Program.read (·.downloads)
    Program.write (.downloads ((DownloadTaskManager.step calculateHashCode downloads op).getD downloads))
    return some process

end FirmwareProcess

/-- A call that runs to its end, or one that the process does not survive: it is killed after some writes. -/
inductive FirmwareAction
  | run (call : FirmwareCall)
  | kill (call : FirmwareCall) (writes : Nat)

def FirmwareAction.call : FirmwareAction → FirmwareCall
  | run call => call
  | kill call _ => call

namespace FirmwareService
variable (p : JsonPlatform) (calculateHashCode : String → String)

def call (s : FirmwareService) (call : FirmwareCall) : Option (FirmwareProgram (Option FirmwareProcess)) :=
  match s.process, call with
  | none, .init startupReason => some do
    FirmwareProgram.FirmwareManager.init startupReason
    return some { delayInit := some .restoreUpdate, startupReason }
  | none, _ => none
  | some process, call => process.call p calculateHashCode call

def step (s : FirmwareService) : FirmwareAction → Option FirmwareService
  | .run call => (s.call p calculateHashCode call).map fun m =>
    match m.answer s.device with
    | some process => { device := m.final s.device, process := some process }
    | none => { device := (m.final s.device).restarted }
  | .kill call writes => (s.call p calculateHashCode call).map fun m => { device := (m.cut writes s.device).restarted }

def lts : Lts FirmwareService FirmwareAction := .ofPartial (step p calculateHashCode)

end FirmwareService

end UpdateService
