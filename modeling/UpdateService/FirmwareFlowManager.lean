import UpdateService.FirmwareFlow

/-!
# `FirmwareFlowManager` and the bodies of the executors

Every program gives the flow that is left. `DoDownload` on an empty component table calls an empty `std::function`,
which ends the process: it has no result here. What the download manager reports, and what an installer reports, are
arguments.
-/

namespace UpdateService

namespace FirmwareExecuteMode

/-- The error of the mode, which the caller has a reference to. -/
def businessError : FirmwareExecuteMode → BusinessError
  | manualCheck mode => mode.businessError
  | autoUpgrade _ => {}
  | download mode => mode.businessError
  | installApply mode => mode.businessError
  | streamInstallApply mode => mode.businessError

def getDownloadOptions : FirmwareExecuteMode → DownloadOptions
  | download mode => mode.downloadOptions
  | _ => {}

def getInstallType : FirmwareExecuteMode → InstallType
  | installApply mode => mode.installType
  | streamInstallApply mode => mode.installType
  | _ => .updater

end FirmwareExecuteMode

namespace FirmwareProgram
open Program

namespace FirmwareManualCheckMode

def getNextStep (env : Surroundings) (step : FirmwareStep) (mode : FirmwareManualCheckMode) :
    FirmwareProgram (FirmwareStep × FirmwareManualCheckMode) :=
  match step with
  | .init => getStepAfterInit env mode
  | .checkStep => do
    let nextStep ← getStepAfterCheck mode
    return (nextStep, mode)
  | _ => return (.complete, mode)

end FirmwareManualCheckMode

namespace FirmwareAutoUpgradeMode

def getNextStep (env : Surroundings) (step : FirmwareStep) (mode : FirmwareAutoUpgradeMode) :
    FirmwareProgram (FirmwareStep × FirmwareAutoUpgradeMode) :=
  match step with
  | .init => getStepAfterInit env mode
  | .checkStep => getStepAfterCheck env mode
  | .downloadStep => do
    let processor ← getDownloadDataProcessor mode
    let nextStep ← FirmwareDownloadProcess.getStepAfterDownload processor.downloadProgress.endReason
    return (nextStep, mode)
  | _ => return (.complete, mode)

end FirmwareAutoUpgradeMode

namespace FirmwareDownloadMode

def getNextStep (env : Surroundings) (step : FirmwareStep) (mode : FirmwareDownloadMode) :
    FirmwareProgram (FirmwareStep × FirmwareDownloadMode) :=
  match step with
  | .init => getStepAfterInit env mode
  | .downloadStep => do
    let nextStep ← FirmwareDownloadProcess.getStepAfterDownload
      mode.downloadDataProcessor.downloadProgress.endReason
    return (nextStep, mode)
  | _ => return (.complete, mode)

end FirmwareDownloadMode

namespace FirmwareInstallApplyMode

def getNextStep (env : Surroundings) (step : FirmwareStep) (mode : FirmwareInstallMode) :
    FirmwareProgram (FirmwareStep × FirmwareInstallMode) :=
  match step with
  | .init => getStepAfterInit env mode
  | .installStep => getStepAfterInstall env mode
  | _ => return (.complete, mode)

end FirmwareInstallApplyMode

namespace FirmwareStreamInstallApplyMode

def getNextStep (env : Surroundings) (step : FirmwareStep) (mode : FirmwareInstallMode) :
    FirmwareProgram (FirmwareStep × FirmwareInstallMode) :=
  match step with
  | .init => getStepAfterInit env mode
  | .installStep => getStepAfterInstall mode
  | _ => return (.complete, mode)

end FirmwareStreamInstallApplyMode

namespace FirmwareExecuteMode

def getNextStep (env : Surroundings) (step : FirmwareStep) :
    FirmwareExecuteMode → FirmwareProgram (FirmwareStep × FirmwareExecuteMode)
  | .manualCheck mode => do
    let (nextStep, mode) ← FirmwareManualCheckMode.getNextStep env step mode
    return (nextStep, .manualCheck mode)
  | .autoUpgrade mode => do
    let (nextStep, mode) ← FirmwareAutoUpgradeMode.getNextStep env step mode
    return (nextStep, .autoUpgrade mode)
  | .download mode => do
    let (nextStep, mode) ← FirmwareDownloadMode.getNextStep env step mode
    return (nextStep, .download mode)
  | .installApply mode => do
    let (nextStep, mode) ← FirmwareInstallApplyMode.getNextStep env step mode
    return (nextStep, .installApply mode)
  | .streamInstallApply mode => do
    let (nextStep, mode) ← FirmwareStreamInstallApplyMode.getNextStep env step mode
    return (nextStep, .streamInstallApply mode)

def handleComplete (calculateHashCode : String → String) (env : Surroundings) :
    FirmwareExecuteMode → FirmwareProgram (Option InnerApi.CheckResult)
  | .manualCheck mode => do
    let checkResult ← FirmwareCheckDataProcessor.buildCheckResult calculateHashCode env mode.checkDataProcessor
    return some checkResult
  | _ => return none

def setCheckResult (calculateHashCode : String → String) (status : CheckStatus)
    (componentList : List FirmwareComponent) : FirmwareExecuteMode → FirmwareProgram FirmwareExecuteMode
  | .manualCheck mode => do
    let checkDataProcessor ←
      FirmwareCheckDataProcessor.setCheckResult calculateHashCode status componentList mode.checkDataProcessor
    return .manualCheck { mode with checkDataProcessor }
  | .autoUpgrade mode => do
    let checkDataProcessor ←
      FirmwareCheckDataProcessor.setCheckResult calculateHashCode status componentList mode.checkDataProcessor
    return .autoUpgrade { mode with checkDataProcessor }
  | mode => return mode

def setDownloadCallbackInfo (callbackInfo : FirmwareDownloadCallbackInfo) :
    FirmwareExecuteMode → FirmwareProgram FirmwareExecuteMode
  | .autoUpgrade mode => do
    let processor ← FirmwareAutoUpgradeMode.getDownloadDataProcessor mode
    let processor ← FirmwareDownloadDataProcessor.setDownloadCallbackInfo callbackInfo processor
    return .autoUpgrade { mode with downloadDataProcessor := some processor }
  | .download mode => do
    let downloadDataProcessor ←
      FirmwareDownloadDataProcessor.setDownloadCallbackInfo callbackInfo mode.downloadDataProcessor
    return .download { mode with downloadDataProcessor }
  | mode => return mode

def setDownloadEvent (downloadTaskId : String) (eventId : EventId) :
    FirmwareExecuteMode → FirmwareProgram FirmwareExecuteMode
  | .autoUpgrade mode => do
    let processor ← FirmwareAutoUpgradeMode.getDownloadDataProcessor mode
    let processor ← FirmwareDownloadDataProcessor.setDownloadEvent downloadTaskId eventId processor
    return .autoUpgrade { mode with downloadDataProcessor := some processor }
  | .download mode => do
    let downloadDataProcessor ←
      FirmwareDownloadDataProcessor.setDownloadEvent downloadTaskId eventId mode.downloadDataProcessor
    return .download { mode with downloadDataProcessor }
  | mode => return mode

def setInstallResult (info : InstallCallbackInfo) : FirmwareExecuteMode → FirmwareProgram FirmwareExecuteMode
  | .installApply mode => do
    let mode ← FirmwareInstallDataProcessor.setInstallResult info mode
    return .installApply mode
  | .streamInstallApply mode => do
    let mode ← FirmwareInstallDataProcessor.setInstallResult info mode
    return .streamInstallApply mode
  | mode => return mode

end FirmwareExecuteMode

namespace FirmwareFlowManager

def createInstance (step : FirmwareStep) (mode : FirmwareExecuteMode) : Option FirmwareExecutor :=
  match step with
  | .checkStep => some .check
  | .downloadStep => some (.download mode.getDownloadOptions false)
  | .installStep => some (.install { installType := mode.getInstallType } false)
  | .applyStep => some .apply
  | _ => none

/-- `Execute` of the executors, without the thread that each begins. -/
def executeExecutor (env : Surroundings) : Option FirmwareExecutor → FirmwareProgram Unit
  | some .check => do
    let statusCache ← read (·.statusCache)
    write (.statusCache (statusCache.setIsChecking true env.now))
  | _ => pure ()

def execute (calculateHashCode : String → String) (env : Surroundings) (flow : FirmwareFlowManager) :
    FirmwareProgram FlowResult := do
  let (nextStep, executeMode) ← FirmwareExecuteMode.getNextStep env flow.nextStep flow.executeMode
  if nextStep = .complete then do
    let checkResult ← FirmwareExecuteMode.handleComplete calculateHashCode env executeMode
    return { flow := none, businessError := executeMode.businessError, checkResult }
  else do
    let executor := createInstance nextStep executeMode
    executeExecutor env executor
    return { flow := some { executeMode, nextStep, executor }, businessError := executeMode.businessError }

def start (calculateHashCode : String → String) (env : Surroundings) (executeMode : FirmwareExecuteMode) :
    FirmwareProgram FlowResult :=
  execute calculateHashCode env { executeMode }

def onCheckCallback (calculateHashCode : String → String) (env : Surroundings) (status : CheckStatus)
    (componentList : List FirmwareComponent) (flow : FirmwareFlowManager) : FirmwareProgram FlowResult := do
  let executeMode ← FirmwareExecuteMode.setCheckResult calculateHashCode status componentList flow.executeMode
  execute calculateHashCode env { flow with executeMode }

def onDownloadCallback (calculateHashCode : String → String) (env : Surroundings)
    (callbackInfo : FirmwareDownloadCallbackInfo) (flow : FirmwareFlowManager) : FirmwareProgram FlowResult := do
  let executeMode ← FirmwareExecuteMode.setDownloadCallbackInfo callbackInfo flow.executeMode
  let flow := { flow with executeMode }
  if callbackInfo.taskProgress.status ≠ .downloading then execute calculateHashCode env flow
  else return { flow := some flow }

def onDownloadEventCallback (downloadTaskId : String) (eventId : EventId) (flow : FirmwareFlowManager) :
    FirmwareProgram FirmwareFlowManager := do
  let executeMode ← FirmwareExecuteMode.setDownloadEvent downloadTaskId eventId flow.executeMode
  return { flow with executeMode }

def onInstallCallback (calculateHashCode : String → String) (env : Surroundings) (info : InstallCallbackInfo)
    (flow : FirmwareFlowManager) : FirmwareProgram FlowResult := do
  let executeMode ← FirmwareExecuteMode.setInstallResult info flow.executeMode
  let flow := { flow with executeMode }
  if info.progress.status ≠ .installing then execute calculateHashCode env flow
  else return { flow := some flow }

end FirmwareFlowManager

/-- `FirmwareCheckExecutor::DoCheck` with the callback; `content` is what the server has sent. -/
def doCheck (p : JsonPlatform) (calculateHashCode : String → String) (env : Surroundings) (content : Option String)
    (flow : FirmwareFlowManager) : FirmwareProgram FlowResult := do
  let statusCache ← read (·.statusCache)
  write (.statusCache (statusCache.setIsChecking false env.now))
  let (status, componentList) := checkComponents p content
  FirmwareFlowManager.onCheckCallback calculateHashCode env status componentList flow

namespace FirmwareDownloadExecutor
open UpdateService.FirmwareDownloadExecutor

def performDownload (calculateHashCode : String → String) (env : Surroundings) (downloadOptions : DownloadOptions)
    (components : List FirmwareComponent) (flow : FirmwareFlowManager) : FirmwareProgram FlowResult := do
  let downloadInfos := buildDownloadInfos downloadOptions.allowNetwork components
  if downloadInfos = [] then return { flow := some flow }
  else do
    let flow ← FirmwareFlowManager.onDownloadEventCallback
      (UpdateService.DownloadTaskManager.getTaskId calculateHashCode downloadInfos) .eventDownloadStart flow
    let downloadError ← DownloadTaskManager.start calculateHashCode downloadInfos env.isMemoryEnough env.ended
    if downloadError.errorNum ≠ .success then
      FirmwareFlowManager.onDownloadCallback calculateHashCode env (callbackDownloadFailProgress downloadError) flow
    else return { flow := some flow }

def performResumeDownload (calculateHashCode : String → String) (env : Surroundings)
    (downloadOptions : DownloadOptions) (components : List FirmwareComponent) (downloadTaskId : String)
    (flow : FirmwareFlowManager) : FirmwareProgram FlowResult := do
  let (progressInfo, downloadError) ← DownloadTaskManager.getTaskProgress downloadTaskId
  if downloadError.errorNum ≠ .success then
    if downloadError.endReason = .downloadInfoEmpty then
      performDownload calculateHashCode env downloadOptions components flow
    else FirmwareFlowManager.onDownloadCallback calculateHashCode env (callbackDownloadFailProgress downloadError) flow
  else if progressInfo.taskStatus = .success ∨ progressInfo.taskStatus = .fail then
    FirmwareFlowManager.onDownloadCallback calculateHashCode env (callbackProgress downloadTaskId progressInfo) flow
  else if progressInfo.taskStatus ≠ .pause ∧ progressInfo.taskStatus ≠ .autoPause then
    FirmwareFlowManager.onDownloadCallback calculateHashCode env
      (callbackDownloadFailProgress { downloadError with errorNum := .fail }) flow
  else do
    let flow ← FirmwareFlowManager.onDownloadEventCallback downloadTaskId .eventDownloadResume flow
    let downloadError ← DownloadTaskManager.resume downloadTaskId downloadOptions.allowNetwork
    if downloadError.errorNum = .success then return { flow := some flow }
    else if downloadError.endReason = .netNotAvailiable then
      FirmwareFlowManager.onDownloadCallback calculateHashCode env
        (callbackProgress downloadTaskId { progressInfo with reason := .netNotAvailiable }) flow
    else FirmwareFlowManager.onDownloadCallback calculateHashCode env (callbackDownloadFailProgress downloadError) flow

def doDownload (calculateHashCode : String → String) (env : Surroundings) (downloadOptions : DownloadOptions)
    (flow : FirmwareFlowManager) : FirmwareProgram (Option FlowResult) := do
  let components ← FirmwareComponentOperator.queryAll
  let flow := { flow with executor := some (.download downloadOptions true) }
  if components = [] then return none
  else do
    let tasks ← FirmwareTaskOperator.queryTask
    if tasks.downloadTaskId = "" then do
      let result ← performDownload calculateHashCode env downloadOptions components flow
      return some result
    else do
      let result ← performResumeDownload calculateHashCode env downloadOptions components tasks.downloadTaskId flow
      return some result

end FirmwareDownloadExecutor

namespace FirmwareInstallExecutor
open UpdateService.FirmwareInstallExecutor

/-- `DoInstall` up to `StartInstall`, which follows if the flow is still there. -/
def doInstall (calculateHashCode : String → String) (env : Surroundings) (executor : FirmwareInstallExecutor)
    (flow : FirmwareFlowManager) : FirmwareProgram FlowResult := do
  let components ← FirmwareComponentOperator.queryAll
  if components = [] then
    FirmwareFlowManager.onInstallCallback calculateHashCode env
      { executor.installCallbackInfo with
        progress := { status := noTaskStatus executor.installType, endReason := "no task" } } flow
  else do
    let tasks ← FirmwareTaskOperator.queryTaskOnce executor.tasks
    write (.updateProgressByTaskId tasks.taskId (startStatus executor.installType) 0)
    forEach (fun c => write (.updateProgressByUrl c.url (startStatus executor.installType) 0)) components
    return { flow := some { flow with executor := some (.install { executor with tasks } true) } }

def handleInstallProgress (calculateHashCode : String → String) (env : Surroundings) (component : FirmwareComponent)
    (executor : FirmwareInstallExecutor) (flow : FirmwareFlowManager) : FirmwareProgram FlowResult := do
  write (.updateProgressByUrl component.url component.status component.progress)
  let taskProgress := { executor.taskProgress with status := .installing, percent := castUint32 component.progress }
  write (if executor.installType = .streamInstaller then .updateRecordPointByUrl component.url component.recordPoint
    else .updateProgressByTaskId executor.tasks.taskId taskProgress.status (castInt32 taskProgress.percent))
  let info := { executor.installCallbackInfo with progress := taskProgress }
  FirmwareFlowManager.onInstallCallback calculateHashCode env info
    { flow with executor := some (.install { executor with taskProgress, installCallbackInfo := info } true) }

def handleInstallResult (calculateHashCode : String → String) (env : Surroundings) (isSuccess : Bool)
    (errMsg : ErrorMessage) (status : UpgradeStatus) (executor : FirmwareInstallExecutor) (flow : FirmwareFlowManager) :
    FirmwareProgram FlowResult := do
  let taskProgress := { executor.taskProgress with
    status := resultStatus executor.installType isSuccess status
    percent := if isSuccess then oneHundred else executor.taskProgress.percent }
  write (.updateProgressByTaskId executor.tasks.taskId taskProgress.status (castInt32 taskProgress.percent))
  FirmwareFlowManager.onInstallCallback calculateHashCode env { progress := taskProgress, errorMessage := errMsg } flow

end FirmwareInstallExecutor

/-- `FirmwareApplyExecutor::DoInstall`; a device with components is rebooted. -/
def doApply (calculateHashCode : String → String) (env : Surroundings) (flow : FirmwareFlowManager) :
    FirmwareProgram FlowResult := do
  let components ← FirmwareComponentOperator.queryAll
  if components = [] then FirmwareFlowManager.execute calculateHashCode env flow
  else return { flow := some flow }

end FirmwareProgram

end UpdateService
