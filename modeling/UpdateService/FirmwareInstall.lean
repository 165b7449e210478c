import UpdateService.FirmwareStore

/-!
# What an install records (`FirmwareInstallExecutor`)

The executor writes the progress and the result of an install to the two tables. Which thread calls it
when is the business of the installers.
-/

namespace UpdateService

inductive InstallType
  | quickFix | sysInstaller | streamInstaller | updater
deriving DecidableEq, Repr

structure ErrorMessage where
  errorCode : Int := 0
  errorMessage : String := ""
deriving DecidableEq, Repr

structure InstallCallbackInfo where
  progress : Progress := {}
  errorMessage : ErrorMessage := {}
deriving DecidableEq, Repr

/-- What the installers are handed from outside: `SysInstallerCallback` makes it of an installer's report. -/
structure InstallProgress where
  progress : Progress := {}
  dealLen : Nat := 0
  errMsg : ErrorMessage := {}
deriving DecidableEq, Repr

/-- Of `SysInstaller::UpdateStatus` what the callbacks tell apart. -/
inductive UpdateStatus
  | updateStateInit | updateStateOngoing | updateStateSuccessful | other (code : Int)
deriving DecidableEq, Repr

def dupdateErrIpcError : Int := -410

def dupdateErrSystemBusyOnInstall : Int := -407

def dupdateErrUpdatePrecheckFail : Int := -420

def oneHundred : Int := 100

namespace SysInstallerCallback

/-- The status that both callbacks make of an `UpdateStatus`. -/
def upgradeStatus : UpdateStatus → UpgradeStatus
  | .updateStateInit | .updateStateOngoing => .installing
  | .updateStateSuccessful => .installSuccess
  | .other _ => .installFail

/-- The message is passed on only with a failure; `errorCode` is the enumerator's number. -/
def errMsg (errorCode : UpdateStatus → Int) (updateStatus : UpdateStatus) (resultMsg : String) : ErrorMessage where
  errorCode := errorCode updateStatus
  errorMessage := if upgradeStatus updateStatus = .installFail then resultMsg else ""

def onUpgradeProgress (errorCode : UpdateStatus → Int) (updateStatus : UpdateStatus) (percent : Int)
    (resultMsg : String) : InstallProgress where
  progress := { status := upgradeStatus updateStatus, percent := castUint32 percent }
  errMsg := errMsg errorCode updateStatus resultMsg

def onUpgradeDealLen (errorCode : UpdateStatus → Int) (updateStatus : UpdateStatus) (dealLen : Int)
    (resultMsg : String) : InstallProgress where
  progress :=
    { status := upgradeStatus updateStatus
      percent := if updateStatus = .updateStateSuccessful then oneHundred else 0 }
  dealLen := (castUint32 dealLen).toNat
  errMsg := errMsg errorCode updateStatus resultMsg

end SysInstallerCallback

/-- The executor with the two tables, and the reports it has passed on. -/
structure InstallExecution where
  installType : InstallType
  installCallbackInfo : InstallCallbackInfo := {}
  components : List FirmwareComponent := []
  tasks : FirmwareTask := {}
  taskProgress : Progress := {}
  taskTable : List FirmwareTask := []
  componentTable : List FirmwareComponent := []
  callbacks : List InstallCallbackInfo := []

namespace FirmwareInstallExecutor
open FirmwareTaskOperator FirmwareComponentOperator

def installCallback (info : InstallCallbackInfo) (e : InstallExecution) : InstallExecution :=
  { e with installCallbackInfo := info, callbacks := e.callbacks ++ [info] }

def startStatus : InstallType → UpgradeStatus
  | .sysInstaller | .streamInstaller => .installing
  | .updater => .updating
  | .quickFix => .init

def noTaskStatus : InstallType → UpgradeStatus
  | .sysInstaller | .streamInstaller => .installFail
  | .updater | .quickFix => .updateFail

/-- `DoInstall` up to `StartInstall`, which follows if the answer is true. -/
def doInstall (e : InstallExecution) : InstallExecution × Bool :=
  let e := { e with components := e.componentTable }
  if e.components = [] then
    (installCallback
      { e.installCallbackInfo with progress := { status := noTaskStatus e.installType, endReason := "no task" } } e, false)
  else
    let tasks := if e.tasks.isExistTask then e.tasks else queryTask e.taskTable
    ({ e with
      tasks
      taskTable := updateProgressByTaskId tasks.taskId (startStatus e.installType) 0 e.taskTable
      componentTable := e.components.foldl
        (fun table c => updateProgressByUrl c.url (startStatus e.installType) 0 table) e.componentTable }, true)

/-- A report is recorded as `INSTALLING`, whatever it says; a stream install does not touch the task. -/
def handleInstallProgress (component : FirmwareComponent) (e : InstallExecution) : InstallExecution :=
  let taskProgress := { e.taskProgress with status := .installing, percent := castUint32 component.progress }
  let e := { e with
    componentTable := updateProgressByUrl component.url component.status component.progress e.componentTable
    taskProgress }
  let e :=
    if e.installType = .streamInstaller then
      { e with componentTable := updateRecordPointByUrl component.url component.recordPoint e.componentTable }
    else
      { e with
        taskTable := updateProgressByTaskId e.tasks.taskId taskProgress.status (castInt32 taskProgress.percent) e.taskTable }
  installCallback { e.installCallbackInfo with progress := taskProgress } e

def resultStatus (installType : InstallType) (result : Bool) (status : UpgradeStatus) : UpgradeStatus :=
  if result then .installSuccess
  else match installType with
    | .sysInstaller => .installFail
    | .streamInstaller => if status = .downloadCancel then .installPause else .installFail
    | .updater | .quickFix => .updateFail

def handleInstallResult (result : Bool) (errMsg : ErrorMessage) (status : UpgradeStatus) (e : InstallExecution) :
    InstallExecution :=
  let taskProgress := { e.taskProgress with
    status := resultStatus e.installType result status
    percent := if result then oneHundred else e.taskProgress.percent }
  installCallback { progress := taskProgress, errorMessage := errMsg }
    { e with
      taskProgress
      taskTable := updateProgressByTaskId e.tasks.taskId taskProgress.status (castInt32 taskProgress.percent) e.taskTable }

variable {e : InstallExecution}

theorem handleInstallProgress_keeps (component : FirmwareComponent) (e : InstallExecution) :
    (handleInstallProgress component e).installType = e.installType ∧
      (handleInstallProgress component e).components = e.components ∧
      (handleInstallProgress component e).tasks = e.tasks := by
  unfold handleInstallProgress installCallback
  dsimp only
  split <;> exact ⟨rfl, rfl, rfl⟩

theorem taskTable_handleInstallProgress (he : e.installType = .streamInstaller) (component : FirmwareComponent) :
    (handleInstallProgress component e).taskTable = e.taskTable := by
  unfold handleInstallProgress installCallback
  dsimp only
  rw [if_pos he]

theorem status_handleInstallResult {result : Bool} {errMsg : ErrorMessage} {status : UpgradeStatus}
    {task : FirmwareTask}
    (htask : task ∈ (handleInstallResult result errMsg status e).taskTable) (hid : task.taskId = e.tasks.taskId) :
    task.status = resultStatus e.installType result status := by
  obtain ⟨task₀, -, rfl⟩ := List.mem_updateWhere.1 htask
  have hid₀ : task₀.taskId = e.tasks.taskId := by
    split at hid <;> exact hid
  rw [if_pos (decide_eq_true hid₀)]

end FirmwareInstallExecutor

end UpdateService
