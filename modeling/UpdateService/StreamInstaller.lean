import UpdateService.Lib.Lts
import UpdateService.FirmwareInstall

/-!
# The install of a stream upgrade (`StreamInstallerInstall`)

A component is tried up to three times. An attempt starts a download thread that feeds the installer; the
wait for it ends by a report of the installer or by the end of the download. The user's cancel is a flag
that the download thread looks at and that the start of a download resets.
-/

namespace UpdateService

def maxRetryCount : Nat := 3

/-- Where the install thread stands: a component of the list and an attempt at it. -/
inductive StreamInstallPc
  | perform
  | attempt (i retry : Nat) | init (i retry : Nat) | updateStatus (i retry : Nat) | setup (i retry : Nat)
  | startStream (i retry : Nat) | startDownload (i retry : Nat) | wait (i retry : Nat)
  | attempted (i retry : Nat) (isSuccess : Bool)
  | loopEnd
  | result (result : Bool)
  | written (result : Bool)
deriving DecidableEq, Repr

def StreamInstallPc.place : StreamInstallPc → Option Nat
  | attempt i _ | init i _ | updateStatus i _ | setup i _ | startStream i _ | startDownload i _ | wait i _
  | attempted i _ _ => some i
  | perform | loopEnd | result _ | written _ => none

/-- How `ProcessThreadExecute` ends: no handle, a file size that does not fit, a transfer that curl has
given up (which the two flags make it do), or a whole transfer. -/
inductive DownloadEnd
  | initFail | checkFail | abort | finish
deriving DecidableEq, Repr

/-- The deal thread of `ProgressThread`; it waits after a `ProcessThreadExecute` that has returned true. -/
inductive DealThread
  | none | running | waiting
deriving DecidableEq, Repr

inductive StreamInstallOp
  | performInstall
  | beginAttempt
  | sysInstallerInit (isOk : Bool)
  | getUpdateStatus (isInit : Bool)
  | setUpdateCallback (ret : Int)
  | startStreamUpdate (ret : Int)
  | startDownload (ret : Int)
  | wake | timeout
  | afterAttempt
  | assignStatus
  /-- A variable that no one has assigned is read as `indeterminate`. -/
  | callbackResult (indeterminate : UpgradeStatus)
  /-- The installer reports; `percent` is what the `double` of the source comes to. -/
  | deliver (installProgress : InstallProgress) (percent : Int)
  | downloadEnd (e : DownloadEnd)
  /-- The user raises `isCancel_`. -/
  | cancel

/-- The installer object with its executor and the download thread. -/
structure StreamInstall where
  pc : StreamInstallPc := .perform
  execution : InstallExecution
  downloadProgress : Progress := {}
  sysInstallProgress : Progress := {}
  errMsg : ErrorMessage := {}
  successCount : Nat := 0
  /-- `status` of `StartInstall`, once it is assigned. -/
  status : Option UpgradeStatus := none
  /-- `firmwareComponent` of `DoSysInstall`, which the callback refers to. -/
  component : FirmwareComponent := {}
  isCallbackSet : Bool := false
  thread : DealThread := .none
  isWake : Bool := false
  exitDownload : Bool := false
  isCancel : Bool := false

namespace StreamInstall

def isResultReady (s : StreamInstall) : Bool :=
  s.sysInstallProgress.status = .installSuccess || s.sysInstallProgress.status = .installFail ||
    s.downloadProgress.status = .downloadFail || s.downloadProgress.status = .downloadCancel

def componentDone (i : Nat) (isSuccess : Bool) (s : StreamInstall) : StreamInstall :=
  { s with
    successCount := if isSuccess then s.successCount + 1 else s.successCount
    pc := if i + 1 < s.execution.components.length then .attempt (i + 1) 0 else .loopEnd }

def fail (i retry : Nat) (errorCode : Int) (errorMessage : String) (s : StreamInstall) : StreamInstall :=
  { s with errMsg := { errorCode, errorMessage }, pc := .attempted i retry false }

/-- `StopDownload`, which also wakes the deal thread. -/
def stopDownload (s : StreamInstall) : StreamInstall :=
  { s with
    exitDownload := true
    thread := if s.thread = .waiting then .running else s.thread
    isWake := s.thread = .running }

def onDownload (status : UpgradeStatus) (percent : Int) (endReason : String) (s : StreamInstall) : StreamInstall :=
  { s with
    downloadProgress := { status, percent, endReason }
    errMsg := if status = .downloadFail then { errorCode := -1, errorMessage := "download fail" } else s.errMsg }

def downloadEnd (e : DownloadEnd) (s : StreamInstall) : StreamInstall :=
  match e with
  -- the function returns true, and the thread goes round its loop again
  | .initFail => onDownload .downloadFail 0 "Failed to init curl"
      { s with thread := if s.isWake then .running else .waiting, isWake := false }
  | .checkFail => onDownload .downloadFail 0 (toString DownloadEndReason.curlError.toInt) { s with thread := .none }
  | .abort => onDownload .downloadCancel 0 (toString DownloadEndReason.cancel.toInt) { s with thread := .none }
  | .finish => onDownload .downloadSuccess 100 "" { s with thread := .none }

/-- The callback set by `SetInstallerCallback`. -/
def deliver (installProgress : InstallProgress) (percent : Int) (s : StreamInstall) : StreamInstall :=
  let component := { s.component with
    status := installProgress.progress.status
    recordPoint := s.component.recordPoint + installProgress.dealLen
    progress := if 0 < s.component.size then percent else s.component.progress }
  { s with
    component
    execution := FirmwareInstallExecutor.handleInstallProgress component s.execution
    sysInstallProgress := { installProgress.progress with
      status := if component.progress = oneHundred then .installSuccess else installProgress.progress.status }
    errMsg := installProgress.errMsg }

def refreshComponent (i : Nat) (e : InstallExecution) : FirmwareComponent :=
  ((e.components[i]?).bind fun c => FirmwareComponentOperator.queryByUrl c.url e.componentTable).getD {}

def resetAttempt (i retry : Nat) (s : StreamInstall) : StreamInstall :=
  { s with
    pc := .init i retry
    downloadProgress := { s.downloadProgress with status := .init }
    sysInstallProgress := { s.sysInstallProgress with status := .init }
    component := refreshComponent i s.execution }

def step (s : StreamInstall) : StreamInstallOp → Option StreamInstall
  | .performInstall =>
    if s.pc ≠ .perform then none
    else if s.execution.components = [] then some { s with pc := .result false }
    else some { s with pc := .attempt 0 0 }
  | .beginAttempt =>
    match s.pc with
    | .attempt i retry => some (s.resetAttempt i retry)
    | _ => none
  | .sysInstallerInit isOk =>
    match s.pc with
    | .init i retry => some (if isOk then { s with pc := .updateStatus i retry }
        else s.fail i retry dupdateErrIpcError "sys installer init failed")
    | _ => none
  | .getUpdateStatus isInit =>
    match s.pc with
    -- the code passed on is the one of the initialization that has succeeded
    | .updateStatus i retry => some (if isInit then { s with pc := .setup i retry }
        else s.fail i retry 0 "sys installer is busy")
    | _ => none
  | .setUpdateCallback ret =>
    match s.pc with
    | .setup i retry => some (if ret = 0 then { s with pc := .startStream i retry, isCallbackSet := true }
        else s.fail i retry ret "set sys installer callback failed")
    | _ => none
  | .startStreamUpdate ret =>
    match s.pc with
    | .startStream i retry => some (if ret = 0 then { s with pc := .startDownload i retry }
        else s.fail i retry ret "sys installer StartStreamUpdate failed")
    | _ => none
  | .startDownload ret =>
    match s.pc with
    | .startDownload i retry =>
      -- the thread of the attempt before is joined
      if s.thread = .running then none
      else
        let s := { s with isCancel := false, exitDownload := false, isWake := false }
        some (if ret = 0 then { s with pc := .wait i retry, thread := .running }
          else { s.fail i retry ret "StartDownload failed" with thread := .none })
    | _ => none
  | .wake =>
    match s.pc with
    | .wait i retry =>
      if s.isResultReady then
        some { s.stopDownload with pc := .attempted i retry (s.sysInstallProgress.status = .installSuccess) }
      else none
    | _ => none
  | .timeout =>
    match s.pc with
    | .wait i retry =>
      if s.isResultReady then none else some { s.stopDownload with pc := .attempted i retry false }
    | _ => none
  | .afterAttempt =>
    match s.pc with
    | .attempted i retry isSuccess =>
      some (if isSuccess then s.componentDone i true
        else if s.downloadProgress.status = .downloadCancel then s.componentDone i false
        else if retry + 1 < maxRetryCount then { s with pc := .attempt i (retry + 1) }
        else s.componentDone i false)
    | _ => none
  | .assignStatus =>
    if s.pc ≠ .loopEnd then none
    else some { s with
      status := if s.sysInstallProgress.status ≠ .installFail then some s.downloadProgress.status else s.status
      pc := .result (s.successCount = s.execution.components.length) }
  | .callbackResult indeterminate =>
    match s.pc with
    | .result result => some { s with
        pc := .written result
        execution := FirmwareInstallExecutor.handleInstallResult result s.errMsg (s.status.getD indeterminate) s.execution }
    | _ => none
  | .deliver installProgress percent => if s.isCallbackSet then some (s.deliver installProgress percent) else none
  | .downloadEnd e => if s.thread = .running then some (s.downloadEnd e) else none
  | .cancel => some { s with isCancel := true }

def lts : Lts StreamInstall StreamInstallOp := .ofPartial step

/-- All that a step can be. -/
inductive Step (s : StreamInstall) : StreamInstallOp → StreamInstall → Prop
  | noComponent (hpc : s.pc = .perform) (hnil : s.execution.components = []) :
      Step s .performInstall { s with pc := .result false }
  | first (hpc : s.pc = .perform) (hne : s.execution.components ≠ []) : Step s .performInstall { s with pc := .attempt 0 0 }
  | beginAttempt (i retry : Nat) (hpc : s.pc = .attempt i retry) : Step s .beginAttempt (s.resetAttempt i retry)
  | initialized (i retry : Nat) (hpc : s.pc = .init i retry) : Step s (.sysInstallerInit true) { s with pc := .updateStatus i retry }
  | initFail (i retry : Nat) (hpc : s.pc = .init i retry) :
      Step s (.sysInstallerInit false) (s.fail i retry dupdateErrIpcError "sys installer init failed")
  | idle (i retry : Nat) (hpc : s.pc = .updateStatus i retry) : Step s (.getUpdateStatus true) { s with pc := .setup i retry }
  | busy (i retry : Nat) (hpc : s.pc = .updateStatus i retry) :
      Step s (.getUpdateStatus false) (s.fail i retry 0 "sys installer is busy")
  | set (i retry : Nat) (hpc : s.pc = .setup i retry) :
      Step s (.setUpdateCallback 0) { s with pc := .startStream i retry, isCallbackSet := true }
  | setFail (i retry : Nat) (ret : Int) (hpc : s.pc = .setup i retry) :
      Step s (.setUpdateCallback ret) (s.fail i retry ret "set sys installer callback failed")
  | started (i retry : Nat) (hpc : s.pc = .startStream i retry) : Step s (.startStreamUpdate 0) { s with pc := .startDownload i retry }
  | startFail (i retry : Nat) (ret : Int) (hpc : s.pc = .startStream i retry) :
      Step s (.startStreamUpdate ret) (s.fail i retry ret "sys installer StartStreamUpdate failed")
  | download (i retry : Nat) (hpc : s.pc = .startDownload i retry) :
      Step s (.startDownload 0)
        { s with isCancel := false, exitDownload := false, isWake := false, pc := .wait i retry, thread := .running }
  | downloadFail (i retry : Nat) (ret : Int) (hpc : s.pc = .startDownload i retry) :
      Step s (.startDownload ret)
        { fail i retry ret "StartDownload failed" { s with isCancel := false, exitDownload := false, isWake := false } with
          thread := .none }
  | wake (i retry : Nat) (hpc : s.pc = .wait i retry) (hready : s.isResultReady = true) :
      Step s .wake { s.stopDownload with pc := .attempted i retry (s.sysInstallProgress.status = .installSuccess) }
  | timeout (i retry : Nat) (hpc : s.pc = .wait i retry) : Step s .timeout { s.stopDownload with pc := .attempted i retry false }
  | installed (i retry : Nat) (hpc : s.pc = .attempted i retry true) : Step s .afterAttempt (s.componentDone i true)
  | giveUp (i retry : Nat) (hpc : s.pc = .attempted i retry false) : Step s .afterAttempt (s.componentDone i false)
  | retry (i retry : Nat) (hpc : s.pc = .attempted i retry false) (hcancel : s.downloadProgress.status ≠ .downloadCancel) :
      Step s .afterAttempt { s with pc := .attempt i (retry + 1) }
  | assignStatus (hpc : s.pc = .loopEnd) :
      Step s .assignStatus { s with
        status := if s.sysInstallProgress.status ≠ .installFail then some s.downloadProgress.status else s.status
        pc := .result (s.successCount = s.execution.components.length) }
  | callbackResult (result : Bool) (indeterminate : UpgradeStatus) (hpc : s.pc = .result result) :
      Step s (.callbackResult indeterminate) { s with
        pc := .written result
        execution := FirmwareInstallExecutor.handleInstallResult result s.errMsg (s.status.getD indeterminate) s.execution }
  | deliver (r : InstallProgress) (percent : Int) : Step s (.deliver r percent) (s.deliver r percent)
  | downloadEnd (e : DownloadEnd) (hrun : s.thread = .running) : Step s (.downloadEnd e) (s.downloadEnd e)
  | cancel : Step s .cancel { s with isCancel := true }

theorem step_cases {s s' : StreamInstall} {op : StreamInstallOp} (h : step s op = some s') : Step s op s' := by
  cases op with
  | performInstall =>
    simp only [step] at h
    split at h
    · cases h
    rename_i hpc
    rw [not_not] at hpc
    split at h <;> obtain rfl := Option.some.inj h
    exacts [.noComponent hpc ‹_›, .first hpc ‹_›]
  | beginAttempt =>
    simp only [step] at h
    split at h
    · obtain rfl := Option.some.inj h
      exact .beginAttempt _ _ ‹_›
    · cases h
  | sysInstallerInit isOk =>
    simp only [step] at h
    split at h
    · obtain rfl := Option.some.inj h
      cases isOk
      exacts [.initFail _ _ ‹_›, .initialized _ _ ‹_›]
    · cases h
  | getUpdateStatus isInit =>
    simp only [step] at h
    split at h
    · obtain rfl := Option.some.inj h
      cases isInit
      exacts [.busy _ _ ‹_›, .idle _ _ ‹_›]
    · cases h
  | setUpdateCallback ret =>
    simp only [step] at h
    split at h
    · obtain rfl := Option.some.inj h
      split
      · rename_i hret
        rw [hret]
        exact .set _ _ ‹_›
      · exact .setFail _ _ ret ‹_›
    · cases h
  | startStreamUpdate ret =>
    simp only [step] at h
    split at h
    · obtain rfl := Option.some.inj h
      split
      · rename_i hret
        rw [hret]
        exact .started _ _ ‹_›
      · exact .startFail _ _ ret ‹_›
    · cases h
  | startDownload ret =>
    simp only [step] at h
    split at h
    · split at h
      · cases h
      obtain rfl := Option.some.inj h
      split
      · rename_i hret
        rw [hret]
        exact .download _ _ ‹_›
      · exact .downloadFail _ _ ret ‹_›
    · cases h
  | wake =>
    simp only [step] at h
    split at h
    · split at h
      · obtain rfl := Option.some.inj h
        exact .wake _ _ ‹_› ‹_›
      · cases h
    · cases h
  | timeout =>
    simp only [step] at h
    split at h
    · split at h
      · cases h
      · obtain rfl := Option.some.inj h
        exact .timeout _ _ ‹_›
    · cases h
  | afterAttempt =>
    simp only [step] at h
    split at h
    · rename_i i retry isSuccess hpc
      obtain rfl := Option.some.inj h
      cases isSuccess with
      | true => exact .installed i retry hpc
      | false =>
        rw [if_neg Bool.false_ne_true]
        split
        · exact .giveUp i retry hpc
        · split
          exacts [.retry i retry hpc ‹_›, .giveUp i retry hpc]
    · cases h
  | assignStatus =>
    simp only [step] at h
    split at h
    · cases h
    · obtain rfl := Option.some.inj h
      exact .assignStatus (not_not.1 ‹_›)
  | callbackResult indeterminate =>
    simp only [step] at h
    split at h
    · obtain rfl := Option.some.inj h
      exact .callbackResult _ indeterminate ‹_›
    · cases h
  | deliver r percent =>
    simp only [step] at h
    split at h
    · obtain rfl := Option.some.inj h
      exact .deliver r percent
    · cases h
  | downloadEnd e =>
    simp only [step] at h
    split at h
    · obtain rfl := Option.some.inj h
      exact .downloadEnd e ‹_›
    · cases h
  | cancel =>
    obtain rfl := Option.some.inj h
    exact .cancel

end StreamInstall

end UpdateService
