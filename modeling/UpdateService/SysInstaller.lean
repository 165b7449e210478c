import UpdateService.Lib.Lts
import UpdateService.FirmwareInstall

/-!
# The install of an AB upgrade (`FirmwareInstall`, `SysInstallerInstall`)

The install thread goes through the components; the installer calls back on threads of its own, and a
callback does two things at different times: it stores its report and signals the waiting thread, and
later passes the report on to the executor.
-/

namespace UpdateService

/-- Where the install thread stands; most places are those of a component in the list. -/
inductive SysInstallPc
  | start | perform
  | component (i : Nat) | init (i : Nat) | updateStatus (i : Nat) | setup (i : Nat) | zip (i : Nat) | wait (i : Nat)
  | result (result : Bool)
  | written | destroyed
deriving DecidableEq, Repr

inductive SysInstallOp
  | startInstall (fileSize : String → Option Int)
  | performInstall
  | initInstallProgress
  | sysInstallerInit (isOk : Bool)
  | getUpdateStatus (isInit : Bool)
  | setUpdateCallback (ret : Int)
  | startUpdatePackageZip (ret : Int)
  | wake | timeout
  | callbackResult
  | destroy
  /-- The installer calls the callback of a component: the part up to the signal. -/
  | deliver (i : Nat) (installProgress : InstallProgress)
  /-- A callback that has signalled goes on to `onFirmwareProgress`. -/
  | forward (k : Nat)

/-- The installer object with its executor. -/
structure SysInstall where
  pc : SysInstallPc := .start
  execution : InstallExecution
  sysInstallProgress : Progress := {}
  resultReady : Bool := false
  errMsg : ErrorMessage := {}
  successCount : Nat := 0
  /-- The components whose callbacks the installer holds. -/
  callbacks : List Nat := []
  /-- What the callbacks that have signalled will pass on. -/
  inFlight : List FirmwareComponent := []

namespace Progress

def isInstallSuccess (p : Progress) : Bool := p.status = .installSuccess && p.percent = oneHundred

def isInstallEnd (p : Progress) : Bool := p.isInstallSuccess || p.status = .installFail

end Progress

namespace SysInstall

def isResultReady (s : SysInstall) : Bool := s.resultReady && s.sysInstallProgress.isInstallEnd

def componentDone (i : Nat) (isSuccess : Bool) (s : SysInstall) : SysInstall :=
  let successCount := if isSuccess then s.successCount + 1 else s.successCount
  { s with
    successCount
    pc :=
      if i + 1 < s.execution.components.length then .component (i + 1)
      else .result (successCount = s.execution.components.length) }

def fail (i : Nat) (errorCode : Int) (errorMessage : String) (s : SysInstall) : SysInstall :=
  componentDone i false { s with errMsg := { errorCode, errorMessage } }

def initInstallProgress (s : SysInstall) : SysInstall :=
  { s with
    sysInstallProgress := { percent := 0, status := .installing, endReason := "" }
    errMsg := {}
    resultReady := false }

/-- `onFirmwareEvent`, for a component check that fails and for the result of `PerformInstall`. -/
def onFirmwareEvent (result : Bool) (errMsg : ErrorMessage) (status : UpgradeStatus) (s : SysInstall) : SysInstall :=
  { s with pc := .written, execution := FirmwareInstallExecutor.handleInstallResult result errMsg status s.execution }

/-- What the callback of a component stores and what it will pass on. -/
def deliver (component : FirmwareComponent) (installProgress : InstallProgress) (s : SysInstall) : SysInstall :=
  { s with
    sysInstallProgress := installProgress.progress
    errMsg := installProgress.errMsg
    resultReady := true
    inFlight := s.inFlight ++
      [{ component with
        status := installProgress.progress.status, progress := castInt32 installProgress.progress.percent }] }

def step (s : SysInstall) : SysInstallOp → Option SysInstall
  | .startInstall fileSize =>
    if s.pc ≠ .start then none
    else if FirmwareUpdateHelper.isUpgradePackagesReady fileSize s.execution.components then some { s with pc := .perform }
    else some (s.onFirmwareEvent false
      { errorCode := dupdateErrUpdatePrecheckFail, errorMessage := "check component failed!" } .installFail)
  | .performInstall =>
    if s.pc ≠ .perform then none
    else if s.execution.components = [] then some { s with pc := .result false }
    else some { s with pc := .component 0 }
  | .initInstallProgress =>
    match s.pc with
    | .component i => some { s.initInstallProgress with pc := .init i }
    | _ => none
  | .sysInstallerInit isOk =>
    match s.pc with
    | .init i => some (if isOk then { s with pc := .updateStatus i }
        else s.fail i dupdateErrIpcError "sys installer init failed")
    | _ => none
  | .getUpdateStatus isInit =>
    match s.pc with
    | .updateStatus i => some (if isInit then { s with pc := .setup i }
        else s.fail i dupdateErrSystemBusyOnInstall "sys installer is busy")
    | _ => none
  | .setUpdateCallback ret =>
    match s.pc with
    | .setup i => some (if ret = 0 then { s with pc := .zip i, callbacks := i :: s.callbacks }
        else s.fail i ret "set sys installer callback failed")
    | _ => none
  | .startUpdatePackageZip ret =>
    match s.pc with
    | .zip i => some (if ret = 0 then { s with pc := .wait i }
        else s.fail i ret "sys installer StartUpdatePackageZip failed")
    | _ => none
  | .wake =>
    match s.pc with
    | .wait i => if s.isResultReady then some (s.componentDone i s.sysInstallProgress.isInstallSuccess) else none
    | _ => none
  | .timeout =>
    match s.pc with
    | .wait i => if s.isResultReady then none else some (s.componentDone i false)
    | _ => none
  | .callbackResult =>
    match s.pc with
    -- no one has assigned the status that is passed on, and it is not used
    | .result result => some (s.onFirmwareEvent result s.errMsg .init)
    | _ => none
  | .destroy => if s.pc = .written then some { s with pc := .destroyed } else none
  | .deliver i installProgress =>
    if i ∉ s.callbacks then none
    -- the object is gone, and the callback returns at once
    else if s.pc = .destroyed then some s
    else (s.execution.components[i]?).map fun component => s.deliver component installProgress
  | .forward k =>
    (s.inFlight[k]?).map fun component =>
      { s with
        inFlight := s.inFlight.eraseIdx k
        execution := FirmwareInstallExecutor.handleInstallProgress component s.execution }

def lts : Lts SysInstall SysInstallOp := .ofPartial step

def beginOps : List SysInstallOp :=
  [.initInstallProgress, .sysInstallerInit true, .getUpdateStatus true, .setUpdateCallback 0, .startUpdatePackageZip 0]

def successReport : InstallProgress :=
  SysInstallerCallback.onUpgradeProgress (fun _ => 2) .updateStateSuccessful 100 ""

def sampleExecution (urls : List String) : InstallExecution :=
  (FirmwareInstallExecutor.doInstall
    { installType := .sysInstaller
      taskTable := [{ taskId := "t", status := .downloadSuccess }]
      componentTable := urls.map fun url => { url, spath := url, size := 1 } }).1

/-- All that a step can be. -/
inductive Step (s : SysInstall) : SysInstallOp → SysInstall → Prop
  | legal (fileSize : String → Option Int) (hpc : s.pc = .start) : Step s (.startInstall fileSize) { s with pc := .perform }
  | illegal (fileSize : String → Option Int) (hpc : s.pc = .start) :
      Step s (.startInstall fileSize) (s.onFirmwareEvent false
        { errorCode := dupdateErrUpdatePrecheckFail, errorMessage := "check component failed!" } .installFail)
  | noComponent (hpc : s.pc = .perform) (hnil : s.execution.components = []) :
      Step s .performInstall { s with pc := .result false }
  | first (hpc : s.pc = .perform) (hne : s.execution.components ≠ []) : Step s .performInstall { s with pc := .component 0 }
  | reset (i : Nat) (hpc : s.pc = .component i) : Step s .initInstallProgress { s.initInstallProgress with pc := .init i }
  | initialized (i : Nat) (hpc : s.pc = .init i) : Step s (.sysInstallerInit true) { s with pc := .updateStatus i }
  | initFail (i : Nat) (hpc : s.pc = .init i) :
      Step s (.sysInstallerInit false) (s.fail i dupdateErrIpcError "sys installer init failed")
  | idle (i : Nat) (hpc : s.pc = .updateStatus i) : Step s (.getUpdateStatus true) { s with pc := .setup i }
  | busy (i : Nat) (hpc : s.pc = .updateStatus i) :
      Step s (.getUpdateStatus false) (s.fail i dupdateErrSystemBusyOnInstall "sys installer is busy")
  | set (i : Nat) (hpc : s.pc = .setup i) :
      Step s (.setUpdateCallback 0) { s with pc := .zip i, callbacks := i :: s.callbacks }
  | setFail (i : Nat) (ret : Int) (hpc : s.pc = .setup i) :
      Step s (.setUpdateCallback ret) (s.fail i ret "set sys installer callback failed")
  | started (i : Nat) (hpc : s.pc = .zip i) : Step s (.startUpdatePackageZip 0) { s with pc := .wait i }
  | startFail (i : Nat) (ret : Int) (hpc : s.pc = .zip i) (hret : ret ≠ 0) :
      Step s (.startUpdatePackageZip ret) (s.fail i ret "sys installer StartUpdatePackageZip failed")
  | wake (i : Nat) (hpc : s.pc = .wait i) (hready : s.isResultReady = true) :
      Step s .wake (s.componentDone i s.sysInstallProgress.isInstallSuccess)
  | timeout (i : Nat) (hpc : s.pc = .wait i) (hready : s.isResultReady = false) : Step s .timeout (s.componentDone i false)
  | callbackResult (result : Bool) (hpc : s.pc = .result result) :
      Step s .callbackResult (s.onFirmwareEvent result s.errMsg .init)
  | destroy (hpc : s.pc = .written) : Step s .destroy { s with pc := .destroyed }
  | skip (i : Nat) (r : InstallProgress) (hpc : s.pc = .destroyed) : Step s (.deliver i r) s
  | deliver (i : Nat) (r : InstallProgress) (component : FirmwareComponent) (hpc : s.pc ≠ .destroyed) (hi : i ∈ s.callbacks) :
      Step s (.deliver i r) (s.deliver component r)
  | forward (k : Nat) (component : FirmwareComponent) (hk : s.inFlight[k]? = some component) :
      Step s (.forward k)
        { s with
          inFlight := s.inFlight.eraseIdx k
          execution := FirmwareInstallExecutor.handleInstallProgress component s.execution }

theorem step_cases {s s' : SysInstall} {op : SysInstallOp} (h : step s op = some s') : Step s op s' := by
  cases op with
  | startInstall fileSize =>
    simp only [step] at h
    split at h
    · cases h
    rename_i hpc
    rw [not_not] at hpc
    split at h <;> obtain rfl := Option.some.inj h
    exacts [.legal fileSize hpc, .illegal fileSize hpc]
  | performInstall =>
    simp only [step] at h
    split at h
    · cases h
    rename_i hpc
    rw [not_not] at hpc
    split at h <;> obtain rfl := Option.some.inj h
    exacts [.noComponent hpc ‹_›, .first hpc ‹_›]
  | initInstallProgress =>
    simp only [step] at h
    split at h
    · obtain rfl := Option.some.inj h
      exact .reset _ ‹_›
    · cases h
  | sysInstallerInit isOk =>
    simp only [step] at h
    split at h
    · obtain rfl := Option.some.inj h
      cases isOk
      exacts [.initFail _ ‹_›, .initialized _ ‹_›]
    · cases h
  | getUpdateStatus isInit =>
    simp only [step] at h
    split at h
    · obtain rfl := Option.some.inj h
      cases isInit
      exacts [.busy _ ‹_›, .idle _ ‹_›]
    · cases h
  | setUpdateCallback ret =>
    simp only [step] at h
    split at h
    · obtain rfl := Option.some.inj h
      split
      · rename_i hret
        rw [hret]
        exact .set _ ‹_›
      · exact .setFail _ ret ‹_›
    · cases h
  | startUpdatePackageZip ret =>
    simp only [step] at h
    split at h
    · obtain rfl := Option.some.inj h
      split
      · rename_i hret
        rw [hret]
        exact .started _ ‹_›
      · exact .startFail _ ret ‹_› ‹_›
    · cases h
  | wake =>
    simp only [step] at h
    split at h
    · split at h
      · obtain rfl := Option.some.inj h
        exact .wake _ ‹_› ‹_›
      · cases h
    · cases h
  | timeout =>
    simp only [step] at h
    split at h
    · split at h
      · cases h
      · obtain rfl := Option.some.inj h
        exact .timeout _ ‹_› (Bool.eq_false_iff.2 ‹_›)
    · cases h
  | callbackResult =>
    simp only [step] at h
    split at h
    · obtain rfl := Option.some.inj h
      exact .callbackResult _ ‹_›
    · cases h
  | destroy =>
    simp only [step] at h
    split at h
    · obtain rfl := Option.some.inj h
      exact .destroy ‹_›
    · cases h
  | deliver i r =>
    simp only [step] at h
    split at h
    · cases h
    split at h
    · obtain rfl := Option.some.inj h
      exact .skip i r ‹_›
    · obtain ⟨component, -, rfl⟩ := Option.map_eq_some_iff.1 h
      exact .deliver i r component ‹_› (not_not.1 ‹_›)
  | forward k =>
    simp only [step] at h
    obtain ⟨component, hk, rfl⟩ := Option.map_eq_some_iff.1 h
    exact .forward k component hk

end SysInstall

end UpdateService
