import UpdateService.FirmwareService

/-!
# What every call of the firmware part keeps

`FirmwareRules A I C` lists what has to be proved of a property `I` of the device, with a condition `C` for a process
that is killed: that it survives an elementary write, a change of the preferences that is not of the bell, and the
programs whose writes belong together. The rules carry it through the functions of the flows, once for all properties.
`A` are the statuses that the task may be given; what a download or an install begins with has to be asked for.
-/

namespace UpdateService
open Program

/-- A write that neither adds nor removes a row, is not of the preferences or the bell, and neither tells of a success
nor makes an upgrade one of the night. -/
def DeviceWrite.IsElementary (A : UpgradeStatus → Prop) : DeviceWrite → Prop
  | .insertTask _ | .deleteAllTasks | .insertComponents _ | .deleteAllComponents | .deleteDbStore => False
  | .preferences _ | .bell _ => False
  | .updateProgressByTaskId _ status _ | .updateStatusByTaskId _ status => A status
  | .updateUpgradeModeByTaskId _ upgradeMode => upgradeMode = .manual
  | .notice e => e.eventId ≠ InnerApi.EventId.eventUpgradeSuccess.number
  | _ => True

/-! ### What the preferences and the bell have nothing to do with -/

section Indifferent
variable {I C : FirmwareDevice → Prop} (hle : ∀ d, I d → C d)
  (hp : ∀ (d : FirmwareDevice) (p : FirmwarePreferences), I d → I (Store.apply d (DeviceWrite.preferences p)))
include hle hp

theorem keeps_save (f : FirmwarePreferences → FirmwarePreferences) :
    Keeps I C (FirmwareProgram.FirmwarePreferencesUtil.save f) :=
  .bind (.read hle) fun p => .write hle fun d => hp d (f p)

theorem keeps_processBeforeUpgrade (hb : ∀ d : FirmwareDevice, I d → I (Store.apply d (DeviceWrite.bell false)))
    (env : Surroundings) (task : FirmwareTaskRow) :
    Keeps I C (FirmwareProgram.FirmwareUpgradeProcessor.processBeforeUpgrade env task) :=
  .bind (.read hle) fun _ => .when hle fun _ => .bind (keeps_save hle hp _) fun _ => .when hle fun _ => .write hle hb

theorem keeps_processAfterUpgrade (hb : ∀ d : FirmwareDevice, I d → I (Store.apply d (DeviceWrite.bell true)))
    (env : Surroundings) (task : FirmwareTaskRow) :
    Keeps I C (FirmwareProgram.FirmwareUpgradeProcessor.processAfterUpgrade env task) :=
  .bind (.read hle) fun _ => .when hle fun _ => .bind (.write hle hb) fun _ => keeps_save hle hp _

end Indifferent

/-! ### The tables of a version -/

namespace FirmwareDevice

/-- No rows at all, as after `ClearFirmwareInfo`. -/
def Cleared (d : FirmwareDevice) : Prop := d.taskTable = [] ∧ d.componentTable = []

/-- The tables are emptied one after the other. -/
theorem clear_cleared {I C : FirmwareDevice → Prop} (hle : ∀ d, I d → C d)
    (hm : ∀ d downloads, I d → I (Store.apply d (DeviceWrite.downloads downloads)))
    (ht : ∀ d, I d → C (Store.apply d DeviceWrite.deleteAllTasks)) (hc : ∀ d : FirmwareDevice, d.Cleared → C d) :
    Triple I FirmwareProgram.FirmwareUpdateHelper.clearFirmwareInfo (fun _ => Cleared) C := by
  unfold FirmwareProgram.FirmwareUpdateHelper.clearFirmwareInfo
  refine .bind (Keeps.read hle) fun task =>
    .bind (.bind (Keeps.read hle) fun _ => Keeps.write hle fun d => hm d _) fun _ => ?_
  refine .bind (Q := fun _ d => d.taskTable = [] ∧ C d) (.write hle fun d h => ⟨⟨rfl, ht d h⟩, ht d h⟩) fun _ => ?_
  refine .bind (Q := fun _ => Cleared) (.write (fun _ h => h.2) fun d h => ⟨⟨h.1, rfl⟩, hc _ ⟨h.1, rfl⟩⟩) fun _ => ?_
  exact .write hc fun d h => ⟨h, hc _ h⟩

end FirmwareDevice

/-- The task that `HandleNewVersion` inserts. -/
def FirmwareTaskRow.ofVersion (calculateHashCode : String → String) (components : List FirmwareComponent) :
    FirmwareTaskRow where
  taskId := FirmwareUpdateHelper.buildTaskId calculateHashCode components
  status := .checkVersionSuccess
  isStreamUpgrade := FirmwareUpdateHelper.isStreamUpgrade components
  combinationType := FirmwareCheckDataProcessor.getCombinationType components

/-! ### The rules -/

structure FirmwareRules (A : UpgradeStatus → Prop) (I C : FirmwareDevice → Prop) : Prop where
  le : ∀ d, I d → C d
  rest : ∀ status : UpgradeStatus, status ≠ .downloading → status ≠ .installing → status ≠ .updating → A status
  elementary : ∀ w : DeviceWrite, w.IsElementary A → ∀ d, I d → I (Store.apply d w)
  preferences : ∀ (d : FirmwareDevice) (p : FirmwarePreferences), p.bellStatus = d.preferences.bellStatus → I d →
    I (Store.apply d (DeviceWrite.preferences p))
  clear : Keeps I C FirmwareProgram.FirmwareUpdateHelper.clearFirmwareInfo
  after : ∀ env task, Keeps I C (FirmwareProgram.FirmwareUpgradeProcessor.processAfterUpgrade env task)

namespace FirmwareRules
open FirmwareProgram
variable {A : UpgradeStatus → Prop} {I C : FirmwareDevice → Prop} {α : Type} (h : FirmwareRules A I C)
include h

theorem pure {a : α} : Keeps I C (Pure.pure a : FirmwareProgram α) := .pure h.le

theorem read {g : FirmwareDevice → α} : Keeps I C (Program.read g : FirmwareProgram α) := .read h.le

theorem write {w : DeviceWrite} (hw : w.IsElementary A) : Keeps I C (Program.write w : FirmwareProgram Unit) :=
  .write h.le (h.elementary w hw)

theorem when {c : Prop} [Decidable c] {m : FirmwareProgram Unit} (hm : c → Keeps I C m) :
    Keeps I C (Program.when c m) :=
  .when h.le hm

theorem forEach {l : List α} {f : α → FirmwareProgram Unit} (hf : ∀ a ∈ l, Keeps I C (f a)) :
    Keeps I C (Program.forEach f l) :=
  .forEach h.le hf

theorem save {f : FirmwarePreferences → FirmwarePreferences} (hf : ∀ p, (f p).bellStatus = p.bellStatus) :
    Keeps I C (FirmwarePreferencesUtil.save f) := by
  refine Triple.of_store fun d hd => ?_
  refine .bind (Q := fun p s => s = d ∧ p = d.preferences) (.read fun s hs => ?_) fun p => ?_
  · exact ⟨⟨hs, congrArg _ hs⟩, hs ▸ h.le d hd⟩
  · refine .write (fun s hs => hs.1 ▸ h.le d hd) fun s hs => ?_
    obtain ⟨rfl, rfl⟩ := hs
    have hI := h.preferences s (f s.preferences) (hf _) hd
    exact ⟨hI, h.le _ hI⟩

theorem notifyEvent {digest : String} {eventId : InnerApi.EventId} {status : UpgradeStatus} {e : ErrorMessage}
    {versionComponents : List InnerApi.VersionComponent} {progress : Int}
    (he : eventId.number ≠ InnerApi.EventId.eventUpgradeSuccess.number) :
    Keeps I C (FirmwareCallbackUtils.notifyEvent digest eventId status e versionComponents progress) :=
  h.write he

theorem progressCallback {digest : String} {progress : Progress} (hp : progress.status ≠ .updateSuccess) :
    Keeps I C (FirmwareCallbackUtils.progressCallback digest progress) := by
  have hne : ∀ status : UpgradeStatus, status ≠ .updateSuccess →
      (BaseCallbackUtils.findEventId status).number ≠ InnerApi.EventId.eventUpgradeSuccess.number := by
    intro status hs
    cases status <;> first | exact absurd rfl hs | decide
  exact h.write (hne _ hp)

theorem queryTaskOnce {task : FirmwareTaskRow} : Keeps I C (FirmwareProgram.FirmwareTaskOperator.queryTaskOnce task) :=
  .ite h.pure h.read

theorem removeTask {taskId : String} : Keeps I C (FirmwareProgram.DownloadTaskManager.removeTask taskId) :=
  .bind h.read fun _ => h.write trivial

/-! ### The check -/

theorem updateFirmwareComponent {componentList : List FirmwareComponent} :
    Keeps I C (FirmwareProgram.FirmwareCheckDataProcessor.updateFirmwareComponent componentList) := by
  unfold FirmwareProgram.FirmwareCheckDataProcessor.updateFirmwareComponent
  exact .bind h.read fun _ => .ite h.pure (.ite h.pure (h.forEach fun _ _ => h.write trivial))

/-- The components of a version are there before its task, and both only where there has been nothing. -/
theorem handleNewVersion {calculateHashCode : String → String} {q : FirmwareCheckDataProcessor}
    {components : List FirmwareComponent}
    (hq : components = UpdateService.FirmwareCheckDataProcessor.buildComponentSPath q.componentList)
    (hclear : Triple I FirmwareProgram.FirmwareUpdateHelper.clearFirmwareInfo (fun _ => FirmwareDevice.Cleared) C)
    (hcleared : ∀ d : FirmwareDevice, d.Cleared → C d)
    (hpart : ∀ d : FirmwareDevice, d.taskTable = [] → d.componentTable = components → C d)
    (hwhole : ∀ d : FirmwareDevice, d.taskTable = [.ofVersion calculateHashCode components] →
      d.componentTable = components → I d) :
    Keeps I C (FirmwareProgram.FirmwareCheckDataProcessor.handleNewVersion calculateHashCode q) := by
  unfold FirmwareProgram.FirmwareCheckDataProcessor.handleNewVersion
  rw [← hq]
  refine .bind h.read fun isSame => .ite (.bind h.updateFirmwareComponent fun _ => h.pure) ?_
  refine Triple.bind hclear fun _ =>
    .bind (Q := fun _ d => d.taskTable = [] ∧ d.componentTable = components) ?_ fun _ =>
    .bind (Q := fun _ => I) (.write (fun d hd => hpart d hd.1 hd.2) fun d hd => ?_) fun _ => h.pure
  · refine .write hcleared fun d hd => ?_
    have hc : (Store.apply d (DeviceWrite.insertComponents components)).componentTable = components :=
      (congrArg (· ++ components) hd.2).trans (List.nil_append _)
    exact ⟨⟨hd.1, hc⟩, hpart _ hd.1 hc⟩
  · have hI : I (Store.apply d (DeviceWrite.insertTask (.ofVersion calculateHashCode components))) :=
      hwhole _ ((congrArg (· ++ [_]) hd.1).trans (List.nil_append _)) hd.2
    exact ⟨hI, h.le _ hI⟩

theorem handleNoNewVersion : Keeps I C FirmwareProgram.FirmwareCheckDataProcessor.handleNoNewVersion := by
  unfold FirmwareProgram.FirmwareCheckDataProcessor.handleNoNewVersion
  exact .bind h.read fun _ => .bind (h.when fun _ => h.notifyEvent (by decide)) fun _ => h.clear

theorem buildNewVersionInfo {env : Surroundings} {components : List FirmwareComponent} :
    Keeps I C (FirmwareProgram.FirmwareUpdateHelper.buildNewVersionInfo env components) := by
  unfold FirmwareProgram.FirmwareUpdateHelper.buildNewVersionInfo
  refine .bind (.bind h.read fun _ => h.pure) fun _ => ?_
  split <;> exact h.pure

theorem buildCheckResult {calculateHashCode : String → String} {env : Surroundings} {p : FirmwareCheckDataProcessor} :
    Keeps I C (FirmwareProgram.FirmwareCheckDataProcessor.buildCheckResult calculateHashCode env p) := by
  unfold FirmwareProgram.FirmwareCheckDataProcessor.buildCheckResult
  exact .ite h.pure (.bind h.read fun _ => .ite h.pure (.bind h.buildNewVersionInfo fun _ => h.pure))

theorem manualCheckStep {env : Surroundings} {step : FirmwareStep} {mode : FirmwareManualCheckMode} :
    Keeps I C (FirmwareProgram.FirmwareManualCheckMode.getNextStep env step mode) := by
  unfold FirmwareProgram.FirmwareManualCheckMode.getNextStep
  split
  · unfold FirmwareProgram.FirmwareManualCheckMode.getStepAfterInit
    refine .bind h.read fun _ => .bind (.bind h.read fun _ => h.pure) fun _ => ?_
    exact .ite h.pure (.ite h.pure (.ite h.pure h.pure))
  · refine .bind ?_ fun _ => h.pure
    unfold FirmwareProgram.FirmwareManualCheckMode.getStepAfterCheck
    refine .ite h.pure (.bind h.read fun _ => .bind h.read fun _ => .bind (h.when fun _ => ?_) fun _ => h.pure)
    exact .bind (h.notifyEvent (by decide)) fun _ => h.when fun _ => h.notifyEvent (by decide)
  · exact h.pure

/-! ### The download -/

theorem getTask {tasks : FirmwareTask} :
    Keeps I C (FirmwareProgram.FirmwareDownloadDataProcessor.getTask tasks) :=
  .bind h.read fun _ => h.pure

theorem setDownloadCallbackInfo {callbackInfo : FirmwareDownloadCallbackInfo} {p : FirmwareDownloadDataProcessor}
    (hA : A callbackInfo.taskProgress.status) (hs : callbackInfo.taskProgress.status ≠ .updateSuccess) :
    Keeps I C (FirmwareProgram.FirmwareDownloadDataProcessor.setDownloadCallbackInfo callbackInfo p) := by
  unfold FirmwareProgram.FirmwareDownloadDataProcessor.setDownloadCallbackInfo
  refine .bind h.getTask fun _ => .bind (h.forEach fun _ _ => h.write trivial) fun _ => ?_
  exact .bind (h.write hA) fun _ => .bind (h.progressCallback hs) fun _ => h.pure

theorem setDownloadEvent {downloadTaskId : String} {eventId : EventId} {p : FirmwareDownloadDataProcessor}
    (hA : A .downloading) :
    Keeps I C (FirmwareProgram.FirmwareDownloadDataProcessor.setDownloadEvent downloadTaskId eventId p) := by
  unfold FirmwareProgram.FirmwareDownloadDataProcessor.setDownloadEvent
  refine .bind h.getTask fun _ => ?_
  cases eventId with
  | eventDownloadStart =>
    refine .bind (h.write trivial) fun _ => .bind (h.write hA) fun _ => ?_
    exact .bind (h.notifyEvent (by decide)) fun _ => h.pure
  | eventDownloadResume =>
    exact .bind (h.write hA) fun _ => .bind (h.notifyEvent (by decide)) fun _ => h.pure

theorem downloadSuccessProcess {task : FirmwareTaskRow} :
    Keeps I C (FirmwareDownloadProcess.downloadSuccessProcess task) := by
  unfold FirmwareDownloadProcess.downloadSuccessProcess
  refine .bind (h.notifyEvent (by decide)) fun _ => .bind h.read fun _ => ?_
  exact .bind (h.when fun _ => h.write trivial) fun _ => h.removeTask

omit h in
theorem rest_checkVersionSuccess (h : FirmwareRules A I C) : A .checkVersionSuccess :=
  h.rest _ (by decide) (by decide) (by decide)

theorem downloadCancelProcess {task : FirmwareTaskRow} {e : ErrorMessage} :
    Keeps I C (FirmwareDownloadProcess.downloadCancelProcess task e) := by
  unfold FirmwareDownloadProcess.downloadCancelProcess
  refine .bind (h.notifyEvent (by decide)) fun _ => .bind (h.write h.rest_checkVersionSuccess) fun _ => ?_
  refine .bind h.read fun _ => .bind (h.forEach fun _ _ => h.write trivial) fun _ => .bind h.removeTask fun _ => ?_
  exact .bind (h.write trivial) fun _ => h.write trivial

theorem getStepAfterDownload {endReason : String} :
    Keeps I C (FirmwareDownloadProcess.getStepAfterDownload endReason) := by
  unfold FirmwareDownloadProcess.getStepAfterDownload
  refine .bind h.read fun task => .ite h.pure (.bind ?_ fun _ => h.pure)
  unfold FirmwareDownloadProcess.downloadProcess
  split
  · exact h.notifyEvent (by decide)
  · exact .bind (h.notifyEvent (by decide)) fun _ => h.clear
  · exact h.downloadCancelProcess
  · exact h.downloadSuccessProcess
  · exact h.pure

theorem downloadStep {env : Surroundings} {step : FirmwareStep} {mode : FirmwareDownloadMode} :
    Keeps I C (FirmwareProgram.FirmwareDownloadMode.getNextStep env step mode) := by
  unfold FirmwareProgram.FirmwareDownloadMode.getNextStep
  split
  · unfold FirmwareProgram.FirmwareDownloadMode.getStepAfterInit
    refine .bind h.read fun _ => .bind h.read fun _ => ?_
    exact .ite h.pure (.ite h.pure (.ite h.pure (.ite h.pure (.ite h.pure h.pure))))
  · exact .bind h.getStepAfterDownload fun _ => h.pure
  · exact h.pure

theorem getDownloadDataProcessor {mode : FirmwareAutoUpgradeMode} :
    Keeps I C (FirmwareProgram.FirmwareAutoUpgradeMode.getDownloadDataProcessor mode) := by
  unfold FirmwareProgram.FirmwareAutoUpgradeMode.getDownloadDataProcessor
  split
  exacts [h.read, h.pure]

theorem autoUpgradeStep {env : Surroundings} {step : FirmwareStep} {mode : FirmwareAutoUpgradeMode} :
    Keeps I C (FirmwareProgram.FirmwareAutoUpgradeMode.getNextStep env step mode) := by
  have hsave : Keeps I C (FirmwarePreferencesUtil.save fun p => { p with needRetryCheck := true }) :=
    h.save fun _ => rfl
  unfold FirmwareProgram.FirmwareAutoUpgradeMode.getNextStep
  split
  · unfold FirmwareProgram.FirmwareAutoUpgradeMode.getStepAfterInit
    refine .ite (.bind hsave fun _ => h.pure) (.bind h.read fun _ => .ite h.pure (.bind h.read fun _ => ?_))
    exact .ite h.pure h.pure
  · unfold FirmwareProgram.FirmwareAutoUpgradeMode.getStepAfterCheck
    refine .ite (.bind hsave fun _ => h.pure) (.bind h.read fun _ => .ite ?_ ?_)
    · exact .bind h.read fun _ => .bind (h.when fun _ => h.notifyEvent (by decide)) fun _ => h.pure
    · unfold FirmwareProgram.FirmwareAutoUpgradeMode.handlePreDownloadStep
      refine .bind h.read fun _ => .ite h.pure (.ite (.bind h.downloadSuccessProcess fun _ => h.pure) ?_)
      refine .ite h.pure (.ite h.pure (.bind h.getDownloadDataProcessor fun _ => .bind h.read fun _ => ?_))
      exact .ite h.pure h.pure
  · exact .bind h.getDownloadDataProcessor fun _ => .bind h.getStepAfterDownload fun _ => h.pure
  · exact h.pure

/-! ### The install -/

theorem hasStatus {status : UpgradeStatus} {mode : FirmwareInstallMode} :
    Keeps I C (FirmwareInstallDataProcessor.hasStatus status mode) :=
  .bind h.read fun _ => h.pure

theorem setInstallResult {info : InstallCallbackInfo} {mode : FirmwareInstallMode}
    (hs : info.progress.status ≠ .updateSuccess) :
    Keeps I C (FirmwareInstallDataProcessor.setInstallResult info mode) := by
  unfold FirmwareInstallDataProcessor.setInstallResult
  refine .bind h.queryTaskOnce fun _ => .ite (.bind (h.notifyEvent (by decide)) fun _ => h.pure) ?_
  refine .bind (h.when fun _ => h.notifyEvent (by decide)) fun _ => ?_
  exact .bind (h.progressCallback hs) fun _ => h.pure

theorem getStepAfterInstall {env : Surroundings} {mode : FirmwareInstallMode} :
    Keeps I C (FirmwareInstallApplyMode.getStepAfterInstall env mode) := by
  unfold FirmwareInstallApplyMode.getStepAfterInstall
  refine .bind h.hasStatus fun x => .bind (h.when fun _ => .bind (h.after env _) fun _ => h.clear) fun _ => ?_
  exact .bind h.hasStatus fun _ => h.pure

theorem getStepAfterStreamInstall {mode : FirmwareInstallMode} :
    Keeps I C (FirmwareStreamInstallApplyMode.getStepAfterInstall mode) := by
  unfold FirmwareStreamInstallApplyMode.getStepAfterInstall
  exact .bind h.hasStatus fun _ => .bind (h.when fun _ => h.clear) fun _ => .bind h.hasStatus fun _ => h.pure

/-! ### The flows -/

theorem getNextStep {env : Surroundings} {step : FirmwareStep} {mode : FirmwareExecuteMode} (hs : step ≠ .init) :
    Keeps I C (FirmwareProgram.FirmwareExecuteMode.getNextStep env step mode) := by
  cases mode with
  | manualCheck mode => exact .bind h.manualCheckStep fun _ => h.pure
  | autoUpgrade mode => exact .bind h.autoUpgradeStep fun _ => h.pure
  | download mode => exact .bind h.downloadStep fun _ => h.pure
  | installApply mode =>
    refine .bind ?_ fun _ => h.pure
    unfold FirmwareInstallApplyMode.getNextStep
    split
    exacts [absurd rfl hs, h.getStepAfterInstall, h.pure]
  | streamInstallApply mode =>
    refine .bind ?_ fun _ => h.pure
    unfold FirmwareStreamInstallApplyMode.getNextStep
    split
    exacts [absurd rfl hs, h.getStepAfterStreamInstall, h.pure]

theorem handleComplete {calculateHashCode : String → String} {env : Surroundings} {mode : FirmwareExecuteMode} :
    Keeps I C (FirmwareProgram.FirmwareExecuteMode.handleComplete calculateHashCode env mode) := by
  cases mode with
  | manualCheck mode => exact .bind h.buildCheckResult fun _ => h.pure
  | _ => exact h.pure

theorem executeExecutor {env : Surroundings} {executor : Option FirmwareExecutor} :
    Keeps I C (FirmwareProgram.FirmwareFlowManager.executeExecutor env executor) := by
  unfold FirmwareProgram.FirmwareFlowManager.executeExecutor
  split
  exacts [.bind h.read fun _ => h.write trivial, h.pure]

variable {calculateHashCode : String → String} {env : Surroundings} {flow : FirmwareFlowManager}

theorem execute_of
    (hn : Keeps I C (FirmwareProgram.FirmwareExecuteMode.getNextStep env flow.nextStep flow.executeMode)) :
    Keeps I C (FirmwareProgram.FirmwareFlowManager.execute calculateHashCode env flow) := by
  unfold FirmwareProgram.FirmwareFlowManager.execute
  refine .bind hn fun _ => .ite (.bind h.handleComplete fun _ => h.pure) ?_
  exact .bind h.executeExecutor fun _ => h.pure

theorem execute (hf : flow.nextStep ≠ .init) :
    Keeps I C (FirmwareProgram.FirmwareFlowManager.execute calculateHashCode env flow) :=
  h.execute_of (h.getNextStep hf)

/-- An answer of the server, where the tables of a new version lead to `I'` from `I`. -/
theorem doCheck {p : JsonPlatform} {content : Option String} {I' C' : FirmwareDevice → Prop}
    (h' : FirmwareRules A I' C') (hI : ∀ d, I d → I' d) (hC : ∀ d, C d → C' d) (hf : flow.nextStep ≠ .init)
    (hnew : ∀ q : FirmwareCheckDataProcessor, q.componentList = (checkComponents p content).2 → q.componentList ≠ [] →
      Triple I (FirmwareProgram.FirmwareCheckDataProcessor.handleNewVersion calculateHashCode q) (fun _ => I') C') :
    Triple I (FirmwareProgram.doCheck p calculateHashCode env content flow) (fun _ => I') C' := by
  have hle : ∀ {β : Type} {m : FirmwareProgram β}, Keeps I C m → Triple I m (fun _ => I') C' := fun hm =>
    hm.conseq (fun _ hd => hd) (fun _ => hI) hC
  have hset : ∀ q, Triple I (FirmwareProgram.FirmwareCheckDataProcessor.setCheckResult calculateHashCode
      (checkComponents p content).1 (checkComponents p content).2 q) (fun _ => I') C' := by
    intro q
    unfold FirmwareProgram.FirmwareCheckDataProcessor.setCheckResult
    refine .ite (fun _ => hle h.pure) fun _ => .bind (Q := fun _ => I) ?_ fun _ => ?_
    · exact h.read.conseq (fun _ hd => hd) (fun _ _ hd => hd) hC
    · refine .ite (fun _ => hle h.pure) fun _ => .ite (fun hne => hnew _ rfl hne) fun _ => ?_
      exact hle (.bind h.handleNoNewVersion fun _ => h.pure)
  unfold FirmwareProgram.doCheck
  refine .bind (Q := fun _ => I) (h.read.conseq (fun _ hd => hd) (fun _ _ hd => hd) hC) fun cache => ?_
  refine .bind (Q := fun _ => I) ((h.write (w := .statusCache _) trivial).conseq (fun _ hd => hd) (fun _ _ hd => hd) hC)
    fun _ => ?_
  refine .bind (Q := fun _ => I') ?_ fun mode => h'.execute hf
  unfold FirmwareProgram.FirmwareExecuteMode.setCheckResult
  split
  · exact .bind (hset _) fun _ => h'.pure
  · exact .bind (hset _) fun _ => h'.pure
  · exact hle h.pure

theorem onDownloadCallback {callbackInfo : FirmwareDownloadCallbackInfo} (hf : flow.nextStep ≠ .init)
    (hA : A callbackInfo.taskProgress.status) (hs : callbackInfo.taskProgress.status ≠ .updateSuccess) :
    Keeps I C (FirmwareProgram.FirmwareFlowManager.onDownloadCallback calculateHashCode env callbackInfo flow) := by
  unfold FirmwareProgram.FirmwareFlowManager.onDownloadCallback
  refine .bind ?_ fun _ => .ite (h.execute hf) h.pure
  unfold FirmwareProgram.FirmwareExecuteMode.setDownloadCallbackInfo
  split
  · exact .bind h.getDownloadDataProcessor fun _ => .bind (h.setDownloadCallbackInfo hA hs) fun _ => h.pure
  · exact .bind (h.setDownloadCallbackInfo hA hs) fun _ => h.pure
  · exact h.pure

/-- The statuses of a download that has begun. -/
theorem upgradeStatus (hA : A .downloading) (status : DownloadStatus) :
    A (UpdateService.FirmwareDownloadExecutor.upgradeStatus status) := by
  cases status <;> first | exact hA | exact h.rest _ (by decide) (by decide) (by decide)

omit h in
theorem callbackProgress_status (taskId : String) (progressInfo : ProgressInfo) :
    (UpdateService.FirmwareDownloadExecutor.callbackProgress taskId progressInfo).taskProgress.status ≠
      .updateSuccess := by
  have hne : ∀ status, UpdateService.FirmwareDownloadExecutor.upgradeStatus status ≠ .updateSuccess := by
    intro status
    cases status <;> decide
  exact hne progressInfo.taskStatus

theorem onDownloadEventCallback {downloadTaskId : String} {eventId : EventId} (hA : A .downloading) :
    Keeps I C (FirmwareProgram.FirmwareFlowManager.onDownloadEventCallback downloadTaskId eventId flow) := by
  refine .bind ?_ fun _ => h.pure
  unfold FirmwareProgram.FirmwareExecuteMode.setDownloadEvent
  split
  · exact .bind h.getDownloadDataProcessor fun _ => .bind (h.setDownloadEvent hA) fun _ => h.pure
  · exact .bind (h.setDownloadEvent hA) fun _ => h.pure
  · exact h.pure

theorem onDownloadFail {e : DownloadError} (hf : flow.nextStep ≠ .init) :
    Keeps I C (FirmwareProgram.FirmwareFlowManager.onDownloadCallback calculateHashCode env
      (UpdateService.FirmwareDownloadExecutor.callbackDownloadFailProgress e) flow) :=
  h.onDownloadCallback hf (h.rest _ (by decide) (by decide) (by decide) : A .downloadFail)
    (by decide : UpgradeStatus.downloadFail ≠ .updateSuccess)

theorem performDownload {downloadOptions : DownloadOptions} {components : List FirmwareComponent}
    (hf : flow.nextStep ≠ .init) (hA : A .downloading) :
    Keeps I C (FirmwareProgram.FirmwareDownloadExecutor.performDownload calculateHashCode env downloadOptions components
      flow) := by
  unfold FirmwareProgram.FirmwareDownloadExecutor.performDownload
  refine .ite h.pure (.bind_answer (h.onDownloadEventCallback hA) fun _ => .bind ?_ fun _ => ?_)
  · exact .bind h.read fun _ => .bind (h.write trivial) fun _ => h.pure
  · exact .ite (h.onDownloadFail hf) h.pure

theorem performResumeDownload {downloadOptions : DownloadOptions} {components : List FirmwareComponent}
    {downloadTaskId : String} (hf : flow.nextStep ≠ .init) (hA : A .downloading) :
    Keeps I C (FirmwareProgram.FirmwareDownloadExecutor.performResumeDownload calculateHashCode env downloadOptions
      components downloadTaskId flow) := by
  unfold FirmwareProgram.FirmwareDownloadExecutor.performResumeDownload
  have hreport : ∀ (progressInfo : ProgressInfo) (flow : FirmwareFlowManager), flow.nextStep ≠ .init →
      Keeps I C (FirmwareProgram.FirmwareFlowManager.onDownloadCallback calculateHashCode env
        (UpdateService.FirmwareDownloadExecutor.callbackProgress downloadTaskId progressInfo) flow) :=
    fun progressInfo _ hf => h.onDownloadCallback hf (h.upgradeStatus hA _) (callbackProgress_status _ progressInfo)
  refine .bind (.bind h.read fun _ => ?_) fun x => ?_
  · split
    · exact h.pure
    · split
      exacts [h.pure, .bind (h.write trivial) fun _ => h.pure]
  · refine .ite (.ite (h.performDownload hf hA) (h.onDownloadFail hf)) (.ite (hreport _ flow hf) ?_)
    refine .ite (h.onDownloadFail hf) (.bind_answer (h.onDownloadEventCallback hA) fun _ => .bind ?_ fun _ => ?_)
    · exact .bind h.read fun _ => .bind (h.write trivial) fun _ => h.pure
    · exact .ite h.pure (.ite (hreport _ _ hf) (h.onDownloadFail hf))

theorem doDownload {downloadOptions : DownloadOptions} (hf : flow.nextStep ≠ .init) (hA : A .downloading) :
    Keeps I C (FirmwareProgram.FirmwareDownloadExecutor.doDownload calculateHashCode env downloadOptions flow) := by
  unfold FirmwareProgram.FirmwareDownloadExecutor.doDownload
  refine .bind h.read fun _ => .ite h.pure (.bind h.read fun _ => .ite ?_ ?_)
  · exact .bind (h.performDownload hf hA) fun _ => h.pure
  · exact .bind (h.performResumeDownload hf hA) fun _ => h.pure

theorem onInstallCallback {info : InstallCallbackInfo} (hf : flow.nextStep ≠ .init)
    (hs : info.progress.status ≠ .updateSuccess) :
    Keeps I C (FirmwareProgram.FirmwareFlowManager.onInstallCallback calculateHashCode env info flow) := by
  unfold FirmwareProgram.FirmwareFlowManager.onInstallCallback
  refine .bind ?_ fun _ => .ite (h.execute hf) h.pure
  unfold FirmwareProgram.FirmwareExecuteMode.setInstallResult
  split
  · exact .bind (h.setInstallResult hs) fun _ => h.pure
  · exact .bind (h.setInstallResult hs) fun _ => h.pure
  · exact h.pure

theorem startStatus (hi : A .installing) (hu : A .updating) (installType : InstallType) :
    A (UpdateService.FirmwareInstallExecutor.startStatus installType) := by
  cases installType <;> first | exact hi | exact hu | exact h.rest _ (by decide) (by decide) (by decide)

theorem doInstall {executor : FirmwareInstallExecutor} (hf : flow.nextStep ≠ .init) (hi : A .installing)
    (hu : A .updating) :
    Keeps I C (FirmwareProgram.FirmwareInstallExecutor.doInstall calculateHashCode env executor flow) := by
  unfold FirmwareProgram.FirmwareInstallExecutor.doInstall
  have hs : UpdateService.FirmwareInstallExecutor.noTaskStatus executor.installType ≠ .updateSuccess := by
    cases executor.installType <;> decide
  refine .bind h.read fun _ => .ite (h.onInstallCallback hf hs) (.bind h.queryTaskOnce fun _ => ?_)
  exact .bind (h.write (h.startStatus hi hu _)) fun _ => .bind (h.forEach fun _ _ => h.write trivial) fun _ => h.pure

theorem handleInstallProgress {component : FirmwareComponent} {executor : FirmwareInstallExecutor}
    (hf : flow.nextStep ≠ .init) (hi : A .installing) :
    Keeps I C (FirmwareProgram.FirmwareInstallExecutor.handleInstallProgress calculateHashCode env component executor
      flow) := by
  unfold FirmwareProgram.FirmwareInstallExecutor.handleInstallProgress
  have hs : UpgradeStatus.installing ≠ .updateSuccess := by decide
  refine .bind (h.write trivial) fun _ => .bind (h.write ?_) fun _ => h.onInstallCallback hf hs
  split
  exacts [trivial, hi]

theorem resultStatus (installType : InstallType) (isSuccess : Bool) (status : UpgradeStatus) :
    A (UpdateService.FirmwareInstallExecutor.resultStatus installType isSuccess status) ∧
      UpdateService.FirmwareInstallExecutor.resultStatus installType isSuccess status ≠ .updateSuccess := by
  have hrest : ∀ {s : UpgradeStatus}, s = .installSuccess ∨ s = .installFail ∨ s = .installPause ∨ s = .updateFail →
      A s ∧ s ≠ .updateSuccess := by
    rintro s (rfl | rfl | rfl | rfl) <;> exact ⟨h.rest _ (by decide) (by decide) (by decide), by decide⟩
  refine hrest ?_
  unfold UpdateService.FirmwareInstallExecutor.resultStatus
  split
  · exact .inl rfl
  · cases installType with
    | streamInstaller => dsimp only; split <;> simp
    | _ => simp

theorem handleInstallResult {isSuccess : Bool} {errMsg : ErrorMessage} {status : UpgradeStatus}
    {executor : FirmwareInstallExecutor} (hf : flow.nextStep ≠ .init) :
    Keeps I C (FirmwareProgram.FirmwareInstallExecutor.handleInstallResult calculateHashCode env isSuccess errMsg status
      executor flow) := by
  unfold FirmwareProgram.FirmwareInstallExecutor.handleInstallResult
  refine .bind (h.write (h.resultStatus _ _ _).1) fun _ => h.onInstallCallback hf (h.resultStatus _ _ _).2

theorem doApply (hf : flow.nextStep ≠ .init) : Keeps I C (FirmwareProgram.doApply calculateHashCode env flow) :=
  .bind h.read fun _ => .ite (h.execute hf) h.pure

/-! ### Requests and events -/

/-- A flow that is not for an install may be begun. -/
theorem start {mode : FirmwareExecuteMode} (hm : ∀ m, mode ≠ .installApply m ∧ mode ≠ .streamInstallApply m) :
    Keeps I C (FirmwareProgram.FirmwareFlowManager.start calculateHashCode env mode) := by
  refine h.execute_of ?_
  cases mode with
  | manualCheck mode => exact .bind h.manualCheckStep fun _ => h.pure
  | autoUpgrade mode => exact .bind h.autoUpgradeStep fun _ => h.pure
  | download mode => exact .bind h.downloadStep fun _ => h.pure
  | installApply mode => exact absurd rfl (hm mode).1
  | streamInstallApply mode => exact absurd rfl (hm mode).2

theorem requestDownload {downloadOptions : DownloadOptions} {e : BusinessError} :
    Keeps I C (FirmwareProgram.FirmwareManager.doDownload calculateHashCode env downloadOptions e) :=
  .bind h.read fun _ => h.start fun _ => ⟨FirmwareExecuteMode.noConfusion, FirmwareExecuteMode.noConfusion⟩

theorem resetTask {task : FirmwareTaskRow} : Keeps I C (FirmwareProgram.FirmwareManager.resetTask task) := by
  unfold FirmwareProgram.FirmwareManager.resetTask
  refine .bind (h.write h.rest_checkVersionSuccess) fun _ => .bind h.read fun _ => ?_
  exact .bind (h.forEach fun _ _ => h.write trivial) fun _ => h.removeTask

theorem cancel : Keeps I C (FirmwareProgram.UpdateServiceImplFirmware.cancel env) := by
  unfold FirmwareProgram.UpdateServiceImplFirmware.cancel FirmwareProgram.FirmwareManager.doCancel
  refine .bind h.read fun _ => .bind h.read fun _ => .ite h.pure (.bind h.read fun _ => ?_)
  refine .ite h.pure (.ite h.pure (.ite ?_ (.bind h.resetTask fun _ => h.pure)))
  refine .bind (.bind h.read fun _ => .bind (h.write trivial) fun _ => h.pure) fun _ => ?_
  exact .bind h.resetTask fun _ => h.pure

theorem clearError {e : BusinessError} : Keeps I C (FirmwareProgram.FirmwareManager.doClearError e) :=
  .bind h.read fun _ => .ite h.pure (.ite h.pure (.bind h.clear fun _ => h.pure))

theorem setUpgradePolicy {downloadStrategy autoUpgradeStrategy : Bool} :
    Keeps I C (FirmwareProgram.UpdateServiceImplFirmware.setUpgradePolicy downloadStrategy autoUpgradeStrategy) := by
  unfold FirmwareProgram.UpdateServiceImplFirmware.setUpgradePolicy
    FirmwareProgram.FirmwareManager.doAutoUpgradeSwitchChanged
    FirmwareProgram.FirmwareManager.doAutoDownloadSwitchChanged
  refine .bind h.read fun _ => .bind (h.when fun _ => ?_) fun _ => h.when fun _ => ?_
  · refine .bind (h.save fun _ => rfl) fun _ => .bind h.read fun _ => h.when fun _ => .ite (h.write trivial) ?_
    exact h.when fun _ => .bind (h.notifyEvent (by decide)) fun _ => h.write trivial
  · refine .bind (h.save fun _ => rfl) fun _ => .bind h.read fun _ => h.when fun _ => h.notifyEvent (by decide)

theorem download {now now' : Int} {downloadOptions : DownloadOptions} :
    Keeps I C (FirmwareProgram.UpdateServiceImplFirmware.download calculateHashCode env now now' downloadOptions) := by
  unfold FirmwareProgram.UpdateServiceImplFirmware.download
  refine .bind h.read fun _ => .bind (h.write trivial) fun _ => .bind h.read fun _ => ?_
  split
  · exact h.pure
  · exact .bind h.read fun _ => .bind (h.write trivial) fun _ => h.requestDownload

theorem resumeDownload {allowNetwork : NetType} :
    Keeps I C (FirmwareProgram.UpdateServiceImplFirmware.resumeDownload calculateHashCode env allowNetwork) := by
  unfold FirmwareProgram.UpdateServiceImplFirmware.resumeDownload
  refine .bind h.read fun _ => ?_
  split
  · exact h.pure
  · exact .bind h.read fun _ => .bind (h.write trivial) fun _ => h.requestDownload

theorem handleNetChanged : Keeps I C (FirmwareProgram.FirmwareEventManager.handleNetChanged calculateHashCode env) := by
  unfold FirmwareProgram.FirmwareEventManager.handleNetChanged
  refine .bind h.read fun _ => .bind h.read fun _ => .ite h.pure (.ite h.pure (.ite h.requestDownload ?_))
  exact .ite (.ite h.requestDownload h.pure) h.pure

theorem doAutoUpgrade : Keeps I C (FirmwareProgram.FirmwareEventManager.doAutoUpgrade calculateHashCode env) :=
  .bind h.read fun _ => .ite h.pure
    (h.start fun _ => ⟨FirmwareExecuteMode.noConfusion, FirmwareExecuteMode.noConfusion⟩)

theorem notifyInitEvent : Keeps I C FirmwareProgram.FirmwareManager.notifyInitEvent := by
  unfold FirmwareProgram.FirmwareManager.notifyInitEvent
  exact .bind h.read fun _ => h.when fun _ => .bind (h.save fun _ => rfl) fun _ => h.notifyEvent (by decide)

/-- A failure is told with the table that is then cleared. -/
theorem handleBootUpdateFail {task : FirmwareTaskRow} {resultMap : ResultMap} :
    Keeps I C (FirmwareEventManager.handleBootUpdateFail task resultMap) := by
  unfold FirmwareEventManager.handleBootUpdateFail
  refine .bind (h.save fun _ => rfl) fun _ => .bind h.read fun _ => ?_
  exact .bind (h.notifyEvent (by decide)) fun _ => h.clear

/-- A success is reported to the application before the tables are cleared. -/
theorem handleBootComplete (hs : ∀ task, Keeps I C (FirmwareEventManager.handleBootUpdateSuccess task)) :
    Keeps I C (FirmwareEventManager.handleBootComplete env) := by
  refine .bind h.read fun task => .ite h.pure (.ite ?_ (.ite ?_ h.pure))
  · refine .bind (h.after env task) fun _ => .bind h.read fun _ => ?_
    split
    · exact h.pure
    · exact .bind (hs task) fun _ => h.pure
    · exact .bind h.handleBootUpdateFail fun _ => h.pure
    · exact h.pure
  · exact .bind (h.after env task) fun _ => .bind (hs task) fun _ => h.pure

/-! ### An install that is begun -/

section Install
variable {I' : FirmwareDevice → Prop} {T : FirmwareTaskRow → Prop} (h' : FirmwareRules A I' C) (hI : ∀ d, I d → I' d)
  (hT : ∀ d, I d → T (FirmwareTaskRow.queryTask d.taskTable))
  (hb : ∀ task, T task → Triple I (FirmwareUpgradeProcessor.processBeforeUpgrade env task) (fun _ => I') C)
include h' hI hT hb

/-- The bell is asked about the task of the table. -/
theorem installApplyStep {mode : FirmwareInstallMode} (hm : mode.tasks = {}) :
    Triple I (FirmwareInstallApplyMode.getStepAfterInit env mode) (fun _ => I') C := by
  have hkeep : ∀ {α : Type} {x : α × FirmwareInstallMode}, T x.2.tasks →
      Triple I (Pure.pure x : FirmwareProgram _) (fun x d => I d ∧ T x.2.tasks) C :=
    fun hx => .pure fun d hd => ⟨⟨hd, hx⟩, h.le d hd⟩
  have hfor : ∀ mode : FirmwareInstallMode, T mode.tasks →
      Triple I (FirmwareInstallApplyMode.getStepForInstallAndApplyOrder env mode) (fun x d => I d ∧ T x.2.tasks) C := by
    intro mode hmode
    refine .ite (fun _ => hkeep hmode) fun _ => .bind (Q := fun x d => I d ∧ T x.2.tasks) (.bind h.read fun _ => ?_) ?_
    · refine .ite (fun _ => hkeep hmode) fun _ => .ite (fun _ => hkeep hmode) fun _ => ?_
      exact .ite (fun _ => hkeep hmode) fun _ => hkeep hmode
    · rintro ⟨isAllow, mode⟩
      refine .assume fun hmode => .ite (fun _ => hkeep hmode) fun _ => .bind (Q := fun x d => I d ∧ T x.2.tasks)
        (.bind h.read fun _ => ?_) fun y => .assume fun hy => hkeep hy
      exact .ite (fun _ => hkeep hmode) fun _ => .bind h.clear fun _ => hkeep hmode
  refine .bind (Q := fun mode d => I d ∧ T mode.tasks) ?_ fun mode => .assume fun hmode => ?_
  · unfold FirmwareInstallApplyMode.getTask FirmwareProgram.FirmwareTaskOperator.queryTaskOnce
    rw [hm, if_neg (by decide)]
    refine .bind (Q := fun task d => I d ∧ T task) (.read fun d hd => ⟨⟨hd, ?_⟩, h.le d hd⟩) fun task =>
      .assume fun ht => .pure fun d hd => ⟨⟨hd, ht⟩, h.le d hd⟩
    have ht := hT d hd
    split
    · rename_i he
      rwa [he] at ht
    · exact ht
  · refine .ite (fun _ => h.pure.weaken hI) fun _ => .ite (fun _ => .bind (hfor mode hmode) fun x => ?_) fun _ => ?_
    · refine .assume fun hx => .bind (.ite (fun _ => hb _ hx) fun _ => h.pure.weaken hI) fun _ => h'.pure
    · exact .ite (fun _ => h.pure.weaken hI) fun _ => h.pure.weaken hI

theorem requestInstall {upgradeOptions : UpgradeOptions} {e : BusinessError} {installType : InstallType} :
    Triple I (FirmwareProgram.FirmwareManager.doInstall calculateHashCode env upgradeOptions e installType)
      (fun _ => I') C := by
  have hget : ∀ mode, Keeps I C (FirmwareInstallApplyMode.getTask mode) := fun mode =>
    .bind h.queryTaskOnce fun _ => h.pure
  have hstart : ∀ mode : FirmwareExecuteMode,
      Triple I (FirmwareProgram.FirmwareExecuteMode.getNextStep env .init mode) (fun _ => I') C →
      Triple I (FirmwareProgram.FirmwareFlowManager.start calculateHashCode env mode) (fun _ => I') C := fun mode hn =>
    .bind hn fun _ => .ite (fun _ => .bind h'.handleComplete fun _ => h'.pure)
      fun _ => .bind h'.executeExecutor fun _ => h'.pure
  unfold FirmwareProgram.FirmwareManager.doInstall
  refine .bind (.bind h.read fun _ => .bind (.bind h.read fun _ => h.pure) fun _ => h.pure) fun _ =>
    .ite (fun _ => h.pure.weaken hI) fun _ => .bind h.read fun isStreamUpgrade => hstart _ ?_
  cases isStreamUpgrade with
  | true =>
    refine Keeps.weaken (.bind (.bind (hget _) fun _ => .ite h.pure (.ite h.pure (.ite h.pure h.pure)))
      fun _ => h.pure) hI
  | false => exact .bind (h.installApplyStep h' hI hT hb rfl) fun _ => h'.pure

theorem restoreUpdate :
    Triple I (FirmwareProgram.FirmwareManager.restoreUpdate calculateHashCode env) (fun _ => I') C := by
  unfold FirmwareProgram.FirmwareManager.restoreUpdate
  refine .bind h.read fun _ => ?_
  split
  · exact Keeps.weaken (.bind (h.write (h.rest _ (by decide) (by decide) (by decide))) fun _ => h.pure) hI
  · exact Keeps.weaken (.bind h.read fun _ => .bind (h.when fun _ => h.write trivial) fun _ => h.pure) hI
  · unfold FirmwareProgram.FirmwareManager.handleBootInstallOnStatusProcess
    refine .bind h.read fun isStreamUpgrade => .bind (h.write ?_) fun _ => .bind h.read fun _ => ?_
    · split <;> exact h.rest _ (by decide) (by decide) (by decide)
    · refine .bind (h.forEach fun _ _ => h.when fun _ => h.write ?_) fun _ => ?_
      · split <;> trivial
      · exact .bind (.bind h.read fun _ => h.pure) fun _ => h.requestInstall h' hI hT hb
  · exact h.pure.weaken hI

/-- The night alarm, where the task may be made one of the night. -/
theorem handleNightUpgrade
    (hn : ∀ taskId d, I d → I (Store.apply d (DeviceWrite.updateUpgradeModeByTaskId taskId .night))) :
    Triple I (FirmwareProgram.FirmwareEventManager.handleNightUpgrade calculateHashCode env) (fun _ => I') C := by
  unfold FirmwareProgram.FirmwareEventManager.handleNightUpgrade
  refine .bind (h.write (w := .nightUpgradeAlarm false) trivial) fun _ => .bind h.read fun _ =>
    .bind h.read fun task => ?_
  refine .ite (fun _ => h.pure.weaken hI) fun _ => .ite (fun _ => h.pure.weaken hI) fun _ => ?_
  refine .ite (fun _ => h.pure.weaken hI) fun _ =>
    .bind (Q := fun _ => I) (Keeps.write h.le (hn task.taskId)) fun _ => ?_
  exact .bind (Keeps.bind h.read fun _ => h.pure) fun _ => h.requestInstall h' hI hT hb

/-- A request for an install, which makes the task one of the day. -/
theorem upgrade {J : FirmwareDevice → Prop} (hj : FirmwareRules A J C) (hJ : ∀ d, J d → I' d) {now now' : Int}
    {upgradeOptions : UpgradeOptions}
    (hm : ∀ d, J d → I (Store.apply d
      (DeviceWrite.updateUpgradeModeByTaskId (FirmwareTaskRow.queryTask d.taskTable).taskId .manual))) :
    Triple J (FirmwareProgram.UpdateServiceImplFirmware.upgrade calculateHashCode env now now' upgradeOptions)
      (fun _ => I') C := by
  unfold FirmwareProgram.UpdateServiceImplFirmware.upgrade
  refine .bind hj.read fun _ => .bind (hj.write (w := .statusCache _) trivial) fun _ =>
    .ite (fun _ => hj.pure.weaken hJ)
    fun _ => .bind (Q := fun task d => J d ∧ task = FirmwareTaskRow.queryTask d.taskTable) ?_ fun task => ?_
  · exact .read fun d hd => ⟨⟨hd, rfl⟩, hj.le d hd⟩
  · refine .bind (Q := fun _ => I) (.write (fun d hd => hj.le d hd.1) fun d hd => ?_) fun _ => ?_
    · obtain ⟨hd, rfl⟩ := hd
      exact ⟨hm d hd, h.le _ (hm d hd)⟩
    · exact .bind (Keeps.bind h.read fun _ => h.pure) fun _ => h.requestInstall h' hI hT hb

end Install

end FirmwareRules

end UpdateService
