import UpdateService.FirmwareService
import UpdateService.FirmwareSystem

/-!
# What the programs do to the tables

`Firmware` has the two tables and the download manager, and its operations are functions. A program over the device
that runs to its end does to them what the operation does, whatever else it writes.
-/

namespace UpdateService
open Program

theorem map_updateTaskByTaskId (taskId : String) (f : FirmwareTask → FirmwareTask) (table : List FirmwareTaskRow) :
    (FirmwareTaskRow.updateTaskByTaskId taskId f table).map (·.toFirmwareTask) =
      FirmwareTaskOperator.updateByTaskId taskId f (table.map (·.toFirmwareTask)) := by
  unfold FirmwareTaskRow.updateTaskByTaskId FirmwareTaskRow.updateByTaskId FirmwareTaskOperator.updateByTaskId
    List.updateWhere
  rw [List.map_map, List.map_map]
  refine List.map_congr_left fun task _ => ?_
  simp only [Function.comp_apply]
  split <;> rfl

namespace FirmwareDevice
variable {d : FirmwareDevice}

theorem toFirmwareTask_queryTask :
    (FirmwareTaskRow.queryTask d.taskTable).toFirmwareTask = FirmwareTaskOperator.queryTask d.toFirmware.taskTable := by
  unfold toFirmware
  cases d.taskTable <;> rfl

theorem toFirmware_update (taskId : String) (f : FirmwareTask → FirmwareTask) :
    toFirmware { d with taskTable := FirmwareTaskRow.updateTaskByTaskId taskId f d.taskTable } =
      { d.toFirmware with taskTable := FirmwareTaskOperator.updateByTaskId taskId f d.toFirmware.taskTable } := by
  simp only [toFirmware, map_updateTaskByTaskId]

@[simp] theorem toFirmware_updateProgressByTaskId (taskId : String) (status : UpgradeStatus) (progress : Int) :
    (Store.apply d (DeviceWrite.updateProgressByTaskId taskId status progress)).toFirmware =
      { d.toFirmware with
        taskTable := FirmwareTaskOperator.updateProgressByTaskId taskId status progress d.toFirmware.taskTable } :=
  toFirmware_update taskId fun task => { task with status, progress }

@[simp] theorem toFirmware_updateStatusByTaskId (taskId : String) (status : UpgradeStatus) :
    (Store.apply d (DeviceWrite.updateStatusByTaskId taskId status)).toFirmware =
      { d.toFirmware with
        taskTable := FirmwareTaskOperator.updateStatusByTaskId taskId status d.toFirmware.taskTable } :=
  toFirmware_update taskId fun task => { task with status }

@[simp] theorem toFirmware_updateDownloadTaskIdByTaskId (taskId downloadTaskId : String) :
    (Store.apply d (DeviceWrite.updateDownloadTaskIdByTaskId taskId downloadTaskId)).toFirmware =
      { d.toFirmware with
        taskTable := FirmwareTaskOperator.updateDownloadTaskIdByTaskId taskId downloadTaskId d.toFirmware.taskTable } :=
  toFirmware_update taskId fun task => { task with downloadTaskId }

theorem toFirmware_insertTask (task : FirmwareTaskRow) :
    (Store.apply d (DeviceWrite.insertTask task)).toFirmware =
      { d.toFirmware with taskTable := d.toFirmware.taskTable ++ [task.toFirmwareTask] } :=
  congrArg (fun taskTable => Firmware.mk taskTable d.componentTable d.downloads) List.map_append

/-- Writes to the components, one after the other. -/
theorem toFirmware_foldl {α : Type} {f : α → FirmwareProgram Unit}
    {g : List FirmwareComponent → α → List FirmwareComponent}
    (hf : ∀ (d : FirmwareDevice) (a : α), ((f a).final d).toFirmware =
      { d.toFirmware with componentTable := g d.toFirmware.componentTable a }) (l : List α) :
    (l.foldl (fun d a => (f a).final d) d).toFirmware =
      { d.toFirmware with componentTable := l.foldl g d.toFirmware.componentTable } := by
  induction l generalizing d with
  | nil => rfl
  | cons a l ih =>
    rw [List.foldl_cons, ih, hf]
    rfl

theorem toFirmware_clearFirmwareInfo :
    (FirmwareProgram.FirmwareUpdateHelper.clearFirmwareInfo.final d).toFirmware =
      FirmwareUpdateHelper.clearFirmwareInfo d.toFirmware := by
  unfold FirmwareUpdateHelper.clearFirmwareInfo
  rw [← toFirmwareTask_queryTask]
  rfl

end FirmwareDevice

namespace FirmwareProgram
open FirmwareDevice
variable {d : FirmwareDevice} {calculateHashCode : String → String}

@[simp] theorem answer_queryTask :
    FirmwareTaskOperator.queryTask.answer d = FirmwareTaskRow.queryTask d.taskTable := rfl

@[simp] theorem final_queryTask : FirmwareTaskOperator.queryTask.final d = d := rfl

theorem toFirmware_updateFirmwareComponent (componentList : List FirmwareComponent) :
    ((FirmwareCheckDataProcessor.updateFirmwareComponent componentList).final d).toFirmware =
      UpdateService.FirmwareCheckDataProcessor.updateFirmwareComponent componentList d.toFirmware := by
  unfold FirmwareCheckDataProcessor.updateFirmwareComponent
    UpdateService.FirmwareCheckDataProcessor.updateFirmwareComponent
  rw [final_bind, final_ite, final_ite, final_pure, final_forEach, apply_ite toFirmware, apply_ite toFirmware,
    toFirmware_foldl (g := fun table c => FirmwareComponentOperator.updateUrlByVersionId c.versionId c.url table)
      fun _ _ => rfl, ← toFirmwareTask_queryTask]
  rfl

theorem toFirmware_handleNewVersion (q : FirmwareCheckDataProcessor) :
    ((FirmwareCheckDataProcessor.handleNewVersion calculateHashCode q).final d).toFirmware =
      UpdateService.FirmwareCheckDataProcessor.handleNewVersion calculateHashCode q.componentList d.toFirmware := by
  unfold FirmwareCheckDataProcessor.handleNewVersion UpdateService.FirmwareCheckDataProcessor.handleNewVersion
  rw [← toFirmware_clearFirmwareInfo, ← toFirmware_updateFirmwareComponent]
  rw [final_bind, final_ite, apply_ite toFirmware]
  refine if_congr Iff.rfl (congrArg toFirmware final_bind) ?_
  simp only [final_bind, final_pure, final_write, toFirmware_insertTask]
  rfl

/-- `SetCheckResult`. -/
theorem toFirmware_setCheckResult (status : CheckStatus) (componentList : List FirmwareComponent)
    (q : FirmwareCheckDataProcessor) :
    ((FirmwareCheckDataProcessor.setCheckResult calculateHashCode status componentList q).final d).toFirmware =
      UpdateService.FirmwareCheckDataProcessor.handleCheckResult calculateHashCode status
        componentList d.toFirmware := by
  have hnone : (FirmwareCheckDataProcessor.handleNoNewVersion.final d).toFirmware =
      UpdateService.FirmwareUpdateHelper.clearFirmwareInfo d.toFirmware := by
    unfold FirmwareCheckDataProcessor.handleNoNewVersion
    rw [final_bind, final_bind, toFirmware_clearFirmwareInfo, final_when]
    split <;> rfl
  unfold FirmwareCheckDataProcessor.setCheckResult UpdateService.FirmwareCheckDataProcessor.handleCheckResult
  rw [final_ite, apply_ite toFirmware, final_bind, final_ite, apply_ite toFirmware, final_ite, apply_ite toFirmware,
    toFirmware_handleNewVersion, final_bind, final_pure, ← hnone]
  rfl

theorem toFirmware_removeTask (taskId : String) :
    ((DownloadTaskManager.removeTask taskId).final d).toFirmware =
      { d.toFirmware with downloads := (d.toFirmware.downloads.removeTask taskId).2 } := rfl

theorem toFirmware_resetTask (task : FirmwareTaskRow) :
    ((FirmwareManager.resetTask task).final d).toFirmware =
      UpdateService.FirmwareManager.resetTask task.toFirmwareTask d.toFirmware := by
  unfold FirmwareManager.resetTask
  rw [final_bind, final_bind, final_bind, final_forEach, toFirmware_removeTask,
    toFirmware_foldl (g := fun table c => FirmwareComponentOperator.updateProgressByVersionId c.versionId
      .checkVersionSuccess 0 table) fun _ _ => rfl]
  simp only [final_write, FirmwareComponentOperator.queryAll, final_read, answer_read,
    toFirmware_updateProgressByTaskId]
  rfl

/-- `FirmwareManager::DoCancel`. -/
theorem toFirmware_doCancel (env : Surroundings) (e : BusinessError) :
    (FirmwareManager.doCancel env e).answer d = (UpdateService.FirmwareManager.doCancel env.ended e d.toFirmware).1 ∧
      ((FirmwareManager.doCancel env e).final d).toFirmware =
        (UpdateService.FirmwareManager.doCancel env.ended e d.toFirmware).2 := by
  unfold FirmwareManager.doCancel UpdateService.FirmwareManager.doCancel
  rw [← toFirmwareTask_queryTask]
  rw [answer_bind, final_bind, answer_queryTask, final_queryTask]
  by_cases h₁ : !(FirmwareTaskRow.queryTask d.taskTable).isExistTask
  · rw [if_pos h₁, if_pos h₁]
    exact ⟨rfl, rfl⟩
  rw [if_neg h₁, if_neg h₁]
  by_cases h₂ : !UpdateService.FirmwareManager.isCancelable (FirmwareTaskRow.queryTask d.taskTable).status
  · rw [if_pos h₂, if_pos h₂]
    exact ⟨rfl, rfl⟩
  rw [if_neg h₂, if_neg h₂]
  by_cases h₃ : (FirmwareTaskRow.queryTask d.taskTable).status = .downloading
  · rw [if_pos h₃, if_pos h₃]
    refine ⟨rfl, ?_⟩
    rw [final_bind, final_bind, final_pure, toFirmware_resetTask]
    rfl
  · rw [if_neg h₃, if_neg h₃]
    exact ⟨rfl, by rw [final_bind, final_pure, toFirmware_resetTask]⟩

/-- `UpdateServiceImplFirmware::Cancel`. -/
theorem toFirmware_cancel (env : Surroundings) :
    (UpdateServiceImplFirmware.cancel env).answer d =
        (UpdateService.UpdateServiceImplFirmware.cancel env.ended d.toFirmware).1 ∧
      ((UpdateServiceImplFirmware.cancel env).final d).toFirmware =
        (UpdateService.UpdateServiceImplFirmware.cancel env.ended d.toFirmware).2 := by
  unfold UpdateServiceImplFirmware.cancel UpdateService.UpdateServiceImplFirmware.cancel
  rw [← toFirmwareTask_queryTask]
  have hstream : FirmwareUpdateHelper.isStreamUpgrade.answer d =
      UpdateService.FirmwareUpdateHelper.isStreamUpgrade d.toFirmware.componentTable := rfl
  have hfinal : FirmwareUpdateHelper.isStreamUpgrade.final d = d := rfl
  rw [answer_bind, final_bind, final_queryTask, answer_queryTask, answer_bind, final_bind, hfinal, hstream]
  cases UpdateService.FirmwareUpdateHelper.isStreamUpgrade d.toFirmware.componentTable with
  | true =>
    simp only [if_true]
    split
    · exact ⟨rfl, rfl⟩
    · exact toFirmware_doCancel env {}
  | false =>
    simp only [Bool.false_eq_true, if_false]
    split
    · exact ⟨rfl, rfl⟩
    · exact toFirmware_doCancel env {}

/-- The row that a data processor finds; of an empty table it has none to write to. -/
theorem getTask_cases (tasks : FirmwareTask) : d.toFirmware.taskTable = [] ∨
    (FirmwareDownloadDataProcessor.getTask tasks).answer d =
      UpdateService.FirmwareTaskOperator.queryTask d.toFirmware.taskTable := by
  rw [← toFirmwareTask_queryTask]
  unfold FirmwareDownloadDataProcessor.getTask FirmwareTaskOperator.queryTaskTo
  rw [answer_bind, answer_read, answer_pure]
  split
  · rename_i he
    exact .inl (List.map_eq_nil_iff.2 he)
  · exact .inr rfl

theorem toFirmware_notifyEvent {digest : String} {eventId : InnerApi.EventId} {status : UpgradeStatus}
    {e : ErrorMessage}
    {versionComponents : List InnerApi.VersionComponent} {progress : Int} :
    ((FirmwareCallbackUtils.notifyEvent digest eventId status e versionComponents progress).final d).toFirmware =
      d.toFirmware := rfl

theorem toFirmware_progressCallback {digest : String} {progress : Progress} :
    ((FirmwareCallbackUtils.progressCallback digest progress).final d).toFirmware = d.toFirmware := rfl

theorem final_getTask (tasks : FirmwareTask) : (FirmwareDownloadDataProcessor.getTask tasks).final d = d := rfl

theorem toFirmware_setDownloadCallbackInfo (callbackInfo : FirmwareDownloadCallbackInfo)
    (q : FirmwareDownloadDataProcessor) :
    ((FirmwareDownloadDataProcessor.setDownloadCallbackInfo callbackInfo q).final d).toFirmware =
      (UpdateService.FirmwareDownloadDataProcessor.setDownloadCallbackInfo callbackInfo (q, d.toFirmware)).2 := by
  unfold FirmwareDownloadDataProcessor.setDownloadCallbackInfo
    UpdateService.FirmwareDownloadDataProcessor.setDownloadCallbackInfo
  rw [final_bind, final_getTask, final_bind, final_forEach, final_bind, final_bind, final_pure]
  rw [toFirmware_progressCallback, final_write, toFirmware_updateProgressByTaskId, toFirmware_foldl (g := fun table c =>
    FirmwareComponentOperator.updateProgressByVersionId c.versionId c.progress.status
      (castInt32 c.progress.percent) table)
    fun _ _ => rfl]
  rcases getTask_cases (d := d) q.tasks with h | h
  · exact congrArg (fun taskTable => Firmware.mk taskTable _ d.toFirmware.downloads) (by rw [h]; rfl)
  · rw [h]

theorem toFirmware_setDownloadEvent (downloadTaskId : String) (eventId : EventId) (q : FirmwareDownloadDataProcessor) :
    ((FirmwareDownloadDataProcessor.setDownloadEvent downloadTaskId eventId q).final d).toFirmware =
      (UpdateService.FirmwareDownloadDataProcessor.setDownloadEvent downloadTaskId eventId (q, d.toFirmware)).2 := by
  unfold FirmwareDownloadDataProcessor.setDownloadEvent UpdateService.FirmwareDownloadDataProcessor.setDownloadEvent
  rw [final_bind, final_getTask]
  cases eventId with
  | eventDownloadStart =>
    rw [final_bind, final_bind, final_bind, final_pure, toFirmware_notifyEvent, final_write, final_write,
      toFirmware_updateStatusByTaskId, toFirmware_updateDownloadTaskIdByTaskId]
    rcases getTask_cases (d := d) q.tasks with h | h
    · exact congrArg (fun taskTable => Firmware.mk taskTable _ d.toFirmware.downloads) (by rw [h]; rfl)
    · rw [h]
  | eventDownloadResume =>
    rw [final_bind, final_bind, final_pure, toFirmware_notifyEvent, final_write, toFirmware_updateStatusByTaskId]
    rcases getTask_cases (d := d) q.tasks with h | h
    · exact congrArg (fun taskTable => Firmware.mk taskTable _ d.toFirmware.downloads) (by rw [h]; rfl)
    · rw [h]

/-! ### The install -/

/-- A program that only tells the application something. -/
theorem toFirmware_of_notices {α : Type} {m : FirmwareProgram α} (h : Only (fun w => ∃ e, w = .notice e) m)
    (d : FirmwareDevice) : (m.final d).toFirmware = d.toFirmware := by
  refine (h.keeps (I := fun d' => d'.toFirmware = d.toFirmware) ?_ d rfl).1
  rintro d' _ ⟨e, rfl⟩ hd
  exact hd

theorem only_setInstallResult (info : InstallCallbackInfo) (mode : FirmwareExecuteMode) :
    Only (fun w => ∃ e, w = .notice e) (FirmwareExecuteMode.setInstallResult info mode) := by
  have hset : ∀ mode : FirmwareInstallMode,
      Only (fun w => ∃ e, w = .notice e) (FirmwareInstallDataProcessor.setInstallResult info mode) := by
    intro mode
    refine .bind (.ite .pure .read) fun _ => .ite (.bind (.write ⟨_, rfl⟩) fun _ => .pure) ?_
    exact .bind (.when (.write ⟨_, rfl⟩)) fun _ => .bind (.write ⟨_, rfl⟩) fun _ => .pure
  unfold FirmwareExecuteMode.setInstallResult
  split
  exacts [.bind (hset _) fun _ => .pure, .bind (hset _) fun _ => .pure, .pure]

theorem toFirmware_handleInstallProgress {env : Surroundings} (component : FirmwareComponent)
    (executor : FirmwareInstallExecutor) (flow : FirmwareFlowManager) :
    ((FirmwareInstallExecutor.handleInstallProgress calculateHashCode env component executor flow).final d).toFirmware =
      d.toFirmware.withExecution (UpdateService.FirmwareInstallExecutor.handleInstallProgress component)
        { installType := executor.installType
          installCallbackInfo := executor.installCallbackInfo
          tasks := executor.tasks.toFirmwareTask
          taskProgress := executor.taskProgress } := by
  have hcallback : ∀ (info : InstallCallbackInfo) (flow : FirmwareFlowManager), info.progress.status = .installing →
      ∀ d, ((FirmwareFlowManager.onInstallCallback calculateHashCode env info flow).final d).toFirmware =
        d.toFirmware := by
    intro info flow hs d
    unfold FirmwareFlowManager.onInstallCallback
    rw [final_bind, if_neg (not_not.2 hs), final_pure]
    exact toFirmware_of_notices (only_setInstallResult info flow.executeMode) d
  unfold FirmwareInstallExecutor.handleInstallProgress
  rw [final_bind, final_bind, hcallback _ _ rfl, final_write, final_write]
  unfold Firmware.withExecution UpdateService.FirmwareInstallExecutor.handleInstallProgress
    UpdateService.FirmwareInstallExecutor.installCallback
  dsimp only
  split
  · rfl
  · rw [toFirmware_updateProgressByTaskId]
    rfl

/-- What the programs do to the tables and to the download manager, for every device: an answer of the server, a
cancel, an event and a report of the download, and a report of an installer. -/
theorem computes_tables (d : FirmwareDevice) (calculateHashCode : String → String) (env : Surroundings) :
    (∀ status componentList q,
      ((FirmwareCheckDataProcessor.setCheckResult calculateHashCode status componentList q).final d).toFirmware =
        UpdateService.FirmwareCheckDataProcessor.handleCheckResult calculateHashCode status
          componentList d.toFirmware) ∧
    ((UpdateServiceImplFirmware.cancel env).answer d, ((UpdateServiceImplFirmware.cancel env).final d).toFirmware) =
      UpdateService.UpdateServiceImplFirmware.cancel env.ended d.toFirmware ∧
    (∀ downloadTaskId eventId q,
      ((FirmwareDownloadDataProcessor.setDownloadEvent downloadTaskId eventId q).final d).toFirmware =
        (UpdateService.FirmwareDownloadDataProcessor.setDownloadEvent downloadTaskId eventId (q, d.toFirmware)).2) ∧
    (∀ callbackInfo q,
      ((FirmwareDownloadDataProcessor.setDownloadCallbackInfo callbackInfo q).final d).toFirmware =
        (UpdateService.FirmwareDownloadDataProcessor.setDownloadCallbackInfo callbackInfo (q, d.toFirmware)).2) ∧
    ∀ component executor flow,
      ((FirmwareInstallExecutor.handleInstallProgress calculateHashCode env component executor
        flow).final d).toFirmware =
        d.toFirmware.withExecution (UpdateService.FirmwareInstallExecutor.handleInstallProgress component)
          { installType := executor.installType
            installCallbackInfo := executor.installCallbackInfo
            tasks := executor.tasks.toFirmwareTask
            taskProgress := executor.taskProgress } :=
  ⟨toFirmware_setCheckResult, Prod.ext (toFirmware_cancel env).1 (toFirmware_cancel env).2, toFirmware_setDownloadEvent,
    toFirmware_setDownloadCallbackInfo, toFirmware_handleInstallProgress⟩

end FirmwareProgram

end UpdateService
