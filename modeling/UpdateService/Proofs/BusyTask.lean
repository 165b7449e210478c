import UpdateService.Proofs.TablesAgree

/-!
# A task that is downloading or installing has a flow that does it

The status is on the disk and the flow is in memory. `RestoreUpdate` takes back the status that a process has died in,
and after that a task has one of the two statuses only while the download or the install of a flow may still report
on it: the flow may end only with another status written.
-/

namespace UpdateService
open Program

def UpgradeStatus.IsBusy (status : UpgradeStatus) : Prop := status = .downloading ∨ status = .installing

/-- At most one task, and `K` says of which status and task it may be busy. -/
structure FirmwareDevice.HeldBy (K : UpgradeStatus → String → Prop) (d : FirmwareDevice) : Prop where
  length_le : d.taskTable.length ≤ 1
  busy : ∀ task ∈ d.taskTable, task.status.IsBusy → K task.status task.taskId

namespace FirmwareDevice
variable {K K' : UpgradeStatus → String → Prop} {d d' : FirmwareDevice}

/-- Nothing is said about the status. -/
abbrev Unheld : FirmwareDevice → Prop := HeldBy fun _ _ => True

theorem HeldBy.mono (h : d.HeldBy K) (hK : ∀ status taskId, K status taskId → K' status taskId) : d.HeldBy K' :=
  ⟨h.length_le, fun task ht hb => hK _ _ (h.busy task ht hb)⟩

theorem HeldBy.unheld (h : d.HeldBy K) : d.Unheld := h.mono fun _ _ _ => trivial

theorem HeldBy.and_unheld (h : d.HeldBy K) : d.HeldBy K ∧ d.Unheld := ⟨h, h.unheld⟩

/-- What is found in the table is its only row. -/
theorem Unheld.eq_queryTask (h : d.Unheld) {task : FirmwareTaskRow} (ht : task ∈ d.taskTable) :
    { task with isExistTask := true } = FirmwareTaskRow.queryTask d.taskTable := by
  obtain ⟨l₁, l₂, hd⟩ := List.append_of_mem ht
  have hle := h.length_le
  rw [hd, List.length_append, List.length_cons] at hle
  obtain rfl := List.eq_nil_of_length_eq_zero (show l₁.length = 0 by omega)
  rw [hd]
  rfl

theorem HeldBy.of_nil (h : d.taskTable = []) : d.HeldBy K := by
  refine ⟨by simp [h], fun task ht => ?_⟩
  rw [h] at ht
  cases ht

theorem HeldBy.congr (h : d.HeldBy K)
    (ht : d'.taskTable.map (fun task => (task.status, task.taskId)) =
      d.taskTable.map fun task => (task.status, task.taskId)) : d'.HeldBy K := by
  refine ⟨?_, fun task hmem hb => ?_⟩
  · have hlen := congrArg List.length ht
    rw [List.length_map, List.length_map] at hlen
    exact hlen ▸ h.length_le
  · have hmem := List.mem_map_of_mem (f := fun task : FirmwareTaskRow => (task.status, task.taskId)) hmem
    rw [ht] at hmem
    obtain ⟨task₀, h₀, he⟩ := List.mem_map.1 hmem
    obtain ⟨hs, hid⟩ := Prod.mk.inj he
    rw [← hs, ← hid]
    exact h.busy task₀ h₀ (hs ▸ hb)

/-- A status is written to the rows with an id. -/
theorem Unheld.write {taskId : String} {status : UpgradeStatus} {f : FirmwareTask → FirmwareTask}
    (hf : ∀ task, (f task).status = status ∧ (f task).taskId = task.taskId) (h : d.Unheld)
    (ht : d'.taskTable = FirmwareTaskRow.updateTaskByTaskId taskId f d.taskTable) (hs : status.IsBusy → K status taskId)
    (hrest : ∀ task ∈ d.taskTable, task.taskId ≠ taskId → task.status.IsBusy → K task.status task.taskId) :
    d'.HeldBy K := by
  unfold FirmwareTaskRow.updateTaskByTaskId FirmwareTaskRow.updateByTaskId at ht
  refine ⟨?_, fun task hmem hb => ?_⟩
  · rw [ht, List.updateWhere, List.length_map]
    exact h.length_le
  · rw [ht, List.mem_updateWhere] at hmem
    obtain ⟨task₀, h₀, rfl⟩ := hmem
    by_cases hid : task₀.taskId = taskId
    · simp only [hid, decide_true, if_true] at hb ⊢
      rw [(hf _).1] at hb ⊢
      rw [(hf _).2, hid]
      exact hs hb
    · simp only [hid, decide_false, Bool.false_eq_true, if_false] at hb ⊢
      exact hrest task₀ h₀ hid hb

theorem Unheld.updateProgressByTaskId {taskId : String} {status : UpgradeStatus} {progress : Int} (h : d.Unheld)
    (hs : status.IsBusy → K status taskId)
    (hrest : ∀ task ∈ d.taskTable, task.taskId ≠ taskId → task.status.IsBusy → K task.status task.taskId) :
    (Store.apply d (DeviceWrite.updateProgressByTaskId taskId status progress)).HeldBy K :=
  h.write (f := fun task => { task with status, progress }) (fun _ => ⟨rfl, rfl⟩) rfl hs hrest

theorem Unheld.updateStatusByTaskId {taskId : String} {status : UpgradeStatus} (h : d.Unheld)
    (hs : status.IsBusy → K status taskId)
    (hrest : ∀ task ∈ d.taskTable, task.taskId ≠ taskId → task.status.IsBusy → K task.status task.taskId) :
    (Store.apply d (DeviceWrite.updateStatusByTaskId taskId status)).HeldBy K :=
  h.write (f := fun task => { task with status }) (fun _ => ⟨rfl, rfl⟩) rfl hs hrest

/-- The statuses that may be written to any task. -/
def MayBe (K : UpgradeStatus → String → Prop) (status : UpgradeStatus) : Prop :=
  status.IsBusy → ∀ taskId, K status taskId

theorem mayBe_of_not_busy {status : UpgradeStatus} (h : ¬status.IsBusy) : MayBe K status := fun hb => absurd hb h

theorem HeldBy.elementary {w : DeviceWrite} (hw : w.IsElementary (MayBe K)) (h : d.HeldBy K) :
    (d.apply w).HeldBy K := by
  cases w with
  | insertTask | deleteAllTasks | insertComponents | deleteAllComponents | deleteDbStore => exact hw.elim
  | updateProgressByTaskId taskId status progress =>
    exact h.unheld.updateProgressByTaskId (fun hb => hw hb taskId) fun task ht _ => h.busy task ht
  | updateStatusByTaskId taskId status =>
    exact h.unheld.updateStatusByTaskId (fun hb => hw hb taskId) fun task ht _ => h.busy task ht
  | updateDownloadTaskIdByTaskId | updateDownloadOptionByTaskId | updateUpgradeModeByTaskId =>
    exact h.congr (List.map_updateWhere fun _ => rfl)
  | _ => exact ⟨h.length_le, h.busy⟩

theorem clear_heldBy :
    Triple (HeldBy K) FirmwareProgram.FirmwareUpdateHelper.clearFirmwareInfo (fun _ => Cleared) Unheld :=
  clear_cleared (fun _ h => h.unheld) (fun _ _ h => ⟨h.length_le, h.busy⟩) (fun _ _ => .of_nil rfl)
    fun _ h => .of_nil h.1

theorem heldBy_rules : TableRules (MayBe K) (HeldBy K) Unheld where
  le _ h := h.unheld
  rest _ hd hi _ := mayBe_of_not_busy fun hb => hb.elim hd hi
  elementary _ hw _ h := h.elementary hw
  preferences _ _ h := ⟨h.length_le, h.busy⟩
  bell _ _ h := ⟨h.length_le, h.busy⟩
  notice _ _ h := ⟨h.length_le, h.busy⟩
  night _ _ h := h.congr (List.map_updateWhere fun _ => rfl)
  deleteDbStore _ _ := .of_nil rfl
  clear := clear_heldBy.conseq (fun _ h => h) (fun _ _ h => .of_nil h.1) fun _ h => h

/-- A new task is one that has been checked. -/
theorem handleNewVersion_heldBy {calculateHashCode : String → String} (q : FirmwareCheckDataProcessor) :
    Keeps (HeldBy K) Unheld (FirmwareProgram.FirmwareCheckDataProcessor.handleNewVersion calculateHashCode q) := by
  refine (heldBy_rules (K := K)).firmwareRules.handleNewVersion rfl clear_heldBy (fun _ h => .of_nil h.1)
    (fun _ h _ => .of_nil h) fun d ht _ => ⟨by rw [ht]; rfl, fun task hmem hb => ?_⟩
  rw [ht] at hmem
  obtain rfl := List.mem_singleton.1 hmem
  rcases hb with hb | hb <;> cases hb

end FirmwareDevice

/-! ### What a flow works on -/

/-- The statuses in which a task may be while the executor still has to report on it. -/
def FirmwareExecutor.WorksOn : FirmwareExecutor → UpgradeStatus → String → Prop
  | download _ true, status, _ => status = .downloading
  | install executor true, status, taskId => status = .installing ∧ executor.tasks.taskId = taskId
  | _, _, _ => False

def FirmwareFlowManager.WorksOn (flow : FirmwareFlowManager) (status : UpgradeStatus) (taskId : String) : Prop :=
  ∃ executor, flow.executor = some executor ∧ executor.WorksOn status taskId

/-- `K` and what a flow works on, if there is one. -/
def With (K : UpgradeStatus → String → Prop) (flow : Option FirmwareFlowManager) (status : UpgradeStatus)
    (taskId : String) : Prop :=
  K status taskId ∨ ∃ f ∈ flow, f.WorksOn status taskId

section Flow
open FirmwareDevice
variable {K : UpgradeStatus → String → Prop} {calculateHashCode : String → String} {env : Surroundings}
  {flow : FirmwareFlowManager}

theorem heldBy_with {flow : Option FirmwareFlowManager} {d : FirmwareDevice} (h : d.HeldBy K) :
    d.HeldBy (With K flow) :=
  h.mono fun _ _ => .inl

theorem heldBy_of_idle {flow : FirmwareFlowManager} {d : FirmwareDevice} (h : d.HeldBy (With K (some flow)))
    (hf : ∀ status taskId, ¬flow.WorksOn status taskId) : d.HeldBy K := by
  refine h.mono fun status taskId hk => hk.resolve_right ?_
  rintro ⟨_, ⟨⟩, hw⟩
  exact hf _ _ hw

/-- The flow has the executor of the old one. -/
theorem heldBy_executor {flow flow' : FirmwareFlowManager} (he : flow'.executor = flow.executor) {d : FirmwareDevice}
    (h : d.HeldBy (With K (some flow))) : d.HeldBy (With K (some flow')) := by
  refine h.mono fun status taskId hk => hk.imp_right ?_
  rintro ⟨_, ⟨⟩, executor, hw⟩
  exact ⟨flow', rfl, executor, he ▸ hw⟩

/-! ### The download -/

theorem mayBe_downloading {downloadOptions : DownloadOptions}
    (he : flow.executor = some (.download downloadOptions true)) : MayBe (With K (some flow)) .downloading :=
  fun _ _ => .inr ⟨flow, rfl, _, he, rfl⟩

/-- A report of another status is written to the one task. -/
theorem setDownloadCallbackInfo_idle {callbackInfo : FirmwareDownloadCallbackInfo} {q : FirmwareDownloadDataProcessor}
    (hs : ¬callbackInfo.taskProgress.status.IsBusy) (hs' : callbackInfo.taskProgress.status ≠ .updateSuccess) :
    Triple Unheld (FirmwareProgram.FirmwareDownloadDataProcessor.setDownloadCallbackInfo callbackInfo q)
      (fun _ => HeldBy K) Unheld := by
  have hr := (heldBy_rules (K := K)).firmwareRules
  unfold FirmwareProgram.FirmwareDownloadDataProcessor.setDownloadCallbackInfo
  refine .bind (Q := fun tasks d => d.Unheld ∧ ∀ task ∈ d.taskTable, task.taskId = tasks.taskId) ?_ fun tasks => ?_
  · refine .bind (Q := fun tasks d => d.Unheld ∧ ∀ task ∈ d.taskTable, task.taskId = tasks.taskId) ?_ fun tasks =>
      .pure fun d h => ⟨h, h.1⟩
    refine .read fun d h => ⟨⟨h, fun task ht => ?_⟩, h⟩
    rw [if_neg (List.ne_nil_of_mem ht)]
    exact congrArg (·.taskId) (h.eq_queryTask ht)
  · refine .bind (Q := fun _ d => d.Unheld ∧ ∀ task ∈ d.taskTable, task.taskId = tasks.taskId) ?_ fun _ => ?_
    · exact Keeps.forEach (fun _ h => h.1) fun c _ => .write (fun _ h => h.1) fun d h =>
        ⟨⟨h.1.length_le, h.1.busy⟩, h.2⟩
    · refine .bind (Q := fun _ => HeldBy K) (.write (fun _ h => h.1) fun d h => ?_) fun _ =>
        .bind (hr.progressCallback hs') fun _ => hr.pure
      exact (h.1.updateProgressByTaskId (fun hb => absurd hb hs) fun task ht hne => absurd (h.2 task ht) hne).and_unheld

/-- After a report that is not of the download going on, whatever is left of the flow, the task is not busy. -/
theorem onDownloadCallback_idle {callbackInfo : FirmwareDownloadCallbackInfo} (hf : flow.WellFormed)
    (hd : flow.nextStep = .downloadStep) (hs : ¬callbackInfo.taskProgress.status.IsBusy)
    (hs' : callbackInfo.taskProgress.status ≠ .updateSuccess) :
    Triple Unheld (FirmwareProgram.FirmwareFlowManager.onDownloadCallback calculateHashCode env callbackInfo flow)
      (fun result => HeldBy (With K result.flow)) Unheld := by
  have hu := (heldBy_rules (K := fun _ _ => True)).firmwareRules
  have hr := (heldBy_rules (K := K)).firmwareRules
  refine .bind (Q := fun _ => HeldBy K) ?_ fun mode => ?_
  · have hstep := hf.step_mem
    rw [hd] at hstep
    unfold FirmwareProgram.FirmwareExecuteMode.setDownloadCallbackInfo
    split
    · exact .bind hu.getDownloadDataProcessor fun _ => .bind (setDownloadCallbackInfo_idle hs hs') fun _ => hr.pure
    · exact .bind (setDownloadCallbackInfo_idle hs hs') fun _ => hr.pure
    · cases hmode : flow.executeMode <;> simp_all [FirmwareExecuteMode.steps]
  · rw [if_pos fun he => hs (.inl he)]
    exact Triple.conseq (hr.execute hf.nextStep_ne) (fun _ h => h) (fun _ _ => heldBy_with) fun _ h => h

theorem onDownloadCallback_heldBy {downloadOptions : DownloadOptions} {callbackInfo : FirmwareDownloadCallbackInfo}
    (hf : flow.WellFormed) (he : flow.executor = some (.download downloadOptions true))
    (hs : callbackInfo.taskProgress.status ≠ .installing) (hs' : callbackInfo.taskProgress.status ≠ .updateSuccess) :
    Triple (HeldBy (With K (some flow)))
      (FirmwareProgram.FirmwareFlowManager.onDownloadCallback calculateHashCode env callbackInfo flow)
      (fun result => HeldBy (With K result.flow)) Unheld := by
  by_cases hb : callbackInfo.taskProgress.status.IsBusy
  · have hdown := hb.resolve_right hs
    have hr := (heldBy_rules (K := With K (some flow))).firmwareRules
    refine .bind (Q := fun _ => HeldBy (With K (some flow))) ?_ fun mode => ?_
    · unfold FirmwareProgram.FirmwareExecuteMode.setDownloadCallbackInfo
      have hA : MayBe (With K (some flow)) callbackInfo.taskProgress.status := hdown ▸ mayBe_downloading he
      split
      · exact .bind hr.getDownloadDataProcessor fun _ => .bind (hr.setDownloadCallbackInfo hA hs') fun _ => hr.pure
      · exact .bind (hr.setDownloadCallbackInfo hA hs') fun _ => hr.pure
      · exact hr.pure
    · rw [if_neg (not_not.2 hdown)]
      have he' : { flow with executeMode := mode }.executor = flow.executor := rfl
      exact .pure fun d h => ⟨heldBy_executor he' h, h.unheld⟩
  · exact (onDownloadCallback_idle hf (hf.nextStep_eq he).symm hb hs').conseq (fun _ h => h.unheld) (fun _ _ h => h)
      fun _ h => h

theorem upgradeStatus_ne (status : DownloadStatus) :
    UpdateService.FirmwareDownloadExecutor.upgradeStatus status ≠ .installing := by
  cases status <;> exact UpgradeStatus.noConfusion

theorem onDownloadFail_heldBy {e : DownloadError} (hf : flow.WellFormed) (hd : flow.nextStep = .downloadStep) :
    Triple Unheld (FirmwareProgram.FirmwareFlowManager.onDownloadCallback calculateHashCode env
      (UpdateService.FirmwareDownloadExecutor.callbackDownloadFailProgress e) flow)
      (fun result => HeldBy (With K result.flow)) Unheld :=
  onDownloadCallback_idle hf hd (fun h => h.elim UpgradeStatus.noConfusion UpgradeStatus.noConfusion)
    UpgradeStatus.noConfusion

/-- The download of a flow is begun or goes on. -/
theorem onDownloadEventCallback_heldBy {downloadOptions : DownloadOptions} {downloadTaskId : String}
    {eventId : EventId} (hf : flow.WellFormed) (he : flow.executor = some (.download downloadOptions true)) :
    Triple (HeldBy (With K (some flow)))
      (FirmwareProgram.FirmwareFlowManager.onDownloadEventCallback downloadTaskId eventId flow)
      (fun flow' d => d.HeldBy (With K (some flow')) ∧ flow'.WellFormed ∧
        flow'.executor = some (.download downloadOptions true)) Unheld := by
  have hr := (heldBy_rules (K := With K (some flow))).firmwareRules
  have hexec : Gives (fun flow' : FirmwareFlowManager => flow'.executor = flow.executor)
      (FirmwareProgram.FirmwareFlowManager.onDownloadEventCallback downloadTaskId eventId flow) := fun _ => rfl
  have hkeep : Keeps (HeldBy (With K (some flow))) Unheld
      (FirmwareProgram.FirmwareFlowManager.onDownloadEventCallback downloadTaskId eventId flow) :=
    hr.onDownloadEventCallback (mayBe_downloading he)
  refine ((hkeep.gives (FirmwareProgram.gives_onDownloadEventCallback hf)).gives hexec).conseq (fun _ h => h)
    (fun flow' d h => ?_) fun _ h => h
  exact ⟨heldBy_executor h.2 h.1.1, h.1.2, h.2.trans he⟩

theorem keeps_start (K : UpgradeStatus → String → Prop) {downloadInfos : List DownloadInfo} :
    Keeps (HeldBy K) Unheld (FirmwareProgram.DownloadTaskManager.start calculateHashCode downloadInfos
      env.isMemoryEnough env.ended) := by
  have hr := (heldBy_rules (K := K)).firmwareRules
  exact .bind hr.read fun _ => .bind (hr.write trivial) fun _ => hr.pure

theorem performDownload_heldBy {downloadOptions downloadOptions' : DownloadOptions}
    {components : List FirmwareComponent} (hf : flow.WellFormed)
    (he : flow.executor = some (.download downloadOptions' true)) :
    Triple (HeldBy (With K (some flow)))
      (FirmwareProgram.FirmwareDownloadExecutor.performDownload calculateHashCode env downloadOptions components flow)
      (fun result => HeldBy (With K result.flow)) Unheld := by
  have hleave : ∀ flow, Triple (HeldBy (With K (some flow)))
      (pure { flow := some flow } : FirmwareProgram FlowResult) (fun result => HeldBy (With K result.flow)) Unheld :=
    fun flow => .pure fun _ h => h.and_unheld
  refine .ite (fun _ => hleave flow) fun _ => .bind (onDownloadEventCallback_heldBy hf he) fun flow' =>
    .assume fun hflow => .bind (keeps_start _) fun _ => .ite (fun _ => ?_) fun _ => hleave flow'
  exact (onDownloadFail_heldBy hflow.1 (hflow.1.nextStep_eq hflow.2).symm).conseq (fun _ h => h.unheld) (fun _ _ h => h)
    fun _ h => h

theorem performResumeDownload_heldBy {downloadOptions downloadOptions' : DownloadOptions}
    {components : List FirmwareComponent} {downloadTaskId : String} (hf : flow.WellFormed)
    (he : flow.executor = some (.download downloadOptions' true)) :
    Triple (HeldBy (With K (some flow)))
      (FirmwareProgram.FirmwareDownloadExecutor.performResumeDownload calculateHashCode env downloadOptions components
        downloadTaskId flow) (fun result => HeldBy (With K result.flow)) Unheld := by
  have hreport : ∀ (progressInfo : ProgressInfo) (flow : FirmwareFlowManager), flow.WellFormed →
      flow.executor = some (.download downloadOptions' true) →
      Triple (HeldBy (With K (some flow))) (FirmwareProgram.FirmwareFlowManager.onDownloadCallback calculateHashCode env
        (UpdateService.FirmwareDownloadExecutor.callbackProgress downloadTaskId progressInfo) flow)
        (fun result => HeldBy (With K result.flow)) Unheld := fun progressInfo flow hf he =>
    onDownloadCallback_heldBy hf he (upgradeStatus_ne _) (FirmwareRules.callbackProgress_status _ progressInfo)
  have hfail : ∀ (e : DownloadError) (flow : FirmwareFlowManager), flow.WellFormed →
      flow.executor = some (.download downloadOptions' true) →
      Triple (HeldBy (With K (some flow))) (FirmwareProgram.FirmwareFlowManager.onDownloadCallback calculateHashCode env
        (UpdateService.FirmwareDownloadExecutor.callbackDownloadFailProgress e) flow)
        (fun result => HeldBy (With K result.flow)) Unheld := fun e flow hf he =>
    (onDownloadFail_heldBy hf (hf.nextStep_eq he).symm).conseq (fun _ h => h.unheld) (fun _ _ h => h) fun _ h => h
  have hr := (heldBy_rules (K := With K (some flow))).firmwareRules
  refine .bind (Q := fun _ => HeldBy (With K (some flow))) (.bind hr.read fun _ => ?_) fun x => ?_
  · split
    · exact hr.pure
    · split
      exacts [hr.pure, .bind (hr.write trivial) fun _ => hr.pure]
  · refine .ite (fun _ => .ite (fun _ => performDownload_heldBy hf he) fun _ => hfail _ flow hf he) fun _ =>
      .ite (fun _ => hreport _ flow hf he) fun _ => .ite (fun _ => hfail _ flow hf he) fun _ => ?_
    refine .bind (onDownloadEventCallback_heldBy hf he) fun flow' => .assume fun hflow => ?_
    have hr' := (heldBy_rules (K := With K (some flow'))).firmwareRules
    refine .bind (Q := fun _ => HeldBy (With K (some flow')))
      (.bind hr'.read fun _ => .bind (hr'.write trivial) fun _ =>
      hr'.pure) fun _ => .ite (fun _ => .pure fun _ h => h.and_unheld) fun _ => ?_
    exact .ite (fun _ => hreport _ flow' hflow.1 hflow.2) fun _ => hfail _ flow' hflow.1 hflow.2

/-- The body of a download; the process ends where there are no components. -/
theorem doDownload_heldBy {downloadOptions : DownloadOptions} (hf : flow.WellFormed)
    (he : flow.executor = some (.download downloadOptions false)) :
    Triple (HeldBy K) (FirmwareProgram.FirmwareDownloadExecutor.doDownload calculateHashCode env downloadOptions flow)
      (fun result d => d.Unheld ∧ ∀ r ∈ result, d.HeldBy (With K r.flow)) Unheld := by
  have hr := (heldBy_rules (K := K)).firmwareRules
  have hsome : ∀ result : FlowResult, Triple (HeldBy (With K result.flow))
      (pure (some result) : FirmwareProgram (Option FlowResult))
      (fun result d => d.Unheld ∧ ∀ r ∈ result, d.HeldBy (With K r.flow)) Unheld := fun result =>
    .pure fun d h => ⟨⟨h.unheld, fun _ hr => Option.some.inj hr ▸ h⟩, h.unheld⟩
  have hstep := (hf.nextStep_eq he).symm
  have hf' := FirmwareProgram.wellFormed_of_executor hf (e := .download downloadOptions true) hstep.symm
  refine .bind (Q := fun _ => HeldBy K) hr.read fun components => .ite (fun _ => .pure fun d h => ?_) fun _ =>
    .bind (Q := fun _ => HeldBy K) hr.read fun tasks => ?_
  · refine ⟨⟨h.unheld, ?_⟩, h.unheld⟩
    rintro _ ⟨⟩
  · refine .ite (fun _ => .bind ?_ fun result => hsome result) fun _ => .bind ?_ fun result => hsome result
    · exact (performDownload_heldBy hf' rfl).conseq (fun _ h => heldBy_with h) (fun _ _ h => h) fun _ h => h
    · exact (performResumeDownload_heldBy hf' rfl).conseq (fun _ h => heldBy_with h) (fun _ _ h => h) fun _ h => h

/-! ### The install -/

/-- A callback of an install writes nothing of the task's. -/
theorem onInstallCallback_heldBy {info : InstallCallbackInfo} (hf : flow.WellFormed)
    (hs : info.progress.status ≠ .updateSuccess) :
    Triple (HeldBy K) (FirmwareProgram.FirmwareFlowManager.onInstallCallback calculateHashCode env info flow)
      (fun result => HeldBy (With K result.flow)) Unheld :=
  Triple.conseq ((heldBy_rules (K := K)).firmwareRules.onInstallCallback hf.nextStep_ne hs) (fun _ h => h)
    (fun _ _ => heldBy_with) fun _ h => h

theorem startStatus_of_busy {installType : InstallType}
    (h : (UpdateService.FirmwareInstallExecutor.startStatus installType).IsBusy) :
    UpdateService.FirmwareInstallExecutor.startStatus installType = .installing := by
  refine h.resolve_left ?_
  cases installType <;> exact UpgradeStatus.noConfusion

theorem doInstall_heldBy {executor : FirmwareInstallExecutor} (hf : flow.WellFormed) :
    Triple (HeldBy K) (FirmwareProgram.FirmwareInstallExecutor.doInstall calculateHashCode env executor flow)
      (fun result => HeldBy (With K result.flow)) Unheld := by
  have hr := (heldBy_rules (K := K)).firmwareRules
  have hs : UpdateService.FirmwareInstallExecutor.noTaskStatus executor.installType ≠ .updateSuccess := by
    cases executor.installType <;> decide
  refine .bind (Q := fun _ => HeldBy K) hr.read fun components =>
    .ite (fun _ => onInstallCallback_heldBy hf hs) fun _ =>
    .bind (Q := fun _ => HeldBy K) hr.queryTaskOnce fun tasks => ?_
  -- the flow works on the task that has been asked for, which is the one that is written to
  let flow' : FirmwareFlowManager := { flow with executor := some (.install { executor with tasks } true) }
  have hr' := (heldBy_rules (K := With K (some flow'))).firmwareRules
  refine .bind (Q := fun _ => HeldBy (With K (some flow'))) (.write (fun _ h => h.unheld) fun d h => ?_) fun _ =>
    .bind (hr'.forEach fun _ _ => hr'.write trivial) fun _ => .pure fun _ h => h.and_unheld
  exact (h.unheld.updateProgressByTaskId (fun hb => .inr ⟨flow', rfl, _, rfl, startStatus_of_busy hb, rfl⟩)
    fun task ht _ hb => .inl (h.busy task ht hb)).and_unheld

theorem handleInstallProgress_heldBy {executor : FirmwareInstallExecutor} {component : FirmwareComponent}
    (he : flow.executor = some (.install executor true)) :
    Triple (HeldBy (With K (some flow)))
      (FirmwareProgram.FirmwareInstallExecutor.handleInstallProgress calculateHashCode env component executor flow)
      (fun result => HeldBy (With K result.flow)) Unheld := by
  have hr := (heldBy_rules (K := With K (some flow))).firmwareRules
  refine .bind (Q := fun _ => HeldBy (With K (some flow))) (hr.write trivial) fun _ =>
    .bind (Q := fun _ => HeldBy (With K (some flow))) (.write (fun _ h => h.unheld) fun d h => ?_) fun _ => ?_
  · split
    · exact (hr.elementary (.updateRecordPointByUrl _ _) trivial d h).and_unheld
    · exact (h.unheld.updateProgressByTaskId (fun _ => .inr ⟨flow, rfl, _, he, rfl, rfl⟩) fun task ht _ =>
        h.busy task ht).and_unheld
  · unfold FirmwareProgram.FirmwareFlowManager.onInstallCallback
    refine .bind (Q := fun _ => HeldBy (With K (some flow))) ?_ fun mode => ?_
    · unfold FirmwareProgram.FirmwareExecuteMode.setInstallResult
      have hs : UpgradeStatus.installing ≠ .updateSuccess := UpgradeStatus.noConfusion
      split
      · exact .bind (hr.setInstallResult hs) fun _ => hr.pure
      · exact .bind (hr.setInstallResult hs) fun _ => hr.pure
      · exact hr.pure
    · rw [if_neg (not_not.2 rfl)]
      refine .pure fun d h => ⟨h.mono fun status taskId hk => hk.imp_right ?_, h.unheld⟩
      rintro ⟨_, ⟨⟩, executor', he', hw⟩
      obtain rfl := Option.some.inj (he.symm.trans he')
      exact ⟨_, rfl, _, rfl, hw⟩

/-- The result is written to the task that the flow has worked on. -/
theorem handleInstallResult_heldBy {executor : FirmwareInstallExecutor} {isSuccess : Bool} {errMsg : ErrorMessage}
    {status : UpgradeStatus} (hf : flow.WellFormed) (he : flow.executor = some (.install executor true)) :
    Triple (HeldBy (With K (some flow)))
      (FirmwareProgram.FirmwareInstallExecutor.handleInstallResult calculateHashCode env isSuccess errMsg
        status executor
        flow) (fun result => HeldBy (With K result.flow)) Unheld := by
  have hr := (heldBy_rules (K := fun _ _ => False)).firmwareRules
  obtain ⟨hA, hs⟩ := hr.resultStatus executor.installType isSuccess status
  refine .bind (Q := fun _ => HeldBy K) (.write (fun _ h => h.unheld) fun d h => ?_) fun _ =>
    onInstallCallback_heldBy hf hs
  refine (h.unheld.updateProgressByTaskId (fun hb => (hA hb "").elim) fun task ht hne hb => ?_).and_unheld
  refine (h.busy task ht hb).resolve_right ?_
  rintro ⟨_, ⟨⟩, executor', he', hw⟩
  obtain rfl := Option.some.inj (he.symm.trans he')
  exact hne hw.2.symm

end Flow

/-! ### The process -/

/-- In which status a task may be: any, while the process has not yet restored it. -/
def FirmwareProcess.WorksOn (process : FirmwareProcess) (status : UpgradeStatus) (taskId : String) : Prop :=
  process.delayInit = some .restoreUpdate ∨ ∃ flow, some flow ∈ process.flows ∧ flow.WorksOn status taskId

namespace FirmwareProcess
open FirmwareDevice
variable {process : FirmwareProcess} {p : JsonPlatform} {calculateHashCode : String → String}
  {m : FirmwareProgram (Option FirmwareProcess)}

/-- What the process works on without the flow at a position. -/
def Others (process : FirmwareProcess) (i : Nat) (status : UpgradeStatus) (taskId : String) : Prop :=
  process.delayInit = some .restoreUpdate ∨
    ∃ j flow, j ≠ i ∧ process.flow? j = some flow ∧ flow.WorksOn status taskId

theorem worksOn_cases {i : Nat} {flow : FirmwareFlowManager} (hf : process.flow? i = some flow)
    {status : UpgradeStatus} {taskId : String} (h : process.WorksOn status taskId) :
    With (process.Others i) (some flow) status taskId := by
  rcases h with h | ⟨flow', hmem, hw⟩
  · exact .inl (.inl h)
  · obtain ⟨j, hj⟩ := List.mem_iff_getElem?.1 hmem
    have hj' : process.flow? j = some flow' := by rw [flow?, hj]; rfl
    by_cases hji : j = i
    · subst hji
      obtain rfl := Option.some.inj (hf.symm.trans hj')
      exact .inr ⟨flow, rfl, hw⟩
    · exact .inl (.inr ⟨j, flow', hji, hj', hw⟩)

theorem worksOn_set {i : Nat} {flow : FirmwareFlowManager} (hf : process.flow? i = some flow)
    {flow' : Option FirmwareFlowManager} {status : UpgradeStatus} {taskId : String}
    (h : With (process.Others i) flow' status taskId) :
    FirmwareProcess.WorksOn { process with flows := process.flows.set i flow' } status taskId := by
  have hlt : i < process.flows.length := (List.getElem?_eq_some_iff.1 (Option.join_eq_some_iff.1 hf)).1
  rcases h with (h | ⟨j, flow'', hji, hj, hw⟩) | ⟨_, rfl, hw⟩
  · exact .inl h
  · have hj' : (process.flows.set i flow')[j]? = some (some flow'') := by
      rw [List.getElem?_set_ne hji.symm]
      exact Option.join_eq_some_iff.1 hj
    exact .inr ⟨flow'', List.mem_of_getElem? hj', hw⟩
  · exact .inr ⟨_, List.mem_set hlt _, hw⟩

/-- The process goes on with a flow that has come from `flow`. -/
theorem goOn_heldBy {i : Nat} {flow : FirmwareFlowManager} (hf : process.flow? i = some flow)
    {m : FirmwareProgram FlowResult}
    (hm : Triple (HeldBy (With (process.Others i) (some flow))) m
      (fun result => HeldBy (With (process.Others i) result.flow)) Unheld) :
    Triple (HeldBy process.WorksOn) (process.goOn i m) (fun process' d => d.Unheld ∧ ∀ q ∈ process', d.HeldBy q.WorksOn)
      Unheld := by
  refine .bind (hm.conseq (fun _ h => h.mono fun _ _ => worksOn_cases hf) (fun _ _ h => h) fun _ h => h) fun result =>
    .pure fun d h => ⟨⟨h.unheld, ?_⟩, h.unheld⟩
  rintro _ ⟨⟩
  exact h.mono fun _ _ => worksOn_set hf

/-- The process that is left works on what the process has worked on. -/
def GoesOn (process : FirmwareProcess) (process' : Option FirmwareProcess) : Prop :=
  ∀ q ∈ process', ∀ status taskId, process.WorksOn status taskId → q.WorksOn status taskId

theorem gives_begin {m : FirmwareProgram FlowResult} : Gives process.GoesOn (process.begin m) := by
  refine .bind' fun result => .pure ?_
  rintro _ ⟨⟩ status taskId (h | ⟨flow, hmem, hw⟩)
  exacts [.inl h, .inr ⟨flow, List.mem_append_left _ hmem, hw⟩]

theorem gives_keep {α : Type} {m : FirmwareProgram α} : Gives process.GoesOn (process.keep m) := by
  refine .bind' fun _ => .pure ?_
  rintro _ ⟨⟩ status taskId h
  exact h

theorem gives_goOn {i : Nat} {flow : FirmwareFlowManager} (hf : process.flow? i = some flow)
    (hw : ∀ status taskId, ¬flow.WorksOn status taskId) {m : FirmwareProgram FlowResult} :
    Gives process.GoesOn (process.goOn i m) := by
  refine .bind' fun result => .pure ?_
  rintro _ ⟨⟩ status taskId h
  refine worksOn_set hf (.inl ((worksOn_cases hf h).resolve_right ?_))
  rintro ⟨_, ⟨⟩, h⟩
  exact hw _ _ h

theorem not_worksOn {flow : FirmwareFlowManager} {executor : FirmwareExecutor} (he : flow.executor = some executor)
    (hx : ∀ status taskId, ¬executor.WorksOn status taskId) (status : UpgradeStatus) (taskId : String) :
    ¬flow.WorksOn status taskId := by
  rintro ⟨executor', he', hw⟩
  obtain rfl := Option.some.inj (he.symm.trans he')
  exact hx _ _ hw

/-- The status that a process has died in is taken back. -/
theorem restoreUpdate_heldBy {K : UpgradeStatus → String → Prop} {env : Surroundings} :
    Triple Unheld (FirmwareProgram.FirmwareManager.restoreUpdate calculateHashCode env) (fun _ => HeldBy K) Unheld := by
  have hr := (heldBy_rules (K := K)).firmwareRules
  unfold FirmwareProgram.FirmwareManager.restoreUpdate
  refine .bind (Q := fun task d => d.Unheld ∧ task = FirmwareTaskRow.queryTask d.taskTable)
    (.read fun d h => ⟨⟨h, rfl⟩, h⟩) fun task => ?_
  -- a write of another status to the row
  have hwrite : ∀ (status : UpgradeStatus) {w : DeviceWrite}, ¬status.IsBusy →
      (w = .updateStatusByTaskId task.taskId status ∨
        ∃ progress, w = .updateProgressByTaskId task.taskId status progress) →
      Triple (fun d => d.Unheld ∧ task = FirmwareTaskRow.queryTask d.taskTable) (Program.write w : FirmwareProgram Unit)
        (fun _ => HeldBy K) Unheld := by
    intro status w hs hw
    refine .write (fun _ h => h.1) fun d h => ?_
    obtain ⟨h, rfl⟩ := h
    have hrest : ∀ task ∈ d.taskTable, task.taskId ≠ (FirmwareTaskRow.queryTask d.taskTable).taskId →
        task.status.IsBusy → K task.status task.taskId := fun task ht hne =>
      absurd (congrArg (·.taskId) (h.eq_queryTask ht)) hne
    rcases hw with rfl | ⟨progress, rfl⟩
    · exact (h.updateStatusByTaskId (fun hb => absurd hb hs) hrest).and_unheld
    · exact (h.updateProgressByTaskId (fun hb => absurd hb hs) hrest).and_unheld
  have hidle : ¬task.status.IsBusy → ∀ {α : Type} {m : FirmwareProgram α}, Keeps (HeldBy K) Unheld m →
      Triple (fun d => d.Unheld ∧ task = FirmwareTaskRow.queryTask d.taskTable) m (fun _ => HeldBy K) Unheld := by
    intro hs α m hm
    refine Triple.conseq hm (fun d h => ⟨h.1.length_le, fun task' ht hb => absurd ?_ hs⟩) (fun _ _ h => h) fun _ h => h
    obtain ⟨h, rfl⟩ := h
    rw [← h.eq_queryTask ht]
    exact hb
  split
  · exact .bind (hwrite .downloadPause (by rintro (h | h) <;> cases h) (.inl rfl)) fun _ => hr.pure
  · rename_i hs
    refine hidle (by rw [hs]; rintro (h | h) <;> cases h) ?_
    exact .bind hr.read fun _ => .bind (hr.when fun _ => hr.write trivial) fun _ => hr.pure
  · have hb := keeps_processBeforeUpgrade (heldBy_rules (K := K)).le heldBy_rules.preferences
      (fun d => heldBy_rules.bell d false) env
    refine .bind (Q := fun _ d => d.Unheld ∧ task = FirmwareTaskRow.queryTask d.taskTable)
      (.read fun d h => ⟨h, h.1⟩) fun isStreamUpgrade => .bind (Q := fun _ => HeldBy K) ?_ fun _ => ?_
    · split
      · exact hwrite .installPause (by rintro (h | h) <;> cases h) (.inl rfl)
      · exact hwrite .downloadSuccess (by rintro (h | h) <;> cases h) (.inr ⟨_, rfl⟩)
    · refine .bind (Q := fun _ => HeldBy K) hr.read fun _ => .bind (Q := fun _ => HeldBy K)
        (hr.forEach fun _ _ => hr.when fun _ => hr.write ?_) fun _ => ?_
      · split <;> trivial
      · exact .bind (Q := fun _ => HeldBy K) (.bind hr.read fun _ => hr.pure) fun _ =>
          hr.requestInstall (T := fun _ => True) hr (fun _ h => h) (fun _ _ => trivial) fun task _ => hb task
  · rename_i h1 h2 h3
    exact hidle (by rintro (h | h) <;> contradiction) hr.pure

/-- After every call a task is busy only if the process works on it. -/
theorem call_heldBy (hw : process.WellFormed) {call : FirmwareCall}
    (hm : process.call p calculateHashCode call = some m) :
    Triple (HeldBy process.WorksOn) m (fun process' d => d.Unheld ∧ ∀ q ∈ process', d.HeldBy q.WorksOn) Unheld := by
  -- a call that leaves the flows that are at work
  have hgen : Gives process.GoesOn m → ¬call.IsDownload → ¬call.IsInstall →
      Triple (HeldBy process.WorksOn) m (fun process' d => d.Unheld ∧ ∀ q ∈ process', d.HeldBy q.WorksOn) Unheld := by
    intro hg hd hi
    have hs : FirmwareService.WellFormed { process := some process } := fun _ h => Option.some.inj h ▸ hw
    have hm' : FirmwareService.call p calculateHashCode { process := some process } call = some m := by
      cases call <;> exact hm
    have hkeep := (heldBy_rules (K := process.WorksOn)).keeps_call hs hm'
      (fun q _ _ _ => handleNewVersion_heldBy q) (fun h => absurd h hd) fun h => absurd h hi
    exact (hkeep.gives hg).conseq (fun _ h => h) (fun process' d h => ⟨h.1.unheld, fun q hq => h.1.mono (h.2 q hq)⟩)
      fun _ h => h
  cases call with
  | init startupReason => cases hm
  | restoreUpdate env =>
    simp only [FirmwareProcess.call] at hm
    split at hm
    · obtain rfl := Option.some.inj hm
      let process' : FirmwareProcess := { process with delayInit := some .handleEvent }
      have hbegin : Triple Unheld (process'.begin (FirmwareProgram.FirmwareManager.restoreUpdate calculateHashCode env))
          (fun _ => HeldBy process'.WorksOn) Unheld :=
        .bind restoreUpdate_heldBy fun _ => .pure fun _ h => h.and_unheld
      exact (hbegin.gives gives_begin).conseq (fun _ h => h.unheld)
        (fun q d h => ⟨h.1.unheld, fun q hq => h.1.mono (h.2 q hq)⟩) fun _ h => h
    · cases hm
  | handleEvent env =>
    refine hgen ?_ id id
    simp only [FirmwareProcess.call] at hm
    split at hm
    · rename_i hd
      obtain rfl := Option.some.inj hm
      refine .bind' fun _ => .bind' fun isRunning => .pure ?_
      split
      · rintro _ ⟨⟩ status taskId (h | h)
        · rw [hd] at h
          cases h
        · exact .inr h
      · rintro _ ⟨⟩
    · cases hm
  | doCheck i env content =>
    obtain ⟨flow, hf, he, rfl⟩ := FirmwareProcess.call_doCheck hm
    exact hgen (gives_goOn hf (not_worksOn he fun _ _ => id)) id id
  | doDownload i env =>
    obtain ⟨flow, downloadOptions, hf, he, rfl⟩ := FirmwareProcess.call_doDownload hm
    refine .bind ((doDownload_heldBy (K := process.Others i) (hw.flow hf) he).conseq (fun _ h => ?_) (fun _ _ h => h)
      fun _ h => h) fun result => .pure fun d h => ⟨⟨h.1, fun q hq => ?_⟩, h.1⟩
    · exact heldBy_of_idle (h.mono fun _ _ => worksOn_cases hf) (not_worksOn he fun _ _ => id)
    · obtain ⟨r, hr, rfl⟩ := Option.map_eq_some_iff.1 hq
      exact (h.2 r hr).mono fun _ _ => worksOn_set hf
  | downloadCallback i env taskId progressInfo =>
    obtain ⟨flow, downloadOptions, hf, he, rfl⟩ := FirmwareProcess.call_downloadCallback hm
    exact goOn_heldBy hf (onDownloadCallback_heldBy (hw.flow hf) he (upgradeStatus_ne _)
      (FirmwareRules.callbackProgress_status _ progressInfo))
  | doInstall i env =>
    obtain ⟨flow, executor, hf, he, rfl⟩ := FirmwareProcess.call_doInstall hm
    exact goOn_heldBy hf ((doInstall_heldBy (hw.flow hf)).conseq
      (fun _ h => heldBy_of_idle h (not_worksOn he fun _ _ => id)) (fun _ _ h => h) fun _ h => h)
  | installStart i status =>
    obtain ⟨flow, executor, hf, he, rfl⟩ := FirmwareProcess.call_installStart hm
    exact hgen gives_keep id id
  | installProgress i env component =>
    obtain ⟨flow, executor, hf, he, rfl⟩ := FirmwareProcess.call_installProgress hm
    exact goOn_heldBy hf (handleInstallProgress_heldBy he)
  | installResult i env isSuccess errMsg status =>
    obtain ⟨flow, executor, hf, he, rfl⟩ := FirmwareProcess.call_installResult hm
    exact goOn_heldBy hf (handleInstallResult_heldBy (hw.flow hf) he)
  | doApply i env =>
    obtain ⟨flow, hf, he, rfl⟩ := FirmwareProcess.call_doApply hm
    exact hgen (gives_goOn hf (not_worksOn he fun _ _ => id)) id id
  | manager op =>
    refine hgen (Option.some.inj hm ▸ .bind' fun _ => .bind' fun _ => .pure ?_) id id
    rintro _ ⟨⟩ status taskId h
    exact h
  | cancel | clearError | setUpgradePolicy => exact hgen (Option.some.inj hm ▸ gives_keep) id id
  | _ => exact hgen (Option.some.inj hm ▸ gives_begin) id id

end FirmwareProcess

namespace FirmwareService
open FirmwareDevice
variable {p : JsonPlatform} {calculateHashCode : String → String}

/-- What holds between the calls: after a kill nothing is said before the task has been restored. -/
structure Busy (s : FirmwareService) : Prop where
  wellFormed : s.WellFormed
  unheld : s.device.Unheld
  heldBy : ∀ process ∈ s.process, s.device.HeldBy process.WorksOn

theorem busy_preserved : (lts p calculateHashCode).Preserved Busy := by
  intro s action s' hs h
  have hw := wellFormed_preserved s action s' hs h.wellFormed
  obtain ⟨call, m, hm, hs'⟩ := step_cases hs
  have hcall : Triple (fun d => d = s.device) m (fun process' d => d.Unheld ∧ ∀ q ∈ process', d.HeldBy q.WorksOn)
      Unheld := by
    rcases call_eq_some hm with ⟨startupReason, rfl, -, rfl⟩ | ⟨process, hp, hm⟩
    · have hr := (heldBy_rules (K := fun _ _ => True)).firmwareRules
      refine .bind (Q := fun _ => Unheld) (Triple.conseq (?_ : Keeps Unheld Unheld _) (fun d hd => hd ▸ h.unheld)
        (fun _ _ h => h) fun _ h => h) fun _ => .pure fun d hd => ⟨⟨hd, ?_⟩, hd⟩
      · refine hr.when fun _ => .bind (hr.write trivial) fun _ =>
          .bind (.write hr.le fun d => heldBy_rules.preferences d {})
          fun _ => .write hr.le heldBy_rules.deleteDbStore
      · rintro _ ⟨⟩
        exact hd.mono fun _ _ _ => .inl rfl
    · exact (FirmwareProcess.call_heldBy (h.wellFormed process hp) hm).conseq
        (fun d hd => hd ▸ h.heldBy process hp) (fun _ _ h => h) fun _ h => h
  obtain ⟨⟨hu, hq⟩, hcut⟩ := hcall s.device rfl
  obtain ⟨rfl, rfl⟩ | ⟨n, rfl, rfl⟩ := hs'
  · refine ⟨hw, ?_, ?_⟩
    · split
      exacts [hu, ⟨hu.length_le, hu.busy⟩]
    · split
      · rename_i process hp
        rintro _ ⟨⟩
        exact hq process hp
      · rintro _ ⟨⟩
  · refine ⟨hw, ⟨(hcut n).length_le, (hcut n).busy⟩, ?_⟩
    rintro _ ⟨⟩

/-- An install that has been found after a restart, and is begun again. -/
def installAgain : List FirmwareCall :=
  [.init .deviceReboot, .restoreUpdate { bootSlot := bootslotsAbUpdateValue }, .doInstall 0 {}]

end FirmwareService

end UpdateService
