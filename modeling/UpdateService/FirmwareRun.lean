import UpdateService.FirmwareInvariant

/-!
# The flows of a run

A flow that is still there is at a step of its mode, with the executor of that step. From this every call of a running
service keeps what `FirmwareRules` keeps, where the calls that are not covered by the rules keep it.
-/

namespace UpdateService
open Program

namespace FirmwareExecuteMode

/-- The steps at which a flow of the mode waits for its executor. -/
def steps : FirmwareExecuteMode → List FirmwareStep
  | manualCheck _ => [.checkStep]
  | autoUpgrade _ => [.checkStep, .downloadStep]
  | download _ => [.downloadStep]
  | installApply _ => [.installStep, .applyStep]
  | streamInstallApply _ => [.installStep, .applyStep]

theorem ne_of_mem_steps {mode : FirmwareExecuteMode} {step : FirmwareStep} (h : step ∈ mode.steps) :
    step ≠ .init ∧ step ≠ .complete := by
  cases mode <;> simp only [steps, List.mem_cons, List.not_mem_nil, or_false] at h <;>
    (rcases h with rfl | rfl) <;> decide

end FirmwareExecuteMode

def FirmwareExecutor.step : FirmwareExecutor → FirmwareStep
  | check => .checkStep
  | download _ _ => .downloadStep
  | install _ _ => .installStep
  | apply => .applyStep

structure FirmwareFlowManager.WellFormed (flow : FirmwareFlowManager) : Prop where
  step_mem : flow.nextStep ∈ flow.executeMode.steps
  executor : flow.executor.map FirmwareExecutor.step = some flow.nextStep

namespace FirmwareFlowManager.WellFormed
variable {flow : FirmwareFlowManager} (h : flow.WellFormed)
include h

theorem nextStep_ne : flow.nextStep ≠ .init := (FirmwareExecuteMode.ne_of_mem_steps h.step_mem).1

theorem nextStep_eq {executor : FirmwareExecutor} (he : flow.executor = some executor) :
    executor.step = flow.nextStep := by
  have := h.executor
  rw [he] at this
  exact Option.some.inj this

end FirmwareFlowManager.WellFormed

def FlowResult.WellFormed (result : FlowResult) : Prop := ∀ flow ∈ result.flow, flow.WellFormed

def FirmwareProcess.WellFormed (process : FirmwareProcess) : Prop := ∀ flow, some flow ∈ process.flows → flow.WellFormed

def FirmwareService.WellFormed (s : FirmwareService) : Prop := ∀ process ∈ s.process, process.WellFormed

/-! ### The modes -/

/-- A program gives one of the steps, or the end. -/
def StepIn (steps : List FirmwareStep) {α : Type} (x : FirmwareStep × α) : Prop := x.1 = .complete ∨ x.1 ∈ steps

namespace FirmwareProgram
variable {α : Type} {env : Surroundings} {step : FirmwareStep}

theorem gives_complete {steps : List FirmwareStep} (a : α) :
    Gives (StepIn steps) (pure (.complete, a) : FirmwareProgram (FirmwareStep × α)) :=
  .pure (.inl rfl)

theorem gives_step {steps : List FirmwareStep} {step : FirmwareStep} (h : step ∈ steps) (a : α) :
    Gives (StepIn steps) (pure (step, a) : FirmwareProgram (FirmwareStep × α)) :=
  .pure (.inr h)

theorem gives_manualCheckStep {mode : FirmwareManualCheckMode} :
    Gives (StepIn [.checkStep]) (FirmwareProgram.FirmwareManualCheckMode.getNextStep env step mode) := by
  unfold FirmwareProgram.FirmwareManualCheckMode.getNextStep
  split
  · unfold FirmwareProgram.FirmwareManualCheckMode.getStepAfterInit
    refine .bind' fun _ => .bind' fun _ => .ite (gives_complete _) (.ite (gives_complete _) ?_)
    exact .ite (gives_complete _) (gives_step (by decide) _)
  · refine .bind (P := fun step => step = .complete) ?_ fun _ h => .pure (.inl h)
    exact .ite (.pure rfl) (.bind' fun _ => .bind' fun _ => .bind' fun _ => .pure rfl)
  · exact gives_complete _

theorem gives_stepAfterDownload {endReason : String} :
    Gives (fun step => step = .complete) (FirmwareDownloadProcess.getStepAfterDownload endReason) :=
  .bind' fun _ => .ite (.pure rfl) (.bind' fun _ => .pure rfl)

theorem gives_autoUpgradeStep {mode : FirmwareAutoUpgradeMode} :
    Gives (StepIn [.checkStep, .downloadStep])
      (FirmwareProgram.FirmwareAutoUpgradeMode.getNextStep env step mode) := by
  unfold FirmwareProgram.FirmwareAutoUpgradeMode.getNextStep
  split
  · unfold FirmwareProgram.FirmwareAutoUpgradeMode.getStepAfterInit
    refine .ite (.bind' fun _ => gives_complete _) (.bind' fun _ => .ite (gives_complete _) (.bind' fun _ => ?_))
    exact .ite (gives_complete _) (gives_step (by decide) _)
  · unfold FirmwareProgram.FirmwareAutoUpgradeMode.getStepAfterCheck
    refine .ite (.bind' fun _ => gives_complete _) (.bind' fun _ => .ite ?_ ?_)
    · exact .bind' fun _ => .bind' fun _ => gives_complete _
    · unfold FirmwareProgram.FirmwareAutoUpgradeMode.handlePreDownloadStep
      refine .bind' fun _ => .ite (gives_complete _) (.ite (.bind' fun _ => gives_complete _) ?_)
      refine .ite (gives_complete _) (.ite (gives_complete _) (.bind' fun _ => .bind' fun _ => ?_))
      exact .ite (gives_complete _) (gives_step (by decide) _)
  · exact .bind' fun _ => .bind gives_stepAfterDownload fun _ h => .pure (.inl h)
  · exact gives_complete _

theorem gives_downloadStep {mode : FirmwareDownloadMode} :
    Gives (StepIn [.downloadStep]) (FirmwareProgram.FirmwareDownloadMode.getNextStep env step mode) := by
  unfold FirmwareProgram.FirmwareDownloadMode.getNextStep
  split
  · refine .bind' fun _ => .bind' fun _ => .ite (gives_complete _) (.ite (gives_complete _) ?_)
    refine .ite (gives_complete _) (.ite (gives_complete _) (.ite (gives_complete _) ?_))
    exact gives_step (by decide) _
  · exact .bind gives_stepAfterDownload fun _ h => .pure (.inl h)
  · exact gives_complete _

theorem gives_stepAfterSuccess (isSuccess : Bool) (mode : FirmwareInstallMode) :
    Gives (StepIn [.installStep, .applyStep])
      (pure (if isSuccess then mode.stepAfterSuccess else .complete, mode) : FirmwareProgram _) := by
  unfold FirmwareInstallMode.stepAfterSuccess
  split
  · split
    exacts [gives_step (by decide) _, gives_complete _]
  · exact gives_complete _

theorem gives_installApplyStep {mode : FirmwareInstallMode} :
    Gives (StepIn [.installStep, .applyStep]) (FirmwareInstallApplyMode.getNextStep env step mode) := by
  unfold FirmwareInstallApplyMode.getNextStep
  split
  · refine .bind' fun _ => .ite (gives_complete _) (.ite ?_ (.ite (gives_step (by decide) _) (gives_complete _)))
    refine .bind (P := StepIn [.installStep, .applyStep]) ?_ fun _ h => .bind' fun _ => .pure h
    refine .ite (gives_complete _) (.bind' fun _ => .ite (gives_complete _) (.bind' ?_))
    rintro ⟨isReady, mode⟩
    cases isReady
    exacts [gives_complete _, gives_step (by decide) _]
  · exact .bind' fun _ => .bind' fun _ => .bind' fun x => gives_stepAfterSuccess x.1 x.2
  · exact gives_complete _

theorem gives_streamInstallApplyStep {mode : FirmwareInstallMode} :
    Gives (StepIn [.installStep, .applyStep]) (FirmwareStreamInstallApplyMode.getNextStep env step mode) := by
  unfold FirmwareStreamInstallApplyMode.getNextStep
  split
  · refine .bind' fun mode => .ite (gives_complete _) (.ite ?_ ?_)
    · split
      exacts [gives_step (by decide) _, gives_complete _]
    · exact .ite (gives_step (by decide) _) (gives_complete _)
  · exact .bind' fun _ => .bind' fun _ => .bind' fun x => gives_stepAfterSuccess x.1 x.2
  · exact gives_complete _

/-- A step of a mode, or the end, and the mode itself with other members. -/
theorem gives_getNextStep {mode : FirmwareExecuteMode} :
    Gives (fun x => StepIn mode.steps x ∧ x.2.steps = mode.steps)
      (FirmwareProgram.FirmwareExecuteMode.getNextStep env step mode) := by
  cases mode with
  | manualCheck mode => exact .bind gives_manualCheckStep fun _ h => .pure ⟨h, rfl⟩
  | autoUpgrade mode => exact .bind gives_autoUpgradeStep fun _ h => .pure ⟨h, rfl⟩
  | download mode => exact .bind gives_downloadStep fun _ h => .pure ⟨h, rfl⟩
  | installApply mode => exact .bind gives_installApplyStep fun _ h => .pure ⟨h, rfl⟩
  | streamInstallApply mode => exact .bind gives_streamInstallApplyStep fun _ h => .pure ⟨h, rfl⟩

/-! ### The flows -/

variable {calculateHashCode : String → String} {flow : FirmwareFlowManager}

/-- What is left after `Execute` is at its new step. -/
theorem gives_execute :
    Gives FlowResult.WellFormed (FirmwareProgram.FirmwareFlowManager.execute calculateHashCode env flow) := by
  refine .bind gives_getNextStep ?_
  rintro ⟨nextStep, executeMode⟩ ⟨hstep, hsteps⟩
  dsimp only at hsteps
  refine fun d => ?_
  dsimp only
  split
  · rintro flow ⟨⟩
  · rename_i hne
    have hmem : nextStep ∈ executeMode.steps := hsteps ▸ hstep.resolve_left hne
    rintro flow ⟨⟩
    refine ⟨hmem, ?_⟩
    cases executeMode <;> simp only [FirmwareExecuteMode.steps, List.mem_cons, List.not_mem_nil, or_false] at hmem <;>
      (rcases hmem with rfl | rfl) <;> rfl

theorem gives_some (h : flow.WellFormed) :
    Gives FlowResult.WellFormed (pure { flow := some flow } : FirmwareProgram _) :=
  .pure fun _ h' => Option.some.inj h' ▸ h

theorem wellFormed_of_mode (h : flow.WellFormed) {executeMode : FirmwareExecuteMode}
    (hm : executeMode.steps = flow.executeMode.steps) : { flow with executeMode }.WellFormed :=
  ⟨hm ▸ h.step_mem, h.executor⟩

theorem wellFormed_of_executor (h : flow.WellFormed) {e : FirmwareExecutor} (he : e.step = flow.nextStep) :
    { flow with executor := some e }.WellFormed :=
  ⟨h.step_mem, congrArg some he⟩

theorem gives_onDownloadCallback (h : flow.WellFormed) {callbackInfo : FirmwareDownloadCallbackInfo} :
    Gives FlowResult.WellFormed
      (FirmwareProgram.FirmwareFlowManager.onDownloadCallback calculateHashCode env callbackInfo flow) := by
  refine .bind (P := fun mode => mode.steps = flow.executeMode.steps) ?_ fun mode hm =>
    .ite gives_execute (gives_some (wellFormed_of_mode h hm))
  cases flow.executeMode <;> exact fun _ => rfl

theorem gives_onDownloadEventCallback (h : flow.WellFormed) {downloadTaskId : String} {eventId : EventId} :
    Gives FirmwareFlowManager.WellFormed
      (FirmwareProgram.FirmwareFlowManager.onDownloadEventCallback downloadTaskId eventId flow) := by
  refine .bind (P := fun mode => mode.steps = flow.executeMode.steps) ?_ fun mode hm => .pure (wellFormed_of_mode h hm)
  cases flow.executeMode <;> exact fun _ => rfl

theorem gives_performDownload (h : flow.WellFormed) {downloadOptions : DownloadOptions}
    {components : List FirmwareComponent} :
    Gives FlowResult.WellFormed (FirmwareProgram.FirmwareDownloadExecutor.performDownload calculateHashCode env
      downloadOptions components flow) := by
  refine .ite (gives_some h) (.bind (gives_onDownloadEventCallback h) fun flow h => .bind' fun _ => ?_)
  exact .ite (gives_onDownloadCallback h) (gives_some h)

theorem gives_performResumeDownload (h : flow.WellFormed) {downloadOptions : DownloadOptions}
    {components : List FirmwareComponent} {downloadTaskId : String} :
    Gives FlowResult.WellFormed (FirmwareProgram.FirmwareDownloadExecutor.performResumeDownload calculateHashCode env
      downloadOptions components downloadTaskId flow) := by
  refine .bind' fun _ => .ite (.ite (gives_performDownload h) (gives_onDownloadCallback h)) ?_
  refine .ite (gives_onDownloadCallback h) (.ite (gives_onDownloadCallback h) ?_)
  refine .bind (gives_onDownloadEventCallback h) fun flow h => .bind' fun _ => ?_
  exact .ite (gives_some h) (.ite (gives_onDownloadCallback h) (gives_onDownloadCallback h))

theorem gives_doDownload (h : flow.WellFormed) {downloadOptions : DownloadOptions}
    (hf : flow.nextStep = .downloadStep) :
    Gives (fun result => ∀ r ∈ result, FlowResult.WellFormed r)
      (FirmwareProgram.FirmwareDownloadExecutor.doDownload calculateHashCode env downloadOptions flow) := by
  have hsome : ∀ {result : FlowResult}, result.WellFormed →
      Gives (fun result => ∀ r ∈ result, FlowResult.WellFormed r) (pure (some result) : FirmwareProgram _) :=
    fun hr => .pure fun _ he => Option.some.inj he ▸ hr
  have h := wellFormed_of_executor h (e := .download downloadOptions true) hf.symm
  refine .bind' fun _ => .ite (.pure fun _ he => ?_) (.bind' fun _ => .ite ?_ ?_)
  · cases he
  · exact .bind (gives_performDownload h) fun _ hr => hsome hr
  · exact .bind (gives_performResumeDownload h) fun _ hr => hsome hr

theorem gives_onInstallCallback (h : flow.WellFormed) {info : InstallCallbackInfo} :
    Gives FlowResult.WellFormed
      (FirmwareProgram.FirmwareFlowManager.onInstallCallback calculateHashCode env info flow) := by
  refine .bind (P := fun mode => mode.steps = flow.executeMode.steps) ?_ fun mode hm =>
    .ite gives_execute (gives_some (wellFormed_of_mode h hm))
  cases flow.executeMode <;> exact fun _ => rfl

theorem gives_doInstall (h : flow.WellFormed) {executor : FirmwareInstallExecutor} (hf : flow.nextStep = .installStep) :
    Gives FlowResult.WellFormed
      (FirmwareProgram.FirmwareInstallExecutor.doInstall calculateHashCode env executor flow) := by
  refine .bind' fun _ => .ite (gives_onInstallCallback h) (.bind' fun _ => .bind' fun _ => .bind' fun _ => ?_)
  exact gives_some (wellFormed_of_executor h (e := .install _ true) hf.symm)

theorem gives_handleInstallProgress (h : flow.WellFormed) {component : FirmwareComponent}
    {executor : FirmwareInstallExecutor} (hf : flow.nextStep = .installStep) :
    Gives FlowResult.WellFormed (FirmwareProgram.FirmwareInstallExecutor.handleInstallProgress calculateHashCode env
      component executor flow) :=
  .bind' fun _ => .bind' fun _ => gives_onInstallCallback (wellFormed_of_executor h (e := .install _ true) hf.symm)

theorem gives_doApply (h : flow.WellFormed) :
    Gives FlowResult.WellFormed (FirmwareProgram.doApply calculateHashCode env flow) :=
  .bind' fun _ => .ite gives_execute (gives_some h)

end FirmwareProgram

/-! ### Requests and events -/

namespace FirmwareProgram
variable {env : Surroundings} {calculateHashCode : String → String}

theorem gives_none (e : BusinessError := {}) :
    Gives FlowResult.WellFormed (pure { flow := none, businessError := e } : FirmwareProgram _) := by
  refine .pure ?_
  rintro _ ⟨⟩

theorem gives_requestDownload {downloadOptions : DownloadOptions} {e : BusinessError} :
    Gives FlowResult.WellFormed
      (FirmwareProgram.FirmwareManager.doDownload calculateHashCode env downloadOptions e) :=
  .bind' fun _ => gives_execute

theorem gives_requestInstall {upgradeOptions : UpgradeOptions} {e : BusinessError} {installType : InstallType} :
    Gives FlowResult.WellFormed
      (FirmwareProgram.FirmwareManager.doInstall calculateHashCode env upgradeOptions e installType) :=
  .bind' fun _ => .ite (gives_none _) (.bind' fun _ => gives_execute)

theorem gives_restoreUpdate :
    Gives FlowResult.WellFormed (FirmwareProgram.FirmwareManager.restoreUpdate calculateHashCode env) := by
  refine .bind' fun task => ?_
  split
  · exact .bind' fun _ => gives_none
  · exact .bind' fun _ => .bind' fun _ => gives_none
  · exact .bind' fun _ => .bind' fun _ => .bind' fun _ => .bind' fun _ => .bind' fun _ => gives_requestInstall
  · exact gives_none

theorem gives_handleNightUpgrade :
    Gives FlowResult.WellFormed (FirmwareProgram.FirmwareEventManager.handleNightUpgrade calculateHashCode env) := by
  refine .bind' fun _ => .bind' fun _ => .bind' fun _ => .ite (gives_none _) (.ite (gives_none _) ?_)
  exact .ite (gives_none _) (.bind' fun _ => .bind' fun _ => gives_requestInstall)

theorem gives_handleNetChanged :
    Gives FlowResult.WellFormed (FirmwareProgram.FirmwareEventManager.handleNetChanged calculateHashCode env) := by
  refine .bind' fun _ => .bind' fun _ => .ite (gives_none _) (.ite (gives_none _) (.ite gives_requestDownload ?_))
  exact .ite (.ite gives_requestDownload (gives_none _)) (gives_none _)

theorem gives_doAutoUpgrade :
    Gives FlowResult.WellFormed (FirmwareProgram.FirmwareEventManager.doAutoUpgrade calculateHashCode env) :=
  .bind' fun _ => .ite (gives_none _) gives_execute

theorem gives_download {now now' : Int} {downloadOptions : DownloadOptions} :
    Gives FlowResult.WellFormed
      (FirmwareProgram.UpdateServiceImplFirmware.download calculateHashCode env now now' downloadOptions) := by
  refine .bind' fun _ => .bind' fun _ => .bind' fun _ => ?_
  split
  · exact gives_none _
  · exact .bind' fun _ => .bind' fun _ => gives_requestDownload

theorem gives_resumeDownload {allowNetwork : NetType} :
    Gives FlowResult.WellFormed
      (FirmwareProgram.UpdateServiceImplFirmware.resumeDownload calculateHashCode env allowNetwork) := by
  refine .bind' fun _ => ?_
  split
  · exact gives_none _
  · exact .bind' fun _ => .bind' fun _ => gives_requestDownload

theorem gives_upgrade {now now' : Int} {upgradeOptions : UpgradeOptions} :
    Gives FlowResult.WellFormed
      (FirmwareProgram.UpdateServiceImplFirmware.upgrade calculateHashCode env now now' upgradeOptions) := by
  refine .bind' fun _ => .bind' fun _ => .ite (gives_none _) (.bind' fun _ => .bind' fun _ => .bind' fun _ => ?_)
  exact gives_requestInstall

end FirmwareProgram

/-! ### The process -/

namespace FirmwareProcess
variable {process : FirmwareProcess} {p : JsonPlatform} {calculateHashCode : String → String} {i : Nat}
  {env : Surroundings} {m : FirmwareProgram (Option FirmwareProcess)}

/-- A call of a flow is one of the executor of its step. -/
theorem onFlow_eq_some {call : FirmwareCall} (h : process.onFlow p calculateHashCode i call = some m) :
    ∃ flow executor, process.flow? i = some flow ∧ flow.executor = some executor ∧
      process.flowCall p calculateHashCode i flow executor call = some m := by
  obtain ⟨flow, hflow, h⟩ := Option.bind_eq_some_iff.1 h
  obtain ⟨executor, he, h⟩ := Option.bind_eq_some_iff.1 h
  exact ⟨flow, executor, hflow, he, h⟩

theorem call_doCheck {content : Option String}
    (h : process.call p calculateHashCode (.doCheck i env content) = some m) :
    ∃ flow, process.flow? i = some flow ∧ flow.executor = some .check ∧
      m = process.goOn i (FirmwareProgram.doCheck p calculateHashCode env content flow) := by
  obtain ⟨flow, executor, hflow, he, h⟩ := onFlow_eq_some h
  cases executor with
  | check => exact ⟨flow, hflow, he, (Option.some.inj h).symm⟩
  | _ => cases h

theorem call_doDownload (h : process.call p calculateHashCode (.doDownload i env) = some m) :
    ∃ flow downloadOptions, process.flow? i = some flow ∧ flow.executor = some (.download downloadOptions false) ∧
      m = (do
        let result ← FirmwareProgram.FirmwareDownloadExecutor.doDownload calculateHashCode env downloadOptions flow
        return result.map fun result => { process with flows := process.flows.set i result.flow }) := by
  obtain ⟨flow, executor, hflow, he, h⟩ := onFlow_eq_some h
  cases executor with
  | download downloadOptions isStarted =>
    cases isStarted with
    | false => exact ⟨flow, downloadOptions, hflow, he, (Option.some.inj h).symm⟩
    | true => cases h
  | _ => cases h

theorem call_downloadCallback {taskId : String} {progressInfo : ProgressInfo}
    (h : process.call p calculateHashCode (.downloadCallback i env taskId progressInfo) = some m) :
    ∃ flow downloadOptions, process.flow? i = some flow ∧ flow.executor = some (.download downloadOptions true) ∧
      m = process.goOn i (FirmwareProgram.FirmwareFlowManager.onDownloadCallback calculateHashCode env
        (FirmwareDownloadExecutor.callbackProgress taskId progressInfo) flow) := by
  obtain ⟨flow, executor, hflow, he, h⟩ := onFlow_eq_some h
  cases executor with
  | download downloadOptions isStarted =>
    cases isStarted with
    | true => exact ⟨flow, downloadOptions, hflow, he, (Option.some.inj h).symm⟩
    | false => cases h
  | _ => cases h

theorem call_doInstall (h : process.call p calculateHashCode (.doInstall i env) = some m) :
    ∃ flow executor, process.flow? i = some flow ∧ flow.executor = some (.install executor false) ∧
      m = process.goOn i (FirmwareProgram.FirmwareInstallExecutor.doInstall calculateHashCode env executor flow) := by
  obtain ⟨flow, executor, hflow, he, h⟩ := onFlow_eq_some h
  cases executor with
  | install executor isStarted =>
    cases isStarted with
    | false => exact ⟨flow, executor, hflow, he, (Option.some.inj h).symm⟩
    | true => cases h
  | _ => cases h

/-- The calls that follow the body of an install. -/
theorem flowCall_installing {flow : FirmwareFlowManager} {executor : FirmwareExecutor} {call : FirmwareCall}
    (hc : (∃ status, call = .installStart i status) ∨ (∃ env component, call = .installProgress i env component) ∨
      ∃ env isSuccess errMsg status, call = .installResult i env isSuccess errMsg status)
    (h : process.flowCall p calculateHashCode i flow executor call = some m) :
    ∃ e, executor = .install e true := by
  rcases hc with ⟨status, rfl⟩ | ⟨env, component, rfl⟩ | ⟨env, isSuccess, errMsg, status, rfl⟩ <;>
  · cases executor with
    | install e isStarted =>
      cases isStarted with
      | true => exact ⟨e, rfl⟩
      | false => cases h
    | _ => cases h

theorem call_installStart {status : UpgradeStatus}
    (h : process.call p calculateHashCode (.installStart i status) = some m) :
    ∃ flow executor, process.flow? i = some flow ∧ flow.executor = some (.install executor true) ∧
      m = process.keep
        (FirmwareProgram.FirmwareCallbackUtils.notifyEvent executor.tasks.taskId .eventUpgradeStart status) := by
  obtain ⟨flow, executor, hflow, he, h⟩ := onFlow_eq_some h
  obtain ⟨e, rfl⟩ := flowCall_installing (.inl ⟨status, rfl⟩) h
  exact ⟨flow, e, hflow, he, (Option.some.inj h).symm⟩

theorem call_installProgress {component : FirmwareComponent}
    (h : process.call p calculateHashCode (.installProgress i env component) = some m) :
    ∃ flow executor, process.flow? i = some flow ∧ flow.executor = some (.install executor true) ∧
      m = process.goOn i (FirmwareProgram.FirmwareInstallExecutor.handleInstallProgress calculateHashCode env component
        executor flow) := by
  obtain ⟨flow, executor, hflow, he, h⟩ := onFlow_eq_some h
  obtain ⟨e, rfl⟩ := flowCall_installing (.inr (.inl ⟨env, component, rfl⟩)) h
  exact ⟨flow, e, hflow, he, (Option.some.inj h).symm⟩

theorem call_installResult {isSuccess : Bool} {errMsg : ErrorMessage} {status : UpgradeStatus}
    (h : process.call p calculateHashCode (.installResult i env isSuccess errMsg status) = some m) :
    ∃ flow executor, process.flow? i = some flow ∧ flow.executor = some (.install executor true) ∧
      m = process.goOn i (FirmwareProgram.FirmwareInstallExecutor.handleInstallResult calculateHashCode env isSuccess
        errMsg status executor flow) := by
  obtain ⟨flow, executor, hflow, he, h⟩ := onFlow_eq_some h
  obtain ⟨e, rfl⟩ := flowCall_installing (.inr (.inr ⟨env, isSuccess, errMsg, status, rfl⟩)) h
  exact ⟨flow, e, hflow, he, (Option.some.inj h).symm⟩

theorem call_doApply (h : process.call p calculateHashCode (.doApply i env) = some m) :
    ∃ flow, process.flow? i = some flow ∧ flow.executor = some .apply ∧
      m = process.goOn i (FirmwareProgram.doApply calculateHashCode env flow) := by
  obtain ⟨flow, executor, hflow, he, h⟩ := onFlow_eq_some h
  cases executor with
  | apply => exact ⟨flow, hflow, he, (Option.some.inj h).symm⟩
  | _ => cases h

end FirmwareProcess


namespace FirmwareProcess.WellFormed
variable {process : FirmwareProcess} (h : process.WellFormed)
include h

theorem flow {i : Nat} {flow : FirmwareFlowManager} (hf : process.flow? i = some flow) : flow.WellFormed :=
  h flow (List.mem_of_getElem? (Option.join_eq_some_iff.1 hf))

theorem begin {m : FirmwareProgram FlowResult} (hm : Gives FlowResult.WellFormed m) :
    Gives (fun process => ∀ process' ∈ process, FirmwareProcess.WellFormed process') (process.begin m) := by
  refine .bind hm fun result hr => .pure ?_
  rintro _ ⟨⟩ flow hf
  rcases List.mem_append.1 hf with hf | hf
  exacts [h flow hf, hr flow (List.mem_singleton.1 hf).symm]

theorem set (i : Nat) {flow : Option FirmwareFlowManager} (hf : ∀ f ∈ flow, f.WellFormed) :
    FirmwareProcess.WellFormed { process with flows := process.flows.set i flow } := by
  intro f hmem
  rcases List.mem_or_eq_of_mem_set hmem with hmem | he
  exacts [h f hmem, hf f he.symm]

theorem goOn (i : Nat) {m : FirmwareProgram FlowResult} (hm : Gives FlowResult.WellFormed m) :
    Gives (fun process => ∀ process' ∈ process, FirmwareProcess.WellFormed process') (process.goOn i m) := by
  refine .bind hm fun result hr => .pure ?_
  rintro _ ⟨⟩
  exact h.set i hr

theorem keep {α : Type} {m : FirmwareProgram α} :
    Gives (fun process => ∀ process' ∈ process, FirmwareProcess.WellFormed process') (process.keep m) := by
  refine .bind' fun _ => .pure ?_
  rintro _ ⟨⟩
  exact h

theorem call {p : JsonPlatform} {calculateHashCode : String → String} {call : FirmwareCall}
    {m : FirmwareProgram (Option FirmwareProcess)} (hm : process.call p calculateHashCode call = some m) :
    Gives (fun process => ∀ process' ∈ process, FirmwareProcess.WellFormed process') m := by
  have hbegin : ∀ {m' : FirmwareProgram FlowResult}, Gives FlowResult.WellFormed m' →
      some (process.begin m') = some m →
        Gives (fun process => ∀ process' ∈ process, FirmwareProcess.WellFormed process') m :=
    fun hg he => Option.some.inj he ▸ h.begin hg
  cases call with
  | init startupReason => cases hm
  | restoreUpdate env =>
    simp only [FirmwareProcess.call] at hm
    split at hm
    · have h : FirmwareProcess.WellFormed { process with delayInit := some .handleEvent } := h
      exact Option.some.inj hm ▸ h.begin FirmwareProgram.gives_restoreUpdate
    · cases hm
  | handleEvent env =>
    simp only [FirmwareProcess.call] at hm
    split at hm
    · obtain rfl := Option.some.inj hm
      refine .bind' fun _ => .bind' fun isRunning => .pure ?_
      split
      · rintro _ ⟨⟩
        exact h
      · rintro _ ⟨⟩
    · cases hm
  | checkNewVersion env => exact hbegin FirmwareProgram.gives_execute hm
  | download env now now' downloadOptions => exact hbegin FirmwareProgram.gives_download hm
  | resumeDownload env allowNetwork => exact hbegin FirmwareProgram.gives_resumeDownload hm
  | upgrade env now now' upgradeOptions => exact hbegin FirmwareProgram.gives_upgrade hm
  | cancel env => exact Option.some.inj hm ▸ h.keep
  | clearError => exact Option.some.inj hm ▸ h.keep
  | setUpgradePolicy downloadStrategy autoUpgradeStrategy => exact Option.some.inj hm ▸ h.keep
  | netChanged env => exact hbegin FirmwareProgram.gives_handleNetChanged hm
  | nightUpgrade env => exact hbegin FirmwareProgram.gives_handleNightUpgrade hm
  | autoUpgrade env => exact hbegin FirmwareProgram.gives_doAutoUpgrade hm
  | doCheck i env content =>
    obtain ⟨flow, -, -, rfl⟩ := FirmwareProcess.call_doCheck hm
    exact h.goOn i (.bind' fun _ => .bind' fun _ => .bind' fun _ => FirmwareProgram.gives_execute)
  | doDownload i env =>
    obtain ⟨flow, downloadOptions, hflow, he, rfl⟩ := FirmwareProcess.call_doDownload hm
    have hf := h.flow hflow
    refine .bind (FirmwareProgram.gives_doDownload hf (hf.nextStep_eq he).symm) fun result hr => .pure ?_
    intro _ he
    obtain ⟨result, rfl, rfl⟩ := Option.map_eq_some_iff.1 he
    exact h.set i (hr result rfl)
  | downloadCallback i env taskId progressInfo =>
    obtain ⟨flow, downloadOptions, hflow, he, rfl⟩ := FirmwareProcess.call_downloadCallback hm
    exact h.goOn i (FirmwareProgram.gives_onDownloadCallback (h.flow hflow))
  | doInstall i env =>
    obtain ⟨flow, executor, hflow, he, rfl⟩ := FirmwareProcess.call_doInstall hm
    exact h.goOn i (FirmwareProgram.gives_doInstall (h.flow hflow) ((h.flow hflow).nextStep_eq he).symm)
  | installStart i status =>
    obtain ⟨flow, executor, hflow, he, rfl⟩ := FirmwareProcess.call_installStart hm
    exact h.keep
  | installProgress i env component =>
    obtain ⟨flow, executor, hflow, he, rfl⟩ := FirmwareProcess.call_installProgress hm
    exact h.goOn i (FirmwareProgram.gives_handleInstallProgress (h.flow hflow) ((h.flow hflow).nextStep_eq he).symm)
  | installResult i env isSuccess errMsg status =>
    obtain ⟨flow, executor, hflow, he, rfl⟩ := FirmwareProcess.call_installResult hm
    exact h.goOn i (.bind' fun _ => FirmwareProgram.gives_onInstallCallback (h.flow hflow))
  | doApply i env =>
    obtain ⟨flow, hflow, he, rfl⟩ := FirmwareProcess.call_doApply hm
    exact h.goOn i (FirmwareProgram.gives_doApply (h.flow hflow))
  | manager op => exact Option.some.inj hm ▸ .bind' fun _ => .bind' fun _ => .pure fun _ he => Option.some.inj he ▸ h

end FirmwareProcess.WellFormed

/-! ### The service -/

/-- The call runs to its end, or the process is killed before its first write. -/
def FirmwareAction.IsWhole : FirmwareAction → Prop
  | run _ => True
  | kill _ writes => writes = 0

namespace FirmwareService
variable {p : JsonPlatform} {calculateHashCode : String → String} {s s' : FirmwareService} {action : FirmwareAction}

/-- What a step can be. -/
theorem step_cases (h : (lts p calculateHashCode).step s action s') :
    ∃ call m, s.call p calculateHashCode call = some m ∧
      ((action = .run call ∧ s' =
        match m.answer s.device with
        | some process => { device := m.final s.device, process := some process }
        | none => { device := (m.final s.device).restarted }) ∨
      ∃ n, action = .kill call n ∧ s' = { device := (m.cut n s.device).restarted }) := by
  cases action with
  | run call =>
    obtain ⟨m, hm, he⟩ := Option.map_eq_some_iff.1 h
    exact ⟨call, m, hm, .inl ⟨rfl, he.symm⟩⟩
  | kill call n =>
    obtain ⟨m, hm, he⟩ := Option.map_eq_some_iff.1 h
    exact ⟨call, m, hm, .inr ⟨n, rfl, he.symm⟩⟩

theorem call_eq_some {call : FirmwareCall} {m : FirmwareProgram (Option FirmwareProcess)}
    (h : s.call p calculateHashCode call = some m) :
    (∃ startupReason, call = .init startupReason ∧ s.process = none ∧ m = (do
      FirmwareProgram.FirmwareManager.init startupReason
      return some { delayInit := some .restoreUpdate, startupReason })) ∨
    ∃ process, s.process = some process ∧ process.call p calculateHashCode call = some m := by
  unfold FirmwareService.call at h
  split at h
  · rename_i hp
    exact .inl ⟨_, rfl, hp, (Option.some.inj h).symm⟩
  · cases h
  · rename_i process hp
    exact .inr ⟨process, hp, h⟩

theorem gives_call (h : s.WellFormed) {call : FirmwareCall} {m : FirmwareProgram (Option FirmwareProcess)}
    (hm : s.call p calculateHashCode call = some m) :
    Gives (fun process => ∀ process' ∈ process, FirmwareProcess.WellFormed process') m := by
  rcases call_eq_some hm with ⟨startupReason, rfl, -, rfl⟩ | ⟨process, hp, hm⟩
  · refine .bind' fun _ => .pure ?_
    rintro _ ⟨⟩ flow hf
    cases hf
  · exact (h process hp).call hm

/-- A device that is off. -/
theorem wellFormed_off (d : FirmwareDevice) : WellFormed { device := d } := by
  rintro _ ⟨⟩

theorem wellFormed_preserved : (lts p calculateHashCode).Preserved WellFormed := by
  intro s action s' hs h
  obtain ⟨call, m, hm, ⟨rfl, rfl⟩ | ⟨n, rfl, rfl⟩⟩ := step_cases hs
  · have hg := gives_call h hm s.device
    split
    · rename_i process hp
      rintro _ ⟨⟩
      exact hg process hp
    · rintro _ ⟨⟩
  · rintro _ ⟨⟩

/-- A property of the device with what is left of it where the process does not survive. -/
theorem device_step {I C J : FirmwareDevice → Prop} (hs : (lts p calculateHashCode).step s action s')
    (hm : ∀ call m, s.call p calculateHashCode call = some m → action = .run call ∨ (∃ n, action = .kill call n) →
      Triple I m (fun _ => J) C)
    (hrun : ∀ d, J d → J d.restarted) (hkill : ∀ d, C d → J d.restarted) (h : I s.device) : J s'.device := by
  obtain ⟨call, m, hcall, ⟨rfl, rfl⟩ | ⟨n, rfl, rfl⟩⟩ := step_cases hs
  · have hf := ((hm call m hcall (.inl rfl)) s.device h).1
    split
    exacts [hf, hrun _ hf]
  · exact hkill _ (((hm call m hcall (.inr ⟨n, rfl⟩)) s.device h).2 n)

/-- A property that a process keeps between its calls, if it dies only there. -/
theorem device_step_whole {I C J : FirmwareDevice → Prop} (hs : (lts p calculateHashCode).step s action s')
    (hw : action.IsWhole)
    (hm : ∀ call m, s.call p calculateHashCode call = some m → action = .run call → Triple I m (fun _ => J) C)
    (hrun : ∀ d, J d → J d.restarted) (hkill : ∀ d, I d → J d.restarted) (h : I s.device) : J s'.device := by
  obtain ⟨call, m, hcall, ⟨rfl, rfl⟩ | ⟨n, rfl, rfl⟩⟩ := step_cases hs
  · have hf := ((hm call m hcall rfl) s.device h).1
    split
    exacts [hf, hrun _ hf]
  · obtain rfl : n = 0 := hw
    exact hkill _ h

end FirmwareService

/-! ### The calls -/

/-- The calls that may begin an install, with the surroundings that it finds. -/
def FirmwareCall.BeginsInstall (env : Surroundings) : FirmwareCall → Prop
  | .restoreUpdate env' | .upgrade env' _ _ _ | .nightUpgrade env' => env' = env
  | _ => False

/-- The calls of a download, and those of an install, that may put a task into such a status. -/
def FirmwareCall.IsDownload : FirmwareCall → Prop
  | .doDownload _ _ | .downloadCallback _ _ _ _ => True
  | _ => False

def FirmwareCall.IsInstall : FirmwareCall → Prop
  | .doInstall _ _ | .installProgress _ _ _ => True
  | _ => False

namespace FirmwareRules
variable {A : UpgradeStatus → Prop} {I J C : FirmwareDevice → Prop} (h : FirmwareRules A I C) {p : JsonPlatform}
  {calculateHashCode : String → String} {s : FirmwareService} {call : FirmwareCall}
  {m : FirmwareProgram (Option FirmwareProcess)}
include h

theorem begin {process : FirmwareProcess} {m : FirmwareProgram FlowResult} (hm : Triple J m (fun _ => I) C) :
    Triple J (process.begin m) (fun _ => I) C :=
  .bind hm fun _ => h.pure

theorem goOn {process : FirmwareProcess} {i : Nat} {m : FirmwareProgram FlowResult} (hm : Triple J m (fun _ => I) C) :
    Triple J (process.goOn i m) (fun _ => I) C :=
  .bind hm fun _ => h.pure

theorem keep {α : Type} {process : FirmwareProcess} {m : FirmwareProgram α} (hm : Keeps I C m) :
    Keeps I C (process.keep m) :=
  .bind hm fun _ => h.pure

/-- A call leads from a property to a second one that is weaker. What the rules leave open is asked for only where the
call comes to it. -/
theorem leads_call (h' : FirmwareRules A J C) (hJ : ∀ d, I d → J d) (hs : s.WellFormed)
    (hm : s.call p calculateHashCode call = some m)
    (hinit : ∀ startupReason, call = .init startupReason →
      Triple I (FirmwareProgram.FirmwareManager.init startupReason) (fun _ => J) C)
    (hcheck : ∀ i env content, call = .doCheck i env content → ∀ flow : FirmwareFlowManager, flow.nextStep ≠ .init →
      Triple I (FirmwareProgram.doCheck p calculateHashCode env content flow) (fun _ => J) C)
    (hbefore : ∀ env, call.BeginsInstall env → ∀ task,
      Triple I (FirmwareProgram.FirmwareUpgradeProcessor.processBeforeUpgrade env task) (fun _ => J) C)
    (hnight : ∀ env, call = .nightUpgrade env → ∀ taskId d, I d →
      I (Store.apply d (DeviceWrite.updateUpgradeModeByTaskId taskId .night)))
    (hboot : ∀ env, call = .handleEvent env →
      Triple I (FirmwareProgram.FirmwareEventManager.handleBootComplete env) (fun _ => J) C)
    (hdownload : call.IsDownload → A .downloading) (hinstall : call.IsInstall → A .installing ∧ A .updating) :
    Triple I m (fun _ => J) C := by
  rcases FirmwareService.call_eq_some hm with ⟨startupReason, rfl, -, rfl⟩ | ⟨process, hp, hm⟩
  · exact .bind (hinit startupReason rfl) fun _ => h'.pure
  have hflow : ∀ {i : Nat} {flow : FirmwareFlowManager}, process.flow? i = some flow → flow.nextStep ≠ .init :=
    fun hf => ((hs process hp).flow hf).nextStep_ne
  have hbegin : ∀ {m' : FirmwareProgram FlowResult}, Keeps I C m' → some (process.begin m') = some m →
      Triple I m (fun _ => J) C := fun hm' he => Option.some.inj he ▸ Keeps.weaken (h.begin hm') hJ
  have hkeep : ∀ {α : Type} {m' : FirmwareProgram α}, Keeps I C m' → some (process.keep m') = some m →
      Triple I m (fun _ => J) C := fun hm' he => Option.some.inj he ▸ Keeps.weaken (h.keep hm') hJ
  cases call with
  | init startupReason => cases hm
  | restoreUpdate env =>
    simp only [FirmwareProcess.call] at hm
    split at hm
    · exact Option.some.inj hm ▸ h'.begin (h.restoreUpdate (T := fun _ => True) h' hJ (fun _ _ => trivial)
        fun task _ => hbefore env rfl task)
    · cases hm
  | handleEvent env =>
    simp only [FirmwareProcess.call] at hm
    split at hm
    · obtain rfl := Option.some.inj hm
      exact .bind h.notifyInitEvent fun _ => .bind (.ite (fun _ => hboot env rfl) fun _ => h.pure.weaken hJ)
        fun _ => h'.pure
    · cases hm
  | checkNewVersion env =>
    exact hbegin (h.start fun _ => ⟨FirmwareExecuteMode.noConfusion, FirmwareExecuteMode.noConfusion⟩) hm
  | download env now now' downloadOptions => exact hbegin h.download hm
  | resumeDownload env allowNetwork => exact hbegin h.resumeDownload hm
  | upgrade env now now' upgradeOptions =>
    exact Option.some.inj hm ▸ h'.begin (h.upgrade (T := fun _ => True) h' hJ (fun _ _ => trivial)
      (fun task _ => hbefore env rfl task) h hJ fun d => h.elementary (.updateUpgradeModeByTaskId _ _) rfl d)
  | cancel env => exact hkeep h.cancel hm
  | clearError => exact hkeep h.clearError hm
  | setUpgradePolicy downloadStrategy autoUpgradeStrategy => exact hkeep h.setUpgradePolicy hm
  | netChanged env => exact hbegin h.handleNetChanged hm
  | nightUpgrade env =>
    exact Option.some.inj hm ▸ h'.begin (h.handleNightUpgrade (T := fun _ => True) h' hJ (fun _ _ => trivial)
      (fun task _ => hbefore env rfl task) (hnight env rfl))
  | autoUpgrade env => exact hbegin h.doAutoUpgrade hm
  | doCheck i env content =>
    obtain ⟨flow, hf, -, rfl⟩ := FirmwareProcess.call_doCheck hm
    exact h'.goOn (hcheck i env content rfl flow (hflow hf))
  | doDownload i env =>
    obtain ⟨flow, downloadOptions, hf, -, rfl⟩ := FirmwareProcess.call_doDownload hm
    exact Keeps.weaken (.bind (h.doDownload (hflow hf) (hdownload trivial)) fun _ => h.pure) hJ
  | downloadCallback i env taskId progressInfo =>
    obtain ⟨flow, downloadOptions, hf, -, rfl⟩ := FirmwareProcess.call_downloadCallback hm
    exact Keeps.weaken (h.goOn (h.onDownloadCallback (hflow hf) (h.upgradeStatus (hdownload trivial) _)
      (callbackProgress_status _ progressInfo))) hJ
  | doInstall i env =>
    obtain ⟨flow, executor, hf, -, rfl⟩ := FirmwareProcess.call_doInstall hm
    exact Keeps.weaken (h.goOn (h.doInstall (hflow hf) (hinstall trivial).1 (hinstall trivial).2)) hJ
  | installStart i status =>
    obtain ⟨flow, executor, hf, -, rfl⟩ := FirmwareProcess.call_installStart hm
    exact Keeps.weaken (h.keep (h.notifyEvent (by decide))) hJ
  | installProgress i env component =>
    obtain ⟨flow, executor, hf, -, rfl⟩ := FirmwareProcess.call_installProgress hm
    exact Keeps.weaken (h.goOn (h.handleInstallProgress (hflow hf) (hinstall trivial).1)) hJ
  | installResult i env isSuccess errMsg status =>
    obtain ⟨flow, executor, hf, -, rfl⟩ := FirmwareProcess.call_installResult hm
    exact Keeps.weaken (h.goOn (h.handleInstallResult (hflow hf))) hJ
  | doApply i env =>
    obtain ⟨flow, hf, -, rfl⟩ := FirmwareProcess.call_doApply hm
    exact Keeps.weaken (h.goOn (h.doApply (hflow hf))) hJ
  | manager op =>
    exact Option.some.inj hm ▸ Keeps.weaken (.bind h.read fun _ => .bind (h.write trivial) fun _ => h.pure) hJ

end FirmwareRules

/-! ### Properties of the tables -/

/-- The rules for a property that the preferences, the bell and the notices have nothing to do with. -/
structure TableRules (A : UpgradeStatus → Prop) (I C : FirmwareDevice → Prop) : Prop where
  le : ∀ d, I d → C d
  rest : ∀ status : UpgradeStatus, status ≠ .downloading → status ≠ .installing → status ≠ .updating → A status
  elementary : ∀ w : DeviceWrite, w.IsElementary A → ∀ d, I d → I (Store.apply d w)
  preferences : ∀ (d : FirmwareDevice) (p : FirmwarePreferences), I d → I (Store.apply d (DeviceWrite.preferences p))
  bell : ∀ (d : FirmwareDevice) (isBellOn : Bool), I d → I (Store.apply d (DeviceWrite.bell isBellOn))
  notice : ∀ (d : FirmwareDevice) (e : InnerApi.EventInfo), I d → I (Store.apply d (DeviceWrite.notice e))
  night : ∀ taskId d, I d → I (Store.apply d (DeviceWrite.updateUpgradeModeByTaskId taskId .night))
  deleteDbStore : ∀ d, I d → I (Store.apply d DeviceWrite.deleteDbStore)
  clear : Keeps I C FirmwareProgram.FirmwareUpdateHelper.clearFirmwareInfo

namespace TableRules
open FirmwareProgram
variable {A : UpgradeStatus → Prop} {I C : FirmwareDevice → Prop} (h : TableRules A I C)
include h

theorem firmwareRules : FirmwareRules A I C where
  le := h.le
  rest := h.rest
  elementary := h.elementary
  preferences d p _ := h.preferences d p
  clear := h.clear
  after := keeps_processAfterUpgrade h.le h.preferences fun d => h.bell d true

theorem success (task : FirmwareTaskRow) : Keeps I C (FirmwareEventManager.handleBootUpdateSuccess task) := by
  unfold FirmwareEventManager.handleBootUpdateSuccess FirmwareEventManager.saveHotaCurrentVersionComponentId
  have hsave := keeps_save h.le h.preferences
  refine .bind (hsave _) fun _ => .bind (.read h.le) fun _ => .bind (.bind (.read h.le) fun _ => ?_) fun _ => ?_
  · split
    exacts [.pure h.le, hsave _]
  · exact .when h.le fun _ => .bind (.write h.le fun d => h.notice d _) fun _ => h.clear

/-- Of a call, only what an answer of the server does to the tables is left to be proved. -/
theorem keeps_call {p : JsonPlatform} {calculateHashCode : String → String} {s : FirmwareService} {call : FirmwareCall}
    {m : FirmwareProgram (Option FirmwareProcess)} (hs : s.WellFormed) (hm : s.call p calculateHashCode call = some m)
    (hnew : ∀ (q : FirmwareCheckDataProcessor) (content : Option String),
      q.componentList = (checkComponents p content).2 → q.componentList ≠ [] →
      Keeps I C (FirmwareProgram.FirmwareCheckDataProcessor.handleNewVersion calculateHashCode q))
    (hdownload : call.IsDownload → A .downloading) (hinstall : call.IsInstall → A .installing ∧ A .updating) :
    Keeps I C m := by
  have hr := h.firmwareRules
  refine hr.leads_call hr (fun _ hd => hd) hs hm ?_ ?_
    (fun env _ => keeps_processBeforeUpgrade h.le h.preferences (fun d => h.bell d false) env)
    (fun _ _ => h.night) ?_ hdownload hinstall
  · intro startupReason _
    refine hr.when fun _ => .bind (hr.write trivial) fun _ =>
      .bind (.write h.le fun d => h.preferences d {}) fun _ => ?_
    exact .write h.le h.deleteDbStore
  · intro i env content _ flow hf
    exact hr.doCheck hr (fun _ hd => hd) (fun _ hd => hd) hf fun q => hnew q content
  · exact fun env _ => hr.handleBootComplete h.success

end TableRules

end UpdateService
