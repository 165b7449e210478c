import UpdateService.Proofs.TablesAgree

/-!
# Components without a task

A process that is killed between the two inserts of `HandleNewVersion` leaves the components of a version and no task.
As long as the server offers the same version nothing makes the task up: every check finds a new version that is
already known, and every request on it is refused, over any number of calls, restarts and kills.
-/

namespace UpdateService
open Program

/-- The components are there and their task is not. -/
def FirmwareDevice.Torn (components : List FirmwareComponent) (d : FirmwareDevice) : Prop :=
  d.taskTable = [] ∧ d.componentTable = components

/-- An answer of the server, or none, that has nothing else to offer than the components. -/
def SameAnswer (p : JsonPlatform) (components : List FirmwareComponent) (content : Option String) : Prop :=
  FirmwareCheckDataProcessor.isCheckFailed (FirmwareProgram.checkComponents p content).1 = true ∨
    (FirmwareProgram.checkComponents p content).2 ≠ [] ∧
      FirmwareCheckDataProcessor.isVersionSameWithDb (FirmwareProgram.checkComponents p content).2 components = true

/-- The preferences are not reset, and the server goes on to offer the components. -/
def FirmwareCall.OffersSame (p : JsonPlatform) (components : List FirmwareComponent) : FirmwareCall → Prop
  | .init startupReason => startupReason ≠ .processEnvReset
  | .doCheck _ _ content => SameAnswer p components content
  | _ => True

/-- Nothing but checks is going on. -/
def FirmwareProcess.Checking (process : FirmwareProcess) : Prop :=
  ∀ flow, some flow ∈ process.flows → flow.nextStep = .checkStep

namespace FirmwareDevice
variable {components : List FirmwareComponent} {p : JsonPlatform} {calculateHashCode : String → String}
  {env : Surroundings}

/-! ### What is asked of torn tables -/

theorem torn_save (f : FirmwarePreferences → FirmwarePreferences) :
    Yields (Torn components) (fun _ => True) (FirmwareProgram.FirmwarePreferencesUtil.save f) :=
  .bind .ask fun _ _ => .write fun d (hd : Torn components d) => hd

theorem torn_queryTask :
    Yields (Torn components) (fun task => task = {}) FirmwareProgram.FirmwareTaskOperator.queryTask :=
  .read fun d hd => by rw [hd.1]; rfl

theorem torn_queryTaskTo (task : FirmwareTaskRow) :
    Yields (Torn components) (fun t => t = { task with isExistTask := false })
      (FirmwareProgram.FirmwareTaskOperator.queryTaskTo task) :=
  .read fun _ hd => if_pos hd.1

theorem torn_getInstallType :
    Yields (Torn components) (fun _ => True) (FirmwareProgram.FirmwareUpdateHelper.getInstallType env) :=
  .bind .ask fun _ _ => .pure trivial

theorem torn_notifyEvent {digest : String} {eventId : InnerApi.EventId} {status : UpgradeStatus} {e : ErrorMessage}
    {versionComponents : List InnerApi.VersionComponent} {progress : Int} :
    Yields (Torn components) (fun _ => True)
      (FirmwareProgram.FirmwareCallbackUtils.notifyEvent digest eventId status e versionComponents progress) :=
  .write fun _ hd => hd

/-! ### The flows -/

/-- The flow is a check that goes on, or it has come to its end. -/
def OnlyChecks (result : FlowResult) : Prop := ∀ flow ∈ result.flow, flow.nextStep = .checkStep

theorem onlyChecks_none (e : BusinessError := {}) : OnlyChecks { flow := none, businessError := e } := by
  rintro _ ⟨⟩

theorem torn_handleComplete (mode : FirmwareExecuteMode) :
    Yields (Torn components) (fun _ => True)
      (FirmwareProgram.FirmwareExecuteMode.handleComplete calculateHashCode env mode) := by
  cases mode with
  | manualCheck mode =>
    refine .bind (R := fun _ => True) (.ite (fun _ => .pure trivial) fun _ => .bind .ask fun _ _ => ?_)
      fun _ _ => .pure trivial
    refine .ite (fun _ => .pure trivial) fun _ => .bind (R := fun _ => True) (.bind torn_getInstallType fun _ _ => ?_)
      fun _ _ => .pure trivial
    split <;> exact .pure trivial
  | _ => exact .pure trivial

/-- A step of a mode that leads to a check or to the end. -/
theorem torn_execute {flow : FirmwareFlowManager}
    (h : Yields (Torn components) (fun x => x.1 = .complete ∨ x.1 = .checkStep)
      (FirmwareProgram.FirmwareExecuteMode.getNextStep env flow.nextStep flow.executeMode)) :
    Yields (Torn components) OnlyChecks (FirmwareProgram.FirmwareFlowManager.execute calculateHashCode env flow) := by
  unfold FirmwareProgram.FirmwareFlowManager.execute
  refine .bind h ?_
  rintro ⟨nextStep, executeMode⟩ hstep
  refine .ite (fun _ => .bind (torn_handleComplete executeMode) fun _ _ => .pure ?_) fun hne => ?_
  · rintro _ ⟨⟩
  · obtain rfl := hstep.resolve_left hne
    refine .bind (R := fun _ => True) (.bind .ask fun _ _ => .write fun _ hd => hd) fun _ _ => .pure ?_
    rintro _ ⟨⟩
    rfl

theorem torn_doCheck_start :
    Yields (Torn components) OnlyChecks (FirmwareProgram.FirmwareManager.doCheck calculateHashCode env) := by
  refine torn_execute (.bind (R := fun x => x.1 = .complete ∨ x.1 = .checkStep) ?_ fun x hx => .pure hx)
  refine .bind .ask fun _ _ => .bind (R := fun _ => True) (.bind torn_queryTask fun _ _ => .pure trivial) fun _ _ => ?_
  refine .ite (fun _ => .pure (.inl rfl)) fun _ => .ite (fun _ => .pure (.inl rfl)) fun _ => ?_
  exact .ite (fun _ => .pure (.inl rfl)) fun _ => .pure (.inr rfl)

theorem torn_doAutoUpgrade :
    Yields (Torn components) OnlyChecks (FirmwareProgram.FirmwareEventManager.doAutoUpgrade calculateHashCode env) := by
  refine .bind torn_queryTask fun _ _ => .ite (fun _ => .pure (onlyChecks_none _)) fun _ => ?_
  refine torn_execute (.bind (R := fun x => x.1 = .complete ∨ x.1 = .checkStep) ?_ fun x hx => .pure hx)
  refine .ite (fun _ => .bind (torn_save _) fun _ _ => .pure (.inl rfl)) fun _ => .bind .ask fun _ _ => ?_
  refine .ite (fun _ => .pure (.inl rfl)) fun _ => .bind (torn_queryTaskTo _) fun _ _ => ?_
  exact .ite (fun _ => .pure (.inl rfl)) fun _ => .pure (.inr rfl)

/-- An install finds no task. -/
theorem torn_doInstall {upgradeOptions : UpgradeOptions} {e : BusinessError} {installType : InstallType} :
    Yields (Torn components) OnlyChecks
      (FirmwareProgram.FirmwareManager.doInstall calculateHashCode env upgradeOptions e installType) := by
  have hget : ∀ mode : FirmwareInstallMode, mode.tasks = {} → Yields (Torn components)
      (fun mode : FirmwareInstallMode => mode.tasks.isExistTask = false)
      (FirmwareProgram.FirmwareInstallApplyMode.getTask mode) := by
    intro mode hm
    unfold FirmwareProgram.FirmwareInstallApplyMode.getTask FirmwareProgram.FirmwareTaskOperator.queryTaskOnce
    rw [hm, if_neg (by decide)]
    exact .bind (torn_queryTaskTo _) fun _ ht => .pure (ht ▸ rfl)
  refine .bind (R := fun _ => True)
    (.bind .ask fun _ _ => .bind torn_getInstallType fun _ _ => .pure trivial) fun _ _ =>
    .ite (fun _ => .pure (onlyChecks_none _)) fun _ => .bind .ask fun isStreamUpgrade _ => torn_execute ?_
  cases isStreamUpgrade with
  | true =>
    refine .bind (R := fun x => x.1 = .complete ∨ x.1 = .checkStep) (.bind (hget _ rfl) fun mode hm => ?_)
      fun x hx => .pure hx
    exact .ite (fun _ => .pure (.inl rfl)) fun h => absurd (congrArg (!·) hm) h
  | false =>
    refine .bind (R := fun x => x.1 = .complete ∨ x.1 = .checkStep) (.bind (hget _ rfl) fun mode hm => ?_)
      fun x hx => .pure hx
    exact .ite (fun _ => .pure (.inl rfl)) fun h => absurd (congrArg (!·) hm) h

theorem torn_download {now now' : Int} {downloadOptions : DownloadOptions} :
    Yields (Torn components) (fun result => OnlyChecks result ∧ result.businessError.errorNum = .fail)
      (FirmwareProgram.UpdateServiceImplFirmware.download calculateHashCode env now now' downloadOptions) := by
  refine .bind .ask fun cache _ => .bind (.write fun _ hd => hd) fun _ _ => .bind (R := fun table => table = [])
    (.read fun _ hd => hd.1) ?_
  rintro _ rfl
  cases (cache.isDownloadTriggered now now').1 with
  | true => exact .pure ⟨onlyChecks_none _, rfl⟩
  | false => exact .pure ⟨onlyChecks_none _, rfl⟩

theorem torn_resumeDownload {allowNetwork : NetType} :
    Yields (Torn components) OnlyChecks
      (FirmwareProgram.UpdateServiceImplFirmware.resumeDownload calculateHashCode env allowNetwork) := by
  refine .bind (R := fun table => table = []) (.read fun _ hd => hd.1) ?_
  rintro _ rfl
  exact .pure (onlyChecks_none _)

theorem torn_upgrade {now now' : Int} {upgradeOptions : UpgradeOptions} :
    Yields (Torn components) OnlyChecks
      (FirmwareProgram.UpdateServiceImplFirmware.upgrade calculateHashCode env now now' upgradeOptions) := by
  refine .bind .ask fun cache _ => .bind (.write fun _ hd => hd) fun _ _ => .ite (fun _ => .pure (onlyChecks_none _))
    fun _ => .bind torn_queryTask fun task _ => .bind (.write fun d hd => ⟨?_, hd.2⟩) fun _ _ => ?_
  · change d.taskTable.updateWhere _ _ = []
    rw [hd.1]
    rfl
  · exact .bind torn_getInstallType fun _ _ => torn_doInstall

theorem torn_restoreUpdate :
    Yields (Torn components) OnlyChecks
      (FirmwareProgram.FirmwareManager.restoreUpdate calculateHashCode env) := by
  refine .bind torn_queryTask ?_
  rintro _ rfl
  exact .pure (onlyChecks_none _)

theorem torn_handleNetChanged :
    Yields (Torn components) OnlyChecks
      (FirmwareProgram.FirmwareEventManager.handleNetChanged calculateHashCode env) := by
  refine .bind torn_queryTask ?_
  rintro _ rfl
  exact .bind .ask fun _ _ => .pure (onlyChecks_none _)

theorem torn_handleNightUpgrade :
    Yields (Torn components) OnlyChecks
      (FirmwareProgram.FirmwareEventManager.handleNightUpgrade calculateHashCode env) := by
  refine .bind (.write fun _ hd => hd) fun _ _ => .bind .ask fun _ _ => .bind torn_queryTask ?_
  rintro _ rfl
  exact .ite (fun _ => .pure (onlyChecks_none _)) fun _ => .pure (onlyChecks_none _)

theorem torn_cancel :
    Yields (Torn components) (fun _ => True) (FirmwareProgram.UpdateServiceImplFirmware.cancel env) := by
  refine .bind torn_queryTask ?_
  rintro _ rfl
  refine .bind .ask fun isStreamUpgrade _ => ?_
  cases isStreamUpgrade <;> exact .pure trivial

theorem torn_setUpgradePolicy {downloadStrategy autoUpgradeStrategy : Bool} :
    Yields (Torn components) (fun _ => True)
      (FirmwareProgram.UpdateServiceImplFirmware.setUpgradePolicy downloadStrategy autoUpgradeStrategy) := by
  refine .bind .ask fun _ _ => .bind (.when fun _ => ?_) fun _ _ => .when fun _ => ?_
  · refine .bind (torn_save _) fun _ _ => .bind torn_queryTask ?_
    rintro _ rfl
    exact .pure trivial
  · refine .bind (torn_save _) fun _ _ => .bind torn_queryTask ?_
    rintro _ rfl
    exact .when fun h => absurd h.1 (by decide)

/-- No version can have been installed. -/
theorem torn_handleEvent {startupReason : StartupReason} :
    Yields (Torn components) (fun _ => True) (FirmwareProgram.FirmwareEventManager.handleEvent env startupReason) := by
  refine .ite (fun _ => .bind torn_queryTask ?_) fun _ => .pure trivial
  rintro _ rfl
  exact .pure trivial

/-- The answer is found to be the version of the tables. -/
theorem torn_setCheckResult {content : Option String} (hsame : SameAnswer p components content)
    (q : FirmwareCheckDataProcessor) :
    Yields (Torn components)
      (fun q => FirmwareCheckDataProcessor.isCheckFailed q.status = true ∨ q.isSameWithDb = true)
      (FirmwareProgram.FirmwareCheckDataProcessor.setCheckResult calculateHashCode
        (FirmwareProgram.checkComponents p content).1 (FirmwareProgram.checkComponents p content).2 q) := by
  refine .ite (fun h => .pure (.inl h)) fun hf => .bind (R := fun b => b = false) (.read fun d hd => ?_) ?_
  · unfold FirmwareCheckDataProcessor.hasUndoneTask toFirmware
    rw [hd.1]
    rfl
  · rintro _ rfl
    obtain ⟨hne, hsame⟩ := hsame.resolve_left hf
    refine .ite (fun h => absurd h (by decide)) fun _ => .ite (fun _ => ?_) fun h => absurd h (not_not.2 hne)
    refine .bind (R := fun b => b = true) (.read fun d hd => ?_) ?_
    · rw [hd.2]
      exact hsame
    · rintro _ rfl
      refine .bind (R := fun _ => True) (.bind torn_queryTask ?_) fun _ _ => .pure (.inr rfl)
      rintro _ rfl
      exact .pure trivial

theorem torn_doCheck {content : Option String} (hsame : SameAnswer p components content) {flow : FirmwareFlowManager}
    (hf : flow.nextStep = .checkStep) (hm : flow.nextStep ∈ flow.executeMode.steps) :
    Yields (Torn components) OnlyChecks (FirmwareProgram.doCheck p calculateHashCode env content flow) := by
  obtain ⟨mode, nextStep, executor⟩ := flow
  obtain rfl : nextStep = .checkStep := hf
  refine .bind .ask fun _ _ => .bind (.write fun _ hd => hd) fun _ _ => ?_
  cases mode with
  | manualCheck mode =>
    refine .bind (R := fun mode => ∃ m : FirmwareManualCheckMode, mode = .manualCheck m ∧
      (FirmwareCheckDataProcessor.isCheckFailed m.checkDataProcessor.status = true ∨
        m.checkDataProcessor.isSameWithDb = true))
        (.bind (torn_setCheckResult hsame _) fun q hq => .pure ⟨_, rfl, hq⟩) ?_
    rintro _ ⟨mode, rfl, hq⟩
    refine torn_execute (.bind (R := fun x => x.1 = .complete ∨ x.1 = .checkStep)
      (.bind (R := fun step => step = .complete) ?_
      fun step hs => .pure (.inl hs)) fun x hx => .pure hx)
    refine .ite (fun _ => .pure rfl) fun h => absurd ?_ h
    rcases hq with hq | hq <;> simp [hq]
  | autoUpgrade mode =>
    refine .bind (R := fun mode => ∃ m, mode = .autoUpgrade m)
      (.bind (torn_setCheckResult hsame _) fun q hq => .pure ⟨_, rfl⟩) ?_
    rintro _ ⟨mode, rfl⟩
    refine torn_execute (.bind (R := fun x => x.1 = .complete ∨ x.1 = .checkStep) ?_ fun x hx => .pure hx)
    refine .ite (fun _ => .bind (torn_save _) fun _ _ => .pure (.inl rfl)) fun _ => .bind .ask fun preferences _ => ?_
    refine .ite (fun _ => .bind (torn_queryTaskTo _) fun _ _ => .bind (.when fun _ => torn_notifyEvent) fun _ _ =>
      .pure (.inl rfl)) fun _ => .bind (torn_queryTaskTo _) ?_
    rintro _ rfl
    exact .pure (.inl rfl)
  | download mode => simp [FirmwareExecuteMode.steps] at hm
  | installApply mode => simp [FirmwareExecuteMode.steps] at hm
  | streamInstallApply mode => simp [FirmwareExecuteMode.steps] at hm

end FirmwareDevice

namespace FirmwareService
open FirmwareDevice
variable {components : List FirmwareComponent} {p : JsonPlatform} {calculateHashCode : String → String}
  {process : FirmwareProcess}

theorem torn_begin (hc : process.Checking) {m : FirmwareProgram FlowResult}
    (hm : Yields (Torn components) OnlyChecks m) :
    Yields (Torn components) (fun process => ∀ process' ∈ process, FirmwareProcess.Checking process')
      (process.begin m) := by
  refine .bind hm fun result hr => .pure ?_
  rintro _ ⟨⟩ flow hf
  rcases List.mem_append.1 hf with hf | hf
  exacts [hc flow hf, hr flow (List.mem_singleton.1 hf).symm]

theorem torn_keep (hc : process.Checking) {α : Type} {R : α → Prop} {m : FirmwareProgram α}
    (hm : Yields (Torn components) R m) :
    Yields (Torn components) (fun process => ∀ process' ∈ process, FirmwareProcess.Checking process')
      (process.keep m) := by
  refine .bind hm fun _ _ => .pure ?_
  rintro _ ⟨⟩
  exact hc

/-- No call leaves the torn tables. -/
theorem torn_call {call : FirmwareCall} {m : FirmwareProgram (Option FirmwareProcess)} (hw : process.WellFormed)
    (hc : process.Checking) (ho : call.OffersSame p components)
    (hm : process.call p calculateHashCode call = some m) :
    Yields (Torn components) (fun process => ∀ process' ∈ process, FirmwareProcess.Checking process') m := by
  -- a flow has the executor of its step, which is a check
  have hcheck : ∀ {i : Nat} {flow : FirmwareFlowManager} {e : FirmwareExecutor}, process.flow? i = some flow →
      flow.executor = some e → e.step = .checkStep := fun hf he =>
    ((hw.flow hf).nextStep_eq he).trans (hc _ (List.mem_of_getElem? (Option.join_eq_some_iff.1 hf)))
  cases call with
  | init startupReason => cases hm
  | restoreUpdate env =>
    simp only [FirmwareProcess.call] at hm
    split at hm
    · have hc : FirmwareProcess.Checking { process with delayInit := some .handleEvent } := hc
      exact Option.some.inj hm ▸ torn_begin hc torn_restoreUpdate
    · cases hm
  | handleEvent env =>
    simp only [FirmwareProcess.call] at hm
    split at hm
    · obtain rfl := Option.some.inj hm
      refine .bind (.bind .ask fun _ _ => .when fun _ => .bind (torn_save _) fun _ _ => torn_notifyEvent) fun _ _ =>
        .bind torn_handleEvent fun isRunning _ => .pure ?_
      split
      · rintro _ ⟨⟩
        exact hc
      · rintro _ ⟨⟩
    · cases hm
  | checkNewVersion env => exact Option.some.inj hm ▸ torn_begin hc torn_doCheck_start
  | download env now now' downloadOptions =>
      exact Option.some.inj hm ▸ torn_begin hc (torn_download.mono fun _ h => h.1)
  | resumeDownload env allowNetwork => exact Option.some.inj hm ▸ torn_begin hc torn_resumeDownload
  | upgrade env now now' upgradeOptions => exact Option.some.inj hm ▸ torn_begin hc torn_upgrade
  | cancel env => exact Option.some.inj hm ▸ torn_keep hc torn_cancel
  | clearError =>
    refine Option.some.inj hm ▸ torn_keep hc (R := fun _ => True) (.bind torn_queryTask ?_)
    rintro _ rfl
    exact .pure trivial
  | setUpgradePolicy downloadStrategy autoUpgradeStrategy =>
      exact Option.some.inj hm ▸ torn_keep hc torn_setUpgradePolicy
  | netChanged env => exact Option.some.inj hm ▸ torn_begin hc torn_handleNetChanged
  | nightUpgrade env => exact Option.some.inj hm ▸ torn_begin hc torn_handleNightUpgrade
  | autoUpgrade env => exact Option.some.inj hm ▸ torn_begin hc torn_doAutoUpgrade
  | doCheck i env content =>
    obtain ⟨flow, hf, he, rfl⟩ := FirmwareProcess.call_doCheck hm
    have hstep := hc _ (List.mem_of_getElem? (Option.join_eq_some_iff.1 hf))
    refine .bind (torn_doCheck ho hstep (hw.flow hf).step_mem) fun result hr => .pure ?_
    rintro _ ⟨⟩ flow' hf'
    rcases List.mem_or_eq_of_mem_set hf' with hf' | he'
    exacts [hc flow' hf', hr flow' he'.symm]
  | doDownload i env =>
    obtain ⟨flow, downloadOptions, hf, he, -⟩ := FirmwareProcess.call_doDownload hm
    cases hcheck hf he
  | downloadCallback i env taskId progressInfo =>
    obtain ⟨flow, downloadOptions, hf, he, -⟩ := FirmwareProcess.call_downloadCallback hm
    cases hcheck hf he
  | doInstall i env =>
    obtain ⟨flow, executor, hf, he, -⟩ := FirmwareProcess.call_doInstall hm
    cases hcheck hf he
  | installStart i status =>
    obtain ⟨flow, executor, hf, he, -⟩ := FirmwareProcess.call_installStart hm
    cases hcheck hf he
  | installProgress i env component =>
    obtain ⟨flow, executor, hf, he, -⟩ := FirmwareProcess.call_installProgress hm
    cases hcheck hf he
  | installResult i env isSuccess errMsg status =>
    obtain ⟨flow, executor, hf, he, -⟩ := FirmwareProcess.call_installResult hm
    cases hcheck hf he
  | doApply i env =>
    obtain ⟨flow, hf, he, -⟩ := FirmwareProcess.call_doApply hm
    cases hcheck hf he
  | manager op =>
    refine Option.some.inj hm ▸ .bind .ask fun _ _ => .bind (.write fun _ hd => hd) fun _ _ => .pure ?_
    rintro _ ⟨⟩
    exact hc

theorem torn_preserved :
    ((lts p calculateHashCode).guard fun _ action => action.call.OffersSame p components).Preserved fun s =>
      s.WellFormed ∧ s.device.Torn components ∧ ∀ process ∈ s.process, process.Checking := by
  intro s action s' hs h
  refine ⟨wellFormed_preserved s action s' hs.2 h.1, ?_⟩
  obtain ⟨call, m, hm, hs'⟩ := step_cases hs.2
  have ho : call.OffersSame p components := by
    obtain ⟨rfl, -⟩ | ⟨n, rfl, -⟩ := hs' <;> exact hs.1
  have hy : Yields (Torn components) (fun process => ∀ process' ∈ process, FirmwareProcess.Checking process') m := by
    rcases call_eq_some hm with ⟨startupReason, rfl, -, rfl⟩ | ⟨process, hp, hm⟩
    · refine .bind (R := fun _ => True) (.when fun he => absurd he ho) fun _ _ => .pure ?_
      rintro _ ⟨⟩ flow hf
      cases hf
    · exact torn_call (h.1 process hp) (h.2.2 process hp) ho hm
  obtain ⟨⟨hd, hc⟩, hcut⟩ := hy s.device h.2.1
  obtain ⟨rfl, rfl⟩ | ⟨n, rfl, rfl⟩ := hs'
  · split
    · rename_i process hp
      refine ⟨hd, ?_⟩
      rintro _ ⟨⟩
      exact hc process hp
    · refine ⟨hd, ?_⟩
      rintro _ ⟨⟩
  · refine ⟨hcut n, ?_⟩
    rintro _ ⟨⟩

end FirmwareService

end UpdateService
