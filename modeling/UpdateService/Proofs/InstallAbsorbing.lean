import UpdateService.SysInstaller

/-!
# When the result of an install stays

A callback passes its report on after it has signalled the install thread, and `HandleInstallProgress`
records `INSTALLING`. The recorded result therefore stays in the runs in which every callback that has
signalled has also passed its report on when the result is recorded, and in which none begins between the
record and the end of the object (`ForwardsFirst`).
-/

namespace UpdateService.SysInstall
variable {s s' : SysInstall} {op : SysInstallOp}

/-- `HandleInstallResult` has written. -/
def HasResult (s : SysInstall) : Prop := s.pc = .written ∨ s.pc = .destroyed

/-- The result comes after what the callbacks pass on, and no callback begins after it. -/
def ForwardsFirst (s : SysInstall) : SysInstallOp → Prop
  | .callbackResult => s.inFlight = []
  | .deliver _ _ => s.pc ≠ .written
  | _ => True

/-- The rows of the task hold a result. -/
def IsFinal (e : InstallExecution) : Prop :=
  ∀ task ∈ e.taskTable, task.taskId = e.tasks.taskId → task.status = .installSuccess ∨ task.status = .installFail

structure Absorbing (s : SysInstall) : Prop where
  installType : s.execution.installType = .sysInstaller
  fresh : s.pc = .start → s.callbacks = [] ∧ s.inFlight = []
  result : s.HasResult → s.inFlight = [] ∧ IsFinal s.execution

theorem isFinal_handleInstallResult {e : InstallExecution} (h : e.installType = .sysInstaller) (result : Bool)
    (errMsg : ErrorMessage) (status : UpgradeStatus) :
    IsFinal (FirmwareInstallExecutor.handleInstallResult result errMsg status e) := by
  intro task htask hid
  rw [FirmwareInstallExecutor.status_handleInstallResult htask hid, h]
  cases result
  exacts [.inr rfl, .inl rfl]

theorem not_hasResult_componentDone (i : Nat) (isSuccess : Bool) (s : SysInstall) :
    ¬ (s.componentDone i isSuccess).HasResult ∧ (s.componentDone i isSuccess).pc ≠ .start := by
  unfold componentDone HasResult
  dsimp only
  split <;> simp

namespace Absorbing

theorem move (h : Absorbing s) (hexec : s'.execution = s.execution) (hpc : ¬ s'.HasResult) (hstart : s'.pc ≠ .start) :
    Absorbing s' where
  installType := hexec ▸ h.installType
  fresh hs := absurd hs hstart
  result hs := absurd hs hpc

theorem componentDone (h : Absorbing s) (hexec : s'.execution = s.execution) (i : Nat) (isSuccess : Bool) :
    Absorbing (s'.componentDone i isSuccess) :=
  have hpc := not_hasResult_componentDone i isSuccess s'
  h.move hexec hpc.1 hpc.2

theorem fail (h : Absorbing s) (i : Nat) (errorCode : Int) (errorMessage : String) :
    Absorbing (s.fail i errorCode errorMessage) := by
  unfold SysInstall.fail
  refine h.componentDone ?_ i false
  rfl

theorem onFirmwareEvent (h : Absorbing s) (hflight : s.inFlight = []) (result : Bool) (errMsg : ErrorMessage)
    (status : UpgradeStatus) : Absorbing (s.onFirmwareEvent result errMsg status) where
  installType := h.installType
  fresh hs := absurd hs (by simp [SysInstall.onFirmwareEvent])
  result _ := ⟨hflight, isFinal_handleInstallResult h.installType result errMsg status⟩

theorem step (h : Absorbing s) (hg : s.ForwardsFirst op) (hs : Step s op s') : Absorbing s' := by
  cases hs with
  | illegal fileSize hpc => exact h.onFirmwareEvent (h.fresh hpc).2 _ _ _
  | callbackResult result hpc => exact h.onFirmwareEvent hg result s.errMsg .init
  | initFail i | busy i | setFail i | startFail i => exact h.fail i _ _
  | timeout i => exact h.componentDone rfl i false
  | wake i => exact h.componentDone rfl i s.sysInstallProgress.isInstallSuccess
  | destroy hpc => exact ⟨h.installType, (by simp), fun _ => h.result (.inl hpc)⟩
  | skip i r => exact h
  | deliver i r component hpc hi =>
    refine ⟨h.installType, fun hs => ?_, fun hs => ?_⟩
    · rw [(h.fresh hs).1] at hi
      cases hi
    · rcases hs with hs | hs
      exacts [absurd hs hg, absurd hs hpc]
  | forward k component hk =>
    have hne : s.inFlight ≠ [] := by
      rintro he
      rw [he] at hk
      cases hk
    exact ⟨(FirmwareInstallExecutor.handleInstallProgress_keeps component s.execution).1.trans h.installType,
      fun hs => absurd (h.fresh hs).2 hne, fun hs => absurd (h.result hs).1 hne⟩
  | _ => exact h.move rfl (by simp [HasResult]) (by simp)

end Absorbing

theorem taskTable_step (h : Absorbing s) (hres : s.HasResult) (hg : s.ForwardsFirst op) (hs : Step s op s') :
    s'.execution.taskTable = s.execution.taskTable ∧ s'.HasResult := by
  cases hs with
  | destroy hpc => exact ⟨rfl, .inr rfl⟩
  | skip i r => exact ⟨rfl, hres⟩
  | deliver i r component hpc hi =>
    rcases hres with hres | hres
    exacts [absurd hres hg, absurd hres hpc]
  | forward k component hk =>
    rw [(h.result hres).1] at hk
    cases hk
  | _ =>
    rename_i hpc
    rcases hres with hres | hres <;> simp_all

theorem absorbing_preserved : (lts.guard ForwardsFirst).Preserved Absorbing :=
  fun _ _ _ hs h => h.step hs.1 (step_cases hs.2)

/-- In the runs of `ForwardsFirst` no step changes the task once its result is recorded. -/
theorem run_absorbing {e : InstallExecution} {ops ops' : List SysInstallOp} (htype : e.installType = .sysInstaller)
    (h : (lts.guard ForwardsFirst).Run { execution := e } ops s) (hres : s.HasResult)
    (h' : (lts.guard ForwardsFirst).Run s ops' s') :
    s'.execution.taskTable = s.execution.taskTable ∧ IsFinal s'.execution := by
  have h₀ : Absorbing s := h.invariant absorbing_preserved ⟨htype, fun _ => ⟨rfl, rfl⟩,
    fun hs => by simp [HasResult] at hs⟩
  have hstay : Absorbing s' ∧ s'.execution.taskTable = s.execution.taskTable ∧ s'.HasResult := by
    refine h'.invariant (I := fun t => Absorbing t ∧ t.execution.taskTable = s.execution.taskTable ∧ t.HasResult)
      (fun t op t' hs ht => ?_) ⟨h₀, rfl, hres⟩
    have hstep := taskTable_step ht.1 ht.2.2 hs.1 (step_cases hs.2)
    exact ⟨absorbing_preserved _ _ _ hs ht.1, hstep.1.trans ht.2.1, hstep.2⟩
  exact ⟨hstay.2.1, (hstay.1.result hstay.2.2).2⟩

/-- The run of one component in which the callback passes its report on before the result is recorded. -/
theorem run_absorbing_forwarded : ∃ s s' : SysInstall, s.HasResult ∧
    (lts.guard ForwardsFirst).Run s [.destroy, .deliver 0 successReport] s' ∧
      s'.execution.taskTable = s.execution.taskTable ∧ IsFinal s'.execution := by
  have hrun : ∃ s s' : SysInstall, (lts.guard ForwardsFirst).Run { execution := sampleExecution ["u"] }
        ([.startInstall fun _ => some 1, .performInstall] ++ beginOps ++
          [.deliver 0 successReport, .forward 0, .wake, .callbackResult]) s ∧ s.HasResult ∧
      (lts.guard ForwardsFirst).Run s [.destroy, .deliver 0 successReport] s' :=
    ⟨_, _, .cons ⟨trivial, rfl⟩ <| .cons ⟨trivial, rfl⟩ <| .cons ⟨trivial, rfl⟩ <| .cons ⟨trivial, rfl⟩ <|
      .cons ⟨trivial, rfl⟩ <| .cons ⟨trivial, rfl⟩ <| .cons ⟨trivial, rfl⟩ <|
      .cons ⟨show SysInstallPc.wait 0 ≠ .written by decide, rfl⟩ <| .cons ⟨trivial, rfl⟩ <| .cons ⟨trivial, rfl⟩ <|
      .single ⟨rfl, rfl⟩, .inl rfl,
      .cons ⟨trivial, rfl⟩ <| .single ⟨show SysInstallPc.destroyed ≠ .written by decide, rfl⟩⟩
  obtain ⟨s, s', h, hres, h'⟩ := hrun
  exact ⟨s, s', hres, h', run_absorbing rfl h hres h'⟩

/-- The callback that has woken the install thread passes its report on after the result. -/
theorem forward_after_result : ∃ s s' : SysInstall,
    lts.Run { execution := sampleExecution ["u"] } ([.startInstall fun _ => some 1, .performInstall] ++ beginOps ++
      [.deliver 0 successReport, .wake, .callbackResult]) s ∧ s.HasResult ∧
    lts.step s (.forward 0) s' ∧
    (FirmwareTaskOperator.queryTask s.execution.taskTable).status = .installSuccess ∧
    (FirmwareTaskOperator.queryTask s'.execution.taskTable).status = .installing :=
  ⟨_, _, Lts.run_ofPartial_get (f := step) (by rfl), .inl rfl, rfl, rfl, rfl⟩

end UpdateService.SysInstall
