import UpdateService.StreamInstaller

/-!
# The cancel of a stream install

The flag is looked at by the download thread alone, and the loop over the components never looks at it. A
cancel therefore stops the install only from the wait for the last component, while its download runs, and
only if the abort it causes is what ends that wait. `SeesCancel` is this condition on the runs; in them the
recorded result tells a cancelled install from a failed one.
-/

namespace UpdateService

namespace StreamInstallPc

def isOver : StreamInstallPc → Bool
  | result _ | written _ => true
  | perform | attempt _ _ | init _ _ | updateStatus _ _ | setup _ _ | startStream _ _ | startDownload _ _ | wait _ _
  | attempted _ _ _ | loopEnd => false

end StreamInstallPc

namespace StreamInstall

structure CancelLedger where
  cancelled : Bool := false
  installed : List Nat := []

def CancelLedger.observe (g : CancelLedger) (s : StreamInstall) (op : StreamInstallOp)
    (_ : StreamInstall) : CancelLedger :=
  match op with
  | .cancel => { g with cancelled := g.cancelled || !s.pc.isOver }
  | .afterAttempt =>
    match s.pc with
    | .attempted i _ true => if g.cancelled then { g with installed := i :: g.installed } else g
    | _ => g
  | _ => g

/-- What the download reports from now on is what the result of a failed install is made of. -/
def isDecisive (s : StreamInstall) : Bool :=
  match s.pc with
  | .init i _ | .updateStatus i _ | .setup i _ | .startStream i _ | .startDownload i _ | .wait i _
  | .attempted i _ false => i + 1 = s.execution.components.length
  | .attempted i _ true => i + 1 = s.execution.components.length ∧ s.successCount + 1 ≠ s.execution.components.length
  | .loopEnd => s.successCount ≠ s.execution.components.length
  | .perform | .attempt _ _ | .result _ | .written _ => false

def isLastWait (s : StreamInstall) : Bool :=
  match s.pc with
  | .wait i _ => i + 1 = s.execution.components.length
  | _ => false

def isAborted (s : StreamInstall) : Bool :=
  s.isCancel && s.downloadProgress.status = .downloadCancel

/-- A cancel comes while the last component is waited for and its download runs, and the abort it causes ends
the wait. Without a cancel no abort reaches the result. The last report is not one of a failure. -/
def SeesCancel (s : StreamInstall) : StreamInstallOp → Prop
  | .performInstall => s.execution.components ≠ []
  | .cancel => s.pc.isOver = true ∨ s.isAborted = true ∨ s.isLastWait = true ∧ s.thread = .running
  | .downloadEnd .abort => s.isCancel = true ∨ s.isDecisive = false
  | .wake => s.isCancel = true → s.isAborted = true ∧ s.sysInstallProgress.status ≠ .installSuccess
  | .timeout => s.isCancel = false
  | .assignStatus => s.sysInstallProgress.status ≠ .installFail
  | _ => True

instance (s : StreamInstall) (op : StreamInstallOp) : Decidable (s.SeesCancel op) :=
  match op with
  | .performInstall => inferInstanceAs (Decidable (s.execution.components ≠ []))
  | .cancel => inferInstanceAs (Decidable (_ ∨ _ ∨ _ ∧ _))
  | .downloadEnd .abort => inferInstanceAs (Decidable (_ ∨ _))
  | .wake => inferInstanceAs (Decidable (_ → _ ∧ _))
  | .timeout => inferInstanceAs (Decidable (s.isCancel = false))
  | .assignStatus => inferInstanceAs (Decidable (s.sysInstallProgress.status ≠ .installFail))
  | .downloadEnd .initFail | .downloadEnd .checkFail | .downloadEnd .finish | .beginAttempt | .sysInstallerInit _
  | .getUpdateStatus _ | .setUpdateCallback _ | .startStreamUpdate _ | .startDownload _ | .afterAttempt
  | .callbackResult _ | .deliver _ _ => .isTrue trivial

/-- The install has been cancelled in time: what is left is to end the wait and to record the pause. -/
def IsStopped (s : StreamInstall) : Prop :=
  match s.pc with
  | .wait i _ => i + 1 = s.execution.components.length ∧ s.isCancel = true ∧
      (s.downloadProgress.status = .downloadCancel → s.thread = .none)
  | .attempted i _ isSuccess => i + 1 = s.execution.components.length ∧ isSuccess = false ∧
      s.downloadProgress.status = .downloadCancel ∧ s.thread = .none
  | .loopEnd => s.successCount < s.execution.components.length ∧ s.downloadProgress.status = .downloadCancel ∧
      s.thread = .none
  | .result result | .written result => result = false
  | .perform | .attempt _ _ | .init _ _ | .updateStatus _ _ | .setup _ _ | .startStream _ _ | .startDownload _ _ => False

def CancelLedger.expected (g : CancelLedger) (result : Bool) : UpgradeStatus :=
  if g.cancelled then .installPause else if result then .installSuccess else .installFail

structure Recorded (s : StreamInstall) (g : CancelLedger) : Prop where
  installType : s.execution.installType = .streamInstaller
  installed : g.installed = []
  perform : s.pc = .perform → s.successCount = 0
  place : ∀ i, s.pc.place = some i → i < s.execution.components.length ∧ s.successCount ≤ i
  /-- Without a cancel the flag is down from the first download on. -/
  flag : g.cancelled = false → s.pc.isOver = false → s.isCancel = true → s.thread = .none ∧ s.isAborted = false
  decisive : g.cancelled = false → s.isDecisive = true → s.downloadProgress.status ≠ .downloadCancel
  stopped : g.cancelled = true → s.IsStopped
  result : ∀ r, s.pc = .result r → ∃ status, s.status = some status ∧ (r = false → (status = .downloadCancel ↔ g.cancelled = true))
  written : ∀ r, s.pc = .written r → ∀ task ∈ s.execution.taskTable, task.taskId = s.execution.tasks.taskId →
    task.status = g.expected r

theorem isDecisive_componentDone {s : StreamInstall} {i : Nat} {b : Bool} (hlt : i < s.execution.components.length)
    (hd : (s.componentDone i b).isDecisive = true) :
    i + 1 = s.execution.components.length ∧ (if b then s.successCount + 1 else s.successCount) ≠ s.execution.components.length := by
  by_cases hlast : i + 1 < s.execution.components.length
  · rw [isDecisive, show (s.componentDone i b).pc = .attempt (i + 1) 0 from if_pos hlast] at hd
    exact absurd hd Bool.false_ne_true
  · rw [isDecisive, show (s.componentDone i b).pc = .loopEnd from if_neg hlast] at hd
    exact ⟨by omega, of_decide_eq_true hd⟩

namespace Recorded
variable {s s' : StreamInstall} {g : CancelLedger} {op : StreamInstallOp} {i : Nat}

theorem notCancelled (h : Recorded s g) (hs : ¬ s.IsStopped) : g.cancelled = false := by
  cases hc : g.cancelled with
  | false => rfl
  | true => exact absurd (h.stopped hc) hs

theorem move (h : Recorded s g) (hc : g.cancelled = false) (hi' : s'.pc.place = some i)
    (hplace : i < s'.execution.components.length ∧ s'.successCount ≤ i) (hexec : s'.execution = s.execution)
    (hflag : s'.isCancel = true → s'.thread = .none ∧ s'.isAborted = false)
    (hdec : s'.isDecisive = true → s'.downloadProgress.status ≠ .downloadCancel) : Recorded s' g where
  installType := hexec ▸ h.installType
  installed := h.installed
  perform hp := by rw [hp] at hi'; cases hi'
  place k hk := by
    obtain rfl : i = k := Option.some.inj (hi'.symm.trans hk)
    exact hplace
  flag _ _ := hflag
  decisive _ := hdec
  stopped hc' := absurd (hc.symm.trans hc') (by decide)
  result r hr := by rw [hr] at hi'; cases hi'
  written r hr := by rw [hr] at hi'; cases hi'

theorem advance (h : Recorded s g) (hs : ¬ s.IsStopped) (hi : s.pc.place = some i) (hi' : s'.pc.place = some i)
    (hexec : s'.execution = s.execution) (hcount : s'.successCount = s.successCount)
    (hprogress : s'.downloadProgress = s.downloadProgress) (hthread : s'.thread = s.thread)
    (hcancel : s'.isCancel = s.isCancel) (hdec : s'.isDecisive = s.isDecisive) : Recorded s' g := by
  have hc := h.notCancelled hs
  have hover : s.pc.isOver = false := by
    cases hpc : s.pc <;> simp_all [StreamInstallPc.place, StreamInstallPc.isOver]
  refine h.move hc hi' (hexec ▸ hcount ▸ h.place i hi) hexec (fun hf => ?_) (fun hd => ?_)
  · rw [isAborted, hthread, hcancel, hprogress]
    exact h.flag hc hover (hcancel ▸ hf)
  · rw [hprogress]
    exact h.decisive hc (hdec ▸ hd)

/-- The end of the loop body of a component that is not the aborted one. -/
theorem componentDone (h : Recorded s g) (hc : g.cancelled = false) (hi : s.pc.place = some i) (b : Bool)
    (hover : s.pc.isOver = false) (hdec : (s.componentDone i b).isDecisive = true → s.isDecisive = true) :
    Recorded (s.componentDone i b) g := by
  obtain ⟨hlt, hle⟩ := h.place i hi
  have hflag : s.isCancel = true → s.thread = .none ∧ s.isAborted = false := h.flag hc hover
  by_cases hlast : i + 1 < s.execution.components.length
  · have hpc : (s.componentDone i b).pc = .attempt (i + 1) 0 := if_pos hlast
    refine h.move (i := i + 1) hc (by rw [hpc]; rfl) ⟨hlast, ?_⟩ rfl hflag (fun hd => h.decisive hc (hdec hd))
    show (if b = true then s.successCount + 1 else s.successCount) ≤ i + 1
    split <;> omega
  · have hpc : (s.componentDone i b).pc = .loopEnd := if_neg hlast
    refine ⟨h.installType, h.installed, by simp [hpc], fun k hk => ?_, fun _ _ => hflag,
      fun _ hd => h.decisive hc (hdec hd), fun hc' => absurd (hc.symm.trans hc') (by decide), by simp [hpc], by simp [hpc]⟩
    rw [hpc] at hk
    cases hk

theorem afterAttempt_stopped (h : Recorded s g) {retry : Nat} (hpc : s.pc = .attempted i retry false)
    (hc : g.cancelled = true) : Recorded (s.componentDone i false) g := by
  have hs := h.stopped hc
  rw [IsStopped, hpc] at hs
  obtain ⟨hlast, -, hstatus, hthread⟩ := hs
  have hle : s.successCount ≤ i := (h.place i (by rw [hpc]; rfl)).2
  have hpc' : (s.componentDone i false).pc = .loopEnd := if_neg (by omega)
  refine ⟨h.installType, h.installed, by simp [hpc'], fun k hk => ?_, fun hc' => absurd (hc.symm.trans hc') (by decide),
    fun hc' => absurd (hc.symm.trans hc') (by decide), fun _ => ?_, by simp [hpc'], by simp [hpc']⟩
  · rw [hpc'] at hk
    cases hk
  · rw [IsStopped, hpc']
    refine ⟨?_, hstatus, hthread⟩
    show s.successCount < s.execution.components.length
    omega

theorem attempted (h : Recorded s g) {retry : Nat} {b : Bool} (hpc : s.pc = .wait i retry)
    (hb : s.isCancel = true → s.isAborted = true ∧ b = false) :
    Recorded { s.stopDownload with pc := .attempted i retry b } g := by
  have hplace := h.place i (by rw [hpc]; rfl)
  cases hc : g.cancelled with
  | false =>
    refine h.move (i := i) hc rfl hplace rfl (fun hf => ?_) (fun hd => h.decisive hc ?_)
    · obtain ⟨hthread, haborted⟩ := h.flag hc (by rw [hpc]; rfl) hf
      refine ⟨?_, haborted⟩
      simp [stopDownload, hthread]
    · cases b <;> simp_all [isDecisive, stopDownload]
  | true =>
    have hs := h.stopped hc
    rw [IsStopped, hpc] at hs
    obtain ⟨hlast, hcancel, hthread⟩ := hs
    obtain ⟨haborted, rfl⟩ := hb hcancel
    have hstatus : s.downloadProgress.status = .downloadCancel := by simpa [isAborted, hcancel] using haborted
    refine ⟨h.installType, h.installed, by simp, fun k hk => ?_, fun hc' => absurd (hc.symm.trans hc') (by decide),
      fun hc' => absurd (hc.symm.trans hc') (by decide), fun _ => ⟨hlast, rfl, hstatus, ?_⟩, by simp, by simp⟩
    · obtain rfl : i = k := Option.some.inj hk
      exact hplace
    · simp [stopDownload, hthread hstatus]

theorem deliver (h : Recorded s g) (r : InstallProgress) (percent : Int) : Recorded (s.deliver r percent) g := by
  obtain ⟨component, he⟩ : ∃ component, (s.deliver r percent).execution =
      FirmwareInstallExecutor.handleInstallProgress component s.execution := ⟨_, rfl⟩
  obtain ⟨htype, hcomponents, htasks⟩ := FirmwareInstallExecutor.handleInstallProgress_keeps component s.execution
  have hstream := h.installType
  have htable : (s.deliver r percent).execution.taskTable = s.execution.taskTable := by
    rw [he]
    exact FirmwareInstallExecutor.taskTable_handleInstallProgress hstream component
  rw [← he] at htype hcomponents htasks
  refine ⟨htype.trans hstream, h.installed, h.perform, fun k hk => ?_, h.flag,
    fun hc hd => h.decisive hc ?_, fun hc => ?_,
    h.result, fun b hb => ?_⟩
  · rw [hcomponents]
    exact h.place k hk
  · rw [← hd, isDecisive, isDecisive, hcomponents]
    rfl
  · have hs := h.stopped hc
    rw [IsStopped] at hs ⊢
    rw [hcomponents]
    exact hs
  · rw [htable, htasks]
    exact h.written b hb

theorem downloadEnd (h : Recorded s g) {e : DownloadEnd} (hrun : s.thread = .running)
    (hg : s.SeesCancel (.downloadEnd e)) : Recorded (s.downloadEnd e) g := by
  have hkeep : (s.downloadEnd e).pc = s.pc ∧ (s.downloadEnd e).execution = s.execution ∧
      (s.downloadEnd e).successCount = s.successCount ∧ (s.downloadEnd e).isCancel = s.isCancel ∧
      (s.downloadEnd e).status = s.status := by
    cases e <;> exact ⟨rfl, rfl, rfl, rfl, rfl⟩
  obtain ⟨hpc, hexec, hcount, hcancel, hstatus⟩ := hkeep
  -- only an abort leaves the status of a cancel, and then the thread has returned
  have hend : (s.downloadEnd e).downloadProgress.status = .downloadCancel →
      e = .abort ∧ (s.downloadEnd e).thread = .none := by
    cases e <;> simp [StreamInstall.downloadEnd, onDownload]
  have hdecisive : (s.downloadEnd e).isDecisive = s.isDecisive := by
    rw [isDecisive, isDecisive, hpc, hexec, hcount]
  refine ⟨hexec ▸ h.installType, h.installed, fun hp => hcount ▸ h.perform (hpc ▸ hp), fun k hk => ?_,
    fun hc hover hf => ?_,
    fun hc hd hs => ?_, fun hc => ?_, fun b hb => ?_, fun b hb => ?_⟩
  · rw [hexec, hcount]
    exact h.place k (hpc ▸ hk)
  · obtain ⟨hnone, -⟩ := h.flag hc (hpc ▸ hover) (hcancel ▸ hf)
    exact absurd (hrun.symm.trans hnone) (by decide)
  · obtain ⟨rfl, -⟩ := hend hs
    rw [hdecisive] at hd
    rcases hg with hf | hd'
    · have hover : s.pc.isOver = false := by
        cases hp : s.pc <;> simp_all [isDecisive, StreamInstallPc.isOver]
      exact absurd (hrun.symm.trans (h.flag hc hover hf).1) (by decide)
    · exact absurd (hd.symm.trans hd') (by decide)
  · have hs := h.stopped hc
    rw [IsStopped] at hs ⊢
    rw [hpc, hexec, hcount, hcancel]
    cases hp : s.pc <;> rw [hp] at hs
    case wait i retry => exact ⟨hs.1, hs.2.1, fun hst => (hend hst).2⟩
    case attempted i retry b => exact absurd (hrun.symm.trans hs.2.2.2) (by decide)
    case loopEnd => exact absurd (hrun.symm.trans hs.2.2) (by decide)
    all_goals exact hs
  · rw [hstatus]
    exact h.result b (hpc ▸ hb)
  · rw [hexec]
    exact h.written b (hpc ▸ hb)

theorem assignStatus (h : Recorded s g) (hpc : s.pc = .loopEnd) : Recorded { s with
    status := some s.downloadProgress.status
    pc := .result (s.successCount = s.execution.components.length) } g := by
  refine ⟨h.installType, h.installed, by simp, by simp [StreamInstallPc.place], by simp [StreamInstallPc.isOver],
    by simp [isDecisive], fun hc => ?_, fun b hb => ⟨_, rfl, fun hfalse => ?_⟩, by simp⟩
  · have hs := h.stopped hc
    rw [IsStopped, hpc] at hs
    show decide _ = false
    exact decide_eq_false (ne_of_lt hs.1)
  · obtain rfl := StreamInstallPc.result.inj hb
    cases hc : g.cancelled with
    | false =>
      refine iff_of_false (h.decisive hc ?_) Bool.false_ne_true
      rw [isDecisive, hpc]
      exact decide_eq_true (of_decide_eq_false hfalse)
    | true =>
      have hs := h.stopped hc
      rw [IsStopped, hpc] at hs
      exact iff_of_true hs.2.1 rfl

theorem callbackResult (h : Recorded s g) {result : Bool} (indeterminate : UpgradeStatus)
    (hpc : s.pc = .result result) :
    Recorded { s with
      pc := .written result
      execution := FirmwareInstallExecutor.handleInstallResult result s.errMsg (s.status.getD indeterminate) s.execution } g := by
  obtain ⟨status, hstatus, hcancel⟩ := h.result result hpc
  refine ⟨h.installType, h.installed, by simp, by simp [StreamInstallPc.place], by simp [StreamInstallPc.isOver],
    by simp [isDecisive], fun hc => ?_, by simp, fun b hb task htask hid => ?_⟩
  · have hs := h.stopped hc
    rwa [IsStopped, hpc] at hs
  · obtain rfl := StreamInstallPc.written.inj hb
    rw [FirmwareInstallExecutor.status_handleInstallResult htask hid, h.installType, hstatus, Option.getD_some,
      FirmwareInstallExecutor.resultStatus, CancelLedger.expected]
    cases hc : g.cancelled with
    | false => cases result <;> simp_all
    | true =>
      have hs := h.stopped hc
      rw [IsStopped, hpc] at hs
      simp_all

/-- A cancel that the guard allows is seen, has been seen or comes too late to be one. -/
theorem cancel (h : Recorded s g) (hg : s.SeesCancel .cancel) :
    Recorded { s with isCancel := true } { g with cancelled := g.cancelled || !s.pc.isOver } := by
  cases hover : s.pc.isOver with
  | true =>
    rw [Bool.not_true, Bool.or_false]
    refine ⟨h.installType, h.installed, h.perform, h.place,
      fun _ hn => absurd (hover.symm.trans hn) (by decide), h.decisive,
      fun hc => ?_, h.result, h.written⟩
    have hs := h.stopped hc
    cases hpc : s.pc <;> simp_all [IsStopped, StreamInstallPc.isOver]
  | false =>
    rw [Bool.not_false, Bool.or_true]
    rcases hg with ho | haborted | ⟨hwait, hrun⟩
    · exact absurd (hover.symm.trans ho) (by decide)
    · have hflag : s.isCancel = true := (Bool.and_eq_true_iff.1 haborted).1
      have hc : g.cancelled = true := by
        by_contra hc
        have hf := h.flag (Bool.eq_false_of_not_eq_true hc) hover hflag
        exact absurd (haborted.symm.trans hf.2) (by decide)
      have hs : { s with isCancel := true } = s := by rw [← hflag]
      have hg : { g with cancelled := true } = g := by rw [← hc]
      rw [hs, hg]
      exact h
    · obtain ⟨i, retry, hpc, hlast⟩ : ∃ i retry, s.pc = .wait i retry ∧ i + 1 = s.execution.components.length := by
        cases hpc : s.pc <;> simp_all [isLastWait]
      refine ⟨h.installType, h.installed, h.perform, h.place, by simp, by simp, fun _ => ?_,
        by simp [hpc], by simp [hpc]⟩
      rw [IsStopped, show StreamInstall.pc { s with isCancel := true } = .wait i retry from hpc]
      refine ⟨hlast, rfl, fun hstatus => ?_⟩
      cases hc : g.cancelled with
      | false => exact absurd hstatus (h.decisive hc (by simp [isDecisive, hpc, hlast]))
      | true =>
        have hs := h.stopped hc
        rw [IsStopped, hpc] at hs
        exact hs.2.2 hstatus

theorem step (h : Recorded s g) (hg : s.SeesCancel op) (hs : Step s op s') : Recorded s' (g.observe s op s') := by
  cases hs with
  | noComponent hpc hnil => exact absurd hnil hg
  | first hpc hne =>
    have hc : g.cancelled = false := h.notCancelled (by simp [IsStopped, hpc])
    refine h.move (i := 0) hc rfl ⟨List.length_pos_iff.2 hne, (h.perform hpc).le⟩ rfl (h.flag hc (by rw [hpc]; rfl)) ?_
    simp [isDecisive]
  | beginAttempt i retry hpc =>
    have hc : g.cancelled = false := h.notCancelled (by simp [IsStopped, hpc])
    refine h.move (i := i) hc rfl (h.place i (by rw [hpc]; rfl)) rfl (fun hf => ⟨?_, ?_⟩) (by simp [resetAttempt])
    · exact (h.flag hc (by rw [hpc]; rfl) hf).1
    · simp [isAborted, resetAttempt]
  | initialized i retry hpc | idle i retry hpc | set i retry hpc | started i retry hpc =>
    exact h.advance (i := i) (by simp [IsStopped, hpc]) (by rw [hpc]; rfl) rfl rfl rfl rfl rfl rfl
      (by rw [isDecisive, isDecisive, hpc])
  | initFail i retry hpc | busy i retry hpc =>
    exact h.advance (i := i) (by simp [IsStopped, hpc]) (by rw [hpc]; rfl) rfl rfl rfl rfl rfl rfl
      (by rw [isDecisive, isDecisive, hpc]; rfl)
  | setFail i retry ret hpc | startFail i retry ret hpc =>
    exact h.advance (i := i) (by simp [IsStopped, hpc]) (by rw [hpc]; rfl) rfl rfl rfl rfl rfl rfl
      (by rw [isDecisive, isDecisive, hpc]; rfl)
  | download i retry hpc =>
    have hc : g.cancelled = false := h.notCancelled (by simp [IsStopped, hpc])
    refine h.move (i := i) hc rfl (h.place i (by rw [hpc]; rfl)) rfl (by simp) (fun hd => h.decisive hc ?_)
    rw [← hd, isDecisive, isDecisive, hpc]
  | downloadFail i retry ret hpc =>
    have hc : g.cancelled = false := h.notCancelled (by simp [IsStopped, hpc])
    refine h.move (i := i) hc rfl (h.place i (by rw [hpc]; rfl)) rfl (by simp [fail]) (fun hd => h.decisive hc ?_)
    rw [← hd, isDecisive, isDecisive, hpc]
    rfl
  | wake i retry hpc hready =>
    refine h.attempted hpc fun hf => ?_
    obtain ⟨haborted, hsuccess⟩ := hg hf
    exact ⟨haborted, decide_eq_false hsuccess⟩
  | timeout i retry hpc =>
    refine h.attempted hpc fun hf => ?_
    exact absurd (hf.symm.trans hg) (by decide)
  | installed i retry hpc =>
    have hc : g.cancelled = false := by
      refine h.notCancelled fun hs => ?_
      rw [IsStopped, hpc] at hs
      exact absurd hs.2.1 (by decide)
    have hsame : g.observe s .afterAttempt (s.componentDone i true) = g := by
      simp [CancelLedger.observe, hpc, hc]
    rw [hsame]
    refine h.componentDone hc (by rw [hpc]; rfl) true (by rw [hpc]; rfl) fun hd => ?_
    obtain ⟨hlast, hcount⟩ := isDecisive_componentDone (h.place i (by rw [hpc]; rfl)).1 hd
    rw [isDecisive, hpc]
    exact decide_eq_true ⟨hlast, hcount⟩
  | giveUp i retry hpc =>
    have hsame : g.observe s .afterAttempt (s.componentDone i false) = g := by
      simp [CancelLedger.observe, hpc]
    rw [hsame]
    cases hc : g.cancelled with
    | false =>
      refine h.componentDone hc (by rw [hpc]; rfl) false (by rw [hpc]; rfl) fun hd => ?_
      rw [isDecisive, hpc]
      exact decide_eq_true (isDecisive_componentDone (h.place i (by rw [hpc]; rfl)).1 hd).1
    | true => exact h.afterAttempt_stopped hpc hc
  | retry i retry hpc hcancel =>
    have hc : g.cancelled = false := by
      refine h.notCancelled fun hs => ?_
      rw [IsStopped, hpc] at hs
      exact hcancel hs.2.2.1
    have hsame : g.observe s .afterAttempt { s with pc := .attempt i (retry + 1) } = g := by
      simp [CancelLedger.observe, hpc]
    rw [hsame]
    exact h.move (i := i) hc rfl (h.place i (by rw [hpc]; rfl)) rfl (h.flag hc (by rw [hpc]; rfl))
      (by simp [isDecisive])
  | assignStatus hpc =>
    rw [if_pos (show s.sysInstallProgress.status ≠ .installFail from hg)]
    exact h.assignStatus hpc
  | callbackResult result indeterminate hpc => exact h.callbackResult indeterminate hpc
  | deliver r percent => exact h.deliver r percent
  | downloadEnd e hrun => exact h.downloadEnd hrun hg
  | cancel => exact h.cancel hg

end Recorded

/-- In the runs of `SeesCancel` no component is installed after the cancel, the status is assigned when
`PerformInstall` returns, and the task is recorded as paused if and only if the install was cancelled. -/
theorem run_seesCancel {e : InstallExecution} (he : e.installType = .streamInstaller) {isCancel : Bool}
    {ops : List StreamInstallOp} {s : StreamInstall} {g : CancelLedger}
    (h : ((lts.guard SeesCancel).observe CancelLedger.observe).Run ({ execution := e, isCancel }, {}) ops (s, g)) :
    g.installed = [] ∧ (∀ r, s.pc = .result r → s.status.isSome = true) ∧
      ∀ r, s.pc = .written r → ∀ task ∈ s.execution.taskTable, task.taskId = s.execution.tasks.taskId →
        task.status = g.expected r := by
  have hinv : ((lts.guard SeesCancel).observe CancelLedger.observe).Preserved fun x => Recorded x.1 x.2 := by
    intro x op y hs hx
    rw [hs.2]
    exact hx.step hs.1.1 (step_cases hs.1.2)
  have h₀ : Recorded { execution := e, isCancel } {} := by
    refine ⟨he, rfl, fun _ => rfl, ?_, fun _ _ _ => ⟨rfl, ?_⟩, ?_, ?_, ?_, ?_⟩ <;>
      simp [StreamInstallPc.place, isDecisive, isAborted]
  have hs := h.invariant hinv h₀
  refine ⟨hs.installed, fun r hr => ?_, hs.written⟩
  obtain ⟨status, hstatus, -⟩ := hs.result r hr
  rw [hstatus]
  rfl

def attemptOps : List StreamInstallOp :=
  [.beginAttempt, .sysInstallerInit true, .getUpdateStatus true, .setUpdateCallback 0, .startStreamUpdate 0, .startDownload 0]

/-- A whole download, and the report that ends the wait. -/
def reportedOps (status : UpgradeStatus) (percent : Int) : List StreamInstallOp :=
  attemptOps ++ [.downloadEnd .finish, .deliver { progress := { status } } percent, .wake, .afterAttempt]

def streamExecution (urls : List String) : InstallExecution :=
  (FirmwareInstallExecutor.doInstall
    { installType := .streamInstaller
      taskTable := [{ taskId := "t", status := .downloadSuccess }]
      componentTable := urls.map fun url => { url, size := 1 } }).1

/-- The one component is cancelled, and the install is recorded as paused. -/
theorem run_seesCancel_paused : ∃ (s : StreamInstall) (g : CancelLedger), s.pc = .written false ∧ g.cancelled = true ∧
    g.installed = [] ∧ ∀ task ∈ s.execution.taskTable, task.taskId = s.execution.tasks.taskId →
    task.status = .installPause := by
  have hrun : ∃ (s : StreamInstall) (g : CancelLedger), ((lts.guard SeesCancel).observe CancelLedger.observe).Run
      ({ execution := streamExecution ["u"], isCancel := false }, {})
      ([.performInstall] ++ attemptOps ++
        [.cancel, .downloadEnd .abort, .wake, .afterAttempt, .assignStatus, .callbackResult .init]) (s, g) ∧
      s.pc = .written false ∧ g.cancelled = true := by
    rw [lts, Lts.guard_ofPartial, Lts.observe_ofPartial]
    exact ⟨_, _, Lts.run_ofPartial_get (by rfl), rfl, rfl⟩
  obtain ⟨s, g, h, hpc, hc⟩ := hrun
  obtain ⟨hinstalled, -, hwritten⟩ := run_seesCancel (by decide) h
  refine ⟨s, g, hpc, hc, hinstalled, fun task htask hid => ?_⟩
  rw [hwritten false hpc task htask hid, CancelLedger.expected, hc]
  rfl

/-- The first of two components is cancelled, the second is then begun and installed, and the task is recorded
as failed. One component that fails in all its attempts leaves the status unassigned. -/
theorem cancel_goes_on :
    (∃ (s : StreamInstall) (g : CancelLedger), (lts.observe CancelLedger.observe).Run
        ({ execution := streamExecution ["u", "v"] }, {})
        ([.performInstall] ++ attemptOps ++ [.cancel, .downloadEnd .abort, .wake, .afterAttempt] ++
          reportedOps .installSuccess 100 ++ [.assignStatus, .callbackResult .init]) (s, g) ∧
      g.cancelled = true ∧ 1 ∈ g.installed ∧ s.execution.taskTable.map (·.status) = [.installFail]) ∧
    ∃ s : StreamInstall, lts.Run { execution := streamExecution ["u"] }
        ([.performInstall] ++ (List.replicate maxRetryCount (reportedOps .installFail 0)).flatten ++ [.assignStatus]) s ∧
      s.pc = .result false ∧ s.status = none := by
  constructor
  · rw [lts, Lts.observe_ofPartial]
    exact ⟨_, _, Lts.run_ofPartial_get (by rfl), rfl, by decide, rfl⟩
  · exact ⟨_, Lts.run_ofPartial_get (by rfl), rfl, rfl⟩

end StreamInstall

end UpdateService
