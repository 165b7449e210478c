import UpdateService.SysInstaller

/-!
# Whose report decides a component

All components share one stored report and one ready flag. `Ledger` watches a run: whose callback has
stored last, which components' success has been delivered while they were waited for, and whose report has
woken the thread for which component. In the runs of `OwnReports` the result of `PerformInstall` is the one
the ledger tells.
-/

namespace UpdateService

namespace SysInstallPc

/-- The component that is being installed. -/
def place : SysInstallPc → Option Nat
  | component i | init i | updateStatus i | setup i | zip i | wait i => some i
  | start | perform | result _ | written | destroyed => none

/-- The component whose progress has been reset and whose wait has not ended. -/
def current : SysInstallPc → Option Nat
  | init i | updateStatus i | setup i | zip i | wait i => some i
  | component _ | start | perform | result _ | written | destroyed => none

/-- The callback of the component is set. -/
def isSet : SysInstallPc → Bool
  | zip _ | wait _ => true
  | component _ | init _ | updateStatus _ | setup _ | start | perform | result _ | written | destroyed => false

theorem place_of_current {pc : SysInstallPc} {i : Nat} (h : pc.current = some i) : pc.place = some i := by
  cases pc <;> simp_all [current, place]

theorem current_of_isSet {pc : SysInstallPc} {i : Nat} (h : pc.isSet = true) (hi : pc.place = some i) :
    pc.current = some i := by
  cases pc <;> simp_all [current, place, isSet]

end SysInstallPc

namespace SysInstall

structure Ledger where
  owner : Option Nat := none
  delivered : List Nat := []
  decided : List (Nat × Option Nat) := []

/-- Success at 100 percent that has been stored and not reset. -/
def HoldsSuccess (s : SysInstall) : Prop := s.resultReady = true ∧ s.sysInstallProgress.isInstallSuccess = true

def Ledger.observe (g : Ledger) (s : SysInstall) (op : SysInstallOp) (_ : SysInstall) : Ledger :=
  match op with
  | .deliver i r =>
    { g with
      owner := some i
      delivered :=
        if r.progress.isInstallSuccess ∧ ∃ c ∈ s.pc.place, c ≤ i then i :: g.delivered else g.delivered }
  | .wake => { g with decided := g.decided ++ (s.pc.place.map fun i => (i, g.owner)).toList }
  | _ => g

/-- While a component is in progress, only its own report ends the wait, nothing but its own success follows
its success, and its package does not fail to start after its success. -/
def OwnReports (s : SysInstall) : SysInstallOp → Prop
  | .deliver i r => ∀ c ∈ s.pc.current,
      (r.progress.isInstallEnd = true → i = c) ∧
        (s.HoldsSuccess → i = c ∧ r.progress.isInstallSuccess = true)
  | .startUpdatePackageZip ret => ret ≠ 0 → ¬ s.HoldsSuccess
  | _ => True

instance (s : SysInstall) : Decidable s.HoldsSuccess := inferInstanceAs (Decidable (_ ∧ _))

instance (s : SysInstall) (op : SysInstallOp) : Decidable (s.OwnReports op) :=
  match op with
  | .deliver _ _ => inferInstanceAs (Decidable (∀ c ∈ s.pc.current, _))
  | .startUpdatePackageZip ret => inferInstanceAs (Decidable (ret ≠ 0 → ¬ s.HoldsSuccess))
  | .startInstall _ | .performInstall | .initInstallProgress | .sysInstallerInit _ | .getUpdateStatus _
  | .setUpdateCallback _ | .wake | .timeout | .callbackResult | .destroy | .forward _ => .isTrue trivial

theorem components_step {s s' : SysInstall} {op : SysInstallOp} (h : Step s op s') :
    s'.execution.components = s.execution.components := by
  cases h with
  | forward k component hk => exact (FirmwareInstallExecutor.handleInstallProgress_keeps component s.execution).2.1
  | _ => rfl

/-- The result is the one the ledger tells. -/
structure Reported (s : SysInstall) (g : Ledger) : Prop where
  notStart : s.pc ≠ .start
  nonempty : s.execution.components ≠ []
  perform : s.pc = .perform → s.callbacks = [] ∧ s.successCount = 0
  callbacks : ∀ i, s.pc.place = some i → ∀ j ∈ s.callbacks, j < i ∨ j = i ∧ s.pc.isSet = true
  delivered : ∀ j ∈ g.delivered, j ∈ s.callbacks
  count : ∀ i, s.pc.place = some i → i < s.execution.components.length ∧
    s.successCount = (List.range i).countP fun j => j ∈ g.delivered
  success : ∀ i, s.pc.current = some i → (i ∈ g.delivered ↔ s.HoldsSuccess)
  owner : ∀ i, s.pc.current = some i → s.isResultReady = true → g.owner = some i
  result : ∀ r, s.pc = .result r → (r = true ↔ ∀ j < s.execution.components.length, j ∈ g.delivered)
  decided : ∀ d ∈ g.decided, d.2 = some d.1

namespace Reported
variable {s s' : SysInstall} {g : Ledger} {op : SysInstallOp} {i : Nat}

theorem not_mem_delivered (h : Reported s g) (hi : s.pc.place = some i) (hset : s.pc.isSet = false) :
    i ∉ g.delivered := by
  intro hd
  rcases h.callbacks i hi i (h.delivered i hd) with hlt | ⟨-, hs⟩
  · exact absurd hlt (lt_irrefl i)
  · exact absurd (hset.symm.trans hs) (by decide)

theorem advance (h : Reported s g) (hi : s.pc.current = some i) (hi' : s'.pc.current = some i)
    (hcallbacks : ∀ j ∈ s'.callbacks, j ∈ s.callbacks ∧ (s.pc.isSet = true → s'.pc.isSet = true) ∨
    j = i ∧ s'.pc.isSet = true)
    (hsub : ∀ j ∈ s.callbacks, j ∈ s'.callbacks) (hexec : s'.execution = s.execution)
    (hcount : s'.successCount = s.successCount) (hready : s'.resultReady = s.resultReady)
    (hprogress : s'.sysInstallProgress = s.sysInstallProgress) : Reported s' g where
  notStart hp := by rw [hp] at hi'; cases hi'
  nonempty := hexec ▸ h.nonempty
  perform hp := by rw [hp] at hi'; cases hi'
  callbacks k hk j hj := by
    obtain rfl : i = k := Option.some.inj ((SysInstallPc.place_of_current hi').symm.trans hk)
    rcases hcallbacks j hj with ⟨hj, hset⟩ | hj
    · exact (h.callbacks i (SysInstallPc.place_of_current hi) j hj).imp_right fun hs => ⟨hs.1, hset hs.2⟩
    · exact .inr hj
  delivered j hj := hsub j (h.delivered j hj)
  count k hk := by
    obtain rfl : i = k := Option.some.inj ((SysInstallPc.place_of_current hi').symm.trans hk)
    rw [hexec, hcount]
    exact h.count i (SysInstallPc.place_of_current hi)
  success k hk := by
    obtain rfl : i = k := Option.some.inj (hi'.symm.trans hk)
    rw [HoldsSuccess, hready, hprogress]
    exact h.success i hi
  owner k hk hr := by
    obtain rfl : i = k := Option.some.inj (hi'.symm.trans hk)
    rw [isResultReady, hready, hprogress] at hr
    exact h.owner i hi hr
  result r hr := by rw [hr] at hi'; cases hi'
  decided := h.decided

theorem setErrMsg (h : Reported s g) (errMsg : ErrorMessage) : Reported { s with errMsg } g :=
  ⟨h.notStart, h.nonempty, h.perform, h.callbacks, h.delivered, h.count, h.success, h.owner, h.result, h.decided⟩

/-- The end of the loop body, with the component's success as the ledger has it. -/
theorem componentDone (h : Reported s g) (hi : s.pc.place = some i) (b : Bool) (hb : b = true ↔ i ∈ g.delivered) :
    Reported (s.componentDone i b) g := by
  obtain ⟨hlt, hcount₀⟩ := h.count i hi
  have hcount : (s.componentDone i b).successCount = (List.range (i + 1)).countP fun j => j ∈ g.delivered := by
    rw [List.range_succ, List.countP_append, ← hcount₀, List.countP_singleton]
    simp only [decide_eq_true_eq, ← hb]
    cases b <;> rfl
  have hcallbacks : ∀ j ∈ s.callbacks, j < i + 1 := fun j hj => by
    rcases h.callbacks i hi j hj with hlt | ⟨rfl, -⟩ <;> omega
  by_cases hlast : i + 1 < s.execution.components.length
  · have hpc : (s.componentDone i b).pc = .component (i + 1) := by rw [SysInstall.componentDone, if_pos hlast]
    refine ⟨by simp [hpc], h.nonempty, by simp [hpc], fun k hk j hj => ?_, h.delivered, fun k hk => ?_,
      fun k hk => ?_, fun k hk => ?_, by simp [hpc], h.decided⟩
    · rw [hpc] at hk
      obtain rfl : i + 1 = k := Option.some.inj hk
      exact .inl (hcallbacks j hj)
    · rw [hpc] at hk
      obtain rfl : i + 1 = k := Option.some.inj hk
      exact ⟨hlast, hcount⟩
    · rw [hpc] at hk
      cases hk
    · rw [hpc] at hk
      cases hk
  · have hlen : s.execution.components.length = i + 1 := by omega
    have hpc : (s.componentDone i b).pc = .result (decide ((s.componentDone i b).successCount = i + 1)) := by
      rw [SysInstall.componentDone, if_neg hlast, hlen]
    refine ⟨by simp [hpc], h.nonempty, by simp [hpc], fun k hk => ?_, h.delivered, fun k hk => ?_, fun k hk => ?_,
      fun k hk => ?_, fun r hr => ?_, h.decided⟩
    · rw [hpc] at hk
      cases hk
    · rw [hpc] at hk
      cases hk
    · rw [hpc] at hk
      cases hk
    · rw [hpc] at hk
      cases hk
    · rw [hpc, hcount] at hr
      obtain rfl := SysInstallPc.result.inj hr
      have hall := List.countP_eq_length (p := fun j => decide (j ∈ g.delivered)) (l := List.range (i + 1))
      rw [List.length_range] at hall
      change _ ↔ ∀ j < s.execution.components.length, _
      rw [hlen, decide_eq_true_eq, hall]
      simp only [List.mem_range, decide_eq_true_eq]

theorem fail (h : Reported s g) (hi : s.pc.place = some i) (hd : i ∉ g.delivered) (errorCode : Int)
    (errorMessage : String) :
    Reported (s.fail i errorCode errorMessage) g := by
  have herr := h.setErrMsg { errorCode, errorMessage }
  exact herr.componentDone hi false (by simp [hd])

theorem leave (h : Reported s g) (hplace : s'.pc.place = none) (hstart : s'.pc ≠ .start) (hperform : s'.pc ≠ .perform)
    (hresult : ∀ r, s'.pc ≠ .result r) (hcomponents : s'.execution.components = s.execution.components)
    (hcallbacks : s'.callbacks = s.callbacks) : Reported s' g where
  notStart := hstart
  nonempty := hcomponents ▸ h.nonempty
  perform hp := absurd hp hperform
  callbacks k hk := by rw [hplace] at hk; cases hk
  delivered := hcallbacks ▸ h.delivered
  count k hk := by rw [hplace] at hk; cases hk
  success k hk := by rw [SysInstallPc.place_of_current hk] at hplace; cases hplace
  owner k hk := by rw [SysInstallPc.place_of_current hk] at hplace; cases hplace
  result r hr := absurd hr (hresult r)
  decided := h.decided

theorem deliver (h : Reported s g) {r : InstallProgress} (hg : s.OwnReports (.deliver i r)) (hi : i ∈ s.callbacks)
    (component : FirmwareComponent) : Reported (s.deliver component r) (g.observe s (.deliver i r) s') := by
  -- a report delivered before the wait has ended is one of the component in progress
  have hopen : ∀ c, s.pc.place = some c → c ≤ i → i = c ∧ s.pc.current = some c := by
    intro c hc hle
    rcases h.callbacks c hc i hi with hlt | ⟨rfl, hset⟩
    · omega
    · exact ⟨rfl, SysInstallPc.current_of_isSet hset hc⟩
  have hmem : ∀ j, j ∈ (g.observe s (.deliver i r) s').delivered ↔
      j ∈ g.delivered ∨ j = i ∧ r.progress.isInstallSuccess = true ∧ s.pc.current = some i := by
    intro j
    simp only [Ledger.observe]
    split
    · rename_i hyes
      obtain ⟨hr, c, hc, hle⟩ := hyes
      obtain ⟨rfl, hcur⟩ := hopen c hc hle
      simp [hr, hcur, or_comm]
    · rename_i hno
      constructor
      · exact .inl
      · rintro (hj | ⟨-, hr, hcur⟩)
        · exact hj
        · exact absurd ⟨hr, i, SysInstallPc.place_of_current hcur, le_rfl⟩ hno
  refine ⟨h.notStart, h.nonempty, h.perform, h.callbacks, fun j hj => ?_, fun c hc => ?_,
    fun c hc => ?_, fun c hc hr => ?_,
    fun b hb => ?_, h.decided⟩
  · rcases (hmem j).1 hj with hj | ⟨rfl, -⟩
    exacts [h.delivered j hj, hi]
  · refine ⟨(h.count c hc).1, (h.count c hc).2.trans (List.countP_congr fun j hj => ?_)⟩
    rw [decide_eq_true_eq, decide_eq_true_eq, hmem]
    refine ⟨.inl, ?_⟩
    rintro (hj' | ⟨rfl, -, hcur⟩)
    · exact hj'
    · obtain rfl : j = c := Option.some.inj ((SysInstallPc.place_of_current hcur).symm.trans hc)
      exact absurd (List.mem_range.1 hj) (lt_irrefl j)
  · have hhold : (s.deliver component r).HoldsSuccess ↔ r.progress.isInstallSuccess = true := by
      simp [HoldsSuccess, SysInstall.deliver]
    rw [hmem, hhold, h.success c hc]
    constructor
    · rintro (hs | ⟨-, hr, -⟩)
      exacts [((hg c hc).2 hs).2, hr]
    · intro hr
      obtain rfl := (hg c hc).1 (by simp [Progress.isInstallEnd, hr])
      exact .inr ⟨rfl, hr, hc⟩
  · have hend : r.progress.isInstallEnd = true := by
      simpa [isResultReady, SysInstall.deliver] using hr
    exact congrArg some ((hg c hc).1 hend)
  · have hcur : s.pc.current ≠ some i := by
      rw [show s.pc = .result b from hb]
      simp [SysInstallPc.current]
    simp only [hmem, hcur, and_false, or_false]
    exact h.result b hb

theorem step (h : Reported s g) (hg : s.OwnReports op) (hs : Step s op s') : Reported s' (g.observe s op s') := by
  cases hs with
  | legal fileSize hpc => exact absurd hpc h.notStart
  | illegal fileSize hpc => exact absurd hpc h.notStart
  | noComponent hpc hnil => exact absurd hnil h.nonempty
  | first hpc hne =>
    obtain ⟨hcallbacks, hcount⟩ := h.perform hpc
    refine ⟨by simp, h.nonempty, by simp, fun k hk j hj => ?_, h.delivered, fun k hk => ?_,
      fun k hk => ?_, fun k hk => ?_,
      by simp, h.decided⟩
    · rw [show _ = [] from hcallbacks] at hj
      cases hj
    · obtain rfl : 0 = k := Option.some.inj hk
      exact ⟨List.length_pos_iff.2 hne, hcount⟩
    · cases hk
    · cases hk
  | reset i hpc =>
    have hplace : s.pc.place = some i := by rw [hpc]; rfl
    have hd : i ∉ g.delivered := h.not_mem_delivered hplace (by rw [hpc]; rfl)
    refine ⟨by simp, h.nonempty, by simp, fun k hk j hj => ?_, h.delivered, fun k hk => ?_, fun k hk => ?_,
      fun k hk hr => ?_, by simp, h.decided⟩
    · obtain rfl : i = k := Option.some.inj hk
      rcases h.callbacks i hplace j hj with hlt | ⟨-, hset⟩
      · exact .inl hlt
      · rw [hpc] at hset
        cases hset
    · obtain rfl : i = k := Option.some.inj hk
      exact h.count i hplace
    · obtain rfl : i = k := Option.some.inj hk
      exact iff_of_false hd fun hs => by cases hs.1
    · cases hr
  | initialized i hpc | idle i hpc =>
    refine h.advance (i := i) (by rw [hpc]; rfl) rfl (fun j hj => .inl ⟨hj, fun hset => ?_⟩)
      (fun j hj => hj) rfl rfl rfl rfl
    rw [hpc] at hset
    cases hset
  | started i hpc =>
    exact h.advance (i := i) (by rw [hpc]; rfl) rfl (fun j hj => .inl ⟨hj, fun _ => rfl⟩)
      (fun j hj => hj) rfl rfl rfl rfl
  | set i hpc =>
    refine h.advance (i := i) (by rw [hpc]; rfl) rfl (fun j hj => ?_)
      (fun j hj => List.mem_cons_of_mem i hj) rfl rfl rfl rfl
    rcases List.mem_cons.1 hj with rfl | hj
    exacts [.inr ⟨rfl, rfl⟩, .inl ⟨hj, fun _ => rfl⟩]
  | initFail i hpc => exact h.fail (by rw [hpc]; rfl) (h.not_mem_delivered (by rw [hpc]; rfl) (by rw [hpc]; rfl)) _ _
  | busy i hpc => exact h.fail (by rw [hpc]; rfl) (h.not_mem_delivered (by rw [hpc]; rfl) (by rw [hpc]; rfl)) _ _
  | setFail i ret hpc => exact h.fail (by rw [hpc]; rfl) (h.not_mem_delivered (by rw [hpc]; rfl) (by rw [hpc]; rfl)) _ _
  | startFail i ret hpc hret =>
    refine h.fail (by rw [hpc]; rfl) (fun hd => ?_) _ _
    exact hg hret ((h.success i (by rw [hpc]; rfl)).1 hd)
  | wake i hpc hready =>
    have hcur : s.pc.current = some i := by rw [hpc]; rfl
    have hb : s.sysInstallProgress.isInstallSuccess = true ↔ i ∈ g.delivered := by
      rw [h.success i hcur]
      exact ⟨fun hs => ⟨(Bool.and_eq_true_iff.1 hready).1, hs⟩, And.right⟩
    have hdone := h.componentDone (by rw [hpc]; rfl) _ hb
    refine { hdone with decided := fun d hd => ?_ }
    rw [Ledger.observe, hpc] at hd
    rcases List.mem_append.1 hd with hd | hd
    · exact h.decided d hd
    · obtain rfl := List.mem_singleton.1 hd
      exact h.owner i hcur hready
  | timeout i hpc hready =>
    refine h.componentDone (by rw [hpc]; rfl) false ?_
    rw [h.success i (by rw [hpc]; rfl)]
    constructor
    · rintro hf
      cases hf
    · rintro ⟨hr, hs⟩
      simp [isResultReady, hr, hs, Progress.isInstallEnd] at hready
  | callbackResult result hpc =>
    exact h.leave (show (s.onFirmwareEvent _ _ _).pc.place = none from rfl) (by simp [onFirmwareEvent])
      (by simp [onFirmwareEvent])
      (by simp [onFirmwareEvent]) rfl rfl
  | destroy hpc => exact h.leave rfl (by simp) (by simp) (by simp) rfl rfl
  | skip i r hpc =>
    have hsame : g.observe s (.deliver i r) s = { g with owner := some i } := by
      simp [Ledger.observe, hpc, SysInstallPc.place]
    rw [hsame]
    exact { h with owner := fun k hk => by rw [hpc] at hk; cases hk }
  | deliver i r component hpc hi => exact h.deliver hg hi component
  | forward k component hk =>
    have hcomponents := (FirmwareInstallExecutor.handleInstallProgress_keeps component s.execution).2.1
    refine ⟨h.notStart, ?_, h.perform, h.callbacks, h.delivered, fun i hi => ?_, h.success, h.owner,
      fun r hr => ?_, h.decided⟩
    · rw [hcomponents]
      exact h.nonempty
    · rw [hcomponents]
      exact h.count i hi
    · rw [hcomponents]
      exact h.result r hr

end Reported

/-- In the runs of `OwnReports` a component counts as installed if and only if its own success has been
delivered before its wait has ended, and every wait is ended by the report of its component. -/
theorem run_ownReports {e : InstallExecution} (hne : e.components ≠ []) {ops : List SysInstallOp}
    {s : SysInstall} {g : Ledger}
    (h : ((lts.guard OwnReports).observe Ledger.observe).Run ({ pc := .perform, execution := e }, {}) ops (s, g)) :
    (∀ r, s.pc = .result r → (r = true ↔ ∀ i < e.components.length, i ∈ g.delivered)) ∧ ∀ d ∈ g.decided, d.2 = some d.1 := by
  have hinv : ((lts.guard OwnReports).observe Ledger.observe).Preserved
      fun x => Reported x.1 x.2 ∧ x.1.execution.components = e.components := by
    intro x op y hs hx
    refine ⟨?_, (components_step (step_cases hs.1.2)).trans hx.2⟩
    rw [hs.2]
    exact hx.1.step hs.1.1 (step_cases hs.1.2)
  have h₀ : Reported { pc := .perform, execution := e } {} := by
    refine ⟨?_, hne, fun _ => ⟨rfl, rfl⟩, ?_, ?_, ?_, ?_, ?_, ?_, ?_⟩ <;> simp [SysInstallPc.place,
      SysInstallPc.current]
  obtain ⟨hr, hc⟩ := h.invariant hinv ⟨h₀, rfl⟩
  exact ⟨hc ▸ hr.result, hr.decided⟩

/-- Two components are installed, each by its own report. -/
theorem run_ownReports_two : ∃ (s : SysInstall) (g : Ledger), s.pc = .result true ∧
    (∀ i < (sampleExecution ["u", "v"]).components.length, i ∈ g.delivered) ∧ ∀ d ∈ g.decided, d.2 = some d.1 := by
  have hrun : ∃ s : SysInstall, (lts.guard OwnReports).Run { pc := .perform, execution := sampleExecution ["u", "v"] }
      ([.performInstall] ++ beginOps ++ [.deliver 0 successReport, .wake] ++ beginOps ++
        [.deliver 1 successReport, .wake]) s ∧ s.pc = .result true := by
    rw [lts, Lts.guard_ofPartial]
    exact ⟨_, Lts.run_ofPartial_get (by rfl), rfl⟩
  obtain ⟨s, h, hr⟩ := hrun
  obtain ⟨g, h⟩ := h.exists_observe Ledger.observe {}
  obtain ⟨hresult, hdecided⟩ := run_ownReports (by decide) h
  exact ⟨s, g, hr, (hresult true hr).1 rfl, hdecided⟩

/-- A second success report of the first component installs the second one. -/
theorem late_report_decides : ∃ (s : SysInstall) (g : Ledger), (lts.observe Ledger.observe).Run
      ({ pc := .perform, execution := sampleExecution ["u", "v"] }, {})
      ([.performInstall] ++ beginOps ++ [.deliver 0 successReport, .wake] ++ beginOps ++
        [.deliver 0 successReport, .wake]) (s, g) ∧
    s.pc = .result true ∧ 1 < (sampleExecution ["u", "v"]).components.length ∧ 1 ∉ g.delivered ∧ (1, some 0) ∈ g.decided := by
  rw [lts, Lts.observe_ofPartial]
  exact ⟨_, _, Lts.run_ofPartial_get (by rfl), rfl, by decide, by decide, by decide⟩

end SysInstall

end UpdateService
