import UpdateService.ManagerRun
import UpdateService.Proofs.ServiceTimes
import Mathlib.Data.Finset.Card
import Mathlib.Data.Finset.Range

/-!
# The time accounting of a download

`spend` adds up the durations of all transfer sessions of a download, and `Steady` says which steps keep its account.
The others are those at which something is written that does not hold the times: the reports of `NotifyPauseCompleted`
and `NotifyRecoverCompleted`, and those of a thread before it has computed its effective time, which begins at 0
whatever the record has; or at which time is lost: a transfer that fails and is retried, a wrong size found in the
middle of one, and threads that go on although the service has let go of them.
-/

namespace UpdateService

namespace RunningService
variable {id taskId : String} {total : Int} {t t' : DownloadTimes} {v v' : ServiceState} {p p' : Nat → TaskPlace}
  {d : DownloadInfo} {info : DownloadCallbackInfo} {s s' : RunningService} {i : Nat} {run run' : ThreadRun}
  {op : ThreadOp} {th th' : DownloadThread}

/-! ### The account -/

def isTransferring (id : String) (i : Nat) (s : RunningService) : Bool :=
  match s.run? i with
  | none => false
  | some run => run.thread.downloadId = id && run.pc.isTransfer

def transfers (id : String) (s : RunningService) : Nat :=
  ((Finset.range s.service.threads.length).filter fun i => s.isTransferring id i = true).card

/-- The durations of the transfer sessions of a download: what passes counts once for every session that is open. -/
def spend (id : String) (total : Int) (s : RunningService) (op : RunningOp) (_ : RunningService) : Int :=
  match op with
  | .outside _ now _ => total + (now - s.service.now) * s.transfers id
  | _ => total

def registered? (id : String) (s : RunningService) : Option ThreadRun :=
  (s.service.threadMap.find? id).bind fun e => s.run? e.2

/-- Nothing is missing in the record of what the registered thread has spent. -/
def UpToDate (id : String) (d : DownloadInfo) (s : RunningService) : Prop :=
  ∀ run ∈ s.registered? id, d.effectiveTime = run.spent s.service.now

instance : Decidable (s.UpToDate id d) := inferInstanceAs (Decidable (∀ run ∈ s.registered? id, _))

/-- A report of the thread at a position is passed on if and only if the thread is registered; it has an effective time
if the record has one; and what it says is all that is lost when it does not go into the record. -/
def Accepts (id : String) (i : Nat) (op : ThreadOp) (d : DownloadInfo) (run : ThreadRun) (s : RunningService) : Prop :=
  (s.service.isStopCallback = false ↔ s.service.threadMap.find? id = some (id, i)) ∧
    (s.service.isStopCallback = false → run.HasTime d.times ∧
      (run.kind op = .sizeError ∨ run.restarts op = true ∧ d.isRetryAble = true →
        d.effectiveTime = run.spent s.service.now))

instance {op : ThreadOp} : Decidable (s.Accepts id i op d run) := inferInstanceAs (Decidable (_ ∧ (_ → _)))

/-- The steps that keep the account of a download. -/
def Steady (id : String) (s : RunningService) : RunningOp → Prop
  | .pause => ∀ d ∈ s.service.infoMap.find? id, d.times = ⟨0, 0⟩ ∧ s.UpToDate id d
  | .recover => ∀ d ∈ s.service.infoMap.find? id,
      d.isCompleted = true ∨ d.isManualPaused = true ∨ d.times = ⟨0, 0⟩ ∧ s.UpToDate id d
  | .netChangeToPause => ∀ d ∈ s.service.infoMap.find? id, ∀ run ∈ s.registered? id,
      run.thread.status = .init → run.HasTime d.times
  | .restore => ∀ d ∈ s.service.infoMap.find? id, s.UpToDate id d
  | .thread i op => ∀ d ∈ s.service.infoMap.find? id, ∀ run ∈ s.run? i, run.thread.downloadId = id →
      (∀ run' ∈ run.step op, run'.reports = []) ∨ s.Accepts id i op d run
  | .outside _ now _ => now = s.service.now ∨
      ∀ i < s.service.threads.length, s.isTransferring id i = true → s.service.threadMap.find? id = some (id, i)
  | .start | .resume _ | .netChangeToStart => True

instance (op : RunningOp) : Decidable (s.Steady id op) := by
  cases op <;> unfold Steady <;> infer_instance

theorem eq_of_key {e : String × Nat} (he : v.threadMap.find? id = some e) (hi : e.2 = i) :
    v.threadMap.find? id = some (id, i) := by
  have hkey : e.1 = id := KeyedList.key_of_find? he
  rw [he, ← hkey, ← hi]

/-! ### A thread that moves -/

theorem TimeBase.set (h : TimeBase id t ⟨v, p⟩) (hth : v.threads[i]? = some th) (hid : th'.downloadId = th.downloadId)
    (hp : ∀ j, j ≠ i → p' j = p j) : TimeBase id t ⟨{ v with threads := v.threads.set i th' }, p'⟩ := by
  have hids := ServiceState.map_downloadId_set hth hid
  have hbase : TimeBase id t ⟨{ v with threads := v.threads.set i th' }, p⟩ :=
    h.congr rfl rfl (fun _ _ hk => hk) hids rfl
  refine ⟨hbase.versionId, hbase.owner, fun j hj => ?_, hbase.record, hbase.rows⟩
  have hi := (List.getElem?_eq_some_iff.1 hth).1
  have hj' : v.threads.length ≤ j := by simpa using hj
  show p' j = {}
  rw [hp j (by omega)]
  exact h.fresh j hj'

theorem TimeInv.set (h : TimeInv id total t ⟨v, p⟩) (hth : v.threads[i]? = some th)
    (hid : th'.downloadId = th.downloadId)
    (hp : ∀ j, j ≠ i → p' j = p j) (hown : v.threadMap.find? id = some (id, i) →
      ThreadRun.Held total v.now t { thread := th', pc := (p' i).pc, headers := (p' i).headers } ∧
        th'.isNeedCancel = false) :
    TimeInv id total t ⟨{ v with threads := v.threads.set i th' }, p'⟩ := by
  refine ⟨h.toTimeBase.set hth hid hp, h.nonneg, h.idle, fun e run he hrun => ?_, h.known⟩
  obtain ⟨th₁, hth₁, rfl⟩ := Option.map_eq_some_iff.1 hrun
  change (v.threads.set i th')[e.2]? = some th₁ at hth₁
  by_cases hi : e.2 = i
  · rw [hi] at hth₁ ⊢
    rw [List.getElem?_set_self (List.getElem?_eq_some_iff.1 hth).1] at hth₁
    obtain rfl := Option.some.inj hth₁
    exact hown (eq_of_key he hi)
  · rw [List.getElem?_set_ne (Ne.symm hi)] at hth₁
    show ThreadRun.Held total v.now t { thread := th₁, pc := (p' e.2).pc, headers := (p' e.2).headers } ∧ _
    rw [hp e.2 hi]
    exact h.held_of he hth₁

theorem run?_setRun (h : s.run? i = some run) :
    (s.setRun i run').run? i = some { thread := run'.thread, pc := run'.pc, headers := run'.headers } := by
  obtain ⟨hth, -, -⟩ := run?_eq_some h
  show ((s.service.threads.set i run'.thread)[i]?.map fun thread => _) = _
  rw [List.getElem?_set_self (List.getElem?_eq_some_iff.1 hth).1, Option.map_some]
  simp only [setRun, Function.update_self]

/-- What a step of a thread asks of the service. -/
structure Moves (id : String) (i : Nat) (op : ThreadOp) (t : DownloadTimes) (run run' : ThreadRun) (s : RunningService) :
    Prop where
  timeStep : run.TimeStep s.service.now op run'
  early : run'.pc.isEarly = true → run.pc.isEarly = true
  downloadId : run'.thread.downloadId = run.thread.downloadId
  kind : ∀ info ∈ run'.reports, info.Is (run.kind op)
  silent : run'.reports = [] → run.kind op ≠ .sizeError
  dropped : s.service.isStopCallback = true → s.service.threadMap.find? id = some (id, i) → run.kind op ≠ .sizeError
  passed : run'.reports ≠ [] → run.thread.downloadId = id → s.service.isStopCallback = false →
    ∀ d, s.service.infoMap.find? id = some d → s.service.threadMap.find? id = some (id, i) ∧ run.HasTime t ∧
      (run.kind op = .sizeError ∨ run.restarts op = true ∧ d.isRetryAble = true →
        t.effectiveTime = run.spent s.service.now)

/-- The registered thread before and after its step. -/
theorem TimeInv.held_step (h : TimeInv id total t s) (hrun : s.run? i = some run) (hm : s.Moves id i op t run run')
    (he : s.service.threadMap.find? id = some (id, i)) :
    run.Held total s.service.now t ∧ run'.Held total s.service.now t ∧
      (run.kind op ≠ .sizeError → run'.thread.isNeedCancel = false) := by
  obtain ⟨hheld, hcancel⟩ := h.held _ run he hrun
  exact ⟨hheld, hheld.step hm.timeStep hm.early hcancel,
    fun hkind => (hm.timeStep.isNeedCancel.resolve_left hkind).trans hcancel⟩

theorem places_setRun {j : Nat} (hj : j ≠ i) : (s.setRun i run').places j = s.places j := Function.update_of_ne hj ..

theorem TimeBase.setRun (h : TimeBase id t s) (hrun : s.run? i = some run)
    (hid : run'.thread.downloadId = run.thread.downloadId) : TimeBase id t (s.setRun i run') :=
  TimeBase.set h (run?_eq_some hrun).1 hid fun _ => places_setRun

theorem TimeInv.setRun (h : TimeInv id total t s) (hrun : s.run? i = some run) (hm : s.Moves id i op t run run')
    (hkind : s.service.threadMap.find? id = some (id, i) → run.kind op ≠ .sizeError) :
    TimeInv id total t (s.setRun i run') := by
  refine TimeInv.set h (run?_eq_some hrun).1 hm.downloadId (fun _ => places_setRun) fun he => ?_
  obtain ⟨-, hafter, hcancel⟩ := h.held_step hrun hm he
  refine ⟨hafter.congr rfl ?_, hcancel (hkind he)⟩
  show (Function.update s.places i ⟨run'.pc, run'.headers⟩ i).pc = run'.pc
  rw [Function.update_self]

/-- What the registered thread says is recorded, or it is started again. -/
theorem TimeInv.recorded (h : TimeInv id total t s) (hrun : s.run? i = some run) (hm : s.Moves id i op t run run')
    (hd : s.service.infoMap.find? id = some d) (hk : run.thread.downloadId = id)
    (hopen : s.service.isStopCallback = false) (hreport : run'.reports = [info])
    (htimes : info.times = run'.thread.callbackInfo.times) (hid : info.downloadId = id) (hc : info.status ≠ .cancel)
    (hlast : info.status.isOngoing = false → run'.pc.isTransfer = false ∨ run.kind op = .sizeError)
    (hfail : info.status = .fail → info.endReason ≠ .ioException → info.endReason ≠ .verifyFail →
      run.kind op = .sizeError ∨ run.restarts op = true ∨ run.pc.isEarly = true) :
    ∃ t', TimeInv id total t' ⟨(s.setRun i run').service.updateDownloadProgress info, (s.setRun i run').places⟩ ∧
      t.Kept t' := by
  obtain ⟨he, htime, hall⟩ := hm.passed (by simp [hreport]) hk hopen d hd
  obtain ⟨hheld, hafter, hcancel⟩ := h.held_step hrun hm he
  obtain ⟨d', hd', hcomp⟩ := h.known _ he
  obtain rfl := Option.some.inj (hd.symm.trans hd')
  have htime' := hheld.hasTime_step hm.timeStep htime
  have hsaid : run'.Held total s.service.now info.times := htimes ▸ hafter.recorded_report htime'
  have hkept : t.Kept info.times := htimes ▸ hafter.kept htime'
  have hlost : run.kind op = .sizeError ∨ run.restarts op = true ∧ d.isRetryAble = true → t.effectiveTime = total :=
    fun hlost => (hall hlost).trans hheld.spent
  refine ⟨_, TimeInv.updateDownloadProgress_own (h.toTimeBase.setRun hrun hm.downloadId) h.nonneg hid hd hc
    (fun hdown => ?_) (h.nonneg.trans hkept.effectiveTime) (fun hret => ⟨?_, hcomp⟩) (fun _ hend => ?_) fun hgo => ?_, ?_⟩
  · exact Bool.eq_false_iff.1 hopen hdown.2
  · obtain ⟨hf, hio, hverify, hable⟩ := ServiceState.retries_eq_true.1 hret
    rcases hfail hf hio hverify with hsize | hrestarts | hearly
    · exact hlost (.inl hsize)
    · exact hlost (.inr ⟨hrestarts, hable⟩)
    · exact (hheld.of_isEarly hearly).2
  · have htotal := hafter.shown_eq htime' ((hlast hend).imp_right fun hsize => hlost (.inl hsize))
    exact (congrArg DownloadTimes.effectiveTime htimes).trans htotal
  · refine ⟨_, he, fun run₂ hrun₂ => ?_⟩
    obtain rfl := Option.some.inj ((run?_setRun hrun).symm.trans hrun₂)
    refine ⟨hsaid.congr rfl rfl, hcancel fun hsize => ?_⟩
    have hkind := hm.kind info (hreport ▸ List.mem_singleton.2 rfl)
    rw [hsize] at hkind
    rw [hkind.1] at hgo
    cases hgo
  · split
    · exact .refl t
    · exact hkept

theorem callback_singleton (info : DownloadCallbackInfo) (s : RunningService) :
    s.callback [info] = ⟨s.service.callbackUpdateDownloadProgress info, s.places⟩ := rfl

theorem TimeInv.moved (h : TimeInv id total t s) (hrun : s.run? i = some run) (hm : s.Moves id i op t run run') :
    ∃ t', TimeInv id total t' ((s.setRun i run').callback run'.reports) ∧ t.Kept t' := by
  obtain ⟨hth, -, hnil⟩ := run?_eq_some hrun
  rcases hm.timeStep.report with hsilent | ⟨info, hreport, htimes, hid, hc, hlast, hfail⟩
  · rw [hsilent.trans hnil]
    exact ⟨t, h.setRun hrun hm fun _ => hm.silent (hsilent.trans hnil), .refl t⟩
  rw [hnil, List.nil_append] at hreport
  rw [hreport, callback_singleton, ServiceState.callbackUpdateDownloadProgress]
  cases hflag : s.service.isStopCallback with
  | true =>
    rw [if_pos (show (s.setRun i run').service.isStopCallback = true from hflag)]
    exact ⟨t, h.setRun hrun hm (hm.dropped hflag), .refl t⟩
  | false =>
    rw [if_neg (show ¬ (s.setRun i run').service.isStopCallback = true from Bool.eq_false_iff.1 hflag)]
    by_cases hk : run.thread.downloadId = id ∧ ∃ d, s.service.infoMap.find? id = some d
    · obtain ⟨hk, d, hd⟩ := hk
      exact h.recorded hrun hm hd hk hflag hreport htimes (hid.trans hk) hc hlast hfail
    · have hunknown : s.service.threadMap.find? id ≠ some (id, i) := fun he => by
        obtain ⟨d, hd, -⟩ := h.known _ he
        exact hk ⟨h.downloadId_of_registered he hth, d, hd⟩
      have hset := h.setRun hrun hm fun he => absurd he hunknown
      refine ⟨t, hset.updateDownloadProgress_other (fun hid' => ?_) hc, .refl t⟩
      show s.service.infoMap.find? id = none
      cases hd : s.service.infoMap.find? id with
      | none => rfl
      | some d => exact absurd ⟨hid.symm.trans hid', d, hd⟩ hk

theorem TimeInv.moves (h : TimeInv id total t s) (hrun : s.run? i = some run) (htask : op.isTask = true)
    (hnow : ∀ now ∈ op.now?, now = s.service.now) (hstep : run.step op = some run')
    (hsteady : s.Steady id (.thread i op)) : s.Moves id i op t run run' := by
  have hspec := ThreadRun.spec hstep
  obtain ⟨hth, -, hnil⟩ := run?_eq_some hrun
  have hsilent : run'.reports = [] → run.kind op ≠ .sizeError := by
    intro hno hsize
    rcases hspec.reports with ⟨-, hgoes⟩ | ⟨info, hreport, -⟩
    · rw [hgoes] at hsize
      cases hsize
    · rw [hno, hnil] at hreport
      cases hreport
  refine ⟨ThreadRun.timeStep hstep htask hnow, ThreadRun.isEarly_of_next hspec.next,
    congrArg DownloadInfo.downloadId hspec.downloadInfo, fun info hinfo => ?_, hsilent, fun hflag he => ?_,
    fun hreports hid hflag d hd => ?_⟩
  · rcases hspec.reports with ⟨hsame, -⟩ | ⟨info', hreport, -, his⟩
    · rw [hsame, hnil] at hinfo
      cases hinfo
    · rw [hreport, hnil] at hinfo
      exact List.mem_singleton.1 hinfo ▸ his
  · obtain ⟨d, hd, -⟩ := h.known _ he
    rcases hsteady d hd run hrun (h.downloadId_of_registered he hth) with hno | ⟨hiff, -⟩
    · exact hsilent (hno run' hstep)
    · exact absurd (hiff.2 he) (by simp [hflag])
  · rcases hsteady d hd run hrun hid with hno | ⟨hiff, hall⟩
    · exact absurd (hno run' hstep) hreports
    · obtain ⟨htime, hlost⟩ := hall hflag
      have ht := h.record d hd
      exact ⟨hiff.1 hflag, ht ▸ htime, fun hk => ht ▸ hlost hk⟩

/-! ### A network change -/

/-- A thread that a network change finds is registered, and has an effective time if it answers. -/
def Pausable (id : String) (i : Nat) (t : DownloadTimes) (p : Nat → TaskPlace) (v : ServiceState) : Prop :=
  ∀ th, v.threads[i]? = some th → th.downloadId = id → v.threadMap.find? id = some (id, i) ∧
    (th.status = .init → ThreadRun.HasTime t { thread := th, pc := (p i).pc, headers := (p i).headers })

theorem pauseThread_eq (hth : v.threads[i]? = some th) :
    (⟨v.pauseThread i, p⟩ : RunningService) =
      (setRun i (ThreadRun.mayReport (th.netChangeToPause v.now) (p i).pc
        { thread := th, pc := (p i).pc, headers := (p i).headers }) ⟨v, p⟩).callback
        (th.netChangeToPause v.now).2.toList := by
  have hplaces : Function.update p i ⟨(p i).pc, (p i).headers⟩ = p := Function.update_eq_self i p
  unfold ServiceState.pauseThread
  rw [hth]
  dsimp only [callback, setRun, ThreadRun.mayReport]
  rw [hplaces]
  cases (th.netChangeToPause v.now).2 <;> rfl

/-- The answer of the registered thread is that of a step of it. -/
theorem TimeInv.moves_pause (h : TimeInv id total t ⟨v, p⟩) (hown : Pausable id i t p v) (hth : v.threads[i]? = some th)
    (hk : th.downloadId = id) :
    Moves id i .netChangeToPause t { thread := th, pc := (p i).pc, headers := (p i).headers }
      (ThreadRun.mayReport (th.netChangeToPause v.now) (p i).pc
        { thread := th, pc := (p i).pc, headers := (p i).headers }) ⟨v, p⟩ := by
  have htells := DownloadThread.tells_netChangeToPause v.now th
  obtain ⟨he, htime⟩ := hown th hth hk
  obtain ⟨hrun, -⟩ := h.held_of he hth
  refine ⟨?_, fun hearly => hearly, congrArg DownloadInfo.downloadId htells.downloadInfo, fun info hinfo => ?_,
    fun _ => nofun, fun _ _ => nofun, fun hreports _ _ d _ => ⟨he, htime ?_, fun hlost => ?_⟩⟩
  · refine .of_tells htells (.inr rfl) nofun (.inl rfl) .inl
      fun st er ⟨hst, _, hinit⟩ => ⟨fun _ => .inl ?_, fun hfail => ?_⟩
    · refine Bool.eq_false_iff.2 fun htransfer => ?_
      exact hrun.begun (TaskPc.isBegun_of_isTransfer htransfer) hinit
    · rw [hst] at hfail
      cases hfail
  · obtain ⟨-, -, -, hst, her, -⟩ := htells.report info (Option.mem_toList.1 hinfo)
    refine ⟨?_, ?_, ?_⟩
    · rw [hst]
      nofun
    · rw [hst]
      nofun
    · rw [her]
      nofun
  · obtain ⟨info, hinfo⟩ := List.exists_mem_of_ne_nil _ hreports
    obtain ⟨-, -, -, -, -, hinit⟩ := htells.report info (Option.mem_toList.1 hinfo)
    exact hinit
  · rcases hlost with hsize | ⟨hrestarts, -⟩
    · cases hsize
    · cases hrestarts

theorem TimeInv.pauseThread (h : TimeInv id total t ⟨v, p⟩) (hown : Pausable id i t p v) :
    ∃ t', TimeInv id total t' ⟨v.pauseThread i, p⟩ ∧ t.Kept t' ∧
      (t' = t ∨ ∃ th, v.threads[i]? = some th ∧ th.downloadId = id) := by
  cases hth : v.threads[i]? with
  | none =>
    have he : v.pauseThread i = v := by
      unfold ServiceState.pauseThread
      rw [hth]
    exact ⟨t, he.symm ▸ h, .refl t, .inl rfl⟩
  | some th =>
    by_cases hk : th.downloadId = id
    · rw [pauseThread_eq hth]
      obtain ⟨t', h', hkept⟩ := h.moved (by rw [run?, hth]; rfl) (h.moves_pause hown hth hk)
      exact ⟨t', h', hkept, .inr ⟨th, rfl, hk⟩⟩
    · have htells := DownloadThread.tells_netChangeToPause v.now th
      have hset := h.set hth (congrArg DownloadInfo.downloadId htells.downloadInfo) (fun _ _ => rfl)
        fun he => absurd (h.downloadId_of_registered he hth) hk
      unfold ServiceState.pauseThread
      rw [hth]
      dsimp only
      cases hinfo : (th.netChangeToPause v.now).2 with
      | none => exact ⟨t, hset, .refl t, .inl rfl⟩
      | some info =>
        obtain ⟨-, hid, hc, -⟩ := htells.report info hinfo
        exact ⟨t, hset.callback_other (fun hid' => absurd (hid.symm.trans hid') hk) hc, .refl t, .inl rfl⟩

theorem callback_ne_fail (hf : info.status ≠ .fail) (hne : info.downloadId ≠ id) :
    (v.callbackUpdateDownloadProgress info).threadMap.find? id = v.threadMap.find? id := by
  unfold ServiceState.callbackUpdateDownloadProgress
  split
  · rfl
  obtain ⟨v₀, hr, ⟨-, he⟩ | ⟨hfail, -⟩ | ⟨d, -, hret, -⟩⟩ := ServiceState.updateDownloadProgress_cases info v
  · rw [he, ServiceState.finishReport_service.2.1]
    exact hr.find?_ne hne.symm
  · exact absurd hfail hf
  · exact absurd (ServiceState.status_of_retries hret) hf

/-- The round of one thread leaves the other threads, and the registration of other downloads. -/
theorem pauseThread_frame (i : Nat) (v : ServiceState) (id : String) :
    (∀ j, j ≠ i → (v.pauseThread i).threads[j]? = v.threads[j]?) ∧
      ((∀ th, v.threads[i]? = some th → th.downloadId ≠ id) →
        (v.pauseThread i).threadMap.find? id = v.threadMap.find? id) := by
  obtain he | ⟨th, th', hth, -, -, -, -, he | ⟨info, -, hid, hauto, -, he⟩⟩ := ServiceState.pauseThread_cases i v <;>
    rw [he]
  · exact ⟨fun _ _ => rfl, fun _ => rfl⟩
  · exact ⟨fun j hj => List.getElem?_set_ne hj.symm, fun _ => rfl⟩
  · have hf : info.status ≠ .fail := by rw [hauto]; nofun
    refine ⟨fun j hj => ?_, fun hother => callback_ne_fail hf (hid ▸ hother th hth)⟩
    rw [(ServiceState.callbackUpdateDownloadProgress_of_ne_fail _ hf).1]
    exact List.getElem?_set_ne hj.symm

theorem TimeInv.pauseThreads {l : List Nat} (hl : l.Nodup) (h : TimeInv id total t ⟨v, p⟩)
    (hall : ∀ i ∈ l, Pausable id i t p v) :
    ∃ t', TimeInv id total t' ⟨l.foldl (fun s i => s.pauseThread i) v, p⟩ ∧ t.Kept t' := by
  induction l generalizing v t with
  | nil => exact ⟨t, h, .refl t⟩
  | cons i l ih =>
    obtain ⟨hi, hl⟩ := List.nodup_cons.1 hl
    obtain ⟨t₁, h₁, hkept, hsame⟩ := h.pauseThread (hall i List.mem_cons_self)
    obtain ⟨hthreads, hmap⟩ := pauseThread_frame i v id
    have hrest : ∀ j ∈ l, Pausable id j t₁ p (v.pauseThread i) := by
      intro j hj th hth hid
      have hne : j ≠ i := fun he => hi (he ▸ hj)
      rw [hthreads j hne] at hth
      obtain ⟨he, htime⟩ := hall j (List.mem_cons_of_mem i hj) th hth hid
      -- only one thread is registered
      have hother : ∀ th', v.threads[i]? = some th' → th'.downloadId ≠ id := by
        intro th' hth' hid'
        obtain ⟨he', -⟩ := hall i List.mem_cons_self th' hth' hid'
        exact hne (congrArg Prod.snd (Option.some.inj (he.symm.trans he')))
      rcases hsame with rfl | ⟨th', hth', hid'⟩
      · exact ⟨(hmap hother).trans he, htime⟩
      · exact absurd hid' (hother th' hth')
    obtain ⟨t', h', hkept'⟩ := ih hl h₁ hrest
    exact ⟨t', h', hkept.trans hkept'⟩

theorem TimeBase.nodup_registered (h : TimeBase id t ⟨v, p⟩) : v.registered.Nodup := by
  have hfind : ∀ e ∈ v.threadMap.entries, v.threadMap.find? e.1 = some e := fun e he => KeyedList.find?_of_mem he
  refine List.Nodup.map_on (fun e he e' he' hi => ?_) v.threadMap.nodup.of_map
  have hk := h.owner e.1 e (hfind e he)
  have hk' := h.owner e'.1 e' (hfind e' he')
  rw [hi] at hk
  have hkey : e.1 = e'.1 := Option.some.inj (hk.symm.trans hk')
  exact Option.some.inj ((hfind e he).symm.trans (hkey ▸ hfind e' he'))

theorem TimeInv.netChangeToPause (h : TimeInv id total t ⟨v, p⟩) (hsteady : Steady id ⟨v, p⟩ .netChangeToPause) :
    ∃ t', TimeInv id total t' ⟨v.netChangeToPause, p⟩ ∧ t.Kept t' := by
  refine h.pauseThreads h.nodup_registered fun i hi th hth hid => ?_
  obtain ⟨e, he, rfl⟩ := List.mem_map.1 hi
  have hfind := KeyedList.find?_of_mem he
  have hkey : e.1 = id := (h.downloadId_of_registered hfind hth).symm.trans hid
  rw [hkey] at hfind
  refine ⟨eq_of_key hfind rfl, fun hinit => ?_⟩
  obtain ⟨d, hd, -⟩ := h.known e hfind
  have hreg : registered? id ⟨v, p⟩ = some { thread := th, pc := (p e.2).pc, headers := (p e.2).headers } := by
    show (v.threadMap.find? id).bind _ = _
    rw [hfind, Option.bind_some, run?, hth]
    rfl
  rw [← h.record d hd]
  exact hsteady d hd _ hreg hinit

/-! ### Time -/

theorem isTransferring_iff : s.isTransferring id i = true ↔
    ∃ run, s.run? i = some run ∧ run.thread.downloadId = id ∧ run.pc.isTransfer = true := by
  unfold isTransferring
  cases s.run? i with
  | none => simp
  | some run => simp

theorem isTransferring_lt (h : s.isTransferring id i = true) : i < s.service.threads.length := by
  obtain ⟨run, hrun, -⟩ := isTransferring_iff.1 h
  exact (List.getElem?_eq_some_iff.1 (run?_eq_some hrun).1).1

/-- Where only the registered thread transfers, the account is that of this thread. -/
theorem transfers_eq (h : TimeInv id total t s)
    (hall : ∀ i < s.service.threads.length, s.isTransferring id i = true →
    s.service.threadMap.find? id = some (id, i)) :
    s.transfers id = match s.registered? id with
      | none => 0
      | some run => if run.pc.isTransfer then 1 else 0 := by
  have hempty : (∀ i, s.isTransferring id i ≠ true) → s.transfers id = 0 := fun hno =>
    Finset.card_eq_zero.2 (Finset.filter_eq_empty_iff.2 fun i _ => hno i)
  cases he : s.service.threadMap.find? id with
  | none =>
    have hreg : s.registered? id = none := by rw [registered?, he, Option.bind_none]
    rw [hreg]
    refine hempty fun i hi => ?_
    have := hall i (isTransferring_lt hi) hi
    rw [he] at this
    cases this
  | some e =>
    have hreg : s.registered? id = s.run? e.2 := by rw [registered?, he, Option.bind_some]
    have hkey : e.1 = id := KeyedList.key_of_find? he
    have honly : ∀ i, s.isTransferring id i = true → i = e.2 := fun i hi =>
      (congrArg Prod.snd (Option.some.inj (he.symm.trans (hall i (isTransferring_lt hi) hi)))).symm
    obtain ⟨hlt, hid⟩ := List.getElem?_eq_some_iff.1 (h.owner id e he)
    have hlt : e.2 < s.service.threads.length := by simpa using hlt
    rw [hreg, run?, List.getElem?_eq_getElem hlt, Option.map_some]
    dsimp only
    by_cases htransfer : (s.places e.2).pc.isTransfer = true
    · rw [if_pos htransfer]
      refine Finset.card_eq_one.2 ⟨e.2, Finset.ext fun i => ?_⟩
      rw [Finset.mem_filter, Finset.mem_range, Finset.mem_singleton]
      refine ⟨fun hi => honly i hi.2, fun hi => ?_⟩
      subst hi
      have hrun : s.run? e.2 = some
          { thread := s.service.threads[e.2], pc := (s.places e.2).pc, headers := (s.places e.2).headers } := by
        rw [run?, List.getElem?_eq_getElem hlt, Option.map_some]
      exact ⟨hlt, isTransferring_iff.2 ⟨_, hrun, by simpa using hid, htransfer⟩⟩
    · rw [if_neg htransfer]
      refine hempty fun i hi => ?_
      obtain ⟨run, hrun, -, hpc⟩ := isTransferring_iff.1 hi
      rw [(run?_eq_some hrun).2.1, honly i hi] at hpc
      exact htransfer hpc

theorem TimeInv.outside (h : TimeInv id total t ⟨v, p⟩) (fileSize : String → Int) {now : Int} (netType : NetType)
    (hle : v.now ≤ now) (hsteady : Steady id ⟨v, p⟩ (.outside fileSize now netType)) :
    TimeInv id (total + (now - v.now) * transfers id ⟨v, p⟩) t ⟨{ v with fileSize, now, netType }, p⟩ := by
  rcases hsteady with rfl | hall
  · rw [show v.now - v.now = 0 from Int.sub_self _, Int.zero_mul, Int.add_zero]
    exact h.congr rfl rfl rfl rfl rfl rfl
  have hcount := transfers_eq h hall
  refine ⟨h.toTimeBase.congr rfl rfl (fun _ _ hk => hk) rfl rfl, h.nonneg, fun hno => ?_,
    fun e run he hrun => ?_, h.known⟩
  · have hreg : registered? id ⟨v, p⟩ = none := by
      change v.threadMap.find? id = none at hno
      show (v.threadMap.find? id).bind _ = none
      rw [hno, Option.bind_none]
    rw [hreg] at hcount
    rw [hcount]
    have htotal := h.idle hno
    simpa using htotal
  · obtain ⟨hheld, hcancel⟩ := h.held e run he hrun
    have hreg : registered? id ⟨v, p⟩ = some run := by
      show (v.threadMap.find? id).bind _ = some run
      rw [show v.threadMap.find? id = some e from he, Option.bind_some]
      exact hrun
    rw [hreg] at hcount
    refine ⟨?_, hcancel⟩
    have htick := hheld.tick hle
    rw [hcount]
    dsimp only
    split at htick
    · rename_i htransfer
      rw [if_pos htransfer]
      simpa using htick
    · rename_i htransfer
      rw [if_neg htransfer]
      simpa using htick

/-! ### A new process -/

theorem TimeInv.made {downloadInfos : List DownloadInfo} {outside : Outside}
    (hrecords : ∀ d ∈ downloadInfos, d.versionId = id → d.times = t)
    (hrows : ∀ row ∈ outside.table, row.taskId = taskId → row.versionId = id → row.downloadId = id ∧ row.times = t)
    (hnonneg : 0 ≤ t.effectiveTime) (htotal : t.effectiveTime = total) :
    TimeInv id total t (ofInfos taskId downloadInfos outside) := by
  have hmem : ∀ k d, (ofInfos taskId downloadInfos outside).service.infoMap.find? k = some d →
      ∃ d₀ ∈ downloadInfos, d.versionId = k ∧ d₀.versionId = k ∧ d.times = d₀.times := by
    intro k d hd
    have hkey : d.downloadId = k := KeyedList.key_of_find? hd
    obtain ⟨d₀, hd₀, rfl⟩ := List.mem_map.1 (KeyedList.mem_of_mem_ofList (KeyedList.mem_of_find? hd))
    exact ⟨d₀, hd₀, hkey, hkey, rfl⟩
  refine .of_idle ⟨fun k d hd => ?_, fun k e hk => ?_, fun i _ => rfl, fun d hd => ?_, hrows⟩ hnonneg rfl htotal
  · obtain ⟨-, -, hversion, -⟩ := hmem k d hd
    exact hversion
  · cases hk
  · obtain ⟨d₀, hd₀, -, hversion, htimes⟩ := hmem id d hd
    exact htimes.trans (hrecords d₀ hd₀ hversion)

/-- The record is up to date with its thread, so that nothing is lost with the process. -/
theorem TimeInv.effectiveTime_eq (h : TimeInv id total t s)
    (hup : ∀ d, s.service.infoMap.find? id = some d → s.UpToDate id d) : t.effectiveTime = total := by
  cases he : s.service.threadMap.find? id with
  | none => exact h.idle he
  | some e =>
    obtain ⟨d, hd, -⟩ := h.known e he
    have hlt : e.2 < s.service.threads.length := by simpa using (List.getElem?_eq_some_iff.1 (h.owner id e he)).1
    have hrun : s.run? e.2 = some
        { thread := s.service.threads[e.2], pc := (s.places e.2).pc, headers := (s.places e.2).headers } := by
      rw [run?, List.getElem?_eq_getElem hlt, Option.map_some]
    have hspent := hup d hd _ (by rw [registered?, he, Option.bind_some]; exact hrun)
    have hrecord : d.effectiveTime = t.effectiveTime := congrArg DownloadTimes.effectiveTime (h.record d hd)
    rw [← hrecord, hspent]
    exact (h.held e _ he hrun).1.spent

theorem TimeInv.restore (h : TimeInv id total t s) (htotal : t.effectiveTime = total) :
    TimeInv id total t (ofInfos s.service.taskId (storedInfos s.service) s.service.toOutside) := by
  refine .made (fun d hd hversion => ?_) h.rows h.nonneg htotal
  obtain ⟨hd, htask⟩ := List.mem_filter.1 hd
  obtain ⟨row, hrow, rfl⟩ := List.mem_map.1 (DownloadTaskManager.mem_of_mem_filterDuplicates hd)
  exact (h.rows row hrow (of_decide_eq_true htask) hversion).2

/-! ### Steps and runs -/

/-- What one steady step does to the account. -/
theorem TimeInv.step {op : RunningOp} (h : TimeInv id total t s) (hsteady : s.Steady id op)
    (hstep : s.step op = some s') : ∃ t', TimeInv id (spend id total s op s') t' s' ∧ t.Kept t' := by
  cases op with
  | start =>
    obtain rfl := Option.some.inj hstep
    exact ⟨t, h.start {}, .refl t⟩
  | pause =>
    obtain rfl := Option.some.inj hstep
    refine ⟨t, h.pause _ (h.effectiveTime_eq fun d hd => (hsteady d hd).2) fun d hd => ?_, .refl t⟩
    exact (h.record d hd).symm.trans (hsteady d hd).1
  | resume netType =>
    obtain rfl := Option.some.inj hstep
    exact ⟨t, h.resume netType, .refl t⟩
  | netChangeToPause =>
    obtain rfl := Option.some.inj hstep
    exact h.netChangeToPause hsteady
  | netChangeToStart =>
    obtain rfl := Option.some.inj hstep
    exact ⟨t, h.netChangeToStart, .refl t⟩
  | recover =>
    obtain rfl := Option.some.inj hstep
    refine ⟨t, h.recover fun d hd => ?_, .refl t⟩
    rcases hsteady d hd with hcomp | hpaused | ⟨hzero, hup⟩
    · exact .inl hcomp
    · exact .inr (.inl hpaused)
    have htotal : t.effectiveTime = total :=
      h.effectiveTime_eq fun d' hd' => Option.some.inj (hd.symm.trans hd') ▸ hup
    have ht : t = ⟨0, 0⟩ := (h.record d hd).symm.trans hzero
    rw [ht] at htotal
    exact .inr (.inr ⟨ht, htotal.symm⟩)
  | restore =>
    obtain rfl := Option.some.inj hstep
    exact ⟨t, h.restore (h.effectiveTime_eq fun d hd => hsteady d hd), .refl t⟩
  | thread i op =>
    simp only [RunningService.step] at hstep
    split at hstep
    · cases hstep
    rename_i run hrun
    split at hstep
    · rename_i henabled
      obtain ⟨run', hrun', rfl⟩ := Option.map_eq_some_iff.1 hstep
      exact h.moved hrun (h.moves hrun henabled.1 henabled.2 hrun' hsteady)
    · cases hstep
  | outside fileSize now netType =>
    simp only [RunningService.step] at hstep
    split at hstep
    · rename_i hle
      obtain rfl := Option.some.inj hstep
      exact ⟨t, h.outside fileSize netType hle hsteady, .refl t⟩
    · cases hstep

/-- What is to hold of a download that has been transferred for `total`: its next thread goes on from the times in the
record, and a download that is completed has them all. -/
structure Accounted (id : String) (total : Int) (s : RunningService) : Prop where
  carried : ∀ d run, s.service.infoMap.find? id = some d → s.registered? id = some run → run.pc.isEarly = true →
    run.thread.lastEffectiveTime = d.effectiveTime ∧
      (d.startTime ≠ 0 → run.thread.callbackInfo.startTime = d.startTime)
  final : ∀ d, s.service.infoMap.find? id = some d → d.isCompleted = true → d.effectiveTime = total

theorem TimeInv.accounted (h : TimeInv id total t s) : Accounted id total s := by
  refine ⟨fun d run hd hreg hearly => ?_, fun d hd hcomp => ?_⟩
  · obtain ⟨e, he, hrun⟩ := Option.bind_eq_some_iff.1 hreg
    obtain ⟨hheld, -⟩ := h.held e run he hrun
    have ht := h.record d hd
    subst ht
    exact ⟨(hheld.of_isEarly hearly).1, hheld.startTime⟩
  · have hnone : s.service.threadMap.find? id = none := by
      cases he : s.service.threadMap.find? id with
      | none => rfl
      | some e =>
        obtain ⟨d', hd', hnot⟩ := h.known e he
        obtain rfl := Option.some.inj (hd.symm.trans hd')
        rw [hcomp] at hnot
        cases hnot
    have ht := h.record d hd
    subst ht
    exact h.idle hnone

/-- The account over a run of steady steps. -/
theorem TimeInv.along {ops : List RunningOp} {total' : Int}
    (hrun : ((lts.guard (Steady id)).observe (spend id)).Run (s, total) ops (s', total')) (h : TimeInv id total t s) :
    ∃ t', TimeInv id total' t' s' ∧ t.Kept t' := by
  have hrel := hrun.relates (I := fun _ => True)
    (R := fun x y => ∀ t, TimeInv id x.2 t x.1 → ∃ t', TimeInv id y.2 t' y.1 ∧ t.Kept t')
    (fun _ _ _ _ _ => trivial) (fun x t h => ⟨t, h, .refl t⟩) (fun x y z hxy hyz t h => ?_)
    (fun x op y _ hs t h => ?_) trivial
  · exact hrel t h
  · obtain ⟨t₁, h₁, hkept₁⟩ := hxy t h
    obtain ⟨t₂, h₂, hkept₂⟩ := hyz t₁ h₁
    exact ⟨t₂, h₂, hkept₁.trans hkept₂⟩
  · obtain ⟨⟨hsteady, hstep⟩, htotal⟩ := hs
    rw [htotal]
    exact h.step hsteady hstep

/-- In a run of steady steps from a new task, the account of a download is kept: what is recorded is taken over by the
next thread, never goes back, and is all that the transfers have taken when the download is completed. -/
theorem times_accounted {downloadInfos : List DownloadInfo} {outside : Outside} {ops : List RunningOp}
    (hnew : ∀ d ∈ downloadInfos, d.times = ⟨0, 0⟩) (hrows : ∀ row ∈ outside.table, row.taskId ≠ taskId)
    (hrun : ((lts.guard (Steady id)).observe (spend id)).Run (ofInfos taskId downloadInfos outside, 0) ops (s, total)) :
    Accounted id total s ∧ ∀ ops' s' total',
      ((lts.guard (Steady id)).observe (spend id)).Run (s, total) ops' (s', total') →
      ∀ d d', s.service.infoMap.find? id = some d → s'.service.infoMap.find? id = some d' → d.times.Kept d'.times := by
  have h₀ : TimeInv id 0 ⟨0, 0⟩ (ofInfos taskId downloadInfos outside) :=
    .made (fun d hd _ => hnew d hd) (fun row hrow htask => absurd htask (hrows row hrow)) le_rfl rfl
  obtain ⟨t, h, -⟩ := h₀.along hrun
  refine ⟨h.accounted, fun ops' s' total' hrun' d d' hd hd' => ?_⟩
  obtain ⟨t', h', hkept⟩ := h.along hrun'
  rw [h.record d hd, h'.record d' hd']
  exact hkept

def newDownload : RunningService := ofInfos "task" [ServiceState.samplePackage "v1"] { netType := .wifi }

/-- The package of `v1` is transferred from `begin` on, 30 of its bytes by 30 later. -/
def transferPart (i : Nat) (begin : Int) : List RunningOp :=
  [.thread i .begin, .thread i (.checkBeforeStart begin), .thread i (.start begin), .thread i (.initPackageParam none begin),
    .outside (fun _ => 0) (begin + 30) .wifi, .thread i (.progress 100 30 (begin + 30))]

/-- The rest of it arrives 20 later. -/
def transferRest (i : Nat) (begin : Int) : List RunningOp :=
  [.outside (fun _ => 0) (begin + 50) .wifi, .thread i (.progress 100 100 (begin + 50)), .thread i (.response 0 200),
    .thread i .notifyCancel, .thread i (.finish ⟨0, ""⟩ true (begin + 50)), .thread i (.verify 100 (begin + 50)),
    .thread i (.digest {}), .thread i .notifyCancel, .thread i (.reportVerify 100 (begin + 50))]

theorem times_accounted_through : ∃ s d, ((lts.guard (Steady "v1")).observe (spend "v1")).Run (newDownload, 0)
      ([.outside (fun _ => 0) 1 .wifi, .start] ++ transferPart 0 1 ++ transferRest 0 1) (s, 50) ∧
    s.service.infoMap.find? "v1" = some d ∧ d.times = ⟨1, 50⟩ ∧ d.status = .success ∧ Accounted "v1" 50 s := by
  have hrun : ∃ s d, ((lts.guard (Steady "v1")).observe (spend "v1")).Run (newDownload, 0)
      ([.outside (fun _ => 0) 1 .wifi, .start] ++ transferPart 0 1 ++ transferRest 0 1) (s, 50) ∧
      s.service.infoMap.find? "v1" = some d ∧ d.times = ⟨1, 50⟩ ∧ d.status = .success := by
    rw [lts, Lts.guard_ofPartial, Lts.observe_ofPartial]
    exact ⟨_, _, Lts.run_ofPartial_get (by rfl), rfl, rfl, rfl⟩
  obtain ⟨s, d, hrun, hd, htimes, hstatus⟩ := hrun
  have h := times_accounted (by decide) (by decide) hrun
  exact ⟨s, d, hrun, hd, htimes, hstatus, h.1⟩

/-- A pause takes the times out of the record, and the thread of the second session counts from 0. -/
theorem not_times_accounted : ∃ s s' d d', (lts.observe (spend "v1")).Run (newDownload, 0)
      ([.outside (fun _ => 0) 1 .wifi, .start] ++ transferPart 0 1) (s, 30) ∧
    (lts.observe (spend "v1")).Run (s, 30) ([.pause, .thread 0 (.response curleWriteError 200), .thread 0 .notifyCancel,
      .outside (fun _ => 0) 41 .wifi, .resume .wifi] ++ transferPart 1 41 ++ transferRest 1 41) (s', 80) ∧
    s.service.infoMap.find? "v1" = some d ∧ s'.service.infoMap.find? "v1" = some d' ∧ d.times = ⟨1, 30⟩ ∧
    d'.times = ⟨41, 50⟩ ∧ d'.status = .success ∧ ¬ d.times.Kept d'.times ∧ ¬ Accounted "v1" 80 s' := by
  rw [lts, Lts.observe_ofPartial]
  refine ⟨_, _, _, _, Lts.run_ofPartial_get (by rfl), Lts.run_ofPartial_get (by rfl), rfl, rfl, rfl, rfl, rfl, ?_, ?_⟩
  · intro h
    cases h.startTime (by decide)
  · intro h
    cases h.final _ rfl rfl

end RunningService

end UpdateService
