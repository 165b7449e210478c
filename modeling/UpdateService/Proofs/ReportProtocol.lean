import UpdateService.ThreadRun
import Mathlib.Computability.RegularExpressions

/-!
# What a thread reports

The statuses that one `DownloadThread` reports are a word of `reportProtocol` as long as
`NetChangeToPause` does not report for a task that runs or will run (`PausesIdleTask`): it takes the
status `INIT` for a task that has not begun and calls back `AUTO_PAUSE`, but nothing then keeps the
task from beginning.
-/

namespace UpdateService

/-- `(DOWNLOADING | VERIFYING)*`, then at most one of `SUCCESS`, `FAIL`, `AUTO_PAUSE`. -/
def reportProtocol : RegularExpression DownloadStatus :=
  (.star (.char .downloading + .char .verifying)) * (1 + .char .success + .char .fail + .char .autoPause)

namespace DownloadStatus

/-- The statuses that end a thread. -/
def isFinal : DownloadStatus → Bool
  | success | fail | autoPause => true
  | _ => false

theorem isOngoing_iff {st : DownloadStatus} : st.isOngoing = true ↔ st = .downloading ∨ st = .verifying := by
  cases st <;> simp [isOngoing]

theorem isFinal_iff {st : DownloadStatus} : st.isFinal = true ↔ st = .success ∨ st = .fail ∨ st = .autoPause := by
  cases st <;> simp [isFinal]

end DownloadStatus

theorem mem_reportProtocol_append {word last : List DownloadStatus} (h : ∀ st ∈ word, st.isOngoing = true)
    (hlast : last = [] ∨ ∃ st, last = [st] ∧ st.isFinal = true) : word ++ last ∈ reportProtocol.matches' := by
  have hword : word ∈ (RegularExpression.star (.char .downloading + .char .verifying)).matches' := by
    rw [RegularExpression.matches'_star]
    refine Language.mem_kstar.2 ⟨word.map fun st => [st],
      by rw [← List.flatMap_def, List.flatMap_singleton'], fun w hw => ?_⟩
    obtain ⟨st, hst, rfl⟩ := List.mem_map.1 hw
    rcases DownloadStatus.isOngoing_iff.1 (h st hst) with rfl | rfl
    · exact .inl rfl
    · exact .inr rfl
  refine Language.append_mem_mul hword ?_
  rcases hlast with rfl | ⟨st, rfl, hst⟩
  · exact .inl (.inl (.inl rfl))
  rcases DownloadStatus.isFinal_iff.1 hst with rfl | rfl | rfl
  · exact .inl (.inl (.inr rfl))
  · exact .inl (.inr rfl)
  · exact .inr rfl

theorem DownloadInfo.isFinal_of_isCompleted {d : DownloadInfo} (h : d.isCompleted = true) :
    d.status.isFinal = true := by
  unfold DownloadInfo.isCompleted at h
  cases hs : d.status <;> simp_all [DownloadStatus.isFinal]

namespace DownloadThread
variable {th : DownloadThread} {headers : List String} {dlTotal dlNow now : Int} {info : DownloadCallbackInfo}

/-! ### What each function of the task reports -/

theorem callbackProgress_status (h : (th.callbackProgress dlNow now).2 = some info) : info.status = .downloading := by
  unfold callbackProgress at h
  dsimp only at h
  split at h
  · cases h
  split at h
  · obtain rfl := Option.some.inj h
    rfl
  split at h
  · cases h
  split at h
  · obtain rfl := Option.some.inj h
    rfl
  · cases h

/-- A progress call goes on downloading, or it finds the wrong size, fails and stops the request. -/
theorem onProgress_cases (headers : List String) (dlTotal dlNow now : Int) (th : DownloadThread) :
    (∀ info, (th.onProgress headers dlTotal dlNow now).2 = some info → info.status = .downloading) ∨
    ∃ info, (th.onProgress headers dlTotal dlNow now).2 = some info ∧ info.status = .fail ∧
      (th.onProgress headers dlTotal dlNow now).1.isNeedCancel = true ∧
      (th.onProgress headers dlTotal dlNow now).1.isRequestStopped = true := by
  unfold onProgress
  split
  · exact .inr ⟨_, rfl, rfl, rfl, rfl⟩
  · exact .inl fun info h => callbackProgress_status h

theorem handleFail_status {curlRet responseCode : Int} {errno : Errno} {isNetAvailable : Bool} :
    (th.handleFail headers curlRet responseCode errno isNetAvailable now).2.status.isFinal = true := by
  unfold handleFail handleNetworkCheck
  split
  · rfl
  split
  · rfl
  split
  · rfl
  split
  · rfl
  split <;> rfl

theorem handleDownloadFinish_status {curlRet responseCode : Int} {errno : Errno} {isNetAvailable : Bool}
    (h : (th.handleDownloadFinish headers curlRet responseCode errno isNetAvailable now).2 = some info) :
    info.status.isFinal = true := by
  unfold handleDownloadFinish at h
  dsimp only at h
  split at h
  · obtain rfl := Option.some.inj h
    rfl
  split at h
  · split at h
    · obtain rfl := Option.some.inj h
      rfl
    · cases h
  · obtain rfl := Option.some.inj h
    exact handleFail_status

theorem callbackVerifyProgress_status {fileSize verifiedSize : Int}
    (h : (th.callbackVerifyProgress fileSize verifiedSize now).2 = some info) : info.status = .verifying := by
  unfold callbackVerifyProgress at h
  split at h
  · cases h
  split at h
  · cases h
  split at h
  · cases h
  dsimp only at h
  split at h
  · obtain rfl := Option.some.inj h
    rfl
  · cases h

theorem reportVerifyResult_status {result : Sha256VerifyResult} {fileRealSize fileSize : Int} :
    (th.reportVerifyResult headers result fileRealSize fileSize now).2.status.isFinal = true := by
  unfold reportVerifyResult
  split <;> rfl

end DownloadThread

namespace ThreadRun
variable {s s' : ThreadRun}

/-! ### The invariant -/

def statuses (s : ThreadRun) : List DownloadStatus := s.reports.map DownloadCallbackInfo.status

/-- Nothing final has been reported. -/
def Open (s : ThreadRun) : Prop := ∀ st ∈ s.statuses, st.isOngoing = true

/-- A final status has been reported last. -/
def Closed (s : ThreadRun) : Prop :=
  ∃ word st, s.statuses = word ++ [st] ∧ (∀ st ∈ word, st.isOngoing = true) ∧ st.isFinal = true

/-- `NetChangeToPause` finds the status `INIT` once at most and before the task has begun, and the task
does not begin after it. -/
def PausesIdleTask (s : ThreadRun) : ThreadOp → Prop
  | .begin => s.hasPaused = false
  | .netChangeToPause => s.thread.status = .init → s.pc = .submitted ∧ s.hasPaused = false
  | _ => True

/-- What has been reported, by the place where the task is. -/
def ReportedAt (s : ThreadRun) : TaskPc → Prop
  | .submitted => if s.hasPaused = true ∧ s.isPausing = false then s.Closed else s.reports = []
  | .requesting _ | .requested _ _ =>
    s.Open ∨ s.Closed ∧ s.thread.isNeedCancel = true ∧ s.thread.isRequestStopped = true
  | .finished => s.Open ∨ s.Closed
  | _ => s.Open

structure Inv (s : ThreadRun) : Prop where
  submitted : s.hasPaused = true → s.pc = .submitted
  hasPaused : s.isPausing = true → s.hasPaused = true
  reported : s.ReportedAt s.pc

theorem mem_reportProtocol_of_inv (h : s.Inv) : s.statuses ∈ reportProtocol.matches' := by
  have hopen : s.Open → s.statuses ∈ reportProtocol.matches' := fun h => by
    have := mem_reportProtocol_append h (.inl rfl)
    rwa [List.append_nil] at this
  have hclosed : s.Closed → s.statuses ∈ reportProtocol.matches' := fun ⟨word, st, he, hw, hst⟩ =>
    he ▸ mem_reportProtocol_append hw (.inr ⟨st, rfl, hst⟩)
  have hnil : s.reports = [] → s.Open := fun h st hst => by simp [statuses, h] at hst
  have hr := h.reported
  unfold ReportedAt at hr
  split at hr
  · split at hr
    · exact hclosed hr
    · exact hopen (hnil hr)
  · exact hr.elim hopen fun h => hclosed h.1
  · exact hr.elim hopen fun h => hclosed h.1
  · exact hr.elim hopen hclosed
  · exact hopen hr

/-! ### Steps -/

theorem open_append {st : DownloadStatus} (h : s.Open) (hst : st.isOngoing = true)
    (he : s'.statuses = s.statuses ++ [st]) : s'.Open := by
  intro st' hst'
  rw [he, List.mem_append, List.mem_singleton] at hst'
  rcases hst' with hst' | rfl
  · exact h st' hst'
  · exact hst

theorem Open.closed {st : DownloadStatus} (h : s.Open) (hst : st.isFinal = true)
    (he : s'.statuses = s.statuses ++ [st]) : s'.Closed := ⟨s.statuses, st, he, h, hst⟩

theorem statuses_report {r : DownloadThread × DownloadCallbackInfo} {pc : TaskPc} :
    (s.report r pc).statuses = s.statuses ++ [r.2.status] := by
  simp [statuses, report]

theorem statuses_mayReport {r : DownloadThread × Option DownloadCallbackInfo} {pc : TaskPc} :
    (s.mayReport r pc).statuses = s.statuses ++ (r.2.map DownloadCallbackInfo.status).toList := by
  cases h : r.2 <;> simp [statuses, mayReport, h]

theorem Open.mayReport {r : DownloadThread × Option DownloadCallbackInfo} {pc : TaskPc} (h : s.Open)
    (hr : ∀ info, r.2 = some info → info.status.isOngoing = true) : (s.mayReport r pc).Open := by
  cases hi : r.2 with
  | none =>
    intro st hst
    rw [statuses_mayReport, hi] at hst
    exact h st (by simpa using hst)
  | some info => exact open_append h (hr info hi) (by rw [statuses_mayReport, hi]; rfl)

theorem progress_frame {downloadedSize dlTotal dlNow now : Int} :
    (s.progress downloadedSize dlTotal dlNow now).pc = s.pc ∧
      (s.progress downloadedSize dlTotal dlNow now).hasPaused = s.hasPaused ∧
      (s.progress downloadedSize dlTotal dlNow now).isPausing = s.isPausing := by
  unfold progress
  dsimp only
  split <;> exact ⟨rfl, rfl, rfl⟩

theorem reportedAt_progress {downloadedSize dlTotal dlNow now : Int}
    (h : s.Open ∨ s.Closed ∧ s.thread.isNeedCancel = true ∧ s.thread.isRequestStopped = true) :
    (s.progress downloadedSize dlTotal dlNow now).Open ∨
      (s.progress downloadedSize dlTotal dlNow now).Closed ∧
      (s.progress downloadedSize dlTotal dlNow now).thread.isNeedCancel = true ∧
      (s.progress downloadedSize dlTotal dlNow now).thread.isRequestStopped = true := by
  unfold progress DownloadRequest.callbackProgress
  dsimp only
  by_cases hzero : dlTotal = 0 ∧ dlNow = 0
  · rw [if_pos hzero]; exact h
  rw [if_neg hzero]
  rcases h with h | ⟨h, hc, hs⟩
  · cases hstop : s.thread.isRequestStopped with
    | true => exact .inl h
    | false =>
      simp only [Bool.false_eq_true, if_false]
      obtain hon | ⟨info, hinfo, hfail, hc, hs⟩ :=
        DownloadThread.onProgress_cases s.headers (dlTotal + downloadedSize) (dlNow + downloadedSize) now s.thread
      · exact .inl (h.mayReport fun info hinfo => by rw [hon info hinfo]; rfl)
      · refine .inr ⟨h.closed (show DownloadStatus.fail.isFinal = true from rfl) ?_, hc, hs⟩
        rw [statuses_mayReport, hinfo, Option.map_some, hfail]
        rfl
  · rw [if_pos hs]
    exact .inr ⟨h, hc, hs⟩

namespace Inv

theorem reportedAt (h : s.Inv) {pc : TaskPc} (hpc : s.pc = pc) : s.ReportedAt pc := hpc ▸ h.reported

theorem task (h : s.Inv) {pc : TaskPc} (hpc : s.pc = pc) (hne : pc ≠ .submitted) (hp : s'.hasPaused = s.hasPaused)
    (hi : s'.isPausing = s.isPausing) (hr : s'.ReportedAt s'.pc) : s'.Inv := by
  have hnot : ¬ s.hasPaused = true := fun hp => hne (hpc.symm.trans (h.submitted hp))
  exact ⟨fun h => absurd (hp ▸ h) hnot, fun h' => hp ▸ h.hasPaused (hi ▸ h'), hr⟩

theorem setThread (h : s.Inv) (th : DownloadThread) (hc : s.thread.isNeedCancel = true → th.isNeedCancel = true)
    (hs : s.thread.isRequestStopped = true → th.isRequestStopped = true) :
    ({ s with thread := th } : ThreadRun).Inv := by
  refine ⟨h.submitted, h.hasPaused, ?_⟩
  have hr := h.reported
  unfold ReportedAt at hr ⊢
  cases hpc : s.pc <;> rw [hpc] at hr
  case requesting | requested => exact hr.imp_right fun ⟨hcl, h₁, h₂⟩ => ⟨hcl, hc h₁, hs h₂⟩
  all_goals exact hr

theorem pauseIdle (h : s.Inv) (hg : s.PausesIdleTask .netChangeToPause) (hinit : s.thread.status = .init) :
    ({ s with isPausing := true, hasPaused := true } : ThreadRun).Inv := by
  obtain ⟨hpc, hp⟩ := hg hinit
  refine ⟨fun _ => hpc, fun _ => rfl, ?_⟩
  have hr := h.reported
  rw [hpc] at hr
  change ReportedAt _ s.pc
  rw [hpc]
  exact (if_neg (by simp [hp])).mp hr

theorem pauseLater (h : s.Inv) (hinit : s.thread.status ≠ .init) :
    ({ s with thread := (s.thread.netChangeToPause 0).1 } : ThreadRun).Inv := by
  refine h.setThread _ (fun hc => ?_) fun hs => ?_
  · unfold DownloadThread.netChangeToPause
    rw [if_neg hinit]
    split <;> exact hc
  · unfold DownloadThread.netChangeToPause
    rw [if_neg hinit]
    split
    · exact hs
    · rfl

theorem callbackPause (h : s.Inv) (now : Int) (hpausing : s.isPausing = true) :
    ({ s with
      thread := (s.thread.callbackDownload .autoPause .netChange DownloadThread.noError now).1
      isPausing := false
      reports := s.reports ++ [(s.thread.callbackDownload .autoPause .netChange DownloadThread.noError now).2] } :
      ThreadRun).Inv := by
  have hp := h.hasPaused hpausing
  have hpc := h.submitted hp
  have hr := h.reported
  rw [hpc] at hr
  have hnil : s.reports = [] := (if_neg (by simp [hpausing])).mp hr
  refine ⟨fun _ => hpc, fun _ => hp, ?_⟩
  change ReportedAt _ s.pc
  rw [hpc]
  refine (if_pos ⟨hp, rfl⟩).mpr ⟨[], .autoPause, ?_, by simp, rfl⟩
  simp [statuses, hnil, DownloadThread.callbackDownload]

theorem finish (h : s.Inv) {errno : Errno} {isNetAvailable : Bool} {now curlRet responseCode : Int}
    {r : DownloadThread × Option DownloadCallbackInfo} (hpc : s.pc = .finishing curlRet responseCode)
    (hr : s.thread.handleDownloadFinish s.headers curlRet responseCode errno isNetAvailable now = r) :
    (s.mayReport r (if r.2.isSome then .finished else .verifyStart)).Inv := by
  refine h.task hpc (by simp) rfl rfl ?_
  have hopen : s.Open := h.reportedAt hpc
  cases hinfo : r.2 with
  | none =>
    refine hopen.mayReport fun info h => ?_
    rw [hinfo] at h
    cases h
  | some info =>
    subst hr
    refine .inr (hopen.closed (DownloadThread.handleDownloadFinish_status hinfo) ?_)
    rw [statuses_mayReport, hinfo]
    rfl

theorem step (h : s.Inv) {op : ThreadOp} (hg : s.PausesIdleTask op) (hs : s.step op = some s') : s'.Inv := by
  cases step_cases hs with
  | begin hpc =>
    have hp : s.hasPaused = false := hg
    have hnil : s.reports = [] := (if_neg (by simp [hp])).mp (h.reportedAt hpc)
    refine ⟨fun h => by simp [hp] at h, h.hasPaused, fun st hst => ?_⟩
    simp [statuses, hnil] at hst
  | completed now hpc hcomp =>
    have hr : s.Open := h.reportedAt hpc
    exact h.task hpc (by simp) rfl rfl (.inr (hr.closed (DownloadInfo.isFinal_of_isCompleted hcomp) statuses_report))
  | needVerify now hpc _ => exact h.task hpc (by simp) rfl rfl (h.reportedAt hpc : s.Open)
  | needDownload now hpc _ => exact h.task hpc (by simp) rfl rfl (h.reportedAt hpc : s.Open)
  | start now hpc =>
    have hr : s.Open := h.reportedAt hpc
    exact h.task hpc (by simp) rfl rfl (open_append hr rfl statuses_report)
  | initFail errorMsg now hpc =>
    have hr : s.Open := h.reportedAt hpc
    exact h.task hpc (by simp) rfl rfl (.inr (hr.closed rfl statuses_report))
  | request now hpc => exact h.task hpc (by simp) rfl rfl (.inl (h.reportedAt hpc))
  | header contents hpc => exact h.task hpc (by simp) rfl rfl h.reported
  | progress dlTotal dlNow now hpc =>
    obtain ⟨hpc', hp, hi⟩ := progress_frame (s := s)
    refine h.task hpc (by simp) hp hi ?_
    rw [hpc', hpc]
    exact reportedAt_progress (h.reportedAt hpc)
  | response curlRet responseCode hpc => exact h.task hpc (by simp) rfl rfl (h.reportedAt hpc)
  | cancelled hpc _ =>
    have hr := h.reportedAt hpc
    exact h.task hpc (by simp) rfl rfl (hr.imp_right And.left)
  | goOn hpc hcancel =>
    have hr := h.reportedAt hpc
    refine h.task hpc (by simp) rfl rfl (hr.resolve_right fun ⟨_, hcancel', _⟩ => ?_)
    rw [hcancel] at hcancel'
    cases hcancel'
  | verifyCancelled hpc => exact h.task hpc (by simp) rfl rfl (.inl (h.reportedAt hpc))
  | verified hpc => exact h.task hpc (by simp) rfl rfl (h.reportedAt hpc : s.Open)
  | finish errno isNetAvailable now hpc hr => exact h.finish hpc hr
  | verify fileRealSize now hpc =>
    have hr : s.Open := h.reportedAt hpc
    exact h.task hpc (by simp) rfl rfl (open_append hr rfl statuses_report)
  | verifyProgress verifiedSize now hpc =>
    have hr : s.Open := h.reportedAt hpc
    refine h.task hpc (by simp) rfl rfl ?_
    change ReportedAt _ s.pc
    rw [hpc]
    refine hr.mayReport fun info hinfo => ?_
    rw [DownloadThread.callbackVerifyProgress_status hinfo]
    rfl
  | digest result hpc => exact h.task hpc (by simp) rfl rfl (h.reportedAt hpc)
  | reportVerify fileSize now hpc =>
    have hr : s.Open := h.reportedAt hpc
    exact h.task hpc (by simp) rfl rfl (.inr (hr.closed DownloadThread.reportVerifyResult_status statuses_report))
  | pauseIdle _ hinit => exact h.pauseIdle hg hinit
  | pauseLater _ hinit => exact h.pauseLater hinit
  | callbackPause now hpausing => exact h.callbackPause now hpausing
  | setDisableCallbackFlag flag => exact h.setThread _ id id
  | stop => exact h.setThread _ (fun _ => rfl) fun _ => rfl

end Inv

/-! ### Runs -/

theorem inv_ofInfo (d : DownloadInfo) (fileRealSize now : Int) : (ofInfo d fileRealSize now).Inv :=
  ⟨fun _ => rfl, fun h => Bool.noConfusion h, rfl⟩

/-- Along every run of a thread in which `NetChangeToPause` calls back for no task that runs or will
run, the reported statuses follow the protocol. -/
theorem run_reportProtocol (d : DownloadInfo) (fileRealSize now : Int) {ops : List ThreadOp}
    (h : (lts.guard PausesIdleTask).Run (ofInfo d fileRealSize now) ops s) : s.statuses ∈ reportProtocol.matches' := by
  have hinv : (lts.guard PausesIdleTask).Preserved Inv := fun _ _ _ hs h => h.step hs.1 hs.2
  exact mem_reportProtocol_of_inv (h.invariant hinv (inv_ofInfo d fileRealSize now))

/-! ### A network change before the task begins -/

def samplePackage : DownloadInfo := { downloadId := "v1", url := "https://update/v1", path := "/data/update/v1", packageSize := 100 }

/-- The thread of a new download is queued, the network changes, and then its task begins. -/
def pausedThenBegun : List ThreadOp := [.netChangeToPause, .callbackPause 1, .begin, .checkBeforeStart 2, .start 2]

/-- `AUTO_PAUSE` is followed by `DOWNLOADING`. -/
theorem downloading_after_pause :
    ∃ s, lts.Run (ofInfo samplePackage 0 0) pausedThenBegun s ∧ s.statuses ∉ reportProtocol.matches' := by
  have hrun : lts.Run (ofInfo samplePackage 0 0) pausedThenBegun _ := Lts.run_ofPartial_get rfl
  refine ⟨_, hrun, fun h => ?_⟩
  rw [← RegularExpression.rmatch_iff_matches'] at h
  exact absurd h (by decide)

/-- The last report of a download that goes through is the only final one. -/
theorem run_reportProtocol_success :
    [.downloading, .downloading, .verifying, .success] ∈ reportProtocol.matches' :=
  have hrun : (lts.guard PausesIdleTask).Run (ofInfo samplePackage 0 0)
      [.begin, .checkBeforeStart 0, .start 0, .initPackageParam none 0, .progress 100 100 1, .response 0 200,
        .notifyCancel, .finish ⟨0, ""⟩ true 2, .verify 100 2, .digest {}, .notifyCancel, .reportVerify 100 3] _ :=
    .cons ⟨rfl, rfl⟩ <| .cons ⟨trivial, rfl⟩ <| .cons ⟨trivial, rfl⟩ <| .cons ⟨trivial, rfl⟩ <| .cons ⟨trivial, rfl⟩ <|
    .cons ⟨trivial, rfl⟩ <| .cons ⟨trivial, rfl⟩ <| .cons ⟨trivial, rfl⟩ <| .cons ⟨trivial, rfl⟩ <|
    .cons ⟨trivial, rfl⟩ <| .cons ⟨trivial, rfl⟩ <| .single ⟨trivial, rfl⟩
  run_reportProtocol samplePackage 0 0 hrun

end ThreadRun
end UpdateService
