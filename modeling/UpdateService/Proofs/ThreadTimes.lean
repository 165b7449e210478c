import UpdateService.Proofs.ThreadSteps
import UpdateService.RunningService

/-!
# What a thread makes of the times of its download

A report has the start time and the effective time that `callbackInfo_` has by then. The first is taken over from the
record or set once, the second is computed from `downloadStartTime_` and `lastEffectiveTime_` at every new percent and
at the end of the request. `Tells` says so of the functions of the task, `TimeStep` of a step.
-/

namespace UpdateService

structure DownloadTimes where
  startTime : Int
  effectiveTime : Int
deriving DecidableEq, Repr

/-- Once set the start time stays, and the effective time does not go back. -/
structure DownloadTimes.Kept (t t' : DownloadTimes) : Prop where
  startTime : t.startTime ≠ 0 → t'.startTime = t.startTime
  effectiveTime : t.effectiveTime ≤ t'.effectiveTime

theorem DownloadTimes.Kept.refl (t : DownloadTimes) : t.Kept t := ⟨fun _ => rfl, le_rfl⟩

theorem DownloadTimes.Kept.trans {t t' t'' : DownloadTimes} (h : t.Kept t') (h' : t'.Kept t'') : t.Kept t'' := by
  refine ⟨fun hset => ?_, h.effectiveTime.trans h'.effectiveTime⟩
  have hsame := h.startTime hset
  rw [h'.startTime (hsame ▸ hset), hsame]

def DownloadCallbackInfo.times (info : DownloadCallbackInfo) : DownloadTimes := ⟨info.startTime, info.effectiveTime⟩

def DownloadInfo.times (d : DownloadInfo) : DownloadTimes := ⟨d.startTime, d.effectiveTime⟩

namespace DownloadThread
variable {th th' : DownloadThread} {now : Int} {timed : Bool} {K : DownloadStatus → DownloadEndReason → Prop}

/-- What `r` makes of the times of `th`; only where `timed` says so may it compute the effective time. The status and
the reason of its report are as `K` says. -/
structure Tells (now : Int) (timed : Bool) (K : DownloadStatus → DownloadEndReason → Prop) (th : DownloadThread)
    (r : DownloadThread × Option DownloadCallbackInfo) : Prop where
  downloadInfo : r.1.downloadInfo = th.downloadInfo
  lastEffectiveTime : r.1.lastEffectiveTime = th.lastEffectiveTime
  downloadStartTime : r.1.downloadStartTime = th.downloadStartTime
  isNeedCancel : r.1.isNeedCancel = th.isNeedCancel
  status : r.1.status = th.status ∨ r.1.status ≠ .init
  startTime : th.callbackInfo.startTime ≠ 0 → r.1.callbackInfo.startTime = th.callbackInfo.startTime
  effectiveTime : r.1.callbackInfo.effectiveTime = th.callbackInfo.effectiveTime ∨
    timed = true ∧ r.1.callbackInfo.effectiveTime = th.effectiveTime now
  report : ∀ info, r.2 = some info → info.times = r.1.callbackInfo.times ∧ info.downloadId = th.downloadId ∧
    info.status ≠ .cancel ∧ K info.status info.endReason

theorem Tells.quiet (hinfo : th'.downloadInfo = th.downloadInfo) (hlast : th'.lastEffectiveTime = th.lastEffectiveTime)
    (hbegin : th'.downloadStartTime = th.downloadStartTime) (hcancel : th'.isNeedCancel = th.isNeedCancel)
    (hstatus : th'.status = th.status ∨ th'.status ≠ .init)
    (hstart : th'.callbackInfo.startTime = th.callbackInfo.startTime)
    (htime : th'.callbackInfo.effectiveTime = th.callbackInfo.effectiveTime ∨
      timed = true ∧ th'.callbackInfo.effectiveTime = th.effectiveTime now) : Tells now timed K th (th', none) := by
  refine ⟨hinfo, hlast, hbegin, hcancel, hstatus, fun _ => hstart, htime, fun info hreport => ?_⟩
  cases hreport

theorem Tells.refl (th : DownloadThread) : Tells now timed K th (th, none) :=
  .quiet rfl rfl rfl rfl (.inl rfl) rfl (.inl rfl)

/-- After what does not touch the times comes a report. -/
theorem Tells.callbackDownload (h : Tells now timed K th (th', none)) {status : DownloadStatus}
    {endReason : DownloadEndReason} {errorInfo : DownloadErrorInfo} (hK : K status endReason)
    (hc : status ≠ .cancel) : Tells now timed K th ((th'.callbackDownload status endReason errorInfo now).1,
      some (th'.callbackDownload status endReason errorInfo now).2) := by
  have hstart : th'.callbackInfo.startTime ≠ 0 →
      (th'.callbackDownload status endReason errorInfo now).1.callbackInfo.startTime = th'.callbackInfo.startTime :=
    fun hset => if_neg hset
  refine ⟨h.downloadInfo, h.lastEffectiveTime, h.downloadStartTime, h.isNeedCancel, h.status, fun hset => ?_,
    h.effectiveTime, fun info hinfo => ?_⟩
  · have hsame := h.startTime hset
    exact (hstart (hsame ▸ hset)).trans hsame
  · obtain rfl := Option.some.inj hinfo
    exact ⟨rfl, congrArg DownloadInfo.downloadId h.downloadInfo, hc, hK⟩

/-- A report of a failure is one by its kind. -/
theorem Tells.fails {r : DownloadThread × Option DownloadCallbackInfo} {kind : ReportKind} (h : Tells now timed K th r)
    (hr : Reports th kind r) : Tells now timed (fun st er => K st er ∧ (st = .fail → kind.isFail = true)) th r := by
  refine ⟨h.1, h.2, h.3, h.4, h.5, h.6, h.7, fun info hinfo => ?_⟩
  obtain ⟨htimes, hid, hc, hk⟩ := h.report info hinfo
  refine ⟨htimes, hid, hc, hk, fun hfail => ?_⟩
  rcases hr.sized with ⟨hnone, -⟩ | ⟨info', hsome, -, his⟩
  · rw [hnone] at hinfo
    cases hinfo
  · obtain rfl := Option.some.inj (hsome.symm.trans hinfo)
    exact his.fail_iff.1 hfail

theorem tells_callbackProgress (dlNow now : Int) (th : DownloadThread) :
    Tells now true (fun st _ => st = .downloading) th (th.callbackProgress dlNow now) := by
  have hmark : Tells now true (fun st _ => st = .downloading) th
      ({ th.markResetRetryTimes dlNow with downloadedSize := dlNow }, none) := by
    unfold markResetRetryTimes
    split <;> exact .quiet rfl rfl rfl rfl (.inl rfl) rfl (.inl rfl)
  have hstart : (th.markResetRetryTimes dlNow).callbackInfo.startTime = th.callbackInfo.startTime := by
    unfold markResetRetryTimes
    split <;> rfl
  unfold callbackProgress
  dsimp only
  split
  · exact hmark
  split
  · refine (Tells.callbackDownload ?_ rfl nofun : Tells now true (fun st _ => st = .downloading) th _)
    refine .quiet hmark.downloadInfo hmark.lastEffectiveTime hmark.downloadStartTime hmark.isNeedCancel
      (.inr DownloadStatus.noConfusion) hstart (.inr ⟨rfl, ?_⟩)
    show now - _ + _ = now - _ + _
    rw [hmark.lastEffectiveTime, hmark.downloadStartTime]
  split
  · exact hmark
  split
  · exact hmark.callbackDownload rfl nofun
  · exact hmark

/-- A progress call goes on, or it finds the wrong size and has its thread cancel. -/
theorem tells_onProgress (headers : List String) (dlTotal dlNow now : Int) (th : DownloadThread) :
    if th.progressKind headers dlTotal dlNow = .sizeError then
      Tells now true (fun _ _ => True) { th with isNeedCancel := true } (th.onProgress headers dlTotal dlNow now)
    else Tells now true (fun st _ => st = .downloading) th (th.onProgress headers dlTotal dlNow now) := by
  obtain ⟨_, rfl, ⟨hkind, he⟩ | ⟨hkind, he⟩⟩ := onProgress_kind headers dlTotal dlNow now th
  · rw [he, if_pos hkind]
    refine (Tells.callbackDownload ?_ trivial ?_ : Tells now true (fun _ _ => True)
      { th with isNeedCancel := true } _)
    · exact .quiet rfl rfl rfl rfl (.inl rfl) rfl (.inl rfl)
    · intro h
      cases h
  · rw [he, if_neg (by simp [hkind])]
    have h := tells_callbackProgress dlNow now
      { th with isPackageSizeVerified := dlTotal ≠ dlNow || th.isPackageSizeVerified }
    exact ⟨h.1, h.2, h.3, h.4, h.5, h.6, h.7, h.8⟩

/-- A failure of a transfer that the service may retry: all but those of reading and writing the file. -/
theorem tells_handleDownloadFinish (headers : List String) (curlRet responseCode : Int) (errno : Errno)
    (isNetAvailable : Bool) (now : Int) (th : DownloadThread) :
    Tells now true (fun st er => st = .fail → er = .ioException ∨ curlRet ≠ curleWriteError ∧
    curlRet ≠ curleReadError) th
        (th.handleDownloadFinish headers curlRet responseCode errno isNetAvailable now) ∧
      (th.handleDownloadFinish headers curlRet responseCode errno isNetAvailable now).1.callbackInfo.effectiveTime =
        th.effectiveTime now := by
  have htime : ∀ (P : DownloadStatus → DownloadEndReason → Prop) b,
      Tells now true P th ({ th with
        callbackInfo := { th.callbackInfo with effectiveTime := th.effectiveTime now }
        isNeedAutoPause := b }, none) :=
    fun P b => .quiet rfl rfl rfl rfl (.inl rfl) rfl (.inr ⟨rfl, rfl⟩)
  unfold handleDownloadFinish
  dsimp only
  split
  · exact ⟨(htime _ false).callbackDownload (fun hfail => by cases hfail) nofun, rfl⟩
  rename_i hpause
  split
  · rename_i hok
    split
    · rename_i hsize
      have hret : curlRet = 0 := hok.resolve_right hsize
      refine ⟨(htime _ th.isNeedAutoPause).callbackDownload (fun _ => .inr ?_) nofun, rfl⟩
      rw [hret]
      decide
    · exact ⟨htime _ th.isNeedAutoPause, rfl⟩
  unfold handleFail
  split
  · exact ⟨(htime _ th.isNeedAutoPause).callbackDownload (fun _ => .inl rfl) nofun, rfl⟩
  rename_i hio
  have hother : curlRet ≠ curleWriteError ∧ curlRet ≠ curleReadError := not_or.1 hio
  split
  · exact ⟨(htime _ th.isNeedAutoPause).callbackDownload (fun _ => .inr hother) nofun, rfl⟩
  split
  · exact ⟨(htime _ th.isNeedAutoPause).callbackDownload (fun _ => .inr hother) nofun, rfl⟩
  unfold handleNetworkCheck
  dsimp only
  rw [if_neg hpause]
  split
  · exact ⟨(htime _ th.isNeedAutoPause).callbackDownload (fun hfail => by cases hfail) nofun, rfl⟩
  · exact ⟨(htime _ th.isNeedAutoPause).callbackDownload (fun hfail => by cases hfail) nofun, rfl⟩

theorem tells_callbackVerifyProgress (fileSize verifiedSize now : Int) (th : DownloadThread) :
    Tells now false (fun st _ => st = .verifying) th (th.callbackVerifyProgress fileSize verifiedSize now) := by
  unfold callbackVerifyProgress
  split
  · exact .refl th
  split
  · exact .refl th
  split
  · exact .refl th
  dsimp only
  split
  · refine (Tells.callbackDownload ?_ rfl nofun : Tells now false (fun st _ => st = .verifying) th _)
    exact .quiet rfl rfl rfl rfl (.inr DownloadStatus.noConfusion) rfl (.inl rfl)
  · exact .quiet rfl rfl rfl rfl (.inl rfl) rfl (.inl rfl)

theorem tells_reportVerifyResult (headers : List String) (result : Sha256VerifyResult) (fileRealSize fileSize now : Int)
    (th : DownloadThread) :
    Tells now false (fun st er => st = .fail → er = .verifyFail) th
      ((th.reportVerifyResult headers result fileRealSize fileSize now).1,
        some (th.reportVerifyResult headers result fileRealSize fileSize now).2) := by
  unfold reportVerifyResult
  split
  · refine (Tells.callbackDownload ?_ (fun hfail => ?_)
      ?_ : Tells now false (fun st er => st = .fail → er = .verifyFail) th _)
    · exact .quiet rfl rfl rfl rfl (.inl rfl) rfl (.inl rfl)
    · cases hfail
    · nofun
  · exact (Tells.refl th).callbackDownload (fun _ => rfl) nofun

theorem tells_netChangeToPause (now : Int) (th : DownloadThread) :
    Tells now false (fun st er => st = .autoPause ∧ er = .netChange ∧
    th.status = .init) th (th.netChangeToPause now) := by
  unfold netChangeToPause
  split
  · rename_i hinit
    exact (Tells.refl th).callbackDownload ⟨rfl, rfl, hinit⟩ nofun
  split
  · exact .refl th
  · exact .quiet rfl rfl rfl rfl (.inl rfl) rfl (.inl rfl)

end DownloadThread

/-- A transfer session: from `downloadStartTime_` to the end of the request. -/
def TaskPc.isTransfer : TaskPc → Bool
  | .requesting _ | .requested _ _ | .finishing _ _ => true
  | _ => false

/-- From where on the status of the thread is `DOWNLOADING` while it transfers. -/
def TaskPc.isBegun (pc : TaskPc) : Bool := pc = .initPackage || pc.isTransfer

theorem TaskPc.isBegun_of_isTransfer {pc : TaskPc} (h : pc.isTransfer = true) : pc.isBegun = true := by
  rw [isBegun, h, Bool.or_true]

theorem TaskPc.not_isTransfer_of_isEarly {pc : TaskPc} (h : pc.isEarly = true) : pc.isTransfer = false := by
  cases pc <;> first | rfl | cases h

namespace ThreadRun
variable {s s' : ThreadRun} {op : ThreadOp} {now : Int}

/-- The effective time of the download as its thread knows it. -/
def spent (now : Int) (s : ThreadRun) : Int :=
  if s.pc.isTransfer then s.thread.effectiveTime now
  else if s.thread.callbackInfo.effectiveTime = 0 then s.thread.lastEffectiveTime
  else s.thread.callbackInfo.effectiveTime

/-- A request fails at its end, and not for the file. -/
def restarts (s : ThreadRun) : ThreadOp → Bool
  | .finish _ _ _ =>
    match s.pc with
    | .finishing curlRet responseCode =>
      (s.thread.finishKind curlRet responseCode).isFail && curlRet ≠ curleWriteError && curlRet ≠ curleReadError
    | _ => false
  | _ => false

/-- What a step of the task makes of the times. -/
structure TimeStep (now : Int) (s : ThreadRun) (op : ThreadOp) (s' : ThreadRun) : Prop where
  lastEffectiveTime : s'.thread.lastEffectiveTime = s.thread.lastEffectiveTime
  startTime : s.thread.callbackInfo.startTime ≠ 0 →
    s'.thread.callbackInfo.startTime = s.thread.callbackInfo.startTime
  effectiveTime : s'.thread.callbackInfo.effectiveTime = s.thread.callbackInfo.effectiveTime ∨
    s.pc.isTransfer = true ∧ s'.thread.callbackInfo.effectiveTime = s.thread.effectiveTime now
  isNeedCancel : s.kind op = .sizeError ∨ s'.thread.isNeedCancel = s.thread.isNeedCancel
  status : (s.pc.isBegun = true → s.thread.status ≠ .init) → s'.pc.isBegun = true → s'.thread.status ≠ .init
  transfer : s.pc.isTransfer = true → s'.pc.isTransfer = true ∧ s'.thread.downloadStartTime = s.thread.downloadStartTime ∨
    s'.pc.isTransfer = false ∧
      (s.thread.isNeedCancel = true ∨ s'.thread.callbackInfo.effectiveTime = s.thread.effectiveTime now)
  begins : s.pc.isTransfer = false → s'.pc.isTransfer = true → s.pc.isEarly = true ∧ s'.thread.downloadStartTime = now
  report : s'.reports = s.reports ∨ ∃ info, s'.reports = s.reports ++ [info] ∧
    info.times = s'.thread.callbackInfo.times ∧ info.downloadId = s.thread.downloadId ∧ info.status ≠ .cancel ∧
    (info.status.isOngoing = false → s'.pc.isTransfer = false ∨ s.kind op = .sizeError) ∧
    (info.status = .fail → info.endReason ≠ .ioException → info.endReason ≠ .verifyFail →
      s.kind op = .sizeError ∨ s.restarts op = true ∨ s.pc.isEarly = true)

namespace TimeStep

/-- The parts of a report that the service looks at before it takes over its times. -/
def Answers (s : ThreadRun) (op : ThreadOp) (pc : TaskPc) (status : DownloadStatus)
    (endReason : DownloadEndReason) : Prop :=
  (status.isOngoing = false → pc.isTransfer = false ∨ s.kind op = .sizeError) ∧
    (status = .fail → endReason ≠ .ioException → endReason ≠ .verifyFail →
      s.kind op = .sizeError ∨ s.restarts op = true ∨ s.pc.isEarly = true)

theorem of_tells {K : DownloadStatus → DownloadEndReason → Prop} {timed : Bool} {pc : TaskPc}
    {r : DownloadThread × Option DownloadCallbackInfo} {b : Bool}
    (hr : DownloadThread.Tells now timed K { s.thread with isNeedCancel := b } r)
    (hb : s.kind op = .sizeError ∨ b = s.thread.isNeedCancel) (htimed : timed = true → s.pc.isTransfer = true)
    (hpc : pc.isTransfer = s.pc.isTransfer ∨ s.pc.isTransfer = true ∧ pc.isTransfer = false ∧
      r.1.callbackInfo.effectiveTime = s.thread.effectiveTime now)
    (hbegun : pc.isBegun = true → s.pc.isBegun = true ∨ r.1.status ≠ .init)
    (hK : ∀ st er, K st er → Answers s op pc st er) : TimeStep now s op (s.mayReport r pc) := by
  refine ⟨hr.lastEffectiveTime, hr.startTime, hr.effectiveTime.imp_right (And.imp_left htimed),
    hb.imp_right hr.isNeedCancel.trans,
    fun hstatus hpc' => ?_, fun htransfer => ?_, fun hnot htransfer => ?_, ?_⟩
  · rcases hbegun hpc' with hs | hne
    · rcases hr.status with hsame | hne
      · exact hsame ▸ hstatus hs
      · exact hne
    · exact hne
  · rcases hpc with hsame | ⟨-, hend, htime⟩
    · exact .inl ⟨hsame.trans htransfer, hr.downloadStartTime⟩
    · exact .inr ⟨hend, .inr htime⟩
  · rcases hpc with hsame | ⟨hs, -, -⟩
    · exact absurd (hsame.symm.trans htransfer) (by simp [hnot])
    · exact absurd hs (by simp [hnot])
  · cases hinfo : r.2 with
    | none => exact .inl (by rw [mayReport, hinfo, Option.toList_none, List.append_nil])
    | some info =>
      obtain ⟨htimes, hid, hc, hk⟩ := hr.report info hinfo
      obtain ⟨hlast, hfail⟩ := hK _ _ hk
      exact .inr ⟨info, by rw [mayReport, hinfo, Option.toList_some], htimes, hid, hc, hlast, hfail⟩

theorem of_untimed {K : DownloadStatus → DownloadEndReason → Prop} {pc : TaskPc}
    {r : DownloadThread × Option DownloadCallbackInfo} {b : Bool}
    (hr : DownloadThread.Tells now false K { s.thread with isNeedCancel := b } r)
    (hb : s.kind op = .sizeError ∨ b = s.thread.isNeedCancel) (hpc : pc.isTransfer = s.pc.isTransfer)
    (hbegun : pc.isBegun = true → s.pc.isBegun = true ∨ r.1.status ≠ .init)
    (hK : ∀ st er, K st er → Answers s op pc st er) : TimeStep now s op (s.mayReport r pc) :=
  .of_tells hr hb nofun (.inl hpc) hbegun hK

theorem Answers.ongoing {pc : TaskPc} {status : DownloadStatus} {endReason : DownloadEndReason}
    (h : status.isOngoing = true) : Answers s op pc status endReason := by
  refine ⟨fun hlast => ?_, fun hfail => ?_⟩
  · rw [h] at hlast
    cases hlast
  · rw [hfail] at h
    cases h

theorem of_pc {pc : TaskPc} (hpc : pc.isTransfer = s.pc.isTransfer) (hbegun : pc.isBegun = true → s.pc.isBegun = true) :
    TimeStep now s op { s with pc } := by
  have h : TimeStep now s op (s.mayReport (s.thread, none) pc) :=
    .of_untimed (K := fun _ _ => False) (.refl s.thread) (.inr rfl) hpc (fun h => .inl (hbegun h)) nofun
  simpa [mayReport] using h

theorem aside (headers : List String) (b : Bool) : TimeStep now s op
    { s with
      thread := { s.thread with isDisableCallbackFlag := b }
      headers } := by
  refine ⟨rfl, fun _ => rfl, .inl rfl, .inr rfl, fun hstatus => hstatus, fun htransfer => .inl ⟨htransfer, rfl⟩,
    fun hnot htransfer => ?_, .inl rfl⟩
  rw [hnot] at htransfer
  cases htransfer

end TimeStep

theorem isTransfer_requesting {off : Int} (hpc : s.pc = .requesting off) : s.pc.isTransfer = true := by rw [hpc]; rfl

theorem timeStep_progress {off dlTotal dlNow : Int} (hpc : s.pc = .requesting off) :
    TimeStep now s (.progress dlTotal dlNow now) (s.progress off dlTotal dlNow now) := by
  have htransfer := isTransfer_requesting hpc
  rw [progress]
  cases hcall : ({ downloadedSize := off, isNeedStop := s.thread.isRequestStopped } : DownloadRequest).callbackProgress
    dlTotal dlNow with
  | none => exact .of_pc rfl fun hbegun => hbegun
  | some total =>
    have hkind : s.kind (.progress dlTotal dlNow now) = s.thread.progressKind s.headers total.1 total.2 := by
      simp only [kind, call, hpc, hcall, Option.map_some]
    have htells := DownloadThread.tells_onProgress s.headers total.1 total.2 now s.thread
    split at htells
    · rename_i hsize
      have hsizeError := hkind.trans hsize
      exact .of_tells htells (.inl hsizeError) (fun _ => htransfer) (.inl rfl) .inl
        fun _ _ _ => ⟨fun _ => .inr hsizeError, fun _ _ _ => .inl hsizeError⟩
    · refine .of_tells htells (.inr rfl) (fun _ => htransfer) (.inl rfl) .inl fun st _ hst => ⟨?_, ?_⟩
      · rw [hst]
        intro hlast
        cases hlast
      · rw [hst]
        intro hfail
        cases hfail

theorem timeStep_finish {errno : Errno} {isNetAvailable : Bool} {curlRet responseCode : Int}
    {r : DownloadThread × Option DownloadCallbackInfo} (hpc : s.pc = .finishing curlRet responseCode)
    (hr : s.thread.handleDownloadFinish s.headers curlRet responseCode errno isNetAvailable now = r) :
    TimeStep now s (.finish errno isNetAvailable now)
      (s.mayReport r (if r.2.isSome then .finished else .verifyStart)) := by
  have htransfer : s.pc.isTransfer = true := by rw [hpc]; rfl
  obtain ⟨htells, htime⟩ := DownloadThread.tells_handleDownloadFinish s.headers curlRet responseCode errno isNetAvailable
    now s.thread
  have hfinish := htells.fails (DownloadThread.reports_handleDownloadFinish s.headers curlRet responseCode errno
    isNetAvailable now s.thread)
  rw [hr] at htime hfinish
  have hend : (if r.2.isSome then TaskPc.finished else TaskPc.verifyStart).isTransfer = false := by split <;> rfl
  have hnot : (if r.2.isSome then TaskPc.finished else TaskPc.verifyStart).isBegun = false := by split <;> rfl
  refine .of_tells hfinish (.inr rfl) (fun _ => htransfer) (.inr ⟨htransfer, hend, htime⟩) (fun hbegun => ?_)
    fun st er ⟨hreason, hkind⟩ => ⟨fun _ => .inl hend, fun hfail hio _ => .inr (.inl ?_)⟩
  · rw [hnot] at hbegun
    cases hbegun
  · obtain ⟨hwrite, hread⟩ := (hreason hfail).resolve_left hio
    simp [restarts, hpc, hkind hfail, hwrite, hread]

/-- A report of a task that has not made its request. -/
theorem timeStep_early {status : DownloadStatus} {endReason : DownloadEndReason} {errorInfo : DownloadErrorInfo}
    (hearly : s.pc.isEarly = true) (hc : status ≠ .cancel) :
    TimeStep now s op (s.report (s.thread.callbackDownload status endReason errorInfo now) .finished) := by
  refine TimeStep.of_untimed (K := fun _ _ => True) ((DownloadThread.Tells.refl s.thread).callbackDownload trivial hc)
    (.inr rfl) (TaskPc.not_isTransfer_of_isEarly hearly).symm (by intro hbegun; cases hbegun) fun _ _ _ => ?_
  exact ⟨fun _ => .inl rfl, fun _ _ _ => .inr (.inr hearly)⟩

theorem timeStep (h : s.step op = some s') (htask : op.isTask = true) (hnow : ∀ t ∈ op.now?, t = now) :
    TimeStep now s op s' := by
  cases step_cases h with
  | pauseIdle | pauseLater | callbackPause _ | stop => cases htask
  | begin hpc => exact .of_pc (by rw [hpc]; rfl) (by intro hbegun; cases hbegun)
  | completed t hpc hcomp =>
    obtain rfl := hnow t rfl
    refine timeStep_early (by rw [hpc]; rfl) ?_
    rcases isCompleted_cases.1 hcomp with h | h <;> rw [h] <;> decide
  | needVerify t hpc _ => exact .of_pc (by rw [hpc]; rfl) (by intro hbegun; cases hbegun)
  | needDownload t hpc _ => exact .of_pc (by rw [hpc]; rfl) (by intro hbegun; cases hbegun)
  | start t hpc =>
    obtain rfl := hnow t rfl
    refine .of_untimed (K := fun st _ => st = .downloading)
      (DownloadThread.Tells.callbackDownload ?_ rfl nofun) (.inr rfl)
      (by rw [hpc]; rfl) (fun _ => .inr DownloadStatus.noConfusion) fun st _ hst => ?_
    · exact .quiet rfl rfl rfl rfl (.inr DownloadStatus.noConfusion) rfl (.inl rfl)
    · exact .ongoing (by rw [hst]; rfl)
  | initFail errorMsg t hpc =>
    obtain rfl := hnow t rfl
    exact timeStep_early (by rw [hpc]; rfl) nofun
  | request t hpc =>
    obtain rfl := hnow t rfl
    have hearly : s.pc.isEarly = true := by rw [hpc]; rfl
    refine ⟨rfl, fun _ => rfl, .inl rfl, .inr rfl, fun hstatus _ => hstatus (by rw [hpc]; rfl), fun htransfer => ?_,
      fun _ _ => ⟨hearly, rfl⟩, .inl rfl⟩
    rw [TaskPc.not_isTransfer_of_isEarly hearly] at htransfer
    cases htransfer
  | header contents hpc => exact .aside _ s.thread.isDisableCallbackFlag
  | progress dlTotal dlNow t hpc =>
    obtain rfl := hnow t rfl
    exact timeStep_progress hpc
  | response curlRet responseCode hpc => exact .of_pc (by rw [hpc]; rfl) fun _ => by rw [hpc]; rfl
  | cancelled hpc hcancel =>
    -- a request that is cancelled takes no time
    have hs : s.pc.isTransfer = true := by rw [hpc]; rfl
    refine ⟨rfl, fun _ => rfl, .inl rfl, .inr rfl, (fun _ hbegun => by cases hbegun),
      fun _ => .inr ⟨rfl, .inl hcancel⟩, fun hnot _ => ?_, .inl rfl⟩
    rw [hs] at hnot
    cases hnot
  | goOn hpc _ => exact .of_pc (by rw [hpc]; rfl) fun _ => by rw [hpc]; rfl
  | verifyCancelled hpc => exact .of_pc (by rw [hpc]; rfl) (by intro hbegun; cases hbegun)
  | verified hpc => exact .of_pc (by rw [hpc]; rfl) (by intro hbegun; cases hbegun)
  | finish errno isNetAvailable t hpc hr =>
    obtain rfl := hnow t rfl
    exact timeStep_finish hpc hr
  | verify fileRealSize t hpc =>
    obtain rfl := hnow t rfl
    refine .of_untimed (K := fun st _ => st = .verifying)
      (DownloadThread.Tells.callbackDownload ?_ rfl nofun) (.inr rfl)
      (by rw [hpc]; rfl) (by intro hbegun; cases hbegun) fun st _ hst => ?_
    · exact .quiet rfl rfl rfl rfl (.inr DownloadStatus.noConfusion) rfl (.inl rfl)
    · exact .ongoing (by rw [hst]; rfl)
  | verifyProgress verifiedSize t hpc =>
    obtain rfl := hnow t rfl
    exact .of_tells (DownloadThread.tells_callbackVerifyProgress _ _ _ _) (.inr rfl) nofun (.inl rfl) .inl
      fun st _ hst => .ongoing (by rw [hst]; rfl)
  | digest result hpc => exact .of_pc (by rw [hpc]; rfl) (by intro hbegun; cases hbegun)
  | reportVerify fileSize t hpc =>
    obtain rfl := hnow t rfl
    refine .of_tells (DownloadThread.tells_reportVerifyResult _ _ _ _ _ _) (.inr rfl) nofun (.inl (by rw [hpc]; rfl))
      (by intro hbegun; cases hbegun) fun st er hfail => ⟨fun _ => .inl rfl, fun hst _ hverify => ?_⟩
    exact absurd (hfail hst) hverify
  | setDisableCallbackFlag flag => exact .aside s.headers flag

/-! ### The account of a thread -/

/-- How a thread stands to the times `t` in the record of its download, which has been transferred for `total` so far.
What it has not recorded yet is the difference to `spent`. -/
structure Held (total now : Int) (t : DownloadTimes) (s : ThreadRun) : Prop where
  startTime : t.startTime ≠ 0 → s.thread.callbackInfo.startTime = t.startTime
  nonneg : 0 ≤ s.thread.lastEffectiveTime
  last : s.thread.lastEffectiveTime ≤ t.effectiveTime
  recorded : t.effectiveTime ≤ total
  shown : s.thread.callbackInfo.effectiveTime ≤ total
  computed : s.thread.callbackInfo.effectiveTime ≠ 0 → t.effectiveTime ≤ s.thread.callbackInfo.effectiveTime
  spent : s.spent now = total
  early : s.pc.isEarly = true → s.thread.callbackInfo.effectiveTime = 0
  begun : s.pc.isBegun = true → s.thread.status ≠ .init

/-- The thread has an effective time of its own, or there is none yet. -/
def HasTime (t : DownloadTimes) (s : ThreadRun) : Prop :=
  t.effectiveTime ≠ 0 → s.thread.callbackInfo.effectiveTime ≠ 0

instance (t : DownloadTimes) (s : ThreadRun) : Decidable (HasTime t s) := inferInstanceAs (Decidable (_ → _))

theorem spent_of_isTransfer (h : s.pc.isTransfer = true) : s.spent now = s.thread.effectiveTime now := if_pos h

theorem spent_of_not_isTransfer (h : s.pc.isTransfer = false) :
    s.spent now = if s.thread.callbackInfo.effectiveTime = 0 then s.thread.lastEffectiveTime
      else s.thread.callbackInfo.effectiveTime := if_neg (by simp [h])

namespace Held
variable {total : Int} {t : DownloadTimes}

theorem ofInfo {d : DownloadInfo} {size time : Int} (h₀ : 0 ≤ d.effectiveTime) (htotal : d.effectiveTime = total) :
    Held total now d.times (ThreadRun.ofInfo d size time) := by
  refine ⟨fun _ => rfl, h₀, le_rfl, htotal.le, htotal ▸ h₀, fun hne => absurd rfl hne, htotal,
    fun _ => rfl, fun h => ?_⟩
  cases h

theorem congr (h : Held total now t s) (hthread : s'.thread = s.thread) (hpc : s'.pc = s.pc) : Held total now t s' := by
  obtain ⟨h₁, h₂, h₃, h₄, h₅, h₆, hspent, h₈, h₉⟩ := h
  unfold ThreadRun.spent at hspent
  rw [← hthread] at *
  rw [← hpc] at *
  exact ⟨h₁, h₂, h₃, h₄, h₅, h₆, hspent, h₈, h₉⟩

/-- A thread that has not begun its transfer goes on from what is recorded. -/
theorem of_isEarly (h : Held total now t s) (hearly : s.pc.isEarly = true) :
    s.thread.lastEffectiveTime = t.effectiveTime ∧ t.effectiveTime = total := by
  have hspent := h.spent
  rw [spent_of_not_isTransfer (TaskPc.not_isTransfer_of_isEarly hearly), if_pos (h.early hearly)] at hspent
  have hlast := h.last
  have hrecorded := h.recorded
  omega

theorem step (h : Held total now t s) (hs : TimeStep now s op s') (hearly : s'.pc.isEarly = true → s.pc.isEarly = true)
    (hcancel : s.thread.isNeedCancel = false) : Held total now t s' := by
  have hlast := hs.lastEffectiveTime
  have hspent := h.spent
  have hnonneg := h.nonneg
  have hle := h.last
  have hrecorded := h.recorded
  have htime : s'.thread.callbackInfo.effectiveTime = s.thread.callbackInfo.effectiveTime ∨
      s'.thread.callbackInfo.effectiveTime = total := by
    rcases hs.effectiveTime with hsame | ⟨htransfer, htime⟩
    · exact .inl hsame
    · exact .inr (htime.trans ((spent_of_isTransfer htransfer).symm.trans hspent))
  refine ⟨fun hset => ?_, hlast ▸ hnonneg, hlast ▸ hle, hrecorded, ?_, fun hne => ?_, ?_, fun hpc => ?_,
    hs.status h.begun⟩
  · have hstart := h.startTime hset
    rw [← hstart] at hset
    rw [hs.startTime hset, hstart]
  · rcases htime with hsame | htotal
    · exact hsame.trans_le h.shown
    · exact htotal.le
  · rcases htime with hsame | htotal
    · rw [hsame] at hne ⊢
      exact h.computed hne
    · exact htotal ▸ hrecorded
  · cases htransfer : s.pc.isTransfer with
    | true =>
      rw [spent_of_isTransfer htransfer] at hspent
      rcases hs.transfer htransfer with ⟨htransfer', hbegin⟩ | ⟨hend, hcancelled | htime⟩
      · rw [spent_of_isTransfer htransfer', DownloadThread.effectiveTime, hbegin, hlast]
        exact hspent
      · rw [hcancel] at hcancelled
        cases hcancelled
      · rw [spent_of_not_isTransfer hend, htime, hspent, hlast]
        split <;> omega
    | false =>
      cases htransfer' : s'.pc.isTransfer with
      | true =>
        obtain ⟨hpc, hbegin⟩ := hs.begins htransfer htransfer'
        obtain ⟨hsame, htotal⟩ := h.of_isEarly hpc
        rw [spent_of_isTransfer htransfer', DownloadThread.effectiveTime, hbegin, hlast]
        omega
      | false =>
        have hsame : s'.thread.callbackInfo.effectiveTime = s.thread.callbackInfo.effectiveTime := by
          rcases hs.effectiveTime with hsame | ⟨hs, -⟩
          · exact hsame
          · rw [htransfer] at hs
            cases hs
        rw [spent_of_not_isTransfer htransfer] at hspent
        rw [spent_of_not_isTransfer htransfer', hsame, hlast]
        exact hspent
  · have hpc := hearly hpc
    rcases hs.effectiveTime with hsame | ⟨htransfer, -⟩
    · exact hsame.trans (h.early hpc)
    · rw [TaskPc.not_isTransfer_of_isEarly hpc] at htransfer
      cases htransfer

theorem hasTime_step (h : Held total now t s) (hs : TimeStep now s op s') (htime : HasTime t s) : HasTime t s' := by
  intro hne
  rcases hs.effectiveTime with hsame | ⟨htransfer, htotal⟩
  · exact hsame ▸ htime hne
  · have hspent := h.spent
    rw [spent_of_isTransfer htransfer] at hspent
    have hnonneg := h.nonneg
    have hlast := h.last
    have hrecorded := h.recorded
    omega

theorem le_shown (h : Held total now t s) (htime : HasTime t s) :
    t.effectiveTime ≤ s.thread.callbackInfo.effectiveTime := by
  by_cases hne : s.thread.callbackInfo.effectiveTime = 0
  · have hzero : t.effectiveTime = 0 := by
      by_contra hset
      exact htime hset hne
    omega
  · exact h.computed hne

/-- The times of a report are taken over. -/
theorem kept (h : Held total now t s) (htime : HasTime t s) : t.Kept s.thread.callbackInfo.times :=
  ⟨h.startTime, h.le_shown htime⟩

theorem recorded_report (h : Held total now t s) (htime : HasTime t s) :
    Held total now s.thread.callbackInfo.times s :=
  ⟨fun _ => rfl, h.nonneg, h.last.trans (h.le_shown htime), h.shown, h.shown, fun _ => le_rfl, h.spent, h.early, h.begun⟩

/-- A last report has all the time that has been spent. -/
theorem shown_eq (h : Held total now t s) (htime : HasTime t s)
    (hlast : s.pc.isTransfer = false ∨ t.effectiveTime = total) : s.thread.callbackInfo.effectiveTime = total := by
  have hle := h.le_shown htime
  have hshown := h.shown
  rcases hlast with hnot | htotal
  · have hspent := h.spent
    rw [spent_of_not_isTransfer hnot] at hspent
    split at hspent
    · have hnonneg := h.nonneg
      have hlast := h.last
      omega
    · exact hspent
  · omega

/-- Time passes. -/
theorem tick {now' : Int} (h : Held total now t s) (hle : now ≤ now') :
    Held (total + if s.pc.isTransfer then now' - now else 0) now' t s := by
  have hspent := h.spent
  have hrecorded := h.recorded
  have hshown := h.shown
  cases htransfer : s.pc.isTransfer with
  | true =>
    rw [spent_of_isTransfer htransfer, DownloadThread.effectiveTime] at hspent
    refine ⟨h.startTime, h.nonneg, h.last, ?_, ?_, h.computed, ?_, h.early, h.begun⟩
    · rw [if_pos rfl]
      omega
    · rw [if_pos rfl]
      omega
    · rw [spent_of_isTransfer htransfer, DownloadThread.effectiveTime, if_pos rfl]
      omega
  | false =>
    rw [spent_of_not_isTransfer htransfer] at hspent
    refine ⟨h.startTime, h.nonneg, h.last, ?_, ?_, h.computed, ?_, h.early, h.begun⟩
    · simpa using hrecorded
    · simpa using hshown
    · rw [spent_of_not_isTransfer htransfer, hspent]
      simp

end Held

end ThreadRun

end UpdateService
