import UpdateService.Proofs.ReportProtocol

/-!
# What one step of a thread can do

`ThreadRun.Spec` says of a step where the task goes, which sizes change and what is reported. Every report is made by
`callbackDownload`, so its sizes are those of `Sized`; and `kind` says, from the state before the step, whether it is
one of a failure or of a success.
-/

namespace UpdateService

/-- What a report says of its thread: it is going on or pausing, or it ends in one of three ways. -/
inductive ReportKind
  | goesOn | failed | sizeError | succeeded
deriving DecidableEq

def ReportKind.isFail : ReportKind → Bool
  | failed | sizeError => true
  | goesOn | succeeded => false

def DownloadCallbackInfo.Is (info : DownloadCallbackInfo) : ReportKind → Prop
  | .goesOn => info.status ≠ .fail ∧ info.status ≠ .success ∧ info.endReason ≠ .sizeError
  | .failed => info.status = .fail ∧ info.endReason ≠ .sizeError
  | .sizeError => info.status = .fail ∧ info.endReason = .sizeError
  | .succeeded => info.status = .success ∧ info.endReason ≠ .sizeError

namespace DownloadCallbackInfo.Is
variable {info : DownloadCallbackInfo} {kind : ReportKind}

theorem fail_iff (h : info.Is kind) : info.status = .fail ↔ kind.isFail = true := by
  cases kind <;> simp_all [Is, ReportKind.isFail]

theorem sizeError_iff (h : info.Is kind) : info.endReason = .sizeError ↔ kind = .sizeError := by
  cases kind <;> simp_all [Is]

theorem succeeded (h : info.Is kind) (hsuccess : info.status = .success) : kind = .succeeded := by
  cases kind <;> simp_all [Is]

end DownloadCallbackInfo.Is

namespace DownloadThread
variable {th th' : DownloadThread} {headers : List String} {now : Int} {kind : ReportKind}

/-- The sizes in a report of `th`. -/
structure Sized (th : DownloadThread) (info : DownloadCallbackInfo) : Prop where
  fail : info.status = .fail → info.verifiedSize = th.totalSize ∧
    info.downloadedSize = if th.downloadedSize < th.fileInitSize then th.fileInitSize else th.totalSize
  other : info.status ≠ .fail → info.downloadedSize = max th.downloadedSize th.fileInitSize

/-- What a thread does not change when it reports. -/
structure Same (th th' : DownloadThread) : Prop where
  downloadInfo : th'.downloadInfo = th.downloadInfo
  fileInitSize : th'.fileInitSize = th.fileInitSize
  totalSize : th'.totalSize = th.totalSize
  downloadedSize : th'.downloadedSize = th.downloadedSize
  isPackageSizeVerified : th'.isPackageSizeVerified = th.isPackageSizeVerified

theorem Same.refl (th : DownloadThread) : Same th th := ⟨rfl, rfl, rfl, rfl, rfl⟩

theorem Same.trans {th'' : DownloadThread} (h : Same th th') (h' : Same th' th'') : Same th th'' :=
  ⟨h'.1.trans h.1, h'.2.trans h.2, h'.3.trans h.3, h'.4.trans h.4, h'.5.trans h.5⟩

/-- `th` reports at most once, and what it does report is of this kind. -/
structure Reports (th : DownloadThread) (kind : ReportKind) (r : DownloadThread × Option DownloadCallbackInfo) : Prop where
  same : Same th r.1
  sized : (r.2 = none ∧ kind = .goesOn) ∨ ∃ info, r.2 = some info ∧ Sized r.1 info ∧ info.Is kind

/-! ### What each function of the task reports -/

theorem callbackDownload_sized (status : DownloadStatus) (endReason : DownloadEndReason) (errorInfo : DownloadErrorInfo)
    (now : Int) (th : DownloadThread) :
    Sized (th.callbackDownload status endReason errorInfo now).1 (th.callbackDownload status endReason errorInfo now).2 := by
  constructor
  · intro hfail
    have hstatus : status = .fail := hfail
    refine ⟨if_pos hstatus, ?_⟩
    show (if th.downloadedSize < th.fileInitSize then th.fileInitSize else if status = .fail then _ else _) = _
    rw [if_pos hstatus]
    rfl
  · intro hother
    have hstatus : status ≠ .fail := hother
    show (if th.downloadedSize < th.fileInitSize then th.fileInitSize else if status = .fail then _ else _) =
      max th.downloadedSize th.fileInitSize
    rw [if_neg hstatus]
    split <;> omega

theorem reports_callbackDownload {status : DownloadStatus} {endReason : DownloadEndReason}
    {errorInfo : DownloadErrorInfo}
    (hsame : Same th th') (his : (th'.callbackDownload status endReason errorInfo now).2.Is kind) :
    Reports th kind ((th'.callbackDownload status endReason errorInfo now).1,
      some (th'.callbackDownload status endReason errorInfo now).2) :=
  ⟨hsame.trans ⟨rfl, rfl, rfl, rfl, rfl⟩, .inr ⟨_, rfl, callbackDownload_sized status endReason errorInfo now th', his⟩⟩

theorem reports_none (hsame : Same th th') : Reports th .goesOn (th', none) := ⟨hsame, .inl ⟨rfl, rfl⟩⟩

theorem reports_callbackProgress {dlNow : Int} (hsame : Same th { th' with downloadedSize := dlNow }) :
    Reports th .goesOn (th'.callbackProgress dlNow now) := by
  have hmark : Same th { th'.markResetRetryTimes dlNow with downloadedSize := dlNow } := by
    unfold markResetRetryTimes
    split <;> exact hsame.trans ⟨rfl, rfl, rfl, rfl, rfl⟩
  unfold callbackProgress
  dsimp only
  split
  · exact reports_none hmark
  split
  · exact reports_callbackDownload (hmark.trans ⟨rfl, rfl, rfl, rfl, rfl⟩) ⟨nofun, nofun, nofun⟩
  split
  · exact reports_none hmark
  split
  · exact reports_callbackDownload hmark ⟨nofun, nofun, nofun⟩
  · exact reports_none hmark

theorem isPackageSizeAbnormal_fst (headers : List String) (dlTotal dlNow : Int) (th : DownloadThread) :
    (th.isPackageSizeAbnormal headers dlTotal dlNow).1 =
      { th with isPackageSizeVerified := dlTotal ≠ dlNow || th.isPackageSizeVerified } := by
  unfold isPackageSizeAbnormal
  dsimp only
  split
  · rename_i h
    rcases h with h | rfl
    · rw [h, Bool.or_true, ← h]
    · simp
  rename_i h
  obtain ⟨-, hne⟩ := not_or.1 h
  rw [decide_eq_true hne, Bool.true_or]
  split
  · rfl
  split
  · rfl
  split <;> rfl

/-- Whether a progress call finds the wrong size. -/
def progressKind (headers : List String) (dlTotal dlNow : Int) (th : DownloadThread) : ReportKind :=
  if (th.isPackageSizeAbnormal headers dlTotal dlNow).2 then .goesOn else .sizeError

/-- What a progress call does to the thread it leaves after the check of the size. -/
theorem onProgress_kind (headers : List String) (dlTotal dlNow now : Int) (th : DownloadThread) : ∃ th',
    th' = { th with isPackageSizeVerified := dlTotal ≠ dlNow || th.isPackageSizeVerified } ∧
      (th.progressKind headers dlTotal dlNow = .sizeError ∧ th.onProgress headers dlTotal dlNow now =
          (({ th' with isNeedCancel := true, isRequestStopped := true }.handleSizeError headers dlTotal .sizeError now).1,
            some ({ th' with isNeedCancel := true, isRequestStopped := true }.handleSizeError headers dlTotal
              .sizeError now).2) ∨
        th.progressKind headers dlTotal dlNow = .goesOn ∧
          th.onProgress headers dlTotal dlNow now = th'.callbackProgress dlNow now) := by
  have hfst := isPackageSizeAbnormal_fst headers dlTotal dlNow th
  refine ⟨(th.isPackageSizeAbnormal headers dlTotal dlNow).1, hfst, ?_⟩
  rw [onProgress, progressKind]
  cases th.isPackageSizeAbnormal headers dlTotal dlNow with
  | mk th' isOk =>
    cases isOk with
    | false => exact .inl ⟨rfl, rfl⟩
    | true => exact .inr ⟨rfl, rfl⟩

/-- A progress call sets the downloaded size, unless it fails. -/
theorem reports_onProgress (headers : List String) (dlTotal dlNow now : Int) (th : DownloadThread) :
    Reports { th with
      downloadedSize := if th.progressKind headers dlTotal dlNow = .goesOn then dlNow else th.downloadedSize
      isPackageSizeVerified := dlTotal ≠ dlNow || th.isPackageSizeVerified }
      (th.progressKind headers dlTotal dlNow) (th.onProgress headers dlTotal dlNow now) := by
  obtain ⟨_, rfl, ⟨hkind, he⟩ | ⟨hkind, he⟩⟩ := onProgress_kind headers dlTotal dlNow now th
  · rw [he, hkind]
    exact reports_callbackDownload ⟨rfl, rfl, rfl, rfl, rfl⟩ ⟨rfl, rfl⟩
  · rw [he, hkind]
    exact reports_callbackProgress ⟨rfl, rfl, rfl, rfl, rfl⟩

/-- Which ends of a request `handleFail` takes for failures. -/
def failKind (curlRet responseCode : Int) : ReportKind :=
  if curlRet ∈ [curleWriteError, curleReadError] ∨ responseCode ∈ [503, 504, 301, 302, 303, 307] then .failed else .goesOn

def finishKind (curlRet responseCode : Int) (th : DownloadThread) : ReportKind :=
  if th.isNeedAutoPause ∨ th.downloadedSize = th.downloadInfo.packageSize then .goesOn
  else if curlRet = curleOk then .failed
  else failKind curlRet responseCode

theorem reports_handleFail {curlRet responseCode : Int} {errno : Errno} {isNetAvailable : Bool} (hsame : Same th th') :
    Reports th (failKind curlRet responseCode) ((th'.handleFail headers curlRet responseCode errno isNetAvailable now).1,
      some (th'.handleFail headers curlRet responseCode errno isNetAvailable now).2) := by
  unfold handleFail
  split
  · rename_i hio
    rw [failKind, if_pos (by simp [hio])]
    exact reports_callbackDownload hsame ⟨rfl, nofun⟩
  rename_i hio
  split
  · rename_i hserver
    rw [failKind, if_pos (by rcases hserver with rfl | rfl <;> simp)]
    exact reports_callbackDownload hsame ⟨rfl, nofun⟩
  rename_i hserver
  split
  · rename_i hredirect
    rw [failKind, if_pos (by rcases hredirect with rfl | rfl | rfl | rfl <;> simp)]
    exact reports_callbackDownload hsame ⟨rfl, nofun⟩
  rename_i hredirect
  simp only [not_or] at hio hserver hredirect
  rw [failKind, if_neg (by simp [hio, hserver, hredirect])]
  unfold handleNetworkCheck
  dsimp only
  split
  · exact reports_callbackDownload hsame ⟨nofun, nofun, nofun⟩
  split
  · exact reports_callbackDownload (hsame.trans ⟨rfl, rfl, rfl, rfl, rfl⟩) ⟨nofun, nofun, nofun⟩
  · exact reports_callbackDownload hsame ⟨nofun, nofun, nofun⟩

theorem reports_handleDownloadFinish (headers : List String) (curlRet responseCode : Int) (errno : Errno)
    (isNetAvailable : Bool) (now : Int) (th : DownloadThread) :
    Reports th (th.finishKind curlRet responseCode)
      (th.handleDownloadFinish headers curlRet responseCode errno isNetAvailable now) := by
  unfold handleDownloadFinish
  dsimp only
  split
  · rename_i hpause
    rw [finishKind, if_pos (.inl hpause)]
    exact reports_callbackDownload ⟨rfl, rfl, rfl, rfl, rfl⟩ ⟨nofun, nofun, nofun⟩
  rename_i hpause
  split
  · rename_i hok
    split
    · rename_i hsize
      rw [finishKind, if_neg (not_or.2 ⟨hpause, hsize⟩), if_pos (hok.resolve_right hsize)]
      exact reports_callbackDownload ⟨rfl, rfl, rfl, rfl, rfl⟩ ⟨rfl, nofun⟩
    · rename_i hsize
      rw [finishKind, if_pos (.inr (not_not.1 hsize))]
      exact reports_none ⟨rfl, rfl, rfl, rfl, rfl⟩
  · rename_i hok
    obtain ⟨hret, hsize⟩ := not_or.1 hok
    rw [finishKind, if_neg (not_or.2 ⟨hpause, hsize⟩), if_neg hret]
    exact reports_handleFail ⟨rfl, rfl, rfl, rfl, rfl⟩

/-- Nothing is reported at the end of the request only if all bytes are there. -/
theorem handleDownloadFinish_complete {curlRet responseCode : Int} {errno : Errno} {isNetAvailable : Bool}
    (h : ¬ (th.handleDownloadFinish headers curlRet responseCode errno isNetAvailable now).2.isSome = true) :
    th.downloadedSize = th.downloadInfo.packageSize := by
  unfold handleDownloadFinish at h
  dsimp only at h
  split at h
  · exact absurd rfl h
  split at h
  · split at h
    · exact absurd rfl h
    · rename_i hsize
      exact not_not.1 hsize
  · exact absurd rfl h

theorem reports_callbackVerifyProgress (fileSize verifiedSize now : Int) (th : DownloadThread) :
    Reports th .goesOn (th.callbackVerifyProgress fileSize verifiedSize now) := by
  unfold callbackVerifyProgress
  split
  · exact reports_none (.refl th)
  split
  · exact reports_none (.refl th)
  split
  · exact reports_none (.refl th)
  dsimp only
  split
  · exact reports_callbackDownload ⟨rfl, rfl, rfl, rfl, rfl⟩ ⟨nofun, nofun, nofun⟩
  · exact reports_none ⟨rfl, rfl, rfl, rfl, rfl⟩

def verifyKind (result : Sha256VerifyResult) : ReportKind :=
  if result.sha256ErrCode = .success then .succeeded else .failed

theorem reports_reportVerifyResult (headers : List String) (result : Sha256VerifyResult)
    (fileRealSize fileSize now : Int)
    (th : DownloadThread) :
    Reports th (verifyKind result) ((th.reportVerifyResult headers result fileRealSize fileSize now).1,
      some (th.reportVerifyResult headers result fileRealSize fileSize now).2) := by
  unfold reportVerifyResult
  split
  · rename_i hsuccess
    rw [verifyKind, if_pos hsuccess]
    exact reports_callbackDownload ⟨rfl, rfl, rfl, rfl, rfl⟩ ⟨rfl, nofun⟩
  · rename_i hsuccess
    rw [verifyKind, if_neg hsuccess]
    exact reports_callbackDownload (.refl th) ⟨rfl, nofun⟩

/-- A thread that is told to pause later reports nothing now. -/
theorem netChangeToPause_same (h : th.status ≠ .init) (now : Int) : Same th (th.netChangeToPause now).1 := by
  unfold netChangeToPause
  rw [if_neg h]
  split <;> exact ⟨rfl, rfl, rfl, rfl, rfl⟩

end DownloadThread

/-- Where the request has not been made. -/
def TaskPc.isEarly : TaskPc → Bool
  | .submitted | .checking | .starting | .initPackage => true
  | _ => false

/-- The labels that do not move the task. -/
def ThreadOp.isAside : ThreadOp → Bool
  | .header _ | .progress _ _ _ | .verifyProgress _ _ | .netChangeToPause | .callbackPause _ | .setDisableCallbackFlag _
  | .stop => true
  | _ => false

/-- A progress call that reaches the thread, with the headers that have come before it. -/
structure ProgressCall where
  headers : List String
  dlTotal : Int
  dlNow : Int
deriving DecidableEq

namespace ThreadRun
variable {s s' : ThreadRun} {op : ThreadOp}

/-! ### Steps -/

def call (s : ThreadRun) : ThreadOp → Option ProgressCall
  | .progress dlTotal dlNow _ =>
    match s.pc with
    | .requesting downloadedSize =>
      let request : DownloadRequest := { downloadedSize, isNeedStop := s.thread.isRequestStopped }
      (request.callbackProgress dlTotal dlNow).map fun total => ⟨s.headers, total.1, total.2⟩
    | _ => none
  | _ => none

/-- What an enabled step reports, if it does report. -/
def kind (s : ThreadRun) : ThreadOp → ReportKind
  | .checkBeforeStart _ =>
    match s.thread.downloadInfo.status with
    | .fail => .failed
    | .success => .succeeded
    | _ => .goesOn
  | .initPackageParam (some _) _ => .failed
  | .progress dlTotal dlNow now =>
    match s.call (.progress dlTotal dlNow now) with
    | some c => s.thread.progressKind c.headers c.dlTotal c.dlNow
    | none => .goesOn
  | .finish _ _ _ =>
    match s.pc with
    | .finishing curlRet responseCode => s.thread.finishKind curlRet responseCode
    | _ => .goesOn
  | .reportVerify _ _ =>
    match s.pc with
    | .verifyEnd _ result => DownloadThread.verifyKind result
    | _ => .goesOn
  | _ => .goesOn

/-- The thread after a step, as far as `Same` goes. -/
def after (s : ThreadRun) (op : ThreadOp) : DownloadThread :=
  match s.call op with
  | some c =>
    { s.thread with
      downloadedSize := if s.kind op = .goesOn then c.dlNow else s.thread.downloadedSize
      isPackageSizeVerified := c.dlTotal ≠ c.dlNow || s.thread.isPackageSizeVerified }
  | none => s.thread

/-- Where the task can go. -/
inductive Next (s : ThreadRun) : ThreadOp → TaskPc → Prop
  | aside {op : ThreadOp} : op.isAside = true → Next s op s.pc
  | begin : s.pc = .submitted → Next s .begin .checking
  | completed {now : Int} : s.pc = .checking → Next s (.checkBeforeStart now) .finished
  | needVerify {now : Int} :
      s.pc = .checking → s.thread.downloadInfo.isCompleted = false → Next s (.checkBeforeStart now) .verifyStart
  | needDownload {now : Int} :
      s.pc = .checking → s.thread.downloadInfo.isCompleted = false → Next s (.checkBeforeStart now) .starting
  | start {now : Int} : s.pc = .starting → Next s (.start now) .initPackage
  | initFail {errorMsg : String} {now : Int} : s.pc = .initPackage → Next s (.initPackageParam (some errorMsg) now) .finished
  | request {now : Int} : s.pc = .initPackage → Next s (.initPackageParam none now) (.requesting s.thread.downloadedSize)
  | response {off curlRet responseCode : Int} :
      s.pc = .requesting off → Next s (.response curlRet responseCode) (.requested curlRet responseCode)
  | cancelled {curlRet responseCode : Int} : s.pc = .requested curlRet responseCode → Next s .notifyCancel .finished
  | goOn {curlRet responseCode : Int} :
      s.pc = .requested curlRet responseCode → Next s .notifyCancel (.finishing curlRet responseCode)
  | finish {errno : Errno} {isNetAvailable : Bool} {now curlRet responseCode : Int} :
      s.pc = .finishing curlRet responseCode → Next s (.finish errno isNetAvailable now) .finished
  | complete {errno : Errno} {isNetAvailable : Bool} {now curlRet responseCode : Int} :
      s.pc = .finishing curlRet responseCode → s.thread.downloadedSize = s.thread.downloadInfo.packageSize →
      Next s (.finish errno isNetAvailable now) .verifyStart
  | verify {fileRealSize now : Int} : s.pc = .verifyStart → Next s (.verify fileRealSize now) (.verifying fileRealSize)
  | digest {fileRealSize : Int} {result : Sha256VerifyResult} :
      s.pc = .verifying fileRealSize → Next s (.digest result) (.verified fileRealSize result)
  | verifyCancelled {fileRealSize : Int} {result : Sha256VerifyResult} :
      s.pc = .verified fileRealSize result → Next s .notifyCancel .finished
  | verified {fileRealSize : Int} {result : Sha256VerifyResult} :
      s.pc = .verified fileRealSize result → Next s .notifyCancel (.verifyEnd fileRealSize result)
  | reportVerify {fileRealSize fileSize now : Int} {result : Sha256VerifyResult} :
      s.pc = .verifyEnd fileRealSize result → Next s (.reportVerify fileSize now) .finished

/-- What a step does. -/
structure Spec (s : ThreadRun) (op : ThreadOp) (s' : ThreadRun) : Prop where
  same : (s.after op).Same s'.thread
  next : s.Next op s'.pc
  reports : (s'.reports = s.reports ∧ s.kind op = .goesOn) ∨
    ∃ info, s'.reports = s.reports ++ [info] ∧ s'.thread.Sized info ∧ info.Is (s.kind op)

theorem Spec.mayReport {r : DownloadThread × Option DownloadCallbackInfo} {pc : TaskPc}
    (hr : (s.after op).Reports (s.kind op) r) (hpc : s.Next op pc) : s.Spec op (s.mayReport r pc) := by
  refine ⟨hr.same, hpc, ?_⟩
  rcases hr.sized with ⟨hnone, hkind⟩ | ⟨info, hsome, hsized, his⟩
  · refine .inl ⟨?_, hkind⟩
    show s.reports ++ r.2.toList = s.reports
    rw [hnone, Option.toList_none, List.append_nil]
  · refine .inr ⟨info, ?_, hsized, his⟩
    show s.reports ++ r.2.toList = _
    rw [hsome, Option.toList_some]

theorem Spec.report {r : DownloadThread × DownloadCallbackInfo} {pc : TaskPc}
    (hr : (s.after op).Reports (s.kind op) (r.1, some r.2)) (hpc : s.Next op pc) : s.Spec op (s.report r pc) :=
  mayReport hr hpc

theorem Spec.quiet (hsame : (s.after op).Same s'.thread) (hpc : s.Next op s'.pc) (hreports : s'.reports = s.reports)
    (hkind : s.kind op = .goesOn) : s.Spec op s' := ⟨hsame, hpc, .inl ⟨hreports, hkind⟩⟩

theorem spec_progress {off dlTotal dlNow now : Int} (hpc : s.pc = .requesting off) :
    s.Spec (.progress dlTotal dlNow now) (s.progress off dlTotal dlNow now) := by
  rw [progress]
  cases hcall : ({ downloadedSize := off, isNeedStop := s.thread.isRequestStopped } : DownloadRequest).callbackProgress
    dlTotal dlNow with
  | none =>
    have hnone : s.call (.progress dlTotal dlNow now) = none := by simp only [call, hpc, hcall, Option.map_none]
    refine .quiet ?_ (.aside rfl) rfl ?_
    · rw [after, hnone]
      exact .refl _
    · rw [kind, hnone]
  | some total =>
    have hsome : s.call (.progress dlTotal dlNow now) = some ⟨s.headers, total.1, total.2⟩ := by
      simp only [call, hpc, hcall, Option.map_some]
    have hkind : s.kind (.progress dlTotal dlNow now) = s.thread.progressKind s.headers total.1 total.2 := by
      rw [kind, hsome]
    refine .mayReport ?_ (.aside rfl)
    rw [after, hsome, hkind]
    exact DownloadThread.reports_onProgress s.headers total.1 total.2 now s.thread

theorem isCompleted_cases {d : DownloadInfo} : d.isCompleted = true ↔ d.status = .success ∨ d.status = .fail := by
  simp [DownloadInfo.isCompleted]

theorem kind_checkBeforeStart {now : Int} (h : s.thread.downloadInfo.isCompleted = false) :
    s.kind (.checkBeforeStart now) = .goesOn := by
  obtain ⟨hsuccess, hfail⟩ := not_or.1 (mt isCompleted_cases.2 (Bool.eq_false_iff.1 h))
  simp only [kind]

theorem spec (h : s.step op = some s') : s.Spec op s' := by
  cases step_cases h with
  | begin hpc => exact .quiet (.refl _) (.begin hpc) rfl rfl
  | completed now hpc hcomp =>
    refine .report (DownloadThread.reports_callbackDownload (.refl _) ?_) (.completed hpc)
    rcases isCompleted_cases.1 hcomp with hstatus | hstatus
    · simp only [kind, hstatus]
      exact ⟨rfl, nofun⟩
    · simp only [kind, hstatus]
      exact ⟨rfl, nofun⟩
  | needVerify now hpc hcomp => exact .quiet (.refl _) (.needVerify hpc hcomp) rfl (kind_checkBeforeStart hcomp)
  | needDownload now hpc hcomp => exact .quiet (.refl _) (.needDownload hpc hcomp) rfl (kind_checkBeforeStart hcomp)
  | start now hpc =>
    refine .report (DownloadThread.reports_callbackDownload ?_ ?_) (.start hpc)
    · exact ⟨rfl, rfl, rfl, rfl, rfl⟩
    · exact ⟨nofun, nofun, nofun⟩
  | initFail errorMsg now hpc =>
    refine .report (DownloadThread.reports_callbackDownload (.refl _) ?_) (.initFail hpc)
    exact ⟨rfl, nofun⟩
  | request now hpc => exact .quiet ⟨rfl, rfl, rfl, rfl, rfl⟩ (.request hpc) rfl rfl
  | header contents hpc => exact .quiet (.refl _) (.aside rfl) rfl rfl
  | progress dlTotal dlNow now hpc => exact spec_progress hpc
  | response curlRet responseCode hpc => exact .quiet (.refl _) (.response hpc) rfl rfl
  | cancelled hpc _ => exact .quiet (.refl _) (.cancelled hpc) rfl rfl
  | goOn hpc _ => exact .quiet (.refl _) (.goOn hpc) rfl rfl
  | verifyCancelled hpc => exact .quiet (.refl _) (.verifyCancelled hpc) rfl rfl
  | verified hpc => exact .quiet (.refl _) (.verified hpc) rfl rfl
  | finish errno isNetAvailable now hpc hr =>
    subst hr
    refine .mayReport ?_ ?_
    · simp only [kind, hpc]
      exact DownloadThread.reports_handleDownloadFinish _ _ _ _ _ _ _
    split
    · exact .finish hpc
    · rename_i hnone
      exact .complete hpc (DownloadThread.handleDownloadFinish_complete hnone)
  | verify fileRealSize now hpc =>
    refine .report (DownloadThread.reports_callbackDownload ?_ ?_) (.verify hpc)
    · exact ⟨rfl, rfl, rfl, rfl, rfl⟩
    · exact ⟨nofun, nofun, nofun⟩
  | verifyProgress verifiedSize now hpc =>
    exact .mayReport (DownloadThread.reports_callbackVerifyProgress _ _ _ _) (.aside rfl)
  | digest result hpc => exact .quiet (.refl _) (.digest hpc) rfl rfl
  | reportVerify fileSize now hpc =>
    refine .report ?_ (.reportVerify hpc)
    simp only [kind, hpc]
    exact DownloadThread.reports_reportVerifyResult _ _ _ _ _ _
  | pauseIdle _ _ => exact .quiet (.refl _) (.aside rfl) rfl rfl
  | pauseLater _ hinit => exact .quiet (DownloadThread.netChangeToPause_same hinit 0) (.aside rfl) rfl rfl
  | callbackPause now hpausing =>
    have hsized := DownloadThread.callbackDownload_sized .autoPause .netChange DownloadThread.noError now s.thread
    exact ⟨⟨rfl, rfl, rfl, rfl, rfl⟩, .aside rfl, .inr ⟨_, rfl, hsized, nofun, nofun, nofun⟩⟩
  | setDisableCallbackFlag flag => exact .quiet ⟨rfl, rfl, rfl, rfl, rfl⟩ (.aside rfl) rfl rfl
  | stop => exact .quiet ⟨rfl, rfl, rfl, rfl, rfl⟩ (.aside rfl) rfl rfl

/-! ### What a step leaves -/

theorem call_progress {c : ProgressCall} (h : s.call op = some c) :
    ∃ off dlTotal dlNow now, op = .progress dlTotal dlNow now ∧ s.pc = .requesting off ∧ c.dlNow = dlNow + off := by
  unfold call at h
  split at h
  · split at h
    · rename_i hpc
      obtain ⟨total, htotal, rfl⟩ := Option.map_eq_some_iff.1 h
      refine ⟨_, _, _, _, rfl, hpc, ?_⟩
      unfold DownloadRequest.callbackProgress at htotal
      split at htotal
      · cases htotal
      split at htotal
      · cases htotal
      · obtain rfl := Option.some.inj htotal
        rfl
    · cases h
  · cases h

theorem isEarly_of_next {pc : TaskPc} (h : s.Next op pc) (hpc : pc.isEarly = true) : s.pc.isEarly = true := by
  cases h with
  | aside => exact hpc
  | begin hs | needDownload hs _ | start hs => rw [hs]; rfl
  | _ => cases hpc

namespace Spec
variable (h : s.Spec op s')
include h

theorem downloadInfo : s'.thread.downloadInfo = s.thread.downloadInfo := by
  rw [h.same.downloadInfo, after]
  split <;> rfl

theorem fileInitSize : s'.thread.fileInitSize = s.thread.fileInitSize := by
  rw [h.same.fileInitSize, after]
  split <;> rfl

theorem totalSize : s'.thread.totalSize = s.thread.totalSize := by
  rw [h.same.totalSize, after]
  split <;> rfl

theorem downloadedSize_of_isFail (hfail : (s.kind op).isFail = true) :
    s'.thread.downloadedSize = s.thread.downloadedSize := by
  rw [h.same.downloadedSize, after]
  split
  · exact if_neg fun hkind => by simp [hkind, ReportKind.isFail] at hfail
  · rfl

/-- The size that has arrived changes only in a progress call. -/
theorem downloadedSize_cases : s'.thread.downloadedSize = s.thread.downloadedSize ∨
    ∃ off dlTotal dlNow now, op = .progress dlTotal dlNow now ∧ s.pc = .requesting off ∧ s'.pc = s.pc ∧
      s'.thread.downloadedSize = dlNow + off := by
  rw [h.same.downloadedSize, after]
  split
  · rename_i c hcall
    by_cases hkind : s.kind op = .goesOn
    · obtain ⟨off, dlTotal, dlNow, now, rfl, hpc, hnow⟩ := call_progress hcall
      have hnext := h.next
      have hstay : s'.pc = s.pc := by
        generalize s'.pc = pc at hnext
        cases hnext
        rfl
      exact .inr ⟨off, dlTotal, dlNow, now, rfl, hpc, hstay, (if_pos hkind).trans hnow⟩
    · exact .inl (if_neg hkind)
  · exact .inl rfl

end Spec

end ThreadRun

end UpdateService
