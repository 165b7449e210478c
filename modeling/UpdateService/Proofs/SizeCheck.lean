import UpdateService.Proofs.HeaderLookup
import UpdateService.Proofs.ThreadSteps

/-!
# The size checks of a thread

Both checks are named by what they find wrong and hold when all is well. The one of the progress calls is made once,
at the first call whose two sizes differ; the one of the finished request comes before the verification.
-/

namespace UpdateService
open StringUtils ResponseHeaderParseUtils

namespace ProgressCall

/-- A header line has this name. -/
def Named (key : String) (c : ProgressCall) : Prop :=
  ∃ line ∈ c.headers, ∃ name text, splitLine line.toList = some (name, text) ∧ trim name = key.toList

/-- The size is known, and it is the one announced, unless the response comes in chunks. -/
def SizeOk (packageSize : Int) (c : ProgressCall) : Prop :=
  packageSize ≠ 0 ∧ (c.Named "Transfer-Encoding" ∨ c.dlTotal = packageSize)

/-- The first call whose sizes differ. -/
def first (calls : List ProgressCall) : Option ProgressCall := calls.find? fun c => c.dlTotal ≠ c.dlNow

end ProgressCall

namespace DownloadThread
variable {th : DownloadThread} {headers : List String} {dlTotal dlNow : Int} {kind : ReportKind}

theorem findKeyFromHeader_iff_named {c : ProgressCall} :
    findKeyFromHeader "Transfer-Encoding".toList (c.headers.map String.toList) = true ↔
    c.Named "Transfer-Encoding" := by
  rw [findKeyFromHeader_iff (by decide)]
  simp [ProgressCall.Named]

theorem isContentLengtAbnormal_cases (h : th.isContentLengtAbnormal headers dlTotal = true) :
    findKeyFromHeader "Transfer-Encoding".toList (headers.map String.toList) = true ∨
      dlTotal = th.downloadInfo.packageSize := by
  unfold isContentLengtAbnormal at h
  split at h
  · rename_i hfound
    exact .inl hfound
  dsimp only at h
  split at h
  · cases h
  split at h
  · cases h
  · rename_i htotal hpackage
    exact .inr ((not_not.1 htotal).symm.trans (not_not.1 hpackage))

/-- The check fails once, and at a call that is not as it should be. -/
theorem progressKind_iff (c : ProgressCall) (th : DownloadThread) :
    th.progressKind c.headers c.dlTotal c.dlNow = .sizeError ↔
    th.isPackageSizeVerified = false ∧ c.dlTotal ≠ c.dlNow ∧ ¬ c.SizeOk th.downloadInfo.packageSize := by
  have hnot : th.progressKind c.headers c.dlTotal c.dlNow = .sizeError ↔
      (th.isPackageSizeAbnormal c.headers c.dlTotal c.dlNow).2 = false := by
    unfold progressKind
    cases (th.isPackageSizeAbnormal c.headers c.dlTotal c.dlNow).2 <;> simp
  rw [hnot, isPackageSizeAbnormal]
  split
  · rename_i h
    constructor
    · nofun
    · rintro ⟨hflag, hne, -⟩
      rcases h with h | h
      · rw [h] at hflag
        cases hflag
      · exact absurd h hne
  rename_i h
  obtain ⟨hflag, hne⟩ := not_or.1 h
  rw [and_iff_right (Bool.eq_false_iff.2 hflag), and_iff_right hne]
  dsimp only
  split
  · rename_i hzero
    exact ⟨fun _ hok => hok.1 hzero, fun _ => rfl⟩
  rename_i hzero
  split
  · rename_i hlength
    refine ⟨nofun, fun hbad => absurd ⟨hzero, ?_⟩ hbad⟩
    exact (isContentLengtAbnormal_cases hlength).imp findKeyFromHeader_iff_named.1 id
  rename_i hlength
  have hnamed : ¬ c.Named "Transfer-Encoding" := by
    intro hnamed
    rw [isContentLengtAbnormal, if_pos (findKeyFromHeader_iff_named.2 hnamed)] at hlength
    exact hlength rfl
  split
  · rename_i hsize
    exact ⟨fun _ hok => hok.2.elim hnamed (Ne.symm hsize), fun _ => rfl⟩
  · rename_i hsize
    exact ⟨nofun, fun hbad => absurd ⟨hzero, .inr (not_not.1 hsize).symm⟩ hbad⟩

theorem handleDownloadFinish_sizeError (hpause : th.isNeedAutoPause = false)
    (hsize : th.downloadedSize ≠ th.downloadInfo.packageSize) (headers : List String)
    (responseCode : Int) (errno : Errno)
    (isNetAvailable : Bool) (now : Int) :
    ∃ info, (th.handleDownloadFinish headers curleOk responseCode errno isNetAvailable now).2 = some info ∧
      info.status = .fail ∧ info.endReason = .finishSizeError := by
  unfold handleDownloadFinish
  dsimp only
  rw [if_neg (Bool.eq_false_iff.1 hpause), if_pos (.inl rfl), if_pos hsize]
  exact ⟨_, rfl, rfl, rfl⟩

theorem finishKind_ne (curlRet responseCode : Int) (th : DownloadThread) :
    th.finishKind curlRet responseCode ≠ .sizeError ∧ th.finishKind curlRet responseCode ≠ .succeeded := by
  unfold finishKind failKind
  split
  · exact ⟨nofun, nofun⟩
  split
  · exact ⟨nofun, nofun⟩
  split <;> exact ⟨nofun, nofun⟩

end DownloadThread

/-- Where the file is verified. -/
def TaskPc.isVerify : TaskPc → Bool
  | .verifyStart | .verifying _ | .verified _ _ | .verifyEnd _ _ => true
  | _ => false

namespace ThreadRun
variable {s s' : ThreadRun} {op : ThreadOp} {ops : List ThreadOp} {d : DownloadInfo} {calls : List ProgressCall}

theorem kind_of_call {c : ProgressCall} (h : s.call op = some c) :
    s.kind op = s.thread.progressKind c.headers c.dlTotal c.dlNow := by
  obtain ⟨off, dlTotal, dlNow, now, rfl, -, -⟩ := call_progress h
  rw [kind, h]

theorem kind_eq_sizeError (h : s.kind op = .sizeError) :
    ∃ c, s.call op = some c ∧ s.thread.progressKind c.headers c.dlTotal c.dlNow = .sizeError := by
  cases op with
  | progress dlTotal dlNow now =>
    rw [kind] at h
    split at h
    · rename_i c hcall
      exact ⟨c, hcall, h⟩
    · cases h
  | checkBeforeStart now =>
    rw [kind] at h
    split at h <;> cases h
  | initPackageParam errorMsg now => cases errorMsg <;> cases h
  | finish errno isNetAvailable now =>
    rw [kind] at h
    split at h
    · exact absurd h (DownloadThread.finishKind_ne _ _ _).1
    · cases h
  | reportVerify fileSize now =>
    rw [kind] at h
    split at h
    · unfold DownloadThread.verifyKind at h
      split at h <;> cases h
    · cases h
  | _ => cases h

theorem kind_eq_succeeded (h : s.kind op = .succeeded) :
    (∃ now, op = .checkBeforeStart now ∧ s.thread.downloadInfo.status = .success) ∨
      ∃ fileSize now fileRealSize result, op = .reportVerify fileSize now ∧ s.pc = .verifyEnd fileRealSize result ∧
        result.sha256ErrCode = .success := by
  cases op with
  | progress dlTotal dlNow now =>
    rw [kind] at h
    split at h
    · unfold DownloadThread.progressKind at h
      split at h <;> cases h
    · cases h
  | checkBeforeStart now =>
    rw [kind] at h
    split at h
    · cases h
    · rename_i hstatus
      exact .inl ⟨now, rfl, hstatus⟩
    · cases h
  | initPackageParam errorMsg now => cases errorMsg <;> cases h
  | finish errno isNetAvailable now =>
    rw [kind] at h
    split at h
    · exact absurd h (DownloadThread.finishKind_ne _ _ _).2
    · cases h
  | reportVerify fileSize now =>
    rw [kind] at h
    split at h
    · rename_i fileRealSize result hpc
      unfold DownloadThread.verifyKind at h
      split at h
      · rename_i hsuccess
        exact .inr ⟨fileSize, now, fileRealSize, result, rfl, hpc, hsuccess⟩
      · cases h
    · cases h
  | _ => cases h

/-! ### The check of the progress calls -/

/-- The calls so far. -/
def noteCall (calls : List ProgressCall) (s : ThreadRun) (op : ThreadOp) (_ : ThreadRun) : List ProgressCall :=
  calls ++ (s.call op).toList

/-- The outcome of the check is that of the first call whose sizes differ. -/
structure CheckInv (d : DownloadInfo) (s : ThreadRun) (calls : List ProgressCall) : Prop where
  packageSize : s.thread.downloadInfo.packageSize = d.packageSize
  checked : s.thread.isPackageSizeVerified = (ProgressCall.first calls).isSome
  sizeError : (∀ r ∈ s.reports, r.endReason ≠ .sizeError) ↔
    ∀ c, ProgressCall.first calls = some c → c.SizeOk d.packageSize

/-- A step without a report of a wrong size leaves what is said of it. -/
theorem sizeError_of_spec (hs : s.Spec op s') : (∀ r ∈ s'.reports, r.endReason ≠ .sizeError) ↔
    (∀ r ∈ s.reports, r.endReason ≠ .sizeError) ∧ s.kind op ≠ .sizeError := by
  rcases hs.reports with ⟨hreports, hkind⟩ | ⟨info, hreports, -, his⟩
  · rw [hreports, hkind]
    exact ⟨fun h => ⟨h, nofun⟩, And.left⟩
  · rw [hreports, List.forall_mem_append, List.forall_mem_singleton, Ne, his.sizeError_iff]

theorem first_append (calls : List ProgressCall) (c : ProgressCall) : ProgressCall.first (calls ++ [c]) =
    (ProgressCall.first calls).or (if c.dlTotal ≠ c.dlNow then some c else none) := by
  rw [ProgressCall.first, List.find?_append, List.find?_singleton, ProgressCall.first]
  simp

theorem CheckInv.ofInfo (d : DownloadInfo) (fileRealSize now : Int) : CheckInv d (.ofInfo d fileRealSize now) [] where
  packageSize := rfl
  checked := rfl
  sizeError := by
    constructor
    · intro _ c h
      cases h
    · intro _ r h
      cases h

theorem CheckInv.step (h : CheckInv d s calls) (hs : s.Spec op s') : CheckInv d s' (calls ++ (s.call op).toList) := by
  have hpackage := (congrArg DownloadInfo.packageSize hs.downloadInfo).trans h.packageSize
  have hchecked := hs.same.isPackageSizeVerified
  cases hcall : s.call op with
  | none =>
    have hkind : s.kind op ≠ .sizeError := by
      intro hkind
      obtain ⟨c, hc, -⟩ := kind_eq_sizeError hkind
      rw [hcall] at hc
      cases hc
    rw [after, hcall] at hchecked
    rw [Option.toList_none, List.append_nil]
    exact ⟨hpackage, hchecked.trans h.checked, (sizeError_of_spec hs).trans ((and_iff_left hkind).trans h.sizeError)⟩
  | some c =>
    have hkind : s.kind op = .sizeError ↔
        ProgressCall.first calls = none ∧ c.dlTotal ≠ c.dlNow ∧ ¬ c.SizeOk d.packageSize := by
      rw [kind_of_call hcall, DownloadThread.progressKind_iff, h.checked, h.packageSize, Option.isSome_eq_false_iff,
        Option.isNone_iff_eq_none]
    rw [after, hcall] at hchecked
    rw [Option.toList_some]
    refine ⟨hpackage, ?_, ?_⟩
    · rw [hchecked, first_append, Option.isSome_or, ← h.checked, Bool.or_comm]
      by_cases hne : c.dlTotal = c.dlNow <;> simp [hne]
    · rw [sizeError_of_spec hs, h.sizeError, Ne, hkind, first_append]
      cases hfirst : ProgressCall.first calls with
      | some c' => simp
      | none =>
        by_cases hne : c.dlTotal = c.dlNow
        · simp [hne]
        · simp [hne]

/-! ### The check of the finished request -/

/-- The run has gone into `DoDownload`. -/
def Requested (ops : List ThreadOp) : Prop := ∃ now, .initPackageParam none now ∈ ops

/-- All bytes have arrived and their digest is right. -/
structure Verified (d : DownloadInfo) (ops : List ThreadOp) (s : ThreadRun) : Prop where
  downloadedSize : s.thread.downloadedSize = d.packageSize
  digest : ∃ result, .digest result ∈ ops ∧ result.sha256ErrCode = .success

structure SuccessInv (d : DownloadInfo) (ops : List ThreadOp) (s : ThreadRun) : Prop where
  packageSize : s.thread.downloadInfo.packageSize = d.packageSize
  early : s.pc.isEarly = true → ¬ Requested ops
  complete : Requested ops → s.pc.isVerify = true → s.thread.downloadedSize = d.packageSize
  digest : ∀ fileRealSize result, s.pc = .verified fileRealSize result ∨ s.pc = .verifyEnd fileRealSize result →
    .digest result ∈ ops
  success : ∀ r ∈ s.reports, r.status = .success → s.pc = .finished ∧ (Requested ops → Verified d ops s)

namespace SuccessInv

theorem ofInfo (d : DownloadInfo) (fileRealSize now : Int) : SuccessInv d [] (.ofInfo d fileRealSize now) where
  packageSize := rfl
  early _ := by rintro ⟨now, h⟩; cases h
  complete _ h := by cases h
  digest _ _ h := by rcases h with h | h <;> cases h
  success _ h := absurd h List.not_mem_nil

theorem requested_append (h : Requested (ops ++ [op])) : Requested ops ∨ ∃ now, op = .initPackageParam none now := by
  obtain ⟨now, hmem⟩ := h
  rcases List.mem_append.1 hmem with hmem | hmem
  · exact .inl ⟨now, hmem⟩
  · exact .inr ⟨now, (List.mem_singleton.1 hmem).symm⟩

theorem early_step (h : SuccessInv d ops s) (hs : s.Spec op s') (hpc : s'.pc.isEarly = true) :
    ¬ Requested (ops ++ [op]) := by
  intro hreq
  rcases requested_append hreq with hreq | ⟨now, rfl⟩
  · exact h.early (isEarly_of_next hs.next hpc) hreq
  · have hnext := hs.next
    generalize s'.pc = pc at hnext hpc
    cases hnext with
    | aside hop => cases hop
    | request => cases hpc

theorem digest_step (h : SuccessInv d ops s) (hs : s.Spec op s') (fileRealSize : Int) (result : Sha256VerifyResult)
    (hpc : s'.pc = .verified fileRealSize result ∨ s'.pc = .verifyEnd fileRealSize result) :
    .digest result ∈ ops ++ [op] := by
  have hnext := hs.next
  generalize s'.pc = pc at hnext hpc
  cases hnext with
  | aside => exact List.mem_append_left _ (h.digest _ _ hpc)
  | digest =>
    rcases hpc with hpc | hpc
    · cases hpc
      exact List.mem_append_right _ (List.mem_singleton.2 rfl)
    · cases hpc
  | verified hs =>
    rcases hpc with hpc | hpc
    · cases hpc
    · cases hpc
      exact List.mem_append_left _ (h.digest _ _ (.inl hs))
  | _ => rcases hpc with hpc | hpc <;> cases hpc

/-- Nothing arrives where the file is verified, or after it. -/
theorem downloadedSize_step (hs : s.Spec op s') (hpc : ∀ off, s.pc ≠ .requesting off) :
    s'.thread.downloadedSize = s.thread.downloadedSize := by
  rcases hs.downloadedSize_cases with hsame | ⟨off, -, -, -, -, hreq, -⟩
  · exact hsame
  · exact absurd hreq (hpc off)

theorem requested_of_ne (h : Requested (ops ++ [op])) (hop : ∀ now, op ≠ .initPackageParam none now) : Requested ops :=
  (requested_append h).resolve_right fun ⟨now, h⟩ => hop now h

theorem complete_step (h : SuccessInv d ops s) (hs : s.Spec op s') (hreq : Requested (ops ++ [op]))
    (hpc : s'.pc.isVerify = true) : s'.thread.downloadedSize = d.packageSize := by
  have hnext := hs.next
  generalize s'.pc = pc at hnext hpc
  cases hnext with
  | aside hop =>
    rw [downloadedSize_step hs fun off hoff => by rw [hoff] at hpc; cases hpc]
    refine h.complete (requested_of_ne hreq ?_) hpc
    rintro now rfl
    cases hop
  | needVerify hfrom => exact absurd (requested_of_ne hreq nofun) (h.early (by rw [hfrom]; rfl))
  | complete hfrom hsize =>
    rw [downloadedSize_step hs fun off hoff => by rw [hfrom] at hoff; cases hoff]
    exact hsize.trans h.packageSize
  | verify hfrom | digest hfrom | verified hfrom =>
    rw [downloadedSize_step hs fun off hoff => by rw [hfrom] at hoff; cases hoff]
    exact h.complete (requested_of_ne hreq nofun) (by rw [hfrom]; rfl)
  | _ => cases hpc

/-- After the end of the task its pc stays, and nothing changes in what has been verified. -/
theorem finished_step (hs : s.Spec op s') (hpc : s.pc = .finished) (h : Requested ops → Verified d ops s) :
    s'.pc = .finished ∧ (Requested (ops ++ [op]) → Verified d (ops ++ [op]) s') := by
  have hnext := hs.next
  generalize s'.pc = pc at hnext
  cases hnext with
  | aside hop =>
    refine ⟨hpc, fun hreq => ?_⟩
    obtain ⟨hsize, result, hdigest, hsuccess⟩ := h (requested_of_ne hreq (by rintro now rfl; cases hop))
    refine ⟨?_, result, List.mem_append_left _ hdigest, hsuccess⟩
    rw [downloadedSize_step hs fun off hoff => by rw [hpc] at hoff; cases hoff]
    exact hsize
  | _ hfrom =>
    rw [hpc] at hfrom
    cases hfrom

/-- A success that is reported now. -/
theorem succeeded_step (h : SuccessInv d ops s) (hs : s.Spec op s') (hkind : s.kind op = .succeeded) :
    s'.pc = .finished ∧ (Requested (ops ++ [op]) → Verified d (ops ++ [op]) s') := by
  have hnext := hs.next
  generalize s'.pc = pc at hnext
  rcases kind_eq_succeeded hkind with ⟨now, rfl, hstatus⟩ | ⟨fileSize, now, fileRealSize, result, rfl, hpc, hsuccess⟩
  · have hcomp := DownloadInfo.isCompleted_of_success hstatus
    cases hnext with
    | aside hop => cases hop
    | completed hfrom =>
      exact ⟨rfl, fun hreq => absurd (requested_of_ne hreq nofun) (h.early (by rw [hfrom]; rfl))⟩
    | needVerify _ hnot | needDownload _ hnot =>
      rw [hcomp] at hnot
      cases hnot
  · cases hnext with
    | aside hop => cases hop
    | reportVerify =>
      refine ⟨rfl, fun hreq => ⟨?_, result, List.mem_append_left _ (h.digest _ _ (.inr hpc)), hsuccess⟩⟩
      rw [downloadedSize_step hs fun off hoff => by rw [hpc] at hoff; cases hoff]
      exact h.complete (requested_of_ne hreq nofun) (by rw [hpc]; rfl)

theorem step (h : SuccessInv d ops s) (hs : s.Spec op s') : SuccessInv d (ops ++ [op]) s' := by
  have hpackage := (congrArg DownloadInfo.packageSize hs.downloadInfo).trans h.packageSize
  refine ⟨hpackage, h.early_step hs, h.complete_step hs, h.digest_step hs, ?_⟩
  have hold : ∀ r ∈ s.reports, r.status = .success → s'.pc = .finished ∧
    (Requested (ops ++ [op]) → Verified d (ops ++ [op]) s') := by
    intro r hr hsuccess
    obtain ⟨hpc, hverified⟩ := h.success r hr hsuccess
    exact finished_step hs hpc hverified
  rcases hs.reports with ⟨hreports, -⟩ | ⟨info, hreports, -, his⟩
  · rwa [hreports]
  · rw [hreports]
    refine List.forall_mem_append.2 ⟨hold, List.forall_mem_singleton.2 fun hsuccess => ?_⟩
    exact h.succeeded_step hs (his.succeeded hsuccess)

end SuccessInv

/-- Another size than that of the package at the end of a request that went well is reported as such. -/
theorem finishSizeError_of_finishing {responseCode : Int} (hpc : s.pc = .finishing curleOk responseCode)
    (hpause : s.thread.isNeedAutoPause = false) (hsize : s.thread.downloadedSize ≠ s.thread.downloadInfo.packageSize)
    (errno : Errno) (isNetAvailable : Bool) (now : Int) :
    ∃ s' r, s.step (.finish errno isNetAvailable now) = some s' ∧ s'.reports = s.reports ++ [r] ∧ r.status = .fail ∧
      r.endReason = .finishSizeError := by
  obtain ⟨info, hinfo, hstatus, hreason⟩ := DownloadThread.handleDownloadFinish_sizeError hpause hsize s.headers
    responseCode errno isNetAvailable now
  simp only [step, hpc]
  refine ⟨_, info, rfl, ?_, hstatus, hreason⟩
  rw [mayReport, hinfo]
  rfl

/-- What the size checks are to do in a run with the progress calls `calls`. -/
structure SizesChecked (d : DownloadInfo) (ops : List ThreadOp) (calls : List ProgressCall) (s : ThreadRun) : Prop where
  progress : (∀ r ∈ s.reports, r.endReason ≠ .sizeError) ↔
    ∀ c, ProgressCall.first calls = some c → c.SizeOk d.packageSize
  success : Requested ops → ∀ r ∈ s.reports, r.status = .success → Verified d ops s
  goOn : ∀ responseCode, s.pc = .requested curleOk responseCode → s.thread.isNeedCancel = false →
    s.step .notifyCancel = some { s with pc := .finishing curleOk responseCode }
  finish : ∀ responseCode, s.pc = .finishing curleOk responseCode → s.thread.isNeedAutoPause = false →
    s.thread.downloadedSize ≠ d.packageSize → ∀ errno isNetAvailable now, ∃ s' r,
      s.step (.finish errno isNetAvailable now) = some s' ∧ s'.reports = s.reports ++ [r] ∧ r.status = .fail ∧
        r.endReason = .finishSizeError

theorem sizes_checked (d : DownloadInfo) (fileRealSize now : Int)
    (hrun : (lts.observe noteCall).Run (ofInfo d fileRealSize now, []) ops (s, calls)) :
    SizesChecked d ops calls s := by
  have hstep : ∀ ops x op x', (lts.observe noteCall).step x op x' → CheckInv d x.1 x.2 ∧ SuccessInv d ops x.1 →
      CheckInv d x'.1 x'.2 ∧ SuccessInv d (ops ++ [op]) x'.1 := by
    rintro ops ⟨s, calls⟩ op ⟨s', calls'⟩ ⟨hs, hcalls⟩ ⟨hcheck, hsuccess⟩
    obtain rfl : calls' = calls ++ (s.call op).toList := hcalls
    exact ⟨hcheck.step (spec hs), hsuccess.step (spec hs)⟩
  obtain ⟨hcheck, hsuccess⟩ := hrun.history hstep ⟨.ofInfo d fileRealSize now, .ofInfo d fileRealSize now⟩
  refine ⟨hcheck.sizeError, fun hreq r hr hr' => (hsuccess.success r hr hr').2 hreq, ?_, ?_⟩
  · intro responseCode hpc hcancel
    simp [step, hpc, hcancel]
  · intro responseCode hpc hpause hsize
    exact finishSizeError_of_finishing hpc hpause (by rwa [hsuccess.packageSize])

/-- A transfer of which the first call announces another size: it fails, and no later call reaches the thread. -/
def wrongSize : List ThreadOp :=
  [.begin, .checkBeforeStart 0, .start 0, .initPackageParam none 0, .progress 0 0 1, .progress 90 10 1, .progress 90 90 2]

theorem sizes_checked_wrong : ∃ s, (lts.observe noteCall).Run (ofInfo samplePackage 0 0, []) wrongSize (s, [⟨[], 90, 10⟩]) ∧
    SizesChecked samplePackage wrongSize [⟨[], 90, 10⟩] s ∧ ∃ r ∈ s.reports, r.endReason = .sizeError := by
  have hrun : (Lts.ofPartial fun x op => (step x.1 op).map fun s' => (s', noteCall x.2 x.1 op s')).Run
    (ofInfo samplePackage 0 0, []) wrongSize _ := Lts.run_ofPartial_get (by rfl)
  rw [← Lts.observe_ofPartial] at hrun
  exact ⟨_, hrun, sizes_checked samplePackage 0 0 hrun, _, List.mem_cons_of_mem _ (List.mem_singleton.2 rfl), rfl⟩

end ThreadRun

end UpdateService
