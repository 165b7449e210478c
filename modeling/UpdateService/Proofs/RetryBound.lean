import UpdateService.ServiceRun
import Mathlib.Logic.Basic

/-!
# Retries are bounded and failures are answered once

`Bounded` is the invariant of the retry counters. `SameCount` is what every step but the reports and
`Resume` does to them: nothing. With a counter of the retries beside the run (`Lts.tally`) the two
counters move together until a step resets (`Resets`), so that the bound on one is a bound on the
other. `Retried` and `Recorded` are the two answers to a failure.
-/

namespace UpdateService
namespace ServiceState
variable {s s' s'' : ServiceState} {d d' : DownloadInfo} {info : DownloadCallbackInfo} {op : ServiceOp} {id : String}

def Bounded (s : ServiceState) : Prop :=
  ∀ id d, s.infoMap.find? id = some d → 0 ≤ d.retryTimes ∧ d.retryTimes ≤ 3

/-- The steps that reset the counter of a download: `Resume`, and the reports that say so, the one a
network change makes a thread give included. -/
def Resets (id : String) (s : ServiceState) : ServiceOp → Prop
  | .resume _ => True
  | .report _ r => r.info.downloadId = id ∧ r.info.resetRetryTimes = true
  | .netChangeToPause => ∃ (i : Nat) (th : DownloadThread),
      s.threads[i]? = some th ∧ th.downloadId = id ∧ th.callbackInfo.resetRetryTimes = true
  | _ => False

def retriesOf (id : String) (s : ServiceState) (op : ServiceOp) (s' : ServiceState) : Nat :=
  match op with
  | .report _ _ => s'.starts id - s.starts id
  | _ => 0

structure Retried (info : DownloadCallbackInfo) (d : DownloadInfo) (s s' : ServiceState) : Prop where
  threads : s'.threads = s.threads ++ [.ofInfo (d.countRetry.switchUrl info.endReason) (s.fileSize d.path) s.now]
  registered : s'.threadMap.find? d.downloadId = some (d.downloadId, s.threads.length)
  record : s'.infoMap.find? d.downloadId = some (d.countRetry.switchUrl info.endReason)
  trace : s'.trace = s.trace ++ [.db (.update .retryTimes d.countRetry)]

/-- The failure is written down, and passed on where there is someone to pass it to. -/
structure Recorded (info : DownloadCallbackInfo) (d : DownloadInfo) (s s' : ServiceState) : Prop where
  threads : s'.threads = s.threads
  record : s'.infoMap.find? d.downloadId = some (d.updateDownloadInfo info)
  trace : s'.trace = s.trace ++ .db (.update .progress (d.updateDownloadInfo info)) ::
    if s.onDownloadCallback then [.progress info s'.infoMap] else []

theorem Retried.not_recorded (h : Retried info d s s') : ¬ Recorded info d s s' := by
  intro hr
  have hlen := congrArg List.length (h.threads.symm.trans hr.threads)
  simp at hlen

/-! ### One report of a failure -/

theorem switchUrl_path {r : DownloadEndReason} : (d.countRetry.switchUrl r).path = d.path := by
  unfold DownloadInfo.switchUrl
  split <;> rfl

theorem switchUrl_retryTimes {r : DownloadEndReason} : (d.countRetry.switchUrl r).retryTimes = d.retryTimes + 1 := by
  unfold DownloadInfo.switchUrl
  split <;> rfl

theorem retried_handleRetry (h : s.infoMap.find? info.downloadId = some d) :
    Retried info d s (s.handleRetry info.downloadId info.endReason).2 := by
  have hid : d.downloadId = info.downloadId := downloadId_of_find? h
  unfold handleRetry
  simp only [h]
  refine ⟨?_, ?_, ?_, rfl⟩
  · rw [← switchUrl_path (d := d) (r := info.endReason)]
    rfl
  · simp only [startDownloadThread, KeyedList.find?_insert, DownloadInfo.switchUrl_downloadId,
      DownloadInfo.countRetry_downloadId, if_true]
    rfl
  · rw [hid]
    exact find?_modifyInfo_self (DownloadInfo.switchUrl_downloadId info.endReason)
      (find?_modifyInfo_self DownloadInfo.countRetry_downloadId h)

theorem recorded_finishReport (hf : info.status = .fail) (h : s.infoMap.find? info.downloadId = some d) :
    Recorded info d s (s.finishReport info) := by
  have hid : d.downloadId = info.downloadId := downloadId_of_find? h
  have hdrop : ¬ (info.status = .downloading ∧ s.isStopCallback = true) := by simp [hf]
  have hupd : s.updateDownloadInfo info =
      (s.modifyInfo info.downloadId (·.updateDownloadInfo info)
        (DownloadInfo.updateDownloadInfo_downloadId info)).exec (.update .progress (d.updateDownloadInfo info)) := by
    unfold updateDownloadInfo
    simp only [h]
    rw [if_neg hdrop, if_pos (by rw [hf]; decide)]
  refine ⟨finishReport_service.1, ?_, ?_⟩
  · rw [finishReport, hupd, callbackDownloadProgress_toDownloadService, hid]
    exact find?_modifyInfo_self (DownloadInfo.updateDownloadInfo_downloadId info) h
  · rw [finishReport, hupd]
    unfold callbackDownloadProgress
    cases hc : s.onDownloadCallback with
    | true => simp [exec, modifyInfo, hc]
    | false => simp [exec, modifyInfo, hc]

/-- The failure of a known download is tried again or recorded, by its reason and its counter. -/
theorem updateDownloadProgress_fail (hf : info.status = .fail) (h : s.infoMap.find? info.downloadId = some d) :
    if retries info d then Retried info d s (s.updateDownloadProgress info)
    else Recorded info d s (s.updateDownloadProgress info) := by
  unfold updateDownloadProgress
  have hrm : info.status ≠ .downloading ∧ info.status ≠ .verifying := by rw [hf]; decide
  rw [if_pos hrm, if_neg (not_not.2 hf)]
  have h₁ : (s.removeThread info.downloadId).infoMap.find? info.downloadId = some d := h
  simp only [h₁]
  by_cases hio : info.endReason = .ioException ∨ info.endReason = .verifyFail
  · rw [if_pos hio, if_neg (by rcases hio with h | h <;> simp [retries, h])]
    obtain ⟨hth, hi, ht⟩ := recorded_finishReport (s := (s.removeThread info.downloadId).clearPackage d.path) hf h
    exact ⟨hth, hi, ht⟩
  rw [if_neg hio]
  cases hr : d.isRetryAble with
  | false =>
    rw [if_neg (by simp [retries, hr]), if_pos (by rfl)]
    obtain ⟨hth, hi, ht⟩ := recorded_finishReport (s := s.removeThread info.downloadId) hf h
    exact ⟨hth, hi, ht⟩
  | true =>
    rw [if_pos (by simpa [retries, hf, hr] using hio)]
    obtain ⟨hth, hreg, hi, ht⟩ := retried_handleRetry (s := s.removeThread info.downloadId) h
    have hs : (s.removeThread info.downloadId).handleRetry info.downloadId info.endReason =
        (.success, ((s.removeThread info.downloadId).handleRetry info.downloadId info.endReason).2) := by
      unfold handleRetry
      simp only [h₁]
    rw [hs]
    exact ⟨hth, hreg, hi, ht⟩

/-! ### The counters -/

theorem callback_cases (info : DownloadCallbackInfo) (s : ServiceState) :
    ((s.callbackUpdateDownloadProgress info).threads = s.threads ∧
      ∀ id d', (s.callbackUpdateDownloadProgress info).infoMap.find? id = some d' →
        ∃ d, s.infoMap.find? id = some d ∧ (d' = d ∨ id = info.downloadId ∧ d' = d.updateDownloadInfo info)) ∨
    ∃ d th, s.infoMap.find? info.downloadId = some d ∧ retries info d = true ∧ th.downloadId = info.downloadId ∧
      (s.callbackUpdateDownloadProgress info).threads = s.threads ++ [th] ∧
      ∀ id, (s.callbackUpdateDownloadProgress info).infoMap.find? id = (s.infoMap.find? id).map fun d =>
        if id = info.downloadId then d.countRetry.switchUrl info.endReason else d := by
  unfold callbackUpdateDownloadProgress
  split
  · exact .inl ⟨rfl, fun id d' hd' => ⟨d', hd', .inl rfl⟩⟩
  obtain ⟨s₀, hsame, ⟨-, he⟩ | ⟨-, -, he⟩ | ⟨d, hd, hr, he⟩⟩ := updateDownloadProgress_cases info s
  · refine .inl ⟨by rw [he, finishReport_service.1, hsame.threads], fun id d' hd' => ?_⟩
    rw [he, finishReport, callbackDownloadProgress_toDownloadService] at hd'
    rcases updateDownloadInfo_cases info s₀ with ⟨-, hu⟩ | ⟨d, hd, -, hu, -⟩
    · rw [hu, hsame.infoMap] at hd'
      exact ⟨d', hd', .inl rfl⟩
    · rw [hu, find?_modifyInfo, hsame.infoMap] at hd'
      obtain ⟨d₀, hd₀, rfl⟩ := Option.map_eq_some_iff.1 hd'
      refine ⟨d₀, hd₀, ?_⟩
      by_cases hid : id = info.downloadId
      · exact .inr ⟨hid, if_pos hid⟩
      · exact .inl (if_neg hid)
  · rw [he]
    exact .inl ⟨hsame.threads, fun id d' hd' => ⟨d', hsame.infoMap ▸ hd', .inl rfl⟩⟩
  · have hid : d.downloadId = info.downloadId := downloadId_of_find? hd
    have hretried := updateDownloadProgress_fail (status_of_retries hr) hd
    rw [if_pos hr] at hretried
    refine .inr ⟨d, _, hd, hr, ?_, hretried.threads, fun id => ?_⟩
    · rw [DownloadThread.ofInfo_downloadId, DownloadInfo.switchUrl_downloadId]
      exact hid
    obtain ⟨s₁, hs, hs₁, -⟩ := handleRetry_eq info.endReason (hsame.infoMap ▸ hd : s₀.infoMap.find? _ = some d)
    rw [he, hs]
    change s₁.infoMap.find? id = _
    rw [(congrArg DownloadService.infoMap hs₁ :), ← hsame.infoMap]
    exact find?_modifyInfo _

def SameCount (id : String) (s s' : ServiceState) : Prop :=
  ∀ d', s'.infoMap.find? id = some d' → ∃ d, s.infoMap.find? id = some d ∧ d'.retryTimes = d.retryTimes

namespace SameCount

theorem of_eq (h : s'.infoMap = s.infoMap) : SameCount id s s' := fun d hd => ⟨d, h ▸ hd, rfl⟩

theorem trans (h : SameCount id s s') (h' : SameCount id s' s'') : SameCount id s s'' := by
  intro d'' hd''
  obtain ⟨d', hd', he'⟩ := h' d'' hd''
  obtain ⟨d, hd, he⟩ := h d' hd'
  exact ⟨d, hd, he'.trans he⟩

theorem forEachInfo {f : DownloadInfo → ServiceState → ServiceState} (hf : ∀ s d, SameCount id s (f d s)) :
    SameCount id s (s.forEachInfo f) :=
  forEachInfo_induction (P := SameCount id s) (.of_eq rfl) fun s' d h _ => h.trans (hf s' d)

theorem report (hf : info.status ≠ .fail) (hr : info.resetRetryTimes = false) :
    SameCount id s (s.updateDownloadProgress info) := by
  intro d' hd'
  obtain ⟨s₀, hsame, ⟨-, he⟩ | ⟨hfail, -⟩ | ⟨d, -, hr, -⟩⟩ := updateDownloadProgress_cases info s
  · rw [he, finishReport, callbackDownloadProgress_toDownloadService] at hd'
    rcases updateDownloadInfo_cases info s₀ with ⟨-, hu⟩ | ⟨d, hd, -, hu, -⟩
    · rw [hu, hsame.infoMap] at hd'
      exact ⟨d', hd', rfl⟩
    · rw [hu, find?_modifyInfo, hsame.infoMap] at hd'
      obtain ⟨d₀, hd₀, rfl⟩ := Option.map_eq_some_iff.1 hd'
      refine ⟨d₀, hd₀, ?_⟩
      split
      · simp [DownloadInfo.updateDownloadInfo, hr]
      · rfl
  · exact absurd hfail hf
  · exact absurd (status_of_retries hr) hf

theorem start (error : DownloadError) : SameCount id s (s.start error).2 := by
  unfold ServiceState.start
  split
  · exact .of_eq rfl
  split
  · exact .of_eq rfl
  have h₁ : SameCount id s { s with onDownloadCallback := true, isStopCallback := false } := .of_eq rfl
  refine h₁.trans (.forEachInfo fun s d => ?_)
  unfold startInfo
  split
  · exact .of_eq rfl
  split <;> exact .of_eq rfl

theorem pause (ended : Nat → Bool) : SameCount id s (s.pause ended).2 := by
  have h₁ : SameCount id s (s.stopAllDownloadThread ended) := .of_eq rfl
  exact h₁.trans (.forEachInfo fun s d => .report (by simp [DownloadInfo.pauseReport]) rfl)

theorem recover : SameCount id s s.recover := by
  unfold ServiceState.recover
  split
  · exact .of_eq rfl
  have h₁ : SameCount id s { s with onDownloadCallback := true } := .of_eq rfl
  refine h₁.trans (.forEachInfo fun s d => ?_)
  split
  · exact .of_eq rfl
  split
  · exact .of_eq rfl
  · exact .report (by simp [DownloadInfo.recoverReport]) rfl

theorem netChangeToStart : SameCount id s s.netChangeToStart := by
  refine .forEachInfo fun s d => ?_
  split
  · exact .of_eq rfl
  split <;> exact .of_eq rfl

end SameCount

theorem netChangeToPause_count (hd' : s.netChangeToPause.infoMap.find? id = some d') :
    ∃ d, s.infoMap.find? id = some d ∧
      (d'.retryTimes = d.retryTimes ∨ Resets id s .netChangeToPause ∧ d'.retryTimes = 0) := by
  by_cases hres : Resets id s .netChangeToPause
  · have hp : Pausing s s.netChangeToPause := by
      refine List.foldlRecOn (motive := fun s' => Pausing s s') s.registered _ ?_ fun s' h i _ => h.pauseThread i
      exact ⟨rfl, fun i th hth => ⟨th, hth, rfl, rfl, rfl, rfl⟩, fun id d hd => ⟨d, hd, .inl rfl, .inl rfl⟩⟩
    obtain ⟨d, hd, -, hr⟩ := hp.info id d' hd'
    exact ⟨d, hd, hr.imp_right fun h => ⟨hres, h⟩⟩
  · have hsame : SameCount id s s.netChangeToPause := by
      refine netChangeToPause_induction (P := SameCount id s) (.of_eq rfl) fun s' i _ hp h => h.trans ?_
      obtain he | ⟨th, th', hth, -, -, -, -, he | ⟨info, -, hinfo, hauto, hreset, he⟩⟩ := pauseThread_cases i s' <;>
        rw [he]
      · exact .of_eq rfl
      · exact .of_eq rfl
      obtain ⟨th₀, hth₀, hid₀, -, -, hreset₀⟩ := hp.thread i th hth
      have hf : info.status ≠ .fail := by rw [hauto]; decide
      intro d₂ hd₂
      obtain ⟨-, -, hfind⟩ := callbackUpdateDownloadProgress_of_ne_fail
        { s' with threads := s'.threads.set i th' } hf
      obtain hd | ⟨d, hid, hd, rfl⟩ := hfind id d₂ hd₂
      · exact ⟨d₂, hd, rfl⟩
      · refine ⟨d, hd, ?_⟩
        cases hflag : info.resetRetryTimes with
        | false => simp [DownloadInfo.updateDownloadInfo, hflag]
        | true => exact absurd ⟨i, th₀, hth₀, by rw [hid, hinfo, hid₀], by rw [← hreset₀, ← hreset, hflag]⟩ hres
    obtain ⟨d, hd, hr⟩ := hsame d' hd'
    exact ⟨d, hd, .inl hr⟩

theorem resume_count {netType : NetType} (hd' : (s.resume netType).2.infoMap.find? id = some d') :
    ∃ d, s.infoMap.find? id = some d ∧ (d'.retryTimes = d.retryTimes ∨ d'.retryTimes = 0) := by
  have hnet : ∀ s : ServiceState, SameCount id s (s.updateDownloadNetType netType) := by
    refine fun s => .forEachInfo fun s d => ?_
    split
    · exact .of_eq rfl
    intro d' hd'
    rw [exec_toDownloadService, find?_modifyInfo] at hd'
    obtain ⟨d₀, hd₀, rfl⟩ := Option.map_eq_some_iff.1 hd'
    refine ⟨d₀, hd₀, ?_⟩
    split <;> rfl
  have hsame : ∀ s', SameCount id s s' → s'.infoMap.find? id = some d' →
      ∃ d, s.infoMap.find? id = some d ∧ (d'.retryTimes = d.retryTimes ∨ d'.retryTimes = 0) := by
    intro s' h hd'
    obtain ⟨d, hd, hr⟩ := h d' hd'
    exact ⟨d, hd, .inl hr⟩
  unfold resume at hd'
  split at hd'
  · exact hsame s (.of_eq rfl) hd'
  have h₁ : SameCount id s (updateDownloadNetType netType { s with isStopCallback := false }) :=
    .trans (.of_eq rfl) (hnet _)
  dsimp only at hd'
  split at hd'
  · exact hsame _ h₁ hd'
  refine forEachInfo_induction
    (P := fun s' => ∀ d' : DownloadInfo, s'.infoMap.find? id = some d' →
      ∃ d, s.infoMap.find? id = some d ∧ (d'.retryTimes = d.retryTimes ∨ d'.retryTimes = 0))
    (fun d' hd' => ?_) (fun s' d h hd d' hd' => ?_) d' hd'
  · obtain ⟨d, hd, hr⟩ := h₁ d' hd'
    exact ⟨d, hd, .inl hr⟩
  · unfold resumeInfo at hd'
    split at hd'
    · exact h d' hd'
    split at hd'
    · exact h d' hd'
    change (s'.modifyInfo _ _ DownloadInfo.resumed_downloadId).infoMap.find? id = some d' at hd'
    rw [find?_modifyInfo] at hd'
    obtain ⟨d₀, hd₀, rfl⟩ := Option.map_eq_some_iff.1 hd'
    obtain ⟨d, hd, hr⟩ := h d₀ hd₀
    refine ⟨d, hd, ?_⟩
    split
    · exact .inr rfl
    · exact hr

theorem retriesOf_report {i : Nat} {r : ThreadReport} {threads : List DownloadThread}
    (h : s'.threads = s.threads ++ threads) :
    retriesOf id s (.report i r) s' = threads.countP fun th => th.downloadId = id := by
  unfold retriesOf starts
  rw [h, List.countP_append, Nat.add_sub_cancel_left]

/-- One step starts at most one retry of a download, below the bound, and counts it. -/
theorem step_retries (h : s.step op s') : retriesOf id s op s' = 0 ∨
    retriesOf id s op s' = 1 ∧ ∃ d d', s.infoMap.find? id = some d ∧ d.retryTimes < 3 ∧
      s'.infoMap.find? id = some d' ∧ d'.retryTimes = d.retryTimes + 1 := by
  cases op with
  | report i r =>
    obtain ⟨th, -, -, rfl⟩ := h
    obtain ⟨hth, -⟩ | ⟨d, th', hd, hr, hid, hth, hfind⟩ := callback_cases r.info s
    · exact .inl (retriesOf_report (hth.trans (List.append_nil _).symm))
    rw [retriesOf_report hth]
    by_cases hk : r.info.downloadId = id
    · subst hk
      refine .inr ⟨by simp [hid], d, d.countRetry.switchUrl r.info.endReason, hd, ?_, ?_, switchUrl_retryTimes⟩
      · have hable : d.isRetryAble = true := by
          simp only [retries, Bool.and_eq_true] at hr
          exact hr.2
        simpa [DownloadInfo.isRetryAble] using hable
      · rw [hfind, hd, Option.map_some, if_pos rfl]
    · exact .inl (by simp [hid, hk])
  | _ => exact .inl rfl

theorem step_count (h : s.step op s') (hd' : s'.infoMap.find? id = some d') : ∃ d, s.infoMap.find? id = some d ∧
    (d'.retryTimes = d.retryTimes + retriesOf id s op s' ∨ Resets id s op ∧ d'.retryTimes = 0) := by
  have hsame : retriesOf id s op s' = 0 → SameCount id s s' → ∃ d, s.infoMap.find? id = some d ∧
      (d'.retryTimes = d.retryTimes + retriesOf id s op s' ∨ Resets id s op ∧ d'.retryTimes = 0) := by
    intro h0 h
    obtain ⟨d, hd, hr⟩ := h d' hd'
    exact ⟨d, hd, .inl (by simp [h0, hr])⟩
  cases op with
  | start => obtain rfl := h; exact hsame rfl (.start _)
  | pause ended => obtain rfl := h; exact hsame rfl (.pause ended)
  | resume netType =>
    obtain rfl := h
    obtain ⟨d, hd, hr⟩ := resume_count hd'
    exact ⟨d, hd, hr.imp (fun h => by simpa [retriesOf] using h) fun h => ⟨trivial, h⟩⟩
  | netChangeToPause =>
    obtain rfl := h
    obtain ⟨d, hd, hr⟩ := netChangeToPause_count hd'
    exact ⟨d, hd, hr.imp_left fun h => by simpa [retriesOf] using h⟩
  | netChangeToStart => obtain rfl := h; exact hsame rfl .netChangeToStart
  | recover => obtain rfl := h; exact hsame rfl .recover
  | thread i th => obtain ⟨th₀, -, -, rfl⟩ := h; exact hsame rfl (.of_eq rfl)
  | outside fileSize now netType => obtain rfl := h; exact hsame rfl (.of_eq rfl)
  | report i r =>
    obtain ⟨th, -, -, rfl⟩ := h
    obtain ⟨hth, hfind⟩ | ⟨d, th', hd, hr, hid, hth, hfind⟩ := callback_cases r.info s
    · rw [retriesOf_report (hth.trans (List.append_nil _).symm)]
      obtain ⟨d, hd, rfl | ⟨hid, rfl⟩⟩ := hfind id d' hd'
      · exact ⟨d', hd, .inl (by simp)⟩
      · refine ⟨d, hd, ?_⟩
        cases hflag : r.info.resetRetryTimes with
        | false => exact .inl (by simp [DownloadInfo.updateDownloadInfo, hflag])
        | true => exact .inr ⟨⟨hid.symm, hflag⟩, by simp [DownloadInfo.updateDownloadInfo, hflag]⟩
    · rw [retriesOf_report hth]
      rw [hfind] at hd'
      obtain ⟨d₀, hd₀, rfl⟩ := Option.map_eq_some_iff.1 hd'
      refine ⟨d₀, hd₀, .inl ?_⟩
      by_cases hk : id = r.info.downloadId
      · rw [if_pos hk, switchUrl_retryTimes]
        simp [hid, hk]
      · rw [if_neg hk]
        have hne : r.info.downloadId ≠ id := fun h => hk h.symm
        simp [hid, hne]

/-! ### Runs -/

theorem bounded_preserved : lts.Preserved Bounded := by
  intro s op s' h hs id d' hd'
  obtain ⟨d, hd, hr⟩ := step_count h hd'
  obtain ⟨h₀, h₃⟩ := hs id d hd
  obtain hret | ⟨hret, d₁, d₂, hd₁, hlt, -, -⟩ := (step_retries h : retriesOf id s op s' = 0 ∨ _)
  · rcases hr with hr | ⟨-, hr⟩ <;> omega
  · obtain rfl := Option.some.inj (hd.symm.trans hd₁)
    rcases hr with hr | ⟨-, hr⟩ <;> omega

/-- Without a reset the counter has at least the retries that were started. -/
def Counted (id : String) (x : ServiceState × Nat) : Prop :=
  x.2 ≤ 3 ∧ ∀ d, x.1.infoMap.find? id = some d → (x.2 : Int) ≤ d.retryTimes

theorem counted_preserved : ((lts.guard fun s op => ¬ Resets id s op).tally (retriesOf id)).Preserved (Counted id) := by
  rintro ⟨s, n⟩ op ⟨s', n'⟩ ⟨⟨hreset, h⟩, hn⟩ ⟨h₃, hle⟩
  simp only at hn h₃ hle hreset h
  have hcount : ∀ d', s'.infoMap.find? id = some d' →
      ∃ d, s.infoMap.find? id = some d ∧ d'.retryTimes = d.retryTimes + retriesOf id s op s' := by
    intro d' hd'
    obtain ⟨d, hd, hr⟩ := step_count h hd'
    exact ⟨d, hd, hr.resolve_right fun hr => hreset hr.1⟩
  refine ⟨?_, fun d' hd' => ?_⟩
  · obtain hret | ⟨hret, d, -, hd, hlt, -⟩ := (step_retries h : retriesOf id s op s' = 0 ∨ _)
    · simp only [hn, hret]; omega
    · have := hle d hd
      simp only [hn, hret]; omega
  · obtain ⟨d, hd, hr⟩ := hcount d' hd'
    have := hle d hd
    simp only [hn, hr]; omega

def failReport (downloadId : String) (endReason : DownloadEndReason) : ThreadReport :=
  ⟨{ downloadId, status := .fail, endReason }, rfl⟩

def pausedEarly : ServiceState := ((twoPackages.start {}).2.pause fun _ => false).2

theorem bounded_twoPackages : twoPackages.Bounded := by
  intro id d hd
  have hall : ∀ d ∈ twoPackages.infoMap.entries, 0 ≤ d.retryTimes ∧ d.retryTimes ≤ 3 := by decide
  exact hall d (KeyedList.mem_of_find? hd)

end ServiceState
end UpdateService
