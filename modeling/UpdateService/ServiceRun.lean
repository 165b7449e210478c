import UpdateService.DownloadService
import UpdateService.Lib.Lts

/-!
# Runs of a `DownloadService`

What the sections and loops of the service can do, said once (`updateDownloadProgress_cases`,
`forEachInfo_induction`, the lookups after each section), and the labelled system
`ServiceState.lts` of its operations, the reports of its threads and the steps of the threads and
of the outside in between.
-/

namespace UpdateService
namespace ServiceState
variable {s s' : ServiceState} {d : DownloadInfo} {info : DownloadCallbackInfo} {op : DbOp} {k id : String}
  {f : DownloadInfo → DownloadInfo}

@[simp] theorem exec_toDownloadService : (s.exec op).toDownloadService = s.toDownloadService := rfl

@[simp] theorem exec_table : (s.exec op).table = op.apply s.table := rfl

@[simp] theorem callbackDownloadProgress_toDownloadService :
    (s.callbackDownloadProgress info).toDownloadService = s.toDownloadService := by
  unfold callbackDownloadProgress; split <;> rfl

@[simp] theorem callbackDownloadProgress_table : (s.callbackDownloadProgress info).table = s.table := by
  unfold callbackDownloadProgress; split <;> rfl

theorem find?_modifyInfo (hf : ∀ d, (f d).downloadId = d.downloadId) : (s.modifyInfo k f hf).infoMap.find? id =
    (s.infoMap.find? id).map fun d => if id = k then f d else d := by
  simp only [modifyInfo, KeyedList.find?_modify]

theorem find?_modifyInfo_self (hf : ∀ d, (f d).downloadId = d.downloadId) (h : s.infoMap.find? k = some d) :
    (s.modifyInfo k f hf).infoMap.find? k = some (f d) := by
  simp only [find?_modifyInfo, h, Option.map_some, if_true]

theorem find?_modifyInfo_ne (hf : ∀ d, (f d).downloadId = d.downloadId) (h : id ≠ k) :
    (s.modifyInfo k f hf).infoMap.find? id = s.infoMap.find? id := by
  simp only [find?_modifyInfo, h, if_false, Option.map_id']

theorem downloadId_of_find? (h : s.infoMap.find? id = some d) : d.downloadId = id := KeyedList.key_of_find? h

/-- A report that is dropped leaves the state as it is, the others write the record and, unless they
cancel, its row. -/
theorem updateDownloadInfo_cases (info : DownloadCallbackInfo) (s : ServiceState) :
    ((s.infoMap.find? info.downloadId = none ∨ info.status = .downloading ∧ s.isStopCallback = true) ∧
      s.updateDownloadInfo info = s) ∨
    ∃ d, s.infoMap.find? info.downloadId = some d ∧ ¬ (info.status = .downloading ∧ s.isStopCallback = true) ∧
      (s.updateDownloadInfo info).toDownloadService =
        (s.modifyInfo info.downloadId (·.updateDownloadInfo info)
          (DownloadInfo.updateDownloadInfo_downloadId info)).toDownloadService ∧
      (s.updateDownloadInfo info).table = if info.status = .cancel then s.table else
        DownloadInfoOperator.updateById .progress (d.updateDownloadInfo info) s.table := by
  unfold updateDownloadInfo
  cases h : s.infoMap.find? info.downloadId with
  | none => exact .inl ⟨.inl rfl, rfl⟩
  | some d =>
    by_cases hdrop : info.status = .downloading ∧ s.isStopCallback = true
    · exact .inl ⟨.inr hdrop, if_pos hdrop⟩
    · refine .inr ⟨d, rfl, hdrop, ?_⟩
      simp only [if_neg hdrop]
      by_cases hc : info.status = .cancel
      · rw [if_neg (not_not.2 hc), if_pos hc]; exact ⟨rfl, rfl⟩
      · rw [if_pos hc, if_neg hc]; exact ⟨rfl, rfl⟩

theorem finishReport_service : (s.finishReport info).threads = s.threads ∧
    (s.finishReport info).threadMap = s.threadMap ∧ (s.finishReport info).isStopCallback = s.isStopCallback := by
  rw [finishReport, callbackDownloadProgress_toDownloadService]
  obtain ⟨-, he⟩ | ⟨d, -, -, he, -⟩ := updateDownloadInfo_cases info s <;> rw [he] <;> exact ⟨rfl, rfl, rfl⟩

theorem handleRetry_eq (endReason : DownloadEndReason) (h : s.infoMap.find? id = some d) :
    ∃ s₁ : ServiceState, s.handleRetry id endReason = (.success, s₁.startDownloadThread (d.countRetry.switchUrl endReason)) ∧
      s₁.toDownloadService =
        (s.modifyInfo id (fun d => d.countRetry.switchUrl endReason)
          (fun d => DownloadInfo.switchUrl_downloadId endReason d.countRetry)).toDownloadService ∧
      s₁.table = DownloadInfoOperator.updateById .retryTimes d.countRetry s.table := by
  unfold handleRetry
  simp only [h]
  refine ⟨_, rfl, ?_, rfl⟩
  exact congrArg (fun m => { s.toDownloadService with infoMap := m }) 
    (KeyedList.modify_modify DownloadInfo.countRetry_downloadId (DownloadInfo.switchUrl_downloadId endReason))

def retries (info : DownloadCallbackInfo) (d : DownloadInfo) : Bool :=
  info.status = .fail && info.endReason ≠ .ioException && info.endReason ≠ .verifyFail && d.isRetryAble

theorem retries_eq_true : retries info d = true ↔
    info.status = .fail ∧ info.endReason ≠ .ioException ∧ info.endReason ≠ .verifyFail ∧ d.isRetryAble = true := by
  simp only [retries, Bool.and_eq_true, decide_eq_true_eq]
  tauto

/-- The states that differ at most in `threadMap_`, in the files and in what has been passed on. -/
structure SameRecords (s s' : ServiceState) : Prop where
  taskId : s'.taskId = s.taskId
  infoMap : s'.infoMap = s.infoMap
  threads : s'.threads = s.threads
  isStopCallback : s'.isStopCallback = s.isStopCallback
  table : s'.table = s.table

/-- What is left of `s` when the thread of an ending report is removed. -/
structure Released (info : DownloadCallbackInfo) (s s' : ServiceState) : Prop extends SameRecords s s' where
  now : s'.now = s.now
  threadMap : s'.threadMap = if info.status.isOngoing then s.threadMap else s.threadMap.erase info.downloadId

namespace Released

theorem release (info : DownloadCallbackInfo) (s : ServiceState) :
    Released info s (if info.status ≠ .downloading ∧
    info.status ≠ .verifying then s.removeThread info.downloadId else s) := by
  have hongoing : (if info.status ≠ .downloading ∧ info.status ≠ .verifying then s.removeThread info.downloadId else s) =
      if info.status.isOngoing then s else s.removeThread info.downloadId := by
    cases info.status <;> rfl
  rw [hongoing]
  refine ⟨?_, ?_, ?_⟩
  · split <;> exact ⟨rfl, rfl, rfl, rfl, rfl⟩
  · split <;> rfl
  · split <;> rfl

theorem clearPackage (h : Released info s s') (path : String) : Released info s (s'.clearPackage path) :=
  ⟨⟨h.taskId, h.infoMap, h.threads, h.isStopCallback, h.table⟩, h.now, h.threadMap⟩

theorem find?_mono (h : Released info s s') {e : String × Nat} (he : s'.threadMap.find? id = some e) :
    s.threadMap.find? id = some e := by
  rw [h.threadMap] at he
  split at he
  · exact he
  rw [KeyedList.find?_erase] at he
  split at he
  · cases he
  · exact he

theorem find?_ongoing (h : Released info s s') (hongoing : info.status.isOngoing = true) :
    s'.threadMap.find? id = s.threadMap.find? id := by
  rw [h.threadMap, if_pos hongoing]

theorem find?_self (h : Released info s s') (hend : info.status.isOngoing = false) :
    s'.threadMap.find? info.downloadId = none := by
  rw [h.threadMap, hend, if_neg Bool.false_ne_true, KeyedList.find?_erase, if_pos rfl]

theorem find?_ne (h : Released info s s') (hne : id ≠ info.downloadId) :
    s'.threadMap.find? id = s.threadMap.find? id := by
  rw [h.threadMap]
  split
  · rfl
  · exact KeyedList.find?_erase.trans (if_neg hne)

end Released

/-- The thread of an ending report is removed, and what follows depends on the failure. -/
theorem updateDownloadProgress_cases (info : DownloadCallbackInfo) (s : ServiceState) :
    ∃ s₀, Released info s s₀ ∧
      ((∀ d, s.infoMap.find? info.downloadId = some d → retries info d = false) ∧
          s.updateDownloadProgress info = s₀.finishReport info ∨
        info.status = .fail ∧ s.infoMap.find? info.downloadId = none ∧ s.updateDownloadProgress info = s₀ ∨
        ∃ d, s.infoMap.find? info.downloadId = some d ∧ retries info d = true ∧
          s.updateDownloadProgress info = (s₀.handleRetry info.downloadId info.endReason).2) := by
  unfold updateDownloadProgress
  have hreleased := Released.release info s
  generalize (if info.status ≠ .downloading ∧ info.status ≠ .verifying then s.removeThread info.downloadId else s) = s₁
    at hreleased
  by_cases hfail : info.status = .fail
  · rw [if_neg (not_not.2 hfail), ← hreleased.infoMap]
    cases hd : s₁.infoMap.find? info.downloadId with
    | none => exact ⟨s₁, hreleased, .inr (.inl ⟨hfail, rfl, rfl⟩)⟩
    | some d =>
      by_cases hio : info.endReason = .ioException ∨ info.endReason = .verifyFail
      · refine ⟨s₁.clearPackage d.path, hreleased.clearPackage d.path, .inl ⟨fun d' _ => ?_, if_pos hio⟩⟩
        rcases hio with h | h <;> simp [retries, h]
      simp only [if_neg hio]
      cases hr : d.isRetryAble with
      | false =>
        refine ⟨s₁, hreleased, .inl ⟨fun d' hd' => ?_, rfl⟩⟩
        simp [retries, ← Option.some.inj hd', hr]
      | true =>
        refine ⟨s₁, hreleased, .inr (.inr ⟨d, rfl, ?_, ?_⟩)⟩
        · simpa [retries, hfail, hr] using hio
        · simp [handleRetry, hd]
  · rw [if_pos hfail]
    exact ⟨s₁, hreleased, .inl ⟨fun d _ => by simp [retries, hfail], rfl⟩⟩

theorem status_of_retries (h : retries info d = true) : info.status = .fail := (retries_eq_true.1 h).1

/-- A report without failure changes no thread object and no record but that of its download. -/
theorem callbackUpdateDownloadProgress_of_ne_fail (s : ServiceState) (h : info.status ≠ .fail) :
    (s.callbackUpdateDownloadProgress info).threads = s.threads ∧
    (s.callbackUpdateDownloadProgress info).isStopCallback = s.isStopCallback ∧
    ∀ id d', (s.callbackUpdateDownloadProgress info).infoMap.find? id = some d' →
      s.infoMap.find? id = some d' ∨
        ∃ d, id = info.downloadId ∧ s.infoMap.find? id = some d ∧ d' = d.updateDownloadInfo info := by
  unfold callbackUpdateDownloadProgress
  split
  · exact ⟨rfl, rfl, fun _ _ hd => .inl hd⟩
  obtain ⟨s₀, hsame, ⟨-, he⟩ | ⟨hf, -⟩ | ⟨d, -, hr, -⟩⟩ := updateDownloadProgress_cases info s
  · rw [he, finishReport, callbackDownloadProgress_toDownloadService]
    rcases updateDownloadInfo_cases info s₀ with ⟨-, hu⟩ | ⟨d, hd, -, hu, -⟩ <;> rw [hu]
    · exact ⟨hsame.threads, hsame.isStopCallback, fun id d' hd' => .inl (hsame.infoMap ▸ hd')⟩
    · refine ⟨hsame.threads, hsame.isStopCallback, fun id d' hd' => ?_⟩
      by_cases hid : id = info.downloadId
      · subst hid
        rw [find?_modifyInfo_self _ hd] at hd'
        exact .inr ⟨d, rfl, hsame.infoMap ▸ hd, (Option.some.inj hd').symm⟩
      · rw [find?_modifyInfo_ne _ hid] at hd'
        exact .inl (hsame.infoMap ▸ hd')
  · exact absurd hf h
  · exact absurd (status_of_retries hr) h

/-- What holds of a state and is kept by every round holds after the loop. -/
theorem forEachInfo_induction {P : ServiceState → Prop} {f : DownloadInfo → ServiceState → ServiceState} (h : P s)
    (hf : ∀ s d, P s → s.infoMap.find? d.downloadId = some d → P (f d s)) : P (s.forEachInfo f) := by
  unfold forEachInfo
  generalize s.infoMap.keys = ids
  induction ids generalizing s with
  | nil => exact h
  | cons id ids ih =>
    rw [List.foldl_cons]
    refine ih ?_
    cases hd : s.infoMap.find? id with
    | none => exact h
    | some d =>
      obtain rfl := downloadId_of_find? hd
      exact hf s d h hd

/-! ### Thread objects -/

def starts (id : String) (s : ServiceState) : Nat := s.threads.countP fun th => th.downloadId = id

theorem map_downloadId_set {threads : List DownloadThread} {i : Nat} {th th' : DownloadThread}
    (h : threads[i]? = some th) (hid : th'.downloadId = th.downloadId) :
    (threads.set i th').map DownloadThread.downloadId = threads.map DownloadThread.downloadId := by
  obtain ⟨hi, rfl⟩ := List.getElem?_eq_some_iff.1 h
  rw [List.map_set, hid, ← List.getElem_map DownloadThread.downloadId (h := by simpa using hi), List.set_getElem_self]

theorem map_downloadId_stopThreads (ended : Nat → Bool) :
    (s.stopThreads ended).threads.map DownloadThread.downloadId = s.threads.map DownloadThread.downloadId := by
  refine List.ext_getElem (by simp [stopThreads]) fun i h₁ h₂ => ?_
  simp only [stopThreads, List.getElem_map, List.getElem_mapIdx]
  split <;> rfl

theorem getElem?_startDownloadThread {i : Nat} {th : DownloadThread} :
    (s.startDownloadThread d).threads[i]? = some th ↔
      s.threads[i]? = some th ∨ i = s.threads.length ∧ th = .ofInfo d (s.fileSize d.path) s.now := by
  rw [startDownloadThread, List.getElem?_append]
  split
  · rename_i hi
    simp [Nat.ne_of_lt hi]
  · rename_i hi
    rw [List.getElem?_eq_none (Nat.le_of_not_lt hi), List.getElem?_singleton]
    split
    · rename_i h0
      have : i = s.threads.length := by omega
      simp [this, eq_comm]
    · rename_i h0
      have : i ≠ s.threads.length := by omega
      simp [this]

theorem hasThread_startDownloadThread :
    (s.startDownloadThread d).hasThread id = (decide (id = d.downloadId) || s.hasThread id) := by
  unfold startDownloadThread hasThread
  rw [KeyedList.find?_insert]
  by_cases h : id = d.downloadId <;> simp [h]

/-- One round of `NetChangeToPause` marks a thread, which then reports at most that it pauses. -/
theorem pauseThread_cases (i : Nat) (s : ServiceState) :
    s.pauseThread i = s ∨
    ∃ th th', s.threads[i]? = some th ∧ th'.downloadId = th.downloadId ∧ th'.phase = th.phase ∧
      th'.status = th.status ∧ th'.callbackInfo.resetRetryTimes = th.callbackInfo.resetRetryTimes ∧
      (s.pauseThread i = { s with threads := s.threads.set i th' } ∨
        ∃ info, th.status = .init ∧ info.downloadId = th.downloadId ∧ info.status = .autoPause ∧
          info.resetRetryTimes = th.callbackInfo.resetRetryTimes ∧
          s.pauseThread i = callbackUpdateDownloadProgress info { s with threads := s.threads.set i th' }) := by
  unfold pauseThread
  cases hth : s.threads[i]? with
  | none => exact .inl rfl
  | some th =>
    obtain ⟨hid, hph, hst, hrt⟩ := th.netChangeToPause_fst s.now
    refine .inr ⟨th, _, rfl, hid, hph, hst, hrt, ?_⟩
    dsimp only
    cases hr : (th.netChangeToPause s.now).2 with
    | none => exact .inl rfl
    | some info =>
      obtain ⟨h₁, h₂, h₃, h₄⟩ := DownloadThread.netChangeToPause_snd hr
      exact .inr ⟨info, h₁, h₂, h₃, h₄, rfl⟩

/-- What holds between the state before `NetChangeToPause` and the state after some of its rounds. -/
structure Pausing (s s' : ServiceState) : Prop where
  isStopCallback : s'.isStopCallback = s.isStopCallback
  thread : ∀ (i : Nat) (th' : DownloadThread), s'.threads[i]? = some th' →
    ∃ th : DownloadThread, s.threads[i]? = some th ∧ th'.downloadId = th.downloadId ∧ th'.phase = th.phase ∧
      th'.status = th.status ∧ th'.callbackInfo.resetRetryTimes = th.callbackInfo.resetRetryTimes
  info : ∀ id d', s'.infoMap.find? id = some d' → ∃ d, s.infoMap.find? id = some d ∧
    (d'.status = d.status ∨ d'.status = .autoPause) ∧ (d'.retryTimes = d.retryTimes ∨ d'.retryTimes = 0)

theorem Pausing.pauseThread (h : Pausing s s') (i : Nat) : Pausing s (s'.pauseThread i) := by
  obtain he | ⟨th, th', hth, hid, hph, hst, hrt, hcases⟩ := pauseThread_cases i s'
  · rw [he]; exact h
  obtain ⟨th₀, hth₀, hid₀, hph₀, hst₀, hrt₀⟩ := h.thread i th hth
  have h₁ : Pausing s { s' with threads := s'.threads.set i th' } := by
    refine ⟨h.isStopCallback, fun j thj hj => ?_, h.info⟩
    by_cases hij : i = j
    · subst hij
      rw [List.getElem?_set_self (List.getElem?_eq_some_iff.1 hth).1] at hj
      obtain rfl := Option.some.inj hj
      exact ⟨th₀, hth₀, hid.trans hid₀, hph.trans hph₀, hst.trans hst₀, hrt.trans hrt₀⟩
    · rw [List.getElem?_set_ne hij] at hj
      exact h.thread j thj hj
  obtain he | ⟨info, -, -, hauto, -, he⟩ := hcases <;> rw [he]
  · exact h₁
  have hne : info.status ≠ .fail := by rw [hauto]; decide
  obtain ⟨hthreads, hflag, hfind⟩ := callbackUpdateDownloadProgress_of_ne_fail
    { s' with threads := s'.threads.set i th' } hne
  refine ⟨hflag.trans h₁.isStopCallback, by rw [hthreads]; exact h₁.thread, fun id d' hd' => ?_⟩
  obtain hd | ⟨d, -, hd, rfl⟩ := hfind id d' hd'
  · exact h.info id d' hd
  · obtain ⟨d₀, hd₀, -, hr₀⟩ := h.info id d hd
    refine ⟨d₀, hd₀, .inr hauto, ?_⟩
    cases hreset : info.resetRetryTimes with
    | true => exact .inr (by simp [DownloadInfo.updateDownloadInfo, hreset])
    | false => simpa [DownloadInfo.updateDownloadInfo, hreset] using hr₀

theorem netChangeToPause_induction {P : ServiceState → Prop} (h : P s)
    (hstep : ∀ s', ∀ i ∈ s.registered, Pausing s s' → P s' → P (s'.pauseThread i)) : P s.netChangeToPause := by
  have h₀ : Pausing s s :=
    ⟨rfl, fun i th hth => ⟨th, hth, rfl, rfl, rfl, rfl⟩, fun id d hd => ⟨d, hd, .inl rfl, .inl rfl⟩⟩
  have hfold : Pausing s s.netChangeToPause ∧ P s.netChangeToPause :=
    List.foldlRecOn (motive := fun s' => Pausing s s' ∧ P s') s.registered _ ⟨h₀, h⟩
      fun s' ⟨hp, hP⟩ i hi => ⟨hp.pauseThread i, hstep s' i hi hp hP⟩
  exact hfold.2

end ServiceState

/-- A step of a service that no other step interrupts. -/
inductive ServiceOp
  | start
  | pause (ended : Nat → Bool)
  | resume (netType : NetType)
  | netChangeToPause
  | netChangeToStart
  | recover
  /-- A report of the thread at a position. -/
  | report (i : Nat) (r : ThreadReport)
  /-- Anything else that this thread does to its own members. -/
  | thread (i : Nat) (th : DownloadThread)
  /-- Files, clock and network as the other steps find them. -/
  | outside (fileSize : String → Int) (now : Int) (netType : NetType)

namespace ServiceState

def step (s : ServiceState) : ServiceOp → ServiceState → Prop
  | .start, s' => s' = (s.start {}).2
  | .pause ended, s' => s' = (s.pause ended).2
  | .resume netType, s' => s' = (s.resume netType).2
  | .netChangeToPause, s' => s' = s.netChangeToPause
  | .netChangeToStart, s' => s' = s.netChangeToStart
  | .recover, s' => s' = s.recover
  | .report i r, s' => ∃ th, s.threads[i]? = some th ∧ r.info.downloadId = th.downloadId ∧
      s' = s.callbackUpdateDownloadProgress r.info
  | .thread i th, s' => ∃ th₀, s.threads[i]? = some th₀ ∧ th.downloadInfo = th₀.downloadInfo ∧
      s' = { s with threads := s.threads.set i th }
  | .outside fileSize now netType, s' => s' = { s with fileSize, now, netType }

def lts : Lts ServiceState ServiceOp := ⟨step⟩

/-! ### A service to try things on -/

def samplePackage (versionId : String) : DownloadInfo where
  downloadId := versionId
  versionId := versionId
  taskId := "70c67caecd7f4976756e7f51786238ee9191447a24a0da82d35f26230ab68cd5"
  url := "https://update/" ++ versionId
  path := "/data/update/" ++ versionId
  packageSize := 100
  isNeedAutoResume := true

def twoPackages : ServiceState where
  taskId := "70c67caecd7f4976756e7f51786238ee9191447a24a0da82d35f26230ab68cd5"
  infoMap := .ofList [samplePackage "v1", samplePackage "v2"]
  netType := .wifi

/-- The last report of a thread that has downloaded and verified its package. -/
def successReport (downloadId : String) : ThreadReport :=
  ⟨{ downloadId, downloadedSize := 100, verifiedSize := 100, status := .success, endReason := .success }, rfl⟩

end ServiceState

end UpdateService
