import UpdateService.ServiceRun

/-!
# The rows of a service's downloads agree with its records

`Agrees`: every row of the task agrees with the record of its download, and every download for which
a thread has been started has a row. `Agrees.modify` is the one argument behind all steps: a change
of a record together with the statement that writes the same columns. The steps that change a record
and do not write it (`WritesThrough`) are `Resume`, which sets the status and the retry count, a
report that resets the retry count, and a retry that swaps the urls.
-/

namespace UpdateService

structure RowAgrees (d : DownloadInfo) (row : DownloadRow) : Prop where
  status : row.status = d.status.toInt
  endReason : row.endReason = d.endReason.toInt
  downloadedSize : row.downloadedSize = d.downloadedSize
  verifiedSize : row.verifiedSize = d.verifiedSize
  netType : row.netType = d.netType.toInt
  retryTimes : row.retryTimes = d.retryTimes
  url : row.url = d.url
  reserveUrl : row.reserveUrl = d.reserveUrl
  startTime : row.startTime = d.startTime
  endTime : row.endTime = d.endTime
  effectiveTime : row.effectiveTime = d.effectiveTime

namespace ServiceState
variable {s s' : ServiceState} {d : DownloadInfo} {info : DownloadCallbackInfo} {id : String}

def netTypeRound (netType : NetType) (d : DownloadInfo) (s : ServiceState) : ServiceState :=
  (s.modifyInfo d.downloadId (·.withNetType netType) (DownloadInfo.withNetType_downloadId netType)).exec
    (.update .netType (d.withNetType netType))

def HasRow (s : ServiceState) (id : String) : Prop :=
  (s.taskId, id) ∈ s.table.map DownloadRow.key

structure Agrees (s : ServiceState) : Prop where
  owner : ∀ id d, s.infoMap.find? id = some d → d.taskId = s.taskId
  rows : ∀ row ∈ s.table, row.taskId = s.taskId → ∀ d, s.infoMap.find? row.downloadId = some d → RowAgrees d row
  stored : ∀ id ∈ s.threads.map DownloadThread.downloadId, s.HasRow id

/-- What a report of a thread must meet for its record to stay written. -/
def ReportWritten (s : ServiceState) (info : DownloadCallbackInfo) : Prop :=
  ∀ d, s.infoMap.find? info.downloadId = some d →
    if retries info d then info.endReason = .redirect ∨ info.endReason = .sizeError → d.reserveUrl = d.url
    else info.resetRetryTimes = true → d.retryTimes = 0

def AutoStartsStored (s : ServiceState) : Prop :=
  ∀ d, s.infoMap.find? d.downloadId = some d → d.status = .autoPause → d.isNeedAutoResume = true →
    s.hasThread d.downloadId = false → s.HasRow d.downloadId

def PausesWritten (s : ServiceState) : Prop :=
  ∀ i ∈ s.registered, ∀ th, s.threads[i]? = some th → th.status = .init →
    th.callbackInfo.resetRetryTimes = true → ∀ d, s.infoMap.find? th.downloadId = some d → d.retryTimes = 0

/-- Every download that `Resume` starts again has a row, and starting it changes nothing in its
record. -/
def RestartsAgree (s : ServiceState) : Prop :=
  ∀ d, s.infoMap.find? d.downloadId = some d → s.hasThread d.downloadId = false → d.isCompleted = false →
    d.isPaused = false ∧ d.retryTimes = 0 ∧ s.HasRow d.downloadId

namespace Agrees

theorem init (howner : ∀ id d, s.infoMap.find? id = some d → d.taskId = s.taskId) (hthreads : s.threads = [])
    (hrows : ∀ row ∈ s.table, row.taskId ≠ s.taskId) : Agrees s :=
  ⟨howner, fun row hrow ht => absurd ht (hrows row hrow), by simp [hthreads]⟩

theorem of_eq (h : Agrees s) (htask : s'.taskId = s.taskId) (hinfo : s'.infoMap = s.infoMap)
    (hthreads : s'.threads.map DownloadThread.downloadId = s.threads.map DownloadThread.downloadId)
    (htable : s'.table = s.table) : Agrees s' := by
  refine ⟨?_, ?_, ?_⟩
  · rw [htask, hinfo]; exact h.owner
  · rw [htask, hinfo, htable]; exact h.rows
  · unfold HasRow; rw [htask, hthreads, htable]; exact h.stored

theorem of_sameRecords (h : Agrees s) (hs : SameRecords s s') : Agrees s' :=
  h.of_eq hs.taskId hs.infoMap (by rw [hs.threads]) hs.table

theorem modify (h : Agrees s) (hd : s.infoMap.find? id = some d) {f : DownloadInfo → DownloadInfo}
    {hf : ∀ d, (f d).downloadId = d.downloadId} {g : DownloadRow → DownloadRow}
    (hftask : (f d).taskId = d.taskId) (hgtask : ∀ row, (g row).taskId = row.taskId)
    (hgid : ∀ row, (g row).downloadId = row.downloadId) (hrow : ∀ row, RowAgrees d row → RowAgrees (f d) (g row))
    (hs : s'.toDownloadService = (s.modifyInfo id f hf).toDownloadService)
    (ht : s'.table = s.table.updateWhere (fun row => row.downloadId = id) g) : Agrees s' := by
  have htask : s'.taskId = s.taskId := (congrArg DownloadService.taskId hs :)
  have hinfo : s'.infoMap = (s.modifyInfo id f hf).infoMap := congrArg DownloadService.infoMap hs
  have hthreads : s'.threads = s.threads := (congrArg DownloadService.threads hs :)
  refine ⟨fun id' d' hd' => ?_, fun row hr htr d' hd' => ?_, fun id' hid' => ?_⟩
  · rw [hinfo] at hd'
    by_cases hid : id' = id
    · subst hid
      rw [find?_modifyInfo_self _ hd] at hd'
      rw [← Option.some.inj hd', htask, hftask]
      exact h.owner _ d hd
    · rw [find?_modifyInfo_ne _ hid] at hd'
      rw [htask]; exact h.owner _ d' hd'
  · rw [ht, List.mem_updateWhere] at hr
    obtain ⟨row₀, hr₀, rfl⟩ := hr
    simp only [decide_eq_true_eq] at htr hd' ⊢
    rw [hinfo] at hd'
    split at hd' <;> rename_i hid
    · simp only [if_pos hid] at htr ⊢
      rw [hgid, hid, find?_modifyInfo_self _ hd] at hd'
      rw [hgtask, htask] at htr
      exact Option.some.inj hd' ▸ hrow row₀ (h.rows row₀ hr₀ htr d (hid ▸ hd))
    · simp only [if_neg hid] at htr ⊢
      rw [find?_modifyInfo_ne _ hid] at hd'
      exact h.rows row₀ hr₀ (htr.trans htask) d' hd'
  · unfold HasRow
    rw [htask, ht, List.map_updateWhere fun row => by rw [DownloadRow.key, hgtask, hgid, DownloadRow.key]]
    exact h.stored id' (hthreads ▸ hid')

theorem insert (h : Agrees s) (hd : s.infoMap.find? d.downloadId = some d) : Agrees (s.exec (.insert d)) := by
  refine ⟨h.owner, fun row hr htr d' hd' => ?_, fun id hid => ?_⟩
  · obtain hr | hr := List.mem_append.1 hr
    · exact h.rows row hr htr d' hd'
    · obtain rfl := List.mem_singleton.1 hr
      obtain rfl := Option.some.inj (hd.symm.trans hd')
      exact ⟨rfl, rfl, rfl, rfl, rfl, rfl, rfl, rfl, rfl, rfl, rfl⟩
  · unfold HasRow
    rw [exec_table, DbOp.apply, DownloadInfoOperator.insert, List.map_append]
    exact List.mem_append_left _ (h.stored id hid)

theorem startDownloadThread (h : Agrees s) (hrow : s.HasRow d.downloadId) : Agrees (s.startDownloadThread d) := by
  refine ⟨h.owner, h.rows, fun id hid => ?_⟩
  rw [ServiceState.startDownloadThread, List.map_append, List.mem_append] at hid
  obtain hid | hid := hid
  · exact h.stored id hid
  · obtain rfl : id = d.downloadId := by simpa using hid
    exact hrow

/-! ### Reports -/

/-- A report that is written, with its reset flag raised only if the retry count is zero. -/
theorem finishReport (h : Agrees s) (hc : info.status ≠ .cancel)
    (hreset : info.resetRetryTimes = true → ∀ d, s.infoMap.find? info.downloadId = some d → d.retryTimes = 0) :
    Agrees (s.finishReport info) := by
  have hu : Agrees (s.updateDownloadInfo info) := by
    obtain ⟨-, he⟩ | ⟨d, hd, -, hs, ht⟩ := updateDownloadInfo_cases info s
    · rw [he]; exact h
    rw [if_neg hc] at ht
    have hid : d.downloadId = info.downloadId := downloadId_of_find? hd
    rw [DownloadInfoOperator.updateById_eq _ _ (DownloadInfo.updateDownloadInfo_downloadId info d ▸ hid)] at ht
    refine h.modify hd rfl (fun _ => ByIdUpdate.set_taskId) (fun _ => ByIdUpdate.set_downloadId)
      (fun row hr => ?_) hs ht
    have hretry : d.retryTimes = (d.updateDownloadInfo info).retryTimes := by
      cases hflag : info.resetRetryTimes with
      | true => simp [DownloadInfo.updateDownloadInfo, hflag, hreset hflag d hd]
      | false => simp [DownloadInfo.updateDownloadInfo, hflag]
    exact ⟨rfl, rfl, rfl, rfl, hr.netType, hr.retryTimes.trans hretry, hr.url, hr.reserveUrl, rfl, rfl, rfl⟩
  exact hu.of_eq (by simp [ServiceState.finishReport]) (by simp [ServiceState.finishReport])
    (by simp [ServiceState.finishReport]) (by simp [ServiceState.finishReport])

theorem handleRetry (h : Agrees s) {endReason : DownloadEndReason} (hd : s.infoMap.find? id = some d)
    (hurl : endReason = .redirect ∨ endReason = .sizeError → d.reserveUrl = d.url) (hrow : s.HasRow id) :
    Agrees (s.handleRetry id endReason).2 := by
  obtain ⟨s₁, he, hs₁, ht₁⟩ := handleRetry_eq endReason hd
  have hid : d.downloadId = id := downloadId_of_find? hd
  have hswitch : d.countRetry.switchUrl endReason = d.countRetry := DownloadInfo.switchUrl_eq_self hurl
  rw [hswitch] at he
  have htable := DownloadInfoOperator.updateById_eq .retryTimes s.table
    ((DownloadInfo.countRetry_downloadId d).trans hid)
  have h₁ : Agrees s₁ := by
    refine h.modify hd (by rw [hswitch]; rfl) (fun _ => ByIdUpdate.set_taskId)
      (fun _ => ByIdUpdate.set_downloadId) (fun row hr => ?_) hs₁ (ht₁.trans htable)
    rw [hswitch]
    exact ⟨hr.status, hr.endReason, hr.downloadedSize, hr.verifiedSize, hr.netType, rfl, hr.url, hr.reserveUrl,
      hr.startTime, hr.endTime, hr.effectiveTime⟩
  rw [he]
  refine h₁.startDownloadThread ?_
  rw [DownloadInfo.countRetry_downloadId, hid]
  unfold HasRow
  rw [ht₁, DownloadInfoOperator.map_key_updateById, (congrArg DownloadService.taskId hs₁ :)]
  exact hrow

theorem report (h : Agrees s) (hc : info.status ≠ .cancel) (hw : ReportWritten s info)
    (hrow : info.status = .fail → s.HasRow info.downloadId) : Agrees (s.updateDownloadProgress info) := by
  obtain ⟨s₀, hsame, ⟨hr, he⟩ | ⟨-, -, he⟩ | ⟨d, hd, hr, he⟩⟩ := updateDownloadProgress_cases info s <;> rw [he]
  · refine (h.of_sameRecords hsame.toSameRecords).finishReport hc fun hreset d hd => ?_
    rw [hsame.infoMap] at hd
    have := hw d hd
    rw [hr d hd] at this
    exact this hreset
  · exact h.of_sameRecords hsame.toSameRecords
  · have hu := hw d hd
    rw [hr] at hu
    refine (h.of_sameRecords hsame.toSameRecords).handleRetry (hsame.infoMap ▸ hd) hu ?_
    unfold HasRow
    rw [hsame.taskId, hsame.table]
    exact hrow (status_of_retries hr)

theorem callback (h : Agrees s) (hc : info.status ≠ .cancel) (hw : s.isStopCallback = false → ReportWritten s info)
    (hrow : info.status = .fail → s.HasRow info.downloadId) :
    Agrees (s.callbackUpdateDownloadProgress info) := by
  unfold callbackUpdateDownloadProgress
  split
  · exact h
  · rename_i hflag
    exact h.report hc (hw (by simpa using hflag)) hrow

theorem ownReport (h : Agrees s) (hst : info.status = .pause ∨ info.status = .autoPause)
    (hr : info.resetRetryTimes = false) : Agrees (s.updateDownloadProgress info) := by
  have hf : info.status ≠ .fail := by rcases hst with h | h <;> rw [h] <;> decide
  have hc : info.status ≠ .cancel := by rcases hst with h | h <;> rw [h] <;> decide
  refine h.report hc (fun d _ => ?_) fun hfail => absurd hfail hf
  have : retries info d = false := by simp [retries, hf]
  simp [this, hr]

/-! ### Operations -/

theorem setThread (h : Agrees s) {i : Nat} {th th' : DownloadThread} (hth : s.threads[i]? = some th)
    (hid : th'.downloadId = th.downloadId) : Agrees { s with threads := s.threads.set i th' } :=
  h.of_eq rfl rfl (map_downloadId_set hth hid) rfl

theorem start (h : Agrees s) (error : DownloadError) : Agrees (s.start error).2 := by
  unfold ServiceState.start
  split
  · exact h
  split
  · exact h
  have h₁ : Agrees { s with onDownloadCallback := true, isStopCallback := false } := h.of_eq rfl rfl rfl rfl
  refine forEachInfo_induction h₁ fun s d h hd => ?_
  unfold startInfo
  split
  · exact h
  split
  · exact h
  refine (h.insert hd).startDownloadThread ?_
  unfold HasRow
  rw [exec_table, DbOp.apply, DownloadInfoOperator.insert, List.map_append, List.mem_append]
  exact .inr (by simp [DownloadRow.key, DownloadInfoTable.buildDbValue, h.owner _ d hd])

theorem pause (h : Agrees s) (ended : Nat → Bool) : Agrees (s.pause ended).2 := by
  have h₁ : Agrees (s.stopAllDownloadThread ended) :=
    h.of_eq rfl rfl (map_downloadId_stopThreads (s := { s with isStopCallback := true }) ended) rfl
  exact forEachInfo_induction h₁ fun s d h _ => h.ownReport (.inl rfl) rfl

theorem recover (h : Agrees s) : Agrees s.recover := by
  unfold ServiceState.recover
  split
  · exact h
  have h₁ : Agrees { s with onDownloadCallback := true } := h.of_eq rfl rfl rfl rfl
  refine forEachInfo_induction h₁ fun s d h _ => ?_
  split
  · exact h
  split
  · exact h
  · exact h.ownReport (.inr rfl) rfl

theorem netChangeToStart (h : Agrees s) (hs : AutoStartsStored s) : Agrees s.netChangeToStart := by
  have hboth : Agrees s.netChangeToStart ∧ AutoStartsStored s.netChangeToStart := by
    refine forEachInfo_induction (P := fun s => Agrees s ∧ AutoStartsStored s) ⟨h, hs⟩ fun s d ⟨h, hs⟩ hd => ?_
    split
    · exact ⟨h, hs⟩
    split
    · exact ⟨h, hs⟩
    rename_i hauto hth
    simp only [ne_eq, not_or, not_not, Bool.not_eq_false] at hauto
    refine ⟨h.startDownloadThread (hs d hd hauto.1 hauto.2 (by simpa using hth)), fun d' hd' ha hr ht => ?_⟩
    rw [hasThread_startDownloadThread, Bool.or_eq_false_iff] at ht
    exact hs d' hd' ha hr ht.2
  exact hboth.1

theorem netChangeToPause (h : Agrees s) (hs : s.isStopCallback = false → PausesWritten s) :
    Agrees s.netChangeToPause := by
  refine netChangeToPause_induction h fun s' i hi hp h => ?_
  obtain he | ⟨th, th', hth, hid, -, -, -, he | ⟨info, hinit, hinfo, hauto, hreset, he⟩⟩ :=
    pauseThread_cases i s' <;> rw [he]
  · exact h
  · exact h.setThread hth hid
  have hf : info.status ≠ .fail := by rw [hauto]; decide
  refine (h.setThread hth hid).callback (by rw [hauto]; decide) (fun hflag d hd => ?_) fun hfail => absurd hfail hf
  have hr : retries info d = false := by simp [retries, hf]
  rw [hr]
  intro hinfoReset
  obtain ⟨th₀, hth₀, hid₀, -, hst₀, hrt₀⟩ := hp.thread i th hth
  obtain ⟨d₀, hd₀, -, hrd⟩ := hp.info _ d hd
  have hz := hs (hp.isStopCallback ▸ hflag) i hi th₀ hth₀ (hst₀ ▸ hinit) (hrt₀ ▸ hreset ▸ hinfoReset) d₀
    (hid₀ ▸ hinfo ▸ hd₀)
  omega

theorem resumed_eq_self (hp : d.isPaused = false) (hr : d.retryTimes = 0) : d.resumed = d := by
  cases d
  simp_all [DownloadInfo.resumed]

theorem resumeInfo (h : Agrees s) (hs : RestartsAgree s) (hd : s.infoMap.find? d.downloadId = some d) :
    Agrees (s.resumeInfo d) ∧ RestartsAgree (s.resumeInfo d) := by
  unfold ServiceState.resumeInfo
  split
  · exact ⟨h, hs⟩
  split
  · exact ⟨h, hs⟩
  rename_i hth hcomp
  obtain ⟨hp, hr, hrow⟩ := hs d hd (by simpa using hth) (by simpa using hcomp)
  have heq := resumed_eq_self hp hr
  have hm : Agrees (s.modifyInfo d.downloadId (·.resumed) DownloadInfo.resumed_downloadId) := by
    refine h.modify (g := id) hd rfl (fun _ => rfl) (fun _ => rfl) (fun row hr => ?_) rfl ?_
    · rw [heq]; exact hr
    · exact (List.updateWhere_eq_self_iff.2 fun _ _ _ => rfl).symm
  refine ⟨hm.startDownloadThread (by rw [heq]; exact hrow), fun d' hd' ht' hc' => ?_⟩
  rw [hasThread_startDownloadThread, Bool.or_eq_false_iff, heq, decide_eq_false_iff_not] at ht'
  have hfind : s.infoMap.find? d'.downloadId = some d' :=
    (find?_modifyInfo_ne DownloadInfo.resumed_downloadId ht'.1).symm.trans hd'
  exact hs d' hfind ht'.2 hc'

theorem netTypeRound {netType : NetType} (h : Agrees s) (hd : s.infoMap.find? d.downloadId = some d) :
    Agrees (s.netTypeRound netType d) := by
  have htable := DownloadInfoOperator.updateById_eq .netType s.table
    (DownloadInfo.withNetType_downloadId netType d)
  refine h.modify hd rfl (fun _ => ByIdUpdate.set_taskId) (fun _ => ByIdUpdate.set_downloadId)
    (fun row hr => ?_) rfl htable
  exact ⟨hr.status, hr.endReason, hr.downloadedSize, hr.verifiedSize, rfl, hr.retryTimes, hr.url, hr.reserveUrl,
    hr.startTime, hr.endTime, hr.effectiveTime⟩

end Agrees

theorem RestartsAgree.netTypeRound {netType : NetType} (hs : RestartsAgree s)
    (hd : s.infoMap.find? d.downloadId = some d) : RestartsAgree (netTypeRound netType d s) := by
  intro d' hd' ht' hc'
  have hrow : ∀ id, s.HasRow id → (ServiceState.netTypeRound netType d s).HasRow id := by
    intro id hid
    unfold HasRow
    rw [ServiceState.netTypeRound, exec_table, DbOp.apply, DownloadInfoOperator.map_key_updateById]
    exact hid
  by_cases hid : d'.downloadId = d.downloadId
  · have hd₁ := find?_modifyInfo_self (DownloadInfo.withNetType_downloadId netType) hd
    rw [hid] at hd'
    obtain rfl := Option.some.inj (hd₁.symm.trans hd')
    obtain ⟨hp, hr, hw⟩ := hs d hd ht' hc'
    exact ⟨hp, hr, hrow _ hw⟩
  · have hd₁ := find?_modifyInfo_ne (s := s) (DownloadInfo.withNetType_downloadId netType) hid
    obtain ⟨hp, hr, hw⟩ := hs d' (hd₁.symm.trans hd') ht' hc'
    exact ⟨hp, hr, hrow _ hw⟩

theorem Agrees.resume {netType : NetType} (h : Agrees s)
    (hs : (updateDownloadNetType netType { s with isStopCallback := false }).isNetSatisfied = true → RestartsAgree s) :
    Agrees (s.resume netType).2 := by
  unfold ServiceState.resume
  split
  · exact h
  have h₀ : Agrees { s with isStopCallback := false } := h.of_eq rfl rfl rfl rfl
  dsimp only
  split
  · refine forEachInfo_induction h₀ fun s d h hd => ?_
    split
    exacts [h, h.netTypeRound hd]
  rename_i hnet
  have hr₀ : RestartsAgree { s with isStopCallback := false } := hs (by simpa using hnet)
  have h₁ : Agrees (updateDownloadNetType netType { s with isStopCallback := false }) ∧
      RestartsAgree (updateDownloadNetType netType { s with isStopCallback := false }) := by
    refine forEachInfo_induction (P := fun s => Agrees s ∧ RestartsAgree s) ⟨h₀, hr₀⟩ ?_
    rintro s d ⟨h, hr⟩ hd
    split
    exacts [⟨h, hr⟩, ⟨h.netTypeRound hd, hr.netTypeRound hd⟩]
  have h₂ := forEachInfo_induction (P := fun s => Agrees s ∧ RestartsAgree s) h₁
    (f := ServiceState.resumeInfo) fun s d hboth hd => hboth.1.resumeInfo hboth.2 hd
  exact h₂.1

/-! ### Runs -/

def WritesThrough (s : ServiceState) : ServiceOp → Prop
  | .resume netType =>
    (updateDownloadNetType netType { s with isStopCallback := false }).isNetSatisfied = true → s.RestartsAgree
  | .netChangeToPause => s.isStopCallback = false → s.PausesWritten
  | .netChangeToStart => s.AutoStartsStored
  | .report _ r => s.isStopCallback = false → s.ReportWritten r.info
  | _ => True

theorem Agrees.step {op : ServiceOp} (h : Agrees s) (hg : s.WritesThrough op) (hs : s.step op s') : Agrees s' := by
  cases op with
  | start => obtain rfl := hs; exact h.start _
  | pause ended => obtain rfl := hs; exact h.pause ended
  | resume netType => obtain rfl := hs; exact h.resume hg
  | netChangeToPause => obtain rfl := hs; exact h.netChangeToPause hg
  | netChangeToStart => obtain rfl := hs; exact h.netChangeToStart hg
  | recover => obtain rfl := hs; exact h.recover
  | report i r =>
    obtain ⟨th, hth, hid, rfl⟩ := hs
    have hc : r.info.status ≠ .cancel := fun hc => by have := r.isThreadReport; rw [hc] at this; cases this
    refine h.callback hc hg fun _ => h.stored _ ?_
    rw [hid]
    exact List.mem_map_of_mem (List.mem_of_getElem? hth)
  | thread i th =>
    obtain ⟨th₀, hth, hinfo, rfl⟩ := hs
    exact h.setThread hth (congrArg DownloadInfo.downloadId hinfo)
  | outside fileSize now netType => obtain rfl := hs; exact h.of_eq rfl rfl rfl rfl

theorem agrees_preserved : (lts.guard WritesThrough).Preserved Agrees :=
  fun _ _ _ hs h => h.step hs.1 hs.2

/-- Along every run whose steps write what they change, rows and records agree. -/
theorem run_agrees {ops : List ServiceOp} (h : (lts.guard WritesThrough).Run s ops s') (h₀ : Agrees s) : Agrees s' :=
  h.invariant agrees_preserved h₀

/-! ### A resume that is not written -/

theorem twoPackages_agrees : Agrees twoPackages := by
  refine .init (fun id d hd => ?_) rfl (by simp [twoPackages])
  have hmem := KeyedList.mem_of_find? hd
  rw [twoPackages, KeyedList.mem_ofList (by decide)] at hmem
  rcases List.mem_pair.1 hmem with rfl | rfl <;> rfl

def startedAndPaused : ServiceState := ((twoPackages.start {}).2.pause fun _ => true).2

/-- After `Resume` the row of `v1` still says that the download is paused. -/
theorem resume_not_written :
    lts.Run twoPackages [.start, .pause fun _ => true, .resume .notMeteredWifi] (startedAndPaused.resume .notMeteredWifi).2 ∧
      ¬ Agrees (startedAndPaused.resume .notMeteredWifi).2 := by
  refine ⟨.cons rfl (.cons rfl (.single rfl)), fun h => ?_⟩
  have hrow : DownloadInfoTable.buildDbValue { samplePackage "v1" with status := .pause, endReason := .pause } ∈
      (startedAndPaused.resume .notMeteredWifi).2.table := by decide
  have hagrees := h.rows _ hrow rfl _ rfl
  exact absurd hagrees.status (by decide)

/-- Start, the success of `v1` and a pause. -/
theorem run_agrees_pause :
    Agrees (((twoPackages.start {}).2.callbackUpdateDownloadProgress (successReport "v1").info).pause fun _ => true).2 :=
  have hrun : (lts.guard WritesThrough).Run twoPackages
      [.start, .report 0 (successReport "v1"), .pause fun _ => true] _ :=
    .cons ⟨trivial, rfl⟩ (.cons ⟨fun _ d _ => by simp [retries, successReport], _, rfl, rfl, rfl⟩ (.single ⟨trivial, rfl⟩))
  run_agrees hrun twoPackages_agrees

end ServiceState
end UpdateService
