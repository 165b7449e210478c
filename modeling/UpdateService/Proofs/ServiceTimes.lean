import UpdateService.Proofs.ThreadTimes

/-!
# The times of one download through the sections of its service

`TimeInv` ties the record of a download, its rows and its registered thread to one account: the times `t` that are
recorded, and the `total` that has been transferred. What happens to other downloads of the service leaves it alone
(`TimeInv.frame`), and so does all but the reports that are written into the record.
-/

namespace UpdateService

def DownloadRow.times (row : DownloadRow) : DownloadTimes := ⟨row.startTime, row.effectiveTime⟩

namespace RunningService
variable {id k : String} {total : Int} {t t' : DownloadTimes} {v v' : ServiceState} {p : Nat → TaskPlace}
  {d : DownloadInfo} {info : DownloadCallbackInfo} {s s' : RunningService}

/-- The record and the rows of the download have the times `t`. -/
structure TimeBase (id : String) (t : DownloadTimes) (s : RunningService) : Prop where
  versionId : ∀ k d, s.service.infoMap.find? k = some d → d.versionId = k
  owner : ∀ k e, s.service.threadMap.find? k = some e →
    (s.service.threads.map DownloadThread.downloadId)[e.2]? = some k
  fresh : ∀ i, s.service.threads.length ≤ i → s.places i = {}
  record : ∀ d, s.service.infoMap.find? id = some d → d.times = t
  rows : ∀ row ∈ s.service.table, row.taskId = s.service.taskId → row.versionId = id →
    row.downloadId = id ∧ row.times = t

structure TimeInv (id : String) (total : Int) (t : DownloadTimes) (s : RunningService) : Prop extends
    TimeBase id t s where
  nonneg : 0 ≤ t.effectiveTime
  /-- Without a thread everything is recorded. -/
  idle : s.service.threadMap.find? id = none → t.effectiveTime = total
  held : ∀ e run, s.service.threadMap.find? id = some e → s.run? e.2 = some run →
    run.Held total s.service.now t ∧ run.thread.isNeedCancel = false
  known : ∀ e, s.service.threadMap.find? id = some e →
    ∃ d, s.service.infoMap.find? id = some d ∧ d.isCompleted = false

theorem run?_eq_some {i : Nat} {run : ThreadRun} (h : s.run? i = some run) :
    s.service.threads[i]? = some run.thread ∧ run.pc = (s.places i).pc ∧ run.reports = [] := by
  obtain ⟨th, hth, rfl⟩ := Option.map_eq_some_iff.1 h
  exact ⟨hth, rfl, rfl⟩

theorem run?_congr {i : Nat} (h : v'.threads[i]? = v.threads[i]?) : run? i ⟨v', p⟩ = run? i ⟨v, p⟩ := by
  rw [run?, run?]
  show Option.map _ v'.threads[i]? = Option.map _ v.threads[i]?
  rw [h]

namespace TimeBase

theorem congr (h : TimeBase id t ⟨v, p⟩) (htask : v'.taskId = v.taskId) (hinfo : v'.infoMap = v.infoMap)
    (hmap : ∀ k e, v'.threadMap.find? k = some e → v.threadMap.find? k = some e)
    (hthreads : v'.threads.map DownloadThread.downloadId = v.threads.map DownloadThread.downloadId)
    (htable : v'.table = v.table) : TimeBase id t ⟨v', p⟩ := by
  have hlength : v'.threads.length = v.threads.length := by simpa using congrArg List.length hthreads
  refine ⟨?_, fun k e hk => ?_, fun i hi => h.fresh i (hlength ▸ hi), ?_, ?_⟩
  · show ∀ k d, v'.infoMap.find? k = some d → d.versionId = k
    rw [hinfo]
    exact h.versionId
  · show (v'.threads.map DownloadThread.downloadId)[e.2]? = some k
    rw [hthreads]
    exact h.owner k e (hmap k e hk)
  · show ∀ d, v'.infoMap.find? id = some d → d.times = t
    rw [hinfo]
    exact h.record
  · show ∀ row ∈ v'.table, row.taskId = v'.taskId → row.versionId = id → row.downloadId = id ∧ row.times = t
    rw [htable, htask]
    exact h.rows

theorem downloadId_of_registered (h : TimeBase id t ⟨v, p⟩) {e : String × Nat} {th : DownloadThread}
    (he : v.threadMap.find? k = some e) (hth : v.threads[e.2]? = some th) : th.downloadId = k := by
  have hid := h.owner k e he
  change (v.threads.map DownloadThread.downloadId)[e.2]? = some k at hid
  rw [List.getElem?_map, hth] at hid
  exact Option.some.inj hid

/-- A change of a record with the statement that writes it. -/
theorem write (h : TimeBase id t ⟨v, p⟩) (hd : v.infoMap.find? k = some d) {f : DownloadInfo → DownloadInfo}
    (hf : ∀ d, (f d).downloadId = d.downloadId) {g : DownloadRow → DownloadRow}
    (hversion : (f d).versionId = d.versionId)
    (hg : ∀ row, (g row).taskId = row.taskId ∧ (g row).versionId = row.versionId ∧ (g row).downloadId = row.downloadId)
    (ht : k ≠ id ∧ t' = t ∨ k = id ∧ (f d).times = t' ∧ ∀ row, row.times = t → (g row).times = t')
    (hs : v'.toDownloadService = (v.modifyInfo k f hf).toDownloadService)
    (htable : v'.table = v.table.updateWhere (fun row => row.downloadId = k) g) : TimeBase id t' ⟨v', p⟩ := by
  have htask : v'.taskId = v.taskId := (congrArg DownloadService.taskId hs :)
  have hinfo : v'.infoMap = (v.modifyInfo k f hf).infoMap := congrArg DownloadService.infoMap hs
  have hmap : v'.threadMap = v.threadMap := (congrArg DownloadService.threadMap hs :)
  have hthreads : v'.threads = v.threads := (congrArg DownloadService.threads hs :)
  refine ⟨fun k' d' hd' => ?_, ?_, fun i hi => h.fresh i (hthreads ▸ hi), fun d' hd' => ?_, fun row hrow hrt hrv => ?_⟩
  · change v'.infoMap.find? k' = some d' at hd'
    rw [hinfo, ServiceState.find?_modifyInfo] at hd'
    obtain ⟨a, ha, rfl⟩ := Option.map_eq_some_iff.1 hd'
    split
    · rename_i hk
      obtain rfl := Option.some.inj (hd.symm.trans (hk ▸ ha))
      exact hversion.trans (h.versionId k' d ha)
    · exact h.versionId k' a ha
  · show ∀ k e, v'.threadMap.find? k = some e → (v'.threads.map DownloadThread.downloadId)[e.2]? = some k
    rw [hmap, hthreads]
    exact h.owner
  · change v'.infoMap.find? id = some d' at hd'
    rw [hinfo, ServiceState.find?_modifyInfo] at hd'
    obtain ⟨a, ha, rfl⟩ := Option.map_eq_some_iff.1 hd'
    rcases ht with ⟨hne, rfl⟩ | ⟨rfl, htimes, -⟩
    · rw [if_neg (Ne.symm hne)]
      exact h.record a ha
    · rw [if_pos rfl, Option.some.inj (ha.symm.trans hd)]
      exact htimes
  · change row ∈ v'.table at hrow
    change row.taskId = v'.taskId at hrt
    rw [htable, List.mem_updateWhere] at hrow
    obtain ⟨row₀, hrow₀, rfl⟩ := hrow
    simp only [decide_eq_true_eq] at hrt hrv ⊢
    obtain ⟨hgt, hgv, hgi⟩ := hg row₀
    have hold : row₀.downloadId = id ∧ row₀.times = t := by
      refine h.rows row₀ hrow₀ ?_ ?_
      · rw [htask] at hrt
        split at hrt
        · exact hgt.symm.trans hrt
        · exact hrt
      · split at hrv
        · exact hgv.symm.trans hrv
        · exact hrv
    rcases ht with ⟨hne, rfl⟩ | ⟨rfl, -, htimes⟩
    · rw [if_neg (hold.1 ▸ Ne.symm hne)]
      exact hold
    · rw [if_pos hold.1]
      exact ⟨hgi.trans hold.1, htimes row₀ hold.2⟩

/-- A change of a record that is not written, and leaves its times. -/
theorem modifyInfo (h : TimeBase id t ⟨v, p⟩) (hd : v.infoMap.find? k = some d) {f : DownloadInfo → DownloadInfo}
    (hf : ∀ d, (f d).downloadId = d.downloadId) (hversion : (f d).versionId = d.versionId)
    (htimes : (f d).times = d.times) : TimeBase id t ⟨v.modifyInfo k f hf, p⟩ := by
  refine h.write hd hf (g := fun row => row) hversion (fun row => ⟨rfl, rfl, rfl⟩) ?_ rfl ?_
  · by_cases hk : k = id
    · subst hk
      exact .inr ⟨rfl, htimes.trans (h.record d hd), fun row hrow => hrow⟩
    · exact .inl ⟨hk, rfl⟩
  · simp [List.updateWhere, ServiceState.modifyInfo]

theorem released (h : TimeBase id t ⟨v, p⟩) (hr : ServiceState.Released info v v') : TimeBase id t ⟨v', p⟩ :=
  h.congr hr.taskId hr.infoMap (fun _ _ => hr.find?_mono) (by rw [hr.threads]) hr.table

theorem insert (h : TimeBase id t ⟨v, p⟩) (hd : v.infoMap.find? d.downloadId = some d) :
    TimeBase id t ⟨v.exec (.insert d), p⟩ := by
  have hversion := h.versionId _ d hd
  refine ⟨h.versionId, h.owner, h.fresh, h.record, fun row hrow hrt hrv => ?_⟩
  rcases List.mem_append.1 hrow with hrow | hrow
  · exact h.rows row hrow hrt hrv
  · obtain rfl := List.mem_singleton.1 hrow
    have hid : d.downloadId = id := hversion.symm.trans hrv
    exact ⟨hid, h.record d (hid ▸ hd)⟩

theorem startDownloadThread (h : TimeBase id t ⟨v, p⟩) (d : DownloadInfo) :
    TimeBase id t ⟨v.startDownloadThread d, p⟩ := by
  refine ⟨h.versionId, fun k e hk => ?_, fun i hi => h.fresh i ?_, h.record, h.rows⟩
  · change (v.threadMap.insert (d.downloadId, v.threads.length)).find? k = some e at hk
    show ((v.threads ++ [_]).map DownloadThread.downloadId)[e.2]? = some k
    rw [KeyedList.find?_insert] at hk
    split at hk
    · rename_i hkd
      obtain rfl := Option.some.inj hk
      rw [List.map_append, List.getElem?_append_right (by simp)]
      simp [hkd]
    · have hold := h.owner k e hk
      rw [List.map_append, List.getElem?_append_left (List.getElem?_eq_some_iff.1 hold).1]
      exact hold
  · change v.threads.length ≤ i
    have : v.threads.length + 1 ≤ i := by simpa [ServiceState.startDownloadThread] using hi
    omega

end TimeBase

namespace TimeInv

theorem held_of (h : TimeInv id total t ⟨v, p⟩) {e : String × Nat} (he : v.threadMap.find? id = some e)
    {th : DownloadThread} (hth : v.threads[e.2]? = some th) :
    ThreadRun.Held total v.now t { thread := th, pc := (p e.2).pc, headers := (p e.2).headers } ∧
    th.isNeedCancel = false :=
  h.held e _ he (by rw [run?, hth]; rfl)

/-- What does not touch the thread of the download, nor its record but for the status of one that goes on. -/
theorem frame (h : TimeInv id total t ⟨v, p⟩) (hbase : TimeBase id t ⟨v', p⟩)
    (hreg : v'.threadMap.find? id = v.threadMap.find? id)
    (hthread : ∀ e, v.threadMap.find? id = some e → v'.threads[e.2]? = v.threads[e.2]?) (hnow : v'.now = v.now)
    (hknown : ∀ d, v.infoMap.find? id = some d → d.isCompleted = false →
      ∃ d', v'.infoMap.find? id = some d' ∧ d'.isCompleted = false) : TimeInv id total t ⟨v', p⟩ := by
  refine ⟨hbase, h.nonneg, fun hnone => h.idle (hreg ▸ hnone), fun e run he hrun => ?_, fun e he => ?_⟩
  · change v'.threadMap.find? id = some e at he
    rw [hreg] at he
    show run.Held total v'.now t ∧ run.thread.isNeedCancel = false
    rw [hnow]
    exact h.held e run he ((run?_congr (hthread e he)).symm.trans hrun)
  · change v'.threadMap.find? id = some e at he
    rw [hreg] at he
    obtain ⟨d, hd, hcomp⟩ := h.known e he
    exact hknown d hd hcomp

/-- Nothing that the account is about has changed. -/
theorem congr (h : TimeInv id total t ⟨v, p⟩) (htask : v'.taskId = v.taskId) (hinfo : v'.infoMap = v.infoMap)
    (hmap : v'.threadMap = v.threadMap) (hthreads : v'.threads = v.threads) (htable : v'.table = v.table)
    (hnow : v'.now = v.now) : TimeInv id total t ⟨v', p⟩ :=
  h.frame (h.toTimeBase.congr htask hinfo (fun k e hk => hmap ▸ hk) (by rw [hthreads]) htable) (by rw [hmap])
    (fun e _ => by rw [hthreads]) hnow fun d hd hcomp => ⟨d, hinfo ▸ hd, hcomp⟩

/-- A download without a thread of which everything is recorded. -/
theorem of_idle {s : RunningService} (h : TimeBase id t s) (hnonneg : 0 ≤ t.effectiveTime)
    (hnone : s.service.threadMap.find? id = none) (htotal : t.effectiveTime = total) : TimeInv id total t s := by
  refine ⟨h, hnonneg, fun _ => htotal, fun e run he => ?_, fun e he => ?_⟩
  · rw [hnone] at he
    cases he
  · rw [hnone] at he
    cases he

/-- The thread that is removed is another one, or there is none. -/
theorem released (h : TimeInv id total t ⟨v, p⟩) (hr : ServiceState.Released info v v')
    (hown : info.downloadId = id → v.threadMap.find? id = none) : TimeInv id total t ⟨v', p⟩ := by
  have hreg : v'.threadMap.find? id = v.threadMap.find? id := by
    by_cases hid : id = info.downloadId
    · have hnone := hown hid.symm
      rw [hnone]
      cases he : v'.threadMap.find? id with
      | none => rfl
      | some e => exact absurd (hnone.symm.trans (hr.find?_mono he)) nofun
    · exact hr.find?_ne hid
  exact h.frame (h.toTimeBase.released hr) hreg (fun _ _ => by rw [hr.threads]) hr.now
    fun d hd hcomp => ⟨d, by rw [hr.infoMap, hd], hcomp⟩

/-- A change of a record that leaves its times, with the statement that writes it. -/
theorem write (h : TimeInv id total t ⟨v, p⟩) (hd : v.infoMap.find? k = some d) {f : DownloadInfo → DownloadInfo}
    (hf : ∀ d, (f d).downloadId = d.downloadId) {g : DownloadRow → DownloadRow}
    (hversion : (f d).versionId = d.versionId)
    (hg : ∀ row, (g row).taskId = row.taskId ∧ (g row).versionId = row.versionId ∧ (g row).downloadId = row.downloadId)
    (hown : k = id → (f d).times = d.times ∧ (d.isCompleted = false → (f d).isCompleted = false) ∧
      ∀ row, (g row).times = row.times)
    (hs : v'.toDownloadService = (v.modifyInfo k f hf).toDownloadService)
    (htable : v'.table = v.table.updateWhere (fun row => row.downloadId = k) g) (hnow : v'.now = v.now) :
    TimeInv id total t ⟨v', p⟩ := by
  have hinfo : v'.infoMap = (v.modifyInfo k f hf).infoMap := congrArg DownloadService.infoMap hs
  have hmap : v'.threadMap = v.threadMap := (congrArg DownloadService.threadMap hs :)
  have hthreads : v'.threads = v.threads := (congrArg DownloadService.threads hs :)
  have hbase : TimeBase id t ⟨v', p⟩ := by
    refine h.toTimeBase.write hd hf hversion hg ?_ hs htable
    by_cases hk : k = id
    · obtain ⟨htimes, -, hrow⟩ := hown hk
      exact .inr ⟨hk, htimes.trans (h.record d (hk ▸ hd)), fun row ht => (hrow row).trans ht⟩
    · exact .inl ⟨hk, rfl⟩
  refine h.frame hbase (by rw [hmap]) (fun _ _ => by rw [hthreads]) hnow fun d' hd' hcomp => ?_
  rw [hinfo]
  by_cases hk : k = id
  · subst hk
    obtain rfl := Option.some.inj (hd.symm.trans hd')
    exact ⟨f d, ServiceState.find?_modifyInfo_self hf hd, (hown rfl).2.1 hcomp⟩
  · exact ⟨d', by rw [ServiceState.find?_modifyInfo_ne hf (Ne.symm hk), hd'], hcomp⟩

theorem modifyInfo (h : TimeInv id total t ⟨v, p⟩) (hd : v.infoMap.find? k = some d) {f : DownloadInfo → DownloadInfo}
    (hf : ∀ d, (f d).downloadId = d.downloadId) (hversion : (f d).versionId = d.versionId)
    (hown : (f d).times = d.times ∧ (d.isCompleted = false → (f d).isCompleted = false)) :
    TimeInv id total t ⟨v.modifyInfo k f hf, p⟩ := by
  refine h.write hd hf (g := fun row => row) hversion (fun row => ⟨rfl, rfl, rfl⟩)
    (fun _ => ⟨hown.1, hown.2, fun _ => rfl⟩) rfl ?_ rfl
  simp [List.updateWhere, ServiceState.modifyInfo]

theorem insert (h : TimeInv id total t ⟨v, p⟩) (hd : v.infoMap.find? d.downloadId = some d) :
    TimeInv id total t ⟨v.exec (.insert d), p⟩ :=
  h.frame (h.toTimeBase.insert hd) rfl (fun _ _ => rfl) rfl fun d' hd' hcomp => ⟨d', hd', hcomp⟩

/-- A new thread takes over what is recorded. -/
theorem startDownloadThread (h : TimeInv id total t ⟨v, p⟩) (hown : d.downloadId = id →
      v.threadMap.find? id = none ∧ d.times = t ∧ ∃ d', v.infoMap.find? id = some d' ∧ d'.isCompleted = false) :
    TimeInv id total t ⟨v.startDownloadThread d, p⟩ := by
  have hbase := h.toTimeBase.startDownloadThread d
  have hfind : ∀ k', (v.startDownloadThread d).threadMap.find? k' =
      if k' = d.downloadId then some (d.downloadId, v.threads.length) else v.threadMap.find? k' :=
    fun k' => KeyedList.find?_insert
  by_cases hk : id = d.downloadId
  · obtain ⟨hnone, htimes, hknown⟩ := hown hk.symm
    have hsome : (v.startDownloadThread d).threadMap.find? id = some (d.downloadId, v.threads.length) := by
      rw [hfind, if_pos hk]
    have htotal := h.idle hnone
    refine ⟨hbase, h.nonneg, fun hnone' => ?_, fun e run he hrun => ?_, fun e _ => hknown⟩
    · exact absurd (hsome.symm.trans hnone') nofun
    · obtain rfl := Option.some.inj (hsome.symm.trans he)
      have hplace : p v.threads.length = {} := h.fresh _ le_rfl
      obtain ⟨th, hth, rfl⟩ := Option.map_eq_some_iff.1 hrun
      rcases ServiceState.getElem?_startDownloadThread.1 hth with hold | ⟨-, rfl⟩
      · exact absurd (List.getElem?_eq_some_iff.1 hold).1 (lt_irrefl _)
      · subst htimes
        refine ⟨?_, rfl⟩
        show ThreadRun.Held total v.now d.times
          { thread := _, pc := (p v.threads.length).pc, headers := (p v.threads.length).headers }
        rw [hplace]
        exact .ofInfo h.nonneg htotal
  · refine h.frame hbase (by rw [hfind, if_neg hk]) (fun e he => ?_) rfl fun d' hd' hcomp => ⟨d', hd', hcomp⟩
    have hlt : e.2 < v.threads.length := by simpa using (List.getElem?_eq_some_iff.1 (h.owner id e he)).1
    exact List.getElem?_append_left hlt

/-! ### Reports -/

theorem updateRetryTimes_row (d : DownloadInfo) (row : DownloadRow) :
    (ByIdUpdate.retryTimes.set d row).taskId = row.taskId ∧
    (ByIdUpdate.retryTimes.set d row).versionId = row.versionId ∧
      (ByIdUpdate.retryTimes.set d row).downloadId = row.downloadId := ⟨rfl, rfl, rfl⟩

theorem handleRetry (h : TimeInv id total t ⟨v, p⟩) {endReason : DownloadEndReason} (hd : v.infoMap.find? k = some d)
    (hown : k = id → v.threadMap.find? id = none ∧ d.isCompleted = false) :
    TimeInv id total t ⟨(v.handleRetry k endReason).2, p⟩ := by
  obtain ⟨v₁, he, hs₁, ht₁⟩ := ServiceState.handleRetry_eq endReason hd
  have hnow₁ : v₁.now = v.now := by
    have hnow : (v.handleRetry k endReason).2.now = v.now := by simp [ServiceState.handleRetry, hd]; rfl
    rw [he] at hnow
    exact hnow
  have hdk := ServiceState.downloadId_of_find? hd
  have hrecord : (d.countRetry.switchUrl endReason).versionId = d.versionId ∧
      (d.countRetry.switchUrl endReason).times = d.times ∧
      (d.countRetry.switchUrl endReason).isCompleted = d.isCompleted := by
    unfold DownloadInfo.switchUrl
    split <;> exact ⟨rfl, rfl, rfl⟩
  obtain ⟨hversion, htimes, hcomp⟩ := hrecord
  rw [DownloadInfoOperator.updateById_eq .retryTimes v.table ((DownloadInfo.countRetry_downloadId d).trans hdk)] at ht₁
  have h₁ : TimeInv id total t ⟨v₁, p⟩ :=
    h.write hd _ hversion (updateRetryTimes_row _) (fun _ => ⟨htimes, fun hc => hcomp.trans hc, fun _ => rfl⟩) hs₁ ht₁ hnow₁
  rw [he]
  refine h₁.startDownloadThread fun hid => ?_
  rw [DownloadInfo.switchUrl_downloadId, DownloadInfo.countRetry_downloadId, hdk] at hid
  obtain ⟨hnone, hcompleted⟩ := hown hid
  subst hid
  refine ⟨(congrArg (fun m : DownloadService => m.threadMap.find? k) hs₁).trans hnone, htimes.trans (h.record d hd),
    d.countRetry.switchUrl endReason, ?_, hcomp.trans hcompleted⟩
  rw [(congrArg DownloadService.infoMap hs₁ :)]
  exact ServiceState.find?_modifyInfo_self _ hd

theorem updateDownloadInfo_now (info : DownloadCallbackInfo) (v : ServiceState) :
    (v.updateDownloadInfo info).now = v.now := by
  unfold ServiceState.updateDownloadInfo
  split
  · rfl
  split
  · rfl
  dsimp only
  split <;> rfl

theorem callbackDownloadProgress (h : TimeInv id total t ⟨v, p⟩) (info : DownloadCallbackInfo) :
    TimeInv id total t ⟨v.callbackDownloadProgress info, p⟩ := by
  unfold ServiceState.callbackDownloadProgress
  split
  · exact h.congr rfl rfl rfl rfl rfl rfl
  · exact h

/-- What `UpdateProgressById` writes into a row. -/
theorem progress_row (d : DownloadInfo) (row : DownloadRow) :
    (ByIdUpdate.progress.set d row).taskId = row.taskId ∧ (ByIdUpdate.progress.set d row).versionId = row.versionId ∧
      (ByIdUpdate.progress.set d row).downloadId = row.downloadId := ⟨rfl, rfl, rfl⟩

theorem updateDownloadInfo_other (h : TimeInv id total t ⟨v, p⟩)
    (hne : info.downloadId = id → v.infoMap.find? id = none) (hc : info.status ≠ .cancel) :
    TimeInv id total t ⟨v.updateDownloadInfo info, p⟩ := by
  obtain ⟨-, he⟩ | ⟨d, hd, -, hs, ht⟩ := ServiceState.updateDownloadInfo_cases info v
  · rw [he]
    exact h
  rw [if_neg hc, DownloadInfoOperator.updateById_eq .progress v.table
    ((DownloadInfo.updateDownloadInfo_downloadId info d).trans (ServiceState.downloadId_of_find? hd))] at ht
  refine h.write hd (DownloadInfo.updateDownloadInfo_downloadId info) (by rfl) (progress_row _) (fun hid => ?_) hs ht
    (updateDownloadInfo_now info v)
  rw [hid, hne hid] at hd
  cases hd

/-- Without a record there is no thread. -/
theorem threadMap_of_unknown (h : TimeInv id total t ⟨v, p⟩) (hno : v.infoMap.find? id = none) :
    v.threadMap.find? id = none := by
  cases he : v.threadMap.find? id with
  | none => rfl
  | some e =>
    obtain ⟨d, hd, -⟩ := h.known e he
    exact absurd (hno.symm.trans hd) nofun

/-- A report of another download, or of one that is not in the service. -/
theorem updateDownloadProgress_other (h : TimeInv id total t ⟨v, p⟩)
    (hne : info.downloadId = id → v.infoMap.find? id = none) (hc : info.status ≠ .cancel) :
    TimeInv id total t ⟨v.updateDownloadProgress info, p⟩ := by
  obtain ⟨v₀, hr, hcases⟩ := ServiceState.updateDownloadProgress_cases info v
  have h₀ : TimeInv id total t ⟨v₀, p⟩ := h.released hr fun hid => h.threadMap_of_unknown (hne hid)
  rcases hcases with ⟨-, he⟩ | ⟨-, -, he⟩ | ⟨d, hd, -, he⟩ <;> rw [he]
  · refine (h₀.updateDownloadInfo_other (fun hid => ?_) hc).callbackDownloadProgress info
    rw [hr.infoMap]
    exact hne hid
  · exact h₀
  · refine h₀.handleRetry (d := d) (by rw [hr.infoMap, hd]) fun hid => ?_
    rw [hid, hne hid] at hd
    cases hd

theorem callback_other (h : TimeInv id total t ⟨v, p⟩) (hne : info.downloadId = id → v.infoMap.find? id = none)
    (hc : info.status ≠ .cancel) : TimeInv id total t ⟨v.callbackUpdateDownloadProgress info, p⟩ := by
  unfold ServiceState.callbackUpdateDownloadProgress
  split
  · exact h
  · exact h.updateDownloadProgress_other hne hc

/-- A report of the download itself goes into the record and into its row. -/
theorem updateDownloadInfo_own (h : TimeBase id t ⟨v, p⟩) (hid : info.downloadId = id)
    (hd : v.infoMap.find? id = some d) (hc : info.status ≠ .cancel)
    (hdrop : ¬ (info.status = .downloading ∧ v.isStopCallback = true)) :
    TimeBase id info.times ⟨v.updateDownloadInfo info, p⟩ ∧
      (v.updateDownloadInfo info).threadMap = v.threadMap ∧ (v.updateDownloadInfo info).threads = v.threads ∧
      (v.updateDownloadInfo info).infoMap.find? id = some (d.updateDownloadInfo info) := by
  subst hid
  obtain ⟨hno | hdropped, -⟩ | ⟨d', hd', -, hs, ht⟩ := ServiceState.updateDownloadInfo_cases info v
  · rw [hd] at hno
    cases hno
  · exact absurd hdropped hdrop
  obtain rfl := Option.some.inj (hd.symm.trans hd')
  rw [if_neg hc, DownloadInfoOperator.updateById_eq .progress v.table
    ((DownloadInfo.updateDownloadInfo_downloadId info d).trans (ServiceState.downloadId_of_find? hd))] at ht
  refine ⟨?_, (congrArg DownloadService.threadMap hs :), (congrArg DownloadService.threads hs :), ?_⟩
  · exact h.write hd (DownloadInfo.updateDownloadInfo_downloadId info) (by rfl) (progress_row _)
      (.inr ⟨rfl, rfl, fun _ _ => rfl⟩) hs ht
  · rw [(congrArg DownloadService.infoMap hs :)]
    exact ServiceState.find?_modifyInfo_self _ hd

theorem not_isCompleted_of_ongoing (d : DownloadInfo) (h : info.status.isOngoing = true) :
    (d.updateDownloadInfo info).isCompleted = false := by
  have hstatus : (d.updateDownloadInfo info).status = info.status := rfl
  rw [DownloadInfo.isCompleted, hstatus]
  cases hst : info.status <;> simp_all [DownloadStatus.isOngoing]

/-- After the last report there is no thread; after another one the thread stands to what it has said. -/
theorem finishReport_own (h : TimeBase id t ⟨v, p⟩) (hid : info.downloadId = id) (hd : v.infoMap.find? id = some d)
    (hc : info.status ≠ .cancel) (hdrop : ¬ (info.status = .downloading ∧ v.isStopCallback = true))
    (hnonneg : 0 ≤ info.effectiveTime)
    (hlast : info.status.isOngoing = false → v.threadMap.find? id = none ∧ info.effectiveTime = total)
    (hongoing : info.status.isOngoing = true → ∃ e, v.threadMap.find? id = some e ∧ ∀ run, run? e.2 ⟨v, p⟩ = some run →
      run.Held total v.now info.times ∧ run.thread.isNeedCancel = false) :
    TimeInv id total info.times ⟨v.finishReport info, p⟩ := by
  obtain ⟨hbase, hmap, hthreads, hrecord⟩ := updateDownloadInfo_own h hid hd hc hdrop
  refine callbackDownloadProgress (p := p) ?_ info
  cases hend : info.status.isOngoing with
  | false =>
    obtain ⟨hnone, htotal⟩ := hlast hend
    have hreg : (v.updateDownloadInfo info).threadMap.find? id = none := by rw [hmap, hnone]
    exact .of_idle hbase hnonneg hreg htotal
  | true =>
    obtain ⟨e, he, hheld⟩ := hongoing hend
    have hreg : (v.updateDownloadInfo info).threadMap.find? id = some e := by rw [hmap, he]
    refine ⟨hbase, hnonneg, fun hno => ?_, fun e' run he' hrun => ?_, fun e' _ => ?_⟩
    · exact absurd (hreg.symm.trans hno) nofun
    · obtain rfl := Option.some.inj (hreg.symm.trans he')
      show run.Held total (v.updateDownloadInfo info).now info.times ∧ _
      rw [updateDownloadInfo_now]
      exact hheld run ((run?_congr (by rw [hthreads])).symm.trans hrun)
    · exact ⟨_, hrecord, not_isCompleted_of_ongoing d hend⟩

/-- A report of the download itself: it is retried, it goes on, or it is the last one. -/
theorem updateDownloadProgress_own (h : TimeBase id t ⟨v, p⟩) (hpos : 0 ≤ t.effectiveTime) (hid : info.downloadId = id)
    (hd : v.infoMap.find? id = some d) (hc : info.status ≠ .cancel)
    (hdrop : ¬ (info.status = .downloading ∧ v.isStopCallback = true)) (hnonneg : 0 ≤ info.effectiveTime)
    (hretry : ServiceState.retries info d = true → t.effectiveTime = total ∧ d.isCompleted = false)
    (hlast : ServiceState.retries info d = false → info.status.isOngoing = false → info.effectiveTime = total)
    (hongoing : info.status.isOngoing = true → ∃ e, v.threadMap.find? id = some e ∧ ∀ run, run? e.2 ⟨v, p⟩ = some run →
      run.Held total v.now info.times ∧ run.thread.isNeedCancel = false) :
    TimeInv id total (if ServiceState.retries info d then t else info.times) ⟨v.updateDownloadProgress info, p⟩ := by
  subst hid
  obtain ⟨v₀, hr, hcases⟩ := ServiceState.updateDownloadProgress_cases info v
  have hbase₀ := h.released hr
  have hd₀ : v₀.infoMap.find? info.downloadId = some d := by rw [hr.infoMap, hd]
  rcases hcases with ⟨hret, he⟩ | ⟨-, hno, -⟩ | ⟨d', hd', hret, he⟩
  · have hret := hret d hd
    rw [he, if_neg (by simp [hret])]
    refine finishReport_own hbase₀ rfl hd₀ hc (by rwa [hr.isStopCallback]) hnonneg
      (fun hend => ⟨hr.find?_self hend, hlast hret hend⟩) fun hgo => ?_
    obtain ⟨e, he, hheld⟩ := hongoing hgo
    refine ⟨e, (hr.find?_ongoing hgo).trans he, fun run hrun => ?_⟩
    rw [hr.now]
    exact hheld run ((run?_congr (by rw [hr.threads])).symm.trans hrun)
  · rw [hd] at hno
    cases hno
  · obtain rfl := Option.some.inj (hd.symm.trans hd')
    obtain ⟨htotal, hcomp⟩ := hretry hret
    have hend : info.status.isOngoing = false := by rw [ServiceState.status_of_retries hret]; rfl
    have hreg := hr.find?_self hend
    have h₀ : TimeInv info.downloadId total t ⟨v₀, p⟩ := .of_idle hbase₀ hpos hreg htotal
    rw [he, if_pos hret]
    exact h₀.handleRetry hd₀ fun _ => ⟨hreg, hcomp⟩

theorem find?_updateDownloadProgress_ne (hne : info.downloadId ≠ id) :
    (v.updateDownloadProgress info).infoMap.find? id = v.infoMap.find? id := by
  obtain ⟨v₀, hr, hcases⟩ := ServiceState.updateDownloadProgress_cases info v
  rcases hcases with ⟨-, he⟩ | ⟨-, -, he⟩ | ⟨d, hd, -, he⟩ <;> rw [he, ← hr.infoMap]
  · rw [ServiceState.finishReport, ServiceState.callbackDownloadProgress_toDownloadService]
    rcases ServiceState.updateDownloadInfo_cases info v₀ with ⟨-, hu⟩ | ⟨d, -, -, hu, -⟩ <;> rw [hu]
    exact ServiceState.find?_modifyInfo_ne _ hne.symm
  · rw [← hr.infoMap] at hd
    obtain ⟨v₁, hretry, hs₁, -⟩ := ServiceState.handleRetry_eq info.endReason hd
    rw [hretry]
    show v₁.infoMap.find? id = _
    rw [(congrArg DownloadService.infoMap hs₁ :)]
    exact ServiceState.find?_modifyInfo_ne _ hne.symm

/-! ### Operations -/

/-- The reports that the service makes itself, all with no times. -/
structure IsOwn (d : DownloadInfo) (info : DownloadCallbackInfo) : Prop where
  downloadId : info.downloadId = d.downloadId
  status : info.status = .pause ∨ info.status = .autoPause
  times : info.times = ⟨0, 0⟩

/-- A loop that reports every download but those it passes by: nothing is recorded of one that is reported. -/
theorem forEachReport (h : TimeInv id total t ⟨v, p⟩) {f : DownloadInfo → ServiceState → ServiceState}
    (skip : DownloadInfo → Prop) (hskip : ∀ d v, skip d → f d v = v)
    (hreport : ∀ d v, ¬ skip d → ∃ info, IsOwn d info ∧ f d v = v.updateDownloadProgress info)
    (hown : ∀ d, v.infoMap.find? id = some d → skip d ∨ t = ⟨0, 0⟩ ∧ total = 0) :
    TimeInv id total t ⟨v.forEachInfo f, p⟩ := by
  have hround : ∀ v d, TimeInv id total t ⟨v, p⟩ → v.infoMap.find? d.downloadId = some d →
      (d.downloadId = id → skip d ∨ t = ⟨0, 0⟩ ∧ total = 0) → TimeInv id total t ⟨f d v, p⟩ := by
    intro v d h hd hown
    by_cases hs : skip d
    · rw [hskip d v hs]
      exact h
    obtain ⟨info, ⟨hid, hstatus, htimes⟩, he⟩ := hreport d v hs
    rw [he]
    have hc : info.status ≠ .cancel := by rcases hstatus with h | h <;> rw [h] <;> decide
    by_cases hk : d.downloadId = id
    · obtain ⟨rfl, rfl⟩ := (hown hk).resolve_left hs
      have hret : ServiceState.retries info d = false := by
        rcases hstatus with h | h <;> simp [ServiceState.retries, h]
      have hend : info.status.isOngoing = false := by rcases hstatus with h | h <;> rw [h] <;> rfl
      have heffective : info.effectiveTime = 0 := congrArg DownloadTimes.effectiveTime htimes
      have hnew := updateDownloadProgress_own h.toTimeBase h.nonneg (hid.trans hk) (hk ▸ hd) hc
        (fun hdown => by rcases hstatus with h | h <;> simp [h] at hdown) heffective.ge
        (fun hr => by rw [hret] at hr; cases hr) (fun _ _ => heffective) (fun hr => by rw [hend] at hr; cases hr)
      rw [hret, htimes] at hnew
      exact hnew
    · exact h.updateDownloadProgress_other (fun hk' => absurd (hid.symm.trans hk') hk) hc
  by_cases hzero : t = ⟨0, 0⟩ ∧ total = 0
  · exact ServiceState.forEachInfo_induction (P := fun v => TimeInv id total t ⟨v, p⟩) h fun v d h hd =>
      hround v d h hd fun _ => .inr hzero
  · have hboth : TimeInv id total t ⟨v.forEachInfo f,
      p⟩ ∧ ∀ d, (v.forEachInfo f).infoMap.find? id = some d → skip d := by
      refine ServiceState.forEachInfo_induction
        (P := fun v => TimeInv id total t ⟨v, p⟩ ∧ ∀ d, v.infoMap.find? id = some d → skip d)
        ⟨h, fun d hd => (hown d hd).resolve_right hzero⟩ ?_
      rintro v d ⟨h, hall⟩ hd
      refine ⟨hround v d h hd fun hk => .inl (hall d (hk ▸ hd)), ?_⟩
      by_cases hs : skip d
      · rw [hskip d v hs]
        exact hall
      · obtain ⟨info, ⟨hid, -, -⟩, he⟩ := hreport d v hs
        rw [he, find?_updateDownloadProgress_ne fun hk => hs (hall d (by rw [← hk, hid]; exact hd))]
        exact hall
    exact hboth.1

theorem startRound (h : TimeInv id total t ⟨v, p⟩) (hd : v.infoMap.find? d.downloadId = some d)
    (hth : v.hasThread d.downloadId = false) (hc : d.isCompleted = false) :
    TimeInv id total t ⟨v.startDownloadThread d, p⟩ := by
  refine h.startDownloadThread fun hk => ?_
  subst hk
  exact ⟨Option.not_isSome_iff_eq_none.1 (by simpa [ServiceState.hasThread] using hth), h.record d hd, d, hd, hc⟩

theorem start (h : TimeInv id total t ⟨v, p⟩) (error : DownloadError) : TimeInv id total t ⟨(v.start error).2, p⟩ := by
  unfold ServiceState.start
  split
  · exact h
  split
  · exact h
  refine ServiceState.forEachInfo_induction (P := fun v => TimeInv id total t ⟨v, p⟩)
    (h.congr rfl rfl rfl rfl rfl rfl) fun v d h hd => ?_
  unfold ServiceState.startInfo
  split
  · exact h
  rename_i hth
  split
  · exact h
  rename_i hc
  have hth : (v.exec (.insert d)).hasThread d.downloadId = false := Bool.eq_false_iff.2 hth
  exact (h.insert hd).startRound hd hth (by simpa using hc)

theorem netChangeToStart (h : TimeInv id total t ⟨v, p⟩) : TimeInv id total t ⟨v.netChangeToStart, p⟩ := by
  refine ServiceState.forEachInfo_induction (P := fun v => TimeInv id total t ⟨v, p⟩) h fun v d h hd => ?_
  split
  · exact h
  rename_i hauto
  split
  · exact h
  rename_i hth
  refine h.startRound hd (by simpa using hth) ?_
  have hstatus := (not_or.1 hauto).1
  rw [DownloadInfo.isCompleted, not_not.1 hstatus]
  rfl

theorem updateDownloadNetType (h : TimeInv id total t ⟨v, p⟩) (netType : NetType) :
    TimeInv id total t ⟨v.updateDownloadNetType netType, p⟩ := by
  refine ServiceState.forEachInfo_induction (P := fun v => TimeInv id total t ⟨v, p⟩) h fun v d h hd => ?_
  split
  · exact h
  refine h.write hd (f := (·.withNetType netType)) (DownloadInfo.withNetType_downloadId netType)
    (g := fun row => ByIdUpdate.netType.set (d.withNetType netType) row) rfl (fun row => ⟨rfl, rfl, rfl⟩)
    (fun _ => ⟨rfl, fun hc => hc, fun row => rfl⟩) rfl ?_ rfl
  exact DownloadInfoOperator.updateById_eq .netType v.table rfl

theorem resume (h : TimeInv id total t ⟨v, p⟩) (netType : NetType) : TimeInv id total t ⟨(v.resume netType).2, p⟩ := by
  unfold ServiceState.resume
  split
  · exact h
  have h₀ : TimeInv id total t ⟨{ v with isStopCallback := false }, p⟩ := h.congr rfl rfl rfl rfl rfl rfl
  have h₁ := h₀.updateDownloadNetType netType
  dsimp only
  split
  · exact h₁
  refine ServiceState.forEachInfo_induction (P := fun v => TimeInv id total t ⟨v, p⟩) h₁ fun v d h hd => ?_
  unfold ServiceState.resumeInfo
  split
  · exact h
  rename_i hth
  split
  · exact h
  rename_i hc
  have hcomp : d.isCompleted = false → d.resumed.isCompleted = false := by
    intro hc
    unfold DownloadInfo.resumed DownloadInfo.isCompleted
    split
    · rfl
    · exact hc
  have h₂ := h.modifyInfo hd (f := (·.resumed)) DownloadInfo.resumed_downloadId rfl ⟨rfl, hcomp⟩
  refine h₂.startRound ?_ (Bool.eq_false_iff.2 hth) (hcomp (by simpa using hc))
  exact ServiceState.find?_modifyInfo_self DownloadInfo.resumed_downloadId hd

theorem stopAllDownloadThread (h : TimeInv id total t ⟨v, p⟩) (ended : Nat → Bool) (htotal : t.effectiveTime = total) :
    TimeInv id total t ⟨v.stopAllDownloadThread ended, p⟩ := by
  refine .of_idle (h.toTimeBase.congr rfl rfl (fun k e hk => ?_) ?_ rfl) h.nonneg rfl htotal
  · cases hk
  · exact ServiceState.map_downloadId_stopThreads (s := { v with isStopCallback := true }) ended

theorem pause (h : TimeInv id total t ⟨v, p⟩) (ended : Nat → Bool) (htotal : t.effectiveTime = total)
    (hown : ∀ d, v.infoMap.find? id = some d → t = ⟨0, 0⟩) : TimeInv id total t ⟨(v.pause ended).2, p⟩ := by
  refine (h.stopAllDownloadThread ended htotal).forEachReport (fun _ => False) (fun _ _ hs => hs.elim)
    (fun d v _ => ⟨d.pauseReport, ⟨rfl, .inl rfl, rfl⟩, rfl⟩) fun d hd => .inr ?_
  have ht := hown d hd
  rw [ht] at htotal
  exact ⟨ht, htotal.symm⟩

theorem recover (h : TimeInv id total t ⟨v, p⟩) (hown : ∀ d, v.infoMap.find? id = some d →
      d.isCompleted = true ∨ d.isManualPaused = true ∨ t = ⟨0, 0⟩ ∧ total = 0) : TimeInv id total t ⟨v.recover, p⟩ := by
  unfold ServiceState.recover
  split
  · exact h
  have h₁ : TimeInv id total t ⟨{ v with onDownloadCallback := true }, p⟩ := h.congr rfl rfl rfl rfl rfl rfl
  refine h₁.forEachReport (fun d => d.isCompleted = true ∨ d.isManualPaused = true) (fun d v hs => ?_)
    (fun d v hs => ?_) fun d hd => or_assoc.2 (hown d hd)
  · rcases hs with hc | hm
    · rw [if_pos hc]
    · rw [if_pos hm, ite_self]
  · obtain ⟨hc, hm⟩ := not_or.1 hs
    rw [if_neg hc, if_neg hm]
    exact ⟨d.recoverReport, ⟨rfl, .inr rfl, rfl⟩, rfl⟩

end TimeInv

end RunningService

end UpdateService
