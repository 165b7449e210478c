import UpdateService.ManagerRun
import UpdateService.Lib.Separated

/-!
# What `RestoreDownloadTask` finds in the table

`TableOk` is kept by every step but a `Start` that finds rows of its task left over, or downloads that
another task has too (`StartsFresh`): the table holds the rows last written, each once, and no two
tasks share a download. From such a table a new process restores every record as it was written.
-/

namespace UpdateService

/-- The record that is restored from a row: all but the size of the file is taken over. -/
def restored (fileSize : String → Int) (row : DownloadRow) : DownloadInfo :=
  { DownloadInfoTable.parseDbValue row with downloadedSize := fileSize row.path }

/-- The report of a restored download writes the row from which the changed record is restored. -/
theorem restored_recoverReport (fileSize : String → Int) (row : DownloadRow) :
    (restored fileSize row).updateDownloadInfo (restored fileSize row).recoverReport =
      restored fileSize (ByIdUpdate.progress.set
        ((restored fileSize row).updateDownloadInfo (restored fileSize row).recoverReport) row) := by
  simp [restored, DownloadInfoTable.parseDbValue, ByIdUpdate.set, DownloadInfo.updateDownloadInfo,
    DownloadInfo.recoverReport]

/-- The records under a task id are those that the rows last written restore. -/
def RestoredFrom (ops : List DbOp) (fileSize : String → Int) (taskId : String) (infoMap : DownloadInfoMap) : Prop :=
  ∀ id, infoMap.find? id = (lastWritten ops (taskId, id)).map (restored fileSize)

namespace ServiceState
variable {s s' : ServiceState} {d : DownloadInfo} {ops : List DbOp} {taskId : String}

theorem recoverRound (hd : s.infoMap.find? d.downloadId = some d) (he : s.updateDownloadProgress d.recoverReport = s') :
    s'.infoMap = s.infoMap.modify d.downloadId (·.updateDownloadInfo d.recoverReport)
        (DownloadInfo.updateDownloadInfo_downloadId d.recoverReport) ∧
      dbOps s'.trace = dbOps s.trace ++ [.update .progress (d.updateDownloadInfo d.recoverReport)] ∧
      s'.fileSize = s.fileSize := by
  subst he
  have h₁ : s.updateDownloadProgress d.recoverReport =
      (((s.removeThread d.downloadId).modifyInfo d.downloadId (·.updateDownloadInfo d.recoverReport)
        (DownloadInfo.updateDownloadInfo_downloadId d.recoverReport)).exec
          (.update .progress (d.updateDownloadInfo d.recoverReport))).callbackDownloadProgress d.recoverReport := by
    simp [updateDownloadProgress, DownloadInfo.recoverReport, finishReport, updateDownloadInfo, removeThread, hd]
  rw [h₁]
  unfold callbackDownloadProgress
  split <;> simp [modifyInfo, removeThread, exec, dbOps]

/-- What holds between the rounds of `NotifyRecoverCompleted`. -/
structure Recovering (ops : List DbOp) (taskId : String) (fileSize : String → Int) (s : ServiceState) : Prop where
  task : ∀ id d, s.infoMap.find? id = some d → d.taskId = taskId
  records : RestoredFrom (ops ++ dbOps s.trace) fileSize taskId s.infoMap

theorem Recovering.round {fileSize : String → Int} (h : Recovering ops taskId fileSize s)
    (hd : s.infoMap.find? d.downloadId = some d) :
    Recovering ops taskId fileSize (s.updateDownloadProgress d.recoverReport) := by
  obtain ⟨hinfo, htrace, -⟩ := recoverRound hd rfl
  generalize s.updateDownloadProgress d.recoverReport = s' at hinfo htrace
  have hfind : ∀ id, s'.infoMap.find? id = (s.infoMap.find? id).map fun a =>
      if id = d.downloadId then a.updateDownloadInfo d.recoverReport else a := fun id => by rw [hinfo, KeyedList.find?_modify]
  refine ⟨fun id d' hd' => ?_, fun id => ?_⟩
  · rw [hfind] at hd'
    obtain ⟨a, ha, rfl⟩ := Option.map_eq_some_iff.1 hd'
    split <;> exact h.task id a ha
  · have hrow := h.records id
    rw [hfind, htrace, ← List.append_assoc, lastWritten_append, List.foldl_cons, List.foldl_nil, DbOp.write, hrow]
    by_cases hid : id = d.downloadId
    · subst hid
      rw [if_pos (by rw [← h.task _ d hd]; rfl)]
      obtain ⟨row, hw, he⟩ := Option.map_eq_some_iff.1 (hrow.symm.trans hd)
      rw [hw, Option.map_some, Option.map_some, if_pos rfl, Option.map_some, Option.map_some, ← he,
        restored_recoverReport]
      rfl
    · rw [if_neg fun he => hid (congrArg Prod.snd he).symm]
      simp [hid, Function.comp_def]

theorem Recovering.recover {fileSize : String → Int} (h : Recovering ops taskId fileSize s) :
    Recovering ops taskId fileSize s.recover := by
  unfold ServiceState.recover
  split
  · exact h
  refine forEachInfo_induction (P := Recovering ops taskId fileSize) ⟨h.task, h.records⟩ fun s d hs hd => ?_
  split
  · exact hs
  split
  · exact hs
  · exact hs.round hd

theorem fileSize_recover : s.recover.fileSize = s.fileSize := by
  unfold ServiceState.recover
  split
  · rfl
  refine forEachInfo_induction (P := fun s' => s'.fileSize = s.fileSize) rfl fun s' d hs hd => ?_
  split
  · exact hs
  split
  · exact hs
  · exact (recoverRound hd rfl).2.2.trans hs

end ServiceState

namespace TaskState
variable {s : TaskState} {taskId : String}

theorem submit_of_recover (hcb : s.task.callback = none) (hout : s.outputs = []) :
    ∀ o ∈ s.recover.outputs, ∃ p, o = .submit p := by
  intro o ho
  unfold TaskState.recover at ho
  split at ho
  · rw [hout] at ho
    cases ho
  cases o with
  | submit p => exact ⟨p, rfl⟩
  | call p b =>
    obtain hin | ⟨-, hb⟩ := call_of_foldl_handle ho
    · rw [hout] at hin
      cases hin
    · rw [hcb] at hb
      cases hb

theorem fileSize_recover : s.recover.outside.fileSize = s.outside.fileSize := by
  unfold TaskState.recover
  split
  exacts [rfl, ServiceState.fileSize_recover]

theorem records_recover (htask : ∀ id d, s.task.service.infoMap.find? id = some d → d.taskId = taskId)
    (h : RestoredFrom (dbOps s.outside.trace) s.outside.fileSize taskId s.task.service.infoMap) :
    RestoredFrom (dbOps s.recover.outside.trace) s.outside.fileSize taskId s.recover.task.service.infoMap := by
  unfold TaskState.recover
  split
  · exact h
  have hstart : ServiceState.Recovering (dbOps s.outside.trace) taskId s.outside.fileSize s.serviceState := by
    refine ⟨htask, ?_⟩
    change RestoredFrom (dbOps s.outside.trace ++ []) _ _ _
    rw [List.append_nil]
    exact h
  change RestoredFrom (dbOps (s.outside.trace ++ _)) _ _ _
  rw [dbOps_append]
  exact hstart.recover.records

end TaskState

namespace DownloadTaskManager
variable {m m' : DownloadTaskManager} {i : Nat} {t : DownloadTask} {taskId : String} {infos downloadInfos : List DownloadInfo}
  {f : TaskState → TaskState}

/-! ### The table -/

/-- The table holds the rows last written, and no two tasks share a download. -/
structure TableOk (m : DownloadTaskManager) : Prop where
  faithful : Faithful (dbOps m.outside.trace) m.outside.table
  rows : ∀ row ∈ m.outside.table, ∀ row' ∈ m.outside.table, row.downloadId = row'.downloadId → row.taskId = row'.taskId
  tasks : ∀ i t, m.task? i = some t → ∀ row ∈ m.outside.table, row.downloadId ∈ t.service.infoMap.keys → row.taskId = t.taskId
  hash : ∀ row ∈ m.outside.table, '_' ∉ row.taskId.toList

namespace TableOk

theorem congr (h : TableOk m) (htasks : m'.tasks = m.tasks) (houtside : m'.outside = m.outside) : TableOk m' := by
  have ht : ∀ i, m'.task? i = m.task? i := fun i => by unfold task?; rw [htasks]
  exact ⟨houtside ▸ h.faithful, houtside ▸ h.rows, fun i t hi => houtside ▸ h.tasks i t (ht i ▸ hi), houtside ▸ h.hash⟩

theorem apart (h : TableOk m) (hM : ManagerOk m) {op : DbOp} (hop : m.IsOwn op) : op.Apart m.outside.table := by
  cases op with
  | insert d => exact hop
  | update u d =>
    obtain ⟨i, t, d₀, ht, hd₀, hid⟩ := hop
    intro row hrow hdown
    have hkey : row.downloadId ∈ t.service.infoMap.keys := by
      by_contra hn
      rw [hdown, ← KeyedList.find?_eq_none, hd₀] at hn
      cases hn
    rw [hid, ((hM.tasks i t ht).records _ d₀ hd₀).1]
    exact h.tasks i t ht row hrow hkey
  | deleteByTaskId taskId => trivial

theorem quiet (h : TableOk m) (hM : ManagerOk m) (hq : Quiet m m') : TableOk m' := by
  obtain ⟨ops, htable, htrace, hown⟩ := hq.statements
  have hsame : ∀ row ∈ m'.outside.table, ∃ row₀ ∈ m.outside.table, SameRow row₀ row := fun row hrow =>
    sameRow_of_mem_foldl (fun op hop _ => (hown op hop).ne_insert) (htable ▸ hrow)
  refine ⟨?_, fun row hrow row' hrow' hid => ?_, fun i t' ht' row hrow hkey => ?_, fun row hrow => ?_⟩
  · rw [htable, htrace]
    exact h.faithful.foldl fun op hop => h.apart hM (hown op hop)
  · obtain ⟨row₀, hrow₀, hs⟩ := hsame row hrow
    obtain ⟨row₁, hrow₁, hs'⟩ := hsame row' hrow'
    rw [hs.taskId, hs'.taskId]
    exact h.rows row₀ hrow₀ row₁ hrow₁ (hs.downloadId.symm.trans (hid.trans hs'.downloadId))
  · obtain ⟨row₀, hrow₀, hs⟩ := hsame row hrow
    obtain ⟨t, ht, hst⟩ := hq.tasks i t' ht'
    rw [hs.taskId, hst.taskId]
    exact h.tasks i t ht row₀ hrow₀ (by rw [← hs.downloadId, ← hst.keys]; exact hkey)
  · obtain ⟨row₀, hrow₀, hs⟩ := hsame row hrow
    rw [hs.taskId]
    exact h.hash row₀ hrow₀

theorem newTask (h : TableOk m) (hne : infos ≠ []) (hnodup : (infos.map (·.versionId)).Nodup)
    (hids : ∀ row ∈ m.outside.table, ∀ d ∈ infos, row.downloadId = d.versionId → row.taskId = taskId) :
    TableOk (m.newTask taskId infos) := by
  refine ⟨h.faithful, h.rows, fun j t hj row hrow hkey => ?_, h.hash⟩
  rw [task?_newTask] at hj
  split at hj
  · obtain rfl := Option.some.inj hj
    rw [← (TaskOk.ofInfos taskId m.outside.fileSize hne hnodup).ids] at hkey
    obtain ⟨d', hd', he⟩ := List.mem_map.1 hkey
    obtain ⟨d, hd, rfl⟩ := List.mem_map.1 hd'
    exact hids row hrow d hd he.symm
  · exact h.tasks j t hj row hrow hkey

/-- The rows that `Start` inserts are the first of their task, and of their downloads but for its own. -/
theorem startTask (h : TableOk m) (hM : ManagerOk m) (ht : m.task? i = some t) (business isMemoryEnough : Bool)
    (error : DownloadError) (hrows : ∀ row ∈ m.outside.table, row.taskId ≠ t.taskId)
    (htasks : ∀ j t', m.task? j = some t' → ∀ id ∈ t.service.infoMap.keys, id ∈ t'.service.infoMap.keys →
    t'.taskId = t.taskId)
    (hhash : '_' ∉ t.taskId.toList) : TableOk (m.startTask taskId business isMemoryEnough error i).2 := by
  obtain ⟨l, hnodup, hl, htable, htrace⟩ := 
    (TaskState.inserts_start (s := ⟨t, m.outside, []⟩) business isMemoryEnough error).statements
  have hid : ∀ d ∈ l, d.taskId = t.taskId := fun d hd => ((hM.tasks i t ht).records _ d (hl d hd)).1
  have hkey : ∀ d ∈ l, d.downloadId ∈ t.service.infoMap.keys := fun d hd => by
    by_contra hn
    rw [← KeyedList.find?_eq_none, show _ = some d from hl d hd] at hn
    cases hn
  rw [← startTask_outside taskId ht] at htable htrace
  have hmem : ∀ row ∈ (m.startTask taskId business isMemoryEnough error i).2.outside.table,
      row ∈ m.outside.table ∨ row.taskId = t.taskId ∧ row.downloadId ∈ t.service.infoMap.keys := by
    intro row hrow
    rw [htable, foldl_apply_insert] at hrow
    rcases List.mem_append.1 hrow with hrow | hrow
    · exact .inl hrow
    · obtain ⟨d, hd, rfl⟩ := List.mem_map.1 hrow
      exact .inr ⟨hid d hd, hkey d hd⟩
  refine ⟨?_, fun row hrow row' hrow' he => ?_, fun j t' hj row hrow hk => ?_, fun row hrow => ?_⟩
  · rw [htable, htrace]
    exact h.faithful.inserts hnodup hid fun row hrow he => absurd he (hrows row hrow)
  · rcases hmem row hrow with hrow | ⟨hrt, hrk⟩ <;> rcases hmem row' hrow' with hrow' | ⟨hrt', hrk'⟩
    · exact h.rows row hrow row' hrow' he
    · exact (h.tasks i t ht row hrow (he ▸ hrk')).trans hrt'.symm
    · exact hrt.trans (h.tasks i t ht row' hrow' (he ▸ hrk)).symm
    · exact hrt.trans hrt'.symm
  · obtain ⟨t₀, ht₀, hs⟩ := task_of_startTask hj
    rw [hs.keys] at hk
    rw [hs.taskId]
    rcases hmem row hrow with hrow | ⟨hrt, hrk⟩
    · exact h.tasks j t₀ ht₀ row hrow hk
    · exact hrt.trans (htasks j t₀ ht₀ _ hrk hk).symm
  · rcases hmem row hrow with hrow | ⟨hrt, -⟩
    · exact h.hash row hrow
    · exact hrt ▸ hhash

end TableOk

/-- A `Start` that finds its task or no row of it, and shares no download with another task. -/
structure StartsFresh (taskId : String) (downloadInfos : List DownloadInfo) (m : DownloadTaskManager) : Prop where
  first : m.find? taskId = none → ∀ row ∈ m.outside.table, row.taskId ≠ taskId
  rows : ∀ row ∈ m.outside.table, ∀ d ∈ downloadInfos, row.downloadId = d.versionId → row.taskId = taskId
  tasks : ∀ i t, m.task? i = some t → ∀ d ∈ downloadInfos, d.versionId ∈ t.service.infoMap.keys → t.taskId = taskId

theorem taskId_ne_of_removeDirtyTask {ended : Nat → Bool} (hM : ManagerOk m)
    (hfirst : m.find? taskId = none → ∀ row ∈ m.outside.table, row.taskId ≠ taskId) :
    ∀ row ∈ (m.removeDirtyTask taskId ended).outside.table, row.taskId ≠ taskId := by
  cases hi : m.find? taskId with
  | none =>
    have he : m.removeDirtyTask taskId ended = m := by simp only [removeDirtyTask, hi]
    rw [he]
    exact hfirst hi
  | some i =>
    obtain ⟨t, ht, hid⟩ := hM.task_of_find? hi
    have ht' : (m.eraseTask taskId).task? i = some t := ht
    have ho : (m.removeDirtyTask taskId ended).outside =
        (TaskState.cancel ended true ⟨t, m.outside, []⟩).2.outside := by
      rw [removeDirtyTask, hi]
      exact (withTask_eq (fun s => (s.cancel ended true).2) ht').2.1
    rw [ho, ← hid, ← (hM.tasks i t ht).service]
    exact ServiceState.taskId_ne_of_mem_cancel (s := (TaskState.disableCallback ⟨t, m.outside, []⟩).serviceState) ended true

theorem TableOk.start {calculateHashCode : String → String} (h : TableOk m) (hM : ManagerOk m)
    (hhash : ∀ s, '_' ∉ (calculateHashCode s).toList) (business isMemoryEnough : Bool) (ended : Nat → Bool)
    (hfresh : StartsFresh (getTaskId calculateHashCode (removeDuplicateVersionId downloadInfos)) downloadInfos m) :
    TableOk (m.start calculateHashCode downloadInfos business isMemoryEnough ended).2 := by
  by_cases hne : downloadInfos = []
  · rw [DownloadTaskManager.start, if_pos hne]
    exact h
  obtain ⟨error, he⟩ := start_eq calculateHashCode business isMemoryEnough ended hne m
  rw [he]
  generalize hid : getTaskId calculateHashCode (removeDuplicateVersionId downloadInfos) = taskId at hfresh
  have hne' := removeDuplicateVersionId_ne_nil hne
  have hnodup := nodup_removeDuplicateVersionId downloadInfos
  have hq := hM.removeDirtyTask taskId ended
  have hM₁ := hM.quiet hq
  have hrows : ∀ row ∈ (m.removeDirtyTask taskId ended).outside.table, ∀ d ∈ removeDuplicateVersionId downloadInfos,
      row.downloadId = d.versionId → row.taskId = taskId := by
    intro row hrow d hd hrd
    obtain ⟨ops, htable, -, hown⟩ := hq.statements
    obtain ⟨row₀, hrow₀, hs⟩ := sameRow_of_mem_foldl (fun op hop _ => (hown op hop).ne_insert) (htable ▸ hrow)
    rw [hs.taskId]
    exact hfresh.rows row₀ hrow₀ d (mem_of_mem_removeDuplicateVersionId hd) (hs.downloadId.symm.trans hrd)
  have hok := TaskOk.ofInfos taskId (m.removeDirtyTask taskId ended).outside.fileSize hne' hnodup
  refine ((h.quiet hM hq).newTask hne' hnodup hrows).startTask (hM₁.newTask taskId hne' hnodup)
    ((task?_newTask _ _ _).trans (if_pos rfl)) business isMemoryEnough error
    (taskId_ne_of_removeDirtyTask hM hfresh.first) (fun j t' hj id hid' hid'' => ?_) (hid ▸ hhash _)
  rw [task?_newTask] at hj
  split at hj
  · exact Option.some.inj hj ▸ rfl
  · obtain ⟨t₀, ht₀, hs⟩ := hq.tasks j t' hj
    rw [← hok.ids] at hid'
    obtain ⟨d', hd', rfl⟩ := List.mem_map.1 hid'
    obtain ⟨d, hd, rfl⟩ := List.mem_map.1 hd'
    rw [hs.keys] at hid''
    exact hs.taskId.trans (hfresh.tasks j t₀ ht₀ d (mem_of_mem_removeDuplicateVersionId hd) hid'')

/-! ### The restored tasks -/

theorem lastWritten_of_isOwn {v : ServiceState} {ops : List DbOp} {key : String × String} (row : Option DownloadRow)
    (hv : v.taskId = taskId) (hrec : ∀ id d, v.infoMap.find? id = some d → d.taskId = taskId)
    (hops : ∀ op ∈ ops, v.IsOwn op)
    (hkey : key.1 ≠ taskId) : ops.foldl (DbOp.write key) row = row := by
  refine List.foldlRecOn (motive := fun row' => row' = row) ops _ rfl fun row' hrow' op hop => ?_
  rw [hrow']
  have hop := hops op hop
  have hid : op.taskId = taskId := by
    cases op with
    | insert d => exact hop.elim
    | update u d =>
      obtain ⟨d₀, hd₀, hid⟩ := hop
      exact hid.trans (hrec _ d₀ hd₀)
    | deleteByTaskId id => exact Eq.trans hop hv
  exact DbOp.write_of_ne (hid ▸ hkey.symm)

theorem foldl_output_submit {os : List TaskOutput} (hos : ∀ o ∈ os, ∃ p, o = .submit p) :
    (os.foldl (output i taskId) m).downloadTaskMap = m.downloadTaskMap := by
  refine List.foldlRecOn (motive := fun m' : DownloadTaskManager => m'.downloadTaskMap = m.downloadTaskMap) os _ rfl
    fun m' h o ho => ?_
  obtain ⟨p, rfl⟩ := hos o ho
  exact h

/-- What the restoring of one task does. -/
structure GroupRestored (taskId : String) (infos : List DownloadInfo) (m m' : DownloadTaskManager) : Prop where
  find? : ∀ id, m'.find? id = if id = taskId then some m.tasks.length else m.find? id
  others : ∀ j, j ≠ m.tasks.length → m'.task? j = m.task? j
  files : m'.outside.fileSize = m.outside.fileSize
  rows : ∀ key : String × String, key.1 ≠ taskId →
    lastWritten (dbOps m'.outside.trace) key = lastWritten (dbOps m.outside.trace) key
  records : RestoredFrom (dbOps m.outside.trace) m.outside.fileSize taskId
      (DownloadTask.ofInfos taskId infos m.outside.fileSize).service.infoMap →
    ∀ t, m'.task? m.tasks.length = some t → 
      RestoredFrom (dbOps m'.outside.trace) m.outside.fileSize taskId t.service.infoMap

theorem isDownloadComplete_eq (ht : m.task? i = some t) : ∃ t' complete,
    m.isDownloadComplete i = ({ m with tasks := m.tasks.set i (some t') }, complete) ∧
      t'.service = t.service ∧ t'.callback = t.callback := by
  unfold isDownloadComplete taskProgress
  simp only [ht]
  exact ⟨_, _, rfl, rfl, rfl⟩

theorem groupRestored (taskId : String) (hne : infos ≠ []) (hnodup : (infos.map (·.versionId)).Nodup) :
    GroupRestored taskId infos m (m.restoreGroup taskId infos) := by
  have hok := TaskOk.ofInfos taskId m.outside.fileSize hne hnodup
  have ht : ((m.newTask taskId infos).ensureInsert taskId m.tasks.length).task? m.tasks.length =
    some (.ofInfos taskId infos m.outside.fileSize) := (task?_newTask _ _ _).trans (if_pos rfl)
  obtain ⟨t, complete, he, hservice, hcb⟩ := isDownloadComplete_eq ht
  have hfind := find?_ensureInsert (m := m.newTask taskId infos) taskId m.tasks.length
  -- the manager when the status has been looked at
  generalize hm₂ : ({ (m.newTask taskId infos).ensureInsert taskId m.tasks.length with
    tasks := ((m.newTask taskId infos).ensureInsert taskId m.tasks.length).tasks.set m.tasks.length (some t) } :
    DownloadTaskManager) = m₂ at he
  have htask : ∀ j, m₂.task? j = if m.tasks.length = j then some t else m.task? j := fun j => by
    rw [← hm₂, task?_set (lt_of_task? ht)]
    split
    · rfl
    · rename_i hj
      exact (task?_newTask _ _ _).trans (if_neg (Ne.symm hj))
  have hout : m₂.outside = m.outside := by rw [← hm₂]; rfl
  have hmap : ∀ id, m₂.find? id = if id = taskId then some m.tasks.length else m.find? id := fun id => by
    rw [← hm₂]
    exact hfind id
  have ht₂ : m₂.task? m.tasks.length = some t := (htask _).trans (if_pos rfl)
  unfold restoreGroup
  dsimp only
  rw [he]
  cases complete with
  | true =>
    refine ⟨hmap, fun j hj => (htask j).trans (if_neg hj.symm), by rw [hout], fun _ _ => by rw [hout],
      fun hr t' ht' => ?_⟩
    obtain rfl := Option.some.inj (ht₂.symm.trans ht')
    rw [hout, hservice]
    exact hr
  | false =>
    obtain ⟨-, ho, -⟩ := withTask_eq TaskState.recover ht₂
    have hacts := TaskState.Acts.recover (s := ⟨t, m₂.outside, []⟩)
    have hrec : ∀ id d, t.service.infoMap.find? id = some d → d.taskId = taskId := fun id d hd =>
      (hok.records id d (hservice ▸ hd)).1
    have hcall := TaskState.submit_of_recover (s := ⟨t, m₂.outside, []⟩) hcb rfl
    refine ⟨fun id => ?_, fun j hj => ?_, ?_, fun key hkey => ?_, fun hr t' ht' => ?_⟩
    · rw [← hmap]
      dsimp only
      unfold withTask find?
      simp only [ht₂, foldl_output_submit hcall]
    · exact ((task?_withTask _ ht₂).trans (if_neg hj.symm)).trans ((htask j).trans (if_neg hj.symm))
    · dsimp only
      rw [ho, TaskState.fileSize_recover, hout]
    · obtain ⟨ops, -, htrace, hown⟩ := hacts.statements
      dsimp only
      rw [ho, htrace, lastWritten_append, hout]
      exact lastWritten_of_isOwn _ (congrArg DownloadService.taskId hservice :) hrec hown hkey
    · obtain rfl := Option.some.inj (((task?_withTask _ ht₂).trans (if_pos rfl)).symm.trans ht')
      dsimp only
      rw [ho]
      have hr₂ : RestoredFrom (dbOps m₂.outside.trace) m₂.outside.fileSize taskId t.service.infoMap := by
        rw [hout, hservice]
        exact hr
      exact hout ▸ TaskState.records_recover (s := ⟨t, m₂.outside, []⟩) hrec hr₂

theorem foldl_groupRestored (gs : List (String × List DownloadInfo)) (hM : ManagerOk m)
    (hnodup : (gs.map Prod.fst).Nodup)
    (hgs : ∀ g ∈ gs, g.2 ≠ [] ∧ (g.2.map (·.versionId)).Nodup)
    (hrows : ∀ g ∈ gs, RestoredFrom (dbOps m.outside.trace) m.outside.fileSize g.1
      (DownloadTask.ofInfos g.1 g.2 m.outside.fileSize).service.infoMap)
    (hdone : ∀ taskId i t, m.find? taskId = some i → m.task? i = some t → taskId ∉ gs.map Prod.fst ∧
      RestoredFrom (dbOps m.outside.trace) m.outside.fileSize taskId t.service.infoMap)
    (hm' : gs.foldl (fun m g => m.restoreGroup g.1 g.2) m = m') :
    ManagerOk m' ∧ (∀ taskId, m'.find? taskId ≠ none ↔ m.find? taskId ≠ none ∨ taskId ∈ gs.map Prod.fst) ∧
      (∀ taskId i t, m'.find? taskId = some i → m'.task? i = some t →
        RestoredFrom (dbOps m'.outside.trace) m'.outside.fileSize taskId t.service.infoMap) ∧
      ∀ key : String × String, key.1 ∉ gs.map Prod.fst →
        lastWritten (dbOps m'.outside.trace) key = lastWritten (dbOps m.outside.trace) key := by
  induction gs generalizing m with
  | nil =>
    subst hm'
    exact ⟨hM, by simp, fun taskId i t hi ht => (hdone taskId i t hi ht).2, fun _ _ => rfl⟩
  | cons g gs ih =>
    obtain ⟨hg, hnodup⟩ := List.nodup_cons.1 hnodup
    obtain ⟨hne, hnd⟩ := hgs g List.mem_cons_self
    have hr := groupRestored (m := m) g.1 hne hnd
    have hM₁ := hM.restoreGroup g.1 hne hnd
    rw [List.foldl_cons] at hm'
    generalize m.restoreGroup g.1 g.2 = m₁ at hr hM₁ hm'
    have hrows₁ : ∀ g' ∈ gs, RestoredFrom (dbOps m₁.outside.trace) m₁.outside.fileSize g'.1
        (DownloadTask.ofInfos g'.1 g'.2 m₁.outside.fileSize).service.infoMap := by
      intro g' hg' id
      have hne : g'.1 ≠ g.1 := fun he => hg (he ▸ List.mem_map_of_mem hg')
      rw [hr.files, hr.rows (g'.1, id) hne]
      exact hrows g' (List.mem_cons_of_mem g hg') id
    have hdone₁ : ∀ taskId i t, m₁.find? taskId = some i → m₁.task? i = some t → taskId ∉ gs.map Prod.fst ∧
        RestoredFrom (dbOps m₁.outside.trace) m₁.outside.fileSize taskId t.service.infoMap := by
      intro taskId i t hi ht
      rw [hr.find?] at hi
      rw [hr.files]
      split at hi
      · rename_i hid
        obtain rfl := Option.some.inj hi
        subst hid
        exact ⟨hg, hr.records (hrows g List.mem_cons_self) t ht⟩
      · rename_i hid
        rw [hr.others i (hM.ne_length _ (find?_eq_some.1 hi))] at ht
        obtain ⟨hnot, hfrom⟩ := hdone taskId i t hi ht
        refine ⟨fun h => hnot (List.mem_cons_of_mem _ h), fun id => ?_⟩
        rw [hr.rows (taskId, id) hid]
        exact hfrom id
    obtain ⟨hM', hfind, hrec, hkeys⟩ := ih hM₁ hnodup (fun g' hg' => hgs g' (List.mem_cons_of_mem g hg'))
      hrows₁ hdone₁ hm'
    refine ⟨hM', fun taskId => ?_, hrec, fun key hkey => ?_⟩
    · rw [hfind, hr.find?, List.map_cons, List.mem_cons]
      split
      · rename_i hid
        simp only [hid, true_or, or_true, ne_eq, reduceCtorEq, not_false_eq_true]
      · rename_i hid
        simp only [hid, false_or]
    · rw [List.map_cons, List.mem_cons, not_or] at hkey
      exact (hkeys key hkey.2).trans (hr.rows key hkey.1)

theorem mem_map_fst_groups {infos : List DownloadInfo} :
    taskId ∈ (groups infos).map Prod.fst ↔ ∃ d ∈ infos, d.taskId = taskId := by
  unfold groups
  simp [List.map_map, Function.comp_def]

theorem nodup_groups (infos : List DownloadInfo) : ((groups infos).map Prod.fst).Nodup := by
  unfold groups
  rw [List.map_map]
  simp only [Function.comp_def, List.map_id']
  exact (List.perm_insertionSort _ _).nodup_iff.2 (List.nodup_dedup _)

theorem nodup_restoreKey (h : TableOk m) : ((DownloadInfoOperator.queryAll m.outside.table).map restoreKey).Nodup := by
  unfold DownloadInfoOperator.queryAll
  rw [List.map_map]
  refine List.Nodup.map_on (fun row hrow row' hrow' he => ?_) h.faithful.nodup.of_map
  have hl : row.taskId.toList ++ '_' :: row.downloadId.toList = row'.taskId.toList ++ '_' :: row'.downloadId.toList := by
    simpa [restoreKey, DownloadInfoTable.parseDbValue] using congrArg String.toList he
  have hcut := congrArg (List.cutAt '_') hl
  rw [List.cutAt_append_cons (h.hash row hrow), List.cutAt_append_cons (h.hash row' hrow')] at hcut
  obtain ⟨ht, hd⟩ := Prod.mk.inj (Option.some.inj hcut)
  refine List.inj_on_of_nodup_map h.faithful.nodup hrow hrow' ?_
  exact Prod.ext (String.toList_inj.1 ht) (String.toList_inj.1 hd)

theorem mem_filterDuplicates (h : (downloadInfos.map restoreKey).Nodup) {d : DownloadInfo} :
    d ∈ (filterDuplicates downloadInfos).entries ↔ d ∈ downloadInfos := by
  rw [filterDuplicates_eq]
  exact KeyedList.mem_foldl_emplace h

theorem restoredFrom_group (h : TableOk m) (hM : ManagerOk m) {g : String × List DownloadInfo}
    (hg : g ∈ groups (filterDuplicates (DownloadInfoOperator.queryAll m.outside.table)).entries) :
    RestoredFrom (dbOps m.outside.trace) m.outside.fileSize g.1
      (DownloadTask.ofInfos g.1 g.2 m.outside.fileSize).service.infoMap := by
  obtain ⟨he, -⟩ := mem_groups hg
  have hid := hM.versionId_queryAll
  have hnodup := nodup_of_mem_groups hid hg
  have hmem : ∀ d, d ∈ g.2 ↔ ∃ row ∈ m.outside.table, row.taskId = g.1 ∧ d = DownloadInfoTable.parseDbValue row := by
    intro d
    rw [he, List.mem_filter, mem_filterDuplicates (nodup_restoreKey h), DownloadInfoOperator.queryAll, List.mem_map]
    constructor
    · rintro ⟨⟨row, hrow, rfl⟩, hd⟩
      exact ⟨row, hrow, of_decide_eq_true hd, rfl⟩
    · rintro ⟨row, hrow, hd, rfl⟩
      exact ⟨⟨row, hrow, rfl⟩, decide_eq_true hd⟩
  have hn : ((g.2.map (DownloadTask.initInfo g.1 m.outside.fileSize)).map DownloadInfo.downloadId).Nodup := by
    rw [List.map_map]
    exact hnodup
  have hinit : ∀ row ∈ m.outside.table, row.taskId = g.1 →
      DownloadTask.initInfo g.1 m.outside.fileSize (DownloadInfoTable.parseDbValue row) = restored m.outside.fileSize row := by
    intro row hrow ht
    simp [DownloadTask.initInfo, restored, DownloadInfoTable.parseDbValue, hM.rows row hrow, ht]
  intro id
  refine Option.ext fun d => ?_
  rw [Option.map_eq_some_iff]
  refine KeyedList.find?_eq_some.trans ?_
  have hentries : d ∈ (DownloadTask.ofInfos g.1 g.2 m.outside.fileSize).service.infoMap.entries ↔
      d ∈ g.2.map (DownloadTask.initInfo g.1 m.outside.fileSize) := KeyedList.mem_ofList hn
  simp only [hentries, List.mem_map, h.faithful.lastWritten]
  constructor
  · rintro ⟨⟨d₀, hd₀, rfl⟩, hd⟩
    obtain ⟨row, hrow, ht, rfl⟩ := (hmem d₀).1 hd₀
    refine ⟨row, ⟨hrow, Prod.ext ht ?_⟩, (hinit row hrow ht).symm⟩
    exact (hM.rows row hrow).symm.trans hd
  · rintro ⟨row, ⟨hrow, hkey⟩, rfl⟩
    obtain ⟨ht, hd⟩ := Prod.mk.inj hkey
    refine ⟨⟨_, (hmem _).2 ⟨row, hrow, ht, rfl⟩, hinit row hrow ht⟩, hd⟩

/-- The tasks are those with rows, with the records that their rows restore. -/
structure Restores (m : DownloadTaskManager) : Prop where
  entry : ∀ taskId, m.find? taskId ≠ none ↔ ∃ id, lastWritten (dbOps m.outside.trace) (taskId, id) ≠ none
  records : ∀ taskId i t, m.find? taskId = some i → m.task? i = some t →
    RestoredFrom (dbOps m.outside.trace) m.outside.fileSize taskId t.service.infoMap

theorem restores_restart (h : TableOk m) (hM : ManagerOk m) : Restores m.restart := by
  have hM₀ : ManagerOk { calls := m.calls, outside := m.outside } := .of_noTask rfl rfl hM.rows
  unfold DownloadTaskManager.restart restoreDownloadTask
  split
  · rename_i hq
    have hnone : ∀ key row, lastWritten (dbOps m.outside.trace) key ≠ some row := fun key row he => by
      have hrow := ((h.faithful.lastWritten key row).1 he).1
      have hd : DownloadInfoTable.parseDbValue row ∈ DownloadInfoOperator.queryAll m.outside.table :=
        List.mem_map_of_mem hrow
      rw [show DownloadInfoOperator.queryAll m.outside.table = [] from hq] at hd
      cases hd
    refine ⟨fun taskId => iff_of_false (fun hne => hne rfl) fun ⟨id, hne⟩ => ?_, fun taskId i t hi => by cases hi⟩
    obtain ⟨row, hrow⟩ := Option.ne_none_iff_exists'.1 hne
    exact hnone _ row hrow
  · have hid := hM.versionId_queryAll
    obtain ⟨hM', hfind, hrec, hkeys⟩ := foldl_groupRestored
      (groups (filterDuplicates (DownloadInfoOperator.queryAll m.outside.table)).entries) hM₀ (nodup_groups _)
      (fun g hg => ⟨(mem_groups hg).2, nodup_of_mem_groups hid hg⟩) (fun g hg => restoredFrom_group h hM hg)
      (fun taskId i t hi => by cases hi) rfl
    refine ⟨fun taskId => ⟨fun hne => ?_, fun ⟨id, hne⟩ => ?_⟩, hrec⟩
    · obtain ⟨i, hi⟩ := Option.ne_none_iff_exists'.1 hne
      obtain ⟨t, ht, -⟩ := hM'.task_of_find? hi
      have hok := hM'.tasks i t ht
      obtain ⟨id, hid⟩ := List.exists_mem_of_ne_nil _ hok.nonempty
      refine ⟨id, fun hnone => ?_⟩
      have hr := hrec taskId i t hi ht id
      rw [hnone, Option.map_none, KeyedList.find?_eq_none] at hr
      exact hr ((hok.ids id).1 hid)
    · refine (hfind taskId).2 (.inr ?_)
      by_contra hnot
      rw [hkeys (taskId, id) hnot] at hne
      obtain ⟨row, hrow⟩ := Option.ne_none_iff_exists'.1 hne
      obtain ⟨hin, hkey⟩ := (h.faithful.lastWritten _ row).1 hrow
      refine hnot (mem_map_fst_groups.2 ⟨DownloadInfoTable.parseDbValue row, ?_, congrArg Prod.fst hkey⟩)
      exact (mem_filterDuplicates (nodup_restoreKey h)).2 (List.mem_map_of_mem hin)

namespace TableOk

theorem restoreGroup (taskId : String) (h : TableOk m) (hM : ManagerOk m) (hne : infos ≠ [])
    (hnodup : (infos.map (·.versionId)).Nodup)
    (hids : ∀ row ∈ m.outside.table, ∀ d ∈ infos, row.downloadId = d.versionId → row.taskId = taskId) :
    TableOk (m.restoreGroup taskId infos) ∧
      ∀ row ∈ (m.restoreGroup taskId infos).outside.table, ∃ row₀ ∈ m.outside.table, SameRow row₀ row := by
  have h₁ : TableOk ((m.newTask taskId infos).ensureInsert taskId m.tasks.length) :=
    (h.newTask hne hnodup hids).congr rfl rfl
  have hM₁ := (hM.newTask taskId hne hnodup).ensureInsert ((task?_newTask _ _ _).trans (if_pos rfl))
  have hq : Quiet ((m.newTask taskId infos).ensureInsert taskId m.tasks.length) (m.restoreGroup taskId infos) := by
    have hc := Quiet.isDownloadComplete (m := (m.newTask taskId infos).ensureInsert taskId m.tasks.length)
      m.tasks.length
    unfold DownloadTaskManager.restoreGroup
    dsimp only
    split <;> rename_i he <;> have hc := congrArg Prod.fst he ▸ hc
    · exact hc
    · exact hc.trans (.withTask fun _ _ => .recover)
  refine ⟨h₁.quiet hM₁ hq, fun row hrow => ?_⟩
  obtain ⟨ops, htable, -, hown⟩ := hq.statements
  exact sameRow_of_mem_foldl (fun op hop _ => (hown op hop).ne_insert) (htable ▸ hrow)

theorem restart (h : TableOk m) (hM : ManagerOk m) : TableOk m.restart := by
  have h₀ : TableOk { calls := m.calls, outside := m.outside } :=
    ⟨h.faithful, h.rows, fun i t hi => by simp [task?] at hi, h.hash⟩
  unfold DownloadTaskManager.restart restoreDownloadTask
  split
  · exact h₀
  rename_i hq
  have hid := hM.versionId_queryAll
  refine (List.foldlRecOn (motive := fun m' : DownloadTaskManager => ManagerOk m' ∧ TableOk m' ∧
    ∀ row ∈ m'.outside.table, ∃ row₀ ∈ m.outside.table, SameRow row₀ row) _ _ ?_ ?_).2.1
  · exact ⟨.of_noTask rfl rfl hM.rows, h₀.congr rfl rfl, fun row hrow => ⟨row, hrow, .refl row⟩⟩
  rintro m' ⟨hM', h', hrows⟩ g hg
  have hnd := nodup_of_mem_groups hid hg
  have hne := (mem_groups hg).2
  obtain ⟨hok, hsame⟩ := h'.restoreGroup g.1 hM' hne hnd fun row hrow d hd he => by
    obtain ⟨row₀, hrow₀, hs⟩ := hrows row hrow
    rw [(mem_groups hg).1] at hd
    obtain ⟨hd, ht⟩ := List.mem_filter.1 hd
    obtain ⟨row₁, hrow₁, rfl⟩ := List.mem_map.1 (mem_of_mem_filterDuplicates hd)
    have hv : row₁.versionId = row₁.downloadId := hM.rows row₁ hrow₁
    have hd₀ : row₀.downloadId = row₁.downloadId := hs.downloadId.symm.trans (he.trans hv)
    exact (hs.taskId.trans (h.rows row₀ hrow₀ row₁ hrow₁ hd₀)).trans (of_decide_eq_true ht)
  refine ⟨hM'.restoreGroup g.1 hne hnd, hok, fun row hrow => ?_⟩
  obtain ⟨row₁, hrow₁, hs₁⟩ := hsame row hrow
  obtain ⟨row₀, hrow₀, hs₀⟩ := hrows row₁ hrow₁
  exact ⟨row₀, hrow₀, hs₀.trans hs₁⟩

end TableOk

/-- The steps whose starts are fresh. -/
def FreshStarts (calculateHashCode : String → String) (m : DownloadTaskManager) : ManagerOp → Prop
  | .start downloadInfos _ _ _ =>
    StartsFresh (getTaskId calculateHashCode (removeDuplicateVersionId downloadInfos)) downloadInfos m
  | _ => True

theorem TableOk.step {calculateHashCode : String → String}
    (hhash : ∀ s, '_' ∉ (calculateHashCode s).toList) {op : ManagerOp}
    (h : TableOk m) (hM : ManagerOk m) (hop : FreshStarts calculateHashCode m op)
    (hs : m.step calculateHashCode op = some m') :
    TableOk m' := by
  obtain hq | ⟨downloadInfos, business, isMemoryEnough, ended, rfl, rfl⟩ | ⟨-, rfl⟩ := step_cases hM hs
  exacts [h.quiet hM hq, h.start hM hhash business isMemoryEnough ended hop, h.restart hM]

/-- `CalculateHashCode` of the version ids below. -/
def digest (versionIds : String) : String :=
  if versionIds = "v1" then "3bfc269594ef649228e9a74bab00f042efc91d5acc6fbee31a382e80d42388fe"
  else if versionIds = "v1v2" then "70c67caecd7f4976756e7f51786238ee9191447a24a0da82d35f26230ab68cd5"
  else "283e91a28a4f97c1d51da5a68b2662c2fd0f7bfe137e8f21f437fe601e12b73c"

def startOf (versionIds : List String) : ManagerOp := .start (versionIds.map ServiceState.samplePackage) true true fun _ => true

/-- The task of `v1` succeeds and leaves the map, then it is started again. -/
def startTwice : List ManagerOp :=
  [.outside (fun _ => 0) 0 .wifi, startOf ["v1"], .report 0 0 (ServiceState.successReport "v1"), .deliver 0, startOf ["v1"]]

/-- The tasks of `v1`, `v2` and of `v2`, `v3` share a download, which the second one downloads. -/
def shareDownload : List ManagerOp :=
  [.outside (fun _ => 0) 0 .wifi, startOf ["v1", "v2"], startOf ["v2", "v3"],
    .report 1 0 (ServiceState.successReport "v2")]

/-- The package of `v1` is gone when the process starts again. -/
def loseFile : List ManagerOp :=
  [.outside (fun _ => 100) 0 .wifi, startOf ["v1"], .report 0 0 (ServiceState.successReport "v1"), .outside (fun _ => 0) 1 .wifi]

end DownloadTaskManager
end UpdateService
