import UpdateService.DownloadTask
import UpdateService.ServiceRun
import UpdateService.TableLog

/-!
# What the functions of a task do to its downloads and to the table

`Acts`: every function of a service but `Start` keeps the task id and the ids of the downloads, and
all its statements are updates of rows of its downloads and the removal of the rows of its task;
`Inserts` is what `Start` does. Both again for the functions of a task.
-/

namespace UpdateService

def dbOps (trace : List ServiceEvent) : List DbOp :=
  trace.filterMap fun
    | .db op => some op
    | .progress _ _ => none

@[simp] theorem dbOps_append (t t' : List ServiceEvent) : dbOps (t ++ t') = dbOps t ++ dbOps t' := List.filterMap_append

@[simp] theorem dbOps_db (op : DbOp) : dbOps [.db op] = [op] := rfl

@[simp] theorem dbOps_progress (info : DownloadCallbackInfo) (infos : DownloadInfoMap) :
    dbOps [.progress info infos] = [] := rfl

/-- The part of a record that says which package it is about. -/
structure SamePackage (d d' : DownloadInfo) : Prop where
  versionId : d'.versionId = d.versionId
  taskId : d'.taskId = d.taskId
  path : d'.path = d.path

namespace ServiceState
variable {s s' s₀ s₁ s₂ : ServiceState} {d : DownloadInfo} {info : DownloadCallbackInfo} {id : String} {op : DbOp}

/-- An update made for a record of the service, or the removal of the rows of its task. -/
def IsOwn (s : ServiceState) : DbOp → Prop
  | .insert _ => False
  | .update _ d => ∃ d₀, s.infoMap.find? d.downloadId = some d₀ ∧ d.taskId = d₀.taskId
  | .deleteByTaskId taskId => taskId = s.taskId

structure SameDownloads (s s' : ServiceState) : Prop where
  taskId : s'.taskId = s.taskId
  keys : s'.infoMap.keys = s.infoMap.keys
  package : ∀ id d', s'.infoMap.find? id = some d' → ∃ d, s.infoMap.find? id = some d ∧ SamePackage d d'

theorem SameDownloads.of_infoMap (htask : s'.taskId = s.taskId) (hinfo : s'.infoMap = s.infoMap) : SameDownloads s s' :=
  ⟨htask, by rw [hinfo], fun id d hd => ⟨d, hinfo ▸ hd, rfl, rfl, rfl⟩⟩

structure Acts (s s' : ServiceState) : Prop extends SameDownloads s s' where
  statements : ∃ ops, s'.table = ops.foldl DbOp.apply s.table ∧ dbOps s'.trace = dbOps s.trace ++ ops ∧ ∀ op ∈ ops, s.IsOwn op

namespace Acts

theorem of_eq (htask : s'.taskId = s.taskId) (hinfo : s'.infoMap = s.infoMap) (htable : s'.table = s.table)
    (htrace : dbOps s'.trace = dbOps s.trace) : Acts s s' :=
  ⟨.of_infoMap htask hinfo, [], htable, by rw [htrace, List.append_nil], by simp⟩

theorem refl (s : ServiceState) : Acts s s := .of_eq rfl rfl rfl rfl

theorem isOwn (h : Acts s s') (hop : s'.IsOwn op) : s.IsOwn op := by
  cases op with
  | insert d => exact hop
  | update u d =>
    obtain ⟨d', hd', ht'⟩ := hop
    obtain ⟨d₀, hd₀, hp⟩ := h.package _ d' hd'
    exact ⟨d₀, hd₀, ht'.trans hp.taskId⟩
  | deleteByTaskId taskId => exact hop.trans h.taskId

theorem trans (h₁ : Acts s₀ s₁) (h₂ : Acts s₁ s₂) : Acts s₀ s₂ := by
  refine ⟨⟨h₂.taskId.trans h₁.taskId, h₂.keys.trans h₁.keys, fun id d hd => ?_⟩, ?_⟩
  · obtain ⟨d₁, hd₁, hp₁⟩ := h₂.package id d hd
    obtain ⟨d₀, hd₀, hp₀⟩ := h₁.package id d₁ hd₁
    exact ⟨d₀, hd₀, hp₁.versionId.trans hp₀.versionId, hp₁.taskId.trans hp₀.taskId, hp₁.path.trans hp₀.path⟩
  · obtain ⟨ops₁, htable₁, htrace₁, hown₁⟩ := h₁.statements
    obtain ⟨ops₂, htable₂, htrace₂, hown₂⟩ := h₂.statements
    refine ⟨ops₁ ++ ops₂, by rw [htable₂, htable₁, List.foldl_append], by rw [htrace₂, htrace₁, List.append_assoc], ?_⟩
    intro op hop
    rcases List.mem_append.1 hop with hop | hop
    exacts [hown₁ op hop, h₁.isOwn (hown₂ op hop)]

theorem exec (hop : s.IsOwn op) : Acts s (s.exec op) :=
  ⟨.of_infoMap rfl rfl, [op], rfl, by simp [ServiceState.exec], by simpa using hop⟩

theorem modifyInfo {f : DownloadInfo → DownloadInfo} (hf : ∀ d, (f d).downloadId = d.downloadId)
    (hp : ∀ d, SamePackage d (f d)) : Acts s (s.modifyInfo id f hf) := by
  refine ⟨⟨rfl, by simp [ServiceState.modifyInfo], fun id' d' hd' => ?_⟩, [], rfl,
    by simp [ServiceState.modifyInfo], by simp⟩
  rw [find?_modifyInfo] at hd'
  obtain ⟨d, hd, rfl⟩ := Option.map_eq_some_iff.1 hd'
  refine ⟨d, hd, ?_⟩
  split
  exacts [hp d, ⟨rfl, rfl, rfl⟩]

theorem execUpdate {u : ByIdUpdate} (h : Acts s s') (hd : s.infoMap.find? id = some d) {d' : DownloadInfo}
    (hid : d'.downloadId = id) (htask : d'.taskId = d.taskId) : Acts s (s'.exec (.update u d')) := by
  refine h.trans (.exec ?_)
  obtain ⟨d₁, hd₁⟩ : ∃ d₁, s'.infoMap.find? id = some d₁ := by
    cases hd₁ : s'.infoMap.find? id with
    | some d₁ => exact ⟨d₁, rfl⟩
    | none =>
      rw [KeyedList.find?_eq_none, h.keys, ← KeyedList.find?_eq_none, hd] at hd₁
      cases hd₁
  obtain ⟨d₂, hd₂, hp⟩ := h.package id d₁ hd₁
  obtain rfl := Option.some.inj (hd.symm.trans hd₂)
  exact ⟨d₁, hid ▸ hd₁, htask.trans hp.taskId.symm⟩

theorem forEachInfo {f : DownloadInfo → ServiceState → ServiceState}
    (hf : ∀ s d, s.infoMap.find? d.downloadId = some d → Acts s (f d s)) : Acts s (s.forEachInfo f) :=
  forEachInfo_induction (P := Acts s) (refl s) fun s' d h hd => h.trans (hf s' d hd)

/-! ### Sections -/

theorem startDownloadThread : Acts s (s.startDownloadThread d) := .of_eq rfl rfl rfl rfl

theorem updateDownloadInfo (info : DownloadCallbackInfo) : Acts s (s.updateDownloadInfo info) := by
  unfold ServiceState.updateDownloadInfo
  cases hd : s.infoMap.find? info.downloadId with
  | none => exact refl s
  | some d =>
    dsimp only
    split
    · exact refl s
    have hm : Acts s (s.modifyInfo info.downloadId (·.updateDownloadInfo info)
      (DownloadInfo.updateDownloadInfo_downloadId info)) :=
      .modifyInfo _ fun d => ⟨rfl, rfl, rfl⟩
    split
    · exact hm.execUpdate hd (downloadId_of_find? hd :) rfl
    · exact hm

theorem callbackDownloadProgress (info : DownloadCallbackInfo) : Acts s (s.callbackDownloadProgress info) := by
  unfold ServiceState.callbackDownloadProgress
  split
  · exact .of_eq rfl rfl rfl (by simp)
  · exact refl s

theorem finishReport (info : DownloadCallbackInfo) : Acts s (s.finishReport info) :=
  (updateDownloadInfo info).trans (callbackDownloadProgress info)

theorem handleRetry (id : String) (endReason : DownloadEndReason) : Acts s (s.handleRetry id endReason).2 := by
  unfold ServiceState.handleRetry
  cases hd : s.infoMap.find? id with
  | none => exact refl s
  | some d =>
    have h₁ : Acts s (s.modifyInfo id (·.countRetry) DownloadInfo.countRetry_downloadId) :=
      .modifyInfo _ fun d => ⟨rfl, rfl, rfl⟩
    have h₂ : Acts s ((s.modifyInfo id (·.countRetry) DownloadInfo.countRetry_downloadId).exec (.update .retryTimes d.countRetry)) :=
      h₁.execUpdate hd (downloadId_of_find? hd :) rfl
    refine (h₂.trans (.modifyInfo _ fun d => ?_)).trans startDownloadThread
    unfold DownloadInfo.switchUrl
    split <;> exact ⟨rfl, rfl, rfl⟩

theorem report (info : DownloadCallbackInfo) : Acts s (s.updateDownloadProgress info) := by
  unfold ServiceState.updateDownloadProgress
  have h₁ : Acts s (if info.status ≠ .downloading ∧ info.status ≠ .verifying then s.removeThread info.downloadId else s) := by
    split
    exacts [.of_eq rfl rfl rfl rfl, refl s]
  generalize (if info.status ≠ .downloading ∧ info.status ≠ .verifying then s.removeThread info.downloadId else s) = s₁ at h₁
  dsimp only
  split
  · exact h₁.trans (finishReport info)
  split
  · exact h₁
  rename_i d hd
  have hretry := handleRetry (s := s₁) info.downloadId info.endReason
  split
  · have h₂ : Acts s (s₁.clearPackage d.path) := h₁.trans (.of_eq rfl rfl rfl rfl)
    exact h₂.trans (finishReport info)
  split
  · exact h₁.trans (finishReport info)
  split <;> rename_i he <;> rw [he] at hretry
  · exact h₁.trans hretry
  · exact (h₁.trans hretry).trans (finishReport info)

theorem callback (info : DownloadCallbackInfo) : Acts s (s.callbackUpdateDownloadProgress info) := by
  unfold callbackUpdateDownloadProgress
  split
  exacts [refl s, report info]

/-! ### Operations -/

theorem stopAllDownloadThread (ended : Nat → Bool) : Acts s (s.stopAllDownloadThread ended) := .of_eq rfl rfl rfl rfl

theorem pause (ended : Nat → Bool) : Acts s (s.pause ended).2 :=
  (stopAllDownloadThread ended).trans (.forEachInfo fun _ _ _ => report _)

theorem updateDownloadNetType (netType : NetType) : Acts s (s.updateDownloadNetType netType) := by
  refine .forEachInfo fun s d hd => ?_
  split
  · exact refl s
  · have hm : Acts s (s.modifyInfo d.downloadId (·.withNetType netType)
      (DownloadInfo.withNetType_downloadId netType)) :=
      .modifyInfo _ fun d => ⟨rfl, rfl, rfl⟩
    exact hm.execUpdate hd rfl rfl

theorem resume (netType : NetType) : Acts s (s.resume netType).2 := by
  unfold ServiceState.resume
  split
  · exact refl s
  have h₀ : Acts s { s with isStopCallback := false } := .of_eq rfl rfl rfl rfl
  have h₁ := h₀.trans (updateDownloadNetType netType)
  dsimp only
  split
  · exact h₁
  refine h₁.trans (.forEachInfo fun s d hd => ?_)
  unfold resumeInfo
  split
  · exact refl s
  split
  · exact refl s
  · have hm : Acts s (s.modifyInfo d.downloadId (·.resumed) DownloadInfo.resumed_downloadId) :=
      .modifyInfo _ fun d => ⟨rfl, rfl, rfl⟩
    exact hm.trans startDownloadThread

theorem cancel (ended : Nat → Bool) (isDeleteFiles : Bool) : Acts s (s.cancel ended isDeleteFiles) := by
  have h₁ : Acts s (if isDeleteFiles then (s.stopAllDownloadThread ended).deleteDownloadedFiles else s.stopAllDownloadThread ended) := by
    split
    · exact (stopAllDownloadThread ended).trans (.forEachInfo fun _ _ _ => .of_eq rfl rfl rfl rfl)
    · exact stopAllDownloadThread ended
  have h₂ := h₁.trans (.forEachInfo (f := fun d s => s.updateDownloadProgress (d.cancelReport s.now))
    fun _ _ _ => report _)
  exact h₂.trans (.exec (h₁.taskId.trans h₂.taskId.symm))

theorem recover : Acts s s.recover := by
  unfold ServiceState.recover
  split
  · exact refl s
  have h₁ : Acts s { s with onDownloadCallback := true } := .of_eq rfl rfl rfl rfl
  refine h₁.trans (.forEachInfo fun s d _ => ?_)
  split
  · exact refl s
  split
  · exact refl s
  · exact report _

theorem netChangeToStart : Acts s s.netChangeToStart := by
  refine .forEachInfo fun s d _ => ?_
  split
  · exact refl s
  split
  · exact refl s
  · exact startDownloadThread

theorem netChangeToPause : Acts s s.netChangeToPause := by
  refine netChangeToPause_induction (P := Acts s) (refl s) fun s' i _ _ h => h.trans ?_
  obtain he | ⟨th, th', -, -, -, -, -, he | ⟨info, -, -, -, -, he⟩⟩ := pauseThread_cases i s' <;> rw [he]
  · exact refl s'
  · exact .of_eq rfl rfl rfl rfl
  · have h₁ : Acts s' { s' with threads := s'.threads.set i th' } := .of_eq rfl rfl rfl rfl
    exact h₁.trans (callback info)

theorem resetFailed : Acts s (s.forEachInfo fun d =>
    ServiceState.modifyInfo d.downloadId TaskState.resetFailed TaskState.resetFailed_downloadId) :=
  .forEachInfo fun _ _ _ => .modifyInfo _ fun _ => ⟨rfl, rfl, rfl⟩

end Acts

theorem taskId_ne_of_mem_cancel (ended : Nat → Bool) (isDeleteFiles : Bool) :
    ∀ row ∈ (s.cancel ended isDeleteFiles).table, row.taskId ≠ s.taskId := by
  intro row hrow
  obtain ⟨s', he, hid⟩ : ∃ s' : ServiceState, s.cancel ended isDeleteFiles = s'.notifyCancelCompleted ∧
    s'.taskId = s.taskId := by
    refine ⟨_, rfl, ?_⟩
    split
    · have h : Acts (s.stopAllDownloadThread ended) (s.stopAllDownloadThread ended).deleteDownloadedFiles :=
        .forEachInfo fun _ _ _ => .of_eq rfl rfl rfl rfl
      exact h.taskId
    · rfl
  rw [he] at hrow
  exact hid ▸ of_decide_eq_false (List.mem_deleteWhere.1 hrow).2

/-- What `Start` does: it inserts rows for different downloads of the service, and changes no record. -/
structure Inserts (s s' : ServiceState) : Prop where
  taskId : s'.taskId = s.taskId
  infoMap : s'.infoMap = s.infoMap
  statements : ∃ l : List DownloadInfo, (l.map DownloadInfo.downloadId).Nodup ∧
    (∀ d ∈ l, s.infoMap.find? d.downloadId = some d ∧ s'.hasThread d.downloadId = true) ∧
    s'.table = (l.map DbOp.insert).foldl DbOp.apply s.table ∧ dbOps s'.trace = dbOps s.trace ++ l.map DbOp.insert

theorem Inserts.startInfo (h : Inserts s s') (hd : s'.infoMap.find? d.downloadId = some d) :
    Inserts s (s'.startInfo d) := by
  unfold ServiceState.startInfo
  split
  · exact h
  split
  · exact h
  rename_i hth _
  obtain ⟨l, hnodup, hl, htable, htrace⟩ := h.statements
  refine ⟨h.taskId, h.infoMap, l ++ [d], ?_, fun d' hd' => ?_, ?_, ?_⟩
  · rw [List.map_append, List.nodup_append]
    refine ⟨hnodup, by simp, fun id hid id' hid' he => hth ?_⟩
    obtain ⟨d', hd', rfl⟩ := List.mem_map.1 hid
    rw [List.map_singleton, List.mem_singleton] at hid'
    rw [← hid', ← he]
    exact (hl d' hd').2
  · rw [hasThread_startDownloadThread]
    rcases List.mem_append.1 hd' with hd' | hd'
    · exact ⟨(hl d' hd').1, Bool.or_eq_true_iff.2 (.inr (hl d' hd').2)⟩
    · obtain rfl := List.mem_singleton.1 hd'
      exact ⟨h.infoMap ▸ hd, by simp⟩
  · rw [List.map_append, List.foldl_append, ← htable]
    rfl
  · rw [List.map_append, ← List.append_assoc, ← htrace]
    simp [ServiceState.startDownloadThread, ServiceState.exec]

theorem inserts_start (error : DownloadError) : Inserts s (s.start error).2 := by
  have hrefl : ∀ s' : ServiceState, s'.taskId = s.taskId → s'.infoMap = s.infoMap → s'.table = s.table →
      s'.trace = s.trace → Inserts s s' :=
    fun s' h₁ h₂ h₃ h₄ => ⟨h₁, h₂, [], by simp, by simp, h₃, by simp [h₄]⟩
  unfold start
  split
  · exact hrefl s rfl rfl rfl rfl
  split
  · exact hrefl s rfl rfl rfl rfl
  exact forEachInfo_induction (P := Inserts s) (hrefl _ rfl rfl rfl rfl) fun s' d h hd => h.startInfo hd

end ServiceState

/-! ### Tasks -/

structure SameTask (t t' : DownloadTask) : Prop where
  taskId : t'.taskId = t.taskId
  downloadIds : t'.downloadIds = t.downloadIds
  size : t'.taskProgressProcessor.totalInfoSize = t.taskProgressProcessor.totalInfoSize
  serviceTaskId : t'.service.taskId = t.service.taskId
  keys : t'.service.infoMap.keys = t.service.infoMap.keys
  package : ∀ id d', t'.service.infoMap.find? id = some d' → ∃ d, t.service.infoMap.find? id = some d ∧ SamePackage d d'

namespace SameTask
variable {t t' t'' : DownloadTask}

theorem of_service (htask : t'.taskId = t.taskId) (hids : t'.downloadIds = t.downloadIds)
    (hsize : t'.taskProgressProcessor.totalInfoSize = t.taskProgressProcessor.totalInfoSize)
    (hs : t'.service = t.service) :
    SameTask t t' :=
  ⟨htask, hids, hsize, by rw [hs], by rw [hs], fun id d hd => ⟨d, hs ▸ hd, rfl, rfl, rfl⟩⟩

theorem refl (t : DownloadTask) : SameTask t t := .of_service rfl rfl rfl rfl

theorem trans (h : SameTask t t') (h' : SameTask t' t'') : SameTask t t'' := by
  refine ⟨h'.taskId.trans h.taskId, h'.downloadIds.trans h.downloadIds, h'.size.trans h.size,
    h'.serviceTaskId.trans h.serviceTaskId, h'.keys.trans h.keys, fun id d hd => ?_⟩
  obtain ⟨d₁, hd₁, hp₁⟩ := h'.package id d hd
  obtain ⟨d₀, hd₀, hp₀⟩ := h.package id d₁ hd₁
  exact ⟨d₀, hd₀, hp₁.versionId.trans hp₀.versionId, hp₁.taskId.trans hp₀.taskId, hp₁.path.trans hp₀.path⟩

theorem getTaskProgress (infos : List DownloadInfo) : SameTask t (t.getTaskProgress infos).1 :=
  .of_service rfl rfl DownloadTaskProgressProcessor.totalInfoSize_update rfl

theorem reportProgress (p : ProgressInfo) : SameTask t (t.reportProgress p).1 := by
  obtain ⟨he | he, -⟩ | ⟨he, -⟩ := t.reportProgress_cases p <;> rw [he]
  exacts [refl t, .of_service rfl rfl rfl rfl, .of_service rfl rfl rfl rfl]

theorem updateTaskProgress (infos : List DownloadInfo) : SameTask t (t.updateTaskProgress infos).1 :=
  (getTaskProgress infos).trans (reportProgress _)

end SameTask

namespace TaskState
variable {s s' s'' : TaskState} {f : ServiceState → ServiceState}

theorem handle_service (s : TaskState) (e : ServiceEvent) : SameTask s.task (s.handle e).task ∧
    (s.handle e).task.service = s.task.service ∧ (s.handle e).task.callback = s.task.callback ∧
    (s.handle e).task.isStopDownloadingCallback = s.task.isStopDownloadingCallback := by
  cases e with
  | db op => exact ⟨.refl _, rfl, rfl, rfl⟩
  | progress info infoMap =>
    rw [handle_progress]
    refine ⟨.updateTaskProgress _, ?_⟩
    dsimp only
    rw [DownloadTask.updateTaskProgress_eq]
    obtain ⟨he | he, -⟩ | ⟨he, -⟩ := DownloadTask.reportProgress_cases
      (s.task.getTaskProgress (s.task.infos infoMap)).2 (s.task.getTaskProgress (s.task.infos infoMap)).1 <;>
      rw [he] <;> exact ⟨rfl, rfl, rfl⟩

theorem foldl_handle_service (es : List ServiceEvent) (s : TaskState) : SameTask s.task (es.foldl handle s).task ∧
    (es.foldl handle s).task.service = s.task.service ∧ (es.foldl handle s).task.callback = s.task.callback ∧
    (es.foldl handle s).task.isStopDownloadingCallback = s.task.isStopDownloadingCallback :=
  List.foldlRecOn (motive := fun s' : TaskState => SameTask s.task s'.task ∧ s'.task.service = s.task.service ∧
      s'.task.callback = s.task.callback ∧ s'.task.isStopDownloadingCallback = s.task.isStopDownloadingCallback)
    es handle ⟨.refl _, rfl, rfl, rfl⟩ fun s' ⟨h₁, h₂, h₃, h₄⟩ e _ =>
      have ⟨g₁, g₂, g₃, g₄⟩ := handle_service s' e
      ⟨h₁.trans g₁, g₂.trans h₂, g₃.trans h₃, g₄.trans h₄⟩

/-- While a service runs, only pauses and cancellations are passed on at once. -/
theorem call_of_foldl_handle {es : List ServiceEvent} {s : TaskState} {p : ProgressInfo} {b : Bool}
    (h : .call p b ∈ (es.foldl handle s).outputs) : .call p b ∈ s.outputs ∨ p.isSyncCallback = true ∧
    s.task.callback = some b := by
  have hfold : (es.foldl handle s).task.callback = s.task.callback ∧ (.call p b ∈ (es.foldl handle s).outputs →
      .call p b ∈ s.outputs ∨ p.isSyncCallback = true ∧ s.task.callback = some b) := by
    refine List.foldlRecOn (motive := fun s' : TaskState => s'.task.callback = s.task.callback ∧
      (.call p b ∈ s'.outputs → .call p b ∈ s.outputs ∨ p.isSyncCallback = true ∧ s.task.callback = some b))
      es handle ⟨rfl, .inl⟩ fun s' ⟨hcb, hs'⟩ e _ => ?_
    refine ⟨(handle_service s' e).2.2.1.trans hcb, fun hin => ?_⟩
    cases e with
    | db op => exact hs' hin
    | progress info infoMap =>
      rw [handle_progress] at hin
      rcases List.mem_append.1 hin with hin | hin
      · exact hs' hin
      rw [DownloadTask.updateTaskProgress_eq, Option.mem_toList] at hin
      obtain ⟨rfl, hsync, hcall⟩ := DownloadTask.call_of_reportProgress hin
      exact .inr ⟨hsync, hcb.symm.trans hcall⟩
  exact hfold.2 h

theorem sameTask_onService (h : ServiceState.SameDownloads s.serviceState (f s.serviceState)) :
    SameTask s.task (s.onService f).task := by
  obtain ⟨hs, -, -⟩ := foldl_handle_service (f s.serviceState).trace s
  exact ⟨hs.taskId, hs.downloadIds, hs.size, h.taskId, h.keys, h.package⟩

structure Acts (s s' : TaskState) : Prop where
  sameTask : SameTask s.task s'.task
  statements : ∃ ops, s'.outside.table = ops.foldl DbOp.apply s.outside.table ∧
    dbOps s'.outside.trace = dbOps s.outside.trace ++ ops ∧ ∀ op ∈ ops, s.serviceState.IsOwn op

namespace Acts

theorem of_outside (h : SameTask s.task s'.task) (ho : s'.outside = s.outside) : Acts s s' :=
  ⟨h, [], by rw [ho]; rfl, by rw [ho, List.append_nil], by simp⟩

theorem trans (h : Acts s s') (h' : Acts s' s'') : Acts s s'' := by
  obtain ⟨ops, htable, htrace, hown⟩ := h.statements
  obtain ⟨ops', htable', htrace', hown'⟩ := h'.statements
  refine ⟨h.sameTask.trans h'.sameTask, ops ++ ops', by rw [htable', htable, List.foldl_append],
    by rw [htrace', htrace, List.append_assoc], fun op hop => ?_⟩
  rcases List.mem_append.1 hop with hop | hop
  · exact hown op hop
  · have hacts : ServiceState.IsOwn s'.serviceState op := hown' op hop
    cases op with
    | insert d => exact hacts
    | update u d =>
      obtain ⟨d', hd', ht'⟩ := hacts
      obtain ⟨d₀, hd₀, hp⟩ := h.sameTask.package _ d' hd'
      exact ⟨d₀, hd₀, ht'.trans hp.taskId⟩
    | deleteByTaskId taskId => exact Eq.trans hacts h.sameTask.serviceTaskId

theorem onService (h : ServiceState.Acts s.serviceState (f s.serviceState)) : Acts s (s.onService f) := by
  obtain ⟨ops, htable, htrace, hown⟩ := h.statements
  refine ⟨sameTask_onService h.toSameDownloads, ops, htable, ?_, hown⟩
  change dbOps (s.outside.trace ++ (f s.serviceState).trace) = _
  rw [dbOps_append, htrace]
  rfl

theorem disableCallback : Acts s s.disableCallback := of_outside (.of_service rfl rfl rfl rfl) rfl

theorem enableCallback : Acts s s.enableCallback := of_outside (.of_service rfl rfl rfl rfl) rfl

theorem setCallback (callback : Option Bool) : Acts s (s.setCallback callback) := of_outside (.of_service rfl rfl rfl rfl) rfl

theorem pause (ended : Nat → Bool) : Acts s (s.pause ended).2 :=
  disableCallback.trans (onService (f := fun v => (v.pause ended).2) (.pause ended))

theorem resume (netType : NetType) (business : Bool) : Acts s (s.resume netType business).2 := by
  have h₁ : Acts s (s.onService fun v => v.forEachInfo fun d =>
      ServiceState.modifyInfo d.downloadId resetFailed resetFailed_downloadId) := onService .resetFailed
  have h₂ := (h₁.trans (setCallback (some business))).trans enableCallback
  have h₃ := h₂.trans (onService (f := fun v => (v.resume netType).2) (.resume netType))
  refine h₃.trans (of_outside ?_ rfl)
  exact (SameTask.getTaskProgress _).trans (.of_service rfl rfl rfl rfl)

theorem cancel (ended : Nat → Bool) (isDeleteFiles : Bool) : Acts s (s.cancel ended isDeleteFiles).2 :=
  (disableCallback.trans (onService (f := fun v => v.cancel ended isDeleteFiles) (.cancel ended isDeleteFiles))).trans
    (setCallback none)

theorem recover : Acts s s.recover := by
  unfold TaskState.recover
  split
  exacts [of_outside (.refl _) rfl, onService .recover]

theorem onNetChange : Acts s s.onNetChange := by
  unfold TaskState.onNetChange
  split
  · exact enableCallback.trans (onService .netChangeToStart)
  · exact disableCallback.trans (onService .netChangeToPause)

theorem report (info : DownloadCallbackInfo) : Acts s (s.report info) := onService (.callback info)

theorem deliver (p : ProgressInfo) : Acts s (s.deliver p) := of_outside (SameTask.getTaskProgress _) rfl

end Acts

/-- What `Start` does to a task and to the table. -/
structure Inserts (s s' : TaskState) : Prop where
  sameTask : SameTask s.task s'.task
  statements : ∃ l : List DownloadInfo, (l.map DownloadInfo.downloadId).Nodup ∧
    (∀ d ∈ l, s.task.service.infoMap.find? d.downloadId = some d) ∧
    s'.outside.table = (l.map DbOp.insert).foldl DbOp.apply s.outside.table ∧
    dbOps s'.outside.trace = dbOps s.outside.trace ++ l.map DbOp.insert

theorem inserts_start (business isMemoryEnough : Bool) (error : DownloadError) :
    Inserts s (s.start business isMemoryEnough error).2 := by
  have hnone : ∀ s' : TaskState, SameTask s.task s'.task → s'.outside = s.outside → Inserts s s' :=
    fun s' h ho => ⟨h, [], by simp, by simp, by rw [ho]; rfl, by rw [ho]; simp⟩
  unfold TaskState.start
  split
  · exact hnone s (.refl _) rfl
  dsimp only
  split
  · exact hnone _ (.of_service rfl rfl rfl rfl) rfl
  have h := ServiceState.inserts_start (s := (s.setCallback (some business)).serviceState) error
  obtain ⟨l, hnodup, hl, htable, htrace⟩ := h.statements
  have hs : SameTask s.task (s.setCallback (some business)).task := .of_service rfl rfl rfl rfl
  have hs' := hs.trans (sameTask_onService (f := fun v => (v.start error).2) (.of_infoMap h.taskId h.infoMap))
  refine ⟨hs'.trans (.of_service rfl rfl rfl rfl), l, hnodup, fun d hd => (hl d hd).1, htable, ?_⟩
  change dbOps (s.outside.trace ++ _) = _
  rw [dbOps_append, htrace]
  rfl

end TaskState

structure TaskOk (t : DownloadTask) : Prop where
  service : t.service.taskId = t.taskId
  nonempty : t.downloadIds ≠ []
  nodup : t.downloadIds.Nodup
  ids : ∀ id, id ∈ t.downloadIds ↔ id ∈ t.service.infoMap.keys
  size : t.taskProgressProcessor.totalInfoSize = t.downloadIds.length
  records : ∀ id d, t.service.infoMap.find? id = some d → d.taskId = t.taskId ∧ d.versionId = id

namespace TaskOk
variable {t t' : DownloadTask}

theorem of_same (h : TaskOk t) (hs : SameTask t t') : TaskOk t' where
  service := by rw [hs.serviceTaskId, hs.taskId]; exact h.service
  nonempty := hs.downloadIds ▸ h.nonempty
  nodup := hs.downloadIds ▸ h.nodup
  ids := by rw [hs.downloadIds, hs.keys]; exact h.ids
  size := by rw [hs.size, hs.downloadIds]; exact h.size
  records := fun id d hd => by
    obtain ⟨d₀, hd₀, hp⟩ := hs.package id d hd
    rw [hp.taskId, hp.versionId, hs.taskId]
    exact h.records id d₀ hd₀

theorem ofInfos (taskId : String) {downloadInfos : List DownloadInfo} (fileSize : String → Int)
    (hne : downloadInfos ≠ [])
    (hnodup : (downloadInfos.map (·.versionId)).Nodup) : TaskOk (.ofInfos taskId downloadInfos fileSize) := by
  let infos := downloadInfos.map (DownloadTask.initInfo taskId fileSize)
  have hn : (infos.map DownloadInfo.downloadId).Nodup := by
    rw [List.map_map]
    exact hnodup
  have hmem : ∀ d, d ∈ (KeyedList.ofList infos : DownloadInfoMap).entries ↔ d ∈ infos :=
    fun d => KeyedList.mem_ofList hn
  exact {
    service := rfl
    nonempty := by simpa [DownloadTask.ofInfos] using hne
    nodup := hn
    ids := fun id => by
      change id ∈ infos.map DownloadInfo.downloadId ↔ id ∈ (KeyedList.ofList infos : DownloadInfoMap).entries.map DownloadInfo.downloadId
      simp only [List.mem_map, hmem]
    size := by
      change ((DownloadTaskProgressProcessor.ofInfos infos).update infos).totalInfoSize = (infos.map DownloadInfo.downloadId).length
      rw [DownloadTaskProgressProcessor.totalInfoSize_update, List.length_map]
      rfl
    records := fun id d hd => by
      obtain ⟨hin, rfl⟩ := KeyedList.find?_eq_some.1 hd
      obtain ⟨d₀, -, rfl⟩ := List.mem_map.1 ((hmem d).1 hin)
      exact ⟨rfl, rfl⟩ }

end TaskOk

end UpdateService
