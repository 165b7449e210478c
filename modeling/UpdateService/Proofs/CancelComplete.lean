import UpdateService.ManagerRun

/-!
# `Cancel` is complete when its report reaches the manager

A cancelled task leaves the map only through the report that `NotifyCancelCompleted` makes of the
first round after which nothing is pending. `CanCancel` says of the state before that this report is
made and passed on and that no thread outlives the stop; `cancel_complete_iff` says that it is exact.
-/

namespace UpdateService

/-- The task is not over for this download. -/
def DownloadInfo.isPending (d : DownloadInfo) : Bool := d.status = .downloading || d.status = .verifying || d.isPaused

theorem DownloadInfo.isPending_iff {d : DownloadInfo} : d.isPending = true ↔
    d.getTaskStatus = .downloading ∨ d.getTaskStatus = .verifying ∨ d.getTaskStatus = .pause ∨
    d.getTaskStatus = .autoPause := by
  unfold isPending isPaused getTaskStatus
  cases d.status <;> cases d.isIgnoredFail <;> simp

/-- A call that reports a cancelled task. -/
def TaskOutput.isCancel : TaskOutput → Bool
  | .call progressInfo _ => progressInfo.taskStatus = .cancel
  | .submit _ => false

namespace DownloadTaskProgressProcessor

theorem status_update_eq_cancel {infos : List DownloadInfo} {p : DownloadTaskProgressProcessor} {d : DownloadInfo}
    (h : p.totalInfoSize = infos.length) (hd : d ∈ infos) (hc : d.status = .cancel) :
    (p.update infos).status = .cancel ↔ ∀ d ∈ infos, d.isPending = false := by
  have hst : d.getTaskStatus = .cancel := by simp [DownloadInfo.getTaskStatus, hc]
  rw [status_update h, if_neg fun hi => by simp [hi d hd] at hst, if_neg fun hi => by simp [hi d hd] at hst]
  simp only [← Bool.not_eq_true, DownloadInfo.isPending_iff]
  constructor
  · intro he d' hd'
    split_ifs at he with h₁ h₂ h₃ h₄
    rintro (hs | hs | hs | hs)
    exacts [h₁ ⟨d', hd', .inl hs⟩, h₁ ⟨d', hd', .inr hs⟩, h₂ ⟨d', hd', hs⟩, h₃ ⟨d', hd', hs⟩]
  · intro hn
    rw [if_neg ?_, if_neg ?_, if_neg ?_, if_pos ⟨d, hd, hst⟩]
    · rintro ⟨d', hd', hs⟩
      exact hn d' hd' (.inr (.inr (.inr hs)))
    · rintro ⟨d', hd', hs⟩
      exact hn d' hd' (.inr (.inr (.inl hs)))
    · rintro ⟨d', hd', hs | hs⟩
      exacts [hn d' hd' (.inl hs), hn d' hd' (.inr (.inl hs))]

end DownloadTaskProgressProcessor

namespace DownloadTask
variable {t : DownloadTask} {m : DownloadInfoMap} {d : DownloadInfo}

theorem mem_infos_iff (h : ∀ id, id ∈ t.downloadIds ↔ id ∈ m.keys) : d ∈ t.infos m ↔ d ∈ m.entries := by
  rw [mem_infos]
  constructor
  · rintro ⟨id, -, hd⟩
    exact KeyedList.mem_of_find? hd
  · exact fun hd => ⟨d.downloadId, (h _).2 (List.mem_map_of_mem hd), KeyedList.find?_of_mem hd⟩

theorem exists_find?_of_mem (h : ∀ id, id ∈ t.downloadIds ↔ id ∈ m.keys) :
    ∀ id ∈ t.downloadIds, ∃ d, m.find? id = some d := by
  intro id hid
  rw [← Option.isSome_iff_exists, Option.isSome_iff_ne_none, ne_eq, KeyedList.find?_eq_none, not_not]
  exact (h id).1 hid

theorem status_reportProgress (p : ProgressInfo) (t : DownloadTask) : (t.reportProgress p).1.status = p.taskStatus := by
  obtain ⟨he | he, hs⟩ | ⟨he, -⟩ := reportProgress_cases p t <;> rw [he]
  exacts [hs.symm, rfl, rfl]

/-- A cancelled task is reported when it was not before, if anyone listens. -/
theorem countP_reportProgress (p : ProgressInfo) (t : DownloadTask) :
    (t.reportProgress p).2.toList.countP TaskOutput.isCancel =
    if p.taskStatus = .cancel ∧ t.status ≠ .cancel ∧ t.callback ≠ none then 1 else 0 := by
  by_cases hp : p.taskStatus = .cancel
  · obtain ⟨he | he, hs⟩ | ⟨he, hc⟩ := reportProgress_cases p t
    · rw [he, if_neg fun h => h.2.1 (hs ▸ h.1)]
      rfl
    · rw [he, if_neg fun h => h.2.1 (hs ▸ h.1)]
      rfl
    have hne : t.status ≠ .cancel := fun ht => by simpa [ProgressInfo.isTaskCompleted, hp] using hc (hp.trans ht.symm)
    have hsync : p.isSyncCallback = true := by simp [ProgressInfo.isSyncCallback, hp]
    rw [he]
    cases hcb : t.callback with
    | none => simp [hsync, callbackProgress, record, hcb]
    | some b => simp [hsync, callbackProgress, record, hcb, hp, hne, TaskOutput.isCancel]
  · rw [if_neg fun h => hp h.1, List.countP_eq_zero]
    intro o ho
    cases o with
    | submit p' => simp [TaskOutput.isCancel]
    | call p' b =>
      obtain ⟨rfl, -, -⟩ := call_of_reportProgress (Option.mem_toList.1 ho)
      simpa [TaskOutput.isCancel] using hp

end DownloadTask

namespace TaskState
variable {s s₀ : TaskState} {v v' : ServiceState} {infoMap : DownloadInfoMap} {d : DownloadInfo} {ids : List String}

theorem handle_cancel (info : DownloadCallbackInfo) (hids : ∀ id, id ∈ s.task.downloadIds ↔ id ∈ infoMap.keys)
    (hsize : s.task.taskProgressProcessor.totalInfoSize = s.task.downloadIds.length) (hd : d ∈ infoMap.entries)
    (hc : d.status = .cancel) :
    ((s.handle (.progress info infoMap)).task.status = .cancel ↔ ∀ d ∈ infoMap.entries, d.isPending = false) ∧
      (s.handle (.progress info infoMap)).outputs.countP TaskOutput.isCancel = s.outputs.countP TaskOutput.isCancel +
        if (s.handle (.progress info infoMap)).task.status = .cancel ∧ s.task.status ≠ .cancel ∧ s.task.callback ≠ none
          then 1 else 0 := by
  have hstatus : (s.task.getTaskProgress (s.task.infos infoMap)).2.taskStatus = .cancel ↔
      ∀ d ∈ infoMap.entries, d.isPending = false := by
    refine (DownloadTaskProgressProcessor.status_update_eq_cancel
      (hsize.trans (DownloadTask.length_infos (DownloadTask.exists_find?_of_mem hids)).symm) ((DownloadTask.mem_infos_iff hids).2 hd) hc).trans ?_
    simp only [DownloadTask.mem_infos_iff hids]
  rw [handle_progress, DownloadTask.updateTaskProgress_eq]
  dsimp only
  rw [DownloadTask.status_reportProgress, List.countP_append, DownloadTask.countP_reportProgress]
  exact ⟨hstatus, rfl⟩

/-- The task after the reports of its service. -/
def handled (s₀ : TaskState) (v : ServiceState) : TaskState := v.trace.foldl handle s₀

end TaskState

namespace ServiceState
variable {v v' : ServiceState} {s₀ : TaskState} {d : DownloadInfo} {id : String} {ids : List String}

theorem cancelRound (hd : v.infoMap.find? id = some d) {v' : ServiceState}
    (he : v.updateDownloadProgress (d.cancelReport v.now) = v') : v'.threads = v.threads ∧
      v'.onDownloadCallback = v.onDownloadCallback ∧
      v'.infoMap = v.infoMap.modify id (·.updateDownloadInfo (d.cancelReport v.now))
        (DownloadInfo.updateDownloadInfo_downloadId (d.cancelReport v.now)) ∧
      v'.trace = if v.onDownloadCallback then v.trace ++ [.progress (d.cancelReport v.now) v'.infoMap] else v.trace := by
  obtain rfl := downloadId_of_find? hd
  subst he
  have h₁ : v.updateDownloadProgress (d.cancelReport v.now) =
      ((v.removeThread d.downloadId).modifyInfo d.downloadId (·.updateDownloadInfo (d.cancelReport v.now))
        (DownloadInfo.updateDownloadInfo_downloadId (d.cancelReport v.now))).callbackDownloadProgress (d.cancelReport v.now) := by
    simp [updateDownloadProgress, DownloadInfo.cancelReport, finishReport, updateDownloadInfo, removeThread, hd]
  rw [h₁]
  unfold callbackDownloadProgress
  cases hon : v.onDownloadCallback <;> simp [hon, modifyInfo, removeThread]

/-- A download among these is pending. -/
def PendingIn (ids : List String) (v : ServiceState) : Prop :=
  ∃ d ∈ v.infoMap.entries, d.downloadId ∈ ids ∧ d.isPending = true

instance : Decidable (PendingIn ids v) :=
  inferInstanceAs (Decidable (∃ d ∈ v.infoMap.entries, d.downloadId ∈ ids ∧ d.isPending = true))

/-- What holds between the rounds of `NotifyCancelCompleted`, those for `ids` still to come. -/
structure Cancelling (s₀ : TaskState) (ids : List String) (v : ServiceState) : Prop where
  on : v.onDownloadCallback = true
  nodup : ids.Nodup
  keys : ∀ id ∈ ids, id ∈ v.infoMap.keys
  downloadIds : ∀ id, id ∈ (s₀.handled v).task.downloadIds ↔ id ∈ v.infoMap.keys
  size : (s₀.handled v).task.taskProgressProcessor.totalInfoSize = (s₀.handled v).task.downloadIds.length
  done : ∀ d ∈ v.infoMap.entries, d.downloadId ∉ ids → d.isPending = false

theorem Cancelling.round (h : Cancelling s₀ (id :: ids) v) (hd : v.infoMap.find? id = some d)
    (he : v.updateDownloadProgress (d.cancelReport v.now) = v') : Cancelling s₀ ids v' ∧
      (∀ l, id ∉ l → (PendingIn l v' ↔ PendingIn l v)) ∧
      (s₀.handled v').task.callback = (s₀.handled v).task.callback ∧
      ((s₀.handled v').task.status = .cancel ↔ ¬ PendingIn ids v) ∧
      (s₀.handled v').outputs.countP TaskOutput.isCancel = (s₀.handled v).outputs.countP TaskOutput.isCancel +
        if (s₀.handled v').task.status = .cancel ∧ (s₀.handled v).task.status ≠ .cancel ∧
        (s₀.handled v).task.callback ≠ none
          then 1 else 0 := by
  obtain ⟨-, hon, hinfo, htrace⟩ := cancelRound hd he
  rw [if_pos h.on] at htrace
  obtain ⟨hid, hnodup⟩ := List.nodup_cons.1 h.nodup
  have hkeys : v'.infoMap.keys = v.infoMap.keys := by rw [hinfo, KeyedList.keys_modify]
  have hmem : ∀ d', d' ∈ v'.infoMap.entries ↔
      ∃ a ∈ v.infoMap.entries, d' = if a.downloadId = id then a.updateDownloadInfo (d.cancelReport v.now) else a := by
    intro d'
    rw [hinfo, KeyedList.mem_modify]
  have hpending : ∀ l, id ∉ l → (PendingIn l v' ↔ PendingIn l v) := by
    intro l hl
    constructor
    · rintro ⟨d', hd', hdl, hp⟩
      obtain ⟨a, ha, rfl⟩ := (hmem d').1 hd'
      split at hdl
      · rename_i hai
        exact absurd (hai ▸ hdl) hl
      · rename_i hai
        rw [if_neg hai] at hp
        exact ⟨a, ha, hdl, hp⟩
    · rintro ⟨a, ha, hal, hp⟩
      have hai : a.downloadId ≠ id := fun h => hl (h ▸ hal)
      exact ⟨a, (hmem a).2 ⟨a, ha, (if_neg hai).symm⟩, hal, hp⟩
  have hdone : ∀ d' ∈ v'.infoMap.entries, d'.downloadId ∉ ids → d'.isPending = false := by
    intro d' hd' hdl
    obtain ⟨a, ha, rfl⟩ := (hmem d').1 hd'
    split
    · rfl
    · rename_i hai
      rw [if_neg hai] at hdl
      exact h.done a ha (by simpa [hai] using hdl)
  have hall : (∀ d' ∈ v'.infoMap.entries, d'.isPending = false) ↔ ¬ PendingIn ids v := by
    rw [← hpending ids hid]
    constructor
    · rintro hf ⟨d', hd', -, hp⟩
      rw [hf d' hd'] at hp
      cases hp
    · intro hn d' hd'
      by_cases hdl : d'.downloadId ∈ ids
      · exact Bool.eq_false_iff.2 fun hp => hn ⟨d', hd', hdl, hp⟩
      · exact hdone d' hd' hdl
  have hhandled : s₀.handled v' = (s₀.handled v).handle (.progress (d.cancelReport v.now) v'.infoMap) := by
    rw [TaskState.handled, htrace, List.foldl_append]
    rfl
  have hd' : d.updateDownloadInfo (d.cancelReport v.now) ∈ v'.infoMap.entries :=
    (hmem _).2 ⟨d, KeyedList.mem_of_find? hd, (if_pos (downloadId_of_find? hd)).symm⟩
  obtain ⟨hs, -, hcb, -⟩ := TaskState.handle_service (s₀.handled v) (.progress (d.cancelReport v.now) v'.infoMap)
  obtain ⟨hstatus, hcount⟩ := TaskState.handle_cancel (d.cancelReport v.now) (hkeys ▸ h.downloadIds) h.size hd' rfl
  rw [← hhandled] at hs hcb hstatus hcount
  refine ⟨⟨hon.trans h.on, hnodup, fun id' hid' => hkeys ▸ h.keys id' (List.mem_cons_of_mem id hid'), ?_, ?_, hdone⟩,
    hpending, hcb, hstatus.trans hall, hcount⟩
  · rw [hs.downloadIds, hkeys]
    exact h.downloadIds
  · rw [hs.size, hs.downloadIds]
    exact h.size

/-- The rounds for `ids` report the task as cancelled once, unless it was so before and stays so. -/
theorem Cancelling.rounds (h : Cancelling s₀ ids v) (hcb : (s₀.handled v).task.callback ≠ none) (hne : ids ≠ []) :
    (s₀.handled (ids.foldl (fun s id => match s.infoMap.find? id with
        | none => s
        | some d => s.updateDownloadProgress (d.cancelReport s.now)) v)).outputs.countP TaskOutput.isCancel =
      (s₀.handled v).outputs.countP TaskOutput.isCancel +
        if (s₀.handled v).task.status ≠ .cancel ∨ PendingIn ids.tail v then 1 else 0 := by
  induction ids generalizing v with
  | nil => exact absurd rfl hne
  | cons id ids ih =>
    obtain ⟨d, hd⟩ : ∃ d, v.infoMap.find? id = some d := by
      rw [← Option.ne_none_iff_exists', ne_eq, KeyedList.find?_eq_none, not_not]
      exact h.keys id List.mem_cons_self
    obtain ⟨h', hpending, hcb', hstatus, hcount⟩ := h.round hd rfl
    rw [List.foldl_cons, List.tail_cons]
    simp only [hd]
    generalize v.updateDownloadProgress (d.cancelReport v.now) = v' at h' hpending hcb' hstatus hcount
    cases ids with
    | nil =>
      have hnone : ¬ PendingIn [] v := by
        rintro ⟨_, _, hd, -⟩
        cases hd
      simp only [List.foldl_nil, hcount, hstatus, hnone, not_false_eq_true, true_and, or_false, hcb, and_true, ne_eq]
    | cons id' ids =>
      rw [ih h' (hcb'.symm ▸ hcb) (by simp), hcount, List.tail_cons]
      have hid : id ∉ ids := fun hid => (List.nodup_cons.1 h.nodup).1 (List.mem_cons_of_mem id' hid)
      by_cases hp : PendingIn (id' :: ids) v
      · have hne : (s₀.handled v').task.status ≠ .cancel := fun he => hstatus.1 he hp
        simp [hne, hp]
      · have hp' : ¬ PendingIn ids v := by
          rintro ⟨d, hd, hid, hp'⟩
          exact hp ⟨d, hd, List.mem_cons_of_mem id' hid, hp'⟩
        simp [hstatus.2 hp, hp, hpending ids hid, hp', hcb]

theorem pendingIn_tail : PendingIn v.infoMap.keys.tail v ↔ ∃ d ∈ v.infoMap.entries.tail, d.isPending = true := by
  unfold PendingIn KeyedList.keys
  rw [← List.map_tail]
  constructor
  · rintro ⟨d, hd, hid, hp⟩
    obtain ⟨d', hd', he⟩ := List.mem_map.1 hid
    exact ⟨d, List.inj_on_of_nodup_map v.infoMap.nodup (List.mem_of_mem_tail hd') hd he ▸ hd', hp⟩
  · exact fun ⟨d, hd, hp⟩ => ⟨d, List.mem_of_mem_tail hd, List.mem_map_of_mem hd, hp⟩

theorem deleteDownloadedFiles_eq (v : ServiceState) : ∃ fileSize, v.deleteDownloadedFiles = { v with fileSize } := by
  refine forEachInfo_induction (P := fun v' => ∃ fileSize, v' = { v with fileSize }) ⟨v.fileSize, rfl⟩ ?_
  rintro _ d ⟨fileSize, rfl⟩ -
  exact ⟨_, rfl⟩

theorem cancel_eq (ended : Nat → Bool) (isDeleteFiles : Bool) (v : ServiceState) : ∃ v₁ : ServiceState,
    v.cancel ended isDeleteFiles = v₁.notifyCancelCompleted ∧
      v₁.toDownloadService = (v.stopAllDownloadThread ended).toDownloadService ∧ v₁.trace = v.trace := by
  unfold cancel
  dsimp only
  split
  · obtain ⟨fileSize, he⟩ := deleteDownloadedFiles_eq (v.stopAllDownloadThread ended)
    exact ⟨_, rfl, by rw [he], by rw [he]; rfl⟩
  · exact ⟨_, rfl, rfl, rfl⟩

theorem handled_notifyCancelCompleted (v : ServiceState) : s₀.handled v.notifyCancelCompleted =
    s₀.handled (v.forEachInfo fun d s => s.updateDownloadProgress (d.cancelReport s.now)) := by
  rw [notifyCancelCompleted, TaskState.handled, exec, List.foldl_append]
  rfl

theorem handled_of_off (hoff : v.onDownloadCallback = false) (htrace : v.trace = []) :
    s₀.handled v.notifyCancelCompleted = s₀ := by
  have hloop : (v.forEachInfo fun d s => s.updateDownloadProgress (d.cancelReport s.now)).trace = [] := by
    refine (forEachInfo_induction (P := fun s => s.onDownloadCallback = false ∧ s.trace = []) ⟨hoff, htrace⟩ ?_).2
    rintro s d ⟨hs, hs'⟩ hd
    obtain ⟨-, hon, -, htrace⟩ := cancelRound hd rfl
    exact ⟨hon.trans hs, htrace.trans (by rw [if_neg (by simp [hs])]; exact hs')⟩
  rw [handled_notifyCancelCompleted, TaskState.handled, hloop]
  rfl

theorem threads_cancel (ended : Nat → Bool) (isDeleteFiles : Bool) (v : ServiceState) :
    (v.cancel ended isDeleteFiles).threads =
    v.threads.mapIdx fun i th => if i ∈ v.registered then th.stop (ended i) else th := by
  obtain ⟨v₁, he, hv₁, -⟩ := cancel_eq ended isDeleteFiles v
  have hloop : v₁.notifyCancelCompleted.threads = v₁.threads :=
    forEachInfo_induction (P := fun s => s.threads = v₁.threads) rfl fun s d hs hd => (cancelRound hd rfl).1.trans hs
  rw [he, hloop, hv₁]
  rfl

theorem countP_cancel {t : DownloadTask} (s₀ : TaskState) (ended : Nat → Bool) (isDeleteFiles : Bool) (ht : TaskOk t)
    (hs : SameTask t s₀.task) (hinfo : v.infoMap = t.service.infoMap) (htrace : v.trace = [])
    (hcb : s₀.task.callback ≠ none)
    (hon : v.onDownloadCallback = true) :
    (s₀.handled (v.cancel ended isDeleteFiles)).outputs.countP TaskOutput.isCancel = s₀.outputs.countP TaskOutput.isCancel +
      if s₀.task.status ≠ .cancel ∨ ∃ d ∈ v.infoMap.entries.tail, d.isPending = true then 1 else 0 := by
  obtain ⟨v₁, he, hv₁, htrace₁⟩ := cancel_eq ended isDeleteFiles v
  have hinfo₁ : v₁.infoMap = v.infoMap := (congrArg DownloadService.infoMap hv₁ :)
  have hon₁ : v₁.onDownloadCallback = true := (congrArg DownloadService.onDownloadCallback hv₁ :).trans hon
  have hh : s₀.handled v₁ = s₀ := by rw [TaskState.handled, htrace₁, htrace]; rfl
  have hready : Cancelling s₀ v₁.infoMap.keys v₁ := by
    refine ⟨hon₁, v₁.infoMap.nodup, fun _ h => h, ?_, ?_, fun d hd hn => absurd (List.mem_map_of_mem hd) hn⟩ <;> rw [hh]
    · rw [hs.downloadIds, hinfo₁, hinfo]
      exact ht.ids
    · rw [hs.size, hs.downloadIds]
      exact ht.size
  have hne : v₁.infoMap.keys ≠ [] := by
    obtain ⟨id, hid⟩ := List.exists_mem_of_ne_nil _ ht.nonempty
    rw [hinfo₁, hinfo]
    exact List.ne_nil_of_mem ((ht.ids id).1 hid)
  have hrounds := hready.rounds (hh.symm ▸ hcb) hne
  rw [hh] at hrounds
  rw [he, handled_notifyCancelCompleted]
  refine hrounds.trans ?_
  simp only [pendingIn_tail]
  rw [hinfo₁]

end ServiceState

namespace TaskState

theorem outputs_cancel (ended : Nat → Bool) (isDeleteFiles : Bool) (s : TaskState) :
    (s.cancel ended isDeleteFiles).2.outputs =
      (s.disableCallback.handled (s.disableCallback.serviceState.cancel ended isDeleteFiles)).outputs := rfl

variable {s : TaskState}

theorem countP_cancel (ended : Nat → Bool) (isDeleteFiles : Bool) (ht : TaskOk s.task) (hout : s.outputs = []) :
    (s.cancel ended isDeleteFiles).2.outputs.countP TaskOutput.isCancel =
      if s.task.callback ≠ none ∧ s.task.service.onDownloadCallback = true ∧
        (s.task.status ≠ .cancel ∨ ∃ d ∈ s.task.service.infoMap.entries.tail, d.isPending = true) then 1 else 0 := by
  rw [outputs_cancel]
  by_cases hcb : s.task.callback = none
  · rw [if_neg fun h => h.1 hcb, List.countP_eq_zero]
    intro o ho
    cases o with
    | submit p => simp [TaskOutput.isCancel]
    | call p b =>
      obtain hin | ⟨-, hb⟩ := call_of_foldl_handle ho
      · rw [disableCallback, hout] at hin
        cases hin
      · rw [disableCallback, hcb] at hb
        cases hb
  cases hon : s.task.service.onDownloadCallback with
  | false =>
    obtain ⟨v₁, he, hv₁, htrace⟩ := s.disableCallback.serviceState.cancel_eq ended isDeleteFiles
    rw [he, ServiceState.handled_of_off ((congrArg DownloadService.onDownloadCallback hv₁ :).trans hon) htrace,
      if_neg fun h => by cases h.2.1]
    simp [disableCallback, hout]
  | true =>
    rw [ServiceState.countP_cancel s.disableCallback ended isDeleteFiles ht (.of_service rfl rfl rfl rfl)
      rfl rfl hcb hon]
    simp only [hcb, ne_eq, not_false_eq_true, true_and]
    simp [disableCallback, hout, serviceState]

end TaskState

namespace DownloadTaskManager
variable {m m' : DownloadTaskManager} {i : Nat} {t : DownloadTask} {taskId : String} {ended : Nat → Bool} {isDeleteFiles : Bool}

/-- The calls that report this task as cancelled. -/
def cancelCalls (taskId : String) (m : DownloadTaskManager) : Nat :=
  m.calls.countP fun call => call.1 = taskId ∧ call.2.taskStatus = .cancel

/-- What a successful `Cancel` should leave. -/
structure CancelComplete (taskId : String) (m m' : DownloadTaskManager) : Prop where
  entry : m'.find? taskId = none
  rows : ∀ row ∈ m'.outside.table, row.taskId ≠ taskId
  threads : ∀ i t, m'.task? i = some t → t.taskId = taskId → ∀ th ∈ t.service.threads, th.phase ≠ .running
  callback : ∀ i t, m.find? taskId = some i → m.task? i = some t → t.callback = some true →
    m'.cancelCalls taskId = m.cancelCalls taskId + 1

/-- The task has its callbacks, was not reported as cancelled or has something pending after its first
download, and all its running threads are registered and end within the wait. -/
structure CanCancel (taskId : String) (ended : Nat → Bool) (m : DownloadTaskManager) : Prop where
  reports : ∀ i t, m.find? taskId = some i → m.task? i = some t → t.callback ≠ none ∧ t.service.onDownloadCallback = true ∧
    (t.status ≠ .cancel ∨ ∃ d ∈ t.service.infoMap.entries.tail, d.isPending = true)
  threads : ∀ i t, m.task? i = some t → t.taskId = taskId → ∀ j th, t.service.threads[j]? = some th → th.phase = .running →
    m.find? taskId = some i ∧ j ∈ t.service.threadMap.entries.map Prod.snd ∧ ended j = true

theorem find?_eq_none : m.find? taskId = none ↔ m.downloadTaskMap.find? taskId = none := Option.map_eq_none_iff

theorem foldl_output_of_none (os : List TaskOutput) (hm : m.find? taskId = none) :
    (os.foldl (output i taskId) m).find? taskId = none ∧ (os.foldl (output i taskId) m).calls = m.calls := by
  refine List.foldlRecOn (motive := fun m' : DownloadTaskManager => m'.find? taskId = none ∧ m'.calls = m.calls) os _
    ⟨hm, rfl⟩ fun m' ⟨hnone, hcalls⟩ o _ => ?_
  cases o with
  | submit p => exact ⟨hnone, hcalls⟩
  | call p b =>
    have he : m'.toTaskRegistry.dealCallBack taskId p b = m'.toTaskRegistry := by
      simp only [TaskRegistry.dealCallBack, find?_eq_none.1 hnone]
    rw [output, he]
    exact ⟨hnone, hcalls⟩

/-- The first call that reports a task as cancelled removes it from the map. -/
theorem foldl_output_cancel (i : Nat) (taskId : String) {os : List TaskOutput} {callback : Option Bool}
    (hos : ∀ p b, .call p b ∈ os → p.isSyncCallback = true ∧ callback = some b) (hm : m.find? taskId ≠ none) :
    ((os.foldl (output i taskId) m).find? taskId = none ↔ 0 < os.countP TaskOutput.isCancel) ∧
      (callback = some true → (os.foldl (output i taskId) m).cancelCalls taskId =
        m.cancelCalls taskId + if 0 < os.countP TaskOutput.isCancel then 1 else 0) := by
  induction os generalizing m with
  | nil => simpa using hm
  | cons o os ih =>
    have hos' : ∀ p b, .call p b ∈ os → p.isSyncCallback = true ∧ callback = some b :=
      fun p b h => hos p b (List.mem_cons_of_mem o h)
    rw [List.foldl_cons]
    cases o with
    | submit p =>
      rw [List.countP_cons_of_neg (by simp [TaskOutput.isCancel])]
      exact ih hos' hm
    | call p b =>
      obtain ⟨hsync, hcb⟩ := hos p b List.mem_cons_self
      obtain ⟨e, he⟩ := Option.ne_none_iff_exists'.1 fun h => hm (find?_eq_none.2 h)
      by_cases hp : p.taskStatus = .cancel
      · have hout : output i taskId m (.call p b) = { m with
            downloadTaskMap := m.downloadTaskMap.erase taskId
            calls := if b then m.calls ++ [(taskId, p)] else m.calls } := by
          simp [output, TaskRegistry.dealCallBack, he, hp, DownloadStatus.isTerminal]
        have hnone : (output i taskId m (.call p b)).find? taskId = none := by
          rw [hout, find?_eq_none, KeyedList.find?_erase, if_pos rfl]
        obtain ⟨h₁, h₂⟩ := foldl_output_of_none (i := i) os hnone
        refine ⟨iff_of_true h₁ (by simp [TaskOutput.isCancel, hp]), fun hb => ?_⟩
        obtain rfl := Option.some.inj (hcb.symm.trans hb)
        rw [cancelCalls, h₂, hout]
        simp [cancelCalls, TaskOutput.isCancel, hp]
      · have hpause : p.taskStatus = .pause := by simpa [ProgressInfo.isSyncCallback, hp] using hsync
        have hout : output i taskId m (.call p b) = { m with calls := if b then m.calls ++ [(taskId, p)] else m.calls } := by
          simp [output, TaskRegistry.dealCallBack, he, hpause, DownloadStatus.isTerminal]
        have hcalls : (output i taskId m (.call p b)).cancelCalls taskId = m.cancelCalls taskId := by
          rw [hout]
          cases b <;> simp [cancelCalls, hpause]
        rw [List.countP_cons_of_neg (by simpa [TaskOutput.isCancel] using hp), ← hcalls]
        exact ih hos' (by rw [hout]; exact hm)

theorem of_cancel_success (hok : (m.cancel taskId ended isDeleteFiles).1.errorNum = .success) :
    ∃ i t, m.find? taskId = some i ∧ m.task? i = some t ∧
      (m.cancel taskId ended isDeleteFiles).2 = m.withTask i fun s => (s.cancel ended isDeleteFiles).2 := by
  unfold cancel onTask at hok ⊢
  cases hi : m.find? taskId with
  | none => simp [hi, taskInvalid] at hok
  | some i =>
    cases ht : m.task? i with
    | none => simp [hi, ht, taskInvalid] at hok
    | some t => exact ⟨i, t, rfl, ht, by simp [ht]⟩

theorem getElem?_cancel (ended : Nat → Bool) (isDeleteFiles : Bool) (s : TaskState) (j : Nat) :
    (s.cancel ended isDeleteFiles).2.task.service.threads[j]? =
    s.task.service.threads[j]?.map fun th =>
      if j ∈ s.task.service.threadMap.entries.map Prod.snd then th.stop (ended j) else th := by
  have hthreads := ServiceState.threads_cancel ended isDeleteFiles s.disableCallback.serviceState
  exact (congrArg (fun threads : List DownloadThread => threads[j]?) hthreads).trans List.getElem?_mapIdx

theorem running_stop {registered : Prop} [Decidable registered] {e : Bool} {th : DownloadThread} :
    (if registered then th.stop e else th).phase = .running ↔ th.phase = .running ∧ ¬ (registered ∧ e = true) := by
  split
  · rename_i h
    cases e <;> cases hp : th.phase <;> simp [DownloadThread.stop, h, hp]
  · rename_i h
    simp [h]

theorem registry_cancel (ended : Nat → Bool) (isDeleteFiles : Bool) (hi : m.find? taskId = some i)
    (ht : m.task? i = some t) (hok : TaskOk t) (hid : t.taskId = taskId) :
    ((m.withTask i fun s => (s.cancel ended isDeleteFiles).2).find? taskId = none ↔
      t.callback ≠ none ∧ t.service.onDownloadCallback = true ∧
        (t.status ≠ .cancel ∨ ∃ d ∈ t.service.infoMap.entries.tail, d.isPending = true)) ∧
    (t.callback = some true → (m.withTask i fun s => (s.cancel ended isDeleteFiles).2).find? taskId = none →
      (m.withTask i fun s => (s.cancel ended isDeleteFiles).2).cancelCalls taskId = m.cancelCalls taskId + 1) := by
  subst hid
  have hn := TaskState.countP_cancel (s := ⟨t, m.outside, []⟩) ended isDeleteFiles hok rfl
  have hcalls : ∀ p b, .call p b ∈ (TaskState.cancel ended isDeleteFiles ⟨t, m.outside, []⟩).2.outputs →
      p.isSyncCallback = true ∧ t.callback = some b := fun p b h =>
    (TaskState.call_of_foldl_handle h).resolve_left (by simp [TaskState.disableCallback])
  simp only [withTask, ht]
  generalize TaskState.cancel ended isDeleteFiles ⟨t, m.outside, []⟩ = r at hn hcalls
  obtain ⟨hentry, hcount⟩ := foldl_output_cancel i t.taskId
    (m := { m with tasks := m.tasks.set i (some r.2.task), outside := r.2.outside }) hcalls (hi ▸ Option.some_ne_none i)
  refine ⟨hentry.trans ?_, fun hb hnone => ?_⟩
  · rw [hn]
    split <;> simp_all
  · rw [hcount hb, if_pos (hentry.1 hnone)]
    rfl

/-- The task id of the packages `v1` and `v2`. -/
def sampleHash (_ : String) : String := "70c67caecd7f4976756e7f51786238ee9191447a24a0da82d35f26230ab68cd5"

def samplePackages : List DownloadInfo := [ServiceState.samplePackage "v1", ServiceState.samplePackage "v2"]

/-- A task is started, and the process starts again. -/
def startRestart : List ManagerOp :=
  [.outside (fun _ => 0) 0 .wifi, .start samplePackages true true fun _ => true, .restart]

/-- A task is started, and its first thread begins. -/
def startBegin : List ManagerOp :=
  [.outside (fun _ => 0) 0 .wifi, .start samplePackages true true fun _ => true,
    .thread 0 0
      { DownloadThread.ofInfo (DownloadTask.initInfo (sampleHash "v1v2") (fun _ => 0) (ServiceState.samplePackage "v1")) 0 0 with
        phase := .running }]

end DownloadTaskManager
end UpdateService
