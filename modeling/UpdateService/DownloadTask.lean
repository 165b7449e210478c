import UpdateService.DownloadService
import UpdateService.TaskProgress

/-!
# `DownloadTask`

The functions of a task on its members (`DownloadTask`), on the rest of the process (`Outside`) and
on what it hands on (`TaskOutput`). The `DownloadInfo` records that a task shares with its service are
kept in the service; `downloadIds` is their order in the vector of the progress processor.

The service calls `UpdateTaskProgress` in the middle of its operations. Nothing that a report does to
the task comes back to the service, so `onService` runs an operation first and then the reports that
it has made, each with the records it has seen.
-/

namespace UpdateService

structure DownloadTask where
  taskId : String
  service : DownloadService
  downloadIds : List String := []
  taskProgressProcessor : DownloadTaskProgressProcessor := {}
  status : DownloadStatus := .init
  progressInfo : ProgressInfo := {}
  reportedTaskProgress : Int := 0
  /-- `callback_`, if it is set, and whether the business callback it passes reports on to is. -/
  callback : Option Bool := none
  isStopDownloadingCallback : Bool := false

/-- A call of `callback_`, or a report submitted to the serial queue. -/
inductive TaskOutput
  | call (progressInfo : ProgressInfo) (business : Bool)
  | submit (progressInfo : ProgressInfo)
deriving DecidableEq

structure TaskState where
  task : DownloadTask
  outside : Outside
  outputs : List TaskOutput := []

namespace DownloadTask

def initInfo (taskId : String) (fileSize : String → Int) (d : DownloadInfo) : DownloadInfo :=
  { d with
    downloadId := d.versionId
    taskId
    downloadedSize := fileSize d.path }

def infos (infoMap : DownloadInfoMap) (t : DownloadTask) : List DownloadInfo := t.downloadIds.filterMap infoMap.find?

theorem mem_infos {infoMap : DownloadInfoMap} {t : DownloadTask} {d : DownloadInfo} :
    d ∈ t.infos infoMap ↔ ∃ id ∈ t.downloadIds, infoMap.find? id = some d := List.mem_filterMap

theorem length_infos {infoMap : DownloadInfoMap} {t : DownloadTask}
    (h : ∀ id ∈ t.downloadIds, ∃ d, infoMap.find? id = some d) :
    (t.infos infoMap).length = t.downloadIds.length := by
  unfold infos
  rw [List.length_filterMap_eq_countP, List.countP_eq_length]
  intro id hid
  obtain ⟨d, hd⟩ := h id hid
  rw [hd]
  rfl

def ofInfos (taskId : String) (downloadInfos : List DownloadInfo) (fileSize : String → Int) : DownloadTask :=
  let infos := downloadInfos.map (initInfo taskId fileSize)
  let progress := (DownloadTaskProgressProcessor.ofInfos infos).getTaskProgress infos
  { taskId
    service := { taskId, infoMap := .ofList infos }
    downloadIds := infos.map (·.downloadId)
    taskProgressProcessor := progress.1
    status := progress.2.taskStatus
    progressInfo := progress.2 }

def getTaskProgress (infos : List DownloadInfo) (t : DownloadTask) : DownloadTask × ProgressInfo :=
  let progress := t.taskProgressProcessor.getTaskProgress infos
  ({ t with taskProgressProcessor := progress.1 }, progress.2)

def isProgressChanged (progressInfo : ProgressInfo) (t : DownloadTask) : DownloadTask × Bool :=
  if progressInfo.taskStatus = t.status ∧ (progressInfo.downloadedSize < t.progressInfo.downloadedSize ∨
      progressInfo.verifiedSize < t.progressInfo.verifiedSize) then (t, false)
  else if progressInfo.taskStatus = t.status ∧ progressInfo.isTaskCompleted then (t, false)
  else
    ({ t with
        reportedTaskProgress := progressInfo.taskProgress
        status := progressInfo.taskStatus
        progressInfo },
      progressInfo.taskProgress ≠ t.reportedTaskProgress || progressInfo.taskStatus ≠ t.status ||
        progressInfo.verifiedSize ≠ t.progressInfo.verifiedSize ||
        progressInfo.downloadedSize ≠ t.progressInfo.downloadedSize)

def callbackProgress (progressInfo : ProgressInfo) (t : DownloadTask) : Option TaskOutput :=
  match t.callback with
  | none => none
  | some business =>
    if !progressInfo.isSyncCallback && t.isStopDownloadingCallback then none else some (.call progressInfo business)

/-- `UpdateTaskProgress` after the progress has been computed. -/
def reportProgress (progressInfo : ProgressInfo) (t : DownloadTask) : DownloadTask × Option TaskOutput :=
  match t.isProgressChanged progressInfo with
  | (t, false) => (t, none)
  | (t, true) => (t, if progressInfo.isSyncCallback then t.callbackProgress progressInfo else some (.submit progressInfo))

def updateTaskProgress (infos : List DownloadInfo) (t : DownloadTask) : DownloadTask × Option TaskOutput :=
  match t.getTaskProgress infos with
  | (t, progressInfo) => t.reportProgress progressInfo

/-- A report submitted to the queue, when its turn comes. -/
def callbackTask (progressInfo : ProgressInfo) (t : DownloadTask) : DownloadTask × Option TaskOutput :=
  match t.getTaskProgress (t.infos t.service.infoMap) with
  | (t, current) => (t, if current.isSyncCallback then none else t.callbackProgress progressInfo)

def record (progressInfo : ProgressInfo) (t : DownloadTask) : DownloadTask :=
  { t with reportedTaskProgress := progressInfo.taskProgress, status := progressInfo.taskStatus, progressInfo }

/-- A progress that is not recorded, or changes nothing, has the status recorded last. -/
theorem isProgressChanged_cases (p : ProgressInfo) (t : DownloadTask) :
    (t.isProgressChanged p = (t, false) ∧ p.taskStatus = t.status) ∨
      ∃ changed, t.isProgressChanged p = (t.record p, changed) ∧ (changed = false → p.taskStatus = t.status) ∧
        (p.taskStatus = t.status → p.isTaskCompleted = false) := by
  unfold isProgressChanged
  split
  · rename_i h
    exact .inl ⟨rfl, h.1⟩
  split
  · rename_i h
    exact .inl ⟨rfl, h.1⟩
  · rename_i h
    refine .inr ⟨_, rfl, fun hc => ?_, fun hs => ?_⟩
    · simp only [Bool.or_eq_false_iff, decide_eq_false_iff_not, not_not] at hc
      exact hc.1.1.2
    · simpa [hs] using h

/-- What `UpdateTaskProgress` does with a progress: nothing, when its status is recorded, or else it
records it and hands it on. -/
theorem reportProgress_cases (p : ProgressInfo) (t : DownloadTask) :
    ((t.reportProgress p = (t, none) ∨ t.reportProgress p = (t.record p, none)) ∧ p.taskStatus = t.status) ∨
      t.reportProgress p = (t.record p, if p.isSyncCallback then (t.record p).callbackProgress p else some (.submit p)) ∧
        (p.taskStatus = t.status → p.isTaskCompleted = false) := by
  unfold reportProgress
  obtain ⟨he, hs⟩ | ⟨changed, he, hs, hc⟩ := isProgressChanged_cases p t <;> rw [he]
  · exact .inl ⟨.inl rfl, hs⟩
  · cases changed
    · exact .inl ⟨.inr rfl, hs rfl⟩
    · exact .inr ⟨rfl, hc⟩

/-- What is called at once is the callback, with a progress that is not queued. -/
theorem call_of_reportProgress {p p' : ProgressInfo} {b : Bool} {t : DownloadTask}
    (h : (t.reportProgress p).2 = some (.call p' b)) :
    p' = p ∧ p.isSyncCallback = true ∧ t.callback = some b := by
  obtain ⟨he | he, -⟩ | ⟨he, -⟩ := reportProgress_cases p t <;> rw [he] at h
  · cases h
  · cases h
  dsimp only at h
  split at h
  · rename_i hsync
    unfold callbackProgress record at h
    dsimp only at h
    cases hcb : t.callback with
    | none => simp [hcb] at h
    | some b' => simpa [hcb, hsync, and_comm, eq_comm] using h
  · cases h

theorem updateTaskProgress_eq (infos : List DownloadInfo) (t : DownloadTask) :
    t.updateTaskProgress infos = (t.getTaskProgress infos).1.reportProgress (t.getTaskProgress infos).2 := rfl

def getRequiredNetType (t : DownloadTask) : NetType :=
  match t.service.infoMap.entries with
  | [] => .notMeteredWifi
  | d :: _ => d.netType

end DownloadTask

namespace TaskState

/-- What an event of the service makes of the task. -/
def handle (s : TaskState) : ServiceEvent → TaskState
  | .db _ => s
  | .progress _ infoMap =>
    match s.task.updateTaskProgress (s.task.infos infoMap) with
    | (task, output) => { s with task, outputs := s.outputs ++ output.toList }

theorem handle_progress (info : DownloadCallbackInfo) (infoMap : DownloadInfoMap) (s : TaskState) :
    s.handle (.progress info infoMap) =
      { s with
        task := (s.task.updateTaskProgress (s.task.infos infoMap)).1
        outputs := s.outputs ++ (s.task.updateTaskProgress (s.task.infos infoMap)).2.toList } := rfl

def serviceState (s : TaskState) : ServiceState :=
  { toDownloadService := s.task.service, toOutside := { s.outside with trace := [] } }

/-- Run a function of the service and what its callbacks make the task do. -/
def onService (f : ServiceState → ServiceState) (s : TaskState) : TaskState :=
  let after := f s.serviceState
  let handled := after.trace.foldl handle s
  { handled with
    task := { handled.task with service := after.toDownloadService }
    outside := { after.toOutside with trace := s.outside.trace ++ after.trace } }

def setCallback (callback : Option Bool) (s : TaskState) : TaskState := { s with task := { s.task with callback } }

def disableCallback (s : TaskState) : TaskState := { s with task := { s.task with isStopDownloadingCallback := true } }

def enableCallback (s : TaskState) : TaskState := { s with task := { s.task with isStopDownloadingCallback := false } }

/-- `Start`; `isMemoryEnough` is the answer of the file system. -/
def start (business isMemoryEnough : Bool) (error : DownloadError) (s : TaskState) : DownloadError × TaskState :=
  if s.task.service.infoMap.entries = [] then (⟨.downloadInfoEmpty, .fail⟩, s)
  else
    let s := s.setCallback (some business)
    if !isMemoryEnough then (⟨.noEnoughMemory, .fail⟩, s)
    else ((s.serviceState.start error).1, (s.onService fun v => (v.start error).2).enableCallback)

def pause (ended : Nat → Bool) (s : TaskState) : DownloadError × TaskState :=
  (⟨.success, .success⟩, s.disableCallback.onService fun v => (v.pause ended).2)

def resetFailed (d : DownloadInfo) : DownloadInfo := { d with status := if d.status = .fail then .init else d.status }

@[simp] theorem resetFailed_downloadId (d : DownloadInfo) : (resetFailed d).downloadId = d.downloadId := rfl

/-- `Resume` at its end: the progress is recorded without a report. -/
def recordProgress (s : TaskState) : TaskState :=
  match s.task.getTaskProgress (s.task.infos s.task.service.infoMap) with
  | (task, progressInfo) => { s with task := { task with progressInfo, status := progressInfo.taskStatus } }

def resume (netType : NetType) (business : Bool) (s : TaskState) : DownloadError × TaskState :=
  let s := s.onService fun v => v.forEachInfo fun d => ServiceState.modifyInfo d.downloadId resetFailed resetFailed_downloadId
  let s := (s.setCallback (some business)).enableCallback
  ((s.serviceState.resume netType).1, (s.onService fun v => (v.resume netType).2).recordProgress)

def cancel (ended : Nat → Bool) (isDeleteFiles : Bool) (s : TaskState) : DownloadError × TaskState :=
  (⟨.success, .success⟩, (s.disableCallback.onService fun v => v.cancel ended isDeleteFiles).setCallback none)

def recover (s : TaskState) : TaskState :=
  if s.task.service.infoMap.entries = [] then s else s.onService ServiceState.recover

def onNetChange (s : TaskState) : TaskState :=
  if s.outside.netType.isNetAvailable s.task.getRequiredNetType then s.enableCallback.onService ServiceState.netChangeToStart
  else s.disableCallback.onService ServiceState.netChangeToPause

def report (info : DownloadCallbackInfo) (s : TaskState) : TaskState :=
  s.onService (ServiceState.callbackUpdateDownloadProgress info)

def deliver (progressInfo : ProgressInfo) (s : TaskState) : TaskState :=
  match s.task.callbackTask progressInfo with
  | (task, output) => { s with task, outputs := s.outputs ++ output.toList }

end TaskState

end UpdateService
