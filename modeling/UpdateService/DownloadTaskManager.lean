import UpdateService.DownloadTask
import UpdateService.Lib.Lts

/-!
# `DownloadTaskManager`

The task objects that the manager has made are kept in the order it made them; `none` stands where
an object has been destroyed. `downloadTaskMap` holds positions. Every function of the manager holds
its mutex from begin to end, and what a task hands on in the meantime goes to `dealCallBack` or to
the queue. `CalculateHashCode` is a parameter.
-/

namespace UpdateService

/-- `downloadTaskMap_` and the calls of business callbacks so far. -/
structure TaskRegistry where
  downloadTaskMap : KeyedList (Prod.fst : String × Nat → String) := ∅
  calls : List (String × ProgressInfo) := []

structure DownloadTaskManager extends TaskRegistry where
  tasks : List (Option DownloadTask) := []
  /-- The reports that tasks have submitted to the serial queues. -/
  queue : List (Nat × ProgressInfo) := []
  outside : Outside := {}

namespace DownloadStatus

/-- The statuses with which `DealCallBack` removes a task. -/
def isTerminal (s : DownloadStatus) : Bool := s = .fail || s = .success || s = .cancel

end DownloadStatus

def TaskRegistry.dealCallBack (taskId : String) (progressInfo : ProgressInfo) (business : Bool) (r : TaskRegistry) :
    TaskRegistry :=
  match r.downloadTaskMap.find? taskId with
  | none => r
  | some _ =>
    { downloadTaskMap := if progressInfo.taskStatus.isTerminal then r.downloadTaskMap.erase taskId else r.downloadTaskMap
      calls := if business then r.calls ++ [(taskId, progressInfo)] else r.calls }

namespace DownloadTaskManager

def task? (i : Nat) (m : DownloadTaskManager) : Option DownloadTask := m.tasks[i]?.join

def find? (taskId : String) (m : DownloadTaskManager) : Option Nat := (m.downloadTaskMap.find? taskId).map Prod.snd

/-- Pass on what the task at a position, whose id is given, has handed on. -/
def output (i : Nat) (taskId : String) (m : DownloadTaskManager) : TaskOutput → DownloadTaskManager
  | .call progressInfo business => { m with toTaskRegistry := m.toTaskRegistry.dealCallBack taskId progressInfo business }
  | .submit progressInfo => { m with queue := m.queue ++ [(i, progressInfo)] }

def withTask (i : Nat) (f : TaskState → TaskState) (m : DownloadTaskManager) : DownloadTaskManager :=
  match m.task? i with
  | none => m
  | some t =>
    let s := f { task := t, outside := m.outside }
    s.outputs.foldl (output i t.taskId) { m with tasks := m.tasks.set i (some s.task), outside := s.outside }

/-- `DestroyTask`, after which nothing holds the object. -/
def destroyTask (i : Nat) (m : DownloadTaskManager) : DownloadTaskManager := { m with tasks := m.tasks.set i none }

def eraseTask (taskId : String) (m : DownloadTaskManager) : DownloadTaskManager :=
  { m with downloadTaskMap := m.downloadTaskMap.erase taskId }

def ensureInsert (taskId : String) (i : Nat) (m : DownloadTaskManager) : DownloadTaskManager :=
  { m with downloadTaskMap := m.downloadTaskMap.insert (taskId, i) }

def removeDuplicateVersionId (downloadInfos : List DownloadInfo) : List DownloadInfo :=
  downloadInfos.foldl
    (fun infos d => if infos.any fun d' => d'.versionId = d.versionId then infos else infos ++ [d]) []

theorem removeDuplicateVersionId_foldl {l : List DownloadInfo} (infos : List DownloadInfo)
    (h : (infos.map (·.versionId)).Nodup) :
    ((l.foldl (fun infos d => if infos.any fun d' => d'.versionId = d.versionId then infos else infos ++ [d]) infos).map
        (·.versionId)).Nodup ∧
      ∀ d, d ∈ l.foldl (fun infos d => if infos.any fun d' => d'.versionId = d.versionId then infos else infos ++ [d]) infos →
        d ∈ infos ∨ d ∈ l := by
  induction l generalizing infos with
  | nil => exact ⟨h, fun d hd => .inl hd⟩
  | cons a l ih =>
    rw [List.foldl_cons]
    split
    · obtain ⟨hn, hm⟩ := ih infos h
      exact ⟨hn, fun d hd => (hm d hd).imp_right (List.mem_cons_of_mem a)⟩
    · rename_i ha
      have hnew : ((infos ++ [a]).map (·.versionId)).Nodup := by
        rw [List.map_append, List.nodup_append]
        refine ⟨h, by simp, fun id hid id' hid' => ?_⟩
        obtain ⟨d, hd, rfl⟩ := List.mem_map.1 hid
        rw [List.map_singleton, List.mem_singleton] at hid'
        rw [hid']
        intro he
        exact ha (List.any_eq_true.2 ⟨d, hd, by simpa using he⟩)
      obtain ⟨hn, hm⟩ := ih _ hnew
      refine ⟨hn, fun d hd => ?_⟩
      rcases hm d hd with hd | hd
      · rcases List.mem_append.1 hd with hd | hd
        exacts [.inl hd, .inr (by simp [List.mem_singleton.1 hd])]
      · exact .inr (List.mem_cons_of_mem a hd)

theorem nodup_removeDuplicateVersionId (l : List DownloadInfo) :
    ((removeDuplicateVersionId l).map (·.versionId)).Nodup :=
  (removeDuplicateVersionId_foldl [] List.nodup_nil).1

theorem mem_of_mem_removeDuplicateVersionId {l : List DownloadInfo} {d : DownloadInfo}
    (h : d ∈ removeDuplicateVersionId l) :
    d ∈ l :=
  ((removeDuplicateVersionId_foldl [] List.nodup_nil).2 d h).resolve_left (by simp)

theorem removeDuplicateVersionId_ne_nil {l : List DownloadInfo} (h : l ≠ []) : removeDuplicateVersionId l ≠ [] := by
  have hpos : ∀ l infos : List DownloadInfo, infos ≠ [] → l.foldl
      (fun infos d => if infos.any fun d' => d'.versionId = d.versionId then infos else infos ++ [d]) infos ≠ [] := by
    intro l
    induction l with
    | nil => exact fun _ h => h
    | cons a l ih =>
      intro infos hi
      rw [List.foldl_cons]
      refine ih _ ?_
      split
      exacts [hi, by simp]
  cases l with
  | nil => exact absurd rfl h
  | cons a l => exact hpos l [a] (by simp)

def getTaskId (calculateHashCode : String → String) (downloadInfos : List DownloadInfo) : String :=
  calculateHashCode (((downloadInfos.map (·.versionId)).insertionSort (· ≤ ·)).foldl (· ++ ·) "")

def taskInvalid : DownloadError := ⟨.downloadInfoEmpty, .fail⟩

/-- A task left over from an earlier `Start` is cancelled and destroyed. -/
def removeDirtyTask (taskId : String) (ended : Nat → Bool) (m : DownloadTaskManager) : DownloadTaskManager :=
  match m.find? taskId with
  | none => m
  | some i => ((m.eraseTask taskId).withTask i fun s => (s.cancel ended true).2).destroyTask i

def newTask (taskId : String) (downloadInfos : List DownloadInfo) (m : DownloadTaskManager) : DownloadTaskManager :=
  { m with tasks := m.tasks ++ [some (.ofInfos taskId downloadInfos m.outside.fileSize)] }

def startError (i : Nat) (business isMemoryEnough : Bool) (error : DownloadError)
    (m : DownloadTaskManager) : DownloadError :=
  match m.task? i with
  | none => error
  | some t => (TaskState.start business isMemoryEnough error ⟨t, m.outside, []⟩).1

def startTask (taskId : String) (business isMemoryEnough : Bool) (error : DownloadError) (i : Nat)
    (m : DownloadTaskManager) :
    DownloadError × DownloadTaskManager :=
  let error' := m.startError i business isMemoryEnough error
  let m := m.withTask i fun s => (s.start business isMemoryEnough error).2
  (error', if error'.errorNum ≠ .success then m.destroyTask i else m.ensureInsert taskId i)

def start (calculateHashCode : String → String) (downloadInfos : List DownloadInfo) (business isMemoryEnough : Bool)
    (ended : Nat → Bool) (m : DownloadTaskManager) : DownloadError × DownloadTaskManager :=
  if downloadInfos = [] then (taskInvalid, m)
  else
    let newDownloadInfos := removeDuplicateVersionId downloadInfos
    let taskId := getTaskId calculateHashCode newDownloadInfos
    let error : DownloadError := match m.find? taskId with
      | none => {}
      | some _ => ⟨.success, .success⟩
    let m := (m.removeDirtyTask taskId ended).newTask taskId newDownloadInfos
    m.startTask taskId business isMemoryEnough error (m.tasks.length - 1)

/-- `Pause`, `Resume` and `Cancel`: an operation on the task in the map. -/
def onTask (taskId : String) (f : TaskState → DownloadError × TaskState) (m : DownloadTaskManager) :
    DownloadError × DownloadTaskManager :=
  match m.find? taskId with
  | none => (taskInvalid, m)
  | some i =>
    match m.task? i with
    | none => (taskInvalid, m)
    | some t => ((f ⟨t, m.outside, []⟩).1, m.withTask i fun s => (f s).2)

def pause (taskId : String) (ended : Nat → Bool) : DownloadTaskManager → DownloadError × DownloadTaskManager :=
  onTask taskId (TaskState.pause ended)

def resume (taskId : String) (netType : NetType) (business : Bool) :
    DownloadTaskManager → DownloadError × DownloadTaskManager :=
  onTask taskId (TaskState.resume netType business)

def cancel (taskId : String) (ended : Nat → Bool) (isDeleteFiles : Bool) :
    DownloadTaskManager → DownloadError × DownloadTaskManager :=
  onTask taskId (TaskState.cancel ended isDeleteFiles)

def exec (op : DbOp) (m : DownloadTaskManager) : DownloadTaskManager :=
  { m with outside := { m.outside with table := op.apply m.outside.table, trace := m.outside.trace ++ [.db op] } }

def taskProgress (i : Nat) (m : DownloadTaskManager) : DownloadTaskManager × ProgressInfo :=
  match m.task? i with
  | none => (m, {})
  | some t =>
    match t.getTaskProgress (t.infos t.service.infoMap) with
    | (t, progressInfo) => ({ m with tasks := m.tasks.set i (some t) }, progressInfo)

def removeTask (taskId : String) (m : DownloadTaskManager) : DownloadError × DownloadTaskManager :=
  let m := m.exec (.deleteByTaskId taskId)
  match m.find? taskId with
  | none => (taskInvalid, m)
  | some i =>
    match m.taskProgress i with
    | (m, progressInfo) =>
      if !progressInfo.isTaskCompleted then (⟨.systemBusy, .fail⟩, m)
      else ({}, (m.destroyTask i).eraseTask taskId)

def isDownloadComplete (i : Nat) (m : DownloadTaskManager) : DownloadTaskManager × Bool :=
  match m.taskProgress i with
  | (m, progressInfo) => (m, progressInfo.taskStatus.isTerminal)

def onNetChange (m : DownloadTaskManager) : DownloadTaskManager :=
  m.downloadTaskMap.entries.foldl
    (fun m entry => match m.isDownloadComplete entry.2 with
      | (m, true) => m
      | (m, false) => m.withTask entry.2 TaskState.onNetChange) m

/-! ### Restoring -/

def restoreKey (info : DownloadInfo) : String := info.taskId ++ "_" ++ info.downloadId

/-- The first record of each key, in key order. -/
def filterDuplicates (downloadInfos : List DownloadInfo) : KeyedList restoreKey :=
  downloadInfos.foldl (fun m info => if (m.find? (restoreKey info)).isSome then m else m.insert info) ∅

def groups (infos : List DownloadInfo) : List (String × List DownloadInfo) :=
  ((infos.map (·.taskId)).dedup.insertionSort (· ≤ ·)).map fun taskId => (taskId, infos.filter (·.taskId = taskId))

/-- Make the task of a group and let it recover, unless it is complete. -/
def restoreGroup (taskId : String) (infos : List DownloadInfo) (m : DownloadTaskManager) : DownloadTaskManager :=
  let i := m.tasks.length
  let m := (m.newTask taskId infos).ensureInsert taskId i
  match m.isDownloadComplete i with
  | (m, true) => m
  | (m, false) => m.withTask i TaskState.recover

def restoreDownloadTask (m : DownloadTaskManager) : DownloadTaskManager :=
  match DownloadInfoOperator.queryAll m.outside.table with
  | [] => m
  | downloadInfos =>
    (groups (filterDuplicates downloadInfos).entries).foldl (fun m group => m.restoreGroup group.1 group.2)
      { m with downloadTaskMap := ∅ }

/-- The process starts again: what is left is the table and the files, and the calls that have been made. -/
def restart (m : DownloadTaskManager) : DownloadTaskManager :=
  restoreDownloadTask { calls := m.calls, outside := m.outside }

end DownloadTaskManager

/-- A step of the manager, a callback of a thread, a turn of a queue, a new process, or anything the
rest of the system does in between. -/
inductive ManagerOp
  | start (downloadInfos : List DownloadInfo) (business isMemoryEnough : Bool) (ended : Nat → Bool)
  | pause (taskId : String) (ended : Nat → Bool)
  | resume (taskId : String) (netType : NetType) (business : Bool)
  | cancel (taskId : String) (ended : Nat → Bool) (isDeleteFiles : Bool)
  | removeTask (taskId : String)
  | netChange
  /-- The thread at a position of the service of the task at a position reports. -/
  | report (i j : Nat) (r : ThreadReport)
  /-- Anything else that this thread does to its own members. -/
  | thread (i j : Nat) (th : DownloadThread)
  /-- The next report in the queue of the task at a position. -/
  | deliver (i : Nat)
  /-- A task that is not in the map is destroyed. -/
  | expire (i : Nat)
  | restart
  | outside (fileSize : String → Int) (now : Int) (netType : NetType)

namespace DownloadTaskManager

def deliver (i : Nat) (m : DownloadTaskManager) : DownloadTaskManager :=
  match m.queue.find? fun report => report.1 = i with
  | none => m
  | some report =>
    withTask i (TaskState.deliver report.2) { m with queue := m.queue.eraseP fun report => report.1 = i }

def setThread (j : Nat) (th : DownloadThread) (s : TaskState) : TaskState :=
  { s with task := { s.task with service := { s.task.service with threads := s.task.service.threads.set j th } } }

def thread? (i j : Nat) (m : DownloadTaskManager) : Option DownloadThread :=
  (m.task? i).bind fun t => t.service.threads[j]?

def step (calculateHashCode : String → String) (m : DownloadTaskManager) : ManagerOp → Option DownloadTaskManager
  | .start downloadInfos business isMemoryEnough ended =>
    some (m.start calculateHashCode downloadInfos business isMemoryEnough ended).2
  | .pause taskId ended => some (m.pause taskId ended).2
  | .resume taskId netType business => some (m.resume taskId netType business).2
  | .cancel taskId ended isDeleteFiles => some (m.cancel taskId ended isDeleteFiles).2
  | .removeTask taskId => some (m.removeTask taskId).2
  | .netChange => some m.onNetChange
  | .report i j r => match m.thread? i j with
    | none => none
    | some th => if r.info.downloadId = th.downloadId then some (m.withTask i (TaskState.report r.info)) else none
  | .thread i j th => match m.thread? i j with
    | none => none
    | some th₀ => if th.downloadInfo = th₀.downloadInfo then some (m.withTask i (setThread j th)) else none
  | .deliver i => some (m.deliver i)
  | .expire i => if i ∈ m.downloadTaskMap.entries.map Prod.snd then none else some (m.destroyTask i)
  | .restart => some m.restart
  | .outside fileSize now netType => some { m with outside := { m.outside with fileSize, now, netType } }

def lts (calculateHashCode : String → String) : Lts DownloadTaskManager ManagerOp := .ofPartial (step calculateHashCode)

end DownloadTaskManager

end UpdateService
