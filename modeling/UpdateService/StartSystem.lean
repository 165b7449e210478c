import UpdateService.DownloadTaskManager
import UpdateService.ServiceSystem

/-!
# `DownloadTaskManager::Start` interleaved with the callbacks of the threads it launches

`Start` runs as the launch of the threads, the enabling of callbacks and the insertion of the task in
the map. The callbacks run section by section: those of the service (`Flight`), the computation of the
task's progress, the test whether it has changed, and the call of `DealCallBack`; a report that is
not passed on at once waits in the serial queue of the task. The task that the map may have held
before is gone when the threads are launched.
-/

namespace UpdateService

/-- What a callback does next. -/
inductive CallbackPc
  | service (f : Flight)
  | compute
  | report (progressInfo : ProgressInfo)
  | call (progressInfo : ProgressInfo) (business : Bool)

structure Callback where
  thread : Nat
  pc : CallbackPc

/-- What `Start` does next; a `Start` that fails destroys the task. -/
inductive StartPhase
  | launch
  | enable (error : DownloadError)
  | insert (error : DownloadError)
  | done
  | failed
deriving DecidableEq

structure StartSystem extends TaskRegistry where
  task : DownloadTask
  outside : Outside := {}
  callbacks : List Callback := []
  queue : List ProgressInfo := []
  phase : StartPhase := .launch
  /-- The terminal statuses that `UpdateTaskProgress` has computed. -/
  computed : List DownloadStatus := []

inductive StartOp
  | launch
  | enable
  | insert
  | threadBegin (i : Nat)
  | threadEnd (i : Nat)
  /-- The thread at a position reports. -/
  | report (i : Nat) (r : ThreadReport)
  /-- The next section of the callback at a position. -/
  | advance (k : Nat)
  | deliver
  | outside (fileSize : String → Int) (now : Int) (netType : NetType)

namespace StartSystem

def service (s : StartSystem) : ServiceState := { toDownloadService := s.task.service, toOutside := s.outside }

def setService (v : ServiceState) (s : StartSystem) : StartSystem :=
  { s with task := { s.task with service := v.toDownloadService }, outside := v.toOutside }

def infos (s : StartSystem) : List DownloadInfo := s.task.infos s.task.service.infoMap

def dealCallBack (progressInfo : ProgressInfo) (business : Bool) (s : StartSystem) : StartSystem :=
  { s with toTaskRegistry := s.toTaskRegistry.dealCallBack s.task.taskId progressInfo business }

/-- `DownloadTask::Start` of a task whose memory suffices, up to the start of the service. -/
def launch (s : StartSystem) : StartSystem :=
  let s := { s with task := { s.task with callback := some true } }
  { s.setService (s.service.start {}).2 with phase := .enable (s.service.start {}).1 }

def setThread (i : Nat) (th : DownloadThread) (s : StartSystem) : StartSystem :=
  s.setService { s.service with threads := s.service.threads.set i th }

def reports (i : Nat) (s : StartSystem) : Bool := s.callbacks.any fun c => c.thread = i

def running? (i : Nat) (s : StartSystem) : Option DownloadThread :=
  s.service.threads[i]?.filter fun th => th.phase = .running && !s.reports i

def report (i : Nat) (th : DownloadThread) (r : ThreadReport) (s : StartSystem) : StartSystem :=
  let s := if r.isLast then s.setThread i { th with phase := .finished } else s
  if s.service.isStopCallback then s else { s with callbacks := s.callbacks ++ [⟨i, .service ⟨i, r.info, .begin⟩⟩] }

def runCallback (s : StartSystem) : CallbackPc → Option CallbackPc × StartSystem
  | .service f =>
    if f.pc = .update then
      let v := s.service.updateDownloadInfo f.info
      (if v.onDownloadCallback then some .compute else none, s.setService v)
    else
      let after := f.advance s.service
      (after.1.map .service, s.setService after.2)
  | .compute =>
    let progress := s.task.getTaskProgress s.infos
    (some (.report progress.2),
      { s with
        task := progress.1
        computed := if progress.2.taskStatus.isTerminal then s.computed ++ [progress.2.taskStatus] else s.computed })
  | .report progressInfo =>
    match s.task.reportProgress progressInfo with
    | (task, none) => (none, { s with task })
    | (task, some (.call p business)) => (some (.call p business), { s with task })
    | (task, some (.submit p)) => (none, { s with task, queue := s.queue ++ [p] })
  | .call progressInfo business => (none, s.dealCallBack progressInfo business)

def advance (k : Nat) (c : Callback) (s : StartSystem) : StartSystem :=
  match s.runCallback c.pc with
  | (none, s) => { s with callbacks := s.callbacks.eraseIdx k }
  | (some pc, s) => { s with callbacks := s.callbacks.set k ⟨c.thread, pc⟩ }

def deliver (progressInfo : ProgressInfo) (queue : List ProgressInfo) (s : StartSystem) : StartSystem :=
  match s.task.callbackTask progressInfo with
  | (task, some (.call p business)) => dealCallBack p business { s with task, queue }
  | (task, _) => { s with task, queue }

def step (s : StartSystem) : StartOp → Option StartSystem
  | .launch => if s.phase = .launch then some s.launch else none
  | .enable => match s.phase with
    | .enable error =>
      some { s with task := { s.task with isStopDownloadingCallback := false }, phase := .insert error }
    | _ => none
  | .insert => match s.phase with
    | .insert error =>
      if error.errorNum ≠ .success then some { s with phase := .failed }
      else some { s with downloadTaskMap := s.downloadTaskMap.insert (s.task.taskId, 0), phase := .done }
    | _ => none
  | .threadBegin i => match s.service.threads[i]? with
    | some th => if th.phase = .submitted then some (s.setThread i { th with phase := .running }) else none
    | none => none
  | .threadEnd i => match s.running? i with
    | some th => some (s.setThread i { th with phase := .finished })
    | none => none
  | .report i r => match s.running? i with
    | some th => if r.info.downloadId = th.downloadId then some (s.report i th r) else none
    | none => none
  | .advance k => match s.callbacks[k]? with
    | some c => some (s.advance k c)
    | none => none
  | .deliver => match s.queue with
    | p :: queue => some (s.deliver p queue)
    | [] => none
  | .outside fileSize now netType => some { s with outside := { s.outside with fileSize, now, netType } }

def lts : Lts StartSystem StartOp := .ofPartial step

/-- What each step needs and does. -/
inductive Stepped (s : StartSystem) : StartOp → StartSystem → Prop
  | launch (hph : s.phase = .launch) : Stepped s .launch s.launch
  | enable (error : DownloadError) (hph : s.phase = .enable error) :
      Stepped s .enable
        { s with task := { s.task with isStopDownloadingCallback := false }, phase := .insert error }
  | fail (error : DownloadError) (hph : s.phase = .insert error) (he : error.errorNum ≠ .success) :
      Stepped s .insert { s with phase := .failed }
  | insert (error : DownloadError) (hph : s.phase = .insert error) (he : error.errorNum = .success) :
      Stepped s .insert { s with downloadTaskMap := s.downloadTaskMap.insert (s.task.taskId, 0), phase := .done }
  | threadBegin (i : Nat) (th : DownloadThread) (hth : s.service.threads[i]? = some th) :
      Stepped s (.threadBegin i) (s.setThread i { th with phase := .running })
  | threadEnd (i : Nat) (th : DownloadThread) (hth : s.running? i = some th) :
      Stepped s (.threadEnd i) (s.setThread i { th with phase := .finished })
  | report (i : Nat) (th : DownloadThread) (r : ThreadReport) (hth : s.running? i = some th) :
      Stepped s (.report i r) (s.report i th r)
  | advance (k : Nat) (c : Callback) (hc : s.callbacks[k]? = some c) : Stepped s (.advance k) (s.advance k c)
  | deliver (p : ProgressInfo) (queue : List ProgressInfo) (hq : s.queue = p :: queue) :
      Stepped s .deliver (s.deliver p queue)
  | outside (fileSize : String → Int) (now : Int) (netType : NetType) :
      Stepped s (.outside fileSize now netType) { s with outside := { s.outside with fileSize, now, netType } }

theorem stepped {s s' : StartSystem} {op : StartOp} (h : s.step op = some s') : Stepped s op s' := by
  cases op with
  | insert =>
    simp only [step] at h
    split at h
    · rename_i error hph
      split at h <;> cases h
      · rename_i he
        exact .fail error hph he
      · rename_i he
        exact .insert error hph (not_not.1 he)
    · cases h
  | _ =>
    simp only [step] at h
    try split at h
    all_goals (try split at h) <;> cases h <;> constructor <;> assumption

/-- `Start` has made the task object for these downloads, and has removed the task that was in the map
under its id. -/
def ofStart (calculateHashCode : String → String) (downloadInfos : List DownloadInfo)
    (downloadTaskMap : KeyedList (Prod.fst : String × Nat → String)) (outside : Outside) : StartSystem :=
  let newDownloadInfos := DownloadTaskManager.removeDuplicateVersionId downloadInfos
  let taskId := DownloadTaskManager.getTaskId calculateHashCode newDownloadInfos
  { downloadTaskMap := downloadTaskMap.erase taskId
    task := .ofInfos taskId newDownloadInfos outside.fileSize
    outside }

end StartSystem

end UpdateService
