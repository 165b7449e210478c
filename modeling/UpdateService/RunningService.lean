import UpdateService.DownloadTaskManager
import UpdateService.ServiceRun
import UpdateService.ThreadRun

/-!
# A `DownloadService` with the runs of its threads

In `ServiceState.lts` a thread reports what it likes. Here it reports what `ThreadRun` says: the thread objects are
those of the service, and `places` says where the task of each of them is. All steps read one clock, which never goes
back. A network change and `Stop` reach a thread through the service only. A new process makes the service again from
the rows of its task, as `RestoreDownloadTask` does.
-/

namespace UpdateService

structure TaskPlace where
  pc : TaskPc := .submitted
  headers : List String := []

structure RunningService where
  service : ServiceState
  places : Nat → TaskPlace := fun _ => {}

inductive RunningOp
  | start
  | pause
  | resume (netType : NetType)
  | netChangeToPause
  | netChangeToStart
  | recover
  | restore
  /-- The next step of the task of the thread at a position. -/
  | thread (i : Nat) (op : ThreadOp)
  | outside (fileSize : String → Int) (now : Int) (netType : NetType)

def ThreadOp.now? : ThreadOp → Option Int
  | .checkBeforeStart now | .start now | .initPackageParam _ now | .progress _ _ now | .finish _ _ now | .verify _ now
  | .verifyProgress _ now | .reportVerify _ now | .callbackPause now => some now
  | _ => none

/-- The labels that the service does not bring about itself. -/
def ThreadOp.isTask : ThreadOp → Bool
  | .netChangeToPause | .callbackPause _ | .stop => false
  | _ => true

namespace RunningService

def ofInfos (taskId : String) (downloadInfos : List DownloadInfo) (outside : Outside) : RunningService where
  service := { toDownloadService := (DownloadTask.ofInfos taskId downloadInfos outside.fileSize).service, toOutside := outside }

def run? (i : Nat) (s : RunningService) : Option ThreadRun :=
  s.service.threads[i]?.map fun thread => { thread, pc := (s.places i).pc, headers := (s.places i).headers }

def setRun (i : Nat) (run : ThreadRun) (s : RunningService) : RunningService where
  service := { s.service with threads := s.service.threads.set i run.thread }
  places := Function.update s.places i ⟨run.pc, run.headers⟩

def callback (infos : List DownloadCallbackInfo) (s : RunningService) : RunningService :=
  { s with service := infos.foldl (fun v info => v.callbackUpdateDownloadProgress info) s.service }

/-- The records of the task that the table holds. -/
def storedInfos (s : ServiceState) : List DownloadInfo :=
  (DownloadTaskManager.filterDuplicates (DownloadInfoOperator.queryAll s.table)).entries.filter (·.taskId = s.taskId)

def step (s : RunningService) : RunningOp → Option RunningService
  | .start => some { s with service := (s.service.start {}).2 }
  -- whether a thread has ended within the wait of `Stop` says nothing about where its task is
  | .pause => some { s with service := (s.service.pause fun _ => false).2 }
  | .resume netType => some { s with service := (s.service.resume netType).2 }
  | .netChangeToPause => some { s with service := s.service.netChangeToPause }
  | .netChangeToStart => some { s with service := s.service.netChangeToStart }
  | .recover => some { s with service := s.service.recover }
  | .restore => some (ofInfos s.service.taskId (storedInfos s.service) s.service.toOutside)
  | .thread i op =>
    match s.run? i with
    | none => none
    | some run =>
      if op.isTask ∧ ∀ now ∈ op.now?, now = s.service.now then
        (run.step op).map fun run => (s.setRun i run).callback run.reports
      else none
  | .outside fileSize now netType =>
    if s.service.now ≤ now then some { s with service := { s.service with fileSize, now, netType } } else none

def lts : Lts RunningService RunningOp := .ofPartial step

end RunningService

end UpdateService
