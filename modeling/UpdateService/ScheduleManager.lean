import UpdateService.DownloadCommon

/-!
# Idle checks and wake-up plans (`services/startup`)

What the accesses answer is data here, so that `AccessManager` is what one check finds. `samgr` is the system
ability manager, if there is one, and its answer to a list of events.
-/

namespace UpdateService

/-- `static_cast<NetType>(CAST_UINT(a) | CAST_UINT(b))`; the values are the sets of three bits. -/
def NetType.or (a b : NetType) : NetType :=
  match a.mask ||| b.mask with
  | 0 => noNet
  | 1 => cellular
  | 2 => meteredWifi
  | 3 => cellularAndMeteredWifi
  | 4 => notMeteredWifi
  | 5 => cellularAndNotMeteredWifi
  | 6 => wifi
  | _ => cellularAndWifi

namespace Constant

def defaultPullupInterval : UInt64 := 24 * 60 * 60

def keepAliveThreshold : UInt64 := 60 * 60

end Constant

/-- The delays are in seconds. -/
structure ScheduleTask where
  minDelayTime : UInt64 := 0
  maxDelayTime : UInt64 := 0
  netType : NetType := .noNet
deriving DecidableEq

namespace ScheduleTask

/-- `operator<`. -/
def lt (a b : ScheduleTask) : Bool :=
  if a.minDelayTime ≠ b.minDelayTime then a.minDelayTime < b.minDelayTime else a.maxDelayTime < b.maxDelayTime

def isValidNetTask (t : ScheduleTask) : Bool := t.netType ≠ NetType.noNet

/-- `std::sort`; tasks that are equal in the order may come in any order, here in the one they had. -/
def sort (tasks : List ScheduleTask) : List ScheduleTask := tasks.mergeSort fun a b => !b.lt a

end ScheduleTask

structure Access where
  isIdle : Bool := true
  scheduleTasks : List ScheduleTask := []
  exit : Bool := true
deriving DecidableEq

inductive AccessType
  | default | firmware | param | download | report
deriving DecidableEq, Repr

structure AccessManager where
  isRemoteIdle : Bool := true
  accessMap : List (AccessType × Option Access) := []
deriving DecidableEq

namespace AccessManager

def isIdle (m : AccessManager) : Bool := m.isRemoteIdle && m.accessMap.all fun e => e.2.all (·.isIdle)

def getScheduleTasks (m : AccessManager) : List ScheduleTask := m.accessMap.flatMap fun e => e.2.elim [] (·.scheduleTasks)

def exit (m : AccessManager) : Bool := m.accessMap.all fun e => e.2.all (·.exit)

end AccessManager

inductive OnDemandEventId
  | timedEvent
deriving DecidableEq, Repr

structure SystemAbilityOnDemandEvent where
  eventId : OnDemandEventId
  name : String
  value : String
deriving DecidableEq

namespace SystemAbilityOperator
variable (samgr : Option (List SystemAbilityOnDemandEvent → Int32))

def validMinInterval : UInt64 := 30

def createTimedEvent (nextStartDuration : UInt64) (timedEventName : String) : SystemAbilityOnDemandEvent where
  eventId := .timedEvent
  name := timedEventName
  value := toString nextStartDuration.toNat

def updateStartupOnDemandPolicy (events : List SystemAbilityOnDemandEvent) : Bool :=
  match samgr with
  | none => false
  | some updateOnDemandPolicy => updateOnDemandPolicy events = 0

/-- The loop, with the events up to here. -/
def updateStartupPolicyLoop (timeEventName : String) (abilityOnDemandEvents : List SystemAbilityOnDemandEvent) :
    List ScheduleTask → Bool
  | [] => updateStartupOnDemandPolicy samgr abilityOnDemandEvents
  | task :: scheduleTasks =>
    if validMinInterval ≤ task.minDelayTime then
      updateStartupPolicyLoop timeEventName (abilityOnDemandEvents ++ [createTimedEvent task.minDelayTime timeEventName])
        scheduleTasks
    else false

def updateStartupPolicy (scheduleTasks : List ScheduleTask) (timeEventName : String) : Bool :=
  updateStartupPolicyLoop samgr timeEventName [] scheduleTasks

end SystemAbilityOperator

namespace StartupSchedule

def onDemandSchedule (samgr : Option (List SystemAbilityOnDemandEvent → Int32)) (tasks : List ScheduleTask) : Bool :=
  if tasks = [] then false
  else if SystemAbilityOperator.updateStartupPolicy samgr tasks "awakeloopevent" then true
  else SystemAbilityOperator.updateStartupPolicy samgr tasks "loopevent"

end StartupSchedule

/-- `startupSchedule` is false for a null pointer. -/
structure ScheduleManager where
  accessManager : Option AccessManager := none
  startupSchedule : Bool := true
  scheduleTask : List ScheduleTask := []
deriving DecidableEq

namespace ScheduleManager

/-- The loop of `TaskManage` that takes the tasks with a network type out of the list. -/
def takeNetTasks (netTask : ScheduleTask) : List ScheduleTask → ScheduleTask × List ScheduleTask
  | [] => (netTask, [])
  | task :: tasks =>
    if task.netType ≠ NetType.noNet then takeNetTasks { netTask with netType := netTask.netType.or task.netType } tasks
    else
      let r := takeNetTasks netTask tasks
      (r.1, task :: r.2)

/-- The new `scheduleTasks`, and whether the process may exit. -/
def taskManage (accessManager : Option AccessManager) : List ScheduleTask × Bool :=
  match accessManager with
  | none => ([], true)
  | some accessManager =>
    let (netTask, tasks) := takeNetTasks {} accessManager.getScheduleTasks
    let scheduleTasks := if netTask.isValidNetTask then [netTask] else []
    let timedTask : ScheduleTask :=
      match ScheduleTask.sort tasks with
      | [] => { minDelayTime := Constant.defaultPullupInterval }
      | front :: _ => { minDelayTime := front.minDelayTime }
    (scheduleTasks ++ [timedTask], Constant.keepAliveThreshold < timedTask.minDelayTime)

def idleCheck (s : ScheduleManager) : ScheduleManager × Bool :=
  if s.accessManager.any (!·.isIdle) then (s, false)
  else ({ s with scheduleTask := (taskManage s.accessManager).1 }, true)

def taskSchedule (samgr : Option (List SystemAbilityOnDemandEvent → Int32)) (s : ScheduleManager) : Bool :=
  if s.startupSchedule then StartupSchedule.onDemandSchedule samgr s.scheduleTask else false

def exit (samgr : Option (List SystemAbilityOnDemandEvent → Int32)) (s : ScheduleManager) : Bool :=
  if s.accessManager.any (!·.exit) then false else s.taskSchedule samgr

end ScheduleManager

structure StartupManager where
  scheduleManager : Option ScheduleManager := none
  lastIdleCheckTime : Int := 0
deriving DecidableEq

namespace StartupManager

/-- `now` and `now'` are what the two calls of `GetTimestamp` give. -/
def idleCheck (idleCheckInterval now now' : Int) (p : StartupManager) : StartupManager × Bool :=
  match p.scheduleManager with
  | none => (p, true)
  | some scheduleManager =>
    if ((now - p.lastIdleCheckTime).natAbs : Int) < idleCheckInterval then (p, false)
    else
      let (scheduleManager, isIdle) := scheduleManager.idleCheck
      ({ scheduleManager := some scheduleManager, lastIdleCheckTime := now' }, isIdle)

def preExit (samgr : Option (List SystemAbilityOnDemandEvent → Int32)) (p : StartupManager) : Bool :=
  p.scheduleManager.all (·.exit samgr)

/-- One call of the looper: the new state, and whether `SAExit` is reached. -/
def idleLoop (samgr : Option (List SystemAbilityOnDemandEvent → Int32)) (idleCheckInterval now now' : Int)
    (p : StartupManager) : StartupManager × Bool :=
  let (p, isIdle) := p.idleCheck idleCheckInterval now now'
  (p, isIdle && p.preExit samgr)

end StartupManager

end UpdateService
