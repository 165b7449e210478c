import UpdateService.FirmwareAutoUpgradeAlarmManager

/-!
# The status cache (`StatusCache`, `FirmwareStatusCache`)

The flag of a running check and the times of the last requests. A function that reads the clock twice is given both
readings.
-/

namespace UpdateService

structure StatusCache where
  checking : Bool := false
  lastCheckTime : Int := -1
  lastDownloadTime : Int := -1
  lastUpgradeTime : Int := -1
deriving DecidableEq, Repr

namespace StatusCache

/-- A check that was begun more than five minutes ago does not count. -/
def isChecking (now : Int) (c : StatusCache) : Bool :=
  if c.lastCheckTime ≠ -1 ∧ Constant.fiveMinutesSeconds < |now - c.lastCheckTime| then false else c.checking

def setIsChecking (isChecking : Bool) (now : Int) (c : StatusCache) : StatusCache :=
  { c with checking := isChecking, lastCheckTime := if isChecking then now else c.lastCheckTime }

/-- Whether a request at `now` is a repeated one, and the time of the last request after it, which is read again. -/
def isTriggered (now now' last : Int) : Bool × Int :=
  if last = -1 then (false, now)
  else if |now - last| < Constant.milleseconds then (true, last)
  else (false, now')

def isDownloadTriggered (now now' : Int) (c : StatusCache) : Bool × StatusCache :=
  ((isTriggered now now' c.lastDownloadTime).1,
    { c with lastDownloadTime := (isTriggered now now' c.lastDownloadTime).2 })

def isUpgradeTriggered (now now' : Int) (c : StatusCache) : Bool × StatusCache :=
  ((isTriggered now now' c.lastUpgradeTime).1,
    { c with lastUpgradeTime := (isTriggered now now' c.lastUpgradeTime).2 })

end StatusCache

end UpdateService
