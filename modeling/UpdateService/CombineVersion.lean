import UpdateService.FirmwareResultProcess

/-!
# The version of all packages (`CombinePackageVersionUtils`)

The parts of a version are cut out of the versions of the base, the cust and the preload packages. The searches for
brackets, dots and letters give the positions; a cut that starts beyond the end of its string has no value here.
-/

namespace UpdateService

namespace CombinePackageVersionUtils
open FirmwareResultProcess

def intMax : Nat := 2 ^ 31 - 1

/-- `std::string::find` of one character. -/
def find (c : Char) (s : List Char) : Option Nat := s.findIdx? (· = c)

def findLastOf (c : Char) (s : List Char) : Option Nat :=
  (s.reverse.findIdx? (· = c)).map fun fromBack => s.length - 1 - fromBack

/-- The difference of two positions, which are of 64 bits without a sign. -/
def sizeSub (x y : Nat) : Nat := if y ≤ x then x - y else x + 2 ^ 64 - y

def handleBaseVersion (baseVersion : List Char) : Option (List Char) :=
  match find ' ' baseVersion with
  | none => some []
  | some start =>
    match find '(' baseVersion with
    | none => substr baseVersion start baseVersion.length
    -- a bracket before the space is not looked out for: the count goes round
    | some stop => substr baseVersion start (sizeSub stop start)

/-- The loop of `HandleBaseVersionLog`, where the last argument is how far `mid` is from the end. -/
def scan (baseVersion : List Char) (mid : Nat) (isNumbers : Bool) : Nat → Option (Nat × Bool)
  | 0 => some (mid, isNumbers)
  | left + 1 => do
    let c ← baseVersion[mid]?
    if c.isDigit then scan baseVersion (mid + 1) true left
    else if isNumbers then some (mid, isNumbers)
    else scan baseVersion (mid + 1) isNumbers left

/-- The two outputs, which are `base` and `log` before the call. -/
def handleBaseVersionLog (baseVersion base log : List Char) : Option (List Char × List Char) :=
  match findLastOf '(' baseVersion, findLastOf ')' baseVersion with
  | some start, some stop =>
    if start ≥ stop then some (base, log)
    else do
      let start := start + 1
      let (mid, isNumbers) ← scan baseVersion start false (stop - start)
      if mid = stop ∧ !isNumbers then
        let log ← substr baseVersion start (mid - start)
        return ([], log)
      else
        let base ← substr baseVersion start (mid - start)
        if mid ≥ stop then return (base, [])
        else
          let log ← substr baseVersion mid (stop - mid)
          return (base, log)
  | _, _ => some (base, log)

def handleCustVersion (custVersion : List Char) : Option (List Char) :=
  if custVersion = [] then some []
  else
    match findLastOf '(' custVersion, findLastOf ')' custVersion, findLastOf '.' custVersion with
    | some mid, some stop, some start =>
      if stop ≤ mid + 1 ∨ mid ≤ start + 1 ∨ stop ≥ intMax ∨ mid ≥ intMax then some []
      else do
        let cust ← substr custVersion (mid + 1) (stop - mid - 1)
        let getEnum ← substr custVersion (start + 1) (mid - start - 1)
        return cust ++ 'E' :: getEnum
    | _, _, _ => some []

def handlePreloadVersion (preloadVersion : List Char) : Option (List Char) :=
  if preloadVersion = [] then some []
  else
    match findLastOf 'R' preloadVersion, findLastOf ')' preloadVersion with
    | some start, some stop =>
      if stop ≤ start ∨ stop ≥ intMax then some []
      else do
        let preload ← substr preloadVersion start (stop - start)
        match findLastOf '.' preloadVersion, findLastOf '(' preloadVersion with
        | some start, some stop =>
          if stop ≤ start + 1 ∨ stop ≥ intMax then return []
          else
            let getPnum ← substr preloadVersion (start + 1) (stop - start - 1)
            return preload ++ 'P' :: getPnum
        | _, _ => return []
    | _, _ => some []

/-- `deviceName` is the answer of `DeviceAdapter::GetDeviceName`. -/
def getPackageVersion (deviceName baseVersion custVersion preloadVersion : List Char) : Option (List Char) := do
  let base ← handleBaseVersion baseVersion
  let (baseLog, log) ← handleBaseVersionLog baseVersion [] []
  let cust ← handleCustVersion custVersion
  let preload ← handlePreloadVersion preloadVersion
  return deviceName ++ base ++ '(' :: (baseLog ++ cust ++ preload ++ log ++ [')'])

end CombinePackageVersionUtils

end UpdateService
