import UpdateService.FirmwareStore
import UpdateService.StringUtils
import UpdateService.Lib.Separated

/-!
# The verdict on an upgrade (`FirmwareResultProcess`)

The updater leaves a file of records behind. Where there is none for a component, its version is compared with the
one the device shows. `none` stands for a slice that is out of range.
-/

namespace UpdateService

def updaterResultSuccess : List Char := "pass".toList

def updaterResultFailure : List Char := "fail".toList

def updaterResultSuccessReason : List Char := "compare version success".toList

def updaterResultFailureReason : List Char := "compare version fail".toList

inductive UpdateResultCode
  | success | failure | partSuccess
deriving DecidableEq, Repr

structure UpdateResult where
  spath : List Char := []
  result : List Char := []
  reason : List Char := []
deriving DecidableEq, Repr

abbrev ResultMap := KeyedList (Prod.fst : List Char × UpdateResult → List Char)

def combinationTypeHota : Nat := 1

namespace FirmwareResultProcess
open StringUtils

def symbolLength : Nat := 1

def updateSuccessed : Nat := 1

def updateFailed : Nat := 2

def pkgPathIndex : Nat := 0

def resultIndex : Nat := 1

def reasonIndex : Nat := 2

/-- `std::string::substr`, which throws beyond the end. -/
def substr (s : List Char) (pos count : Nat) : Option (List Char) :=
  if pos ≤ s.length then some ((s.drop pos).take count) else none

def parseResult (results : List (List Char)) (value : List Char) (index : Nat) : List Char :=
  match results[index]? with
  | none => value
  | some result => trim result

/-- The record of a line that is not empty. -/
def updateResultOf (resultLine : List Char) : Option UpdateResult := do
  let results := resultLine.getlines '|'
  let updateResult : UpdateResult :=
    { spath := parseResult results [] pkgPathIndex
      result := parseResult results [] resultIndex
      reason := parseResult results [] reasonIndex }
  let updateResult ←
    match updateResult.result.findIdx? (· = ':') with
    | none => pure updateResult
    | some colonPlace => do
      let result ← substr updateResult.result 0 colonPlace
      -- the place in the trimmed text, used in the text that is not
      let token ← results[resultIndex]?
      let reason ← substr token (colonPlace + symbolLength) token.length
      pure { updateResult with result, reason }
  pure { spath := trim updateResult.spath, result := trim updateResult.result, reason := trim updateResult.reason }

def parseUpdaterResultRecord (resultLine : List Char) (resultMap : ResultMap) : Option ResultMap :=
  if resultLine = [] then some resultMap
  else (updateResultOf resultLine).map fun updateResult => resultMap.emplace (updateResult.spath, updateResult)

def compareVersion (displayVersion : String) (component : FirmwareComponent) : UpdateResult :=
  if component.versionNumber = displayVersion then
    { spath := component.spath.toList, result := updaterResultSuccess, reason := updaterResultSuccessReason }
  else
    { spath := component.spath.toList, result := updaterResultFailure, reason := updaterResultFailureReason }

def emplaceCompared (displayVersion : String) (resultMap : ResultMap) (component : FirmwareComponent) : ResultMap :=
  resultMap.emplace ((compareVersion displayVersion component).spath, compareVersion displayVersion component)

def handleFileError (displayVersion : String) (components : List FirmwareComponent) : ResultMap :=
  components.foldl (emplaceCompared displayVersion) ∅

def resultFlag (updateResultStatus : List Char) : Nat :=
  if updateResultStatus = updaterResultSuccess then updateSuccessed else updateFailed

/-- One turn of the loop of `HandleFileResults` over the flags and the map. -/
def handleComponent (displayVersion : String) (s : Nat × ResultMap) (component : FirmwareComponent) : Nat × ResultMap :=
  match s.2.find? component.spath.toList with
  | none =>
    (s.1 ||| resultFlag (compareVersion displayVersion component).result, emplaceCompared displayVersion s.2 component)
  | some result => (s.1 ||| resultFlag result.2.result, s.2)

def handleFileResults (taskTable : List FirmwareTask) (displayVersion : String) (resultMap : ResultMap)
    (components : List FirmwareComponent) : UpdateResultCode × ResultMap :=
  let task := FirmwareTaskOperator.queryTask taskTable
  if !task.isExistTask then (.failure, resultMap)
  else
    let (hotaUpdateResult, resultMap) := components.foldl (handleComponent displayVersion) (0, resultMap)
    if task.combinationType = combinationTypeHota then
      (if hotaUpdateResult = updateSuccessed then .success else .failure, resultMap)
    else if hotaUpdateResult ≠ updateSuccessed then (.failure, resultMap)
    else (.success, resultMap)

/-- `GetUpdaterResult`; `file` is the text of the result file, if it can be opened. -/
def getUpdaterResult (taskTable : List FirmwareTask) (displayVersion : String) (file : Option (List Char))
    (components : List FirmwareComponent) (resultMap : ResultMap) : Option (UpdateResultCode × ResultMap) :=
  if components = [] then some (.failure, resultMap)
  else
    match file with
    | none => some (handleFileResults taskTable displayVersion (handleFileError displayVersion components) components)
    | some text => do
      let resultMap ← (text.splitOn '\n').foldlM (fun resultMap buffer => parseUpdaterResultRecord buffer resultMap) ∅
      pure (handleFileResults taskTable displayVersion resultMap components)

end FirmwareResultProcess

end UpdateService
