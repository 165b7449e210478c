import UpdateService.Lib.KeyedList
import UpdateService.UpdateUserUnlockObserver

/-!
# Who may call (`UpdateService::CallbackEnter`, `PermissionCheck`, `ModuleManager`)

Every request to the service is let in by `CallbackEnter`. What it asks is whether an extension has been loaded and
has hooked the code of the request, whether the user has been unlocked, and what the access token service says of the
caller. A hook is a function of type `F`.
-/

namespace UpdateService

inductive UpdaterSaInterfaceCode
  | checkVersion | download | pauseDownload | resumeDownload | upgrade | clearError | terminateUpgrade | setPolicy
  | getPolicy | getNewVersion | getNewVersionDescription | getCurrentVersion | getCurrentVersionDescription
  | getTaskInfo | registerCallback | unregisterCallback | cancel | factoryReset | applyNewVersion
  | verifyUpgradePackage | forceFactoryReset | deepFactoryReset | getDeepFactoryResetInfo
deriving DecidableEq, Repr

/-- `CHECK_VERSION` is 1, and each of the others is one more than the one before it. -/
def UpdaterSaInterfaceCode.castUint (code : UpdaterSaInterfaceCode) : Nat := code.ctorIdx + 1

inductive ATokenTypeEnum
  | tokenHap | tokenNative | tokenShell | tokenInvalid
deriving DecidableEq, Repr

/-- What the access token service and the IPC say of a caller. -/
structure Caller where
  tokenType : ATokenTypeEnum
  isSystemApp : Bool
  uid : Int
  verifyAccessToken : String → Bool

/-- Of `CallResult` the values that `CallbackEnter` answers with. -/
inductive EnterResult
  | success | forbidden | appNotGranted | notSystemApp | mdmDisableReset
deriving DecidableEq, Repr

def rootUid : Int := 0
def edmUid : Int := 3057
def cdmUid : Int := 8011

/-- The part of `UpdateService` and of `ModuleManager` that the requests depend on. An observer that has not been
created is one that has not been started. -/
structure ServiceAccess (F : Type) where
  isLoaded : Bool := false
  onRemoteRequestFuncMap : KeyedList fun entry : Nat × F => entry.1 := ∅
  userUnlockObserver : UpdateUserUnlockObserver

namespace ServiceAccess
open UpdaterSaInterfaceCode
variable {F : Type}

def exemptCodes : List Nat :=
  [factoryReset, applyNewVersion, verifyUpgradePackage, forceFactoryReset, deepFactoryReset,
    getDeepFactoryResetInfo].map castUint

def isUserUnlockRequired (code : Nat) : Bool := code ∉ exemptCodes

def isCallerValid (caller : Caller) : Bool :=
  match caller.tokenType with
  | .tokenHap => caller.isSystemApp
  | .tokenNative => caller.uid = rootUid || caller.uid = edmUid || caller.uid = cdmUid
  | _ => false

def permission (code : Nat) : String :=
  if code = forceFactoryReset.castUint then "ohos.permission.FORCE_FACTORY_RESET"
  else if code ∈ [factoryReset, deepFactoryReset, getDeepFactoryResetInfo].map castUint then
    "ohos.permission.FACTORY_RESET"
  else "ohos.permission.UPDATE_SYSTEM"

def isPermissionGranted (code : Nat) (caller : Caller) : Bool := caller.verifyAccessToken (permission code)

def resetCodes : List Nat := [forceFactoryReset, factoryReset, deepFactoryReset].map castUint

/-- `isDisallowed` is the parameter `persist.edm.reset_factory_disallowed`. -/
def isResetDisabledByMdm (code : Nat) (isDisallowed : Bool) : Bool := code ∈ resetCodes && isDisallowed

def permissionCheck (code : Nat) (caller : Caller) (isDisallowed : Bool) : EnterResult :=
  if !isCallerValid caller then .notSystemApp
  else if !isPermissionGranted code caller then .appNotGranted
  else if isResetDisabledByMdm code isDisallowed then .mdmDisableReset
  else .success

def isMapFuncExist (s : ServiceAccess F) (code : Nat) : Bool := (s.onRemoteRequestFuncMap.find? code).isSome

def callbackEnter (s : ServiceAccess F) (code : Nat) (caller : Caller) (isDisallowed : Bool) : EnterResult :=
  if !s.isLoaded then
    if isUserUnlockRequired code && !s.userUnlockObserver.initialized then .forbidden
    else permissionCheck code caller isDisallowed
  else if !s.isMapFuncExist code then permissionCheck code caller isDisallowed
  else .success

/-- The function of the extension that `CallbackParcel` calls, `none` for the service's own. -/
def callbackParcel (s : ServiceAccess F) (code : Nat) : Option F :=
  if s.isLoaded then (s.onRemoteRequestFuncMap.find? code).map (·.2) else none

/-- A code that has a function keeps it. -/
def hookFunc (codes : List Nat) (handleRemoteRequest : F) (s : ServiceAccess F) : ServiceAccess F :=
  { s with
    onRemoteRequestFuncMap :=
      (codes.map fun code => (code, handleRemoteRequest)).foldl KeyedList.emplace s.onRemoteRequestFuncMap }

end ServiceAccess

inductive AccessOp (F : Type)
  /-- `isOpened` says whether the library of the extension is found and opened. -/
  | onStart (isOpened : Bool)
  | onStop
  | hookFunc (codes : List Nat) (handleRemoteRequest : F)
  /-- Whatever else happens to the observer, or to the users. -/
  | observer (op : UnlockOp)

namespace ServiceAccess
variable {F : Type}

def onObserver (op : UnlockOp) (s : ServiceAccess F) : Option (ServiceAccess F) :=
  (s.userUnlockObserver.step op).map fun userUnlockObserver => { s with userUnlockObserver }

def step (s : ServiceAccess F) : AccessOp F → Option (ServiceAccess F)
  | .onStart isOpened =>
    let s := { s with isLoaded := s.isLoaded || isOpened }
    if s.isLoaded then some s else s.onObserver .start
  | .onStop => if s.userUnlockObserver.hasStarted then s.onObserver .stop else some s
  | .hookFunc codes handleRemoteRequest => some (s.hookFunc codes handleRemoteRequest)
  | .observer op => if op = .start ∨ op = .stop then none else s.onObserver op

def lts : Lts (ServiceAccess F) (AccessOp F) := .ofPartial step

end ServiceAccess

end UpdateService
