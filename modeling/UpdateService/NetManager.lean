import UpdateService.DownloadCommon
import UpdateService.Lib.KeyedList
import UpdateService.Lib.Loop
import UpdateService.Lib.Lts

/-!
# The callbacks on a change of the network (`NetManager`)

`F` are the functions of the callbacks, `none` stands for an empty `std::function`. A function is called under
`netChangeMutex_` and leaves the map alone; what is handed to `onNetChangeQueue_` runs later.
-/

namespace UpdateService

inductive NetChangeCallbackType
  | hotaBiReport | hotaDownload | paramAutoUpgrade | commonDownload
deriving DecidableEq, Repr

def NetChangeCallbackType.toNat : NetChangeCallbackType → Nat
  | hotaBiReport => 0
  | hotaDownload => 1
  | paramAutoUpgrade => 2
  | commonDownload => 3

/-- `netTypes` are the elements of a `std::set` in its order. -/
structure NetChangeCallback (F : Type) where
  netTypes : List NetType
  function : Option F
deriving DecidableEq, Repr

/-- `std::map`, in the order of its keys. -/
abbrev NetChangeCallbackMap (F : Type) :=
  KeyedList fun entry : NetChangeCallbackType × NetChangeCallback F => entry.1.toNat

structure NetManager (F : Type) where
  netType : NetType := .noNet
  netChangeCallbackMap : NetChangeCallbackMap F := ∅
  onNetChangeQueue : List (Option F × NetType) := []

namespace NetManager
variable {F : Type}

def isBaseNetType (netType : NetType) : Bool :=
  netType = .noNet || netType = .cellular || netType = .meteredWifi || netType = .notMeteredWifi

def registerCallback (callbackType : NetChangeCallbackType) (netTypes : List NetType) (cb : Option F)
    (m : NetManager F) : Bool × NetManager F :=
  if netTypes = [] then (false, m)
  else if !netTypes.all isBaseNetType then (false, m)
  else
    let m := { m with netChangeCallbackMap := m.netChangeCallbackMap.insert (callbackType, ⟨netTypes, cb⟩) }
    match netTypes.find? m.netType.isNetAvailable with
    | some netType => (true, { m with onNetChangeQueue := m.onNetChangeQueue ++ [(cb, netType)] })
    | none => (true, m)

def unregisterCallback (callbackType : NetChangeCallbackType) (m : NetManager F) : NetManager F :=
  { m with netChangeCallbackMap := m.netChangeCallbackMap.erase callbackType.toNat }

/-- One turn of the loop of `OnNetChange` over the entries from the iterator on and the calls so far. -/
def notify (netType : NetType) :
    List (NetChangeCallbackType × NetChangeCallback F) × List (F × NetType) →
      (List (NetChangeCallbackType × NetChangeCallback F) × List (F × NetType)) ⊕ List (F × NetType)
  | ([], calls) => .inr calls
  | (entry :: iter, calls) =>
    if netType ∈ entry.2.netTypes then
      match entry.2.function with
      -- `continue` without the iterator being advanced
      | none => .inl (entry :: iter, calls)
      | some function => .inl (iter, calls ++ [(function, netType)])
    else .inl (iter, calls)

/-- The result with the calls, where `fuel` turns of the loop are enough. -/
def onNetChange (fuel : Nat) (netType : NetType) (m : NetManager F) :
    Option (Bool × NetManager F × List (F × NetType)) :=
  if !isBaseNetType netType then some (false, m, [])
  else if netType = m.netType then some (true, m, [])
  else (Loop.run (notify netType) fuel (m.netChangeCallbackMap.entries, [])).map fun calls =>
    (true, { m with netType }, calls)

inductive Op (F : Type)
  | registerCallback (callbackType : NetChangeCallbackType) (netTypes : List NetType) (cb : Option F)
  | unregisterCallback (callbackType : NetChangeCallbackType)
  | onNetChange (netType : NetType)

/-- A change of the network is a step if it ends. -/
inductive Step : NetManager F → Op F → NetManager F → Prop
  | registerCallback (m : NetManager F) (callbackType : NetChangeCallbackType) (netTypes : List NetType)
      (cb : Option F) : Step m (.registerCallback callbackType netTypes cb) (m.registerCallback callbackType netTypes cb).2
  | unregisterCallback (m : NetManager F) (callbackType : NetChangeCallbackType) :
      Step m (.unregisterCallback callbackType) (m.unregisterCallback callbackType)
  | onNetChange {m : NetManager F} {netType : NetType} {fuel : Nat} {ret : Bool} {m' : NetManager F}
      {calls : List (F × NetType)} : m.onNetChange fuel netType = some (ret, m', calls) →
      Step m (.onNetChange netType) m'

def lts : Lts (NetManager F) (Op F) := ⟨Step⟩

end NetManager

end UpdateService
