import UpdateService.Lib.Lts

/-!
# The callbacks of the clients (`UpdateService::clientProxyMap_`)

A section under `clientProxyMapLock_` is one step. `RegisterUpdateCallback` has two of them, and `calls` are the
calls between the two. `C` are the remote objects of the callbacks. When one dies, each recipient added to it gets a
notice, and the notices arrive in any order.
-/

namespace UpdateService

structure BusinessType where
  vendor : String := ""
  subType : Int32 := 1
deriving DecidableEq

/-- `operator<` compares all the fields, so that a key of the map is the whole record. -/
structure UpgradeInfo where
  upgradeApp : String := ""
  businessType : BusinessType := {}
  upgradeDevId : String := ""
  controlDevId : String := ""
  processId : Int32 := 0
  deviceType : Int32 := 0
deriving DecidableEq

/-- `id` tells the recipients apart, which are objects in the source. -/
structure ClientDeathRecipient where
  id : Nat
  upgradeInfo : UpgradeInfo
deriving DecidableEq

structure ClientProxy (C : Type) where
  proxy : C
  deathRecipient : ClientDeathRecipient
deriving DecidableEq

structure ClientRegistry (C : Type) where
  clientProxyMap : List (UpgradeInfo × ClientProxy C) := []
  isRemoteIdle : Bool := true
  calls : List (UpgradeInfo × C) := []
  recipients : List (C × ClientDeathRecipient) := []
  notices : List (C × ClientDeathRecipient) := []
  dead : List C := []
  created : Nat := 0

namespace ClientRegistry
variable {C : Type} [DecidableEq C]

def find (s : ClientRegistry C) (info : UpgradeInfo) : Option (ClientProxy C) :=
  (s.clientProxyMap.find? fun e => e.1 = info).map Prod.snd

/-- An object that is dead takes no recipient. -/
def addDeathRecipient (clientProxy : ClientProxy C) (s : ClientRegistry C) : ClientRegistry C :=
  if clientProxy.proxy ∈ s.dead then s
  else { s with recipients := s.recipients ++ [(clientProxy.proxy, clientProxy.deathRecipient)] }

def removeDeathRecipient (clientProxy : ClientProxy C) (s : ClientRegistry C) : ClientRegistry C :=
  { s with recipients := s.recipients.filter fun r => r ≠ (clientProxy.proxy, clientProxy.deathRecipient) }

/-- `std::map::insert`, which leaves an entry that is there. -/
def insert (info : UpgradeInfo) (clientProxy : ClientProxy C) (s : ClientRegistry C) : ClientRegistry C :=
  if s.find info = none then { s with clientProxyMap := s.clientProxyMap ++ [(info, clientProxy)] } else s

def erase (info : UpgradeInfo) (s : ClientRegistry C) : ClientRegistry C :=
  { s with clientProxyMap := s.clientProxyMap.filter fun e => e.1 ≠ info }

def setRemoteIdle (s : ClientRegistry C) : ClientRegistry C := { s with isRemoteIdle := s.clientProxyMap.isEmpty }

def unregisterUpdateCallback (info : UpgradeInfo) (s : ClientRegistry C) : ClientRegistry C :=
  match s.find info with
  | none => s
  | some clientProxy => ((s.removeDeathRecipient clientProxy).erase info).setRemoteIdle

def getUpgradeCallback (info : UpgradeInfo) (s : ClientRegistry C) : Option C := (s.find info).map (·.proxy)

/-- `RegisterUpdateCallback` up to the end of the call of `UnregisterUpdateCallback`. -/
def registerBegin (info : UpgradeInfo) (updateCallback : C) (s : ClientRegistry C) : ClientRegistry C :=
  let s := s.unregisterUpdateCallback info
  { s with calls := s.calls ++ [(info, updateCallback)] }

/-- The section of `RegisterUpdateCallback` itself. -/
def registerInsert (info : UpgradeInfo) (updateCallback : C) (s : ClientRegistry C) : ClientRegistry C :=
  let clientProxy : ClientProxy C := { proxy := updateCallback, deathRecipient := { id := s.created, upgradeInfo := info } }
  ((({ s with created := s.created + 1 }).addDeathRecipient clientProxy).insert info clientProxy).setRemoteIdle

def onRemoteDied (deathRecipient : ClientDeathRecipient) (s : ClientRegistry C) : ClientRegistry C :=
  s.unregisterUpdateCallback deathRecipient.upgradeInfo

/-- The object dies, and its recipients are told. -/
def die (client : C) (s : ClientRegistry C) : ClientRegistry C :=
  { s with
    dead := client :: s.dead
    recipients := s.recipients.filter fun r => r.1 ≠ client
    notices := s.notices ++ s.recipients.filter fun r => r.1 = client }

/-- `endRegister` and `notice` are about the call and the notice at a place of the lists. -/
inductive Step (C : Type)
  | beginRegister (info : UpgradeInfo) (updateCallback : C)
  | endRegister (i : Nat)
  | unregister (info : UpgradeInfo)
  | death (client : C)
  | notice (i : Nat)

def step (s : ClientRegistry C) : Step C → Option (ClientRegistry C)
  | .beginRegister info updateCallback => some (s.registerBegin info updateCallback)
  | .endRegister i => s.calls[i]?.map fun call =>
      ({ s with calls := s.calls.eraseIdx i }).registerInsert call.1 call.2
  | .unregister info => some (s.unregisterUpdateCallback info)
  | .death client => if client ∈ s.dead then none else some (s.die client)
  | .notice i => s.notices[i]?.map fun n => ({ s with notices := s.notices.eraseIdx i }).onRemoteDied n.2

def lts (C : Type) [DecidableEq C] : Lts (ClientRegistry C) (Step C) := .ofPartial step

end ClientRegistry

end UpdateService
