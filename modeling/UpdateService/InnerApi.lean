import Mathlib.Data.UInt
import UpdateService.Lib.Codec
import Mathlib.Logic.Equiv.Defs

/-!
# The objects that cross the IPC (`inner_api/feature/update/model`)

A parcel is the queue of the values written to it, so that a write succeeds and `Marshalling` returns true. A
`size_t` has 64 bits; a field of an enumeration type is the number it holds, since a received one is cast from
any number.
-/

namespace UpdateService

open Codec

/-- A value in a parcel; `S` is `std::u16string`. -/
inductive ParcelValue (S : Type)
  | bool (value : Bool)
  | int32 (value : Int32)
  | uint32 (value : UInt32)
  | uint64 (value : UInt64)
  | string16 (value : S)

namespace Parcel
variable {S α : Type}

def maxVectorSize : Int32 := 128

def minVectorSize : Int32 := 0

def readBool : Reader (ParcelValue S) Bool
  | .bool value :: parcel => some (value, parcel)
  | parcel => some (false, parcel)

def readInt32 : Reader (ParcelValue S) Int32
  | .int32 value :: parcel => some (value, parcel)
  | parcel => some (0, parcel)

def readUint32 : Reader (ParcelValue S) UInt32
  | .uint32 value :: parcel => some (value, parcel)
  | parcel => some (0, parcel)

def readUint64 : Reader (ParcelValue S) UInt64
  | .uint64 value :: parcel => some (value, parcel)
  | parcel => some (0, parcel)

/-- `Str16ToStr8(parcel.ReadString16())`. -/
def readString (str8ToStr16 : String ≃ S) : Reader (ParcelValue S) String
  | .string16 value :: parcel => some (str8ToStr16.symm value, parcel)
  | parcel => some ("", parcel)

/-- The size of a `std::vector` and its elements. -/
def writeVector (marshalling : α → List (ParcelValue S)) (l : List α) : List (ParcelValue S) :=
  .int32 (Int32.ofNat l.length) :: l.flatMap marshalling

def readVector (unmarshalling : Reader (ParcelValue S) α) : Reader (ParcelValue S) (List α) := do
  let size ← readInt32
  if size < minVectorSize ∨ maxVectorSize < size then failure
  readMany unmarshalling size.toNatClampNeg

end Parcel

namespace InnerApi
open Parcel
variable {S : Type} (str8ToStr16 : String ≃ S)

structure ErrorMessage where
  errorCode : Int32 := 0
  errorMessage : String := ""
deriving DecidableEq

def ErrorMessage.marshalling (e : ErrorMessage) : List (ParcelValue S) :=
  [.int32 e.errorCode, .string16 (str8ToStr16 e.errorMessage)]

def ErrorMessage.unmarshalling : Reader (ParcelValue S) ErrorMessage := do
  let errorCode ← readInt32
  let errorMessage ← readString str8ToStr16
  return { errorCode, errorMessage }

structure BusinessError where
  message : String := ""
  errorNum : Int32 := 0
  data : List ErrorMessage := []
deriving DecidableEq

def BusinessError.marshalling (b : BusinessError) : List (ParcelValue S) :=
  [.string16 (str8ToStr16 b.message), .int32 b.errorNum] ++ writeVector (ErrorMessage.marshalling str8ToStr16) b.data

def BusinessError.unmarshalling : Reader (ParcelValue S) BusinessError := do
  let message ← readString str8ToStr16
  let errorNum ← readInt32
  let errorMessageSize ← readInt32
  if errorMessageSize = 0 then return { message, errorNum }
  if errorMessageSize < minVectorSize ∨ maxVectorSize < errorMessageSize then failure
  let data ← readMany (ErrorMessage.unmarshalling str8ToStr16) errorMessageSize.toNatClampNeg
  return { message, errorNum, data }

structure DescriptionInfo where
  descriptionType : Int32 := 0
  content : String := ""
deriving DecidableEq

structure VersionComponent where
  componentId : String := ""
  componentType : Int32 := 0
  upgradeAction : String := ""
  displayVersion : String := ""
  innerVersion : String := ""
  size : UInt64 := 0
  effectiveMode : UInt64 := 1
  otaMode : UInt64 := 0
  descriptionInfo : DescriptionInfo := {}
  componentExtra : String := ""
deriving DecidableEq

def VersionComponent.marshalling (c : VersionComponent) : List (ParcelValue S) :=
  [.string16 (str8ToStr16 c.componentId), .int32 c.componentType, .string16 (str8ToStr16 c.upgradeAction),
    .string16 (str8ToStr16 c.displayVersion), .string16 (str8ToStr16 c.innerVersion), .uint64 c.size,
    .uint32 c.effectiveMode.toUInt32, .uint32 c.otaMode.toUInt32, .uint32 c.descriptionInfo.descriptionType.toUInt32,
    .string16 (str8ToStr16 c.descriptionInfo.content), .string16 (str8ToStr16 c.componentExtra)]

def VersionComponent.unmarshalling : Reader (ParcelValue S) VersionComponent := do
  let componentId ← readString str8ToStr16
  let componentType ← readInt32
  let upgradeAction ← readString str8ToStr16
  let displayVersion ← readString str8ToStr16
  let innerVersion ← readString str8ToStr16
  let size ← readUint64
  let effectiveMode ← readUint32
  let otaMode ← readUint32
  let descriptionType ← readUint32
  let content ← readString str8ToStr16
  let componentExtra ← readString str8ToStr16
  return {
    componentId, componentType, upgradeAction, displayVersion, innerVersion, size
    effectiveMode := effectiveMode.toUInt64
    otaMode := otaMode.toUInt64
    descriptionInfo := { descriptionType := descriptionType.toInt32, content }
    componentExtra }

structure VersionDigestInfo where
  versionDigest : String := ""
deriving DecidableEq

structure NewVersionInfo where
  versionDigestInfo : VersionDigestInfo := {}
  versionComponents : List VersionComponent := []
deriving DecidableEq

structure CheckResult where
  isExistNewVersion : Bool := false
  newVersionInfo : NewVersionInfo := {}
deriving DecidableEq

def CheckResult.marshalling (r : CheckResult) : List (ParcelValue S) :=
  [.bool r.isExistNewVersion, .string16 (str8ToStr16 r.newVersionInfo.versionDigestInfo.versionDigest)] ++
    writeVector (VersionComponent.marshalling str8ToStr16) r.newVersionInfo.versionComponents

def CheckResult.unmarshalling : Reader (ParcelValue S) CheckResult := do
  let isExistNewVersion ← readBool
  let versionDigest ← readString str8ToStr16
  let versionComponents ← readVector (VersionComponent.unmarshalling str8ToStr16)
  return { isExistNewVersion, newVersionInfo := { versionDigestInfo := { versionDigest }, versionComponents } }

structure TaskBody where
  versionDigestInfo : VersionDigestInfo := {}
  status : Int32 := 0
  subStatus : Int32 := 0
  progress : Int32 := 0
  installMode : Int32 := 0
  errorMessages : List ErrorMessage := []
  versionComponents : List VersionComponent := []
deriving DecidableEq

def TaskBody.marshalling (t : TaskBody) : List (ParcelValue S) :=
  [.string16 (str8ToStr16 t.versionDigestInfo.versionDigest), .int32 t.status, .int32 t.subStatus, .int32 t.progress,
    .int32 t.installMode] ++
    (writeVector (ErrorMessage.marshalling str8ToStr16) t.errorMessages ++
      writeVector (VersionComponent.marshalling str8ToStr16) t.versionComponents)

def TaskBody.unmarshalling : Reader (ParcelValue S) TaskBody := do
  let versionDigest ← readString str8ToStr16
  let status ← readInt32
  let subStatus ← readInt32
  let progress ← readInt32
  let installMode ← readInt32
  let errorMessages ← readVector (ErrorMessage.unmarshalling str8ToStr16)
  let versionComponents ← readVector (VersionComponent.unmarshalling str8ToStr16)
  return { versionDigestInfo := { versionDigest }, status, subStatus, progress, installMode, errorMessages, versionComponents }

/-- The default event id is the enumerator `EVENT_TASK_BASE`. -/
structure EventInfo where
  eventId : Int32 := 0x01000000
  taskBody : TaskBody := {}
deriving DecidableEq

def EventInfo.marshalling (e : EventInfo) : List (ParcelValue S) :=
  [.uint32 e.eventId.toUInt32] ++ TaskBody.marshalling str8ToStr16 e.taskBody

def EventInfo.unmarshalling : Reader (ParcelValue S) EventInfo := do
  let eventId ← readUint32
  let taskBody ← TaskBody.unmarshalling str8ToStr16
  return { eventId := eventId.toInt32, taskBody }

end InnerApi

end UpdateService
