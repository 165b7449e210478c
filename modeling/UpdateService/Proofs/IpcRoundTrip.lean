import UpdateService.InnerApi

/-!
# Round trips through a parcel

What the reader takes is what the writer has written, except that a mode loses its upper half and that a list of
more than 128 elements is refused or, beyond 32 bits of length, cut.
-/

namespace UpdateService

open Codec Parcel

namespace Parcel
variable {S α : Type} {str8ToStr16 : String ≃ S} {parcel rest : List (ParcelValue S)}

@[simp] theorem run_readBool (value : Bool) : readBool.run (.bool value :: parcel : List (ParcelValue S)) = some (value, parcel) := rfl

@[simp] theorem run_readInt32 (value : Int32) : readInt32.run (.int32 value :: parcel : List (ParcelValue S)) = some (value, parcel) := rfl

@[simp] theorem run_readUint32 (value : UInt32) :
    readUint32.run (.uint32 value :: parcel : List (ParcelValue S)) = some (value, parcel) := rfl

@[simp] theorem run_readUint64 (value : UInt64) :
    readUint64.run (.uint64 value :: parcel : List (ParcelValue S)) = some (value, parcel) := rfl

@[simp] theorem run_readString (value : String) :
    (readString str8ToStr16).run (.string16 (str8ToStr16 value) :: parcel) = some (value, parcel) := by
  show some (str8ToStr16.symm (str8ToStr16 value), parcel) = _
  rw [Equiv.symm_apply_apply]

variable {write : α → List (ParcelValue S)} {read : Reader (ParcelValue S) α} {norm : α → α} {l : List α}

theorem toNatClampNeg_ofNat {n : Nat} (h : n ≤ 128) : (Int32.ofNat n).toNatClampNeg = n :=
  Int32.toNatClampNeg_ofNat_of_lt (by omega)

theorem size_allowed {n : Nat} (h : n ≤ 128) : ¬ (Int32.ofNat n < minVectorSize ∨ maxVectorSize < Int32.ofNat n) := by
  have hn : (Int32.ofNat n).toInt = n := Int32.toInt_ofNat_of_lt (by omega)
  have hmin : minVectorSize.toInt = 0 := rfl
  have hmax : maxVectorSize.toInt = 128 := rfl
  rw [Int32.lt_iff_toInt_lt, Int32.lt_iff_toInt_lt, hn, hmin, hmax]
  omega

theorem toNatClampNeg_le {size : Int32} (h : ¬ (size < minVectorSize ∨ maxVectorSize < size)) :
    size.toNatClampNeg ≤ 128 := by
  have hle : size ≤ maxVectorSize := by
    rw [← Int32.not_lt]
    exact fun hlt => h (.inr hlt)
  exact Int32.toNatClampNeg_le hle

theorem run_readVector (h : Reads write read norm) (hl : l.length ≤ 128) (rest : List (ParcelValue S)) :
    (readVector read).run (writeVector write l ++ rest) = some (l.map norm, rest) := by
  simp [readVector, writeVector, size_allowed hl, toNatClampNeg_ofNat hl, h.readMany]

theorem length_of_readVector (h : (readVector read).run parcel = some (l, rest)) : l.length ≤ 128 := by
  rw [readVector, StateT.run_bind] at h
  obtain ⟨⟨size, parcel'⟩, -, h⟩ := Option.bind_eq_some_iff.1 h
  by_cases hsize : size < minVectorSize ∨ maxVectorSize < size
  · rw [if_pos hsize] at h
    cases h
  · rw [if_neg hsize] at h
    rw [length_of_readMany h]
    exact toNatClampNeg_le hsize

end Parcel

namespace InnerApi
variable {S : Type} (str8ToStr16 : String ≃ S)

theorem ErrorMessage.reads : Reads (marshalling str8ToStr16) (unmarshalling str8ToStr16) id := by
  intro e rest
  simp [marshalling, unmarshalling]

/-- What is left of a component: its modes are written as 32-bit numbers. -/
def VersionComponent.received (c : VersionComponent) : VersionComponent :=
  { c with effectiveMode := c.effectiveMode.toUInt32.toUInt64, otaMode := c.otaMode.toUInt32.toUInt64 }

theorem VersionComponent.reads : Reads (marshalling str8ToStr16) (unmarshalling str8ToStr16) received := by
  intro c rest
  simp [marshalling, unmarshalling, received]

def VersionComponent.Fits (c : VersionComponent) : Prop := c.effectiveMode.toNat < 2 ^ 32 ∧ c.otaMode.toNat < 2 ^ 32

theorem VersionComponent.received_eq_self_iff {c : VersionComponent} : c.received = c ↔ c.Fits := by
  have hmode : ∀ mode : UInt64, mode.toUInt32.toUInt64 = mode ↔ mode.toNat < 2 ^ 32 := by
    intro mode
    rw [← UInt64.toNat_inj, UInt32.toNat_toUInt64, UInt64.toNat_toUInt32]
    omega
  rw [Fits, ← hmode, ← hmode]
  constructor
  · intro h
    exact ⟨congrArg VersionComponent.effectiveMode h, congrArg VersionComponent.otaMode h⟩
  · rintro ⟨heffective, hota⟩
    rw [received, heffective, hota]

theorem map_received_eq_self_iff {l : List VersionComponent} :
    l.map VersionComponent.received = l ↔ ∀ c ∈ l, c.Fits := by
  rw [← List.map_id l, List.map_map, List.map_inj_left]
  simp [VersionComponent.received_eq_self_iff]

/-! ### The four objects -/

theorem BusinessError.run_unmarshalling {b : BusinessError} (hl : b.data.length ≤ 128) (rest : List (ParcelValue S)) :
    (unmarshalling str8ToStr16).run (marshalling str8ToStr16 b ++ rest) = some (b, rest) := by
  have hread := (ErrorMessage.reads str8ToStr16).readMany b.data rest
  by_cases hnil : b.data = []
  · obtain ⟨message, errorNum, data⟩ := b
    obtain rfl : data = [] := hnil
    simp [marshalling, unmarshalling, writeVector]
  · have hne : Int32.ofNat b.data.length ≠ 0 := by
      intro h
      have h0 := congrArg Int32.toNatClampNeg h
      rw [toNatClampNeg_ofNat hl] at h0
      exact hnil (List.length_eq_zero_iff.1 h0)
    simp [marshalling, unmarshalling, writeVector, hne, size_allowed hl, toNatClampNeg_ofNat hl, hread]

theorem BusinessError.length_of_unmarshalling {b : BusinessError} {parcel rest : List (ParcelValue S)}
    (h : (unmarshalling str8ToStr16).run parcel = some (b, rest)) : b.data.length ≤ 128 := by
  simp only [unmarshalling, StateT.run_bind, Option.bind_eq_bind, Option.bind_eq_some_iff] at h
  obtain ⟨_, -, _, -, ⟨size, _⟩, -, h⟩ := h
  by_cases hzero : size = 0
  · rw [if_pos hzero] at h
    obtain ⟨rfl, -⟩ := Prod.mk.inj (Option.some.inj h)
    exact Nat.zero_le 128
  rw [if_neg hzero] at h
  by_cases hsize : size < minVectorSize ∨ maxVectorSize < size
  · rw [if_pos hsize] at h
    cases h
  rw [if_neg hsize, StateT.run_bind] at h
  obtain ⟨⟨data, _⟩, hdata, h⟩ := Option.bind_eq_some_iff.1 h
  obtain ⟨rfl, -⟩ := Prod.mk.inj (Option.some.inj h)
  rw [length_of_readMany hdata]
  exact toNatClampNeg_le hsize

theorem TaskBody.run_unmarshalling {t : TaskBody} (he : t.errorMessages.length ≤ 128)
    (hc : t.versionComponents.length ≤ 128)
    (rest : List (ParcelValue S)) : (unmarshalling str8ToStr16).run (marshalling str8ToStr16 t ++ rest) =
      some ({ t with versionComponents := t.versionComponents.map VersionComponent.received }, rest) := by
  have hreade := run_readVector (ErrorMessage.reads str8ToStr16) he
  have hreadc := run_readVector (VersionComponent.reads str8ToStr16) hc
  simp [marshalling, unmarshalling, hreade, hreadc]

theorem TaskBody.length_of_unmarshalling {t : TaskBody} {parcel rest : List (ParcelValue S)}
    (h : (unmarshalling str8ToStr16).run parcel = some (t, rest)) :
    t.errorMessages.length ≤ 128 ∧ t.versionComponents.length ≤ 128 := by
  simp only [unmarshalling, StateT.run_bind, Option.bind_eq_bind, Option.bind_eq_some_iff] at h
  obtain ⟨_, -, _, -, _, -, _, -, _, -, ⟨errorMessages, _⟩, he, ⟨versionComponents, _⟩, hc, h⟩ := h
  obtain ⟨rfl, -⟩ := Prod.mk.inj (Option.some.inj h)
  exact ⟨length_of_readVector he, length_of_readVector hc⟩

def TaskBody.Fits (t : TaskBody) : Prop :=
  t.errorMessages.length ≤ 128 ∧ t.versionComponents.length ≤ 128 ∧ ∀ c ∈ t.versionComponents, c.Fits

theorem TaskBody.roundTrips_iff (t : TaskBody) :
    RoundTrips (marshalling str8ToStr16) (unmarshalling str8ToStr16) t ↔ t.Fits := by
  constructor
  · intro h
    obtain ⟨he, hc⟩ := length_of_unmarshalling str8ToStr16 (h [])
    have hrun := (run_unmarshalling str8ToStr16 he hc []).symm.trans (h [])
    have hsame := congrArg TaskBody.versionComponents (Prod.mk.inj (Option.some.inj hrun)).1
    exact ⟨he, hc, map_received_eq_self_iff.1 hsame⟩
  · rintro ⟨he, hc, hfits⟩ rest
    rw [run_unmarshalling str8ToStr16 he hc rest, map_received_eq_self_iff.2 hfits]

theorem EventInfo.roundTrips_iff (e : EventInfo) :
    RoundTrips (marshalling str8ToStr16) (unmarshalling str8ToStr16) e ↔ e.taskBody.Fits := by
  rw [← TaskBody.roundTrips_iff str8ToStr16]
  refine forall_congr' fun rest => ?_
  simp only [marshalling, unmarshalling, List.cons_append, List.nil_append, StateT.run_bind, run_readUint32,
    Option.bind_eq_bind, Option.bind_some]
  constructor
  · intro h
    obtain ⟨⟨taskBody, _⟩, ht, h⟩ := Option.bind_eq_some_iff.1 h
    obtain ⟨he, rfl⟩ := Prod.mk.inj (Option.some.inj h)
    rw [ht, ← congrArg EventInfo.taskBody he]
  · intro h
    rw [h]
    simp

theorem BusinessError.roundTrips_iff (b : BusinessError) :
    RoundTrips (marshalling str8ToStr16) (unmarshalling str8ToStr16) b ↔ b.data.length ≤ 128 :=
  ⟨fun h => length_of_unmarshalling str8ToStr16 (h []), fun hl => run_unmarshalling str8ToStr16 hl⟩

theorem CheckResult.run_unmarshalling {r : CheckResult} (hc : r.newVersionInfo.versionComponents.length ≤ 128)
    (rest : List (ParcelValue S)) : (unmarshalling str8ToStr16).run (marshalling str8ToStr16 r ++ rest) =
      some ({ r with newVersionInfo := { r.newVersionInfo with
        versionComponents := r.newVersionInfo.versionComponents.map VersionComponent.received } }, rest) := by
  have hread := run_readVector (VersionComponent.reads str8ToStr16) hc
  simp [marshalling, unmarshalling, hread]

theorem CheckResult.length_of_unmarshalling {r : CheckResult} {parcel rest : List (ParcelValue S)}
    (h : (unmarshalling str8ToStr16).run parcel = some (r, rest)) :
    r.newVersionInfo.versionComponents.length ≤ 128 := by
  simp only [unmarshalling, StateT.run_bind, Option.bind_eq_bind, Option.bind_eq_some_iff] at h
  obtain ⟨_, -, _, -, ⟨versionComponents, _⟩, hc, h⟩ := h
  obtain ⟨rfl, -⟩ := Prod.mk.inj (Option.some.inj h)
  exact length_of_readVector hc

def CheckResult.Fits (r : CheckResult) : Prop :=
  r.newVersionInfo.versionComponents.length ≤ 128 ∧ ∀ c ∈ r.newVersionInfo.versionComponents, c.Fits

theorem CheckResult.roundTrips_iff (r : CheckResult) :
    RoundTrips (marshalling str8ToStr16) (unmarshalling str8ToStr16) r ↔ r.Fits := by
  constructor
  · intro h
    have hc := length_of_unmarshalling str8ToStr16 (h [])
    have hrun := (run_unmarshalling str8ToStr16 hc []).symm.trans (h [])
    have hsame := congrArg (fun r => r.newVersionInfo.versionComponents) (Prod.mk.inj (Option.some.inj hrun)).1
    exact ⟨hc, map_received_eq_self_iff.1 hsame⟩
  · rintro ⟨hc, hfits⟩ rest
    rw [run_unmarshalling str8ToStr16 hc rest, map_received_eq_self_iff.2 hfits]

/-- An object makes the round trip if and only if its lists have at most 128 elements and its modes 32 bits. -/
theorem ipc_roundTrips_iff (str8ToStr16 : String ≃ S) :
    (∀ b, RoundTrips (BusinessError.marshalling str8ToStr16) (BusinessError.unmarshalling str8ToStr16) b ↔
    b.data.length ≤ 128) ∧
    (∀ t, RoundTrips (TaskBody.marshalling str8ToStr16) (TaskBody.unmarshalling str8ToStr16) t ↔ t.Fits) ∧
    (∀ e, RoundTrips (EventInfo.marshalling str8ToStr16) (EventInfo.unmarshalling str8ToStr16) e ↔ e.taskBody.Fits) ∧
    ∀ r, RoundTrips (CheckResult.marshalling str8ToStr16) (CheckResult.unmarshalling str8ToStr16) r ↔ r.Fits :=
  ⟨BusinessError.roundTrips_iff str8ToStr16, TaskBody.roundTrips_iff str8ToStr16, EventInfo.roundTrips_iff str8ToStr16,
    CheckResult.roundTrips_iff str8ToStr16⟩

/-- A message list of 129 elements is refused, and a mode beyond 32 bits comes back as another one. -/
theorem not_ipc_roundTrips :
    ¬ RoundTrips (BusinessError.marshalling (.refl String)) (BusinessError.unmarshalling (.refl String))
        { data := List.replicate 129 {} } ∧
      ¬ RoundTrips (CheckResult.marshalling (.refl String)) (CheckResult.unmarshalling (.refl String))
        { newVersionInfo := { versionComponents := [{ otaMode := 2 ^ 32 }] } } := by
  constructor
  · intro h
    exact absurd (congrArg Option.isSome (h [])) (by decide +kernel)
  · intro h
    exact absurd (congrArg (Option.map Prod.fst) (h [])) (by decide +kernel)

end InnerApi

end UpdateService
