import UpdateService.FirmwareRun

/-!
# The two tables agree

A task is there only as the whole of its table, and what it keeps of its version is what the component table says.
This holds in every state of every run, whichever write a process was killed after. Components without a task are
left by a kill alone, and from then on the reports on the version disagree.
-/

namespace UpdateService
open Program

/-- What the task of a version is computed from. -/
def FirmwareComponent.kind (c : FirmwareComponent) : String × Int × Int := (c.versionId, c.otaType, c.blVersionType)

/-- What is computed for a task once and for all. -/
def FirmwareTaskRow.identity (task : FirmwareTaskRow) : String × Bool × Nat :=
  (task.taskId, task.isStreamUpgrade, task.combinationType)

def identityOf (calculateHashCode : String → String) (components : List FirmwareComponent) : String × Bool × Nat :=
  (FirmwareUpdateHelper.buildTaskId calculateHashCode components, FirmwareUpdateHelper.isStreamUpgrade components,
    FirmwareCheckDataProcessor.getCombinationType components)

def FirmwareDevice.Agree (calculateHashCode : String → String) (d : FirmwareDevice) : Prop :=
  d.taskTable = [] ∨ d.componentTable ≠ [] ∧
    d.taskTable.map (·.identity) = [identityOf calculateHashCode d.componentTable]

theorem identityOf_congr {calculateHashCode : String → String} {components components' : List FirmwareComponent}
    (h : components'.map (·.kind) = components.map (·.kind)) :
    identityOf calculateHashCode components' = identityOf calculateHashCode components := by
  have hid : ∀ l : List FirmwareComponent, FirmwareUpdateHelper.buildTaskId calculateHashCode l =
      if l.map (·.kind) = [] then "" else calculateHashCode ((l.map (·.kind)).foldl
        (fun taskId k => (if taskId ≠ "" then taskId ++ "_" else taskId) ++ k.1) "") := by
    intro l
    rw [List.foldl_map]
    simp only [FirmwareUpdateHelper.buildTaskId, List.map_eq_nil_iff]
    rfl
  have htype : ∀ l : List FirmwareComponent, FirmwareCheckDataProcessor.getCombinationType l =
      (l.map (·.kind)).foldl (fun type k => if k.2.2 = hotaType then type ||| combinationHota else type) 0 := by
    intro l
    rw [List.foldl_map]
    rfl
  have hstream : ∀ l : List FirmwareComponent, FirmwareUpdateHelper.isStreamUpgrade l =
      ((l.map (·.kind)).head?.any fun k => k.2.1 = abStreamOta) := by
    intro l
    cases l <;> rfl
  unfold identityOf
  rw [hid, hid, htype, htype, hstream, hstream, h]

namespace FirmwareDevice
variable {calculateHashCode : String → String} {d d' : FirmwareDevice}

theorem Agree.congr (h : d.Agree calculateHashCode) (ht : d'.taskTable.map (·.identity) = d.taskTable.map (·.identity))
    (hc : d'.componentTable.map (·.kind) = d.componentTable.map (·.kind)) : d'.Agree calculateHashCode := by
  rcases h with h | ⟨hne, h⟩
  · rw [h] at ht
    exact .inl (List.map_eq_nil_iff.1 ht)
  · refine .inr ⟨fun he => hne ?_, ?_⟩
    · rw [he] at hc
      exact List.map_eq_nil_iff.1 hc.symm
    · rw [ht, h, identityOf_congr hc]

/-- An elementary write leaves the number of rows and what the tables agree on. -/
theorem identity_elementary {w : DeviceWrite} (hw : w.IsElementary fun _ => True) (d : FirmwareDevice) :
    (d.apply w).taskTable.map (·.identity) = d.taskTable.map (·.identity) ∧
      (d.apply w).componentTable.map (·.kind) = d.componentTable.map (·.kind) := by
  have ht : ∀ (q : FirmwareTaskRow → Bool) (f : FirmwareTaskRow → FirmwareTaskRow),
      (∀ task, (f task).identity = task.identity) →
      (d.taskTable.updateWhere q f).map (·.identity) = d.taskTable.map (·.identity) := fun _ _ hf =>
    List.map_updateWhere hf
  have hc : ∀ (q : FirmwareComponent → Bool) (f : FirmwareComponent → FirmwareComponent),
      (∀ c, (f c).kind = c.kind) →
      (d.componentTable.updateWhere q f).map (·.kind) = d.componentTable.map (·.kind) := fun _ _ hf =>
    List.map_updateWhere hf
  cases w with
  | insertTask | deleteAllTasks | insertComponents | deleteAllComponents | deleteDbStore => exact hw.elim
  | updateProgressByTaskId | updateStatusByTaskId | updateDownloadTaskIdByTaskId | updateDownloadOptionByTaskId
  | updateUpgradeModeByTaskId => exact ⟨ht _ _ fun _ => rfl, rfl⟩
  | updateProgressByVersionId | updateProgressByUrl | updateStatusByUrl | updateUrlByVersionId
  | updateRecordPointByUrl => exact ⟨rfl, hc _ _ fun _ => rfl⟩
  | _ => exact ⟨rfl, rfl⟩

theorem Agree.elementary {w : DeviceWrite} (hw : w.IsElementary fun _ => True) (h : d.Agree calculateHashCode) :
    (d.apply w).Agree calculateHashCode :=
  h.congr (identity_elementary hw d).1 (identity_elementary hw d).2

theorem clear_agree :
    Triple (Agree calculateHashCode) FirmwareProgram.FirmwareUpdateHelper.clearFirmwareInfo (fun _ => Cleared)
      (Agree calculateHashCode) :=
  clear_cleared (fun _ h => h) (fun _ _ h => h) (fun _ _ => .inl rfl) fun _ h => .inl h.1

theorem agree_rules : TableRules (fun _ => True) (Agree calculateHashCode) (Agree calculateHashCode) where
  le _ h := h
  rest _ _ _ _ := trivial
  elementary _ hw _ h := h.elementary hw
  preferences _ _ h := h
  bell _ _ h := h
  notice _ _ h := h
  night _ _ h := h.congr (List.map_updateWhere fun _ => rfl) rfl
  deleteDbStore _ _ := .inl rfl
  clear := clear_agree.conseq (fun _ h => h) (fun _ _ h => .inl h.1) fun _ h => h

/-- The components are there before their task, and both are the ones of the answer. -/
theorem handleNewVersion_agree (q : FirmwareCheckDataProcessor) (hne : q.componentList ≠ []) :
    Keeps (Agree calculateHashCode) (Agree calculateHashCode)
      (FirmwareProgram.FirmwareCheckDataProcessor.handleNewVersion calculateHashCode q) := by
  refine agree_rules.firmwareRules.handleNewVersion rfl clear_agree (fun _ h => .inl h.1) (fun _ h _ => .inl h)
    fun d ht hc => .inr ⟨?_, ?_⟩
  · rw [hc]
    exact fun he => hne (List.map_eq_nil_iff.1 he)
  · rw [ht, hc]
    rfl

end FirmwareDevice

/-! ### Both tables or none -/

namespace FirmwareDevice
variable {calculateHashCode : String → String}

def Whole (d : FirmwareDevice) : Prop := d.taskTable = [] → d.componentTable = []

theorem clear_whole :
    Triple Whole FirmwareProgram.FirmwareUpdateHelper.clearFirmwareInfo (fun _ => Cleared) fun _ => True :=
  clear_cleared (fun _ _ => trivial) (fun _ _ h => h) (fun _ _ => trivial) fun _ _ => trivial

theorem Whole.elementary {w : DeviceWrite} (hw : w.IsElementary fun _ => True) {d : FirmwareDevice} (h : d.Whole) :
    (d.apply w).Whole := by
  obtain ⟨ht, hc⟩ := identity_elementary hw d
  intro he
  rw [he] at ht
  rw [h (List.map_eq_nil_iff.1 ht.symm)] at hc
  exact List.map_eq_nil_iff.1 hc

theorem whole_rules : TableRules (fun _ => True) Whole fun _ => True where
  le _ _ := trivial
  rest _ _ _ _ := trivial
  elementary _ hw _ h := h.elementary hw
  preferences _ _ h := h
  bell _ _ h := h
  notice _ _ h := h
  night _ _ h he := h (List.map_eq_nil_iff.1 he)
  deleteDbStore _ _ _ := rfl
  clear := clear_whole.conseq (fun _ h => h) (fun _ _ h _ => h.2) fun _ _ => trivial

theorem handleNewVersion_whole (q : FirmwareCheckDataProcessor) :
    Keeps Whole (fun _ => True)
      (FirmwareProgram.FirmwareCheckDataProcessor.handleNewVersion calculateHashCode q) := by
  refine whole_rules.firmwareRules.handleNewVersion rfl clear_whole (fun _ _ => trivial) (fun _ _ _ => trivial)
    fun d ht _ he => ?_
  rw [ht] at he
  cases he

end FirmwareDevice

namespace FirmwareService
variable {p : JsonPlatform} {calculateHashCode : String → String}

theorem agree_preserved :
    (lts p calculateHashCode).Preserved fun s => s.WellFormed ∧ s.device.Agree calculateHashCode := by
  intro s action s' hs h
  refine ⟨wellFormed_preserved s action s' hs h.1,
    device_step hs (fun call m hm _ => ?_) (fun _ h => h) (fun _ h => h) h.2⟩
  exact FirmwareDevice.agree_rules.keeps_call h.1 hm (fun q _ _ => FirmwareDevice.handleNewVersion_agree q)
    (fun _ => trivial)
    fun _ => ⟨trivial, trivial⟩

/-- A server that has one package, whatever is asked. -/
def onePackage : JsonPlatform where
  parse _ := some (.object [
    ("searchStatus", .number (.finite 0)),
    ("checkResults", .array [.object [("descriptPackageId", .string "pkg"), ("url", .string "http://h/a.zip"),
      ("size", .number (.finite 10)), ("verifyInfo", .string "v"), ("versionCode", .string "c"),
      ("versionName", .string "n"), ("packageType", .number (.finite 1)), ("otaType", .number (.finite 0))]]),
    ("descriptInfo", .array [])])
  convert _ _ := 0
  indeterminate := 0

/-- The first start of a device, and a check. -/
def firstCheck : List FirmwareCall :=
  [.init .unknown, .restoreUpdate {}, .handleEvent {}, .checkNewVersion {}, .doCheck 1 {} (some "x")]

theorem whole_preserved :
    ((lts p calculateHashCode).guard fun _ action => action.IsWhole).Preserved fun s =>
      s.WellFormed ∧ s.device.Whole := by
  intro s action s' hs h
  refine ⟨wellFormed_preserved s action s' hs.2 h.1, device_step_whole (C := fun _ => True) hs.2 hs.1
    (fun call m hm _ => ?_) (fun _ h => h) (fun _ h => h) h.2⟩
  exact FirmwareDevice.whole_rules.keeps_call h.1 hm (fun q _ _ _ => FirmwareDevice.handleNewVersion_whole q)
    (fun _ => trivial) fun _ => ⟨trivial, trivial⟩

end FirmwareService

end UpdateService
