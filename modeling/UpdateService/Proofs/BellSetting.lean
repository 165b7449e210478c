import UpdateService.Proofs.TablesAgree

/-!
# The sound setting over an upgrade at night

An upgrade at night switches the bell off and keeps in the preferences what it was. The setting is what one of the two
says. It survives every call and every kill, except that another install of the night is begun, or the preferences are
reset, while the bell is still silent: what is saved then is the silence, and after that the bell stays off.
-/

namespace UpdateService
open Program

namespace FirmwareDevice

/-- The sound setting: the bell is on, or has been on before the upgrade. -/
def bellSetting (d : FirmwareDevice) : Bool := d.isBellOn || d.preferences.getBellStatus

/-- The bell is off for the time of an upgrade. -/
def Silenced (d : FirmwareDevice) : Prop := d.isBellOn = false ∧ d.preferences.getBellStatus = true

/-- The task is one of the day. -/
def Manual (d : FirmwareDevice) : Prop := (FirmwareTaskRow.queryTask d.taskTable).upgradeMode = .manual

/-- A call that begins an install of the night, or resets the preferences. -/
def LosesBell (d : FirmwareDevice) : FirmwareCall → Prop
  | .init startupReason => startupReason = .processEnvReset
  | .restoreUpdate _ => (FirmwareTaskRow.queryTask d.taskTable).status = .installing ∧ ¬ d.Manual
  | .nightUpgrade _ => d.preferences.nightUpgradeSwitch = true ∧
    (FirmwareTaskRow.queryTask d.taskTable).status = .downloadSuccess
  | _ => False

instance (d : FirmwareDevice) : Decidable d.Silenced := inferInstanceAs (Decidable (_ ∧ _))

instance (d : FirmwareDevice) : Decidable d.Manual := inferInstanceAs (Decidable (_ = _))

instance (d : FirmwareDevice) (call : FirmwareCall) : Decidable (d.LosesBell call) := by
  cases call <;> unfold LosesBell <;> infer_instance

variable {d : FirmwareDevice} {b : Bool} {env : Surroundings} {task : FirmwareTaskRow}

theorem silenced_or (h : d.bellSetting = true) (hs : ¬ d.Silenced) : d.isBellOn = true := by
  unfold bellSetting at h
  unfold Silenced at hs
  cases hb : d.isBellOn with
  | true => rfl
  | false =>
    rw [hb, Bool.false_or] at h
    exact absurd ⟨hb, h⟩ hs

/-- An elementary write is not of the bell. -/
theorem bell_elementary {w : DeviceWrite} (hw : w.IsElementary fun _ => True) (d : FirmwareDevice) :
    (d.apply w).isBellOn = d.isBellOn ∧ (d.apply w).preferences = d.preferences := by
  cases w with
  | insertTask | deleteAllTasks | insertComponents | deleteAllComponents | deleteDbStore | preferences | bell =>
    exact hw.elim
  | _ => exact ⟨rfl, rfl⟩

/-- What depends on the bell and what is saved of it alone. -/
structure OfBell (I : FirmwareDevice → Prop) : Prop where
  congr : ∀ {d d' : FirmwareDevice}, d'.isBellOn = d.isBellOn → d'.preferences.bellStatus = d.preferences.bellStatus →
    I d → I d'

theorem OfBell.clear {I C : FirmwareDevice → Prop} (h : OfBell I) (hle : ∀ d, I d → C d) :
    Keeps I C FirmwareProgram.FirmwareUpdateHelper.clearFirmwareInfo := by
  refine .bind (.read hle) fun _ => .bind (.bind (.read hle) fun _ => .write hle fun _ => h.congr rfl rfl) fun _ => ?_
  refine .bind (.write hle fun _ => h.congr rfl rfl) fun _ => .bind (.write hle fun _ => h.congr rfl rfl) fun _ => ?_
  exact .write hle fun _ => h.congr rfl rfl

theorem OfBell.rules {I C : FirmwareDevice → Prop} (h : OfBell I) (hle : ∀ d, I d → C d)
    (hafter : ∀ env task, Keeps I C (FirmwareProgram.FirmwareUpgradeProcessor.processAfterUpgrade env task)) :
    FirmwareRules (fun _ => True) I C where
  le := hle
  rest _ _ _ _ := trivial
  elementary _ hw d := h.congr (bell_elementary hw d).1 (congrArg _ (bell_elementary hw d).2)
  preferences _ _ hp := h.congr rfl hp
  clear := h.clear hle
  after := hafter

theorem ofBell_bellSetting : OfBell fun d => d.bellSetting = b where
  congr h h' hd := by
    unfold bellSetting FirmwarePreferences.getBellStatus at hd ⊢
    rw [h, h']
    exact hd

theorem ofBell_isBellOn : OfBell fun d => d.isBellOn = true where
  congr h _ hd := h.trans hd

/-- The bell is switched on only if it has been on. -/
theorem after_bellSetting (b : Bool) (env : Surroundings) (task : FirmwareTaskRow) :
    Keeps (fun d => d.bellSetting = b) (fun d => d.bellSetting = b)
      (FirmwareProgram.FirmwareUpgradeProcessor.processAfterUpgrade env task) := by
  have hle : ∀ d : FirmwareDevice, d.bellSetting = b → d.bellSetting = b := fun _ h => h
  refine Triple.bind (Q := fun p d => d.bellSetting = b ∧ d.preferences = p)
    (.read fun d hd => ⟨⟨hd, rfl⟩, hd⟩) fun p => ?_
  refine .ite (fun hc => ?_) fun _ => .pure fun d hd => ⟨hd.1, hd.1⟩
  refine .bind (Q := fun _ d => d.isBellOn = true ∧ b = true) (.write (fun d hd => hd.1) fun d hd => ?_) fun _ => ?_
  · obtain ⟨hd, rfl⟩ := hd
    obtain rfl : b = true := by
      rw [← hd, bellSetting, hc.2.1, Bool.or_true]
    exact ⟨⟨rfl, rfl⟩, rfl⟩
  · refine (keeps_save (I := fun d => d.isBellOn = true ∧ b = true) (C := fun d => d.bellSetting = b) (fun d hd => ?_)
      (fun _ _ hd => hd) _).conseq (fun _ hd => hd) (fun _ d hd => ?_) fun _ hd => hd
    all_goals
      unfold bellSetting
      rw [hd.1, hd.2]
      rfl

theorem triple_save {P Q C : FirmwareDevice → Prop} {f : FirmwarePreferences → FirmwarePreferences}
    (hP : ∀ d, P d → C d) (h : ∀ d : FirmwareDevice, P d → Q (d.apply (.preferences (f d.preferences))))
    (hQ : ∀ d, Q d → C d) : Triple P (FirmwareProgram.FirmwarePreferencesUtil.save f) (fun _ => Q) C := by
  refine .bind (Q := fun p d => P d ∧ p = d.preferences) (.read fun d hd => ⟨⟨hd, rfl⟩, hP d hd⟩) fun p => ?_
  refine .write (fun d hd => hP d hd.1) fun d hd => ?_
  obtain ⟨hd, rfl⟩ := hd
  exact ⟨h d hd, hQ _ (h d hd)⟩

/-- An install of the night saves that the bell is off. -/
theorem before_off (env : Surroundings) (task : FirmwareTaskRow) :
    Keeps (fun d => d.bellSetting = false) (fun d => d.bellSetting = false)
      (FirmwareProgram.FirmwareUpgradeProcessor.processBeforeUpgrade env task) := by
  have hoff : ∀ {d : FirmwareDevice}, d.bellSetting = false → d.isBellOn = false := fun hd =>
    (Bool.or_eq_false_iff.1 hd).1
  refine Triple.bind (Q := fun isBellOn d => d.bellSetting = false ∧ isBellOn = false)
    (.read fun d hd => ⟨⟨hd, hoff hd⟩, hd⟩) fun isBellOn => .assume fun he => ?_
  subst he
  refine .ite (fun _ => .bind (triple_save (fun _ hd => hd) (fun d hd => ?_) fun _ hd => hd) fun _ => ?_)
    fun _ => .pure fun d hd => ⟨hd, hd⟩
  · change (d.isBellOn || false) = false
    rw [hoff hd]
    rfl
  · exact .ite (fun h => absurd h Bool.false_ne_true) fun _ => .pure fun d hd => ⟨hd, hd⟩

/-- An install of the night that finds the bell on saves it before it is switched off. -/
theorem before_on (env : Surroundings) (task : FirmwareTaskRow) :
    Triple (fun d => d.isBellOn = true) (FirmwareProgram.FirmwareUpgradeProcessor.processBeforeUpgrade env task)
      (fun _ d => d.bellSetting = true) fun d => d.bellSetting = true := by
  have hon : ∀ d : FirmwareDevice, d.isBellOn = true → d.bellSetting = true := fun d hd =>
    (congrArg (· || d.preferences.getBellStatus) hd).trans (Bool.true_or _)
  have hsaved : ∀ d : FirmwareDevice, d.preferences.bellStatus = some true → d.bellSetting = true := fun d hd => by
    unfold bellSetting FirmwarePreferences.getBellStatus
    rw [hd]
    exact Bool.or_true _
  refine Triple.bind (Q := fun isBellOn d => d.isBellOn = true ∧ isBellOn = true)
    (.read fun d hd => ⟨⟨hd, hd⟩, hon d hd⟩) fun isBellOn => .assume fun he => ?_
  subst he
  refine .ite (fun _ => .bind (Q := fun _ d => d.preferences.bellStatus = some true)
    (triple_save hon (fun _ _ => rfl) hsaved) fun _ => ?_) fun _ => .pure fun d hd => ⟨hon d hd, hon d hd⟩
  exact .ite (fun _ => .write hsaved fun d hd => ⟨hsaved _ hd, hsaved _ hd⟩) fun _ =>
    .pure fun d hd => ⟨hsaved d hd, hsaved d hd⟩

/-- An upgrade of the day leaves the bell alone. -/
theorem before_manual {I C : FirmwareDevice → Prop} (hle : ∀ d, I d → C d) (env : Surroundings)
    (ht : task.upgradeMode = .manual) :
    Keeps I C (FirmwareProgram.FirmwareUpgradeProcessor.processBeforeUpgrade env task) := by
  refine .bind (.read hle) fun _ => .when hle fun hc => ?_
  rw [ht] at hc
  cases hc.1

theorem setting_rules (b : Bool) :
    FirmwareRules (fun _ => True) (fun d => d.bellSetting = b) fun d => d.bellSetting = b :=
  ofBell_bellSetting.rules (fun _ h => h) (after_bellSetting b)

theorem on_rules : FirmwareRules (fun _ => True) (fun d => d.isBellOn = true) fun d => d.bellSetting = true := by
  have hle : ∀ d : FirmwareDevice, d.isBellOn = true → d.bellSetting = true := fun d hd =>
    (congrArg (· || d.preferences.getBellStatus) hd).trans (Bool.true_or _)
  exact ofBell_isBellOn.rules hle (keeps_processAfterUpgrade hle (fun _ _ h => h) fun _ _ => rfl)

theorem manual_elementary {w : DeviceWrite} (hw : w.IsElementary fun _ => True) (h : d.Manual) :
    (d.apply w).Manual := by
  have hup : ∀ (q : FirmwareTaskRow → Bool) (f : FirmwareTaskRow → FirmwareTaskRow),
      (∀ task, task.upgradeMode = .manual → (f task).upgradeMode = .manual) →
      (FirmwareTaskRow.queryTask (d.taskTable.updateWhere q f)).upgradeMode = .manual := by
    intro q f hf
    unfold Manual at h
    cases ht : d.taskTable with
    | nil => rfl
    | cons task table =>
      rw [ht] at h
      change (if q task then f task else task).upgradeMode = .manual
      split
      exacts [hf task h, h]
  cases w with
  | insertTask | deleteAllTasks | insertComponents | deleteAllComponents | deleteDbStore => exact hw.elim
  | updateProgressByTaskId | updateStatusByTaskId | updateDownloadTaskIdByTaskId | updateDownloadOptionByTaskId =>
    exact hup _ _ fun _ ht => ht
  | updateUpgradeModeByTaskId => exact hup _ _ fun _ _ => hw
  | _ => exact h

/-- After a request for an upgrade of the day. -/
theorem manual_update (d : FirmwareDevice) :
    (d.apply (.updateUpgradeModeByTaskId (FirmwareTaskRow.queryTask d.taskTable).taskId .manual)).Manual := by
  unfold Manual apply
  cases ht : d.taskTable with
  | nil => rfl
  | cons task table =>
    change (if decide (task.taskId = task.taskId) = true then _ else task).upgradeMode = .manual
    rw [if_pos (decide_eq_true rfl)]

theorem manual_rules :
    FirmwareRules (fun _ => True) (fun d => d.bellSetting = true ∧ d.Manual) fun d => d.bellSetting = true where
  le _ h := h.1
  rest _ _ _ _ := trivial
  elementary w hw d h := ⟨(setting_rules true).elementary w hw d h.1, manual_elementary hw h.2⟩
  preferences d p hp h := ⟨(setting_rules true).preferences d p hp h.1, h.2⟩
  clear := by
    have hm : Keeps Manual (fun _ => True) FirmwareProgram.FirmwareUpdateHelper.clearFirmwareInfo := by
      have hle : ∀ d : FirmwareDevice, d.Manual → True := fun _ _ => trivial
      refine .bind (.read hle) fun _ => .bind (.bind (.read hle) fun _ => .write hle fun _ h => h) fun _ => ?_
      exact .bind (.write hle fun _ _ => rfl) fun _ => .bind (.write hle fun _ h => h) fun _ => .write hle fun _ h => h
    exact (setting_rules true).clear.and hm
  after env task := (after_bellSetting true env task).and
    (keeps_processAfterUpgrade (C := fun _ => True) (fun _ _ => trivial) (fun _ _ h => h) (fun _ h => h) env task)

end FirmwareDevice

/-! ### The calls -/

namespace FirmwareDevice
variable {I J C : FirmwareDevice → Prop} {p : JsonPlatform} {calculateHashCode : String → String} {s : FirmwareService}
  {call : FirmwareCall} {m : FirmwareProgram (Option FirmwareProcess)}

/-- What a call does to the bell, it does when it begins an install or starts the process. -/
theorem OfBell.leads_call (h : OfBell I) (hr : FirmwareRules (fun _ => True) I C)
    (hr' : FirmwareRules (fun _ => True) J C) (hJ : ∀ d, I d → J d) (hs : s.WellFormed)
    (hm : s.call p calculateHashCode call = some m)
    (hreset : call = .init .processEnvReset → ∀ d, I d → I (d.apply (.preferences {})))
    (hbefore : ∀ env, call.BeginsInstall env → ∀ task,
      Triple I (FirmwareProgram.FirmwareUpgradeProcessor.processBeforeUpgrade env task) (fun _ => J) C) :
    Triple I m (fun _ => J) C := by
  have hwrite : ∀ {w : DeviceWrite}, (∀ d : FirmwareDevice, (d.apply w).isBellOn = d.isBellOn) →
      (∀ d : FirmwareDevice, (d.apply w).preferences = d.preferences) →
      Keeps I C (Program.write w : FirmwareProgram Unit) := fun hw hw' =>
    .write hr.le fun d => h.congr (hw d) (congrArg _ (hw' d))
  refine hr.leads_call hr' hJ hs hm ?_ ?_ hbefore (fun _ _ _ _ => h.congr rfl rfl) ?_ (fun _ => trivial)
    fun _ => ⟨trivial, trivial⟩
  · rintro startupReason rfl
    refine Keeps.weaken (hr.when fun he => ?_) hJ
    subst he
    refine .bind (hr.write trivial) fun _ => .bind (.write hr.le (hreset rfl)) fun _ => ?_
    exact hwrite (fun _ => rfl) fun _ => rfl
  · rintro i env content - flow hf
    refine (hr.doCheck hr (fun _ hd => hd) (fun _ hd => hd) hf fun q _ _ => ?_).conseq (fun _ hd => hd) (fun _ => hJ)
      fun _ hd => hd
    unfold FirmwareProgram.FirmwareCheckDataProcessor.handleNewVersion
    refine .bind hr.read fun isSame => .ite (fun _ => .bind hr.updateFirmwareComponent fun _ => hr.pure) fun _ => ?_
    refine .bind hr.clear fun _ => .bind (hwrite (fun _ => rfl) fun _ => rfl) fun _ => ?_
    exact .bind (hwrite (fun _ => rfl) fun _ => rfl) fun _ => hr.pure
  · intro env _
    refine (hr.handleBootComplete fun task => ?_).weaken hJ
    unfold FirmwareProgram.FirmwareEventManager.handleBootUpdateSuccess
      FirmwareProgram.FirmwareEventManager.saveHotaCurrentVersionComponentId
    refine .bind (hr.save fun _ => rfl) fun _ => .bind hr.read fun _ => .bind (.bind hr.read fun _ => ?_) fun _ => ?_
    · split
      exacts [hr.pure, hr.save fun _ => rfl]
    · exact hr.when fun _ => .bind (hwrite (fun _ => rfl) fun _ => rfl) fun _ => hr.clear

/-- A restart that does not find an install of the night. -/
theorem restoreUpdate_bell {d : FirmwareDevice} (env : Surroundings) (hd : d.bellSetting = true)
    (hl : ¬ d.LosesBell (.restoreUpdate env)) :
    Triple (fun s => s = d) (FirmwareProgram.FirmwareManager.restoreUpdate calculateHashCode env)
      (fun _ d => d.bellSetting = true) fun d => d.bellSetting = true := by
  by_cases hm : d.Manual
  · refine (manual_rules.restoreUpdate (T := fun task => task.upgradeMode = .manual) (setting_rules true)
      (fun _ hd => hd.1) (fun _ hd => hd.2) fun task ht => ?_).conseq (fun _ he => he ▸ ⟨hd, hm⟩)
        (fun _ _ h => h) fun _ h => h
    exact (before_manual (fun _ h => h) env ht).conseq (fun _ h => h.1) (fun _ _ h => h) fun _ h => h
  · have hne : (FirmwareTaskRow.queryTask d.taskTable).status ≠ .installing := fun he => hl ⟨he, hm⟩
    have h := setting_rules true
    unfold FirmwareProgram.FirmwareManager.restoreUpdate
    refine .bind (Q := fun task s => s.bellSetting = true ∧ task = FirmwareTaskRow.queryTask d.taskTable) (.read ?_)
      fun task => .assume fun ht => ?_
    · rintro _ rfl
      exact ⟨⟨hd, rfl⟩, hd⟩
    · subst ht
      split
      · exact .bind (h.write trivial) fun _ => h.pure
      · exact .bind h.read fun _ => .bind (h.when fun _ => h.write trivial) fun _ => h.pure
      · exact absurd ‹_› hne
      · exact h.pure

/-- A night alarm that finds nothing to install. -/
theorem handleNightUpgrade_bell {d : FirmwareDevice} (env : Surroundings) (hd : d.bellSetting = true)
    (hl : ¬ d.LosesBell (.nightUpgrade env)) :
    Triple (fun s => s = d) (FirmwareProgram.FirmwareEventManager.handleNightUpgrade calculateHashCode env)
      (fun _ d => d.bellSetting = true) fun d => d.bellSetting = true := by
  have h := setting_rules true
  unfold FirmwareProgram.FirmwareEventManager.handleNightUpgrade
  refine .bind (Q := fun _ s => s.bellSetting = true ∧ s.preferences = d.preferences ∧ s.taskTable = d.taskTable)
    (.write ?_ ?_) fun _ => ?_
  · rintro _ rfl
    exact hd
  · rintro _ rfl
    exact ⟨⟨hd, rfl, rfl⟩, hd⟩
  refine .bind (Q := fun p s => (s.bellSetting = true ∧ s.taskTable = d.taskTable) ∧ p = d.preferences)
    (.read fun s hs => ⟨⟨⟨hs.1, hs.2.2⟩, hs.2.1⟩, hs.1⟩) fun p => .assume fun hp => ?_
  refine .bind (Q := fun task s => s.bellSetting = true ∧ task = FirmwareTaskRow.queryTask d.taskTable)
    (.read fun s hs => ⟨⟨hs.1, congrArg _ hs.2⟩, hs.1⟩) fun task => .assume fun ht => ?_
  subst hp ht
  refine .ite (fun _ => h.pure) fun hn => .ite (fun _ => h.pure) fun _ => .ite (fun _ => h.pure) fun hs => ?_
  exact absurd ⟨by simpa using hn, not_not.1 hs⟩ hl

end FirmwareDevice

namespace FirmwareService
open FirmwareDevice
variable {p : JsonPlatform} {calculateHashCode : String → String} {s : FirmwareService} {call : FirmwareCall}
  {m : FirmwareProgram (Option FirmwareProcess)}

/-- A bell that is off and has been off stays so. -/
theorem bell_off (hs : s.WellFormed) (hm : s.call p calculateHashCode call = some m) :
    Keeps (fun d => d.bellSetting = false) (fun d => d.bellSetting = false) m := by
  refine ofBell_bellSetting.leads_call (setting_rules false) (setting_rules false) (fun _ hd => hd) hs hm
    (fun _ d hd => ?_)
    fun env _ => before_off env
  exact Bool.or_eq_false_iff.2 ⟨(Bool.or_eq_false_iff.1 hd).1, rfl⟩

theorem bell_call (hs : s.WellFormed) (hm : s.call p calculateHashCode call = some m)
    (hl : s.device.Silenced → ¬ s.device.LosesBell call) :
    Triple (fun d => d = s.device) m (fun _ d => d.bellSetting = s.device.bellSetting)
      fun d => d.bellSetting = s.device.bellSetting := by
  cases hb : s.device.bellSetting with
  | false => exact (bell_off hs hm).conseq (fun _ he => he ▸ hb) (fun _ _ h => h) fun _ h => h
  | true =>
  by_cases hsil : s.device.Silenced
  swap
  · have hon := silenced_or hb hsil
    exact (ofBell_isBellOn.leads_call on_rules (setting_rules true) on_rules.le hs hm (fun _ _ hd => hd)
      fun env _ => before_on env).conseq (fun _ he => he ▸ hon) (fun _ _ h => h) fun _ h => h
  have hl := hl hsil
  have hr := setting_rules true
  by_cases hc : ∃ env, call.BeginsInstall env
  swap
  · refine (ofBell_bellSetting.leads_call hr hr (fun _ hd => hd) hs hm (fun he => ?_)
        fun env h => absurd ⟨env, h⟩ hc).conseq
      (fun _ he => he ▸ hb) (fun _ _ h => h) fun _ h => h
    exact absurd (he ▸ hl) fun h => h rfl
  obtain ⟨env, hc⟩ := hc
  rcases call_eq_some hm with ⟨_, rfl, -⟩ | ⟨process, -, hm⟩
  · exact hc.elim
  cases call with
  | restoreUpdate env =>
    simp only [FirmwareProcess.call] at hm
    split at hm
    · exact Option.some.inj hm ▸ hr.begin (restoreUpdate_bell env hb hl)
    · cases hm
  | nightUpgrade env => exact Option.some.inj hm ▸ hr.begin (handleNightUpgrade_bell env hb hl)
  | upgrade env now now' upgradeOptions =>
    refine Option.some.inj hm ▸ hr.begin ((manual_rules.upgrade (T := fun task => task.upgradeMode = .manual) hr
      (fun _ hd => hd.1) (fun _ hd => hd.2) (fun task ht => ?_) hr (fun _ hd => hd) fun d hd => ?_).conseq
      (fun _ he => he ▸ hb) (fun _ _ h => h) fun _ h => h)
    · exact (before_manual (fun _ h => h) env ht).conseq (fun _ h => h.1) (fun _ _ h => h) fun _ h => h
    · exact ⟨hr.elementary (.updateUpgradeModeByTaskId _ _) rfl d hd, manual_update d⟩
  | _ => exact hc.elim

/-- The sound setting outlives every call and every kill, where no install of the night is begun, and the preferences
are not reset, while the bell is silent. -/
theorem bell_kept {d : FirmwareDevice} {as : List FirmwareAction}
    (h : ((lts p calculateHashCode).guard fun s action =>
      s.device.Silenced → ¬ s.device.LosesBell action.call).Run { device := d } as s) :
    s.device.bellSetting = d.bellSetting := by
  have hI : s.WellFormed ∧ s.device.bellSetting = d.bellSetting := by
    refine h.invariant (I := fun s => s.WellFormed ∧ s.device.bellSetting = d.bellSetting) ?_ ⟨wellFormed_off d, rfl⟩
    intro s action s' hs hI
    refine ⟨wellFormed_preserved s action s' hs.2 hI.1, Eq.trans ?_ hI.2⟩
    refine device_step (I := fun d => d = s.device) (C := fun d => d.bellSetting = s.device.bellSetting)
      (J := fun d => d.bellSetting = s.device.bellSetting) hs.2 (fun call m hm hc => bell_call hI.1 hm ?_)
      (fun _ hd => hd) (fun _ hd => hd) rfl
    obtain rfl | ⟨n, rfl⟩ := hc <;> exact hs.1
  exact hI.2

/-- A version that waits for the night. -/
def waiting : FirmwareDevice where
  taskTable := [{ status := .downloadSuccess, combinationType := combinationHota }]
  componentTable := [{}]
  preferences := { nightUpgradeSwitch := true }

/-- The night alarm begins an install. -/
def night : List FirmwareAction :=
  [.run (.init .unknown), .run (.restoreUpdate {}), .run (.handleEvent {}), .run (.nightUpgrade {}),
    .run (.doInstall 1 {}), .kill .clearError 0, .run (.init .deviceReboot), .run (.restoreUpdate {})]

theorem bell_kept_night :
    ∃ s, (lts onePackage id).Run { device := waiting } night s ∧ s.device.isBellOn = false ∧
      s.device.bellSetting = waiting.bellSetting := by
  obtain ⟨s, hrun, hoff⟩ : ∃ s, ((lts onePackage id).guard fun s action =>
      s.device.Silenced → ¬ s.device.LosesBell action.call).Run { device := waiting } night s ∧
      s.device.isBellOn = false := by
    rw [lts, Lts.guard_ofPartial]
    exact ⟨_, Lts.run_ofPartial_get (by rfl), by rfl⟩
  exact ⟨s, hrun.of_guard, hoff, bell_kept hrun⟩

end FirmwareService

/-! ### An install that is begun again -/

namespace FirmwareDevice
variable {calculateHashCode : String → String} {env : Surroundings} {d : FirmwareDevice}

/-- An upgrade at night that may be installed, with the bell off; the package is not a stream. -/
structure NightInstall (status : UpgradeStatus) (d : FirmwareDevice) : Prop where
  off : d.isBellOn = false
  status_eq : (FirmwareTaskRow.queryTask d.taskTable).status = status
  night : (FirmwareTaskRow.queryTask d.taskTable).upgradeMode = .night
  whole : FirmwareUpdateHelper.isStreamUpgrade d.componentTable = false
  ready : FirmwareUpdateHelper.isUpgradePackagesReady (fun path => some (d.downloads.outside.fileSize path))
    d.componentTable = true

end FirmwareDevice

/-- Surroundings in which an upgrade at night goes on. -/
structure Surroundings.AllowNight (env : Surroundings) : Prop where
  space : ∀ components, (env.installSpace components).2 = true
  battery : env.isBatteryLow = false
  idle : env.isDeviceIdle = true
  bell : env.isBellSupported = true ∧ env.isBellStatusSaved = true

namespace FirmwareDevice
variable {calculateHashCode : String → String} {env : Surroundings} {d : FirmwareDevice}

theorem NightInstall.exists_task {status : UpgradeStatus} (hs : status ≠ .init) (h : d.NightInstall status) :
    d.taskTable ≠ [] ∧ (FirmwareTaskRow.queryTask d.taskTable).isExistTask = true := by
  cases ht : d.taskTable with
  | nil =>
    have := h.status_eq
    rw [ht] at this
    exact absurd this.symm hs
  | cons task table => exact ⟨List.cons_ne_nil _ _, rfl⟩

theorem NightInstall.getTask (h : d.NightInstall .downloadSuccess) {mode : FirmwareInstallMode} (hm : mode.tasks = {}) :
    FirmwareProgram.FirmwareInstallApplyMode.getTask mode d =
      ({ mode with tasks := FirmwareTaskRow.queryTask d.taskTable }, []) := by
  unfold FirmwareProgram.FirmwareInstallApplyMode.getTask FirmwareProgram.FirmwareTaskOperator.queryTaskOnce
    FirmwareProgram.FirmwareTaskOperator.queryTaskTo
  rw [hm, if_neg (by decide)]
  exact bind_apply (congrArg (·, []) (if_neg (h.exists_task (by decide)).1))

theorem NightInstall.getStepForInstall (h : d.NightInstall .downloadSuccess) (henv : env.AllowNight)
    {mode : FirmwareInstallMode} (hm : mode.tasks = FirmwareTaskRow.queryTask d.taskTable) :
    FirmwareProgram.FirmwareInstallApplyMode.getStepForInstallAndApplyOrder env mode d =
      ((.installStep, mode), []) := by
  have hallow : FirmwareProgram.FirmwareInstallApplyMode.isAllowInstall env mode d = ((true, mode), []) := by
    unfold FirmwareProgram.FirmwareInstallApplyMode.isAllowInstall
    have hall : FirmwareProgram.FirmwareComponentOperator.queryAll d = (d.componentTable, []) := rfl
    rw [bind_apply hall, if_neg (by rw [henv.space]; decide),
      if_neg (by rw [henv.battery]; decide), if_pos (by rw [hm]; exact h.night),
      henv.idle]
    rfl
  have hready : FirmwareProgram.FirmwareInstallApplyMode.isUpgradeFilesReady mode d = ((true, mode), []) := by
    unfold FirmwareProgram.FirmwareInstallApplyMode.isUpgradeFilesReady
    have hread : (Program.read fun d : FirmwareDevice => FirmwareUpdateHelper.isUpgradePackagesReady
        (fun path => some (d.downloads.outside.fileSize path)) d.componentTable : FirmwareProgram Bool) d =
          (true, []) :=
      congrArg (·, []) h.ready
    rw [bind_apply hread, if_pos rfl]
    rfl
  unfold FirmwareProgram.FirmwareInstallApplyMode.getStepForInstallAndApplyOrder
  rw [if_neg (by rw [hm, h.status_eq]; decide)]
  refine (bind_apply hallow).trans ?_
  dsimp only
  rw [if_neg (by decide)]
  exact bind_apply hready

/-- The bell is asked, and found off. -/
theorem NightInstall.getStepAfterInit (h : d.NightInstall .downloadSuccess) (henv : env.AllowNight)
    {mode : FirmwareInstallMode} (hm : mode.tasks = {}) (ho : mode.upgradeOptions.order = .installAndApply) :
    Triple (fun s => s = d) (FirmwareProgram.FirmwareInstallApplyMode.getStepAfterInit env mode)
      (fun _ d => d.bellSetting = false) fun _ => True := by
  unfold FirmwareProgram.FirmwareInstallApplyMode.getStepAfterInit
  refine .bind_apply (h.getTask hm) ?_
  dsimp only
  rw [if_neg (by rw [(h.exists_task (by decide)).2]; decide), if_pos (.inr ho)]
  refine .bind_apply (h.getStepForInstall henv rfl) (.bind (Q := fun _ d => d.bellSetting = false) ?_ fun _ =>
    .pure fun _ hd => ⟨hd, trivial⟩)
  unfold FirmwareProgram.FirmwareUpgradeProcessor.processBeforeUpgrade
  rw [Program.when, if_pos rfl]
  refine .bind_apply (a := false) (congrArg (·, []) h.off) ?_
  rw [Program.when, if_pos ⟨h.night, henv.bell⟩]
  refine .bind (Q := fun _ s => s.bellSetting = false) ?_ fun _ => .pure fun _ hd => ⟨hd, trivial⟩
  refine triple_save (fun _ _ => trivial) ?_ fun _ _ => trivial
  rintro _ rfl
  exact Bool.or_eq_false_iff.2 ⟨h.off, rfl⟩

/-- What an install looks at, a write of the progress of its components leaves. -/
theorem NightInstall.updateComponents {status : UpgradeStatus} (h : d.NightInstall status)
    {q : FirmwareComponent → Bool} {f : FirmwareComponent → FirmwareComponent} (hf : ∀ c, (f c).kind = c.kind)
    (hf' : ∀ c, (f c).spath = c.spath ∧ (f c).size = c.size) :
    { d with componentTable := d.componentTable.updateWhere q f }.NightInstall status where
  off := h.off
  status_eq := h.status_eq
  night := h.night
  whole := (congrArg (·.2.1) (identityOf_congr (List.map_updateWhere hf) : identityOf id _ = _)).trans h.whole
  ready := by
    have hr := h.ready
    unfold FirmwareUpdateHelper.isUpgradePackagesReady at hr ⊢
    rw [Bool.and_eq_true, decide_eq_true_eq, List.all_eq_true] at hr ⊢
    refine ⟨fun he => hr.1 (List.map_eq_nil_iff.1 he), fun c hc => ?_⟩
    obtain ⟨c, hmem, rfl⟩ := List.mem_updateWhere.1 hc
    have := hr.2 c hmem
    split
    · rw [(hf' c).1, (hf' c).2]
      exact this
    · exact this

theorem NightInstall.requestInstall (h : d.NightInstall .downloadSuccess) (henv : env.AllowNight) {e : BusinessError}
    {installType : InstallType} :
    Triple (fun s => s = d)
      (FirmwareProgram.FirmwareManager.doInstall calculateHashCode env { order := .installAndApply } e installType)
      (fun _ d => d.bellSetting = false) fun _ => True := by
  have hr := setting_rules false
  have hstream : FirmwareProgram.FirmwareUpdateHelper.isStreamUpgrade d = (false, []) := congrArg (·, []) h.whole
  have hcan : FirmwareProgram.FirmwareManager.canInstall env d = (true, []) := by
    have htask : FirmwareProgram.FirmwareTaskOperator.queryTask d = (FirmwareTaskRow.queryTask d.taskTable, []) := rfl
    have htype : FirmwareProgram.FirmwareUpdateHelper.getInstallType env d =
        (if env.bootSlot = bootslotsAbUpdateValue then .sysInstaller else .updater, []) := by
      unfold FirmwareProgram.FirmwareUpdateHelper.getInstallType
      rw [bind_apply hstream]
      rfl
    unfold FirmwareProgram.FirmwareManager.canInstall
    rw [bind_apply htask, bind_apply htype, h.status_eq]
    split <;> rfl
  unfold FirmwareProgram.FirmwareManager.doInstall
  refine .bind_apply hcan ?_
  rw [if_neg (by decide)]
  refine .bind_apply hstream (.bind (Q := fun _ d => d.bellSetting = false) ?_ fun x => ?_)
  · refine .bind (h.getStepAfterInit henv rfl rfl) fun _ => .pure fun _ hd => ⟨hd, trivial⟩
  · refine (Keeps.ite (.bind hr.handleComplete fun _ => hr.pure) (.bind hr.executeExecutor fun _ => hr.pure)).conseq
      (fun _ hd => hd) (fun _ _ hd => hd) fun _ _ => trivial

/-- An install of the night that is begun again saves that the bell is off. -/
theorem NightInstall.restoreUpdate (h : d.NightInstall .installing) (henv : env.AllowNight) :
    Triple (fun s => s = d) (FirmwareProgram.FirmwareManager.restoreUpdate calculateHashCode env)
      (fun _ d => d.bellSetting = false) fun _ => True := by
  have htask : FirmwareProgram.FirmwareTaskOperator.queryTask d = (FirmwareTaskRow.queryTask d.taskTable, []) := rfl
  have hstream : FirmwareProgram.FirmwareUpdateHelper.isStreamUpgrade d = (false, []) := congrArg (·, []) h.whole
  unfold FirmwareProgram.FirmwareManager.restoreUpdate
  refine .bind_apply htask ?_
  rw [h.status_eq]
  unfold FirmwareProgram.FirmwareManager.handleBootInstallOnStatusProcess
  refine .bind_apply hstream ?_
  have hkeep : ∀ {α : Type} {g : FirmwareDevice → α}, Keeps (NightInstall .downloadSuccess) (fun _ => True)
      (Program.read g : FirmwareProgram α) := .read fun _ _ => trivial
  refine .bind (Q := fun _ => NightInstall .downloadSuccess) (.write (fun _ _ => trivial) ?_) fun _ =>
    .bind hkeep fun components => .bind (Keeps.forEach (fun _ _ => trivial) fun c _ => ?_) fun _ =>
    .bind (Keeps.bind hkeep fun _ => .pure fun _ _ => trivial) fun installType => ?_
  · rintro _ rfl
    rename_i d
    have hhead : FirmwareTaskRow.queryTask (FirmwareTaskRow.updateTaskByTaskId
        (FirmwareTaskRow.queryTask d.taskTable).taskId
          (fun task => { task with status := .downloadSuccess, progress := oneHundred })
        d.taskTable) =
          { FirmwareTaskRow.queryTask d.taskTable with status := .downloadSuccess, progress := oneHundred } := by
      obtain ⟨task, table, ht⟩ := List.exists_cons_of_ne_nil (h.exists_task (by decide)).1
      rw [ht]
      change { (if decide (task.taskId = task.taskId) = true then _ else task) with isExistTask := true } = _
      rw [if_pos (decide_eq_true rfl)]
      rfl
    exact ⟨⟨h.off, congrArg (·.status) hhead, (congrArg (·.upgradeMode) hhead).trans h.night,
        h.whole, h.ready⟩, trivial⟩
  · exact Keeps.when (fun _ _ => trivial) fun _ => .write (fun _ _ => trivial) fun d hd =>
      hd.updateComponents (fun _ => rfl) fun _ => ⟨rfl, rfl⟩
  · exact Triple.of_store fun d hd => hd.requestInstall henv

end FirmwareDevice

namespace FirmwareService
open FirmwareDevice
variable {p : JsonPlatform} {calculateHashCode : String → String} {s : FirmwareService}

/-- The bell stays off for good when an install of the night has been killed and the next process begins it again. -/
theorem bell_lost {d : FirmwareDevice} {env : Surroundings} {startupReason : StartupReason} {as : List FirmwareAction}
    (h₀ : d.NightInstall .installing) (henv : env.AllowNight) (hr : startupReason ≠ .processEnvReset)
    (h : (lts p calculateHashCode).Run { device := d }
      (.run (.init startupReason) :: .run (.restoreUpdate env) :: as) s) :
    s.device.bellSetting = false := by
  cases h with
  | @cons _ s₁ _ _ _ hs₁ h =>
  cases h with
  | @cons _ s₂ _ _ _ hs₂ h =>
  have hinit : ((FirmwareProgram.FirmwareManager.init startupReason).final d) = d := by
    unfold FirmwareProgram.FirmwareManager.init
    rw [final_when, if_neg hr]
  have hs₁' : s₁ = { device := d, process := some { delayInit := some .restoreUpdate, startupReason } } := by
    refine (Option.some.inj hs₁).symm.trans ?_
    simp only [answer_bind, answer_pure, final_bind, final_pure, hinit]
  subst hs₁'
  have hwf := wellFormed_preserved _ _ _ hs₂ (wellFormed_preserved _ _ _ hs₁ (wellFormed_off d))
  have hlost : s₂.device.bellSetting = false := by
    obtain ⟨call, m, hm, ⟨hc, rfl⟩ | ⟨n, hc, -⟩⟩ := step_cases hs₂
    swap
    · cases hc
    cases hc
    obtain rfl := Option.some.inj hm
    have hbegin : ∀ process : FirmwareProcess, Triple (fun s => s = d)
        (process.begin (FirmwareProgram.FirmwareManager.restoreUpdate calculateHashCode env))
        (fun _ d => d.bellSetting = false) fun _ => True := fun process =>
      .bind (h₀.restoreUpdate henv) fun _ => .pure fun _ hd => ⟨hd, trivial⟩
    exact (hbegin _ d rfl).1
  have hI := h.invariant (I := fun s => s.WellFormed ∧ s.device.bellSetting = false) ?_ ⟨hwf, hlost⟩
  · exact hI.2
  · intro s action s' hs hI
    exact ⟨wellFormed_preserved s action s' hs hI.1,
      device_step hs (fun call m hm _ => bell_off hI.1 hm) (fun _ hd => hd)
      (fun _ hd => hd) hI.2⟩

/-- An install of the night, as it is found after a kill. -/
def killedAtNight : FirmwareDevice where
  taskTable := [{ status := .installing, combinationType := combinationHota, upgradeMode := .night }]
  componentTable := [{ status := .installing }]
  isBellOn := false
  preferences := { bellStatus := some true }

theorem bell_lost_killedAtNight :
    ∃ s, (lts onePackage id).Run { device := killedAtNight }
      [.run (.init .deviceReboot), .run (.restoreUpdate {}), .run (.handleEvent {})] s ∧
      killedAtNight.bellSetting = true ∧ s.device.bellSetting = false := by
  have hinstall : killedAtNight.NightInstall .installing := ⟨rfl, rfl, rfl, rfl, by decide +kernel⟩
  exact ⟨_, Lts.run_ofPartial_get (by rfl), rfl, bell_lost hinstall
    ⟨fun _ => rfl, rfl, rfl, rfl, rfl⟩ (by decide) (Lts.run_ofPartial_get (by rfl))⟩

end FirmwareService

end UpdateService
