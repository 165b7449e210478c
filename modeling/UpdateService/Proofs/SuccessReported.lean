import UpdateService.Proofs.TablesAgree

/-!
# How often a success is reported

A task that has been upgraded to is reported with `EVENT_UPGRADE_SUCCESS` and removed, and a process may die between
the two. So a version is reported at most once more than it has been killed, and at least once: as long as it has not
been reported the task is still there for the next boot.
-/

namespace UpdateService
open Program

/-- The notices of a success. -/
def FirmwareDevice.successes (d : FirmwareDevice) : Nat :=
  d.notices.countP fun e => e.eventId = InnerApi.EventId.eventUpgradeSuccess.number

/-- The successes that have been reported or may still be. -/
def FirmwareDevice.due (d : FirmwareDevice) : Nat := d.successes + d.taskTable.length

namespace FirmwareDevice
variable {n : Nat} {d : FirmwareDevice}

theorem successes_notice (d : FirmwareDevice) (e : InnerApi.EventInfo) :
    (d.apply (.notice e)).successes =
      d.successes + if e.eventId = InnerApi.EventId.eventUpgradeSuccess.number then 1 else 0 := by
  change (d.notices ++ [e]).countP _ = _
  rw [List.countP_append, List.countP_singleton]
  simp only [decide_eq_true_eq]
  rfl

theorem due_elementary {w : DeviceWrite} (hw : w.IsElementary fun _ => True) (d : FirmwareDevice) :
    (d.apply w).due = d.due := by
  have hlen : ∀ (q : FirmwareTaskRow → Bool) (f : FirmwareTaskRow → FirmwareTaskRow),
      d.successes + (d.taskTable.updateWhere q f).length = d.due := fun q f => by
    rw [List.updateWhere, List.length_map]
    rfl
  cases w with
  | insertTask | deleteAllTasks | insertComponents | deleteAllComponents | deleteDbStore => exact hw.elim
  | updateProgressByTaskId | updateStatusByTaskId | updateDownloadTaskIdByTaskId | updateDownloadOptionByTaskId
  | updateUpgradeModeByTaskId => exact hlen _ _
  | notice e =>
    unfold due
    rw [successes_notice, if_neg hw]
    rfl
  | _ => rfl

theorem due_night (taskId : String) (d : FirmwareDevice) :
    (d.apply (.updateUpgradeModeByTaskId taskId .night)).due = d.due := by
  change d.successes + (d.taskTable.updateWhere _ _).length = d.due
  rw [List.updateWhere, List.length_map]
  rfl

theorem due_rules {n k : Nat} (hnk : n ≤ k) :
    FirmwareRules (fun _ => True) (fun d => d.due ≤ n) fun d => d.due ≤ k := by
  have hle : ∀ d : FirmwareDevice, d.due ≤ n → d.due ≤ k := fun _ h => h.trans hnk
  refine ⟨hle, fun _ _ _ _ => trivial, fun w hw d h => (due_elementary hw d).trans_le h, fun _ _ _ h => h, ?_,
    keeps_processAfterUpgrade hle (fun _ _ h => h) fun _ h => h⟩
  refine .bind (.read hle) fun _ => .bind (.bind (.read hle) fun _ => .write hle fun _ h => h) fun _ => ?_
  refine .bind (.write hle fun d h => (Nat.le_add_right _ _).trans h) fun _ => ?_
  exact .bind (.write hle fun _ h => h) fun _ => .write hle fun _ h => h

/-- The task that is removed pays for the report. -/
theorem clear_due : Triple (fun d => d.due ≤ n + 1 ∧ d.taskTable ≠ [])
    FirmwareProgram.FirmwareUpdateHelper.clearFirmwareInfo (fun _ d => d.due ≤ n) fun d => d.due ≤ n + 1 := by
  have hle : ∀ d : FirmwareDevice, d.due ≤ n + 1 ∧ d.taskTable ≠ [] → d.due ≤ n + 1 := fun _ h => h.1
  have hle' : ∀ d : FirmwareDevice, d.due ≤ n → d.due ≤ n + 1 := fun _ h => h.trans (Nat.le_succ n)
  refine .bind (Keeps.read hle) fun _ =>
    .bind (.bind (Keeps.read hle) fun _ => Keeps.write hle fun _ h => h) fun _ => ?_
  refine .bind (Q := fun _ d => d.due ≤ n) (.write hle fun d h => ?_) fun _ => ?_
  · have hd : (Store.apply d DeviceWrite.deleteAllTasks).due ≤ n := by
      change d.successes ≤ n
      have := List.length_pos_iff.2 h.2
      have := h.1
      unfold due at this
      omega
    exact ⟨hd, hle' _ hd⟩
  · exact .bind (Keeps.write hle' fun _ h => h) fun _ => Keeps.write hle' fun _ h => h

theorem success_due (task : FirmwareTaskRow) : Triple (fun d => d.due ≤ n ∧ d.taskTable ≠ [])
    (FirmwareProgram.FirmwareEventManager.handleBootUpdateSuccess task)
    (fun _ d => d.due ≤ n) fun d => d.due ≤ n + 1 := by
  have hle : ∀ d : FirmwareDevice, d.due ≤ n ∧ d.taskTable ≠ [] → d.due ≤ n + 1 := fun _ h => h.1.trans (Nat.le_succ n)
  have hsave := keeps_save hle fun _ _ h => h
  unfold FirmwareProgram.FirmwareEventManager.handleBootUpdateSuccess
    FirmwareProgram.FirmwareEventManager.saveHotaCurrentVersionComponentId
  refine .bind (hsave _) fun _ => .bind (Keeps.read hle) fun components =>
    .bind (Q := fun _ d => d.due ≤ n ∧ d.taskTable ≠ [])
    (.bind (Keeps.read hle) fun _ => ?_) fun _ => ?_
  · split
    exacts [Keeps.pure hle, hsave _]
  · refine .ite (fun _ => .bind (Q := fun _ d => d.due ≤ n + 1 ∧ d.taskTable ≠ []) (.write hle fun d h => ?_)
      fun _ => clear_due) fun _ => .pure fun d h => ⟨h.1, hle d h⟩
    have hd : ∀ e, (d.apply (.notice e)).due ≤ n + 1 := by
      intro e
      have := h.1
      unfold due at this ⊢
      rw [successes_notice]
      change d.successes + _ + d.taskTable.length ≤ n + 1
      split <;> omega
    exact ⟨⟨hd _, h.2⟩, hd _⟩

/-- A success is only reported of a task that is there. -/
theorem handleBootComplete_due (env : Surroundings) : Keeps (fun d => d.due ≤ n) (fun d => d.due ≤ n + 1)
    (FirmwareProgram.FirmwareEventManager.handleBootComplete env) := by
  have h := due_rules (Nat.le_succ n)
  have hafter : ∀ task, Keeps (fun d => d.due ≤ n ∧ d.taskTable ≠ []) (fun d => d.due ≤ n + 1)
      (FirmwareProgram.FirmwareUpgradeProcessor.processAfterUpgrade env task) :=
    keeps_processAfterUpgrade (fun _ h => h.1.trans (Nat.le_succ n)) (fun _ _ h => h) (fun _ h => h) env
  unfold FirmwareProgram.FirmwareEventManager.handleBootComplete
  refine Triple.bind (Q := fun task d => d.due ≤ n ∧ (task.isExistTask = true → d.taskTable ≠ [])) ?_ fun task => ?_
  · refine .read fun d hd => ⟨⟨hd, fun ht he => ?_⟩, hd.trans (Nat.le_succ n)⟩
    rw [he] at ht
    cases ht
  refine .ite (fun _ => .pure fun _ hd => ⟨hd.1, hd.1.trans (Nat.le_succ n)⟩) fun ht => ?_
  have ht : task.isExistTask = true := by simpa using ht
  refine Triple.conseq (P := fun d => d.due ≤ n ∧ d.taskTable ≠ []) ?_ (fun _ hd => ⟨hd.1, hd.2 ht⟩) (fun _ _ hd => hd)
    fun _ hd => hd
  refine .ite (fun _ => .bind (hafter task) fun _ => ?_) fun _ =>
    .ite (fun _ => .bind (hafter task) fun _ => ?_) fun _ => ?_
  · refine .bind (Q := fun _ d => d.due ≤ n ∧ d.taskTable ≠ []) (.read fun _ hd => ⟨hd, hd.1.trans (Nat.le_succ n)⟩)
      fun _ => ?_
    split
    · exact h.pure.conseq (fun _ hd => hd.1) (fun _ _ hd => hd) fun _ hd => hd
    · exact .bind (success_due task) fun _ => h.pure
    · exact .bind (h.handleBootUpdateFail.conseq (fun _ hd => hd.1) (fun _ _ hd => hd) fun _ hd => hd) fun _ => h.pure
    · exact h.pure.conseq (fun _ hd => hd.1) (fun _ _ hd => hd) fun _ hd => hd
  · exact .bind (success_due task) fun _ => h.pure
  · exact h.pure.conseq (fun _ hd => hd.1) (fun _ _ hd => hd) fun _ hd => hd

/-- A new version is one more to report. -/
theorem handleNewVersion_due {calculateHashCode : String → String} (q : FirmwareCheckDataProcessor) :
    Triple (fun d => d.due ≤ n) (FirmwareProgram.FirmwareCheckDataProcessor.handleNewVersion calculateHashCode q)
      (fun _ d => d.due ≤ n + 1) fun d => d.due ≤ n + 1 := by
  have h := due_rules (Nat.le_succ n)
  have hle : ∀ d : FirmwareDevice, d.due ≤ n → d.due ≤ n + 1 := fun _ hd => hd.trans (Nat.le_succ n)
  unfold FirmwareProgram.FirmwareCheckDataProcessor.handleNewVersion
  refine .bind h.read fun isSame => .ite (fun _ => ?_) fun _ => .bind h.clear fun _ => ?_
  · exact (Keeps.bind h.updateFirmwareComponent fun _ => h.pure).conseq (fun _ hd => hd) (fun _ => hle) fun _ hd => hd
  · refine .bind (Keeps.write hle fun _ hd => hd) fun _ => .bind (Q := fun _ d => d.due ≤ n + 1)
      (.write hle fun d hd => ?_) fun _ => .pure fun _ hd => ⟨hd, hd⟩
    have hd' : ∀ task, (d.apply (.insertTask task)).due ≤ n + 1 := by
      intro task
      unfold due at hd ⊢
      change d.successes + (d.taskTable ++ [task]).length ≤ n + 1
      rw [List.length_append, List.length_singleton]
      omega
    exact ⟨hd' _, hd' _⟩

end FirmwareDevice

/-- A new version from the server, or a process that is killed, may be followed by one more report. -/
def FirmwareAction.reports (p : JsonPlatform) : FirmwareAction → Nat
  | run (.doCheck _ _ content) => if (FirmwareProgram.checkComponents p content).2 = [] then 0 else 1
  | run _ => 0
  | kill _ _ => 1

namespace FirmwareService
variable {p : JsonPlatform} {calculateHashCode : String → String}

theorem due_call {s : FirmwareService} {call : FirmwareCall} {m : FirmwareProgram (Option FirmwareProcess)} {n : Nat}
    (hs : s.WellFormed) (hm : s.call p calculateHashCode call = some m) :
    Triple (fun d => d.due ≤ n) m (fun _ d => d.due ≤ n + (FirmwareAction.run call).reports p)
      fun d => d.due ≤ n + 1 := by
  have hk : (FirmwareAction.run call).reports p ≤ 1 := by
    unfold FirmwareAction.reports
    split
    · split <;> decide
    · decide
    · decide
  have h := FirmwareDevice.due_rules (Nat.le_succ n)
  have h' := FirmwareDevice.due_rules (Nat.add_le_add_left hk n)
  have hle : ∀ d : FirmwareDevice, d.due ≤ n → d.due ≤ n + (FirmwareAction.run call).reports p := fun _ hd =>
    hd.trans (Nat.le_add_right _ _)
  refine h.leads_call h' hle hs hm ?_ ?_ ?_ ?_ ?_ (fun _ => trivial) fun _ => ⟨trivial, trivial⟩
  · intro startupReason _
    refine Keeps.weaken (h.when fun _ => .bind (h.write trivial) fun _ =>
      .bind (.write h.le fun _ hd => hd) fun _ => ?_) hle
    exact .write h.le fun d hd => (Nat.le_add_right _ _).trans hd
  · rintro i env content rfl flow hf
    refine h.doCheck h' hle (fun _ hd => hd) hf fun q hq hne => ?_
    have hr : (FirmwareAction.run (.doCheck i env content)).reports p = 1 := if_neg (hq ▸ hne)
    rw [hr]
    exact FirmwareDevice.handleNewVersion_due q
  · exact fun env _ task =>
      (keeps_processBeforeUpgrade h.le (fun _ _ hd => hd) (fun _ hd => hd) env task).weaken hle
  · exact fun env _ taskId d hd => (FirmwareDevice.due_night taskId d).trans_le hd
  · exact fun env _ => (FirmwareDevice.handleBootComplete_due env).weaken hle

theorem due_step {s s' : FirmwareService} {action : FirmwareAction} {n : Nat}
    (hs : (lts p calculateHashCode).step s action s') (hw : s.WellFormed) (h : s.device.due ≤ n) :
    s'.device.due ≤ n + action.reports p := by
  obtain ⟨call, m, hm, ⟨rfl, rfl⟩ | ⟨k, rfl, rfl⟩⟩ := step_cases hs
  · have hf := (due_call hw hm s.device h).1
    split <;> exact hf
  · exact (due_call hw hm s.device h).2 k

/-- A version that the server has brought is reported as installed once, and once more for every kill at most. -/
theorem successes_le {d : FirmwareDevice} {as : List FirmwareAction} {s : FirmwareService}
    (h : (lts p calculateHashCode).Run { device := d } as s) :
    s.device.successes + s.device.taskTable.length ≤
      d.successes + d.taskTable.length + (as.map (FirmwareAction.reports p)).sum := by
  have hI : s.WellFormed ∧ s.device.due ≤ d.due + (as.map (FirmwareAction.reports p)).sum := by
    refine h.history (I := fun as s => s.WellFormed ∧ s.device.due ≤ d.due + (as.map (FirmwareAction.reports p)).sum)
      (fun as s a s' hs hI => ⟨wellFormed_preserved s a s' hs hI.1, ?_⟩) ⟨wellFormed_off d, le_rfl⟩
    rw [List.map_append, List.sum_append, List.map_singleton, List.sum_singleton, ← Nat.add_assoc]
    exact due_step hs hI.1 hI.2
  exact hI.2

/-- A device that has installed a version and is not yet restarted. -/
def installed : FirmwareDevice where
  taskTable := [{ status := .installSuccess, combinationType := combinationHota }]
  componentTable := [{}]

def boot : List FirmwareCall := [.init .deviceReboot, .restoreUpdate {}, .handleEvent {}]

theorem successes_le_boot :
    ∃ s, (lts onePackage id).Run { device := installed } (boot.map .run) s ∧ s.device.successes = 1 ∧
      s.device.successes + s.device.taskTable.length ≤
        installed.successes + installed.taskTable.length +
          ((boot.map .run).map (FirmwareAction.reports onePackage)).sum :=
  ⟨_, Lts.run_ofPartial_get (by rfl), by rfl, successes_le (Lts.run_ofPartial_get (by rfl))⟩

end FirmwareService

/-! ### The next boot -/

namespace FirmwareDevice
variable {n : Nat}

/-- A version has been installed and has not been reported. -/
def Installed (d : FirmwareDevice) : Prop :=
  d.taskTable ≠ [] ∧ (FirmwareTaskRow.queryTask d.taskTable).status = .installSuccess ∧
    (FirmwareTaskRow.queryTask d.taskTable).combinationType = combinationHota

theorem told_keeps {α : Type} (m : FirmwareProgram α) :
    Keeps (fun d => n < d.successes) (fun d => n < d.successes) m := by
  refine Only.keeps (A := fun _ => True) (fun _ _ _ => trivial) fun d w _ h => ?_
  cases w with
  | notice e =>
    have := successes_notice d e
    change n < (d.apply (.notice e)).successes
    omega
  | _ => exact h

/-- The task is there until it has been reported. -/
theorem success_told {task : FirmwareTaskRow} (hc : task.combinationType = combinationHota) :
    Triple (fun d => d.Installed ∧ d.successes = n) (FirmwareProgram.FirmwareEventManager.handleBootUpdateSuccess task)
      (fun _ d => n < d.successes) fun d => n < d.successes ∨ d.Installed ∧ d.successes = n := by
  have hle : ∀ d : FirmwareDevice, d.Installed ∧ d.successes = n → n < d.successes ∨ d.Installed ∧ d.successes = n :=
    fun _ h => .inr h
  have hsave := keeps_save hle fun _ _ h => h
  unfold FirmwareProgram.FirmwareEventManager.handleBootUpdateSuccess
    FirmwareProgram.FirmwareEventManager.saveHotaCurrentVersionComponentId
  refine .bind (hsave _) fun _ => .bind (Keeps.read hle) fun components =>
    .bind (Q := fun _ d => d.Installed ∧ d.successes = n) (.bind (Keeps.read hle) fun _ => ?_) fun _ => ?_
  · split
    exacts [Keeps.pure hle, hsave _]
  · unfold when
    rw [if_pos hc]
    refine .bind (Q := fun _ d => n < d.successes) (.write hle fun d h => ?_) fun _ =>
      (told_keeps _).conseq (fun _ h => h) (fun _ _ h => h) fun _ h => .inl h
    have hs : ∀ e : InnerApi.EventInfo, e.eventId = InnerApi.EventId.eventUpgradeSuccess.number →
        n < (d.apply (.notice e)).successes := by
      intro e he
      rw [successes_notice, if_pos he, h.2]
      exact Nat.lt_succ_self n
    exact ⟨hs _ rfl, .inl (hs _ rfl)⟩

theorem handleBootComplete_told (env : Surroundings) :
    Triple (fun d => d.Installed ∧ d.successes = n) (FirmwareProgram.FirmwareEventManager.handleBootComplete env)
      (fun _ d => n < d.successes) fun d => n < d.successes ∨ d.Installed ∧ d.successes = n := by
  have hle : ∀ d : FirmwareDevice, d.Installed ∧ d.successes = n → n < d.successes ∨ d.Installed ∧ d.successes = n :=
    fun _ h => .inr h
  unfold FirmwareProgram.FirmwareEventManager.handleBootComplete FirmwareProgram.FirmwareTaskOperator.queryTask
  refine Triple.of_store fun d hd => .bind (Q := fun task s => (s.Installed ∧ s.successes = n) ∧
    task = FirmwareTaskRow.queryTask d.taskTable) (.read ?_) fun task => ?_
  · rintro _ rfl
    exact ⟨⟨hd, rfl⟩, hle _ hd⟩
  · refine Triple.of_store fun d' hd' => ?_
    obtain ⟨hd', rfl⟩ := hd'
    obtain ⟨task, table, ht⟩ := List.exists_cons_of_ne_nil hd.1.1
    have he : (FirmwareTaskRow.queryTask d.taskTable).isExistTask = true := by
      rw [ht]
      rfl
    rw [if_neg (by rw [he]; decide), if_neg (by rw [hd.1.2.1]; decide), if_pos hd.1.2.1]
    have hafter := keeps_processAfterUpgrade hle (fun _ _ h => h) (fun _ h => h) env
      (FirmwareTaskRow.queryTask d.taskTable)
    refine Triple.conseq (.bind hafter fun _ => .bind (success_told hd.1.2.2) fun _ => ?_) (fun _ h => h ▸ hd')
      (fun _ _ h => h) fun _ h => h
    exact .pure fun _ h => ⟨h, .inl h⟩

end FirmwareDevice

/-- The calls of a start after a reboot. -/
def FirmwareCall.IsBoot : FirmwareCall → Prop
  | .init startupReason => startupReason = .deviceReboot
  | .restoreUpdate _ | .handleEvent _ => True
  | _ => False

def FirmwareAction.IsBoot : FirmwareAction → Prop
  | run call | kill call _ => call.IsBoot

namespace FirmwareService
variable {p : JsonPlatform} {calculateHashCode : String → String} {n : Nat}

/-- A process that has not come to the report yet. -/
def Booting (s : FirmwareService) : Prop :=
  ∀ process ∈ s.process, process.delayInit ≠ none ∧ process.startupReason = .deviceReboot

theorem booting_call {s : FirmwareService} {call : FirmwareCall} {m : FirmwareProgram (Option FirmwareProcess)}
    (hm : s.call p calculateHashCode call = some m) (hc : call.IsBoot) (hb : s.Booting) :
    Triple (fun d => d.Installed ∧ d.successes = n) m
      (fun process d => n < d.successes ∨ (d.Installed ∧ d.successes = n) ∧
        ∀ process' ∈ process, process'.delayInit ≠ none ∧ process'.startupReason = .deviceReboot)
      fun d => n < d.successes ∨ d.Installed ∧ d.successes = n := by
  have hle : ∀ d : FirmwareDevice, d.Installed ∧ d.successes = n → n < d.successes ∨ d.Installed ∧ d.successes = n :=
    fun _ h => .inr h
  rcases call_eq_some hm with ⟨startupReason, rfl, -, rfl⟩ | ⟨process, hp, hm⟩
  · obtain rfl : startupReason = .deviceReboot := hc
    have hinit : Keeps (fun d => d.Installed ∧ d.successes = n)
        (fun d => n < d.successes ∨ d.Installed ∧ d.successes = n)
        (FirmwareProgram.FirmwareManager.init .deviceReboot) := Keeps.pure hle
    refine .bind hinit fun _ => .pure fun d hd => ⟨.inr ⟨hd, ?_⟩, .inr hd⟩
    rintro _ ⟨⟩
    exact ⟨Option.some_ne_none _, rfl⟩
  obtain ⟨-, hreason⟩ := hb process hp
  cases call with
  | restoreUpdate env =>
    simp only [FirmwareProcess.call] at hm
    split at hm
    · obtain rfl := Option.some.inj hm
      refine .bind (Q := fun _ d => d.Installed ∧ d.successes = n) ?_
        fun result => .pure fun d hd => ⟨.inr ⟨hd, ?_⟩, .inr hd⟩
      · unfold FirmwareProgram.FirmwareManager.restoreUpdate
        refine Triple.of_store fun d hd =>
          .bind (Q := fun task s => s = d ∧ task = FirmwareTaskRow.queryTask d.taskTable)
          (.read ?_) fun task => ?_
        · rintro _ rfl
          exact ⟨⟨rfl, rfl⟩, .inr hd⟩
        · refine Triple.of_store ?_
          rintro _ ⟨rfl, rfl⟩
          rw [hd.1.2.1]
          exact .pure fun _ h => h ▸ ⟨hd, .inr hd⟩
      · rintro _ ⟨⟩
        exact ⟨Option.some_ne_none _, hreason⟩
    · cases hm
  | handleEvent env =>
    simp only [FirmwareProcess.call] at hm
    split at hm
    · obtain rfl := Option.some.inj hm
      refine .bind (Q := fun _ d => d.Installed ∧ d.successes = n) ?_ fun _ =>
        .bind (Q := fun _ d => n < d.successes) ?_ fun _ => .pure fun _ hd => ⟨.inl hd, .inl hd⟩
      · unfold FirmwareProgram.FirmwareManager.notifyInitEvent
        refine .bind (Keeps.read hle) fun _ => Keeps.when hle fun _ =>
          .bind (keeps_save hle (fun _ _ h => h) _) fun _ => ?_
        refine .write hle fun d h => ?_
        exact ⟨h.1, (FirmwareDevice.successes_notice _ _).trans h.2⟩
      · unfold FirmwareProgram.FirmwareEventManager.handleEvent
        rw [if_pos hreason]
        exact FirmwareDevice.handleBootComplete_told env
    · cases hm
  | init => cases hm
  | _ => exact hc.elim

theorem booting_step {s s' : FirmwareService} {action : FirmwareAction} (hb : action.IsBoot)
    (hs : (lts p calculateHashCode).step s action s')
    (h : n < s.device.successes ∨ (s.device.Installed ∧ s.device.successes = n) ∧ s.Booting) :
    n < s'.device.successes ∨ (s'.device.Installed ∧ s'.device.successes = n) ∧ s'.Booting := by
  rcases h with h | ⟨h, hboot⟩
  · exact .inl (device_step hs (fun _ m _ _ => FirmwareDevice.told_keeps m) (fun _ hd => hd) (fun _ hd => hd) h)
  obtain ⟨call, m, hm, ⟨rfl, rfl⟩ | ⟨k, rfl, rfl⟩⟩ := step_cases hs
  · rcases (booting_call hm hb hboot s.device h).1 with hf | ⟨hf, hg⟩
    · exact .inl (by split <;> exact hf)
    · refine .inr ?_
      split
      · rename_i process hp
        refine ⟨hf, ?_⟩
        rintro _ ⟨⟩
        exact hg process hp
      · refine ⟨hf, ?_⟩
        rintro _ ⟨⟩
  · rcases (booting_call hm hb hboot s.device h).2 k with hf | hf
    · exact .inl hf
    · refine .inr ⟨hf, ?_⟩
      rintro _ ⟨⟩

/-- However often it is killed on the way: when a boot has come to its end, what has been installed is reported. -/
theorem success_reported {d : FirmwareDevice} {as : List FirmwareAction} {s : FirmwareService} (h₀ : d.Installed)
    (h : ((lts p calculateHashCode).guard fun _ action => action.IsBoot).Run { device := d } as s)
    {process : FirmwareProcess} (hp : s.process = some process) (hd : process.delayInit = none) :
    d.successes < s.device.successes := by
  have hI : d.successes < s.device.successes ∨
      (s.device.Installed ∧ s.device.successes = d.successes) ∧ s.Booting := by
    refine h.invariant (I := fun s => d.successes < s.device.successes ∨
      (s.device.Installed ∧ s.device.successes = d.successes) ∧ s.Booting)
      ?_ (.inr ⟨⟨h₀, rfl⟩, ?_⟩)
    · exact fun s a s' hs hI => booting_step hs.1 hs.2 hI
    · rintro _ ⟨⟩
  rcases hI with hI | ⟨-, hb⟩
  · exact hI
  · exact absurd hd (hb process hp).1

/-- A boot that is killed when the report has been made, and the next one. -/
def killedBoot : List FirmwareAction :=
  [.run (.init .deviceReboot), .run (.restoreUpdate {}), .kill (.handleEvent {}) 5] ++ boot.map .run

theorem success_reported_killedBoot :
    ∃ s process, (lts onePackage id).Run { device := installed } killedBoot s ∧ s.process = some process ∧
      process.delayInit = none ∧ installed.successes < s.device.successes := by
  have hrun : (lts onePackage id).Run { device := installed } killedBoot _ := Lts.run_ofPartial_get (by rfl)
  have hboot : ∀ action ∈ killedBoot, action.IsBoot := by
    unfold killedBoot boot
    simp [FirmwareAction.IsBoot, FirmwareCall.IsBoot]
  exact ⟨_, _, hrun, rfl, rfl,
    success_reported ⟨List.cons_ne_nil _ _, rfl, rfl⟩ (hrun.to_guard hboot) rfl rfl⟩

end FirmwareService

end UpdateService
