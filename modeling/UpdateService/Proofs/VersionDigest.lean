import UpdateService.FirmwareSystem
import UpdateService.Proofs.TablesAgree

/-!
# The digest of a version

The digest is computed from the version ids, which no answer of the server fills. So it is the same for every version:
neither the task nor what the application is told can be told apart by it.
-/

namespace UpdateService
open Program

/-- No component has a version id, and every task has the digest of that. -/
structure FirmwareDevice.Undigested (calculateHashCode : String → String) (d : FirmwareDevice) : Prop where
  versionId : ∀ c ∈ d.componentTable, c.versionId = ""
  taskId : ∀ task ∈ d.taskTable, task.taskId = calculateHashCode ""

namespace FirmwareDevice
variable {calculateHashCode : String → String} {d d' : FirmwareDevice}

theorem Undigested.congr (h : d.Undigested calculateHashCode)
    (ht : d'.taskTable.map (·.identity) = d.taskTable.map (·.identity))
    (hc : d'.componentTable.map (·.kind) = d.componentTable.map (·.kind)) : d'.Undigested calculateHashCode := by
  refine ⟨fun c hmem => ?_, fun task hmem => ?_⟩
  · have hmem := List.mem_map_of_mem (f := FirmwareComponent.kind) hmem
    rw [hc] at hmem
    obtain ⟨c₀, h₀, he⟩ := List.mem_map.1 hmem
    exact (congrArg Prod.fst he).symm.trans (h.versionId c₀ h₀)
  · have hmem := List.mem_map_of_mem (f := FirmwareTaskRow.identity) hmem
    rw [ht] at hmem
    obtain ⟨task₀, h₀, he⟩ := List.mem_map.1 hmem
    exact (congrArg Prod.fst he).symm.trans (h.taskId task₀ h₀)

theorem buildTaskId_of_empty {components : List FirmwareComponent} (hne : components ≠ [])
    (h : ∀ c ∈ components, c.versionId = "") :
    FirmwareUpdateHelper.buildTaskId calculateHashCode components = calculateHashCode "" := by
  have hfold :
      components.foldl (fun taskId c => (if taskId ≠ "" then taskId ++ "_" else taskId) ++ c.versionId) "" = "" := by
    refine List.foldlRecOn (motive := fun taskId => taskId = "") components _ rfl ?_
    rintro _ rfl c hc
    rw [if_neg (not_not.2 rfl), h c hc]
    rfl
  unfold FirmwareUpdateHelper.buildTaskId
  rw [if_neg hne, hfold]

theorem Undigested.cleared (h : d.Cleared) : d.Undigested calculateHashCode := by
  refine ⟨fun c hc => ?_, fun task ht => ?_⟩
  · rw [h.2] at hc
    cases hc
  · rw [h.1] at ht
    cases ht

theorem clear_undigested :
    Triple (Undigested calculateHashCode) FirmwareProgram.FirmwareUpdateHelper.clearFirmwareInfo (fun _ => Cleared)
      (Undigested calculateHashCode) := by
  refine clear_cleared (fun _ h => h) (fun _ _ h => ⟨h.versionId, h.taskId⟩)
    (fun d h => ⟨h.versionId, fun task ht => ?_⟩)
    fun _ h => .cleared h
  cases ht

theorem undigested_rules :
    TableRules (fun _ => True) (Undigested calculateHashCode) (Undigested calculateHashCode) where
  le _ h := h
  rest _ _ _ _ := trivial
  elementary _ hw d h := h.congr (identity_elementary hw d).1 (identity_elementary hw d).2
  preferences _ _ h := ⟨h.versionId, h.taskId⟩
  bell _ _ h := ⟨h.versionId, h.taskId⟩
  notice _ _ h := ⟨h.versionId, h.taskId⟩
  night _ _ h := h.congr (List.map_updateWhere fun _ => rfl) rfl
  deleteDbStore _ _ := .cleared ⟨rfl, rfl⟩
  clear := clear_undigested.conseq (fun _ h => h) (fun _ _ h => .cleared h) fun _ h => h

theorem versionId_checkComponents {p : JsonPlatform} {content : Option String} {c : FirmwareComponent}
    (h : c ∈ (FirmwareProgram.checkComponents p content).2) : c.versionId = "" := by
  have hanalyze : ∀ c ∈ (FirmwareProgram.FirmwareICheck.doAction p content).2, c.versionId = "" := by
    intro c hc
    unfold FirmwareProgram.FirmwareICheck.doAction at hc
    split at hc
    · cases hc
    · split at hc
      · cases hc
      · split at hc
        · cases hc
        · exact (FirmwareCheckAnalyzeUtils.parsed_doAnalyze hc).versionId
  unfold FirmwareProgram.checkComponents at h
  dsimp only at h
  split at h
  · exact hanalyze c h
  · obtain ⟨c₀, h₀, rfl⟩ := List.mem_map.1 h
    exact hanalyze c₀ h₀

theorem handleNewVersion_undigested (q : FirmwareCheckDataProcessor) (hne : q.componentList ≠ [])
    (hv : ∀ c ∈ q.componentList, c.versionId = "") :
    Keeps (Undigested calculateHashCode) (Undigested calculateHashCode)
      (FirmwareProgram.FirmwareCheckDataProcessor.handleNewVersion calculateHashCode q) := by
  have hne' : FirmwareCheckDataProcessor.buildComponentSPath q.componentList ≠ [] := fun he =>
    hne (List.map_eq_nil_iff.1 he)
  have hv' : ∀ c ∈ FirmwareCheckDataProcessor.buildComponentSPath q.componentList, c.versionId = "" := by
    intro c hc
    obtain ⟨c₀, h₀, rfl⟩ := List.mem_map.1 hc
    exact hv c₀ h₀
  refine undigested_rules.firmwareRules.handleNewVersion rfl clear_undigested (fun _ h => .cleared h)
    (fun d ht hc => ⟨hc ▸ hv', fun task h => ?_⟩) fun d ht hc => ⟨hc ▸ hv', fun task h => ?_⟩
  · rw [ht] at h
    cases h
  · rw [ht] at h
    obtain rfl := List.mem_singleton.1 h
    exact buildTaskId_of_empty hne' hv'

end FirmwareDevice

namespace FirmwareService
open FirmwareDevice
variable {p : JsonPlatform} {calculateHashCode : String → String}

theorem undigested_preserved :
    (lts p calculateHashCode).Preserved fun s => s.WellFormed ∧ s.device.Undigested calculateHashCode := by
  intro s action s' hs h
  have hrestart : ∀ d : FirmwareDevice, d.Undigested calculateHashCode → d.restarted.Undigested calculateHashCode :=
    fun _ hd => ⟨hd.versionId, hd.taskId⟩
  refine ⟨wellFormed_preserved s action s' hs h.1, device_step hs (fun call m hm _ => ?_) hrestart hrestart h.2⟩
  refine undigested_rules.keeps_call h.1 hm (fun q content hq hne => handleNewVersion_undigested q hne fun c hc => ?_)
    (fun _ => trivial) fun _ => ⟨trivial, trivial⟩
  rw [hq] at hc
  exact versionId_checkComponents hc

/-- From empty tables, whatever the server has offered in a run: every task has the digest of the empty string, and so
has every version that a check or a query of the task tells the application of. -/
theorem versionDigest_const {d : FirmwareDevice} {as : List FirmwareAction} {s : FirmwareService} (h₀ : d.Cleared)
    (h : (lts p calculateHashCode).Run { device := d } as s) :
    (∀ task ∈ s.device.taskTable, task.taskId = calculateHashCode "") ∧
    (∀ body ∈ FirmwareProgram.UpdateServiceImplFirmware.getTaskInfo.answer s.device,
      body.versionDigestInfo.versionDigest = calculateHashCode "") ∧
    ∀ env q result,
      (FirmwareProgram.FirmwareCheckDataProcessor.buildCheckResult calculateHashCode env q).answer s.device = result →
      result.isExistNewVersion = true →
        result.newVersionInfo.versionDigestInfo.versionDigest = calculateHashCode "" := by
  obtain ⟨-, hd⟩ := h.invariant undigested_preserved ⟨wellFormed_off d, .cleared h₀⟩
  refine ⟨hd.taskId, fun body hb => ?_, ?_⟩
  · unfold FirmwareProgram.UpdateServiceImplFirmware.getTaskInfo FirmwareProgram.FirmwareTaskOperator.queryTask at hb
    rw [answer_bind, answer_read, answer_pure] at hb
    cases ht : s.device.taskTable with
    | nil =>
      rw [ht] at hb
      cases hb
    | cons task rest =>
      rw [ht] at hb
      obtain rfl := Option.some.inj hb
      exact hd.taskId task (ht ▸ List.mem_cons_self)
  · rintro env q _ rfl hnew
    unfold FirmwareProgram.FirmwareCheckDataProcessor.buildCheckResult
      FirmwareProgram.FirmwareComponentOperator.queryAll at hnew ⊢
    split at hnew
    · cases hnew
    · rename_i hfail
      rw [if_neg hfail]
      rw [answer_bind, answer_read] at hnew ⊢
      split at hnew
      · cases hnew
      · rename_i hne
        rw [if_neg hne]
        exact buildTaskId_of_empty hne hd.versionId

theorem versionDigest_const_firstCheck :
    ∃ s, (lts onePackage id).Run {} (firstCheck.map .run) s ∧ s.device.taskTable ≠ [] ∧
      ∀ task ∈ s.device.taskTable, task.taskId = "" :=
  ⟨_, Lts.run_ofPartial_get (by rfl), by decide +kernel,
    (versionDigest_const ⟨rfl, rfl⟩ (Lts.run_ofPartial_get (by rfl))).1⟩

end FirmwareService

end UpdateService
