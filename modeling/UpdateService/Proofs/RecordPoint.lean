import UpdateService.StreamInstaller

/-!
# The restart point of a stream install

What an installer has dealt with is added up in the component that the callback refers to and is stored with
each report, and an attempt begins with what `QueryByUrl` reads. The ledger adds the reports up on its own,
over restarts of the process too. `Kept` says that the rows and the component agree with the ledger as 32-bit
numbers, which is all that the store keeps.
-/

namespace UpdateService

theorem castInt32_add_congr {a b : Int} (h : castInt32 a = castInt32 b) (n : Int) :
    castInt32 (a + n) = castInt32 (b + n) := by
  unfold castInt32 at h ⊢
  rw [← Int.bmod_add_bmod, h, Int.bmod_add_bmod]

theorem castInt32_natCast_eq_iff {n : Nat} : castInt32 n = n ↔ n < 2 ^ 31 := by
  unfold castInt32
  rw [Int.bmod_def]
  split <;> omega

namespace FirmwareComponentOperator
variable {table : List FirmwareComponent} {c : FirmwareComponent} {url : String}

/-- No other column of any row is changed by the store of a restart point. -/
theorem updateRecordPointByUrl_frame (url : String) (recordPoint : Int) (table : List FirmwareComponent) :
    (updateRecordPointByUrl url recordPoint table).map (fun c => { c with recordPoint := 0 }) =
      table.map fun c => { c with recordPoint := 0 } :=
  List.map_updateWhere fun _ => rfl

theorem mem_updateRecordPointByUrl {recordPoint : Int} (h : c ∈ updateRecordPointByUrl url recordPoint table) :
    ∃ c₀ ∈ table, c.url = c₀.url ∧ c.recordPoint = if c.url = url then castInt32 recordPoint else c₀.recordPoint := by
  obtain ⟨c₀, hc₀, rfl⟩ := List.mem_updateWhere.1 h
  refine ⟨c₀, hc₀, ?_⟩
  by_cases hurl : c₀.url = url <;> simp [hurl]

theorem map_url_updateRecordPointByUrl (recordPoint : Int) :
    (updateRecordPointByUrl url recordPoint table).map (·.url) = table.map (·.url) :=
  List.map_updateWhere fun _ => rfl

theorem mem_updateProgressByUrl {status : UpgradeStatus} {progress : Int}
    (h : c ∈ updateProgressByUrl url status progress table) :
    ∃ c₀ ∈ table, c.url = c₀.url ∧ c.recordPoint = c₀.recordPoint := by
  obtain ⟨c₀, hc₀, rfl⟩ := List.mem_updateWhere.1 h
  refine ⟨c₀, hc₀, ?_⟩
  split <;> exact ⟨rfl, rfl⟩

theorem map_url_updateProgressByUrl (status : UpgradeStatus) (progress : Int) :
    (updateProgressByUrl url status progress table).map (·.url) = table.map (·.url) :=
  List.map_updateWhere fun _ => rfl

/-- The statements of a loop over components, as `DoInstall` has it, change neither urls nor restart points. -/
theorem foldl_updateProgressByUrl (status : UpgradeStatus) (progress : Int) (components : List FirmwareComponent) :
    ∀ table : List FirmwareComponent,
      (components.foldl (fun table c => updateProgressByUrl c.url status progress table) table).map (·.url) = table.map (·.url) ∧
      ∀ c ∈ components.foldl (fun table c => updateProgressByUrl c.url status progress table) table,
        ∃ c₀ ∈ table, c.url = c₀.url ∧ c.recordPoint = c₀.recordPoint := by
  induction components with
  | nil => exact fun table => ⟨rfl, fun c hc => ⟨c, hc, rfl, rfl⟩⟩
  | cons a components ih =>
    intro table
    obtain ⟨hurl, hrow⟩ := ih (updateProgressByUrl a.url status progress table)
    refine ⟨hurl.trans (map_url_updateProgressByUrl status progress), fun c hc => ?_⟩
    obtain ⟨c₁, hc₁, hurl₁, hpoint₁⟩ := hrow c hc
    obtain ⟨c₀, hc₀, hurl₀, hpoint₀⟩ := mem_updateProgressByUrl hc₁
    exact ⟨c₀, hc₀, hurl₁.trans hurl₀, hpoint₁.trans hpoint₀⟩

theorem queryByUrl_eq_some (h : queryByUrl url table = some c) : c ∈ table ∧ c.url = url :=
  ⟨List.mem_of_find?_eq_some h, by simpa using List.find?_some h⟩

theorem exists_queryByUrl (h : url ∈ table.map (·.url)) : ∃ c, queryByUrl url table = some c := by
  obtain ⟨c, hc, rfl⟩ := List.mem_map.1 h
  rw [← Option.isSome_iff_exists, queryByUrl, List.find?_isSome]
  exact ⟨c, hc, by simp⟩

end FirmwareComponentOperator

inductive StreamSystemOp
  | step (op : StreamInstallOp)
  /-- A new installer, of the same process or of the next one, begins with what the tables hold. -/
  | restart

namespace StreamInstall

def start (taskTable : List FirmwareTask) (componentTable : List FirmwareComponent) : StreamInstall where
  execution := (FirmwareInstallExecutor.doInstall { installType := .streamInstaller, taskTable, componentTable }).1

def systemStep (s : StreamInstall) : StreamSystemOp → Option StreamInstall
  | .step op => s.step op
  | .restart => some (start s.execution.taskTable s.execution.componentTable)

def systemLts : Lts StreamInstall StreamSystemOp := .ofPartial systemStep

/-- The sum of the reported lengths by url. -/
def addDealt (dealt : String → Nat) (s : StreamInstall) (op : StreamSystemOp) (_ : StreamInstall) : String → Nat :=
  match op with
  | .step (.deliver r _) => fun url => if url = s.component.url then dealt url + r.dealLen else dealt url
  | _ => dealt

/-- The callback may report, or an attempt is on its way to set it. -/
def isReady (s : StreamInstall) : Bool :=
  s.isCallbackSet || match s.pc with
    | .init _ _ | .updateStatus _ _ | .setup _ _ => true
    | _ => false

structure Kept (s : StreamInstall) (dealt : String → Nat) : Prop where
  installType : s.execution.installType = .streamInstaller
  place : ∀ i, s.pc.place = some i → i < s.execution.components.length
  found : ∀ c ∈ s.execution.components, c.url ∈ s.execution.componentTable.map (·.url)
  rows : ∀ c ∈ s.execution.componentTable, c.recordPoint = castInt32 (dealt c.url)
  component : s.isReady = true → castInt32 s.component.recordPoint = castInt32 (dealt s.component.url)

namespace Kept
variable {s s' : StreamInstall} {dealt : String → Nat} {op : StreamInstallOp}

theorem start {taskTable : List FirmwareTask} {componentTable : List FirmwareComponent}
    (hrows : ∀ c ∈ componentTable, c.recordPoint = castInt32 (dealt c.url)) :
    Kept (start taskTable componentTable) dealt := by
  by_cases hnil : componentTable = []
  · subst hnil
    refine ⟨rfl, fun i hi => ?_, fun c hc => ?_, fun c hc => ?_, fun hr => ?_⟩
    · cases hi
    · cases hc
    · cases hc
    · cases hr
  obtain ⟨hurl, hrow⟩ :=
    FirmwareComponentOperator.foldl_updateProgressByUrl .installing 0 componentTable componentTable
  set table := componentTable.foldl (fun table c => FirmwareComponentOperator.updateProgressByUrl c.url .installing 0 table)
    componentTable with htable
  obtain ⟨tasks, taskTable', hstart⟩ : ∃ tasks taskTable', StreamInstall.start taskTable componentTable =
      { execution := { installType := .streamInstaller, components := componentTable, tasks, taskTable := taskTable',
                       componentTable := table } } := by
    unfold StreamInstall.start FirmwareInstallExecutor.doInstall
    dsimp only
    rw [if_neg hnil]
    exact ⟨_, _, rfl⟩
  rw [hstart]
  refine ⟨rfl, fun i hi => ?_, fun c hc => ?_, fun c hc => ?_, fun hr => ?_⟩
  · cases hi
  · show c.url ∈ table.map (·.url)
    rw [hurl]
    exact List.mem_map_of_mem hc
  · obtain ⟨c₀, hc₀, hurl₀, hpoint₀⟩ := hrow c hc
    rw [hpoint₀, hurl₀]
    exact hrows c₀ hc₀
  · cases hr

theorem keep (h : Kept s dealt) (hexec : s'.execution = s.execution) (hcomponent : s'.component = s.component)
    (hplace : ∀ i, s'.pc.place = some i → i < s.execution.components.length)
    (hready : s'.isReady = true → s.isReady = true) :
    Kept s' dealt where
  installType := hexec ▸ h.installType
  place i hi := hexec ▸ hplace i hi
  found := hexec ▸ h.found
  rows := hexec ▸ h.rows
  component hr := hcomponent ▸ h.component (hready hr)

theorem resetAttempt (h : Kept s dealt) {i : Nat} (retry : Nat) (hi : i < s.execution.components.length) :
    Kept (s.resetAttempt i retry) dealt := by
  refine ⟨h.installType, fun k hk => ?_, h.found, h.rows, fun _ => ?_⟩
  · obtain rfl : i = k := Option.some.inj hk
    exact hi
  · obtain ⟨c, hc⟩ := FirmwareComponentOperator.exists_queryByUrl (h.found _ (List.getElem_mem hi))
    have hrefresh : refreshComponent i s.execution = c := by
      rw [refreshComponent, List.getElem?_eq_getElem hi, Option.bind_some, hc, Option.getD_some]
    show castInt32 (refreshComponent i s.execution).recordPoint = castInt32 (dealt (refreshComponent i s.execution).url)
    rw [hrefresh, h.rows c (FirmwareComponentOperator.queryByUrl_eq_some hc).1]
    exact Int.bmod_bmod

theorem componentDone (h : Kept s dealt) (i : Nat) (b : Bool) : Kept (s.componentDone i b) dealt := by
  by_cases hlast : i + 1 < s.execution.components.length
  · have hpc : (s.componentDone i b).pc = .attempt (i + 1) 0 := if_pos hlast
    refine h.keep rfl rfl (fun k hk => ?_) (fun hr => ?_)
    · rw [hpc] at hk
      obtain rfl := Option.some.inj hk
      exact hlast
    · rw [isReady, hpc, Bool.or_false] at hr
      exact Bool.or_eq_true_iff.2 (.inl hr)
  · have hpc : (s.componentDone i b).pc = .loopEnd := if_neg hlast
    refine h.keep rfl rfl (fun k hk => ?_) (fun hr => ?_)
    · rw [hpc] at hk
      cases hk
    · rw [isReady, hpc, Bool.or_false] at hr
      exact Bool.or_eq_true_iff.2 (.inl hr)

theorem deliver (h : Kept s dealt) (hset : s.isCallbackSet = true) (r : InstallProgress) (percent : Int) :
    Kept (s.deliver r percent) (addDealt dealt s (.step (.deliver r percent)) (s.deliver r percent)) := by
  have hstream := h.installType
  set url := s.component.url
  set recordPoint := s.component.recordPoint + r.dealLen
  have hpoint : castInt32 recordPoint = castInt32 ((dealt url + r.dealLen : Nat) : Int) := by
    rw [Int.natCast_add]
    exact castInt32_add_congr (h.component (by rw [isReady, hset, Bool.true_or])) r.dealLen
  obtain ⟨status, progress, htable⟩ : ∃ status progress, (s.deliver r percent).execution.componentTable =
      FirmwareComponentOperator.updateRecordPointByUrl url recordPoint
        (FirmwareComponentOperator.updateProgressByUrl url status progress s.execution.componentTable) := by
    unfold StreamInstall.deliver FirmwareInstallExecutor.handleInstallProgress
    dsimp only
    rw [if_pos hstream]
    exact ⟨_, _, rfl⟩
  obtain ⟨htype, hcomponents, -⟩ :=
    FirmwareInstallExecutor.handleInstallProgress_keeps (s.deliver r percent).component s.execution
  refine ⟨htype.trans hstream, fun i hi => ?_, fun c hc => ?_, fun c hc => ?_, fun _ => ?_⟩
  · have hlt := h.place i hi
    rw [← hcomponents] at hlt
    exact hlt
  · rw [htable, FirmwareComponentOperator.map_url_updateRecordPointByUrl,
      FirmwareComponentOperator.map_url_updateProgressByUrl]
    exact h.found c (hcomponents ▸ hc)
  · rw [htable] at hc
    obtain ⟨c₁, hc₁, hurl₁, hpoint₁⟩ := FirmwareComponentOperator.mem_updateRecordPointByUrl hc
    obtain ⟨c₀, hc₀, hurl₀, hpoint₀⟩ := FirmwareComponentOperator.mem_updateProgressByUrl hc₁
    rw [hpoint₁]
    show _ = castInt32 ((if c.url = url then dealt c.url + r.dealLen else dealt c.url : Nat) : Int)
    by_cases hurl : c.url = url
    · rw [if_pos hurl, if_pos hurl, hurl]
      exact hpoint
    · rw [if_neg hurl, if_neg hurl, hpoint₀, h.rows c₀ hc₀, hurl₁, hurl₀]
  · show castInt32 recordPoint = castInt32 ((if url = url then dealt url + r.dealLen else dealt url : Nat) : Int)
    rw [if_pos rfl]
    exact hpoint

/-- A step that neither reports nor sets the callback, from one place to another of the same component. -/
theorem move (h : Kept s dealt) (hexec : s'.execution = s.execution) (hcomponent : s'.component = s.component)
    (hplace : s'.pc.place = s.pc.place) (hready : s'.isReady = true → s.isReady = true) : Kept s' dealt :=
  h.keep hexec hcomponent (fun i hi => h.place i (hplace ▸ hi)) hready

theorem step (h : Kept s dealt) (hs : s.step op = some s') : Kept s' (addDealt dealt s (.step op) s') := by
  have hset : ∀ r percent, op = .deliver r percent → s.isCallbackSet = true := by
    rintro r percent rfl
    simp only [StreamInstall.step] at hs
    split at hs
    · assumption
    · cases hs
  cases step_cases hs with
  | noComponent hpc hnil => exact h.keep rfl rfl (fun i hi => by cases hi) (by simp [isReady, hpc])
  | first hpc hne =>
    refine h.keep rfl rfl (fun i hi => ?_) (by simp [isReady, hpc])
    obtain rfl := Option.some.inj hi
    exact List.length_pos_of_ne_nil hne
  | beginAttempt i retry hpc => exact h.resetAttempt retry (h.place i (by rw [hpc]; rfl))
  | initialized i retry hpc | initFail i retry hpc | idle i retry hpc | busy i retry hpc | set i retry hpc
  | setFail i retry _ hpc | started i retry hpc | startFail i retry _ hpc | download i retry hpc
  | downloadFail i retry _ hpc | wake i retry hpc _ | timeout i retry hpc | retry i retry hpc _ =>
    exact h.move rfl rfl (by rw [hpc]; rfl) (by simp [isReady, fail, stopDownload, hpc])
  | installed i retry hpc => exact h.componentDone i true
  | giveUp i retry hpc => exact h.componentDone i false
  | assignStatus hpc => exact h.keep rfl rfl (fun i hi => by cases hi) (by simp [isReady, hpc])
  | callbackResult result indeterminate hpc =>
    refine ⟨h.installType, fun i hi => ?_, h.found, h.rows, fun hr => h.component ?_⟩
    · cases hi
    · simpa [isReady, hpc] using hr
  | deliver r percent => exact h.deliver (hset r percent rfl) r percent
  | downloadEnd e hrun => cases e <;> exact h.move rfl rfl rfl id
  | cancel => exact h.move rfl rfl rfl id

end Kept

theorem kept_run {taskTable : List FirmwareTask} {componentTable : List FirmwareComponent}
    (hzero : ∀ c ∈ componentTable, c.recordPoint = 0) {ops : List StreamSystemOp} {s : StreamInstall}
    {dealt : String → Nat}
    (h : (systemLts.observe addDealt).Run (start taskTable componentTable, fun _ => 0) ops (s, dealt)) :
    Kept s dealt := by
  have hinv : (systemLts.observe addDealt).Preserved fun x => Kept x.1 x.2 := by
    intro x op y hs hx
    rw [hs.2]
    cases op with
    | step op => exact hx.step hs.1
    | restart =>
      show Kept y.1 x.2
      rw [← show start _ _ = y.1 from Option.some.inj hs.1]
      exact .start hx.rows
  have h₀ : Kept (start taskTable componentTable) fun _ => 0 := by
    refine .start fun c hc => ?_
    rw [hzero c hc]
    exact (castInt32_natCast_eq_iff.2 (by decide)).symm
  have hs := h.invariant hinv h₀
  exact hs

def twoGigabytes : FirmwareComponent where
  url := "u"
  size := 2 ^ 31
  status := .downloadSuccess

def twoReports : List StreamSystemOp :=
  [.step .performInstall, .step .beginAttempt, .step (.sysInstallerInit true), .step (.getUpdateStatus true),
    .step (.setUpdateCallback 0), .step (.deliver { progress := { status := .installing }, dealLen := 2 ^ 30 } 50),
    .step (.deliver { progress := { status := .installing }, dealLen := 2 ^ 30 } 100)]

end StreamInstall

end UpdateService
