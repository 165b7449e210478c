import UpdateService.NetManager

/-!
# A change of the network reaches every callback

The loop of `OnNetChange` does not advance its iterator past an entry without a function. `RegisterCallback` takes
such an entry, and where its types hold the new one the loop goes round it for ever.
-/

namespace UpdateService

namespace NetManager
variable {F : Type} {m m' : NetManager F} {netType : NetType} {ops : List (Op F)}
  {entries : List (NetChangeCallbackType × NetChangeCallback F)} {calls r : List (F × NetType)}

/-- The functions with the new type, in the order of the entries, each called once. -/
def listening (netType : NetType) (entries : List (NetChangeCallbackType × NetChangeCallback F)) : List (F × NetType) :=
  (entries.filter fun entry => netType ∈ entry.2.netTypes).filterMap fun entry =>
    entry.2.function.map fun function => (function, netType)

/-- An entry that the loop does not get past. -/
def Stuck (netType : NetType) (entry : NetChangeCallbackType × NetChangeCallback F) : Prop :=
  netType ∈ entry.2.netTypes ∧ entry.2.function = none

/-! ### The loop -/

theorem notify_of_stuck {entry : NetChangeCallbackType × NetChangeCallback F} (h : Stuck netType entry) :
    notify netType (entry :: entries, calls) = .inl (entry :: entries, calls) := by
  rw [notify, if_pos h.1, h.2]

theorem notify_of_not_stuck {entry : NetChangeCallbackType × NetChangeCallback F} (h : ¬ Stuck netType entry) :
    notify netType (entry :: entries, calls) = .inl (entries, calls ++ listening netType [entry]) := by
  rw [notify, listening]
  split
  · rename_i hmem
    cases hf : entry.2.function with
    | none => exact absurd ⟨hmem, hf⟩ h
    | some function => simp [hmem, hf]
  · rename_i hmem
    simp [hmem]

theorem returns_notify_iff : Loop.Returns (notify netType) (entries, calls) r ↔
    (∀ entry ∈ entries, ¬ Stuck netType entry) ∧ r = calls ++ listening netType entries := by
  induction entries generalizing calls with
  | nil => simp [Loop.returns_of_inr (show notify netType (([] : List _), calls) = .inr calls from rfl), listening]
  | cons entry entries ih =>
    rw [List.forall_mem_cons]
    by_cases h : Stuck netType entry
    · refine iff_of_false ?_ fun hno => hno.1.1 h
      exact Loop.not_returns (I := (· = (entry :: entries, calls))) (fun s hs => ⟨s, hs ▸ notify_of_stuck h, hs⟩) rfl
    · have happend : listening netType (entry :: entries) = listening netType [entry] ++ listening netType entries := by
        rw [listening, listening, listening, ← List.filterMap_append, ← List.filter_append, List.singleton_append]
      rw [Loop.returns_of_inl (notify_of_not_stuck h), ih, happend, List.append_assoc, and_iff_right h]

theorem onNetChange_eq_some_iff (hbase : isBaseNetType netType = true) (hne : netType ≠ m.netType) {ret : Bool} :
    (∃ fuel, m.onNetChange fuel netType = some (ret, m', r)) ↔ (ret = true ∧ m' = { m with netType }) ∧
      (∀ entry ∈ m.netChangeCallbackMap.entries, ¬ Stuck netType entry) ∧
      r = listening netType m.netChangeCallbackMap.entries := by
  have heq : ∀ fuel, m.onNetChange fuel netType = some (ret, m', r) ↔ (ret = true ∧ m' = { m with netType }) ∧
      Loop.run (notify netType) fuel (m.netChangeCallbackMap.entries, []) = some r := by
    intro fuel
    rw [onNetChange, if_neg (by simp [hbase]), if_neg hne]
    cases Loop.run (notify netType) fuel (m.netChangeCallbackMap.entries, []) with
    | none => simp
    | some calls => simp [eq_comm, and_assoc]
  simp only [heq, exists_and_left, ← Loop.returns_iff_run, returns_notify_iff, List.nil_append]

/-! ### The map -/

theorem ordered_registerCallback (h : m.netChangeCallbackMap.Ordered) (callbackType : NetChangeCallbackType)
    (netTypes : List NetType) (cb : Option F) :
    (m.registerCallback callbackType netTypes cb).2.netChangeCallbackMap.Ordered := by
  unfold registerCallback
  split
  · exact h
  split
  · exact h
  dsimp only
  split <;> exact h.insert _

theorem map_onNetChange {fuel : Nat} {ret : Bool} (h : m.onNetChange fuel netType = some (ret, m', calls)) :
    m'.netChangeCallbackMap = m.netChangeCallbackMap := by
  unfold onNetChange at h
  split at h
  · cases h
    rfl
  split at h
  · cases h
    rfl
  · obtain ⟨_, -, he⟩ := Option.map_eq_some_iff.1 h
    cases he
    rfl

theorem ordered_of_run (h : lts.Run ({} : NetManager F) ops m) : m.netChangeCallbackMap.Ordered := by
  have hpreserved : (lts : Lts (NetManager F) (Op F)).Preserved fun m => m.netChangeCallbackMap.Ordered := by
    intro m op m' hs hm
    cases hs with
    | registerCallback callbackType netTypes cb => exact ordered_registerCallback hm callbackType netTypes cb
    | unregisterCallback callbackType => exact hm.erase _
    | onNetChange h => exact (map_onNetChange h).symm ▸ hm
  exact h.invariant (I := fun m => m.netChangeCallbackMap.Ordered) hpreserved KeyedList.ordered_empty

/-- The change ends with the callbacks that listen to the new type called, each once and in the order of the map. -/
structure NotifiesAll (m : NetManager F) (netType : NetType) : Prop where
  ordered : m.netChangeCallbackMap.Ordered
  ends : ∃ fuel, m.onNetChange fuel netType =
    some (true, { m with netType }, listening netType m.netChangeCallbackMap.entries)

theorem notifiesAll_iff (h : lts.Run ({} : NetManager F) ops m) (hbase : isBaseNetType netType = true)
    (hne : netType ≠ m.netType) :
    NotifiesAll m netType ↔
      ∀ entry ∈ m.netChangeCallbackMap.entries, netType ∈ entry.2.netTypes → entry.2.function ≠ none := by
  have hends : (∃ fuel, m.onNetChange fuel netType =
      some (true, { m with netType }, listening netType m.netChangeCallbackMap.entries)) ↔ _ :=
    onNetChange_eq_some_iff hbase hne
  have hstuck : (∀ entry ∈ m.netChangeCallbackMap.entries, ¬ Stuck netType entry) ↔
      ∀ entry ∈ m.netChangeCallbackMap.entries, netType ∈ entry.2.netTypes → entry.2.function ≠ none :=
    forall₂_congr fun _ _ => not_and
  rw [← hstuck]
  constructor
  · intro hall
    exact (hends.1 hall.ends).2.1
  · intro hno
    exact ⟨ordered_of_run h, hends.2 ⟨⟨rfl, rfl⟩, hno, rfl⟩⟩

/-- Two callbacks listen to the cellular network, a third one without a function does not. -/
theorem notifiesAll_two : ∃ m, lts.Run ({} : NetManager String)
      [.registerCallback .commonDownload [.noNet, .cellular] (some "download"),
        .registerCallback .paramAutoUpgrade [.meteredWifi] none,
        .registerCallback .hotaDownload [.cellular] (some "hota")] m ∧ NotifiesAll m .cellular ∧
      listening .cellular m.netChangeCallbackMap.entries = [("hota", .cellular), ("download", .cellular)] := by
  have hrun := Lts.Run.cons (L := lts) (Step.registerCallback ({} : NetManager String) .commonDownload [.noNet, .cellular]
      (some "download")) (.cons (Step.registerCallback _ .paramAutoUpgrade [.meteredWifi] none)
      (.single (Step.registerCallback _ .hotaDownload [.cellular] (some "hota"))))
  exact ⟨_, hrun, (notifiesAll_iff hrun rfl (by decide)).2 (by decide), by decide⟩

/-- A callback without a function is taken, and the change that it is for never ends. -/
theorem not_notifiesAll : ∃ m, lts.Run ({} : NetManager String) [.registerCallback .commonDownload [.cellular] none] m ∧
    (∀ fuel, m.onNetChange fuel .cellular = none) ∧ ¬ NotifiesAll m .cellular := by
  have hrun := Lts.Run.single (L := lts) (Step.registerCallback ({} : NetManager String) .commonDownload [.cellular] none)
  refine ⟨_, hrun, ?_⟩
  have hnone : ∀ fuel, (({} : NetManager String).registerCallback .commonDownload [.cellular] none).2.onNetChange fuel
      .cellular = none := by
    intro fuel
    rw [Option.eq_none_iff_forall_ne_some]
    rintro ⟨ret, m', calls⟩ hsome
    obtain ⟨-, hno, -⟩ := (onNetChange_eq_some_iff rfl (by decide)).1 ⟨fuel, hsome⟩
    exact hno (.commonDownload, ⟨[.cellular], none⟩) (by decide) ⟨by decide, rfl⟩
  refine ⟨hnone, fun h => ?_⟩
  obtain ⟨fuel, hfuel⟩ := h.ends
  rw [hnone fuel] at hfuel
  cases hfuel

end NetManager

end UpdateService
