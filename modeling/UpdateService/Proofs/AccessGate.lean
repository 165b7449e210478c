import UpdateService.CallbackEnter
import UpdateService.Proofs.UnlockOnce

/-!
# What is let in

Without an extension a request that is no reset and no local update is let in only when a user has been unlocked. What
has been let in once is not turned away for the lock any more, and an extension that has a code keeps it.
-/

namespace UpdateService

/-- Where a thread is only when a user has been unlocked. -/
def UnlockPc.hasSeen : UnlockPc → Bool
  | tryNotify | onUnlocked | submit => true
  | _ => false

namespace UpdateUserUnlockObserver
open UserAccountHelper
variable {s s' : UpdateUserUnlockObserver} {op : UnlockOp} {isOk : Bool} {pc : UnlockPc}

/-- No user has been unlocked, and nothing says so. -/
structure Locked (s : UpdateUserUnlockObserver) : Prop where
  unlocked : ∀ userId, s.unlocked userId = false
  events : s.events = []
  threads : ∀ pc ∈ s.threads, pc.hasSeen = false
  initialized : s.initialized = false

theorem isActiveUserUnlocked_of_locked (h : s.Locked) (userId : Int) :
    isActiveUserUnlocked userId isOk s.unlocked = false := by
  unfold isActiveUserUnlocked
  rw [h.unlocked]
  split_ifs <;> rfl

/-- What a step of a thread does to what is told of the unlocking. -/
theorem told_advance (isOk : Bool) (pc : UnlockPc) (s : UpdateUserUnlockObserver) :
    (s.advance isOk pc).1.events = s.events ∧
      (s.advance isOk pc).1.initialized = (s.initialized || pc = .tryNotify) := by
  cases pc with
  | firstCheck userId | secondCheck userId =>
    unfold UpdateUserUnlockObserver.advance
    dsimp only
    split <;> exact ⟨rfl, (Bool.or_false _).symm⟩
  | register userId =>
    unfold UpdateUserUnlockObserver.advance registerUserUnlockListener
    dsimp only
    split
    · exact ⟨rfl, (Bool.or_false _).symm⟩
    · split <;> exact ⟨rfl, (Bool.or_false _).symm⟩
  | tryNotify =>
    unfold UpdateUserUnlockObserver.advance
    dsimp only
    split
    · rename_i hinit
      exact ⟨rfl, by rw [hinit]; rfl⟩
    · exact ⟨rfl, (Bool.or_true _).symm⟩
  | unregister =>
    unfold UpdateUserUnlockObserver.advance unregisterUserUnlockListener
    dsimp only
    split <;> exact ⟨rfl, (Bool.or_false _).symm⟩
  | _ => exact ⟨rfl, (Bool.or_false _).symm⟩

/-- A thread that has not seen a user unlocked does not see one. -/
theorem Locked.advance (h : s.Locked) (hpc : pc.hasSeen = false) :
    ∀ pc' ∈ (s.advance isOk pc).2, pc'.hasSeen = false := by
  cases pc with
  | tryNotify | onUnlocked | submit => cases hpc
  | firstCheck userId | secondCheck userId =>
    have hunlocked : isActiveUserUnlocked userId isOk s.unlocked = false := isActiveUserUnlocked_of_locked h userId
    simp [UpdateUserUnlockObserver.advance, hunlocked, UnlockPc.hasSeen]
  | getActiveUserId | register userId => exact List.forall_mem_singleton.2 rfl
  | unregister => exact List.forall_mem_nil _

theorem Locked.step (h : s.Locked) (hs : s.step op = some s') (hop : ∀ userId, op ≠ .unlock userId) : s'.Locked := by
  cases op with
  | run thread isOk =>
    obtain ⟨pc, hpc, rfl⟩ := run_of_step hs
    have hseen : pc.hasSeen = false := h.threads pc (List.mem_of_getElem? hpc)
    obtain ⟨hevents, hinit⟩ := told_advance isOk pc s
    refine ⟨fun userId => ?_, hevents.trans h.events, fun pc' hmem => ?_, hinit.trans ?_⟩
    · exact (congrFun (advance_frame isOk pc s).2.2.1 userId).trans (h.unlocked userId)
    · rcases List.mem_append.1 hmem with hmem | hmem
      · exact h.threads pc' (List.mem_of_mem_eraseIdx hmem)
      · exact h.advance hseen pc' hmem
    · have hne : pc ≠ .tryNotify := fun he => by rw [he] at hseen; cases hseen
      rw [h.initialized, decide_eq_false hne, Bool.or_false]
  | start | stop =>
    obtain rfl := Option.some.inj hs
    refine ⟨h.unlocked, h.events, fun pc hmem => ?_, h.initialized⟩
    rcases List.mem_append.1 hmem with hmem | hmem
    · exact h.threads pc hmem
    · rw [List.mem_singleton.1 hmem]
      rfl
  | unlock userId => exact absurd rfl (hop userId)
  | lock userId =>
    obtain rfl := Option.some.inj hs
    refine ⟨fun userId' => ?_, h.events, h.threads, h.initialized⟩
    simp [Function.update_apply, h.unlocked]
  | switchUser userId =>
    obtain rfl := Option.some.inj hs
    exact ⟨h.unlocked, h.events, h.threads, h.initialized⟩
  | deliver subscriber =>
    have hmem := (deliver_of_step hs).1
    rw [h.events] at hmem
    cases hmem
  | drop subscriber =>
    have hmem := (drop_of_step hs).1.1
    rw [h.events] at hmem
    cases hmem

/-- `initialized_` is never taken back. -/
theorem initialized_of_step (h : s.initialized = true) (hs : s.step op = some s') : s'.initialized = true := by
  cases op with
  | run thread isOk =>
    obtain ⟨pc, -, rfl⟩ := run_of_step hs
    exact (told_advance isOk pc s).2.trans (by rw [h, Bool.true_or])
  | deliver subscriber =>
    obtain ⟨-, rfl⟩ := deliver_of_step hs
    exact h
  | drop subscriber =>
    obtain ⟨-, rfl⟩ := drop_of_step hs
    exact h
  | _ =>
    obtain rfl := Option.some.inj hs
    exact h

end UpdateUserUnlockObserver

namespace ServiceAccess
variable {F : Type} {s s' : ServiceAccess F} {op : AccessOp F} {ops : List (AccessOp F)} {code : Nat} {caller : Caller}
  {isDisallowed : Bool}

/-- What a step can do: an extension hooks, or it may be loaded and the observer makes a step. -/
theorem step_cases (h : lts.step s op s') :
    (∃ codes f, s' = s.hookFunc codes f) ∨
    (s.isLoaded = true → s'.isLoaded = true) ∧ s'.onRemoteRequestFuncMap = s.onRemoteRequestFuncMap ∧
      (s'.userUnlockObserver = s.userUnlockObserver ∨
        ∃ o, s.userUnlockObserver.step o = some s'.userUnlockObserver ∧
          ∀ userId, o = .unlock userId → op = .observer o) := by
  have hobserver : ∀ (t : ServiceAccess F) {o : UnlockOp}, t.onObserver o = some s' →
      s'.isLoaded = t.isLoaded ∧ s'.onRemoteRequestFuncMap = t.onRemoteRequestFuncMap ∧
        t.userUnlockObserver.step o = some s'.userUnlockObserver := by
    intro t o ho
    obtain ⟨observer, hstep, rfl⟩ := Option.map_eq_some_iff.1 ho
    exact ⟨rfl, rfl, hstep⟩
  cases op with
  | onStart isOpened =>
    simp only [lts, Lts.ofPartial, step] at h
    split at h
    · rename_i hl
      obtain rfl := Option.some.inj h
      exact .inr ⟨fun _ => hl, rfl, .inl rfl⟩
    · obtain ⟨hl, hm, ho⟩ := hobserver _ h
      refine .inr ⟨fun hs => hl.trans (by rw [hs]; rfl), hm, .inr ⟨_, ho, ?_⟩⟩
      rintro _ ⟨⟩
  | onStop =>
    simp only [lts, Lts.ofPartial, step] at h
    split at h
    · obtain ⟨hl, hm, ho⟩ := hobserver _ h
      refine .inr ⟨fun hs => hl.trans hs, hm, .inr ⟨_, ho, ?_⟩⟩
      rintro _ ⟨⟩
    · obtain rfl := Option.some.inj h
      exact .inr ⟨id, rfl, .inl rfl⟩
  | hookFunc codes f => exact .inl ⟨codes, f, (Option.some.inj h).symm⟩
  | observer o =>
    simp only [lts, Lts.ofPartial, step] at h
    split at h
    · cases h
    · obtain ⟨hl, hm, ho⟩ := hobserver _ h
      exact .inr ⟨fun hs => hl.trans hs, hm, .inr ⟨o, ho, fun _ _ => rfl⟩⟩

theorem locked_preserved :
    ((lts (F := F)).guard fun _ op => ∀ userId, op ≠ .observer (.unlock userId)).Preserved fun s =>
      s.userUnlockObserver.Locked := by
  intro s op s' hs h
  rcases step_cases hs.2 with ⟨codes, f, rfl⟩ | ⟨-, -, ho | ⟨o, ho, hop⟩⟩
  · exact h
  · exact ho ▸ h
  · refine h.step ho fun userId he => ?_
    exact hs.1 userId (he ▸ hop userId he)

/-- The lock does not count for the code any more, and the function that an extension has for it stays. -/
structure Opened (code : Nat) (f : Option F) (s : ServiceAccess F) : Prop where
  opened : s.isLoaded = true ∨ isUserUnlockRequired code = false ∨ s.userUnlockObserver.initialized = true
  served : ∀ g ∈ f, s.callbackParcel code = some g

theorem callbackParcel_eq_some {f : F} : s.callbackParcel code = some f ↔
    s.isLoaded = true ∧ (s.onRemoteRequestFuncMap.find? code).map (·.2) = some f := by
  unfold callbackParcel
  split
  · rename_i h
    exact (and_iff_right h).symm
  · rename_i h
    exact ⟨fun he => (by cases he), fun he => absurd he.1 h⟩

theorem opened_preserved {f : Option F} : lts.Preserved (Opened code f) := by
  intro s op s' hs h
  rcases step_cases hs with ⟨codes, g, rfl⟩ | ⟨hl, hm, ho⟩
  · refine ⟨h.opened, fun f hf => ?_⟩
    obtain ⟨hl, hfind⟩ := callbackParcel_eq_some.1 (h.served f hf)
    obtain ⟨entry, hentry, rfl⟩ := Option.map_eq_some_iff.1 hfind
    refine callbackParcel_eq_some.2 ⟨hl, ?_⟩
    unfold hookFunc
    rw [KeyedList.find?_foldl_emplace, hentry]
    rfl
  · refine ⟨?_, fun f hf => ?_⟩
    · rcases h.opened with hopen | hopen | hopen
      · exact .inl (hl hopen)
      · exact .inr (.inl hopen)
      · rcases ho with ho | ⟨o, ho, -⟩
        · exact .inr (.inr (ho ▸ hopen))
        · exact .inr (.inr (UpdateUserUnlockObserver.initialized_of_step hopen ho))
    · obtain ⟨hload, hfind⟩ := callbackParcel_eq_some.1 (h.served f hf)
      exact callbackParcel_eq_some.2 ⟨hl hload, hm ▸ hfind⟩

theorem permissionCheck_eq_success : permissionCheck code caller isDisallowed = .success ↔
    isCallerValid caller = true ∧ caller.verifyAccessToken (permission code) = true ∧
      (code ∈ resetCodes → isDisallowed = false) := by
  unfold permissionCheck isPermissionGranted isResetDisabledByMdm
  cases isCallerValid caller <;> cases caller.verifyAccessToken (permission code) <;> cases isDisallowed <;> simp

theorem permissionCheck_ne_forbidden : permissionCheck code caller isDisallowed ≠ .forbidden := by
  unfold permissionCheck
  split_ifs <;> exact EnterResult.noConfusion

theorem callbackEnter_eq_forbidden : s.callbackEnter code caller isDisallowed = .forbidden ↔
    s.isLoaded = false ∧ isUserUnlockRequired code = true ∧ s.userUnlockObserver.initialized = false := by
  unfold callbackEnter
  have hp : permissionCheck code caller isDisallowed ≠ .forbidden := permissionCheck_ne_forbidden
  cases s.isLoaded <;> cases isUserUnlockRequired code <;> cases s.userUnlockObserver.initialized <;>
    cases s.isMapFuncExist code <;> simp [hp]

theorem permissionCheck_of_callbackEnter (h : s.callbackEnter code caller isDisallowed = .success)
    (hf : s.callbackParcel code = none) : permissionCheck code caller isDisallowed = .success := by
  unfold callbackEnter at h
  unfold callbackParcel at hf
  unfold isMapFuncExist at h
  cases hl : s.isLoaded with
  | false =>
    rw [hl] at h
    simp only [Bool.not_false, if_true] at h
    split at h
    · cases h
    · exact h
  | true =>
    rw [hl] at h hf
    rw [if_pos rfl, Option.map_eq_none_iff] at hf
    rw [hf] at h
    exact h

/-- A request that is let in is one of the extension, or its caller has the permission for it and the reset is not
disabled, and without an extension a user has been unlocked, if it is not one of those that the lock does not count
for. And from then on the lock does not count for its code, and the function that serves it stays. -/
theorem admitted {unlocked : Int → Bool} {activeUser : Int}
    (h : lts.Run { userUnlockObserver := { unlocked, activeUser } } ops s)
    (hs : s.callbackEnter code caller isDisallowed = .success) :
    (s.callbackParcel code ≠ none ∨
      (isCallerValid caller = true ∧ caller.verifyAccessToken (permission code) = true ∧
        (code ∈ resetCodes → isDisallowed = false)) ∧
      (s.isLoaded = true ∨ code ∈ exemptCodes ∨
        ∃ userId, unlocked userId = true ∨ AccessOp.observer (.unlock userId) ∈ ops)) ∧
    ∀ ops' s', lts.Run s ops' s' →
      (∀ caller' isDisallowed', s'.callbackEnter code caller' isDisallowed' ≠ .forbidden) ∧
        ∀ f, s.callbackParcel code = some f → s'.callbackParcel code = some f := by
  have hopen : s.isLoaded = true ∨ isUserUnlockRequired code = false ∨ s.userUnlockObserver.initialized = true := by
    have hne : ¬(s.isLoaded = false ∧ isUserUnlockRequired code = true ∧ s.userUnlockObserver.initialized = false) :=
      fun hf => by
        rw [callbackEnter_eq_forbidden.2 hf] at hs
        cases hs
    grind
  refine ⟨or_iff_not_imp_left.2 fun hf => ⟨?_, ?_⟩, fun ops' s' h' => ?_⟩
  · exact permissionCheck_eq_success.1 (permissionCheck_of_callbackEnter hs (not_not.1 hf))
  · rcases hopen with hopen | hopen | hopen
    · exact .inl hopen
    · exact .inr (.inl (by simpa [isUserUnlockRequired] using hopen))
    · refine .inr (.inr (by_contra fun hnone => ?_))
      -- the observer stays locked, so it has not been initialised
      have hlocked : s.userUnlockObserver.Locked := by
        have hguard : ((lts (F := F)).guard fun _ op => ∀ userId, op ≠ .observer (.unlock userId)).Run _ ops s :=
          h.to_guard fun op hop userId he => hnone ⟨userId, .inr (he ▸ hop)⟩
        refine hguard.invariant (I := fun s => s.userUnlockObserver.Locked) locked_preserved ?_
        exact ⟨fun userId => Bool.eq_false_of_not_eq_true fun he => hnone ⟨userId, .inl he⟩, rfl,
          List.forall_mem_nil _, rfl⟩
      rw [hlocked.initialized] at hopen
      cases hopen
  · have hI := h'.invariant opened_preserved (⟨hopen, fun f hf => hf⟩ : Opened code (s.callbackParcel code) s)
    refine ⟨fun caller' isDisallowed' hf => ?_, fun f hf => hI.served f hf⟩
    have := callbackEnter_eq_forbidden.1 hf
    have := hI.opened
    grind

/-- The user is unlocked after the listener has been registered. -/
def unlockedLater : List (AccessOp Unit) :=
  [.onStart false, .observer (.run 0 true), .observer (.run 0 true), .observer (.run 0 true), .observer (.run 0 true),
    .observer (.unlock 100), .observer (.deliver 0), .observer (.run 0 true)]

theorem admitted_unlockedLater :
    ∃ s : ServiceAccess Unit,
      lts.Run { userUnlockObserver := { unlocked := fun _ => false, activeUser := 100 } } unlockedLater s ∧
      s.callbackEnter UpdaterSaInterfaceCode.download.castUint
        ⟨.tokenHap, true, 100, fun permission => permission = "ohos.permission.UPDATE_SYSTEM"⟩ false = .success ∧
      ∀ ops' s', lts.Run s ops' s' → ∀ caller isDisallowed,
        s'.callbackEnter UpdaterSaInterfaceCode.download.castUint caller isDisallowed ≠ .forbidden := by
  obtain ⟨s, hrun, hs⟩ : ∃ s : ServiceAccess Unit,
      lts.Run { userUnlockObserver := { unlocked := fun _ => false, activeUser := 100 } } unlockedLater s ∧
      s.callbackEnter UpdaterSaInterfaceCode.download.castUint
        ⟨.tokenHap, true, 100, fun permission => permission = "ohos.permission.UPDATE_SYSTEM"⟩ false = .success :=
    ⟨_, Lts.run_ofPartial_get (by rfl), by rfl⟩
  exact ⟨s, hrun, hs, fun ops' s' h' => ((admitted hrun hs).2 ops' s' h').1⟩

end ServiceAccess

end UpdateService
