import UpdateService.ClientRegistry

/-!
# The registered callback stays

The ledger knows the callback of the last `RegisterUpdateCallback` of each key that has returned, as long as no other
call for the key has begun. The map loses it in two places: an insert that finds an entry, and the notice of a client
that is not the one in the entry.
-/

namespace UpdateService

namespace ClientRegistry
variable {C : Type} {s s' : ClientRegistry C} {info info' : UpgradeInfo} {callback : C}

/-! ### The map -/

@[simp] theorem getUpgradeCallback_erase : (s.erase info).getUpgradeCallback info' =
    if info' = info then none else s.getUpgradeCallback info' := by
  have hfind : (s.erase info).find info' = if info' = info then none else s.find info' := by
    rw [find, find, erase, List.find?_filter]
    split
    · rename_i h
      rw [List.find?_eq_none.2, Option.map_none]
      rintro ⟨k, p⟩ -
      simp [h]
    · rename_i h
      congr 2
      funext e
      by_cases he : e.1 = info' <;> simp [he, h]
  rw [getUpgradeCallback, getUpgradeCallback, hfind]
  split <;> rfl

theorem getUpgradeCallback_insert {clientProxy : ClientProxy C} : (s.insert info clientProxy).getUpgradeCallback info' =
    if info' = info ∧ s.getUpgradeCallback info = none then some clientProxy.proxy else s.getUpgradeCallback info' := by
  have hnone : s.getUpgradeCallback info = none ↔ s.find info = none := Option.map_eq_none_iff
  by_cases hfind : s.find info = none
  · have happend : (s.insert info clientProxy).find info' =
        (s.find info').or (if info' = info then some clientProxy else none) := by
      rw [insert, if_pos hfind, find, find, List.find?_append, Option.map_or]
      by_cases h : info = info' <;> simp [h, eq_comm]
    rw [getUpgradeCallback, happend, Option.map_or]
    by_cases h : info' = info
    · obtain rfl := h
      rw [if_pos rfl, hfind, if_pos ⟨rfl, hnone.2 hfind⟩]
      rfl
    · rw [if_neg (mt And.left h), if_neg h, Option.map_none, Option.or_none]
      rfl
  · rw [insert, if_neg hfind, if_neg (mt And.right (mt hnone.1 hfind))]

variable [DecidableEq C]

theorem getUpgradeCallback_unregisterUpdateCallback : (s.unregisterUpdateCallback info).getUpgradeCallback info' =
    if info' = info then none else s.getUpgradeCallback info' := by
  rw [unregisterUpdateCallback]
  split
  · rename_i hfind
    split
    · rename_i h
      rw [h, getUpgradeCallback, hfind]
      rfl
    · rfl
  · rename_i clientProxy _
    show ((s.removeDeathRecipient clientProxy).erase info).getUpgradeCallback info' = _
    rw [getUpgradeCallback_erase]
    rfl

/-- The registered callback as the ledger has it, and whether a replacement has been removed. -/
structure Ledger (C : Type) where
  registered : UpgradeInfo → Option C := fun _ => none
  replacementLost : Bool := false

def Ledger.update (l : Ledger C) (s : ClientRegistry C) (a : Step C) (s' : ClientRegistry C) : Ledger C :=
  match a with
  | .beginRegister info _ | .unregister info =>
    { l with registered := fun info' => if info' = info then none else l.registered info' }
  | .endRegister i =>
    match s.calls[i]? with
    | none => l
    | some call => { l with registered := fun info => if info = call.1 then some call.2 else l.registered info }
  | .notice i =>
    match s.notices[i]? with
    | none => l
    | some n =>
      let callback := s.getUpgradeCallback n.2.upgradeInfo
      { l with
        replacementLost := l.replacementLost ||
          decide (callback ≠ some n.1 ∧ s'.getUpgradeCallback n.2.upgradeInfo ≠ callback) }
  | .death _ => l

/-- A registered callback is the one that is returned, as long as its client lives; no notice of a client has removed
the callback of another; and the idle flag is right. -/
structure Kept (s : ClientRegistry C) (l : Ledger C) : Prop where
  registered : ∀ info callback, l.registered info = some callback → callback ∉ s.dead →
    s.getUpgradeCallback info = some callback
  replacement : l.replacementLost = false
  idle : s.isRemoteIdle = s.clientProxyMap.isEmpty

/-- The insert of a living client finds no entry of another, and the notice of a client does not either. -/
def Undisturbed (s : ClientRegistry C) : Step C → Prop
  | .endRegister i => ∀ call, s.calls[i]? = some call → call.2 ∈ s.dead ∨
    ∀ c, s.getUpgradeCallback call.1 = some c → c = call.2
  | .notice i => ∀ n, s.notices[i]? = some n → ∀ c, s.getUpgradeCallback n.2.upgradeInfo = some c → c = n.1
  | _ => True

/-! ### One step -/

theorem idle_unregisterUpdateCallback (h : s.isRemoteIdle = s.clientProxyMap.isEmpty) :
    (s.unregisterUpdateCallback info).isRemoteIdle = (s.unregisterUpdateCallback info).clientProxyMap.isEmpty := by
  rw [unregisterUpdateCallback]
  split
  · exact h
  · rfl

theorem dead_unregisterUpdateCallback : (s.unregisterUpdateCallback info).dead = s.dead := by
  rw [unregisterUpdateCallback]
  split <;> rfl

theorem notices_unregisterUpdateCallback : (s.unregisterUpdateCallback info).notices = s.notices := by
  rw [unregisterUpdateCallback]
  split <;> rfl

variable {l : Ledger C} {a : Step C}

/-- What the steps of a run keep. -/
structure Inv (s : ClientRegistry C) (l : Ledger C) : Prop extends Kept s l where
  notices : ∀ n ∈ s.notices, n.1 ∈ s.dead

/-- The map after an unregistering on behalf of a call or of a notice. -/
theorem Inv.unregisterUpdateCallback (h : Inv s l) (info : UpgradeInfo) (l' : Ledger C)
    (hl : ∀ info', info' ≠ info → l'.registered info' = l.registered info')
    (hinfo : ∀ c, l'.registered info = some c → c ∈ s.dead) (hlost : l'.replacementLost = false) :
    Inv (s.unregisterUpdateCallback info) l' where
  registered := by
    intro info' c hc halive
    rw [dead_unregisterUpdateCallback] at halive
    rw [getUpgradeCallback_unregisterUpdateCallback]
    by_cases hsame : info' = info
    · rw [hsame] at hc
      exact absurd (hinfo c hc) halive
    · rw [if_neg hsame]
      rw [hl info' hsame] at hc
      exact h.registered info' c hc halive
  replacement := hlost
  idle := idle_unregisterUpdateCallback h.idle
  notices := by
    rw [notices_unregisterUpdateCallback, dead_unregisterUpdateCallback]
    exact h.notices

theorem Inv.beginCall (h : Inv s l) (info : UpgradeInfo) : Inv (s.unregisterUpdateCallback info)
    { l with registered := fun info' => if info' = info then none else l.registered info' } := by
  refine h.unregisterUpdateCallback info _ (fun info' hne => if_neg hne) ?_ h.replacement
  intro c hc
  dsimp only at hc
  rw [if_pos rfl] at hc
  cases hc

/-- The notice of `client` takes only its own callback. -/
theorem Inv.onRemoteDied (h : Inv s l) {client : C} {r : ClientDeathRecipient} (hdead : client ∈ s.dead)
    (hund : ∀ c, s.getUpgradeCallback r.upgradeInfo = some c → c = client) :
    Inv (s.onRemoteDied r) { l with
      replacementLost := l.replacementLost || decide (s.getUpgradeCallback r.upgradeInfo ≠ some client ∧
        (s.onRemoteDied r).getUpgradeCallback r.upgradeInfo ≠ s.getUpgradeCallback r.upgradeInfo) } := by
  refine h.unregisterUpdateCallback r.upgradeInfo _ (fun _ _ => rfl) ?_ ?_
  · intro c hc
    by_cases halive : c ∈ s.dead
    · exact halive
    · have hget := h.registered r.upgradeInfo c hc halive
      rw [hund c hget]
      exact hdead
  · rw [h.replacement, Bool.false_or, decide_eq_false_iff_not, ClientRegistry.onRemoteDied,
      getUpgradeCallback_unregisterUpdateCallback, if_pos rfl]
    rintro ⟨hother, hlost⟩
    cases hget : s.getUpgradeCallback r.upgradeInfo with
    | none => exact hlost hget.symm
    | some c => exact hother (by rw [hget, hund c hget])

theorem getUpgradeCallback_registerInsert : (s.registerInsert info callback).getUpgradeCallback info' =
    if info' = info ∧ s.getUpgradeCallback info = none then some callback else s.getUpgradeCallback info' := by
  have hadd : ∀ clientProxy info, (({ s with created := s.created + 1 }).addDeathRecipient clientProxy).getUpgradeCallback info =
      s.getUpgradeCallback info := by
    intro clientProxy info
    rw [addDeathRecipient]
    split <;> rfl
  show ((addDeathRecipient _ _).insert info _).getUpgradeCallback info' = _
  simp only [getUpgradeCallback_insert, hadd]

theorem registerInsert_frame (s : ClientRegistry C) (info : UpgradeInfo) (callback : C) :
    (s.registerInsert info callback).dead = s.dead ∧ (s.registerInsert info callback).notices = s.notices ∧
      (s.registerInsert info callback).isRemoteIdle = (s.registerInsert info callback).clientProxyMap.isEmpty := by
  have hinsert : ∀ (s : ClientRegistry C) clientProxy, (s.insert info clientProxy).dead = s.dead ∧
      (s.insert info clientProxy).notices = s.notices := by
    intro s clientProxy
    rw [insert]
    split <;> exact ⟨rfl, rfl⟩
  refine ⟨?_, ?_, rfl⟩
  · show ((addDeathRecipient _ _).insert info _).dead = s.dead
    rw [(hinsert _ _).1, addDeathRecipient]
    split <;> rfl
  · show ((addDeathRecipient _ _).insert info _).notices = s.notices
    rw [(hinsert _ _).2, addDeathRecipient]
    split <;> rfl

/-- The insert of a callback that finds at most that callback. -/
theorem Inv.registerInsert (h : Inv s l) (hund : callback ∈ s.dead ∨
    ∀ c, s.getUpgradeCallback info = some c → c = callback) :
    Inv (s.registerInsert info callback)
      { l with registered := fun info' => if info' = info then some callback else l.registered info' } := by
  obtain ⟨hdead, hnotices, hidle⟩ := registerInsert_frame s info callback
  refine ⟨⟨?_, h.replacement, hidle⟩, ?_⟩
  · intro info' c hc halive
    dsimp only at hc
    rw [hdead] at halive
    rw [getUpgradeCallback_registerInsert]
    by_cases hsame : info' = info
    · rw [if_pos hsame] at hc
      obtain rfl := Option.some.inj hc
      have hund := hund.resolve_left halive
      cases hget : s.getUpgradeCallback info with
      | none => rw [if_pos ⟨hsame, rfl⟩]
      | some c' => rw [if_neg (fun hand => Option.some_ne_none _ hand.2), hsame, hget, hund c' hget]
    · rw [if_neg hsame] at hc
      rw [if_neg (mt And.left hsame)]
      exact h.registered info' c hc halive
  · rw [hnotices, hdead]
    exact h.notices

theorem Inv.step (h : Inv s l) (hund : Undisturbed s a) (hstep : s.step a = some s') : Inv s' (l.update s a s') := by
  cases a with
  | beginRegister info updateCallback =>
    obtain rfl := Option.some.inj hstep
    have hbegin := h.beginCall info
    exact ⟨⟨hbegin.registered, hbegin.replacement, hbegin.idle⟩, hbegin.notices⟩
  | unregister info =>
    obtain rfl := Option.some.inj hstep
    exact h.beginCall info
  | death client =>
    rw [ClientRegistry.step] at hstep
    split at hstep
    · cases hstep
    obtain rfl := Option.some.inj hstep
    refine ⟨⟨?_, h.replacement, h.idle⟩, ?_⟩
    · intro info c hc halive
      exact h.registered info c hc fun hdead => halive (List.mem_cons_of_mem _ hdead)
    · intro n hn
      rcases List.mem_append.1 hn with hn | hn
      · exact List.mem_cons_of_mem _ (h.notices n hn)
      · have hclient : n.1 = client := by simpa using (List.mem_filter.1 hn).2
        rw [hclient]
        exact List.mem_cons_self
  | notice i =>
    obtain ⟨n, hn, rfl⟩ := Option.map_eq_some_iff.1 hstep
    have hs : Inv { s with notices := s.notices.eraseIdx i } l :=
      ⟨⟨h.registered, h.replacement, h.idle⟩, fun m hm => h.notices m (List.mem_of_mem_eraseIdx hm)⟩
    have hnotice := hs.onRemoteDied (h.notices n (List.mem_of_getElem? hn)) (hund n hn)
    rw [Ledger.update, hn]
    exact hnotice
  | endRegister i =>
    obtain ⟨call, hcall, rfl⟩ := Option.map_eq_some_iff.1 hstep
    have hs : Inv { s with calls := s.calls.eraseIdx i } l := ⟨⟨h.registered, h.replacement, h.idle⟩, h.notices⟩
    rw [Ledger.update, hcall]
    exact hs.registerInsert (hund call hcall)

/-- A step that is disturbed breaks what a client relies on. -/
theorem not_kept_of_disturbed (hstep : s.step a = some s') (hund : ¬ Undisturbed s a) :
    ¬ Kept s' (l.update s a s') := by
  cases a with
  | beginRegister _ _ | unregister _ | death _ => exact absurd trivial hund
  | endRegister i =>
    obtain ⟨call, hcall, rfl⟩ := Option.map_eq_some_iff.1 hstep
    simp only [Undisturbed, hcall, Option.some.injEq, forall_eq', not_or, Classical.not_forall] at hund
    obtain ⟨halive, c, hget, hne⟩ := hund
    intro hkept
    have hsame := hkept.registered call.1 call.2 (by simp [Ledger.update, hcall])
      (by rwa [(registerInsert_frame _ _ _).1])
    rw [getUpgradeCallback_registerInsert] at hsame
    have hget' : ({ s with calls := s.calls.eraseIdx i }).getUpgradeCallback call.1 = some c := hget
    rw [hget', if_neg (fun hand => Option.some_ne_none _ hand.2)] at hsame
    exact hne (Option.some.inj hsame)
  | notice i =>
    obtain ⟨n, hn, rfl⟩ := Option.map_eq_some_iff.1 hstep
    simp only [Undisturbed, hn, Option.some.injEq, forall_eq', Classical.not_forall] at hund
    obtain ⟨c, hget, hne⟩ := hund
    intro hkept
    have hlost := hkept.replacement
    have hremoved : (onRemoteDied n.2 { s with notices := s.notices.eraseIdx i }).getUpgradeCallback n.2.upgradeInfo = none := by
      rw [onRemoteDied, getUpgradeCallback_unregisterUpdateCallback, if_pos rfl]
    simp [Ledger.update, hn, hget, hremoved, hne] at hlost

/-- What a client relies on holds in every run in which no insert of a living client finds the callback of another and
no notice of a client does either, and such a step is where it fails first. -/
theorem callback_kept :
    (∀ as (s : ClientRegistry C) l, (((lts C).guard Undisturbed).observe Ledger.update).Run ({}, {}) as (s, l) → Kept s l) ∧
    ∀ as (s : ClientRegistry C) l a s' l', (((lts C).guard Undisturbed).observe Ledger.update).Run ({}, {}) as (s, l) →
      ((lts C).observe Ledger.update).step (s, l) a (s', l') → ¬ Undisturbed s a → ¬ Kept s' l' := by
  refine ⟨fun as s l h => ?_, fun as s l a s' l' _ hstep hund => ?_⟩
  · have hinv : (((lts C).guard Undisturbed).observe Ledger.update).Preserved fun x => Inv x.1 x.2 := by
      rintro ⟨s, l⟩ a ⟨s', l'⟩ ⟨⟨hund, hstep⟩, hl⟩ h
      show Inv s' l'
      rw [show l' = l.update s a s' from hl]
      exact Inv.step h hund hstep
    have h₀ : Inv ({} : ClientRegistry C) {} := ⟨⟨by simp, rfl, rfl⟩, by simp⟩
    have hs := h.invariant hinv h₀
    exact hs.toKept
  · rw [show l' = l.update s a s' from hstep.2]
    exact not_kept_of_disturbed hstep.1 hund

instance (s : ClientRegistry C) (a : Step C) : Decidable (Undisturbed s a) :=
  match a with
  | .endRegister i => match h : s.calls[i]? with
    | none => isTrue (by simp [Undisturbed, h])
    | some call => decidable_of_iff
        (call.2 ∈ s.dead ∨ (s.getUpgradeCallback call.1).all (fun c => c = call.2) = true) (by
          cases hget : s.getUpgradeCallback call.1 <;> simp [Undisturbed, h, hget])
  | .notice i => match h : s.notices[i]? with
    | none => isTrue (by simp [Undisturbed, h])
    | some n => decidable_of_iff ((s.getUpgradeCallback n.2.upgradeInfo).all (fun c => c = n.1) = true) (by
          cases hget : s.getUpgradeCallback n.2.upgradeInfo <;> simp [Undisturbed, h, hget])
  | .beginRegister _ _ | .unregister _ | .death _ => isTrue trivial

/-- Client 1 replaces client 0, which then dies, and gets its own notice when it dies itself. -/
theorem callback_kept_replaced : ∃ (s : ClientRegistry Nat) (l : Ledger Nat), s.dead = [1, 0] ∧ Kept s l := by
  have hrun : ∃ (s : ClientRegistry Nat) (l : Ledger Nat), (((lts Nat).guard Undisturbed).observe Ledger.update).Run ({}, {})
      [.beginRegister {} 0, .endRegister 0, .beginRegister {} 1, .endRegister 0, .death 0, .death 1, .notice 0] (s, l) ∧
      s.dead = [1, 0] := by
    rw [lts, Lts.guard_ofPartial, Lts.observe_ofPartial]
    exact ⟨_, _, Lts.run_ofPartial_get (by rfl), rfl⟩
  obtain ⟨s, l, h, hdead⟩ := hrun
  exact ⟨s, l, hdead, callback_kept.1 _ s l h⟩

/-- The insert of the second of two calls for a key finds the callback of the first; and the notice of client 0, on
its way while client 1 takes its place, removes client 1. -/
theorem not_callback_kept :
    (∃ as, ∃ s : ClientRegistry Nat, ∃ l, ((lts Nat).observe Ledger.update).Run ({}, {}) as (s, l) ∧
      l.registered {} = some 1 ∧ s.dead = [] ∧ s.getUpgradeCallback {} = some 0) ∧
    ∃ as, ∃ s : ClientRegistry Nat, ∃ l, ((lts Nat).observe Ledger.update).Run ({}, {}) as (s, l) ∧
      l.registered {} = some 1 ∧ s.dead = [0] ∧ s.getUpgradeCallback {} = none ∧ l.replacementLost = true := by
  rw [lts, Lts.observe_ofPartial]
  exact ⟨⟨[.beginRegister {} 0, .beginRegister {} 1, .endRegister 0, .endRegister 0], _, _,
      Lts.run_ofPartial_get (by rfl), by rfl, by rfl, by rfl⟩,
    [.beginRegister {} 0, .endRegister 0, .death 0, .beginRegister {} 1, .endRegister 0, .notice 0], _, _,
      Lts.run_ofPartial_get (by rfl), by rfl, by rfl, by rfl, by rfl⟩

end ClientRegistry

end UpdateService
