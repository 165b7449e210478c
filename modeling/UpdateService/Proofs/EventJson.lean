import UpdateService.JsonBuilder
import UpdateService.Lib.JsonText

/-!
# The JSON text of an event

`value` is what a reader of the text is meant to get: the members that the template selects, in their order, with
the strings as they are. The text has this value exactly if there is a template and no string needs an escape. Every
builder is described by the members it has written (`Holds`), so that its text is a part of the text of the event.
-/

namespace UpdateService

open JsonText

/-- The elements of `l`, if the template has the mask. -/
def selected {α : Type} (taskBodyTemplate mask : UInt32) (l : List α) : List α :=
  if taskBodyTemplate &&& mask ≠ 0 then l else []

theorem map_selected {α β : Type} (f : α → β) (taskBodyTemplate mask : UInt32) (l : List α) :
    (selected taskBodyTemplate mask l).map f = selected taskBodyTemplate mask (l.map f) := by
  rw [selected, selected, apply_ite (List.map f)]
  rfl

theorem mem_selected {α : Type} {taskBodyTemplate mask : UInt32} {l : List α} {a : α} :
    a ∈ selected taskBodyTemplate mask l ↔ taskBodyTemplate &&& mask ≠ 0 ∧ a ∈ l := by
  rw [selected]
  split <;> simp [*]

/-- The member of a list; an empty list has none. -/
def arrayMember (items : List Part) (key : String) (hkey : IsPlain key.toList) : List Member :=
  if items = [] then [] else [⟨.array items, key.toList, hkey⟩]

namespace JsonBuilder

/-- The builder has written an object up to the members `ms`. -/
structure Holds (b : JsonBuilder) (ms : List Member) : Prop where
  builder : b.builder = '{' :: membersText (ms.map fun m => (m.name, m.text))
  isFirstItem : b.isFirstItem = ms.isEmpty

variable {b : JsonBuilder} {ms : List Member}

theorem Holds.init : (append {} ['{']).Holds [] := ⟨rfl, rfl⟩

theorem Holds.item (h : b.Holds ms) (m : Member) {key : String} (hkey : key.toList = m.name) :
    (b.appendItem key m.text).Holds (ms ++ [m]) := by
  cases ms with
  | nil =>
    have hfirst : b.isFirstItem = true := h.isFirstItem
    refine ⟨?_, ?_⟩
    · show (b.appendComma.append _).builder = _
      rw [appendComma, hfirst, if_pos rfl]
      show b.builder ++ memberText key.toList m.text = '{' :: (memberText m.name m.text ++ restMembersText [])
      rw [h.builder, hkey, restMembersText, List.append_nil]
      rfl
    · show (b.appendComma).isFirstItem = false
      rw [appendComma, hfirst, if_pos rfl]
  | cons m' ms =>
    have hfirst : b.isFirstItem = false := h.isFirstItem
    refine ⟨?_, ?_⟩
    · show (b.appendComma.append _).builder = _
      rw [appendComma, hfirst, if_neg Bool.false_ne_true]
      have hm : (m' :: ms).map (fun m => (m.name, m.text)) ≠ [] := List.cons_ne_nil _ _
      show b.builder ++ [','] ++ memberText key.toList m.text = _
      rw [h.builder, hkey, List.map_append, List.map_singleton, membersText_concat hm]
      simp only [List.cons_append, List.append_assoc, List.nil_append]
    · show (b.appendComma).isFirstItem = false
      rw [appendComma, hfirst, if_neg Bool.false_ne_true]
      exact hfirst

/-- The object that is closed stands for its members. -/
theorem Holds.denotes (h : b.Holds ms) {members : List (List Char × JsonValue)} {safe : Prop}
    (hvalue : ms.map (fun m => (m.name, m.value)) = members) (hsafe : (∀ m ∈ ms, m.safe) ↔ safe) :
    Denotes safe (b.append ['}']).toJson (.object members) := by
  have htext : (b.append ['}']).toJson = objectText (ms.map fun m => (m.name, m.text)) := by
    show b.builder ++ ['}'] = '{' :: (membersText (ms.map fun m => (m.name, m.text)) ++ ['}'])
    rw [h.builder]
    rfl
  rw [htext, ← hvalue]
  exact (Denotes.object ms).congr hsafe

theorem Holds.itemIf (h : b.Holds ms) (taskBodyTemplate mask : UInt32) (m : Member) {key : String}
    (hkey : key.toList = m.name) :
    (if taskBodyTemplate &&& mask ≠ 0 then b.appendItem key m.text else b).Holds (ms ++ selected taskBodyTemplate mask [m]) := by
  rw [selected]
  split
  · exact h.item m hkey
  · rwa [List.append_nil]

theorem builder_appendValues (jsonArray : JsonBuilder) (valueList : List JsonBuilder) :
    (jsonArray.appendValues valueList).builder = jsonArray.builder ++ itemsText (valueList.map toJson) := by
  induction valueList generalizing jsonArray with
  | nil => exact (List.append_nil _).symm
  | cons value valueList ih =>
    cases valueList with
    | nil => exact congrArg (jsonArray.builder ++ ·) (List.append_nil _).symm
    | cons value' valueList =>
      show (appendValues ((jsonArray.append value.toJson).append [',']) (value' :: valueList)).builder = _
      rw [ih]
      show jsonArray.builder ++ value.toJson ++ [','] ++ (value'.toJson ++ restItemsText (valueList.map toJson)) =
        jsonArray.builder ++ (value.toJson ++ ',' :: (value'.toJson ++ restItemsText (valueList.map toJson)))
      simp only [List.append_assoc, List.singleton_append]

/-- A list is written as an array, and not at all if it is empty. -/
theorem Holds.list (h : b.Holds ms) {items : List Part} {valueList : List JsonBuilder}
    (htext : items.map (·.text) = valueList.map toJson) (key : String) (hkey : IsPlain key.toList) :
    (b.appendList key valueList).Holds (ms ++ arrayMember items key hkey) := by
  have hempty : valueList = [] ↔ items = [] := by
    rw [← List.map_eq_nil_iff (f := toJson), ← htext, List.map_eq_nil_iff]
  rw [appendList, arrayMember]
  by_cases hitems : items = []
  · rw [if_pos (hempty.2 hitems), if_pos hitems, List.append_nil]
    exact h
  · rw [if_neg (mt hempty.1 hitems), if_neg hitems]
    have harray : ((appendValues (append {} "[".toList) valueList).append "]".toList).toJson = (Part.array items).text := by
      show (appendValues (append {} "[".toList) valueList).builder ++ [']'] = arrayText (items.map (·.text))
      rw [builder_appendValues, ← htext]
      rfl
    rw [appendBuilder, harray]
    exact h.item ⟨.array items, key.toList, hkey⟩ rfl

end JsonBuilder

theorem ite_appendList (b : JsonBuilder) (key : String) (taskBodyTemplate mask : UInt32)
    (valueList : List JsonBuilder) :
    (if taskBodyTemplate &&& mask ≠ 0 then b.appendList key valueList else b) =
      b.appendList key (selected taskBodyTemplate mask valueList) := by
  rw [selected]
  split <;> rfl

namespace InnerApi
open JsonBuilder (Holds)

def VersionDigestInfo.value (v : VersionDigestInfo) : JsonValue :=
  .object [("versionDigest".toList, .string v.versionDigest.toList)]

def ErrorMessage.value (e : ErrorMessage) : JsonValue :=
  .object [("errorCode".toList, .number (toString e.errorCode.toInt).toList),
    ("errorMessage".toList, .string e.errorMessage.toList)]

def DescriptionInfo.value (d : DescriptionInfo) : JsonValue :=
  .object [("descriptionType".toList, .number (toString d.descriptionType.toInt).toList),
    ("content".toList, .string d.content.toList)]

/-- `extra` is the value of the text in `componentExtra`. -/
def VersionComponent.value (extra : JsonValue) (c : VersionComponent) : JsonValue :=
  .object [("componentId".toList, .string c.componentId.toList),
    ("componentType".toList, .number (toString c.componentType.toInt).toList),
    ("upgradeAction".toList, .string c.upgradeAction.toList),
    ("displayVersion".toList, .string c.displayVersion.toList),
    ("innerVersion".toList, .string c.innerVersion.toList),
    ("size".toList, .number (toString c.size.toInt64.toInt).toList),
    ("effectiveMode".toList, .number (toString c.effectiveMode.toUInt32.toInt32.toInt).toList),
    ("otaMode".toList, .number (toString c.otaMode.toUInt32.toInt32.toInt).toList),
    ("descriptionInfo".toList, c.descriptionInfo.value),
    ("componentExtra".toList, extra)]

def VersionComponent.IsSafe (c : VersionComponent) : Prop :=
  IsPlain c.componentId.toList ∧ IsPlain c.upgradeAction.toList ∧ IsPlain c.displayVersion.toList ∧
    IsPlain c.innerVersion.toList ∧ IsPlain c.descriptionInfo.content.toList

/-- A list that is empty has no member. -/
def listMember (name : String) (items : List JsonValue) : List (List Char × JsonValue) :=
  if items = [] then [] else [(name.toList, .array items)]

/-- The members of the task body under a template. -/
def TaskBody.members (t : TaskBody) (taskBodyTemplate : UInt32) (extra : VersionComponent → JsonValue) :
    List (List Char × JsonValue) :=
  selected taskBodyTemplate TaskBodyMemberMask.versionDigestInfo [("versionDigestInfo".toList, t.versionDigestInfo.value)] ++
  selected taskBodyTemplate TaskBodyMemberMask.upgradeStatus [("status".toList, .number (toString t.status.toInt).toList)] ++
  selected taskBodyTemplate TaskBodyMemberMask.subStatus [("subStatus".toList, .number (toString t.subStatus.toInt).toList)] ++
  selected taskBodyTemplate TaskBodyMemberMask.progress [("progress".toList, .number (toString t.progress.toInt).toList)] ++
  selected taskBodyTemplate TaskBodyMemberMask.installMode [("installMode".toList, .number (toString t.installMode.toInt).toList)] ++
  listMember "errorMessages" ((selected taskBodyTemplate TaskBodyMemberMask.errorMessage t.errorMessages).map (·.value)) ++
  listMember "versionComponents"
    ((selected taskBodyTemplate TaskBodyMemberMask.versionComponent t.versionComponents).map fun c => c.value (extra c))

/-- The template of the event, without any mask if it has none. -/
def EventInfo.taskBodyTemplate (e : EventInfo) : UInt32 := (findTaskBodyTemplate e.eventId).getD 0

/-- What a reader of the text is meant to get. -/
def EventInfo.value (e : EventInfo) (extra : VersionComponent → JsonValue) : JsonValue :=
  .object [("eventId".toList, .number (toString e.eventId.toInt).toList),
    ("taskBody".toList, .object (e.taskBody.members e.taskBodyTemplate extra))]

/-- The components in the text. -/
def EventInfo.components (e : EventInfo) : List VersionComponent :=
  selected e.taskBodyTemplate TaskBodyMemberMask.versionComponent e.taskBody.versionComponents

/-- The text is a JSON text of the event and of nothing else, with `componentExtra` as the value it is a text of. -/
def EventInfo.WellFormed (e : EventInfo) : Prop :=
  ∃ extra : VersionComponent → JsonValue, (∀ c ∈ e.components, IsText c.componentExtra.toList (extra c)) ∧
    ∀ v, IsText e.toJson v ↔ v = e.value extra

/-! ### The parts -/

theorem VersionDigestInfo.denotes (v : VersionDigestInfo) :
    Denotes (IsPlain v.versionDigest.toList) v.getJsonBuilder.toJson v.value :=
  (Holds.init.item ⟨.string v.versionDigest.toList, "versionDigest".toList, by decide⟩ rfl).denotes rfl (by simp)

theorem ErrorMessage.denotes (e : ErrorMessage) :
    Denotes (IsPlain e.errorMessage.toList) e.getJsonBuilder.toJson e.value := by
  have h := (Holds.init.item ⟨.int e.errorCode.toInt, "errorCode".toList, by decide⟩ rfl).item
    ⟨.string e.errorMessage.toList, "errorMessage".toList, by decide⟩ rfl
  exact h.denotes rfl (by simp)

theorem DescriptionInfo.denotes (d : DescriptionInfo) :
    Denotes (IsPlain d.content.toList) d.getJsonBuilder.toJson d.value := by
  have h := (Holds.init.item ⟨.int d.descriptionType.toInt, "descriptionType".toList, by decide⟩ rfl).item
    ⟨.string d.content.toList, "content".toList, by decide⟩ rfl
  exact h.denotes rfl (by simp)

theorem VersionComponent.denotes (c : VersionComponent) {extra : JsonValue}
    (hextra : IsText c.componentExtra.toList extra) :
    Denotes c.IsSafe c.getJsonBuilder.toJson (c.value extra) := by
  have hid := Holds.init.item ⟨.string c.componentId.toList, "componentId".toList, by decide⟩ rfl
  have htype := hid.item ⟨.int c.componentType.toInt, "componentType".toList, by decide⟩ rfl
  have haction := htype.item ⟨.string c.upgradeAction.toList, "upgradeAction".toList, by decide⟩ rfl
  have hdisplay := haction.item ⟨.string c.displayVersion.toList, "displayVersion".toList, by decide⟩ rfl
  have hinner := hdisplay.item ⟨.string c.innerVersion.toList, "innerVersion".toList, by decide⟩ rfl
  have hsize := hinner.item ⟨.int c.size.toInt64.toInt, "size".toList, by decide⟩ rfl
  have hmode := hsize.item ⟨.int c.effectiveMode.toUInt32.toInt32.toInt, "effectiveMode".toList, by decide⟩ rfl
  have hota := hmode.item ⟨.int c.otaMode.toUInt32.toInt32.toInt, "otaMode".toList, by decide⟩ rfl
  have hdescription := hota.item ⟨⟨_, _, _, c.descriptionInfo.denotes⟩, "descriptionInfo".toList, by decide⟩ rfl
  have h := hdescription.item ⟨.ofIsText hextra, "componentExtra".toList, by decide⟩ rfl
  exact h.denotes rfl (by simp [VersionComponent.IsSafe])

theorem map_arrayMember (items : List Part) (key : String) (hkey : IsPlain key.toList) :
    (arrayMember items key hkey).map (fun m => (m.name, m.value)) = listMember key (items.map (·.value)) := by
  cases items <;> rfl

theorem forall_mem_arrayMember (items : List Part) (key : String) (hkey : IsPlain key.toList) :
    (∀ m ∈ arrayMember items key hkey, m.safe) ↔ ∀ p ∈ items, p.safe := by
  cases items <;> simp [arrayMember]

/-- The strings under a template need no escape. -/
def TaskBody.IsSafe (t : TaskBody) (taskBodyTemplate : UInt32) : Prop :=
  (taskBodyTemplate &&& TaskBodyMemberMask.versionDigestInfo ≠ 0 → IsPlain t.versionDigestInfo.versionDigest.toList) ∧
  (∀ e ∈ selected taskBodyTemplate TaskBodyMemberMask.errorMessage t.errorMessages, IsPlain e.errorMessage.toList) ∧
  ∀ c ∈ selected taskBodyTemplate TaskBodyMemberMask.versionComponent t.versionComponents, c.IsSafe

theorem TaskBody.denotes (t : TaskBody) {eventId : Int32} {taskBodyTemplate : UInt32}
    {extra : VersionComponent → JsonValue} (htemplate : findTaskBodyTemplate eventId = some taskBodyTemplate)
    (hextra : ∀ c ∈ selected taskBodyTemplate TaskBodyMemberMask.versionComponent t.versionComponents,
      IsText c.componentExtra.toList (extra c)) :
    Denotes (t.IsSafe taskBodyTemplate) (t.getJsonBuilder eventId).toJson (.object (t.members taskBodyTemplate extra)) := by
  obtain ⟨errors, herrors, herrorValues, herrorSafe⟩ := exists_parts fun e
    (_ : e ∈ selected taskBodyTemplate TaskBodyMemberMask.errorMessage t.errorMessages) => e.denotes
  obtain ⟨components, hcomponents, hcomponentValues, hcomponentSafe⟩ := exists_parts fun c
    (hc : c ∈ selected taskBodyTemplate TaskBodyMemberMask.versionComponent t.versionComponents) => c.denotes (hextra c hc)
  have herrorTexts : errors.map (·.text) = (selected taskBodyTemplate TaskBodyMemberMask.errorMessage
      (t.errorMessages.map (·.getJsonBuilder))).map JsonBuilder.toJson := by
    rw [herrors, ← map_selected, List.map_map]
    rfl
  have hcomponentTexts : components.map (·.text) = (selected taskBodyTemplate TaskBodyMemberMask.versionComponent
      (t.versionComponents.map (·.getJsonBuilder))).map JsonBuilder.toJson := by
    rw [hcomponents, ← map_selected, List.map_map]
    rfl
  have hdigest := Holds.init.itemIf taskBodyTemplate TaskBodyMemberMask.versionDigestInfo
    ⟨⟨_, _, _, t.versionDigestInfo.denotes⟩, "versionDigestInfo".toList, by decide⟩ rfl
  have hstatus := hdigest.itemIf taskBodyTemplate TaskBodyMemberMask.upgradeStatus
    ⟨.int t.status.toInt, "status".toList, by decide⟩ rfl
  have hsub := hstatus.itemIf taskBodyTemplate TaskBodyMemberMask.subStatus
    ⟨.int t.subStatus.toInt, "subStatus".toList, by decide⟩ rfl
  have hprogress := hsub.itemIf taskBodyTemplate TaskBodyMemberMask.progress
    ⟨.int t.progress.toInt, "progress".toList, by decide⟩ rfl
  have hmode := hprogress.itemIf taskBodyTemplate TaskBodyMemberMask.installMode
    ⟨.int t.installMode.toInt, "installMode".toList, by decide⟩ rfl
  have hmessages := hmode.list herrorTexts "errorMessages" (by decide)
  have h := hmessages.list hcomponentTexts "versionComponents" (by decide)
  rw [getJsonBuilder, htemplate]
  dsimp only
  rw [ite_appendList, ite_appendList]
  refine h.denotes ?_ ?_
  · simp only [members, List.map_append, List.nil_append, map_arrayMember, herrorValues, hcomponentValues, map_selected,
      List.map_singleton]
    rfl
  · simp only [List.forall_mem_append, forall_mem_arrayMember, herrorSafe, hcomponentSafe]
    simp [mem_selected, TaskBody.IsSafe, and_assoc]


theorem EventInfo.toJson_isText_iff (e : EventInfo) {taskBodyTemplate : UInt32} {extra : VersionComponent → JsonValue}
    (htemplate : findTaskBodyTemplate e.eventId = some taskBodyTemplate)
    (hextra : ∀ c ∈ e.components, IsText c.componentExtra.toList (extra c)) :
    IsText e.toJson (e.value extra) ↔ e.taskBody.IsSafe taskBodyTemplate := by
  have hsame : e.taskBodyTemplate = taskBodyTemplate := by
    rw [EventInfo.taskBodyTemplate, htemplate]
    rfl
  rw [components, hsame] at hextra
  have hbody := e.taskBody.denotes htemplate hextra
  have h := (Holds.init.item ⟨.int e.eventId.toInt, "eventId".toList, by decide⟩ rfl).item
    ⟨⟨_, _, _, hbody⟩, "taskBody".toList, by decide⟩ rfl
  rw [value, hsame]
  exact (h.denotes rfl (by simp)).isText_iff

/-- Without a template nothing stands in the place of the task body. -/
theorem EventInfo.not_isText {e : EventInfo} (htemplate : findTaskBodyTemplate e.eventId = none)
    (extra : VersionComponent → JsonValue) : ¬ IsText e.toJson (e.value extra) := by
  have htext : e.toJson = '{' :: (memberText "eventId".toList (toString e.eventId.toInt).toList ++
      ',' :: (memberText "taskBody".toList [] ++ ['}'])) := by
    rw [toJson, getJsonBuilder, TaskBody.getJsonBuilder, htemplate]
    simp [JsonBuilder.append, JsonBuilder.appendNum, JsonBuilder.appendBuilder, JsonBuilder.appendItem,
      JsonBuilder.appendComma, JsonBuilder.toJson, memberText]
  have hlex : lex e.toJson = some [.beginObject, .string "eventId".toList, .nameSeparator,
      .number (toString e.eventId.toInt).toList, .valueSeparator, .string "taskBody".toList, .nameSeparator, .endObject] := by
    have hends : EndsWord (',' :: (memberText "taskBody".toList [] ++ ['}'])) := by
      intro c hc
      obtain rfl := Option.some.inj hc
      decide
    rw [htext, lex, lexFrom_structural (t := .beginObject) (by decide), lexFrom_memberText (by decide),
      lexFrom_append (isText_int e.eventId.toInt) hends, lexFrom_structural (t := .valueSeparator) (by decide),
      lexFrom_memberText (by decide), List.nil_append, lexFrom_structural (t := .endObject) (by decide)]
    rfl
  intro h
  have htokens := Option.some.inj (hlex.symm.trans h)
  simp [value, JsonValue.tokens, JsonValue.memberTokens, JsonValue.restMemberTokens] at htokens

theorem EventInfo.wellFormed_iff (e : EventInfo) : e.WellFormed ↔
    ∃ taskBodyTemplate, findTaskBodyTemplate e.eventId = some taskBodyTemplate ∧ e.taskBody.IsSafe taskBodyTemplate ∧
      ∀ c ∈ e.components, ∃ extra, IsText c.componentExtra.toList extra := by
  constructor
  · rintro ⟨extra, hextra, h⟩
    have htext : IsText e.toJson (e.value extra) := (h _).2 rfl
    cases htemplate : findTaskBodyTemplate e.eventId with
    | none => exact absurd htext (not_isText htemplate extra)
    | some taskBodyTemplate =>
      exact ⟨taskBodyTemplate, rfl, (e.toJson_isText_iff htemplate hextra).1 htext, fun c hc => ⟨_, hextra c hc⟩⟩
  · rintro ⟨taskBodyTemplate, htemplate, hsafe, hextra⟩
    choose! extra hextra using hextra
    exact ⟨extra, hextra, fun v => ((e.toJson_isText_iff htemplate hextra).2 hsafe).iff_eq⟩

/-- The text of an event is a JSON text of it if and only if the event has a template, no string in it needs an escape
and every `componentExtra` in it is a JSON text. Four enumerators have no template, and `ProgressCallback` takes one of
them for the statuses that it does not map. -/
theorem eventJson_wellFormed_iff (e : EventInfo) (id : EventId) (versionDigestInfo : String) (progress : Progress) :
    (e.WellFormed ↔ ∃ taskBodyTemplate, findTaskBodyTemplate e.eventId = some taskBodyTemplate ∧
      e.taskBody.IsSafe taskBodyTemplate ∧ ∀ c ∈ e.components, ∃ extra, IsText c.componentExtra.toList extra) ∧
    ((findTaskBodyTemplate id.number).isSome ↔
      id ∉ [EventId.eventTaskBase, .systemBase, .systemBootComplete, .commandBase]) ∧
    ((findTaskBodyTemplate (BaseCallbackUtils.progressCallback versionDigestInfo progress).eventId).isSome ↔
      progress.status ∈ BaseCallbackUtils.statusMap.map Prod.fst) := by
  refine ⟨e.wellFormed_iff, ?_, ?_⟩
  · cases id <;> decide
  · have hmap : ∀ status, (findTaskBodyTemplate (BaseCallbackUtils.findEventId status).number).isSome ↔
        status ∈ BaseCallbackUtils.statusMap.map Prod.fst := by
      intro status
      cases status <;> decide
    exact hmap progress.status

/-- A digest with a quote, and a status without an event of its own. -/
theorem not_eventJson_wellFormed :
    ¬ (BaseCallbackUtils.notifyEvent "\"" .eventDownloadStart .init {} [] 0).WellFormed ∧
      ¬ (BaseCallbackUtils.progressCallback "" { status := .upgradeCancel }).WellFormed := by
  constructor
  · intro h
    obtain ⟨taskBodyTemplate, htemplate, hsafe, -⟩ := (EventInfo.wellFormed_iff _).1 h
    obtain rfl : _ = taskBodyTemplate := Option.some.inj htemplate
    exact absurd (hsafe.1 (by decide)) (by decide)
  · intro h
    obtain ⟨taskBodyTemplate, htemplate, -⟩ := (EventInfo.wellFormed_iff _).1 h
    have hnone : findTaskBodyTemplate (BaseCallbackUtils.progressCallback "" { status := .upgradeCancel }).eventId = none := by
      decide
    rw [hnone] at htemplate
    cases htemplate

end InnerApi

end UpdateService
