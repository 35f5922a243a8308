import GitDelivery.Proofs.Json.MergePatch
import GitDelivery.Proofs.Resource.Decode
import GitDelivery.Sync.Outcome

set_option autoImplicit false

/-! What a status says as a patch, and what becomes of an object whose status is patched. -/

namespace GitDelivery

namespace Table

variable {α : Type}

theorem get?_eq_none {key : String} {table : Table α} (absent : key ∉ keys table) :
    get? key table = none := by
  cases found : get? key table with
  | none => rfl
  | some value =>
      have present : get? key table ≠ none := by
        rw [found]
        exact Option.some_ne_none value
      exact absurd (mem_keys_iff.mpr present) absent

theorem get?_ofList_of_nodup {pairs : List (String × α)} (distinct : (keys pairs).Nodup)
    (key : String) : get? key (ofList pairs) = get? key pairs := by
  induction pairs with
  | nil => rfl
  | cons pair rest ih =>
      obtain ⟨name, value⟩ := pair
      obtain ⟨absent, others⟩ := List.nodup_cons.mp distinct
      have split : get? key (ofList ((name, value) :: rest)) =
          (get? key (ofList rest)).or (get? key (ofList [(name, value)])) :=
        get?_ofList_append [(name, value)] rest key
      have single : get? key (ofList [(name, value)]) = if name = key then some value else none := rfl
      rw [split, ih others, single, get?]
      by_cases same : name = key
      · subst same
        rw [get?_eq_none absent, if_pos rfl]
        rfl
      · rw [if_neg same, if_neg same, Option.or_none]

end Table

namespace Json

theorem get?_ofPresent {fields : List (String × Option Json)} (distinct : (Table.keys fields).Nodup)
    (key : String) : (ofPresent fields).get? key = (Table.get? key fields).join := by
  have present : (Table.keys (fields.filterMap fun field => field.2.map (field.1, ·))).Nodup := by
    refine List.Nodup.sublist ?_ distinct
    clear distinct
    induction fields with
    | nil => exact List.Sublist.refl _
    | cons field rest ih =>
        obtain ⟨name, value⟩ := field
        cases value with
        | none => exact ih.cons name
        | some value => exact ih.cons_cons name
  change Table.get? key (Table.ofList (fields.filterMap fun field => field.2.map (field.1, ·))) = _
  rw [Table.get?_ofList_of_nodup present]
  clear present
  induction fields with
  | nil => rfl
  | cons field rest ih =>
      obtain ⟨name, value⟩ := field
      obtain ⟨absent, others⟩ := List.nodup_cons.mp distinct
      have later := ih others
      cases value with
      | none =>
          by_cases same : name = key
          · subst same
            rw [Table.get?_eq_none absent] at later
            simpa [Table.get?] using later
          · simpa [Table.get?, same] using later
      | some value =>
          by_cases same : name = key
          · simp [Table.get?, same]
          · simpa [Table.get?, same] using later

theorem fields_getD (stored : Option Json) :
    (stored.getD .null).fields?.getD [] = (stored.bind fields?).getD [] := by
  cases stored <;> rfl

theorem at?_single (key : String) (value : Json) : at? [key] value = value.get? key := by
  rw [at?_cons]
  cases value.get? key <;> rfl

end Json

namespace SubscriptionStatus

variable {status : SubscriptionStatus}

/-- The fields of a status, those included that it has nothing to say about. -/
def fields (status : SubscriptionStatus) : List (String × Option Json) :=
  [("phase", status.phase.map .text), ("message", status.message.map .text),
    ("lastUpdateTime", status.lastUpdateTime.map .text),
    ("ansiblejobs", status.hooks.map HookStatus.toJson)]

theorem get?_toJson (field : String) :
    status.toJson.get? field = (Table.get? field status.fields).join :=
  Json.get?_ofPresent (by simp [Table.keys]) field

def patch (status : SubscriptionStatus) : Json :=
  .ofFields [("status", status.toJson)]

theorem at?_patch (field : String) :
    status.patch.at? ["status", field] = (Table.get? field status.fields).join := by
  have whole : status.patch.get? "status" = some status.toJson := rfl
  rw [Json.at?_cons, whole, ← get?_toJson]
  exact Json.at?_single field status.toJson

theorem at?_mergePatch (target : Json) (field : String) :
    (target.mergePatch status.patch).at? ["status", field] =
      match (Table.get? field status.fields).join with
      | some value => Json.patched (target.at? ["status", field]) value
      | none => target.at? ["status", field] := by
  have whole : (target.mergePatch status.patch).get? "status" =
      some (((target.get? "status").getD .null).mergePatch status.toJson) :=
    Json.get?_mergePatch "status" target
  have before : target.at? ["status", field] = ((target.get? "status").getD .null).get? field := by
    rw [Json.at?_cons]
    cases target.get? "status" with
    | none => rfl
    | some old => exact Json.at?_single field old
  have said : (Table.get? field status.fields).join = status.toJson.get? field :=
    (get?_toJson field).symm
  rw [Json.at?_cons, whole, before, said]
  refine Eq.trans (Json.at?_single field _) ?_
  exact Json.get?_mergePatch field _

end SubscriptionStatus

/-! ### Reading a status that was patched -/

namespace Decoder

variable {α : Type} {name : String} {left right : Table Json}

private theorem required_congr (decode : Decoder α)
    (same : Table.get? name left = Table.get? name right) :
    required decode name left = required decode name right := by
  unfold required
  rw [same]

theorem defaulted_congr (absent : α) (decode : Decoder α)
    (same : Table.get? name left = Table.get? name right) :
    defaulted absent decode name left = defaulted absent decode name right := by
  unfold defaulted
  rw [same]

/-- What a patch of an optional field is merged into can be read, too. -/
theorem exists_decode_base {decode : Decoder α} {fields : Table Json} {read : Option α} (blank : α)
    (empty : decode (.object []) = .ok blank) (decoded : optional decode name fields = .ok read) :
    ∃ old, decode (.object (((Table.get? name fields).bind Json.fields?).getD [])) = .ok old ∧
      (read = some old ∨ old = blank) := by
  unfold optional at decoded
  cases found : Table.get? name fields with
  | none => exact ⟨blank, empty, .inr rfl⟩
  | some value =>
      cases value with
      | object inner =>
          rw [found] at decoded
          obtain ⟨old, reads, rfl⟩ : ∃ old, decode (.object inner) = .ok old ∧ read = some old := by
            cases outcome : decode (.object inner) with
            | error failure =>
                simp only [outcome] at decoded
                cases decoded
            | ok old =>
                simp only [outcome] at decoded
                cases decoded
                exact ⟨old, rfl, rfl⟩
          exact ⟨old, reads, .inl rfl⟩
      | _ => exact ⟨blank, empty, .inr rfl⟩

theorem list_texts (texts : List String) : list text (.array (texts.map .text)) = .ok texts := by
  change each text (texts.map .text) = .ok texts
  induction texts with
  | nil => rfl
  | cons first rest ih =>
      rw [List.map_cons, each, ih]
      rfl

end Decoder

namespace HookStatus

/-- The status, with what another has where this one says nothing. -/
def laidOver (view kept : HookStatus) : HookStatus :=
  { lastPre := if view.lastPre = "" then kept.lastPre else view.lastPre
    preHistory := if view.preHistory = [] then kept.preHistory else view.preHistory
    lastPost := if view.lastPost = "" then kept.lastPost else view.lastPost
    postHistory := if view.postHistory = [] then kept.postHistory else view.postHistory }

structure Covers (view kept : HookStatus) : Prop where
  lastPre : view.lastPre = "" → kept.lastPre = ""
  preHistory : view.preHistory = [] → kept.preHistory = []
  lastPost : view.lastPost = "" → kept.lastPost = ""
  postHistory : view.postHistory = [] → kept.postHistory = []

theorem decode_ok_iff {fields : Table Json} {status : HookStatus} :
    decode (.object fields) = .ok status ↔
      Decoder.defaulted "" .text "lastprehookjob" fields = .ok status.lastPre ∧
      Decoder.defaulted [] (.list .text) "prehookjobshistory" fields = .ok status.preHistory ∧
      Decoder.defaulted "" .text "lastposthookjob" fields = .ok status.lastPost ∧
      Decoder.defaulted [] (.list .text) "posthookjobshistory" fields = .ok status.postHistory := by
  constructor
  · intro decoded
    obtain ⟨_, shaped, decoded⟩ := except_bind_ok_iff.mp decoded
    cases shaped
    obtain ⟨_, lastPre, decoded⟩ := except_bind_ok_iff.mp decoded
    obtain ⟨_, preHistory, decoded⟩ := except_bind_ok_iff.mp decoded
    obtain ⟨_, lastPost, decoded⟩ := except_bind_ok_iff.mp decoded
    obtain ⟨_, postHistory, decoded⟩ := except_bind_ok_iff.mp decoded
    cases decoded
    exact ⟨lastPre, preHistory, lastPost, postHistory⟩
  · rintro ⟨lastPre, preHistory, lastPost, postHistory⟩
    simp only [decode, Decoder.record, lastPre, preHistory, lastPost, postHistory, bind, Except.bind,
      pure, Except.pure]

private theorem filled_eq_iff {α : Type} [DecidableEq α] {own other blank : α} :
    (if own = blank then other else own) = own ↔ (own = blank → other = blank) := by
  by_cases silent : own = blank
  · rw [if_pos silent, silent]
    exact ⟨fun same _ => same, fun covers => covers rfl⟩
  · rw [if_neg silent]
    exact ⟨fun _ given => absurd given silent, fun _ => rfl⟩

theorem laidOver_eq_iff {view kept : HookStatus} : view.laidOver kept = view ↔ view.Covers kept := by
  obtain ⟨lastPre, preHistory, lastPost, postHistory⟩ := view
  unfold laidOver
  rw [HookStatus.mk.injEq, filled_eq_iff, filled_eq_iff, filled_eq_iff, filled_eq_iff]
  constructor
  · rintro ⟨first, second, third, fourth⟩
    exact ⟨first, second, third, fourth⟩
  · rintro ⟨first, second, third, fourth⟩
    exact ⟨first, second, third, fourth⟩

theorem laidOver_empty (view : HookStatus) : view.laidOver empty = view :=
  laidOver_eq_iff.mpr ⟨fun _ => rfl, fun _ => rfl, fun _ => rfl, fun _ => rfl⟩

theorem laidOver_self (view : HookStatus) : view.laidOver view = view :=
  laidOver_eq_iff.mpr ⟨id, id, id, id⟩

private theorem text_patched {name text old : String} {base patch : Table Json}
    (said : Table.get? name patch = (Text.nonEmpty? text).map .text)
    (known : Decoder.defaulted "" .text name base = .ok old) :
    Decoder.defaulted "" .text name (Json.patchFields base patch) =
      .ok (if text = "" then old else text) := by
  by_cases silent : text = ""
  · rw [if_pos silent, ← known]
    apply Decoder.defaulted_congr
    rw [Json.get?_patchFields, said, silent]
    rfl
  · rw [if_neg silent]
    have present : Text.nonEmpty? text = some text := by simp [Text.nonEmpty?, silent]
    unfold Decoder.defaulted
    rw [Json.get?_patchFields, said, present]
    rfl

private theorem texts_patched {name : String} {texts old : List String} {base patch : Table Json}
    (said : Table.get? name patch = Json.listUnlessEmpty .text texts)
    (known : Decoder.defaulted [] (.list .text) name base = .ok old) :
    Decoder.defaulted [] (.list .text) name (Json.patchFields base patch) =
      .ok (if texts = [] then old else texts) := by
  cases texts with
  | nil =>
      rw [if_pos rfl, ← known]
      apply Decoder.defaulted_congr
      rw [Json.get?_patchFields, said]
      rfl
  | cons first rest =>
      rw [if_neg (List.cons_ne_nil first rest)]
      unfold Decoder.defaulted
      rw [Json.get?_patchFields, said]
      exact Decoder.list_texts (first :: rest)

/-- A hook status that is merged into another is read as one over the other. -/
theorem decode_mergePatch {target : Json} {kept : HookStatus} (view : HookStatus)
    (known : decode (.object (target.fields?.getD [])) = .ok kept) :
    decode (target.mergePatch view.toJson) = .ok (view.laidOver kept) := by
  obtain ⟨lastPre, preHistory, lastPost, postHistory⟩ := decode_ok_iff.mp known
  have said (name : String) : view.toJson.get? name = _ :=
    Json.get?_ofPresent (by simp [Table.keys]) name
  refine decode_ok_iff.mpr ⟨?_, ?_, ?_, ?_⟩
  · exact text_patched (said "lastprehookjob") lastPre
  · exact texts_patched (said "prehookjobshistory") preHistory
  · exact text_patched (said "lastposthookjob") lastPost
  · exact texts_patched (said "posthookjobshistory") postHistory

end HookStatus

namespace SubscriptionStatus

theorem decode_ok_iff {fields : Table Json} {status : SubscriptionStatus} :
    decode (.object fields) = .ok status ↔
      Decoder.optional .text "phase" fields = .ok status.phase ∧
      Decoder.optional .text "message" fields = .ok status.message ∧
      Decoder.optional .text "lastUpdateTime" fields = .ok status.lastUpdateTime ∧
      Decoder.optional HookStatus.decode "ansiblejobs" fields = .ok status.hooks := by
  constructor
  · intro decoded
    obtain ⟨_, shaped, decoded⟩ := except_bind_ok_iff.mp decoded
    cases shaped
    obtain ⟨_, phase, decoded⟩ := except_bind_ok_iff.mp decoded
    obtain ⟨_, message, decoded⟩ := except_bind_ok_iff.mp decoded
    obtain ⟨_, time, decoded⟩ := except_bind_ok_iff.mp decoded
    obtain ⟨_, hooks, decoded⟩ := except_bind_ok_iff.mp decoded
    cases decoded
    exact ⟨phase, message, time, hooks⟩
  · rintro ⟨phase, message, time, hooks⟩
    simp only [decode, Decoder.record, phase, message, time, hooks, bind, Except.bind, pure,
      Except.pure]

/-- A status that is patched with hooks is read with these over the hooks that it had. -/
theorem decode_mergePatch {target : Json} {old : SubscriptionStatus} (view : HookStatus)
    (known : decode (.object (target.fields?.getD [])) = .ok old) :
    ∃ kept, HookStatus.decode
        (.object (((Table.get? "ansiblejobs" (target.fields?.getD [])).bind Json.fields?).getD [])) =
          .ok kept ∧
      (old.hooks = some kept ∨ kept = .empty) ∧
      decode (target.mergePatch (toJson { hooks := some view })) =
        .ok { old with hooks := some (view.laidOver kept) } := by
  obtain ⟨phase, message, time, hooks⟩ := decode_ok_iff.mp known
  obtain ⟨kept, read, was⟩ := Decoder.exists_decode_base .empty rfl hooks
  refine ⟨kept, read, was, decode_ok_iff.mpr ⟨?_, ?_, ?_, ?_⟩⟩
  · exact (Decoder.optional_congr _ (Json.get?_patchFields_of_none rfl)).trans phase
  · exact (Decoder.optional_congr _ (Json.get?_patchFields_of_none rfl)).trans message
  · exact (Decoder.optional_congr _ (Json.get?_patchFields_of_none rfl)).trans time
  · rw [← Json.fields_getD] at read
    have merged := HookStatus.decode_mergePatch view read
    unfold Decoder.optional
    rw [Json.get?_patchFields]
    exact congrArg (Except.map some) merged

end SubscriptionStatus

namespace Subscription

theorem decode_ok_iff {fields : Table Json} {subscription : Subscription} :
    decode (.object fields) = .ok subscription ↔
      Decoder.required .metadata "metadata" fields = .ok subscription.metadata ∧
      Decoder.required SubscriptionSpec.decode "spec" fields = .ok subscription.spec ∧
      Decoder.optional SubscriptionStatus.decode "status" fields = .ok subscription.status := by
  constructor
  · intro decoded
    obtain ⟨_, shaped, decoded⟩ := except_bind_ok_iff.mp decoded
    cases shaped
    obtain ⟨_, metadata, decoded⟩ := except_bind_ok_iff.mp decoded
    obtain ⟨_, spec, decoded⟩ := except_bind_ok_iff.mp decoded
    obtain ⟨_, status, decoded⟩ := except_bind_ok_iff.mp decoded
    cases decoded
    exact ⟨metadata, spec, status⟩
  · rintro ⟨metadata, spec, status⟩
    simp only [decode, Decoder.record, metadata, spec, status, bind, Except.bind, pure, Except.pure]

/-- What is stored about the hooks, so that a patch of them is merged into it. -/
def hookFields (fields : Table Json) : Table Json :=
  (((Json.object fields).at? ["status", "ansiblejobs"]).bind Json.fields?).getD []

private theorem hookFields_eq (fields : Table Json) :
    hookFields fields = ((Table.get? "ansiblejobs"
      (((Table.get? "status" fields).bind Json.fields?).getD [])).bind Json.fields?).getD [] := by
  have found : (Json.object fields).at? ["status", "ansiblejobs"] =
      Table.get? "ansiblejobs" (((Table.get? "status" fields).bind Json.fields?).getD []) := by
    change (Table.get? "status" fields).bind (Json.at? ["ansiblejobs"]) = _
    cases Table.get? "status" fields with
    | none => rfl
    | some status =>
        refine Eq.trans (Json.at?_single "ansiblejobs" status) ?_
        cases status <;> rfl
  unfold hookFields
  rw [found]

/-- A subscription whose hooks are patched is read as before, with these over those that it had. -/
theorem decode_mergePatch {fields : Table Json} {subscription : Subscription} (view : HookStatus)
    (decoded : decode (.object fields) = .ok subscription) :
    ∃ kept, HookStatus.decode (.object (hookFields fields)) = .ok kept ∧
      (subscription.status.bind SubscriptionStatus.hooks = some kept ∨ kept = .empty) ∧
      ∃ status : SubscriptionStatus, (subscription.status = some status ∨ status = {}) ∧
        decode ((Json.object fields).mergePatch (SubscriptionStatus.patch { hooks := some view })) =
          .ok { subscription with status := some { status with hooks := some (view.laidOver kept) } } := by
  obtain ⟨metadata, spec, status⟩ := decode_ok_iff.mp decoded
  obtain ⟨old, read, was⟩ := Decoder.exists_decode_base {} rfl status
  rw [← Json.fields_getD] at read
  obtain ⟨kept, hooks, wasHooks, merged⟩ := SubscriptionStatus.decode_mergePatch view read
  refine ⟨kept, ?_, ?_, old, was, decode_ok_iff.mpr ⟨?_, ?_, ?_⟩⟩
  · rw [hookFields_eq, ← Json.fields_getD (Table.get? "status" fields)]
    exact hooks
  · rcases was with read | rfl
    · rw [read]
      exact wasHooks
    · rcases wasHooks with impossible | silent
      · cases impossible
      · exact .inr silent
  · exact (Decoder.required_congr _ (Json.get?_patchFields_of_none rfl)).trans metadata
  · exact (Decoder.required_congr _ (Json.get?_patchFields_of_none rfl)).trans spec
  · unfold Decoder.optional
    rw [Json.get?_patchFields]
    exact congrArg (Except.map some) merged

end Subscription

end GitDelivery
