import GitDelivery.Proofs.Resource.HookJob
import GitDelivery.Resource.Channel

set_option autoImplicit false

/-! The specifications and statuses of resources survive being written and read again. -/

namespace GitDelivery

/-! ### Subscriptions and channels -/

theorem lossless_reference : Lossless ObjectReference.decode ObjectReference.toJson := by
  refine ⟨fun reference => ?_, fun _ => Json.ofPresent_ne_null _⟩
  obtain ⟨fields, written, found⟩ :=
    Json.ofPresent_fields reference.toJson rfl (by simp [Table.keys])
  simp only [List.forall_mem_cons] at found
  obtain ⟨name, space, kind, version, -⟩ := found
  rw [written]
  simp only [ObjectReference.decode, Decoder.record,
    Decoder.defaulted_of_found "" (lossless_text.restores _) name, lossless_text.optional space,
    lossless_text.optional kind, lossless_text.optional version, bind, Except.bind, pure, Except.pure]

theorem lossless_requirement : Lossless LabelRequirement.decode LabelRequirement.toJson := by
  refine ⟨fun requirement => ?_, fun _ => Json.ofPresent_ne_null _⟩
  obtain ⟨fields, written, found⟩ :=
    Json.ofPresent_fields requirement.toJson rfl (by simp [Table.keys])
  simp only [List.forall_mem_cons] at found
  obtain ⟨key, operator, values, -⟩ := found
  rw [written]
  simp only [LabelRequirement.decode, Decoder.record, lossless_text.required key,
    lossless_text.required operator, lossless_text.list values, bind, Except.bind, pure, Except.pure]

theorem lossless_selector : Lossless LabelSelector.decode LabelSelector.toJson := by
  refine ⟨fun selector => ?_, fun _ => Json.ofPresent_ne_null _⟩
  obtain ⟨fields, written, found⟩ :=
    Json.ofPresent_fields selector.toJson rfl (by simp [Table.keys])
  simp only [List.forall_mem_cons] at found
  obtain ⟨labels, requirements, -⟩ := found
  rw [written]
  simp only [LabelSelector.decode, Decoder.record, lossless_text.table labels,
    lossless_requirement.list requirements, bind, Except.bind, pure, Except.pure]

theorem lossless_filter : Lossless PackageFilter.decode PackageFilter.toJson := by
  refine ⟨fun filter => ?_, fun _ => Json.ofPresent_ne_null _⟩
  obtain ⟨fields, written, found⟩ :=
    Json.ofPresent_fields filter.toJson rfl (by simp [Table.keys])
  simp only [List.forall_mem_cons] at found
  obtain ⟨selector, annotations, version, pathSource, -⟩ := found
  rw [written]
  simp only [PackageFilter.decode, Decoder.record, lossless_selector.optional selector,
    lossless_text.table annotations, lossless_text.optional version,
    lossless_reference.optional pathSource, bind, Except.bind, pure, Except.pure]

/-- The entries may be any values, and they are written even if there are none. -/
theorem lossless_override : Lossless PackageOverride.decode PackageOverride.toJson := by
  refine ⟨fun override => ?_, fun _ => Json.ofPresent_ne_null _⟩
  obtain ⟨fields, written, found⟩ :=
    Json.ofPresent_fields override.toJson rfl (by simp [Table.keys])
  simp only [List.forall_mem_cons] at found
  obtain ⟨name, displayName, entries, -⟩ := found
  have each : Decoder.each .json (override.entries.map id) = .ok override.entries :=
    Decoder.each_map (fun _ => rfl) override.entries
  rw [List.map_id] at each
  have read : Decoder.list .json (.array override.entries) = .ok override.entries := each
  rw [written]
  simp only [PackageOverride.decode, Decoder.record, lossless_text.required name,
    lossless_text.optional displayName, Decoder.defaulted_of_found [] read entries, bind, Except.bind,
    pure, Except.pure]

theorem lossless_clusterName : Lossless Decoder.clusterName Json.ofClusterName :=
  ⟨fun _ => rfl, nofun⟩

theorem lossless_placement : Lossless Placement.decode Placement.toJson := by
  refine ⟨fun placement => ?_, fun _ => Json.ofPresent_ne_null _⟩
  obtain ⟨fields, written, found⟩ :=
    Json.ofPresent_fields placement.toJson rfl (by simp [Table.keys])
  simp only [List.forall_mem_cons] at found
  obtain ⟨isLocal, clusters, selector, reference, -⟩ := found
  rw [written]
  simp only [Placement.decode, Decoder.record, lossless_bool.optional isLocal,
    lossless_clusterName.list clusters, lossless_selector.optional selector,
    lossless_reference.optional reference, bind, Except.bind, pure, Except.pure]

theorem lossless_hourRange : Lossless HourRange.decode HourRange.toJson := by
  refine ⟨fun range => ?_, nofun⟩
  have asPresent : range.toJson =
      .ofPresent [("start", some (.text range.start)), ("end", some (.text range.stop))] := rfl
  obtain ⟨fields, written, found⟩ :=
    Json.ofPresent_fields range.toJson asPresent (by simp [Table.keys])
  simp only [List.forall_mem_cons] at found
  obtain ⟨start, stop, -⟩ := found
  rw [written]
  simp only [HourRange.decode, Decoder.record, lossless_text.required start,
    lossless_text.required stop, bind, Except.bind, pure, Except.pure]

theorem lossless_timeWindow : Lossless TimeWindow.decode TimeWindow.toJson := by
  refine ⟨fun window => ?_, fun _ => Json.ofPresent_ne_null _⟩
  obtain ⟨fields, written, found⟩ :=
    Json.ofPresent_fields window.toJson rfl (by simp [Table.keys])
  simp only [List.forall_mem_cons] at found
  obtain ⟨kind, location, days, hours, -⟩ := found
  rw [written]
  simp only [TimeWindow.decode, Decoder.record, lossless_text.optional kind,
    lossless_text.optional location, lossless_text.list days, lossless_hourRange.list hours, bind,
    Except.bind, pure, Except.pure]

theorem lossless_kindRule : Lossless KindRule.decode KindRule.toJson := by
  refine ⟨fun rule => ?_, nofun⟩
  have asPresent : rule.toJson = .ofPresent
      [("apiVersion", some (.text rule.apiVersion)), ("kinds", some (Json.texts rule.kinds))] := rfl
  obtain ⟨fields, written, found⟩ :=
    Json.ofPresent_fields rule.toJson asPresent (by simp [Table.keys])
  simp only [List.forall_mem_cons] at found
  obtain ⟨apiVersion, kinds, -⟩ := found
  rw [written]
  simp only [KindRule.decode, Decoder.record,
    Decoder.defaulted_of_found "" (lossless_text.restores _) apiVersion,
    Decoder.defaulted_of_found [] (Decoder.list_texts rule.kinds) kinds, bind, Except.bind, pure,
    Except.pure]

theorem lossless_subscriptionSpec : Lossless SubscriptionSpec.decode SubscriptionSpec.toJson := by
  refine ⟨fun spec => ?_, fun _ => Json.ofPresent_ne_null _⟩
  obtain ⟨fields, written, found⟩ :=
    Json.ofPresent_fields spec.toJson rfl (by simp [Table.keys])
  simp only [List.forall_mem_cons] at found
  obtain ⟨channel, secondaryChannel, package, filter, overrides, placement, timeWindow, hookSecret,
    allow, deny, -⟩ := found
  rw [written]
  simp only [SubscriptionSpec.decode, Decoder.record, lossless_text.required channel,
    lossless_text.optional secondaryChannel, lossless_text.optional package,
    lossless_filter.optional filter, lossless_override.list overrides,
    lossless_placement.optional placement, lossless_timeWindow.optional timeWindow,
    lossless_reference.optional hookSecret, lossless_kindRule.list allow, lossless_kindRule.list deny,
    bind, Except.bind, pure, Except.pure]

theorem lossless_hookStatus : Lossless HookStatus.decode HookStatus.toJson := by
  refine ⟨fun status => ?_, fun _ => Json.ofPresent_ne_null _⟩
  obtain ⟨fields, written, found⟩ :=
    Json.ofPresent_fields status.toJson rfl (by simp [Table.keys])
  simp only [List.forall_mem_cons] at found
  obtain ⟨lastPre, preHistory, lastPost, postHistory, -⟩ := found
  rw [written, HookStatus.decode_ok_iff]
  exact ⟨Decoder.text_of_nonEmpty lastPre, lossless_text.list preHistory,
    Decoder.text_of_nonEmpty lastPost, lossless_text.list postHistory⟩

theorem lossless_subscriptionStatus :
    Lossless SubscriptionStatus.decode SubscriptionStatus.toJson := by
  refine ⟨fun status => ?_, fun _ => Json.ofPresent_ne_null _⟩
  obtain ⟨fields, written, found⟩ :=
    Json.ofPresent_fields status.toJson rfl (by simp [Table.keys])
  simp only [List.forall_mem_cons] at found
  obtain ⟨phase, message, lastUpdateTime, hooks, -⟩ := found
  rw [written, SubscriptionStatus.decode_ok_iff]
  exact ⟨lossless_text.optional phase, lossless_text.optional message,
    lossless_text.optional lastUpdateTime, lossless_hookStatus.optional hooks⟩

theorem lossless_channelSpec : Lossless ChannelSpec.decode ChannelSpec.toJson := by
  refine ⟨fun spec => ?_, fun _ => Json.ofPresent_ne_null _⟩
  obtain ⟨fields, written, found⟩ :=
    Json.ofPresent_fields spec.toJson rfl (by simp [Table.keys])
  simp only [List.forall_mem_cons] at found
  obtain ⟨kind, address, secret, configMap, skips, -⟩ := found
  rw [written]
  simp only [ChannelSpec.decode, Decoder.record, lossless_text.required kind,
    lossless_text.required address, lossless_reference.optional secret,
    lossless_reference.optional configMap,
    Decoder.defaulted_of_found false (lossless_bool.restores _) skips, bind, Except.bind, pure,
    Except.pure]

/-! ### All resources -/

/-- What is read of a value is read again of what is written of it. -/
def Survives {α : Type} (decode : Decoder α) (encode : α → Json) (value : Json) : Prop :=
  ∀ read, decode value = .ok read → decode (encode read) = .ok read

private theorem Lossless.survives {α : Type} {decode : Decoder α} {encode : α → Json}
    (lossless : Lossless decode encode) (value : Json) : Survives decode encode value :=
  fun read _ => lossless.restores read

/-- Subscriptions, channels and hook jobs survive being written and read again, and of hook jobs every
field is written as it was read, but for known optional ones that were null. -/
theorem resources_survive :
    (∀ value, Survives SubscriptionSpec.decode SubscriptionSpec.toJson value ∧
      Survives SubscriptionStatus.decode SubscriptionStatus.toJson value ∧
      Survives ChannelSpec.decode ChannelSpec.toJson value) ∧
    ∀ value : Json, value.InOrder →
      Survives HookJobSpec.decode HookJobSpec.toJson value ∧
      Survives HookJobStatus.decode HookJobStatus.toJson value ∧
      (∀ spec, HookJobSpec.decode value = .ok spec →
        value.Keeps ["tower_auth_secret", "job_template_name", "extra_vars"] spec.toJson) ∧
      ∀ status, HookJobStatus.decode value = .ok status → HookJobStatus.Kept value status.toJson := by
  refine ⟨fun value => ⟨lossless_subscriptionSpec.survives value,
    lossless_subscriptionStatus.survives value, lossless_channelSpec.survives value⟩, ?_⟩
  intro value ordered
  refine ⟨fun spec decoded => ?_, fun status decoded => ?_, fun spec decoded => ?_,
    fun status decoded => ?_⟩
  · obtain ⟨fields, rfl⟩ := Decoder.exists_fields decoded
    exact HookJobSpec.restored ordered decoded
  · obtain ⟨fields, rfl⟩ := Decoder.exists_fields decoded
    exact HookJobStatus.restored ordered decoded
  · obtain ⟨fields, rfl⟩ := Decoder.exists_fields decoded
    obtain ⟨kept, written, keeps, -⟩ := HookJobSpec.kept ordered decoded
    rw [written]
    exact keeps
  · obtain ⟨fields, rfl⟩ := Decoder.exists_fields decoded
    exact HookJobStatus.kept ordered decoded

namespace HookJob.FinishedRun

def spec : Json :=
  .object [("extra_vars", .object [("region", .text "eu")]), ("inventory", .text "edge"),
    ("job_template_name", .null)]

def readSpec : HookJobSpec :=
  ⟨none, none, some (.object [("region", .text "eu")]), [("inventory", .text "edge")]⟩

def status : Json :=
  .object [("ansibleJobResult", .object [("changed", .bool true), ("status", .null)]),
    ("k8sJob", .text "apps/run")]

def readStatus : HookJobStatus :=
  ⟨some ⟨none, [("changed", .bool true)]⟩, [("k8sJob", .text "apps/run")]⟩

private theorem spec_inOrder : spec.InOrder := by
  refine .object (by decide) ?_
  simp only [List.forall_mem_cons]
  refine ⟨.object (by decide) ?_, .plain rfl, .plain rfl, List.forall_mem_nil _⟩
  exact List.forall_mem_singleton.mpr (.plain rfl)

private theorem status_inOrder : status.InOrder := by
  refine .object (by decide) ?_
  simp only [List.forall_mem_cons]
  refine ⟨.object (by decide) ?_, .plain rfl, List.forall_mem_nil _⟩
  simp only [List.forall_mem_cons]
  exact ⟨.plain rfl, .plain rfl, List.forall_mem_nil _⟩

/-- A null template is left out, and fields that have no meaning here are kept, in the result, too. -/
theorem finished_run_survives :
    (spec.InOrder ∧ HookJobSpec.decode spec = .ok readSpec ∧
      HookJobSpec.decode readSpec.toJson = .ok readSpec ∧
      readSpec.toJson.get? "inventory" = some (.text "edge") ∧
      readSpec.toJson.get? "job_template_name" = none) ∧
    status.InOrder ∧ HookJobStatus.decode status = .ok readStatus ∧
      HookJobStatus.decode readStatus.toJson = .ok readStatus ∧
      HookJobStatus.Kept status readStatus.toJson := by
  obtain ⟨restored, -, keeps, -⟩ := resources_survive.2 spec spec_inOrder
  obtain ⟨-, statusRestored, -, kept⟩ := resources_survive.2 status status_inOrder
  have specRead : HookJobSpec.decode spec = .ok readSpec := rfl
  have statusRead : HookJobStatus.decode status = .ok readStatus := rfl
  exact ⟨⟨spec_inOrder, specRead, restored readSpec specRead, keeps readSpec specRead "inventory",
    keeps readSpec specRead "job_template_name"⟩, status_inOrder, statusRead,
    statusRestored readStatus statusRead, kept readStatus statusRead⟩

end HookJob.FinishedRun

end GitDelivery
