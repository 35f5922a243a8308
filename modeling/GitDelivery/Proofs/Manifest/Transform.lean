import GitDelivery.Manifest.Transform

set_option autoImplicit false

/-! The steps that a manifest goes through until it is deployed. -/

namespace GitDelivery.Manifest

variable {isNamespaced : ResourceKind → Bool} {subscription : Subscription} {origin : Origin}
  {item : Deployable}

inductive Given where
  | text (manifest : String)
  | value (object : Json)

namespace Given

def transform (isNamespaced : ResourceKind → Bool) (subscription : Subscription) (origin : Origin) :
    Given → Except TransformError Transformed
  | text manifest => transformText isNamespaced subscription origin manifest
  | value object => Manifest.transform isNamespaced subscription origin object

def object? : Given → Option Json
  | text manifest =>
    match Yaml.parse manifest with
    | .ok document => (structured document).toOption
    | .error _ => none
  | value object => some object

end Given

def placed (isNamespaced : ResourceKind → Bool) (subscription : Subscription) (kind : ResourceKind)
    (object : Json) : Json :=
  if isNamespaced kind then placeInNamespace subscription kind.isSubscription object else object

def applicable (subscription : Subscription) (origin : Origin) (object : Json) : List Json :=
  if origin = .helm then []
  else PackageOverride.entriesFor (nameOf object) subscription.spec.overrides

theorem applyOverrides_ok {object value written : Json}
    (applied : applyOverrides subscription origin (nameOf object) value = .ok written) :
    ∃ count, PackageOverride.applyEntries (applicable subscription origin object) value =
      (written, .ok count) := by
  unfold applyOverrides at applied
  unfold applicable
  split at applied
  · next helm =>
      cases applied
      rw [if_pos helm]
      exact ⟨0, rfl⟩
  · next other =>
      rw [if_neg other]
      cases result : PackageOverride.apply subscription.spec.overrides (nameOf object) value with
      | mk final outcome =>
          rw [result] at applied
          cases outcome with
          | error failure => cases applied
          | ok count =>
              cases applied
              exact ⟨count, result⟩

/-- A structured manifest that is deployed declares its kind, and is decoded after it was placed,
overridden and marked. -/
theorem transform_deploy {object : Json}
    (emitted : transform isNamespaced subscription origin object = .ok (.deploy item)) :
    ∃ written, ResourceKind.declared? object = some item.kind ∧
      applyOverrides subscription origin (nameOf object)
        (placed isNamespaced subscription item.kind object) = .ok written ∧
      DynamicObject.decode (mark subscription item.kind.isSubscription written) =
        .ok item.object := by
  unfold transform at emitted
  cases declared : ResourceKind.declared? object with
  | none =>
      rw [declared] at emitted
      cases emitted
  | some kind =>
      simp only [declared, bind, Except.bind, pure, Except.pure] at emitted
      split at emitted
      · cases emitted
      · split at emitted
        · cases emitted
        · split at emitted
          · cases emitted
          · split at emitted
            · cases emitted
            · next written overridden =>
                split at emitted
                · next result decoded =>
                    cases emitted
                    exact ⟨written, rfl, overridden, decoded⟩
                · cases emitted

theorem transformText_deploy {manifest : String}
    (emitted : transformText isNamespaced subscription origin manifest = .ok (.deploy item)) :
    ∃ document object, Yaml.parse manifest = .ok document ∧ structured document = .ok object ∧
      transform isNamespaced subscription origin object = .ok (.deploy item) := by
  unfold transformText at emitted
  simp only [bind, Except.bind, pure, Except.pure] at emitted
  split at emitted
  · cases emitted
  · next document parsed =>
      split at emitted
      · cases emitted
      · cases represented : structured document with
        | error failure =>
            rw [represented] at emitted
            cases emitted
        | ok object =>
            rw [represented] at emitted
            exact ⟨document, object, parsed, represented, emitted⟩

theorem Given.transform_deploy {given : Given}
    (emitted : given.transform isNamespaced subscription origin = .ok (.deploy item)) :
    ∃ object, given.object? = some object ∧
      Manifest.transform isNamespaced subscription origin object = .ok (.deploy item) := by
  cases given with
  | text manifest =>
      obtain ⟨document, object, parsed, represented, transformed⟩ := transformText_deploy emitted
      refine ⟨object, ?_, transformed⟩
      simp only [object?, parsed, represented]
      rfl
  | value object => exact ⟨object, rfl, emitted⟩

end GitDelivery.Manifest
