import GitDelivery.Proofs.Manifest.Metadata
import GitDelivery.Proofs.Manifest.Transform

set_option autoImplicit false

/-! What a subscription writes on an object: where it lives, who deploys it, how it is brought in line,
which application it belongs to, and on whose behalf it acts. -/

namespace GitDelivery.Manifest

variable {subscription : Subscription} {nested : Bool} {object : Json} {name : String}

/-! ### Annotations -/

theorem annotationOf?_annotate (shaped : (metadataOf? object).isSome = true) (key value name : String) :
    annotationOf? name (annotate key value object) =
      if name = key then some value else annotationOf? name object := by
  rw [annotationOf?_eq, annotationOf?_eq, annotate, entryAt_setMetadataEntry shaped]
  by_cases same : name = key
  · simp [same, Json.text?]
  · simp [same]

theorem edits_annotate (key value : String) (object : Json) :
    EditsMetadata ["annotations"] object (annotate key value object) :=
  edits_setMetadataEntry "annotations" key value object

/-- How an object is brought in line: as it says itself, else as its subscription says. -/
def reconcileOption (subscription : Subscription) (own : Option String) : String :=
  let given := (subscription.annotation? Vocabulary.reconcileOption).bind Text.nonEmpty?
  (own.bind Text.nonEmpty?).getD (given.getD "merge")

def markAdmin (subscription : Subscription) (object : Json) : Json :=
  if subscription.isClusterAdmin then annotate Vocabulary.clusterAdmin "true" object else object

theorem markDeployment_eq (subscription : Subscription) (object : Json) :
    markDeployment subscription object =
      if ((annotationOf? Vocabulary.reconcileOption (markAdmin subscription object)).bind
          Text.nonEmpty?).isSome then markAdmin subscription object
      else
        annotate Vocabulary.reconcileOption (reconcileOption subscription none)
          (markAdmin subscription object) :=
  rfl

theorem edits_markAdmin (subscription : Subscription) (object : Json) :
    EditsMetadata ["annotations"] object (markAdmin subscription object) := by
  unfold markAdmin
  split
  · exact edits_annotate _ _ object
  · exact .refl _ object

theorem edits_markDeployment (subscription : Subscription) (object : Json) :
    EditsMetadata ["annotations"] object (markDeployment subscription object) := by
  rw [markDeployment_eq]
  split
  · exact edits_markAdmin subscription object
  · exact (edits_markAdmin subscription object).trans (edits_annotate _ _ _)

private theorem annotationOf?_markAdmin (subscription : Subscription)
    (shaped : (metadataOf? object).isSome = true) (name : String) :
    annotationOf? name (markAdmin subscription object) =
      if name = Vocabulary.clusterAdmin ∧ subscription.isClusterAdmin = true then some "true"
      else annotationOf? name object := by
  unfold markAdmin
  cases subscription.isClusterAdmin with
  | false => simp
  | true => simp [annotationOf?_annotate shaped]

theorem nonEmpty_eq {text given : String} (found : Text.nonEmpty? text = some given) : given = text := by
  unfold Text.nonEmpty? at found
  split at found <;> cases found
  rfl

theorem annotationOf?_markDeployment (shaped : (metadataOf? object).isSome = true) (name : String) :
    annotationOf? name (markDeployment subscription object) =
      if name = Vocabulary.reconcileOption then
        some (reconcileOption subscription (annotationOf? Vocabulary.reconcileOption object))
      else if name = Vocabulary.clusterAdmin ∧ subscription.isClusterAdmin = true then some "true"
      else annotationOf? name object := by
  have apart : ¬ (Vocabulary.reconcileOption = Vocabulary.clusterAdmin ∧
      subscription.isClusterAdmin = true) := by
    rintro ⟨same, _⟩
    revert same
    decide
  have own := annotationOf?_markAdmin subscription shaped Vocabulary.reconcileOption
  rw [if_neg apart] at own
  rw [markDeployment_eq, own]
  cases said : (annotationOf? Vocabulary.reconcileOption object).bind Text.nonEmpty? with
  | some option =>
      rw [Option.isSome_some, if_pos rfl]
      by_cases same : name = Vocabulary.reconcileOption
      · obtain ⟨text, written, full⟩ := Option.bind_eq_some_iff.mp said
        rw [if_pos same, same, own, reconcileOption, said, written, Option.getD_some,
          nonEmpty_eq full]
      · rw [if_neg same, annotationOf?_markAdmin subscription shaped]
  | none =>
      rw [if_neg (by simp)]
      rw [annotationOf?_annotate ((edits_markAdmin subscription object).shaped.trans shaped),
        annotationOf?_markAdmin subscription shaped]
      simp only [reconcileOption, said, Option.bind_none, Option.getD_none]

/-! ### Placing -/

theorem edits_placed (isNamespaced : ResourceKind → Bool) (subscription : Subscription)
    (kind : ResourceKind) (object : Json) :
    EditsMetadata ["annotations", "namespace"] object
      (placed isNamespaced subscription kind object) := by
  have moved : EditsMetadata ["annotations", "namespace"] object
      (setNamespace subscription.space object) :=
    (edits_setMetadataField "namespace" _ object).weaken (by simp)
  unfold placed placeInNamespace
  cases isNamespaced kind with
  | false => exact .refl _ object
  | true =>
      cases subscription.isClusterAdmin with
      | false => exact moved
      | true =>
          have put (stay : Prop) [Decidable stay] : EditsMetadata ["annotations", "namespace"] object
              (if stay then setNamespace subscription.space object else object) := by
            split
            · exact moved
            · exact .refl _ object
          cases kind.isSubscription with
          | false => exact put _
          | true => exact (put _).trans ((edits_annotate _ _ _).weaken (by simp))

/-- Only the mark of cluster admins may be written early. -/
theorem annotationOf?_placed (isNamespaced : ResourceKind → Bool) (subscription : Subscription)
    (kind : ResourceKind) (shaped : (metadataOf? object).isSome = true)
    (other : name ≠ Vocabulary.clusterAdmin ∨ subscription.isClusterAdmin = false) :
    annotationOf? name (placed isNamespaced subscription kind object) = annotationOf? name object := by
  have moved : annotationOf? name (setNamespace subscription.space object) =
      annotationOf? name object := by
    rw [annotationOf?_eq, annotationOf?_eq, setNamespace,
      (edits_setMetadataField _ _ object).entryAt_eq (by decide)]
  unfold placed placeInNamespace
  cases isNamespaced kind with
  | false => rfl
  | true =>
      cases admin : subscription.isClusterAdmin with
      | false => exact moved
      | true =>
          have different : name ≠ Vocabulary.clusterAdmin := by simpa [admin] using other
          have put (stay : Prop) [Decidable stay] :
              (metadataOf? (if stay then setNamespace subscription.space object else object)).isSome =
                  true ∧
                annotationOf? name (if stay then setNamespace subscription.space object else object) =
                  annotationOf? name object := by
            split
            · exact ⟨(edits_setMetadataField "namespace" _ object).shaped.trans shaped, moved⟩
            · exact ⟨shaped, rfl⟩
          cases kind.isSubscription with
          | false => exact (put _).2
          | true =>
              simp only [if_true]
              rw [annotationOf?_annotate (put _).1, if_neg different, (put _).2]

/-! ### Labels -/

/-- What stands in place of labels or annotations says what `own` says: it is a table of these texts, or
nothing that has entries. -/
inductive Says (own : String → Option String) : Option Json → Prop where
  | texts {table : Table String} : (∀ key, Table.get? key table = own key) →
      Says own (some (Json.ofTable .text table))
  | nothing {value : Option Json} : value.bind Json.fields? = none → (∀ key, own key = none) →
      Says own value

theorem get?_ofTable (key : String) (table : Table String) :
    (Json.ofTable .text table).get? key = (Table.get? key table).map .text := by
  change Table.get? key (table.map fun pair => (pair.1, Json.text pair.2)) = _
  induction table with
  | nil => rfl
  | cons pair rest ih =>
      obtain ⟨name, text⟩ := pair
      by_cases same : name = key
      · simp [Table.get?, same]
      · simpa [Table.get?, same] using ih

private theorem onlyTexts_ofTable (table : Table String) :
    onlyTexts (table.map fun pair => (pair.1, Json.text pair.2)) = table := by
  induction table with
  | nil => rfl
  | cons pair rest ih => rw [List.map_cons, onlyTexts, ih]

namespace Says

variable {own : String → Option String} {field : String}

theorem entry {value : Option Json} (holds : Says own value) (key : String) :
    value.bind (Json.get? key) = (own key).map .text := by
  cases holds with
  | texts same => rw [Option.bind_some, get?_ofTable, same]
  | nothing none silent =>
      rw [silent key]
      cases value with
      | none => rfl
      | some value =>
          cases value with
          | object fields => cases none
          | _ => rfl

theorem text {value : Option Json} (holds : Says own value) (key : String) :
    (value.bind (Json.get? key)).bind Json.text? = own key := by
  rw [holds.entry key]
  cases own key <;> rfl

private theorem get?_metadataTexts (holds : Says own (metadataAt field object)) (key : String) :
    Table.get? key (metadataTexts field object) = own key := by
  unfold metadataTexts
  rw [bind_get?_metadata]
  generalize metadataAt field object = value at holds
  cases holds with
  | texts same =>
      change Table.get? key (onlyTexts (List.map _ _)) = own key
      rw [onlyTexts_ofTable, same]
  | nothing none silent =>
      rw [silent key]
      cases value with
      | none => rfl
      | some value =>
          cases value with
          | object fields => cases none
          | _ => rfl

end Says

def application (subscription : Subscription) : String :=
  let label := (subscription.label? Vocabulary.partOfLabel).or
    (subscription.label? Vocabulary.appLabel)
  (label.bind Text.nonEmpty?).getD subscription.name

theorem edits_markApplication (subscription : Subscription) (object : Json) :
    EditsMetadata ["labels"] object (markApplication subscription object) := by
  unfold markApplication
  dsimp only
  split
  · exact .refl _ object
  · exact edits_setMetadataEntry "labels" _ _ object

def labelled (subscription : Subscription) (own : String → Option String) (name : String) :
    Option String :=
  if name = Vocabulary.partOfLabel then
    some (((own name).bind Text.nonEmpty?).getD (application subscription))
  else own name

/-- Labels that name no application get the subscription's. -/
theorem entryAt_markApplication (subscription : Subscription) {own : String → Option String}
    (shaped : (metadataOf? object).isSome = true) (holds : Says own (metadataAt "labels" object))
    (name : String) :
    entryAt "labels" name (markApplication subscription object) =
      (labelled subscription own name).map .text := by
  have before : entryAt "labels" name object = (own name).map .text := holds.entry name
  unfold labelled
  unfold markApplication
  dsimp only
  rw [holds.get?_metadataTexts]
  cases said : (own Vocabulary.partOfLabel).bind Text.nonEmpty? with
  | some label =>
      rw [Option.isSome_some, if_pos rfl, before]
      by_cases same : name = Vocabulary.partOfLabel
      · obtain ⟨text, written, full⟩ := Option.bind_eq_some_iff.mp said
        rw [if_pos same, same, said, written, Option.getD_some, nonEmpty_eq full]
      · rw [if_neg same]
  | none =>
      rw [Option.isSome_none, if_neg Bool.false_ne_true, entryAt_setMetadataEntry shaped]
      by_cases same : name = Vocabulary.partOfLabel
      · simp [same, application, said]
      · simp [same, before]

/-! ### Identity -/

theorem edits_markIdentity (subscription : Subscription) (object : Json) :
    EditsMetadata ["annotations"] object (markIdentity subscription object) := by
  unfold markIdentity
  cases subscription.userIdentity? with
  | none =>
      cases subscription.userGroup? with
      | none => exact .refl _ object
      | some group => exact edits_annotate _ _ object
  | some user =>
      cases subscription.userGroup? with
      | none => exact edits_annotate _ _ object
      | some group => exact (edits_annotate _ _ object).trans (edits_annotate _ _ _)

/-- The subscription's own identity goes before the one that the object has. -/
theorem annotationOf?_markIdentity (shaped : (metadataOf? object).isSome = true) (name : String) :
    annotationOf? name (markIdentity subscription object) =
      if name = Vocabulary.userIdentity then
        subscription.userIdentity?.or (annotationOf? name object)
      else if name = Vocabulary.userGroup then
        subscription.userGroup?.or (annotationOf? name object)
      else annotationOf? name object := by
  have apart : Vocabulary.userIdentity ≠ Vocabulary.userGroup := by decide
  unfold markIdentity
  cases subscription.userIdentity? with
  | none =>
      cases subscription.userGroup? with
      | none => simp
      | some group =>
          simp only [annotationOf?_annotate shaped, Option.none_or, Option.some_or]
          by_cases user : name = Vocabulary.userIdentity
          · simp [user, apart]
          · simp [user]
  | some user =>
      cases subscription.userGroup? with
      | none => simp [annotationOf?_annotate shaped]
      | some group =>
          have after : (metadataOf? (annotate Vocabulary.userIdentity user object)).isSome = true :=
            (edits_annotate _ _ object).shaped.trans shaped
          simp only [annotationOf?_annotate after, annotationOf?_annotate shaped, Option.some_or]
          by_cases user : name = Vocabulary.userIdentity
          · simp [user, apart]
          · simp [user]

/-! ### All marks -/

def stamped (subscription : Subscription) (nested : Bool) (own : String → Option String)
    (name : String) : Option String :=
  if name = Vocabulary.clusterAdmin then
    if subscription.isClusterAdmin then some "true" else own name
  else if name = Vocabulary.reconcileOption then some (reconcileOption subscription (own name))
  else if name = Vocabulary.userIdentity then
    if nested then subscription.userIdentity?.or (own name) else own name
  else if name = Vocabulary.userGroup then
    if nested then subscription.userGroup?.or (own name) else own name
  else own name

theorem stamped_congr {own other : String → Option String}
    (same : ∀ name, name ≠ Vocabulary.clusterAdmin ∨ subscription.isClusterAdmin = false →
      own name = other name) (name : String) :
    stamped subscription nested own name = stamped subscription nested other name := by
  by_cases admin : name = Vocabulary.clusterAdmin ∧ subscription.isClusterAdmin = true
  · simp [stamped, admin.1, admin.2]
  · have known : own name = other name := by
      apply same
      by_cases mark : name = Vocabulary.clusterAdmin
      · exact .inr (Bool.eq_false_iff.mpr fun isAdmin => admin ⟨mark, isAdmin⟩)
      · exact .inl mark
    unfold stamped
    rw [known]

theorem edits_mark (subscription : Subscription) (nested : Bool) (object : Json) :
    EditsMetadata ["annotations", "labels"] object (mark subscription nested object) := by
  have marked : EditsMetadata ["annotations", "labels"] object
      (markApplication subscription (markDeployment subscription object)) :=
    ((edits_markDeployment subscription object).weaken (by simp)).trans
      ((edits_markApplication subscription _).weaken (by simp))
  unfold mark
  cases nested with
  | false => exact marked
  | true => exact marked.trans ((edits_markIdentity subscription _).weaken (by simp))

theorem entryAt_mark {own : String → Option String} (shaped : (metadataOf? object).isSome = true)
    (holds : Says own (metadataAt "labels" object)) (name : String) :
    entryAt "labels" name (mark subscription nested object) =
      (labelled subscription own name).map .text := by
  have deployed := edits_markDeployment subscription object
  have saysDeployed : Says own (metadataAt "labels" (markDeployment subscription object)) := by
    rw [deployed.metadata "labels" (by decide)]
    exact holds
  have marked := entryAt_markApplication subscription (deployed.shaped.trans shaped) saysDeployed name
  unfold mark
  cases nested with
  | false => exact marked
  | true => exact ((edits_markIdentity subscription _).entryAt_eq (by decide) name).trans marked

theorem annotationOf?_mark (shaped : (metadataOf? object).isSome = true) (name : String) :
    annotationOf? name (mark subscription nested object) =
      stamped subscription nested (fun key => annotationOf? key object) name := by
  have deployed := (edits_markDeployment subscription object).shaped.trans shaped
  have applied := edits_markApplication subscription (markDeployment subscription object)
  have known (key : String) :
      annotationOf? key (markApplication subscription (markDeployment subscription object)) =
        annotationOf? key (markDeployment subscription object) := by
    rw [annotationOf?_eq, annotationOf?_eq, applied.entryAt_eq (by decide)]
  have marked : annotationOf? name (mark subscription nested object) =
      if nested ∧ name = Vocabulary.userIdentity then
        subscription.userIdentity?.or (annotationOf? name (markDeployment subscription object))
      else if nested ∧ name = Vocabulary.userGroup then
        subscription.userGroup?.or (annotationOf? name (markDeployment subscription object))
      else annotationOf? name (markDeployment subscription object) := by
    unfold mark
    cases nested with
    | false => simp [known]
    | true => simp [annotationOf?_markIdentity (applied.shaped.trans deployed), known]
  have distinct : [Vocabulary.clusterAdmin, Vocabulary.reconcileOption, Vocabulary.userIdentity,
      Vocabulary.userGroup].Nodup := by decide
  simp only [List.nodup_cons, List.mem_cons, not_or] at distinct
  rw [marked, annotationOf?_markDeployment shaped]
  unfold stamped
  cases nested <;> cases subscription.isClusterAdmin <;> grind

end GitDelivery.Manifest
