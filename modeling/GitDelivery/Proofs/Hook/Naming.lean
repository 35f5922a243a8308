import GitDelivery.Hook.Template
import GitDelivery.Proofs.Text

set_option autoImplicit false

/-! Names of jobs. A job is named after its template and the revision it was made for, with nothing but
dashes between them, and names and versions are free texts. Both can be read off the name again if no dash is
in the last part and none is before the generation's digits. -/

namespace GitDelivery.HookJob

/-- A revision that can be read off the names of its jobs. What is missing counts as zero or as empty. -/
structure HasPlainRevision (subscription : Subscription) : Prop where
  nonneg : 0 ≤ subscription.metadata.generation.getD 0
  plain : '-' ∉ (subscription.metadata.resourceVersion.getD "").toList

section

variable {first second : Subscription} {name other : String}

private theorem dash_not_mem_toString {number : Int} (nonneg : 0 ≤ number) :
    '-' ∉ (toString number).toList := by
  obtain ⟨digits, rfl⟩ := Int.eq_ofNat_of_zero_le nonneg
  intro member
  change '-' ∈ digits.repr.toList at member
  rw [Nat.toList_repr] at member
  exact absurd (Nat.isDigit_of_mem_toDigits (by decide) (by decide) member) (by decide)

private theorem eq_of_toString_eq {number other : Int} (nonneg : 0 ≤ number) (otherNonneg : 0 ≤ other)
    (same : (toString number).toList = (toString other).toList) : number = other := by
  obtain ⟨digits, rfl⟩ := Int.eq_ofNat_of_zero_le nonneg
  obtain ⟨others, rfl⟩ := Int.eq_ofNat_of_zero_le otherNonneg
  change digits.repr.toList = others.repr.toList at same
  rw [Nat.toList_repr, Nat.toList_repr] at same
  have back (number : Nat) : Nat.ofDigitChars 10 (Nat.toDigits 10 number) 0 = number :=
    Nat.ofDigitChars_ten_toDigits
  rw [← back digits, same, back]

/-- A job's name is the template's, a dash and the generation, a dash and the resource version. -/
theorem toList_append_revisionSuffix (subscription : Subscription) (name : String) :
    (name ++ revisionSuffix subscription).toList =
      (name.toList ++ '-' :: (toString (subscription.metadata.generation.getD 0)).toList) ++
        '-' :: (subscription.metadata.resourceVersion.getD "").toList := by
  simp [revisionSuffix, String.toList_append]

private theorem append_revisionSuffix_inj (revision : HasPlainRevision first)
    (otherRevision : HasPlainRevision second)
    (same : name ++ revisionSuffix first = other ++ revisionSuffix second) :
    name = other ∧
      first.metadata.generation.getD 0 = second.metadata.generation.getD 0 ∧
      first.metadata.resourceVersion.getD "" = second.metadata.resourceVersion.getD "" := by
  have chars := congrArg String.toList same
  rw [toList_append_revisionSuffix, toList_append_revisionSuffix] at chars
  -- The resource version is cut off first, and then the generation.
  obtain ⟨fronts, versions⟩ := Text.append_separator_inj revision.plain otherRevision.plain chars
  obtain ⟨names, generations⟩ := Text.append_separator_inj
    (dash_not_mem_toString revision.nonneg) (dash_not_mem_toString otherRevision.nonneg) fronts
  exact ⟨String.toList_injective names,
    eq_of_toString_eq revision.nonneg otherRevision.nonneg generations,
    String.toList_injective versions⟩

/-- Two jobs have one name exactly if their templates have one name and they were made for revisions with
one generation and one resource version. -/
theorem name_ofTemplate_inj (revision : HasPlainRevision first)
    (otherRevision : HasPlainRevision second) (clusters otherClusters : List String)
    (template rival : HookJob) :
    (ofTemplate first (revisionSuffix first) clusters template).metadata.name =
        (ofTemplate second (revisionSuffix second) otherClusters rival).metadata.name ↔
      template.metadata.name.getD "" = rival.metadata.name.getD "" ∧
        first.metadata.generation.getD 0 = second.metadata.generation.getD 0 ∧
        first.metadata.resourceVersion.getD "" = second.metadata.resourceVersion.getD "" := by
  have named (subscription : Subscription) (clusters : List String) (template : HookJob) :
      (ofTemplate subscription (revisionSuffix subscription) clusters template).metadata.name =
        some (template.metadata.name.getD "" ++ revisionSuffix subscription) := rfl
  rw [named, named, Option.some.injEq]
  constructor
  · exact append_revisionSuffix_inj revision otherRevision
  · rintro ⟨names, generations, versions⟩
    simp only [revisionSuffix, names, generations, versions]

end

/-! Two revisions of one subscription, and templates whose names end like numbers. -/

namespace NumberedTemplates

def revised (generation : Int) (version : String) : Subscription :=
  { metadata :=
      { generation := some generation, name := some "web", space := some "apps"
        resourceVersion := some version }
    spec :=
      { channel := "repo", secondaryChannel := none, package := none, filter := none
        overrides := [], placement := none, timeWindow := none, hookSecret := none
        allow := [], deny := [] }
    status := none }

def template (name : String) : HookJob :=
  { metadata := { name := some name }
    spec := { secret := none, template := none, extraVars := none, others := [] }
    status := none }

def nameAt (name : String) (generation : Int) (version : String) : Option String :=
  (ofTemplate (revised generation version) (revisionSuffix (revised generation version)) []
    (template name)).metadata.name

private theorem revised_plain : HasPlainRevision (revised 12 "3") ∧ HasPlainRevision (revised 2 "3") :=
  ⟨⟨by decide, by decide⟩, ⟨by decide, by decide⟩⟩

/-- `notify-12-3` and `notify-1-2-3`. -/
theorem numbered_names_told :
    HasPlainRevision (revised 12 "3") ∧ HasPlainRevision (revised 2 "3") ∧
      nameAt "notify" 12 "3" ≠ nameAt "notify-1" 2 "3" := by
  obtain ⟨revision, otherRevision⟩ := revised_plain
  refine ⟨revision, otherRevision, fun same => ?_⟩
  have names := ((name_ofTemplate_inj revision otherRevision [] [] (template "notify")
    (template "notify-1")).mp same).1
  exact absurd names (by decide)

/-- With a dash in the resource version, names are shared. -/
example : nameAt "notify" 1 "2-3" = nameAt "notify-1" 2 "3" := by decide

end NumberedTemplates

end GitDelivery.HookJob
