import GitDelivery.Hook.Template
import GitDelivery.Proofs.Resource.Decode

set_option autoImplicit false

/-! Every template that is found has a name, and the jobs that are made of templates for one revision
are told apart by the names of their templates. -/

namespace GitDelivery

namespace HookTemplate

def Named (template : HookJob) : Prop :=
  template.metadata.name.getD "" ≠ ""

private theorem ofDocuments_named {file : String} {documents : List String} {found : List HookJob}
    (read : ofDocuments file documents = .ok found) : ∀ template ∈ found, Named template := by
  induction documents generalizing found with
  | nil =>
      cases read
      intro template member
      cases member
  | cons document rest ih =>
      obtain ⟨value, _, read⟩ := except_bind_ok_iff.mp read
      split at read
      · obtain ⟨job, _, read⟩ := except_bind_ok_iff.mp read
        split at read
        · cases read
        · next present =>
            obtain ⟨others, later, same⟩ := except_bind_ok_iff.mp read
            cases same
            have named : Named job := by
              intro blank
              exact present (by rw [blank]; rfl)
            exact List.forall_mem_cons.mpr ⟨named, ih later⟩
      · exact ih read

private theorem ofFile_named {file : String} {content : Bytes} {found : List HookJob}
    (read : ofFile file content = .ok found) : ∀ template ∈ found, Named template := by
  unfold ofFile at read
  split at read
  · exact ofDocuments_named read
  · cases read

mutual

theorem ofEntry_named (path name : String) {found : List HookJob} :
    (entry : FileTree) → ofEntry path name entry = .ok found → ∀ template ∈ found, Named template
  | .file content, read => by
      rw [ofEntry] at read
      split at read
      · exact ofFile_named read
      · cases read
        simp
  | .link _, read => by
      rw [ofEntry] at read
      cases read
      simp
  | .directory children, read => by
      rw [ofEntry] at read
      exact ofChildren_named path children read

theorem ofChildren_named (path : String) {found : List HookJob} :
    (children : List (String × FileTree)) → ofChildren path children = .ok found →
      ∀ template ∈ found, Named template
  | [], read => by
      rw [ofChildren] at read
      cases read
      simp
  | (name, entry) :: rest, read => by
      rw [ofChildren] at read
      obtain ⟨early, first, read⟩ := except_bind_ok_iff.mp read
      obtain ⟨late, second, same⟩ := except_bind_ok_iff.mp read
      cases same
      exact List.forall_mem_append.mpr
        ⟨ofEntry_named _ name entry first, ofChildren_named path rest second⟩

end

theorem discover_named {tree : FileTree} {directory : String} {found : List HookJob}
    (discovered : discover tree directory = .ok found) : ∀ template ∈ found, Named template := by
  unfold discover at discovered
  split at discovered
  · exact ofChildren_named _ _ discovered
  · cases discovered
    simp

theorem Named.anyName {template : HookJob} (named : Named template) :
    template.metadata.anyName = template.metadata.name.getD "" := by
  unfold Metadata.anyName
  cases present : template.metadata.name with
  | none => exact absurd (by rw [present]; rfl) named
  | some name => rfl

end HookTemplate

namespace HookJob

variable {subscription : Subscription} {suffix : String} {clusters : List String}

/-- Jobs for one revision share a key exactly if their templates share a name. -/
theorem key_ofTemplate_inj {first second : HookJob} (named : HookTemplate.Named first)
    (otherNamed : HookTemplate.Named second) :
    (ofTemplate subscription suffix clusters first).key =
        (ofTemplate subscription suffix clusters second).key ↔
      first.metadata.anyName = second.metadata.anyName := by
  have key (template : HookJob) : (ofTemplate subscription suffix clusters template).key =
      ⟨subscription.space, template.metadata.name.getD "" ++ suffix⟩ := rfl
  rw [key, key, named.anyName, otherNamed.anyName]
  constructor
  · intro same
    have names := congrArg ObjectKey.name same
    exact (String.append_left_inj suffix).mp names
  · intro same
    rw [same]

end HookJob

end GitDelivery
