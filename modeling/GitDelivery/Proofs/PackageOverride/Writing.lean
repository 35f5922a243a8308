import GitDelivery.Proofs.Json.Assignment
import GitDelivery.Proofs.PackageOverride

set_option autoImplicit false

/-! Writing at one dotted path: when it fails, that it then changes nothing, what is read afterwards, and
that the order of writing at paths that part does not count. -/

namespace GitDelivery.PackageOverride

open Json (at? Blocked Part settled)

variable {path other : String} {value second target written left right : Json}

def keysOf (path : String) : List String :=
  Text.splitAll '.' path

theorem writePath_ok_iff_assignAt :
    writePath path value target = (written, .ok ()) ↔
      Json.assignAt value (keysOf path) (some target) = .ok written := by
  rw [writePath_ok_iff, keysOf]
  cases keys : Text.splitAll '.' path with
  | nil => exact absurd keys (Text.splitAll_ne_nil path)
  | cons key rest => exact Iff.rfl

theorem writePath_cases (path : String) (value target : Json) :
    (∃ written, writePath path value target = (written, .ok ())) ∨
      ∃ failure, writePath path value target = (target, .error failure) := by
  rw [writePath_eq]
  cases Json.assign value (Text.splitAll '.' path) target with
  | ok written => exact .inl ⟨written, rfl⟩
  | error failure => exact .inr ⟨_, rfl⟩

private theorem writePath_ok_iff_free :
    (∃ written, writePath path value target = (written, .ok ())) ↔
      ¬Blocked (keysOf path) (some target) := by
  simp only [writePath_ok_iff_assignAt]
  exact Json.assignAt_ok_iff

theorem writePath_error_iff :
    (∃ failure, (writePath path value target).2 = .error failure) ↔
      Blocked (keysOf path) (some target) := by
  have free : (∃ written, writePath path value target = (written, .ok ())) ↔ _ := writePath_ok_iff_free
  rcases writePath_cases path value target with ⟨written, done⟩ | ⟨failure, failed⟩
  · rw [done]
    have none : ¬Blocked (keysOf path) (some target) := free.mp ⟨written, done⟩
    exact ⟨fun ⟨_, impossible⟩ => (nomatch impossible), fun blocked => absurd blocked none⟩
  · rw [failed]
    have blocked : Blocked (keysOf path) (some target) := by
      apply Classical.byContradiction
      intro none
      obtain ⟨written, done⟩ := free.mpr none
      rw [failed] at done
      cases done
    exact ⟨fun _ => blocked, fun _ => ⟨failure, rfl⟩⟩

/-- Writing at a path fails exactly if something other than an object stands on the way, and then leaves
all as it was. Otherwise the value is read at the path, merged into an object that was there if both are
objects; what is read at paths that part from it is as before, and every key on the way leads to an
object. Two writings at paths that part give the same in both orders. -/
theorem writes_one_path (path : String) (value target : Json) :
    ((∃ failure, (writePath path value target).2 = .error failure) ↔
        ∃ above inner, above <+: keysOf path ∧ above ≠ keysOf path ∧ at? above target = some inner ∧
          inner.isObject = false) ∧
      (∀ left failure, writePath path value target = (left, .error failure) → left = target) ∧
      (∀ written, writePath path value target = (written, .ok ()) →
        at? (keysOf path) written = some (settled (at? (keysOf path) target) value) ∧
          (∀ keys, ¬keys <+: keysOf path → ¬keysOf path <+: keys →
            at? keys written = at? keys target) ∧
          ∀ above, above <+: keysOf path → above ≠ keysOf path →
            ∃ fields, at? above written = some (.object fields)) ∧
      ∀ other second left right, ¬keysOf path <+: keysOf other → ¬keysOf other <+: keysOf path →
        writePath path value target = (left, .ok ()) →
        writePath other second target = (right, .ok ()) →
        ∃ both, writePath other second left = (both, .ok ()) ∧
          writePath path value right = (both, .ok ()) := by
  refine ⟨writePath_error_iff, ?_, ?_, ?_⟩
  · intro left failure failed
    rcases writePath_cases path value target with ⟨written, done⟩ | ⟨_, unchanged⟩
    · rw [done] at failed
      cases failed
    · rw [unchanged] at failed
      exact (Prod.mk.inj failed).1.symm
  · intro written done
    have assigned := writePath_ok_iff_assignAt.mp done
    refine ⟨Json.at?_assignAt assigned, ?_, ?_⟩
    · intro keys apart apartToo
      exact Json.at?_assignAt_of_part assigned ⟨apartToo, apart⟩
    · intro above leads proper
      exact Json.object_above_assignAt assigned leads proper
  · intro other second left right apart apartToo one two
    obtain ⟨both, after, before⟩ := Json.assignAt_comm ⟨apart, apartToo⟩
      (writePath_ok_iff_assignAt.mp one) (writePath_ok_iff_assignAt.mp two)
    exact ⟨both, writePath_ok_iff_assignAt.mpr after, writePath_ok_iff_assignAt.mpr before⟩

def deployment (labels : Table Json) : Json :=
  .object [("spec", .object [("labels", .object labels), ("replicas", Json.ofNat 1)])]

/-- Labels are merged into those that are there, and the number of replicas stays. -/
theorem labels_merged :
    writePath "spec.labels" (.object [("tier", .text "front")]) (deployment [("app", .text "web")]) =
        (deployment [("app", .text "web"), ("tier", .text "front")], .ok ()) ∧
      at? ["spec", "labels"] (deployment [("app", .text "web"), ("tier", .text "front")]) =
        some (settled (some (.object [("app", .text "web")])) (.object [("tier", .text "front")])) ∧
      at? ["spec", "replicas"] (deployment [("app", .text "web"), ("tier", .text "front")]) =
        some (Json.ofNat 1) := by
  have keys : keysOf "spec.labels" = ["spec", "labels"] := by decide
  have done : writePath "spec.labels" (.object [("tier", .text "front")])
      (deployment [("app", .text "web")]) =
        (deployment [("app", .text "web"), ("tier", .text "front")], .ok ()) := by
    rfl
  obtain ⟨read, kept, -⟩ := (writes_one_path "spec.labels" (.object [("tier", .text "front")])
    (deployment [("app", .text "web")])).2.2.1 _ done
  rw [keys] at read kept
  exact ⟨done, read, kept ["spec", "replicas"] (by decide) (by decide)⟩

end GitDelivery.PackageOverride
