import GitDelivery.Proofs.FileTree.Rewriting
import GitDelivery.Proofs.Manifest.Targeting
import GitDelivery.Proofs.Yaml.Document
import Mathlib.Data.List.Forall2

set_option autoImplicit false

/-! Overrides are laid over a kustomization as a whole or not at all. Patches are merged one by one, and any
of them may be refused, but the file is written last. So nothing that was merged in part is ever in a file,
and what is written is the document with all the patches that are meant for it. -/

namespace GitDelivery.Manifest.Kustomization

/-! ### The work step by step -/

/-- Work on a tree that may fail. What was written before a failure stays written. -/
abbrev OnTree := ExceptT Failure (StateM FileTree)

def OnTree.on {α : Type} (work : OnTree α) (tree : FileTree) : Except Failure α × FileTree :=
  work.run.run tree

def OnTree.look {α : Type} (read : FileTree → Except Failure α) : OnTree α :=
  ExceptT.mk (return read (← get))

def layEntry (relative : String) (value entry : Json) : OnTree Json :=
  if (patchOf entry).isObject then return value.merge (patchOf entry)
  else throw (.notAnObject relative (patchOf entry))

def layPackage (relative : String) (value : Json) (package : PackageOverride) : OnTree Json :=
  package.entries.foldlM (layEntry relative) value

def fileIn (directory : String) (tree : FileTree) : Except Failure String :=
  (file? tree directory).elim (.error (.noFile directory)) .ok

/-- Lays overrides over a kustomization on the files as they are: reads its file, merges package by
package and entry by entry, and writes the file. -/
def overrideInPlace (overrides : List PackageOverride) (relative directory : String) : OnTree Bool := do
  let relative := Text.trimChar '/' relative
  let meant := overrides.filter (isMeantFor relative)
  if meant.isEmpty then return false
  let file ← OnTree.look (fileIn directory)
  let value ← OnTree.look (content · file)
  let merged ← meant.foldlM (layPackage relative) value
  modify (FileTree.rewrite file (Bytes.ofText (Yaml.render merged)))
  return true

namespace OnTree

variable {α β : Type}

private theorem on_look (read : FileTree → Except Failure α) (tree : FileTree) :
    on (look read) tree = (read tree, tree) :=
  rfl

theorem on_bind (work : OnTree α) (next : α → OnTree β) (tree : FileTree) :
    on (work >>= next) tree =
      match on work tree with
      | (.ok value, left) => on (next value) left
      | (.error failure, left) => (.error failure, left) := by
  unfold on
  rw [ExceptT.run_bind, StateT.run_bind]
  change (_ : Id _) = _
  rcases work.run.run tree with ⟨_ | _, left⟩ <;> rfl

end OnTree

section

variable {overrides : List PackageOverride} {relative directory file : String}
  {tree left : FileTree} {value document : Json}

/-! ### Merging -/

private theorem mergePatches_append (patches more : List Json) (value : Json) :
    mergePatches relative (patches ++ more) value =
      mergePatches relative patches value >>= mergePatches relative more := by
  induction patches generalizing value with
  | nil => rfl
  | cons patch rest ih =>
      rw [List.cons_append, mergePatches, mergePatches]
      split
      · exact ih _
      · rfl

theorem mergePatches_ok_iff {patches : List Json} {merged : Json} :
    mergePatches relative patches value = .ok merged ↔
      (∀ patch ∈ patches, patch.isObject = true) ∧ merged = patches.foldl Json.merge value := by
  induction patches generalizing value with
  | nil =>
      rw [mergePatches, Except.ok.injEq]
      exact ⟨fun same => ⟨List.forall_mem_nil _, same.symm⟩, fun same => same.2.symm⟩
  | cons patch rest ih =>
      rw [mergePatches, List.forall_mem_cons, List.foldl_cons]
      by_cases object : patch.isObject = true
      · rw [if_pos object, ih, and_iff_right object]
      · rw [if_neg object]
        exact iff_of_false nofun fun both => object both.1.1

/-- The entries of one package are merged up to the first that is no object, and nothing is written. -/
theorem on_layPackage (package : PackageOverride) (value : Json) (tree : FileTree) :
    (layPackage relative value package).on tree =
      (mergePatches relative (package.entries.map patchOf) value, tree) := by
  unfold layPackage
  induction package.entries generalizing value with
  | nil => rfl
  | cons entry rest ih =>
      rw [List.foldlM_cons, OnTree.on_bind, layEntry, List.map_cons, mergePatches]
      by_cases object : (patchOf entry).isObject = true
      · rw [if_pos object, if_pos object]
        exact ih _
      · rw [if_neg object, if_neg object]
        rfl

private theorem on_layPackages (packages : List PackageOverride) (value : Json) (tree : FileTree) :
    (packages.foldlM (layPackage relative) value : OnTree Json).on tree =
      (mergePatches relative ((packages.flatMap PackageOverride.entries).map patchOf) value, tree) := by
  induction packages generalizing value with
  | nil => rfl
  | cons package rest ih =>
      rw [List.foldlM_cons, OnTree.on_bind, on_layPackage, List.flatMap_cons, List.map_append,
        mergePatches_append]
      cases mergePatches relative (package.entries.map patchOf) value with
      | error failure => rfl
      | ok merged => exact ih merged

/-- Step by step the same comes out, and after a failure the tree is as it was. -/
theorem on_overrideInPlace :
    (overrideInPlace overrides relative directory).on tree =
      match override overrides relative directory tree with
      | .ok (changed, laid) => (.ok changed, laid)
      | .error failure => (.error failure, tree) := by
  unfold overrideInPlace override
  dsimp only
  cases overrides.filter (isMeantFor (Text.trimChar '/' relative)) with
  | nil => rfl
  | cons first rest =>
      change OnTree.on (OnTree.look (fileIn directory) >>= _) tree = _
      rw [OnTree.on_bind, OnTree.on_look, fileIn]
      cases file? tree directory with
      | none => rfl
      | some file =>
          change OnTree.on (OnTree.look (content · file) >>= _) tree = _
          rw [OnTree.on_bind, OnTree.on_look]
          dsimp only
          cases content tree file with
          | error failure => rfl
          | ok value =>
              change OnTree.on (List.foldlM _ _ _ >>= _) tree = _
              rw [OnTree.on_bind, on_layPackages, except_ok_bind]
              cases mergePatches _ _ value with
              | error failure => rfl
              | ok merged => rfl

/-! ### What is laid -/

/-- An entry lays its value over the kustomization if it has one, and itself otherwise. -/
inductive IsPatchOf : Json → Json → Prop where
  | value {fields : Table Json} {patch : Json} (given : Table.get? "value" fields = some patch) :
      IsPatchOf (.object fields) patch
  | whole {entry : Json} (bare : ∀ fields, entry = .object fields → Table.get? "value" fields = none) :
      IsPatchOf entry entry

/-- The name of an override means the kustomization in a directory, or that of the whole repository. -/
def Means (relative name : String) : Prop :=
  directoryMeant name = relative ∨ (relative = "" ∧ directoryMeant name = ".")

/-- The patches that overrides lay over a kustomization: those of every override that means it, override by
override and entry by entry. -/
inductive Patches (relative : String) : List PackageOverride → List Json → Prop where
  | nil : Patches relative [] []
  | meant {package : PackageOverride} {rest : List PackageOverride} {own later : List Json}
      (means : Means relative package.name) (each : List.Forall₂ IsPatchOf package.entries own)
      (others : Patches relative rest later) : Patches relative (package :: rest) (own ++ later)
  | other {package : PackageOverride} {rest : List PackageOverride} {later : List Json}
      (unmeant : ¬ Means relative package.name) (others : Patches relative rest later) :
      Patches relative (package :: rest) later

theorem isPatchOf_iff {entry patch : Json} : IsPatchOf entry patch ↔ patchOf entry = patch := by
  constructor
  · intro made
    cases made with
    | value given => exact congrArg (Option.getD · _) given
    | whole bare =>
        cases entry with
        | object fields => exact congrArg (Option.getD · _) (bare fields rfl)
        | _ => rfl
  · rintro rfl
    cases entry with
    | object fields =>
        have own : patchOf (.object fields) = (Table.get? "value" fields).getD (.object fields) := rfl
        rw [own]
        cases given : Table.get? "value" fields with
        | some patch => exact .value given
        | none =>
            refine .whole fun _ same => ?_
            cases same
            exact given
    | _ => exact .whole nofun

theorem forall₂_isPatchOf_iff {entries patches : List Json} :
    List.Forall₂ IsPatchOf entries patches ↔ entries.map patchOf = patches := by
  have same : IsPatchOf = fun entry patch => patchOf entry = patch := by
    funext entry patch
    exact propext isPatchOf_iff
  rw [same, ← List.forall₂_map_left_iff, List.forall₂_eq_eq_eq]

theorem patches_iff {patches : List Json} :
    Patches relative overrides patches ↔
      ((overrides.filter (isMeantFor relative)).flatMap PackageOverride.entries).map patchOf = patches := by
  induction overrides generalizing patches with
  | nil =>
      constructor
      · rintro ⟨⟩
        rfl
      · rintro rfl
        exact .nil
  | cons package rest ih =>
      by_cases meant : isMeantFor relative package = true
      · rw [List.filter_cons_of_pos meant, List.flatMap_cons, List.map_append]
        have means : Means relative package.name := isMeantFor_iff.mp meant
        constructor
        · intro laid
          cases laid with
          | meant _ each others => rw [forall₂_isPatchOf_iff.mp each, ih.mp others]
          | other unmeant _ => exact absurd means unmeant
        · rintro rfl
          exact .meant means (forall₂_isPatchOf_iff.mpr rfl) (ih.mpr rfl)
      · rw [List.filter_cons_of_neg meant]
        have unmeant : ¬ Means relative package.name := fun means => meant (isMeantFor_iff.mpr means)
        constructor
        · intro laid
          cases laid with
          | meant means _ _ => exact absurd means unmeant
          | other _ others => exact ih.mp others
        · exact fun same => .other unmeant (ih.mpr same)

/-! ### What is written -/

def IsFileOf (tree : FileTree) (directory file : String) : Prop :=
  ∃ earlier name later,
    ["kustomization.yaml", "kustomization.yml", "Kustomization"] = earlier ++ name :: later ∧
      file = FilePath.push directory name ∧ tree.isFile file = true ∧
      ∀ other ∈ earlier, tree.isFile (FilePath.push directory other) = false

/-- What the file of a kustomization says. A document that is null says the same as an empty object. -/
def Says (tree : FileTree) (file : String) (value : Json) : Prop :=
  ∃ text document found, tree.readText file = .ok text ∧ Yaml.parse text = .ok document ∧
    document.toJson = .ok found ∧ value = if found.isNull then .object [] else found

theorem file?_eq_some_iff : file? tree directory = some file ↔ IsFileOf tree directory file := by
  unfold file? IsFileOf
  rw [List.find?_map, Option.map_eq_some_iff]
  simp only [List.find?_eq_some_iff_append]
  constructor
  · rintro ⟨name, ⟨isFile, earlier, later, names, before⟩, rfl⟩
    exact ⟨earlier, name, later, names, rfl, isFile, by simpa using before⟩
  · rintro ⟨earlier, name, later, names, rfl, isFile, before⟩
    exact ⟨name, ⟨isFile, earlier, later, names, by simpa using before⟩, rfl⟩

private theorem mapError_ok_iff {ε δ α : Type} {result : Except ε α} {cause : ε → δ} {value : α} :
    result.mapError cause = .ok value ↔ result = .ok value := by
  cases result with
  | error failure => exact iff_of_false nofun nofun
  | ok found =>
      constructor <;>
        · intro same
          cases same
          rfl

theorem content_ok_iff : content tree file = .ok value ↔ Says tree file value := by
  unfold content Says
  simp only [except_bind_ok_iff, mapError_ok_iff]
  constructor
  · rintro ⟨text, read, document, parsed, found, converted, same⟩
    exact ⟨text, document, found, read, parsed, converted, (Except.ok.inj same).symm⟩
  · rintro ⟨text, document, found, read, parsed, converted, rfl⟩
    exact ⟨text, read, document, parsed, found, converted, rfl⟩

def IsMeant (overrides : List PackageOverride) (relative : String) : Prop :=
  ∃ package ∈ overrides, Means (Text.trimChar '/' relative) package.name

theorem isMeant_iff :
    IsMeant overrides relative ↔ overrides.filter (isMeantFor (Text.trimChar '/' relative)) ≠ [] := by
  rw [ne_eq, List.filter_eq_nil_iff]
  simp only [IsMeant, Means, ← isMeantFor_iff, not_forall, not_not, exists_prop]

/-- A file is written exactly if an override is meant for the kustomization, its file can be read and all
patches are objects. -/
theorem override_written_iff :
    override overrides relative directory tree = .ok (true, left) ↔
      IsMeant overrides relative ∧ ∃ file value patches, IsFileOf tree directory file ∧
        Says tree file value ∧ Patches (Text.trimChar '/' relative) overrides patches ∧
        (∀ patch ∈ patches, patch.isObject = true) ∧
        left = tree.rewrite file (Bytes.ofText (Yaml.render (patches.foldl Json.merge value))) := by
  unfold override
  simp only [isMeant_iff, patches_iff]
  cases overrides.filter (isMeantFor (Text.trimChar '/' relative)) with
  | nil => exact iff_of_false nofun fun both => both.1 rfl
  | cons first rest =>
      rw [and_iff_right (List.cons_ne_nil first rest)]
      simp only [← file?_eq_some_iff]
      cases file? tree directory with
      | none => exact iff_of_false nofun nofun
      | some file =>
          simp only [except_bind_ok_iff, content_ok_iff, mergePatches_ok_iff]
          constructor
          · rintro ⟨value, said, _, ⟨objects, rfl⟩, same⟩
            cases same
            exact ⟨file, value, _, rfl, said, rfl, objects, rfl⟩
          · rintro ⟨_, value, _, same, said, rfl, objects, rfl⟩
            cases same
            exact ⟨value, said, _, ⟨objects, rfl⟩, rfl⟩

inductive Overlaid (overrides : List PackageOverride) (relative directory : String) (tree : FileTree) :
    Except Failure Bool → FileTree → Prop where
  | unmeant (unmeant : ¬ IsMeant overrides relative) :
      Overlaid overrides relative directory tree (.ok false) tree
  /-- There is no file, or it cannot be read, or some patch is no object. -/
  | failed {failure : Failure} (meant : IsMeant overrides relative)
      (broken : ¬ ∃ file value patches, IsFileOf tree directory file ∧ Says tree file value ∧
        Patches (Text.trimChar '/' relative) overrides patches ∧
        ∀ patch ∈ patches, patch.isObject = true) :
      Overlaid overrides relative directory tree (.error failure) tree
  /-- The file that the path of the kustomization's file leads to is rewritten, and no other. -/
  | laid {file : String} {value : Json} {patches : List Json} {location : List String}
      {left : FileTree} (meant : IsMeant overrides relative) (chosen : IsFileOf tree directory file)
      (said : Says tree file value) (given : Patches (Text.trimChar '/' relative) overrides patches)
      (objects : ∀ patch ∈ patches, patch.isObject = true)
      (resolved : tree.resolve file = some location)
      (rewritten : tree.RewrittenAt left location
        (Bytes.ofText (Yaml.render (patches.foldl Json.merge value)))) :
      Overlaid overrides relative directory tree (.ok true) left

private theorem overlaid_of_ok {changed : Bool}
    (overridden : override overrides relative directory tree = .ok (changed, left)) :
    Overlaid overrides relative directory tree (.ok changed) left := by
  rcases override_ok overridden with ⟨none, rfl, rfl⟩ | ⟨_, rfl, _⟩
  · exact .unmeant fun meant => isMeant_iff.mp meant none
  · obtain ⟨meant, file, value, patches, chosen, said, given, objects, rfl⟩ :=
      override_written_iff.mp overridden
    have isFile : tree.isFile file = true := by
      obtain ⟨_, _, _, _, _, isFile, _⟩ := chosen
      exact isFile
    obtain ⟨location, resolved, rewritten⟩ := FileTree.rewrittenAt_rewrite isFile _
    exact .laid meant chosen said given objects resolved rewritten

private theorem overlaid_of_error {failure : Failure}
    (failed : override overrides relative directory tree = .error failure) :
    Overlaid overrides relative directory tree (.error failure) tree := by
  by_cases meant : IsMeant overrides relative
  · refine .failed meant fun ⟨file, value, patches, chosen, said, given, objects⟩ => ?_
    have written :=
      override_written_iff.mpr ⟨meant, file, value, patches, chosen, said, given, objects, rfl⟩
    rw [failed] at written
    cases written
  · have unchanged : override overrides relative directory tree = .ok (false, tree) := by
      refine override_unchanged_iff.mpr fun package member => ?_
      exact Bool.eq_false_iff.mpr fun isMeant => meant ⟨package, member, isMeantFor_iff.mp isMeant⟩
    rw [failed] at unchanged
    cases unchanged

/-- Done step by step on the files, laying overrides leaves every file as it is unless all of it succeeds,
and then rewrites the kustomization's file to its document with every patch merged in, in order. -/
theorem overlaid_whole_or_not (overrides : List PackageOverride) (relative directory : String)
    (tree : FileTree) :
    ∃ outcome left, (overrideInPlace overrides relative directory).on tree = (outcome, left) ∧
      override overrides relative directory tree = outcome.map (fun changed => (changed, left)) ∧
      Overlaid overrides relative directory tree outcome left := by
  cases result : override overrides relative directory tree with
  | error failure =>
      refine ⟨.error failure, tree, ?_, rfl, overlaid_of_error result⟩
      rw [on_overrideInPlace, result]
  | ok final =>
      obtain ⟨changed, left⟩ := final
      refine ⟨.ok changed, left, ?_, rfl, overlaid_of_ok result⟩
      rw [on_overrideInPlace, result]

end

namespace TwoOverrides

/-! Two overrides for one kustomization, of which the second has no value field, and one for another between
them. Of the two files that the kustomization could be in, the first one counts. -/

def first : Json := .object [("namePrefix", .text "prod-")]

def second : Json := .object [("labels", .object [("env", .text "prod")])]

def overrides : List PackageOverride :=
  [⟨"overlays/prod/kustomization.yaml", none, [.object [("value", first)]]⟩,
    ⟨"base", none, [.object [("namePrefix", .text "base-")]]⟩, ⟨"overlays/prod", none, [second]⟩]

def text : String := "\x7b'namePrefix': 'dev-', 'nameSuffix': '-v1'\x7d"

def tree : FileTree :=
  .directory [("overlays", .directory [("prod", .directory
    [("kustomization.yaml", .file (Bytes.ofText text)),
      ("kustomization.yml", .file (Bytes.ofText "\x7b\x7d"))])])]

def file : String := "/overlays/prod/kustomization.yaml"

def value : Json := .object [("namePrefix", .text "dev-"), ("nameSuffix", .text "-v1")]

def laidText : String :=
  "\"labels\":\n  \"env\": \"prod\"\n\"namePrefix\": \"prod-\"\n\"nameSuffix\": \"-v1\"\n"

theorem first_means : Means "overlays/prod" "overlays/prod/kustomization.yaml" :=
  .inl (by decide)

private theorem patches_laid : Patches "overlays/prod" overrides [first, second] := by
  have valued : IsPatchOf (.object [("value", first)]) first := .value rfl
  have bare : IsPatchOf second second := by
    refine .whole fun _ same => ?_
    cases same
    rfl
  have base : ¬ Means "overlays/prod" "base" := by
    unfold Means
    decide
  have means : Means "overlays/prod" "overlays/prod" := .inl (by decide)
  have last : Patches "overlays/prod" [⟨"overlays/prod", none, [second]⟩] ([second] ++ []) :=
    .meant means (.cons bare .nil) .nil
  have whole : Patches "overlays/prod" overrides ([first] ++ ([second] ++ [])) :=
    .meant first_means (.cons valued .nil) (.other base last)
  exact whole

set_option maxRecDepth 16000 in
private theorem parsed : Yaml.parse text =
    .ok (.mapping [(.text "namePrefix", .text "dev-"), (.text "nameSuffix", .text "-v1")]) := by
  have lexed : Yaml.tokens text = .ok (Yaml.braced [("namePrefix", Yaml.quoted "dev-"),
      ("nameSuffix", Yaml.quoted "-v1")]) := by
    decide +kernel
  unfold Yaml.parse Yaml.Document.ofText
  rw [lexed]
  rfl

private theorem said : Says tree file value :=
  ⟨text, _, value, by decide +kernel, parsed, rfl, rfl⟩

/-- The patches of both are merged into the first file, and all else stays as it is. -/
theorem value_and_entry_laid :
    Patches "overlays/prod" overrides [first, second] ∧
      ∃ left, (overrideInPlace overrides "overlays/prod" "/overlays/prod").on tree = (.ok true, left) ∧
        tree.RewrittenAt left ["overlays", "prod", "kustomization.yaml"] (Bytes.ofText laidText) := by
  have trimmed : Text.trimChar '/' "overlays/prod" = "overlays/prod" := by decide
  have chosen : file? tree "/overlays/prod" = some file := by decide +kernel
  have place : tree.resolve file = some ["overlays", "prod", "kustomization.yaml"] := by
    decide +kernel
  have laid : Yaml.render ([first, second].foldl Json.merge value) = laidText := by decide +kernel
  obtain ⟨outcome, left, ran, -, overlaid⟩ :=
    overlaid_whole_or_not overrides "overlays/prod" "/overlays/prod" tree
  refine ⟨patches_laid, left, ?_⟩
  cases overlaid with
  | unmeant unmeant =>
      refine absurd ⟨_, List.mem_cons_self, ?_⟩ unmeant
      rw [trimmed]
      exact first_means
  | failed _ broken =>
      refine absurd ⟨file, value, [first, second], file?_eq_some_iff.mp chosen, said, ?_, ?_⟩ broken
      · rw [trimmed]
        exact patches_laid
      · simp [first, second, Json.isObject]
  | @laid own found patches location _ _ foundFile foundSaid given _ resolved rewritten =>
      obtain rfl : file = own := Option.some.inj (chosen.symm.trans (file?_eq_some_iff.mpr foundFile))
      obtain rfl : value = found :=
        Except.ok.inj ((content_ok_iff.mpr said).symm.trans (content_ok_iff.mpr foundSaid))
      rw [trimmed] at given
      obtain rfl : [first, second] = patches :=
        (patches_iff.mp patches_laid).symm.trans (patches_iff.mp given)
      obtain rfl := Option.some.inj (place.symm.trans resolved)
      rw [laid] at rewritten
      exact ⟨ran, rewritten⟩

end TwoOverrides

end GitDelivery.Manifest.Kustomization
