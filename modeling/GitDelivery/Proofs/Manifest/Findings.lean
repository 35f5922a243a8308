import GitDelivery.Proofs.Manifest.FileName

set_option autoImplicit false

/-! What is to be found below a directory: the topmost directories that describe a chart or a
kustomization, and the documents of the manifest files outside of them. -/

namespace GitDelivery.Manifest

/-! ### Directories and documents -/

def Holds (dir : FileTree) (name : String) : Prop :=
  ∃ content, dir.child? name = some (.file content)

def IsChart (dir : FileTree) : Prop :=
  Holds dir chartFile

def IsKustomization (dir : FileTree) : Prop :=
  ¬ Holds dir chartFile ∧ ∃ name ∈ kustomizationFiles, Holds dir name

/-- A document declares a version and a kind, neither of them empty. -/
def Declares (document kind : String) : Prop :=
  ∃ value version, Yaml.parse document = .ok value ∧
    (value.get? "apiVersion").bind Yaml.Value.text? = some version ∧ version ≠ "" ∧
    (value.get? "kind").bind Yaml.Value.text? = some kind ∧ kind ≠ ""

theorem declaredKind?_eq_some_iff {document kind : String} :
    declaredKind? document = some kind ↔ Declares document kind := by
  have filled (text : Option String) (found : String) :
      text.bind Text.nonEmpty? = some found ↔ text = some found ∧ found ≠ "" := by
    rw [Option.bind_eq_some_iff]
    constructor
    · rintro ⟨given, rfl, same⟩
      unfold Text.nonEmpty? at same
      split at same
      · cases same
      · next present =>
          cases same
          exact ⟨rfl, by simpa using present⟩
    · rintro ⟨rfl, present⟩
      refine ⟨found, rfl, ?_⟩
      unfold Text.nonEmpty?
      rw [if_neg (by simpa using present)]
  unfold declaredKind? Declares
  cases Yaml.parse document with
  | error failure => simp
  | ok value =>
      change ((_ : Option String).bind fun _ => (_ : Option String).bind _) = some kind ↔ _
      rw [Option.bind_eq_some_iff]
      simp only [filled]
      constructor
      · rintro ⟨version, ⟨versioned, present⟩, kinded⟩
        exact ⟨value, version, rfl, versioned, present, kinded⟩
      · rintro ⟨_, version, same, versioned, present, kinded⟩
        cases same
        exact ⟨version, ⟨versioned, present⟩, kinded⟩

/-! ### Findings -/

inductive Finding.What where
  | chart
  | kustomization
  | document (index : Nat) (content : String)
  deriving DecidableEq

structure Finding where
  location : List String
  what : Finding.What

section

variable (own : Option String) (hides : List String → Prop) (root : FileTree)

/-- A directory is left out: for its name, or because it is one of those to hide. The directory where
the walk starts may have a name of its own. -/
def LeftOut (location : List String) : Prop :=
  location.getLast?.or own = some ".git" ∨ hides location

def Stops (location : List String) : Prop :=
  LeftOut own hides location ∨
    ∃ dir, root.at? location = some dir ∧ (IsChart dir ∨ IsKustomization dir)

def Reached (location : List String) : Prop :=
  ∀ above, above <+: location → above ≠ location → ¬ Stops own hides root above

def Found (finding : Finding) : Prop :=
  Reached own hides root finding.location ∧
  match finding.what with
  | .chart => ¬ LeftOut own hides finding.location ∧
      ∃ dir, root.at? finding.location = some dir ∧ IsChart dir
  | .kustomization => ¬ LeftOut own hides finding.location ∧
      ∃ dir, root.at? finding.location = some dir ∧ IsKustomization dir
  | .document index content => ∃ name bytes text kind,
      finding.location.getLast?.or own = some name ∧ IsManifestName name ∧
      root.at? finding.location = some (.file bytes) ∧ bytes.text? = some text ∧
      (splitDocuments text)[index]? = some content ∧ Declares content kind

end

namespace Finding

def What.Before : What → What → Prop
  | .document first _, .document second _ => first < second
  | _, _ => False

/-- The order of a walk: by locations, entries of a directory by their names and what lies below an
entry right after it, and the documents of one file as they stand there. -/
def Before (first second : Finding) : Prop :=
  first.location < second.location ∨
    first.location = second.location ∧ first.what.Before second.what

def below (name : String) (finding : Finding) : Finding :=
  ⟨name :: finding.location, finding.what⟩

theorem below_before {name : String} {first second : Finding} (before : first.Before second) :
    (first.below name).Before (second.below name) := by
  rcases before with earlier | ⟨same, earlier⟩
  · exact .inl (List.cons_lt_cons_self.mpr earlier)
  · exact .inr ⟨congrArg (name :: ·) same, earlier⟩

end Finding

/-! ### What is found below an entry -/

section

variable {own : Option String} {hides : List String → Prop} {children : List (String × FileTree)}
  {child : FileTree} {name : String} {location : List String} {what : Finding.What}

theorem leftOut_cons :
    LeftOut own hides (name :: location) ↔
      LeftOut (some name) (fun rest => hides (name :: rest)) location := by
  have last : (name :: location).getLast?.or own = location.getLast?.or (some name) := by
    rw [List.getLast?_cons]
    cases location.getLast? <;> rfl
  unfold LeftOut
  rw [last]

theorem at?_cons (there : Table.get? name children = some child) :
    (FileTree.directory children).at? (name :: location) = child.at? location := by
  rw [FileTree.at?, FileTree.child?, there]
  rfl

private theorem stops_cons (there : Table.get? name children = some child) :
    Stops own hides (.directory children) (name :: location) ↔
      Stops (some name) (fun rest => hides (name :: rest)) child location := by
  unfold Stops
  rw [leftOut_cons, at?_cons there]

theorem reached_nil {root : FileTree} : Reached own hides root [] := by
  intro above before proper
  exact absurd (List.prefix_nil.mp before) proper

private theorem reached_cons (there : Table.get? name children = some child) :
    Reached own hides (.directory children) (name :: location) ↔
      ¬ Stops own hides (.directory children) [] ∧
        Reached (some name) (fun rest => hides (name :: rest)) child location := by
  constructor
  · intro reached
    refine ⟨reached [] List.nil_prefix (List.cons_ne_nil _ _).symm, ?_⟩
    intro above before proper
    rw [← stops_cons there]
    exact reached (name :: above) (List.cons_prefix_cons.mpr ⟨rfl, before⟩)
      fun same => proper (List.cons.inj same).2
  · rintro ⟨entered, reached⟩ above before proper
    cases above with
    | nil => exact entered
    | cons first above =>
        obtain ⟨rfl, inner⟩ := List.cons_prefix_cons.mp before
        rw [stops_cons there]
        exact reached above inner fun same => proper (congrArg (first :: ·) same)

theorem found_cons (there : Table.get? name children = some child) :
    Found own hides (.directory children) ⟨name :: location, what⟩ ↔
      ¬ Stops own hides (.directory children) [] ∧
        Found (some name) (fun rest => hides (name :: rest)) child ⟨location, what⟩ := by
  have last : (name :: location).getLast?.or own = location.getLast?.or (some name) := by
    rw [List.getLast?_cons]
    cases location.getLast? <;> rfl
  unfold Found
  rw [reached_cons there, and_assoc]
  cases what <;> simp only [leftOut_cons, at?_cons there, last]

theorem not_found_of_missing (missing : Table.get? name children = none) :
    ¬ Found own hides (.directory children) ⟨name :: location, what⟩ := by
  have nothing : (FileTree.directory children).at? (name :: location) = none := by
    rw [FileTree.at?, FileTree.child?, missing]
    rfl
  rintro ⟨_, found⟩
  cases what <;> simp [nothing] at found

theorem found_nil :
    Found own hides (.directory children) ⟨[], what⟩ ↔ ¬ LeftOut own hides [] ∧
      (what = .chart ∧ IsChart (.directory children) ∨
        what = .kustomization ∧ IsKustomization (.directory children)) := by
  have own : (FileTree.directory children).at? [] = some (.directory children) := rfl
  unfold Found
  cases what <;> simp [reached_nil, own]

theorem found_file {bytes : Bytes} :
    Found own hides (.file bytes) ⟨location, what⟩ ↔ location = [] ∧
      ∃ index content, what = .document index content ∧ ∃ name text kind,
        own = some name ∧ IsManifestName name ∧ bytes.text? = some text ∧
          (splitDocuments text)[index]? = some content ∧ Declares content kind := by
  have nothing (name : String) (rest : List String) :
      (FileTree.file bytes).at? (name :: rest) = none := rfl
  have own : (FileTree.file bytes).at? [] = some (.file bytes) := rfl
  have blank (name : String) : (FileTree.file bytes).child? name = none := rfl
  cases location with
  | cons name rest =>
      refine iff_of_false ?_ (by simp)
      rintro ⟨_, found⟩
      cases what <;> simp [nothing] at found
  | nil =>
      unfold Found
      cases what with
      | chart => simp [own, blank, IsChart, Holds]
      | kustomization => simp [own, blank, IsKustomization, Holds]
      | document index content =>
          simp only [reached_nil, own, true_and, List.getLast?_nil, Option.none_or]
          constructor
          · rintro ⟨name, _, text, kind, named, isManifest, same, plain, found⟩
            cases same
            exact ⟨index, content, rfl, name, text, kind, named, isManifest, plain, found⟩
          · rintro ⟨_, _, same, name, text, kind, named, isManifest, plain, found⟩
            cases same
            exact ⟨name, bytes, text, kind, named, isManifest, rfl, plain, found⟩

end

end GitDelivery.Manifest
