import GitDelivery.Manifest.Kustomization
import GitDelivery.Proofs.Resource.Decode
import GitDelivery.Proofs.Text

set_option autoImplicit false

/-! Which kustomizations a package override is laid over. The name of a kustomization file is cut off
every override's name that ends with it: in the middle of a word too, and where it belongs to the name of
a directory. -/

namespace GitDelivery.Manifest.Kustomization

/-- The name of a package without blanks and slashes around it, and without each "./" before the rest. -/
def bareName (package : String) : String :=
  String.ofList (dropHere (Text.trimChar '/' (Text.trim package)).toList)

/-- A name says that the kustomization in a directory of the repository is meant: by the directory, or by a
file in it. -/
def Names (relative name : String) : Prop :=
  if relative = "" then name = "." ∨ name ∈ kustomizationFiles
  else name = relative ∨ ∃ file ∈ kustomizationFiles, name = relative ++ "/" ++ file

/-- With an override among those that are given, whatever the others are, the kustomization in a directory
of the repository is not left as it is. -/
def Targets (relative : String) (package : PackageOverride) : Prop :=
  ∀ overrides directory tree, package ∈ overrides →
    override overrides relative directory tree ≠ .ok (false, tree)

/-- A name is taken to say something else than it says. -/
inductive Misread (relative name : String) : Prop where
  /-- A directory's own name ends like the name of a file. -/
  | cut {file : String} (member : file ∈ kustomizationFiles) (own : name = relative)
      (ends : file.toList <:+ name.toList)
  /-- The file's name stands after no slash or after several. -/
  | apart {file : String} {slashes : Nat} (member : file ∈ kustomizationFiles)
      (below : relative ≠ "") (other : slashes ≠ 1)
      (whole : name.toList = relative.toList ++ (List.replicate slashes '/' ++ file.toList))
  | blank (root : relative = "") (nothing : name = "")
  | hidden {file : String} (member : file ∈ kustomizationFiles) (root : relative = "")
      (whole : name.toList = '.' :: file.toList)
  | rooted {file : String} {slashes : Nat} (member : file ∈ kustomizationFiles)
      (root : relative = "") (some : slashes ≠ 0)
      (whole : name.toList = List.replicate slashes '/' ++ file.toList)

/-! ### Names of files -/

section

variable {file other : String} {chars stem directory name meant : List Char} {slashes count : Nat}

theorem file_shape (member : file ∈ kustomizationFiles) :
    1 < file.toList.length ∧ file.toList.head? ≠ some '.' ∧ file.toList.head? ≠ some '/' := by
  have all : ∀ file ∈ kustomizationFiles,
      1 < file.toList.length ∧ file.toList.head? ≠ some '.' ∧ file.toList.head? ≠ some '/' := by
    decide
  exact all file member

/-- Their last letters tell the names apart, so at most one of them is at the end of a text. -/
theorem append_file_inj (member : file ∈ kustomizationFiles) (otherMember : other ∈ kustomizationFiles)
    (same : chars ++ file.toList = directory ++ other.toList) : chars = directory ∧ file = other := by
  have told : ∀ file ∈ kustomizationFiles, 3 ≤ file.toList.reverse.length ∧
      ∀ other ∈ kustomizationFiles,
        file.toList.reverse.take 3 = other.toList.reverse.take 3 → file = other := by decide
  have ends := congrArg (fun whole => whole.reverse.take 3) same
  simp only [List.reverse_append] at ends
  rw [List.take_append_of_le_length (told file member).1,
    List.take_append_of_le_length (told other otherMember).1] at ends
  obtain rfl := (told file member).2 other otherMember ends
  exact ⟨List.append_cancel_right same, rfl⟩

/-- A directory, the slashes after it and the file's name can be told from what they make together. -/
theorem append_slashes_inj (member : file ∈ kustomizationFiles)
    (otherMember : other ∈ kustomizationFiles) (ends : stem.getLast? ≠ some '/')
    (otherEnds : directory.getLast? ≠ some '/')
    (same : stem ++ (List.replicate slashes '/' ++ file.toList) =
      directory ++ (List.replicate count '/' ++ other.toList)) :
    stem = directory ∧ slashes = count ∧ file = other := by
  rw [← List.append_assoc, ← List.append_assoc] at same
  -- The file's name is cut off first, then the slashes.
  obtain ⟨before, rfl⟩ := append_file_inj member otherMember same
  have stems := congrArg (Text.dropEndWhile (· == '/')) before
  rw [Text.dropEndWhile_append_replicate, Text.dropEndWhile_append_replicate,
    Text.dropEndWhile_of_getLast? ends, Text.dropEndWhile_of_getLast? otherEnds] at stems
  subst stems
  have lengths := congrArg List.length (List.append_cancel_left before)
  rw [List.length_replicate, List.length_replicate] at lengths
  exact ⟨rfl, lengths, rfl⟩

private theorem dropFileName_cases (path : String) (files : List String) :
    (dropFileName path files = path ∧ ∀ file ∈ files, ¬ file.toList <:+ path.toList) ∨
      ∃ file ∈ files, ∃ directory, path.toList = directory ++ file.toList ∧
        dropFileName path files = Text.trimEndChar '/' (String.ofList directory) := by
  induction files with
  | nil => exact .inl ⟨rfl, List.forall_mem_nil _⟩
  | cons file rest ih =>
      unfold dropFileName Text.dropTrailing?
      by_cases ends : file.toList <:+ path.toList
      · rw [if_pos (List.isSuffixOf_iff_suffix.mpr ends)]
        obtain ⟨directory, whole⟩ := ends
        refine .inr ⟨file, List.mem_cons_self, directory, whole.symm, ?_⟩
        rw [← whole, List.length_append, Nat.add_sub_cancel, List.take_left]
      · rw [if_neg fun found => ends (List.isSuffixOf_iff_suffix.mp found)]
        rcases ih with ⟨same, plain⟩ | ⟨other, member, found⟩
        · exact .inl ⟨same, List.forall_mem_cons.mpr ⟨ends, plain⟩⟩
        · exact .inr ⟨other, List.mem_cons_of_mem file member, found⟩

private theorem dropHere_suffix (chars : List Char) : dropHere chars <:+ chars := by
  fun_induction dropHere chars with
  | case1 rest ih => exact (ih.trans (List.suffix_cons '/' rest)).trans (List.suffix_cons '.' _)
  | case2 => exact List.suffix_rfl

theorem dropHere_of_starts_otherwise (other : ¬ ['.', '/'] <+: chars) : dropHere chars = chars := by
  fun_cases dropHere chars with
  | case1 rest => exact absurd (List.prefix_append ['.', '/'] rest) other
  | case2 => rfl

/-! ### What a name is taken to mean -/

inductive Reading : List Char → List Char → Prop where
  | whole {name : List Char} (plain : ∀ file ∈ kustomizationFiles, ¬ file.toList <:+ name) :
      Reading name name
  | below {file : String} {meant : List Char} {slashes : Nat} (member : file ∈ kustomizationFiles)
      (ends : meant.getLast? ≠ some '/') (other : meant ≠ ['.']) (first : meant = [] → slashes = 0) :
      Reading (meant ++ (List.replicate slashes '/' ++ file.toList)) meant
  | hidden {file : String} (member : file ∈ kustomizationFiles) : Reading ('.' :: file.toList) ['.']
  | here {file : String} {slashes : Nat} (member : file ∈ kustomizationFiles) :
      Reading (List.replicate slashes '/' ++ file.toList) ['.']

private theorem dropHere_slashes (member : file ∈ kustomizationFiles) (slashes : Nat) :
    dropHere (List.replicate slashes '/' ++ file.toList) =
      List.replicate slashes '/' ++ file.toList := by
  refine dropHere_of_starts_otherwise ?_
  rintro ⟨rest, whole⟩
  have first := congrArg List.head? whole
  cases slashes with
  | zero => exact (file_shape member).2.1 first.symm
  | succ count => cases first

/-- The "./" at the beginning can be left out before the file's name is cut off, unless nothing but a point
is before it then. -/
theorem reading_of_stem (member : file ∈ kustomizationFiles) (ends : stem.getLast? ≠ some '/')
    (first : stem = [] → slashes = 0) :
    Reading (dropHere (stem ++ (List.replicate slashes '/' ++ file.toList))) (dropHere stem) := by
  fun_induction dropHere stem with
  | case1 rest ih =>
      -- Something is left behind the slash, since the stem does not end with one.
      have filled : rest ≠ [] := by
        rintro rfl
        exact ends rfl
      refine ih ?_ (fun empty => absurd empty filled)
      obtain ⟨last, later, rfl⟩ := List.exists_cons_of_ne_nil filled
      exact ends
  | case2 stem other =>
      by_cases point : stem = ['.']
      · subst point
        cases slashes with
        | zero =>
            have plain : ¬ ['.', '/'] <+: '.' :: file.toList := by
              rintro ⟨rest, whole⟩
              exact (file_shape member).2.2
                (congrArg (fun chars => chars.tail.head?) whole).symm
            change Reading (dropHere ('.' :: file.toList)) ['.']
            rw [dropHere_of_starts_otherwise plain]
            exact .hidden member
        | succ count =>
            change Reading (dropHere (List.replicate count '/' ++ file.toList)) ['.']
            rw [dropHere_slashes member]
            exact .here member
      · have plain : ¬ ['.', '/'] <+: stem ++ (List.replicate slashes '/' ++ file.toList) := by
          rintro ⟨rest, whole⟩
          match stem with
          | [] =>
              obtain rfl := first rfl
              exact (file_shape member).2.1 (congrArg List.head? whole).symm
          | [single] => exact point (congrArg (fun c => [c]) (List.cons.inj whole).1).symm
          | one :: two :: later =>
              cases whole
              exact other _ rfl
        rw [dropHere_of_starts_otherwise plain]
        exact .below member ends point first

theorem reading (package : String) :
    Reading (bareName package).toList (directoryMeant package).toList := by
  unfold bareName directoryMeant
  simp only [String.toList_ofList]
  have starts := Text.head?_trimChar '/' (Text.trim package)
  generalize Text.trimChar '/' (Text.trim package) = path at starts
  rcases dropFileName_cases path kustomizationFiles with
    ⟨same, plain⟩ | ⟨file, member, directory, whole, same⟩
  · rw [same]
    exact .whole fun file member ends => plain file member (ends.trans (dropHere_suffix _))
  · obtain ⟨slashes, trimmed⟩ := Text.exists_append_replicate '/' directory
    have ends := Text.getLast?_dropEndWhile '/' directory
    unfold Text.trimEndChar at same
    rw [String.toList_ofList] at same
    rw [same, String.toList_ofList]
    generalize Text.dropEndWhile (· == '/') directory = stem at trimmed ends
    rw [whole, trimmed, List.append_assoc]
    refine reading_of_stem member ends ?_
    rintro rfl
    rw [whole, trimmed] at starts
    cases slashes with
    | zero => rfl
    | succ count => exact absurd rfl starts

example : directoryMeant "./overlays/prod/kustomization.yml" = "overlays/prod" := by decide

/-! ### Which names are taken to mean a directory -/

/-- Nothing else is taken to mean a directory of the repository than its name if no file's name is cut off,
and its name with a file's behind it, whatever number of slashes is between them. -/
theorem Reading.eq_directory_iff (reading : Reading name meant) (below : directory ≠ [])
    (proper : directory ≠ ['.']) (directoryEnds : directory.getLast? ≠ some '/') :
    meant = directory ↔
      (name = directory ∧ ∀ file ∈ kustomizationFiles, ¬ file.toList <:+ name) ∨
        ∃ file ∈ kustomizationFiles, ∃ slashes,
          name = directory ++ (List.replicate slashes '/' ++ file.toList) := by
  have ending {file : String} {chars : List Char} {slashes : Nat} :
      file.toList <:+ chars ++ (List.replicate slashes '/' ++ file.toList) := by
    rw [← List.append_assoc]
    exact List.suffix_append _ _
  cases reading with
  | whole plain =>
      constructor
      · rintro rfl
        exact .inl ⟨rfl, plain⟩
      · rintro (⟨rfl, _⟩ | ⟨file, member, slashes, rfl⟩)
        · rfl
        · exact absurd ending (plain file member)
  | @below file meant slashes member ends other first =>
      constructor
      · rintro rfl
        exact .inr ⟨file, member, slashes, rfl⟩
      · rintro (⟨_, plain⟩ | ⟨file', member', count, whole⟩)
        · exact absurd ending (plain file member)
        · exact (append_slashes_inj member member' ends directoryEnds whole).1
  | @hidden file member =>
      constructor
      · rintro rfl
        exact absurd rfl proper
      · rintro (⟨_, plain⟩ | ⟨other, otherMember, count, whole⟩)
        · exact absurd (List.suffix_cons '.' _) (plain file member)
        · have whole : ['.'] ++ (List.replicate 0 '/' ++ file.toList) = _ := whole
          exact (append_slashes_inj member otherMember (by decide) directoryEnds whole).1
  | @here file slashes member =>
      constructor
      · rintro rfl
        exact absurd rfl proper
      · rintro (⟨_, plain⟩ | ⟨other, otherMember, count, whole⟩)
        · exact absurd (List.suffix_append _ _) (plain file member)
        · have whole : [] ++ (List.replicate slashes '/' ++ file.toList) = _ := whole
          exact absurd
            (append_slashes_inj member otherMember (by decide) directoryEnds whole).1.symm below

theorem Reading.eq_repository_iff (reading : Reading name meant) :
    meant = [] ∨ meant = ['.'] ↔
      name = [] ∨ name = ['.'] ∨ ∃ file ∈ kustomizationFiles,
        name = '.' :: file.toList ∨ ∃ slashes, name = List.replicate slashes '/' ++ file.toList := by
  cases reading with
  | whole plain =>
      constructor
      · rintro (empty | point)
        · exact .inl empty
        · exact .inr (.inl point)
      · rintro (empty | point | ⟨file, member, rfl | ⟨slashes, rfl⟩⟩)
        · exact .inl empty
        · exact .inr point
        · exact absurd (List.suffix_cons '.' _) (plain file member)
        · exact absurd (List.suffix_append _ _) (plain file member)
  | @below file meant slashes member ends other first =>
      have long := (file_shape member).1
      constructor
      · rintro (rfl | point)
        · exact .inr (.inr ⟨file, member, .inr ⟨slashes, rfl⟩⟩)
        · exact absurd point other
      · rintro (empty | point | ⟨file', member', whole | ⟨count, whole⟩⟩)
        · have short := congrArg List.length empty
          simp only [List.length_append, List.length_nil] at short
          omega
        · have short := congrArg List.length point
          simp only [List.length_append, List.length_singleton] at short
          omega
        · have whole : _ = ['.'] ++ (List.replicate 0 '/' ++ file'.toList) := whole
          exact .inr (append_slashes_inj member member' ends (by decide) whole).1
        · have whole : _ = [] ++ (List.replicate count '/' ++ file'.toList) := whole
          exact .inl (append_slashes_inj member member' ends (by decide) whole).1
  | hidden member => exact iff_of_true (.inr rfl) (.inr (.inr ⟨_, member, .inl rfl⟩))
  | here member => exact iff_of_true (.inr rfl) (.inr (.inr ⟨_, member, .inr ⟨_, rfl⟩⟩))

end

/-! ### Targets -/

section

variable {relative name : String} {package : PackageOverride} {directory : String} {tree : FileTree}

theorem isMeantFor_iff :
    isMeantFor relative package = true ↔
      directoryMeant package.name = relative ∨
        (relative = "" ∧ directoryMeant package.name = ".") := by
  unfold isMeantFor
  simp

/-- The tree stays as it is if no override is meant for the kustomization, and otherwise its file is
written anew. -/
theorem override_ok {overrides : List PackageOverride} {changed : Bool} {laid : FileTree}
    (overridden : override overrides relative directory tree = .ok (changed, laid)) :
    overrides.filter (isMeantFor (Text.trimChar '/' relative)) = [] ∧ changed = false ∧ laid = tree ∨
      overrides.filter (isMeantFor (Text.trimChar '/' relative)) ≠ [] ∧ changed = true ∧
        ∃ file content, file? tree directory = some file ∧ laid = tree.rewrite file content := by
  unfold override at overridden
  dsimp only at overridden
  cases meant : overrides.filter (isMeantFor (Text.trimChar '/' relative)) with
  | nil =>
      rw [meant] at overridden
      cases overridden
      exact .inl ⟨rfl, rfl, rfl⟩
  | cons first rest =>
      rw [meant] at overridden
      dsimp only at overridden
      cases there : file? tree directory with
      | none =>
          rw [there] at overridden
          cases overridden
      | some file =>
          rw [there] at overridden
          obtain ⟨_, _, overridden⟩ := except_bind_ok_iff.mp overridden
          obtain ⟨_, _, overridden⟩ := except_bind_ok_iff.mp overridden
          cases overridden
          exact .inr ⟨nofun, rfl, file, _, rfl, rfl⟩

theorem override_unchanged_iff {overrides : List PackageOverride} :
    override overrides relative directory tree = .ok (false, tree) ↔
      ∀ package ∈ overrides, isMeantFor (Text.trimChar '/' relative) package = false := by
  have none : overrides.filter (isMeantFor (Text.trimChar '/' relative)) = [] ↔
      ∀ package ∈ overrides, isMeantFor (Text.trimChar '/' relative) package = false := by
    simp [List.filter_eq_nil_iff]
  rw [← none]
  constructor
  · intro unchanged
    rcases override_ok unchanged with ⟨meant, _⟩ | ⟨_, impossible, _⟩
    · exact meant
    · cases impossible
  · intro meant
    unfold override
    simp only [meant]

theorem targets_iff :
    Targets relative package ↔ isMeantFor (Text.trimChar '/' relative) package = true := by
  constructor
  · intro targets
    cases other : isMeantFor (Text.trimChar '/' relative) package with
    | true => rfl
    | false =>
        refine absurd ?_ (targets [package] "" (.directory []) (List.mem_singleton_self _))
        rw [override_unchanged_iff]
        intro single member
        rwa [List.mem_singleton.mp member]
  · intro meant overrides directory tree member unchanged
    rw [override_unchanged_iff.mp unchanged package member] at meant
    cases meant

/-! ### What names say and what they are taken to say -/

theorem names_directory_iff (below : relative ≠ "") :
    Names relative name ↔ name = relative ∨ ∃ file ∈ kustomizationFiles,
      name.toList = relative.toList ++ (List.replicate 1 '/' ++ file.toList) := by
  unfold Names
  rw [if_neg below]
  refine or_congr_right (exists_congr fun file => and_congr_right fun _ => ?_)
  rw [← String.toList_inj, String.toList_append, String.toList_append, List.append_assoc]
  rfl

/-- An override is meant for a directory if its name is that of the directory and does not end like a
file's, or that of a file behind the directory and any number of slashes. -/
theorem isMeantFor_directory_iff (below : relative ≠ "") (proper : relative ≠ ".")
    (ends : relative.toList.getLast? ≠ some '/') :
    isMeantFor relative package = true ↔
      (bareName package.name = relative ∧
          ∀ file ∈ kustomizationFiles, ¬ file.toList <:+ (bareName package.name).toList) ∨
        ∃ file ∈ kustomizationFiles, ∃ slashes, (bareName package.name).toList =
          relative.toList ++ (List.replicate slashes '/' ++ file.toList) := by
  have own : bareName package.name = relative ↔
      (bareName package.name).toList = relative.toList := String.toList_inj.symm
  rw [isMeantFor_iff, or_iff_left fun root => below root.1, ← String.toList_inj, own]
  refine (reading package.name).eq_directory_iff ?_ ?_ ends
  · exact fun empty => below (String.toList_eq_nil_iff.mp empty)
  · exact fun point => proper (String.toList_inj.mp point)

theorem isMeantFor_repository_iff :
    isMeantFor "" package = true ↔
      bareName package.name = "" ∨ bareName package.name = "." ∨ ∃ file ∈ kustomizationFiles,
        (bareName package.name).toList = '.' :: file.toList ∨
          ∃ slashes, (bareName package.name).toList = List.replicate slashes '/' ++ file.toList := by
  have point : ".".toList = ['.'] := rfl
  rw [isMeantFor_iff, and_iff_right rfl]
  simp only [← String.toList_inj, String.toList_empty, point]
  exact (reading package.name).eq_repository_iff

private theorem ne_of_append_file {file : String} {slashes : Nat}
    (member : file ∈ kustomizationFiles)
    (whole : name.toList = relative.toList ++ (List.replicate slashes '/' ++ file.toList)) :
    name ≠ relative := by
  rintro rfl
  have lengths := congrArg List.length whole
  have long := (file_shape member).1
  simp only [List.length_append] at lengths
  omega

private theorem directory_as_named_iff (below : relative ≠ "") (proper : relative ≠ ".")
    (ends : relative.toList.getLast? ≠ some '/') :
    (isMeantFor relative package = true ↔ Names relative (bareName package.name)) ↔
      ¬ Misread relative (bareName package.name) := by
  rw [isMeantFor_directory_iff below proper ends, names_directory_iff below]
  generalize bareName package.name = name
  constructor
  · intro agree misread
    cases misread with
    | cut member own suffix =>
        rcases agree.mpr (.inl own) with ⟨_, plain⟩ | ⟨file, fileMember, slashes, whole⟩
        · exact plain _ member suffix
        · exact ne_of_append_file fileMember whole own
    | @apart file slashes member _ other whole =>
        rcases agree.mp (.inr ⟨file, member, slashes, whole⟩) with
          own | ⟨single, singleMember, once⟩
        · exact ne_of_append_file member whole own
        · exact other (append_slashes_inj member singleMember ends ends (whole.symm.trans once)).2.1
    | blank root => exact below root
    | hidden _ root => exact below root
    | rooted _ root => exact below root
  · intro understood
    constructor
    · rintro (⟨own, _⟩ | ⟨file, member, slashes, whole⟩)
      · exact .inl own
      · by_cases single : slashes = 1
        · subst single
          exact .inr ⟨file, member, whole⟩
        · exact absurd (.apart member below single whole) understood
    · rintro (own | ⟨file, member, whole⟩)
      · exact .inl ⟨own, fun file member suffix => understood (.cut member own suffix)⟩
      · exact .inr ⟨file, member, 1, whole⟩

private theorem repository_as_named_iff :
    (isMeantFor "" package = true ↔ Names "" (bareName package.name)) ↔
      ¬ Misread "" (bareName package.name) := by
  have names (name : String) : Names "" name ↔ name = "." ∨ name ∈ kustomizationFiles := by
    unfold Names
    rw [if_pos rfl]
  rw [isMeantFor_repository_iff, names]
  generalize bareName package.name = name
  constructor
  · intro agree misread
    cases misread with
    | cut member own suffix =>
        subst own
        have lengths := suffix.length_le
        have long := (file_shape member).1
        exact absurd (Nat.lt_of_lt_of_le long lengths) (Nat.not_lt_zero 1)
    | apart _ below => exact below rfl
    | blank _ nothing =>
        subst nothing
        exact absurd (agree.mp (.inl rfl)) (by decide)
    | @hidden file member _ whole =>
        rcases agree.mp (.inr (.inr ⟨file, member, .inl whole⟩)) with rfl | named
        · have long := (file_shape member).1
          have lengths : 1 = file.toList.length + 1 := congrArg List.length whole
          omega
        · exact (file_shape named).2.1 (by rw [whole]; rfl)
    | @rooted file slashes member _ some whole =>
        obtain ⟨count, rfl⟩ := Nat.exists_eq_succ_of_ne_zero some
        rcases agree.mp (.inr (.inr ⟨file, member, .inr ⟨_, whole⟩⟩)) with rfl | named
        · cases whole
        · exact (file_shape named).2.2 (by rw [whole]; rfl)
  · intro understood
    constructor
    · rintro (nothing | point | ⟨file, member, whole | ⟨slashes, whole⟩⟩)
      · exact absurd (.blank rfl nothing) understood
      · exact .inl point
      · exact absurd (.hidden member rfl whole) understood
      · by_cases none : slashes = 0
        · subst none
          exact .inr (String.toList_inj.mp whole ▸ member)
        · exact absurd (.rooted member rfl none whole) understood
    · rintro (point | member)
      · exact .inr (.inl point)
      · exact .inr (.inr ⟨name, member, .inr ⟨0, rfl⟩⟩)

/-- An override is laid over the kustomizations that its name says, and over no other, exactly if the name
is not misread. No directory's path is a point. -/
theorem targets_as_named_iff (relative : String) (package : PackageOverride)
    (proper : Text.trimChar '/' relative ≠ ".") :
    (Targets relative package ↔
        Names (Text.trimChar '/' relative) (bareName package.name)) ↔
      ¬ Misread (Text.trimChar '/' relative) (bareName package.name) := by
  have ends := Text.getLast?_trimChar '/' relative
  rw [targets_iff]
  by_cases root : Text.trimChar '/' relative = ""
  · rw [root]
    exact repository_as_named_iff
  · exact directory_as_named_iff root proper ends

end

/-- A file in a directory below another one. -/
theorem targets_as_named_file :
    Text.trimChar '/' "overlays/prod" ≠ "." ∧
      Targets "overlays/prod" ⟨"./overlays/prod/kustomization.yaml", none, []⟩ := by
  have proper : Text.trimChar '/' "overlays/prod" ≠ "." := by decide
  have trimmed : Text.trimChar '/' "overlays/prod" = "overlays/prod" := by decide
  have bare : bareName "./overlays/prod/kustomization.yaml" =
      "overlays/prod/kustomization.yaml" := by decide
  have listed : "kustomization.yaml" ∈ kustomizationFiles := by decide
  have understood : ¬ Misread "overlays/prod" "overlays/prod/kustomization.yaml" := by
    intro misread
    cases misread with
    | cut _ own => exact absurd own (by decide)
    | apart member _ other whole =>
        have once : "overlays/prod/kustomization.yaml".toList =
            "overlays/prod".toList ++ (List.replicate 1 '/' ++ "kustomization.yaml".toList) := rfl
        exact other (append_slashes_inj member listed (by decide) (by decide)
          (whole.symm.trans once)).2.1
    | blank root => exact absurd root (by decide)
    | hidden _ root => exact absurd root (by decide)
    | rooted _ root => exact absurd root (by decide)
  have agree := targets_as_named_iff "overlays/prod"
    ⟨"./overlays/prod/kustomization.yaml", none, []⟩ proper
  rw [trimmed, bare] at agree
  refine ⟨proper, (agree.mpr understood).mpr ?_⟩
  exact (if_neg (by decide)).mpr (.inr ⟨"kustomization.yaml", listed, rfl⟩)

/-- The end of a directory's own name is cut off, and an override with that name is laid over nothing. -/
theorem not_always_as_named :
    ¬ ∀ relative package, Text.trimChar '/' relative ≠ "." →
      (Targets relative package ↔ Names (Text.trimChar '/' relative) (bareName package.name)) := by
  intro always
  have named : Names (Text.trimChar '/' "apps/webKustomization") (bareName "apps/webKustomization") :=
    (if_neg (by decide)).mpr (.inl (by decide))
  have targeted := (always "apps/webKustomization" ⟨"apps/webKustomization", none, []⟩ (by decide)).mpr named
  exact absurd (targets_iff.mp targeted) (by decide)

end GitDelivery.Manifest.Kustomization
