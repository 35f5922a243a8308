import GitDelivery.Git.Client
import GitDelivery.Proofs.Dialogue
import GitDelivery.Proofs.Text

set_option autoImplicit false

/-! Where a revision points by what git lists of a remote. The order of the lines makes no difference as
long as no name is listed twice. -/

namespace GitDelivery.Git

open Dialogue

/-! ### Lines -/

/-- A line says which commit a name stands for: they stand around its first tab, and blanks around either
do not count. -/
def Tells (line commit name : String) : Prop :=
  ∃ before after, line.toList = before ++ '\t' :: after ∧ '\t' ∉ before ∧
    commit = Text.trim (String.ofList before) ∧ name = Text.trim (String.ofList after)

def Lists (listing commit name : String) : Prop :=
  ∃ line ∈ Text.lines listing, Tells line commit name

def NamesOnce (listing : String) : Prop :=
  (Text.lines listing).Pairwise fun one other =>
    ∀ name first second, Tells one first name → ¬Tells other second name

def peeledName (pattern : String) : String :=
  pattern ++ "^\x7b\x7d"

/-- Where a name points: what a tag of that name stands for is listed apart and goes before the tag. -/
inductive PointsTo (listing pattern commit : String) : Prop where
  | peeled (listed : Lists listing commit (peeledName pattern))
  | plain (bare : ∀ other, ¬Lists listing other (peeledName pattern))
      (listed : Lists listing commit pattern)

section

variable {listing other pattern line commit name : String}

theorem tells_iff :
    Tells line commit name ↔
      ((Text.splitOnce '\t' line).map fun (commit, name) => (Text.trim commit, Text.trim name)) =
        some (commit, name) := by
  unfold Tells Text.splitOnce
  constructor
  · rintro ⟨before, after, whole, absent, rfl, rfl⟩
    rw [whole, Text.cutAt_append absent]
    rfl
  · intro read
    obtain ⟨_, split, same⟩ := Option.map_eq_some_iff.mp read
    obtain ⟨⟨before, after⟩, cut, rfl⟩ := Option.map_eq_some_iff.mp split
    obtain ⟨whole, absent⟩ := Text.cutAt_some cut
    obtain ⟨rfl, rfl⟩ := Prod.mk.inj same
    exact ⟨before, after, whole, absent, rfl, rfl⟩

theorem mem_entries_iff : (commit, name) ∈ Client.entries listing ↔ Lists listing commit name := by
  unfold Client.entries Lists
  simp only [List.mem_filterMap, tells_iff]

theorem namesOnce_iff :
    NamesOnce listing ↔ (Client.entries listing).Pairwise fun one other => one.2 ≠ other.2 := by
  unfold NamesOnce Client.entries
  rw [List.pairwise_filterMap]
  simp only [tells_iff, Prod.forall]
  refine ⟨fun once => once.imp ?_, fun once => once.imp ?_⟩
  · intro one other apart first name read second again readToo same
    subst same
    exact apart name first second read readToo
  · intro one other apart name first second read readToo
    exact apart first name read second name readToo rfl

private theorem find?_of_distinct {entries : List (String × String)}
    (distinct : entries.Pairwise fun one other => one.2 ≠ other.2) :
    (entries.find? (·.2 = name)).map Prod.fst = some commit ↔ (commit, name) ∈ entries := by
  induction entries with
  | nil => simp
  | cons first rest ih =>
      obtain ⟨apart, later⟩ := List.pairwise_cons.mp distinct
      by_cases same : first.2 = name
      · subst same
        have absent : (commit, first.2) ∉ rest := fun member => apart _ member rfl
        simp [absent, Prod.ext_iff, eq_comm]
      · have different : (commit, name) ≠ first := fun equal => same (congrArg Prod.snd equal).symm
        rw [List.find?_cons_of_neg (by simpa using same), ih later, List.mem_cons,
          or_iff_right different]

theorem commitOf?_eq_some_iff (once : NamesOnce listing) :
    Client.commitOf? listing pattern = some commit ↔ PointsTo listing pattern commit := by
  have found (name commit : String) :
      ((Client.entries listing).find? (·.2 = name)).map Prod.fst = some commit ↔
        Lists listing commit name :=
    (find?_of_distinct (namesOnce_iff.mp once)).trans mem_entries_iff
  unfold Client.commitOf?
  rw [Option.or_eq_some_iff, found, found, Option.eq_none_iff_forall_ne_some]
  simp only [ne_eq, found]
  constructor
  · rintro (listed | ⟨bare, listed⟩)
    · exact .peeled listed
    · exact .plain bare listed
  · rintro (listed | ⟨bare, listed⟩)
    · exact .inl listed
    · exact .inr ⟨bare, listed⟩

/-! ### The order of the lines -/

private theorem NamesOnce.perm (once : NamesOnce listing)
    (reordered : (Text.lines other).Perm (Text.lines listing)) : NamesOnce other := by
  refine (reordered.pairwise_iff ?_).mpr once
  intro one two apart name first second tells again
  exact apart name second first again tells

private theorem pointsTo_congr (reordered : (Text.lines other).Perm (Text.lines listing)) :
    PointsTo other pattern commit ↔ PointsTo listing pattern commit := by
  have same (commit name : String) : Lists other commit name ↔ Lists listing commit name := by
    unfold Lists
    simp only [reordered.mem_iff]
  constructor
  · rintro (listed | ⟨bare, listed⟩)
    · exact .peeled ((same _ _).mp listed)
    · exact .plain (fun older => mt (same _ _).mpr (bare older)) ((same _ _).mp listed)
  · rintro (listed | ⟨bare, listed⟩)
    · exact .peeled ((same _ _).mpr listed)
    · exact .plain (fun older => mt (same _ _).mp (bare older)) ((same _ _).mpr listed)

private theorem commitOf?_perm (once : NamesOnce listing)
    (reordered : (Text.lines other).Perm (Text.lines listing)) (pattern : String) :
    Client.commitOf? other pattern = Client.commitOf? listing pattern := by
  apply Option.ext
  intro commit
  rw [commitOf?_eq_some_iff (once.perm reordered), commitOf?_eq_some_iff once,
    pointsTo_congr reordered]

end

/-! ### Asking -/

namespace Client

section

variable {binary : String} {options : CloneOptions} {remote : Remote}

def IsRun : Request → Prop
  | .run _ => True
  | _ => False

private theorem only_writeFiles_quiet (files : List (String × String)) :
    Only (fun request => ¬IsRun request) (writeFiles files) := by
  induction files with
  | nil => exact only_pure _
  | cons file files ih => exact only_bind (only_request id) fun _ => ih

theorem runGit_of_success {session : Session} {directory : Option String} {arguments : List String}
    {history : History Request.Reply} {result : Except ClientError String} {command : Command}
    {outcome : Outcome} (ended : Ends (runGit binary session directory arguments) history result)
    (ran : ⟨.run command, outcome⟩ ∈ history) (succeeded : outcome.exitCode = 0) :
    result = .ok outcome.output.lossyText := by
  unfold runGit at ended
  obtain ⟨_, located, _, asked, rest, rfl⟩ := ends_bind_iff.mp ended
  obtain rfl := ends_request_iff.mp asked
  have later := (List.mem_cons.mp ran).resolve_left nofun
  split at rest
  · obtain ⟨rfl, _⟩ := ends_pure_iff.mp rest
    cases later
  · dsimp only at rest
    split at rest
    · obtain ⟨rfl, _⟩ := ends_pure_iff.mp rest
      cases later
    · obtain ⟨_, answer, _, answered, last, rfl⟩ := ends_bind_iff.mp rest
      obtain rfl := ends_request_iff.mp answered
      split at last
      · obtain ⟨rfl, rfl⟩ := ends_pure_iff.mp last
        cases List.mem_singleton.mp later
        rfl
      · next failed =>
          obtain ⟨rfl, rfl⟩ := ends_pure_iff.mp last
          cases List.mem_singleton.mp later
          exact absurd succeeded failed

/-- The client has asked where a revision points, and git has answered with a listing. -/
def Hears (binary : String) (options : CloneOptions) (remote : Remote) (listing : String)
    (result : Except ClientError String) : Prop :=
  ∃ history command outcome, Ends (head binary options remote) history result ∧
    ⟨.run command, outcome⟩ ∈ history ∧ outcome.exitCode = 0 ∧ outcome.output.lossyText = listing

theorem Hears.result {listing : String} {result : Except ClientError String}
    (free : isPinned options.revision = false) (heard : Hears binary options remote listing result) :
    result =
      match commitOf? listing (listedName options.revision) with
      | some commit => .ok commit
      | none => .error (.noRevision (Git.redact remote.url) (listedName options.revision)) := by
  obtain ⟨_, command, outcome, ended, ran, succeeded, rfl⟩ := heard
  unfold head at ended
  obtain ⟨writing, _, _, written, asking, rfl⟩ := ends_bind_iff.mp ended
  have silent := only_history (only_writeFiles_quiet _) written
  dsimp only at asking
  rw [free] at asking
  obtain ⟨asked, answer, _, listed, last, rfl⟩ := ends_bind_iff.mp asking
  -- What is left after the listing asks nothing more, so that it is the listing that was run.
  have answered (inside : ⟨.run command, outcome⟩ ∈ asked) : answer = .ok outcome.output.lossyText :=
    runGit_of_success listed inside succeeded
  have inside : ⟨.run command, outcome⟩ ∈ writing ++ asked → ⟨.run command, outcome⟩ ∈ asked :=
    fun member => (List.mem_append.mp member).resolve_left fun early => silent _ early trivial
  cases answer with
  | error error =>
      obtain ⟨rfl, _⟩ := ends_pure_iff.mp last
      rw [List.append_nil] at ran
      cases answered (inside ran)
  | ok heard =>
      dsimp only at last
      split at last
      · next commit found =>
          obtain ⟨rfl, rfl⟩ := ends_pure_iff.mp last
          rw [List.append_nil] at ran
          cases answered (inside ran)
          rw [found]
      · next missing =>
          obtain ⟨rfl, rfl⟩ := ends_pure_iff.mp last
          rw [List.append_nil] at ran
          cases answered (inside ran)
          rw [missing]

/-- The commit that a branch, a tag or the standard revision points to is the one listed for the name of what
a tag stands for, else the one listed for the name itself, and without either there is none. If no name is
listed twice, the order of the lines makes no difference to that. -/
theorem head_pointsTo (binary : String) (options : CloneOptions) (remote : Remote) {listing : String}
    {result : Except ClientError String} (free : isPinned options.revision = false)
    (once : NamesOnce listing) (heard : Hears binary options remote listing result) :
    (∀ commit, result = .ok commit ↔ PointsTo listing (listedName options.revision) commit) ∧
      ((∀ commit, ¬PointsTo listing (listedName options.revision) commit) →
        result = .error (.noRevision (Git.redact remote.url) (listedName options.revision))) ∧
      ∀ other again, (Text.lines other).Perm (Text.lines listing) →
        Hears binary options remote other again → again = result := by
  have points (commit : String) :
      commitOf? listing (listedName options.revision) = some commit ↔
        PointsTo listing (listedName options.revision) commit :=
    commitOf?_eq_some_iff once
  refine ⟨?_, ?_, ?_⟩
  · intro commit
    rw [heard.result free, ← points commit]
    cases commitOf? listing (listedName options.revision) with
    | none => simp
    | some found => simp
  · intro nowhere
    have missing : commitOf? listing (listedName options.revision) = none :=
      Option.eq_none_iff_forall_ne_some.mpr fun commit found => nowhere commit ((points commit).mp found)
    rw [heard.result free, missing]
  · intro other again reordered heardToo
    rw [heard.result free, heardToo.result free, commitOf?_perm once reordered]

end

namespace TaggedRelease

def remote : Remote := ⟨"https://git.example.com/org/repo.git", {}⟩

def options : CloneOptions := ⟨.tag "v1", 1, "git/repo", remote, none⟩

def listing : String :=
  "1111\trefs/tags/v10\nnothing\n 2222 \t refs/tags/v1\n3333\trefs/tags/v1^\x7b\x7d\r\n"

def answering : (request : Request) → request.Reply
  | .write _ _ => ()
  | .clear _ => ()
  | .locate _ => true
  | .run _ => ⟨0, Bytes.ofText listing, []⟩

def asking : Command :=
  { directory := none, settings := [], environment := [("GIT_TERMINAL_PROMPT", "0")]
    arguments := ["ls-remote", "https://git.example.com/org/repo.git", "refs/tags/v1"] }

def answered := (head "git" options remote).answeredBy answering

private theorem heard : Hears "git" options remote listing (.ok "3333") := by
  have ended : Ends (head "git" options remote) answered.1 answered.2 := ends_answeredBy answering _
  have said : answered.2 = .ok "3333" := rfl
  have second : answered.1[1]? = some ⟨.run asking, ⟨0, Bytes.ofText listing, []⟩⟩ := rfl
  rw [said] at ended
  exact ⟨_, asking, _, ended, List.mem_of_getElem? second, rfl, by decide +kernel⟩

/-- The tag points to what it stands for, though that is listed last. -/
theorem release_pointsTo :
    isPinned options.revision = false ∧ NamesOnce listing ∧
      Hears "git" options remote listing (.ok "3333") ∧ PointsTo listing "refs/tags/v1" "3333" := by
  have once : NamesOnce listing := namesOnce_iff.mpr (by decide +kernel)
  exact ⟨rfl, once, heard, ((head_pointsTo "git" options remote rfl once heard).1 "3333").mp rfl⟩

end TaggedRelease

end Client

end GitDelivery.Git
