import GitDelivery.Git.Client
import GitDelivery.Proofs.Dialogue

set_option autoImplicit false

/-! Which texts on its command line git takes for options. A text of a command line is told by where it
comes from, so that a text which a channel or a subscription gives is not mixed up with an equal text of
the program itself. -/

namespace GitDelivery.Git

open Dialogue

/-- Where a text on a command line comes from: it is the program's own, or it is given with the channel
or with the revision. -/
inductive Argument where
  | word (text : String)
  | depth
  | directory
  | address
  | revision
  | listedName
  deriving DecidableEq

namespace Argument

def text (options : CloneOptions) (remote : Remote) : Argument → String
  | word text => text
  | depth => toString (max options.depth 1)
  | directory => options.directory
  | address => (Session.prepare remote options.directory).url
  | revision =>
    match options.revision with
    | .commit text | .tag text | .branch text => text
    | .standard => ""
  | listedName => Client.listedName options.revision

def IsGiven : Argument → Prop
  | address | revision | listedName => True
  | word _ | depth | directory => False

end Argument

/-! ### How git reads a command line -/

inductive Reading where
  | option
  | value
  | separator
  | operand
  deriving DecidableEq

/-- What git expects next: anything, the value of the option before, or operands to the end. -/
inductive Expectation where
  | anything
  | value
  | operands
  deriving DecidableEq

def StartsWithDash (text : String) : Prop :=
  text.toList.head? = some '-'

instance (text : String) : Decidable (StartsWithDash text) :=
  inferInstanceAs (Decidable (text.toList.head? = some '-'))

def takesValue : List String := ["-C", "-c", "--depth", "--branch"]

/-- How the next text is read, and what is expected after it. What starts with a dash is an option
wherever it stands, unless it is the value of the option before it or comes after a separator. -/
def readNext : Expectation → String → Reading × Expectation
  | .value, _ => (.value, .anything)
  | .operands, _ => (.operand, .operands)
  | .anything, text =>
    if text = "--" then (.separator, .operands)
    else if StartsWithDash text then
      (.option, if text ∈ takesValue then .value else .anything)
    else (.operand, .anything)

def readings {α : Type} (text : α → String) : Expectation → List α → List (α × Reading)
  | _, [] => []
  | expected, argument :: rest =>
    (argument, (readNext expected (text argument)).1) ::
      readings text (readNext expected (text argument)).2 rest

/-- The text is taken for what it stands for, and does not change how the others are read. -/
def Reading.IsHarmless : Reading → Prop
  | value | operand => True
  | option | separator => False

theorem readNext_harmless {text : String} (plain : ¬ StartsWithDash text) (expected : Expectation) :
    (readNext expected text).1.IsHarmless := by
  cases expected with
  | value => trivial
  | operands => trivial
  | anything =>
      have different : text ≠ "--" := by
        rintro rfl
        exact plain (by decide)
      simp [readNext, different, plain, Reading.IsHarmless]

private theorem readNext_harmful {text : String} (dash : StartsWithDash text) :
    ¬ (readNext .anything text).1.IsHarmless := by
  by_cases separator : text = "--" <;> simp [readNext, separator, dash, Reading.IsHarmless]

section

variable {α : Type} {text : α → String} {argument : α} {reading : Reading}

theorem exists_readNext {expected : Expectation} {arguments : List α}
    (read : (argument, reading) ∈ readings text expected arguments) :
    argument ∈ arguments ∧ ∃ before, reading = (readNext before (text argument)).1 := by
  induction arguments generalizing expected with
  | nil => cases read
  | cons first rest ih =>
      rcases List.mem_cons.mp read with same | later
      · cases same
        exact ⟨List.mem_cons_self .., expected, rfl⟩
      · obtain ⟨member, known⟩ := ih later
        exact ⟨List.mem_cons_of_mem first member, known⟩

/-- A text without a dash is harmless wherever it stands. -/
theorem harmless_of_plain {expected : Expectation} {arguments : List α}
    (plain : ¬ StartsWithDash (text argument))
    (read : (argument, reading) ∈ readings text expected arguments) : reading.IsHarmless := by
  obtain ⟨_, before, rfl⟩ := exists_readNext read
  exact readNext_harmless plain before

def expectedAfter (text : α → String) : Expectation → List α → Expectation
  | expected, [] => expected
  | expected, argument :: rest => expectedAfter text (readNext expected (text argument)).2 rest

theorem readings_append (expected : Expectation) (before after : List α) :
    readings text expected (before ++ after) =
      readings text expected before ++ readings text (expectedAfter text expected before) after := by
  induction before generalizing expected with
  | nil => rfl
  | cons first rest ih => simp only [List.cons_append, readings, expectedAfter, ih]

theorem expectedAfter_append (expected : Expectation) (before after : List α) :
    expectedAfter text expected (before ++ after) =
      expectedAfter text (expectedAfter text expected before) after := by
  induction before generalizing expected with
  | nil => rfl
  | cons first rest ih => simp only [List.cons_append, expectedAfter, ih]

/-- A text that stands once, where anything may stand, is harmless exactly when it has no dash. -/
theorem harmless_iff_of_free (before : List α) {after : List α}
    (free : expectedAfter text .anything before = .anything)
    (notBefore : argument ∉ before) (notAfter : argument ∉ after)
    (read : (argument, reading) ∈ readings text .anything (before ++ argument :: after)) :
    reading.IsHarmless ↔ ¬ StartsWithDash (text argument) := by
  rw [readings_append, free, readings, List.mem_append, List.mem_cons] at read
  rcases read with early | same | late
  · exact absurd (exists_readNext early).1 notBefore
  · obtain rfl := (Prod.mk.inj same).2
    by_cases dash : StartsWithDash (text argument)
    · simp only [readNext_harmful dash, dash, not_true_eq_false]
    · simp only [readNext_harmless dash, dash, not_false_eq_true]
  · exact absurd (exists_readNext late).1 notAfter

theorem harmless_of_value (before : List α) {after : List α}
    (asked : expectedAfter text .anything before = .value)
    (notBefore : argument ∉ before) (notAfter : argument ∉ after)
    (read : (argument, reading) ∈ readings text .anything (before ++ argument :: after)) :
    reading.IsHarmless := by
  rw [readings_append, asked, readings, List.mem_append, List.mem_cons] at read
  rcases read with early | same | late
  · exact absurd (exists_readNext early).1 notBefore
  · obtain rfl := (Prod.mk.inj same).2
    trivial
  · exact absurd (exists_readNext late).1 notAfter

end

/-! ### The command lines of the client -/

/-- A command without the texts that it is run with: whether it runs in the working copy, and where its
arguments come from. -/
structure Shape where
  inside : Bool
  arguments : List Argument

namespace Shape

def line (settings : List String) (shape : Shape) : List Argument :=
  (if shape.inside then [.word "-C", .directory] else []) ++
    settings.flatMap (fun setting => [.word "-c", .word setting]) ++ shape.arguments

end Shape

def checkoutShapes : Revision → List Shape
  | .branch _ | .tag _ =>
    [⟨false, [.word "clone", .word "--depth", .depth, .word "--single-branch", .word "--branch",
      .revision, .address, .directory]⟩]
  | .standard => [⟨false, [.word "clone", .word "--depth", .depth, .address, .directory]⟩]
  | .commit _ =>
    [⟨false, [.word "init", .word "--quiet", .directory]⟩,
      ⟨true, [.word "remote", .word "add", .word "origin", .address]⟩,
      ⟨true, [.word "fetch", .word "--depth", .depth, .word "origin", .revision]⟩,
      ⟨true, [.word "checkout", .word "--quiet", .word "FETCH_HEAD"]⟩]

/-- All commands about a revision of some kind. A commit is not looked up remotely. -/
def shapes (revision : Revision) : List Shape :=
  checkoutShapes revision ++ [⟨true, [.word "rev-parse", .word "HEAD"]⟩] ++
    if Client.isPinned revision then [] else [⟨false, [.word "ls-remote", .address, .listedName]⟩]

section

variable (binary : String) (options : CloneOptions) (remote : Remote)

def Shape.fill (shape : Shape) : Option String × List String :=
  (if shape.inside then some options.directory else none,
    shape.arguments.map (Argument.text options remote))

private theorem checkoutCommands_eq :
    Client.checkoutCommands options (Session.prepare remote options.directory).url =
      (checkoutShapes options.revision).map (Shape.fill options remote) := by
  unfold Client.checkoutCommands checkoutShapes
  cases known : options.revision <;> simp [Shape.fill, Argument.text, known]

/-- The request does not run git, or runs a command of a shape that is due for the revision. -/
def Client.RunsShape (request : Request) : Prop :=
  ∀ command, request = .run command →
    ∃ shape ∈ shapes options.revision, command.line =
      (shape.line (Session.prepare remote options.directory).settings).map
        (Argument.text options remote)

namespace Client

theorem only_writeFiles (files : List (String × String)) :
    Only (RunsShape options remote) (writeFiles files) := by
  induction files with
  | nil => exact only_pure _
  | cons file files ih =>
      refine only_bind (only_request ?_) fun _ => ih
      intro command impossible
      cases impossible

theorem only_runGit (shape : Shape) (due : shape ∈ shapes options.revision) :
    Only (RunsShape options remote)
      (runGit binary (Session.prepare remote options.directory) (shape.fill options remote).1
        (shape.fill options remote).2) := by
  unfold runGit
  refine only_bind (only_request ?_) ?_
  · intro command impossible
    cases impossible
  · intro located
    split
    · exact only_pure _
    · dsimp only
      split
      · exact only_pure _
      · refine only_bind (only_request ?_) ?_
        · intro command same
          cases same
          refine ⟨shape, due, ?_⟩
          cases there : shape.inside <;>
            simp [Command.line, Shape.line, Shape.fill, there, List.map_flatMap, Argument.text]
        · intro outcome
          split <;> exact only_pure _

private theorem only_runAll {due : List Shape} (all : ∀ shape ∈ due, shape ∈ shapes options.revision) :
    Only (RunsShape options remote)
      (runAll binary (Session.prepare remote options.directory) (due.map (Shape.fill options remote))) := by
  induction due with
  | nil => exact only_pure _
  | cons shape due ih =>
      refine only_bind (only_runGit binary options remote shape (all shape (List.mem_cons_self ..))) ?_
      intro outcome
      cases outcome with
      | error error => exact only_pure _
      | ok output => exact ih fun other member => all other (List.mem_cons_of_mem shape member)

private theorem only_clone : Only (RunsShape options remote) (clone binary options remote) := by
  refine only_bind (only_writeFiles options remote _) fun _ => ?_
  refine only_bind (only_request ?_) fun _ => ?_
  · intro command impossible
    cases impossible
  · rw [checkoutCommands_eq]
    refine only_bind (only_runAll binary options remote ?_) ?_
    · intro shape member
      simp [shapes, member]
    · intro outcome
      cases outcome with
      | error error => exact only_pure _
      | ok checkedOut =>
          have asks := only_runGit binary options remote
            ⟨true, [.word "rev-parse", .word "HEAD"]⟩ (by simp [shapes])
          refine only_bind asks ?_
          intro answer
          cases answer <;> exact only_pure _

private theorem only_head : Only (RunsShape options remote) (head binary options remote) := by
  refine only_bind (only_writeFiles options remote _) fun _ => ?_
  dsimp only
  split
  · exact only_pure _
  · rename_i free
    have asks := only_runGit binary options remote
      ⟨false, [.word "ls-remote", .address, .listedName]⟩ (by simp [shapes, free])
    refine only_bind asks ?_
    intro answer
    cases answer with
    | error error => exact only_pure _
    | ok listing =>
        dsimp only
        split <;> exact only_pure _

end Client

/-! ### Which given texts begin with a dash -/

private theorem cutScheme_head {text scheme after : List Char}
    (cut : cutScheme text = some (scheme, after)) :
    ∃ first, scheme.head? = some first ∧ text.head? = some first := by
  cases text with
  | nil => cases cut
  | cons c rest =>
      refine ⟨c, ?_, rfl⟩
      unfold cutScheme at cut
      split at cut
      · rename_i colon
        cases cut
        simp only [Bool.and_eq_true, decide_eq_true_eq] at colon
        simp [colon.2]
      · obtain ⟨found, _, same⟩ := Option.map_eq_some_iff.mp cut
        cases same
        rfl

private theorem not_webUrl {url : String} (dash : StartsWithDash url) : isWebUrl url = false := by
  unfold StartsWithDash at dash
  obtain ⟨rest, starts⟩ := List.head?_eq_some_iff.mp dash
  have kept : Char.toLower '-' = '-' := by decide
  have lower : (Text.lowerAscii url).toList = '-' :: rest.map Char.toLower := by
    simp [Text.lowerAscii, starts, kept]
  simp [isWebUrl, Text.dropLeading?, lower]

/-- Credentials do not change whether an address begins with a dash. -/
theorem address_dash_iff :
    StartsWithDash (Argument.address.text options remote) ↔ StartsWithDash remote.url := by
  dsimp only [Argument.text, Session.prepare]
  split
  · rename_i signsIn
    simp only [Bool.and_eq_true] at signsIn
    constructor
    · intro dash
      unfold withCredentials at dash
      cases cut : cutScheme remote.url.toList with
      | none => simp [cut, StartsWithDash] at dash
      | some parts =>
          obtain ⟨first, schemeFirst, urlFirst⟩ := cutScheme_head cut
          simp [cut, StartsWithDash, schemeFirst] at dash
          rw [StartsWithDash, urlFirst, dash]
    · intro dash
      rw [not_webUrl dash] at signsIn
      cases signsIn.2
  · exact Iff.rfl

/-! ### What git takes for an option -/

variable {options remote}

theorem expectedAfter_settings (settings : List String) :
    expectedAfter (Argument.text options remote) .anything
      (settings.flatMap fun setting => [.word "-c", .word setting]) = .anything := by
  have flag : readNext .anything "-c" = (.option, .value) := by decide
  induction settings with
  | nil => rfl
  | cons setting settings ih =>
      rw [List.flatMap_cons, expectedAfter_append]
      simp only [expectedAfter, Argument.text, flag]
      exact ih

theorem readings_line {settings : List String} {shape : Shape} {argument : Argument}
    {reading : Reading} (given : argument.IsGiven)
    (read : (argument, reading) ∈
      readings (Argument.text options remote) .anything (shape.line settings)) :
    (argument, reading) ∈
      readings (Argument.text options remote) .anything shape.arguments := by
  have flag : readNext .anything "-C" = (.option, .value) := by decide
  have before : expectedAfter (Argument.text options remote) .anything
      (if shape.inside then [.word "-C", .directory] else []) = .anything := by
    split
    · simp only [expectedAfter, Argument.text, flag]
      rfl
    · rfl
  unfold Shape.line at read
  rw [readings_append, expectedAfter_append, before, expectedAfter_settings,
    List.mem_append] at read
  refine read.resolve_left ?_
  intro early
  have member := (exists_readNext early).1
  rw [List.mem_append] at member
  cases argument with
  | word text => exact given
  | depth => exact given
  | directory => exact given
  | address => split at member <;> simp at member
  | revision => split at member <;> simp at member
  | listedName => split at member <;> simp at member

theorem shapes_cases {shape : Shape} {revision : Revision} (due : shape ∈ shapes revision) :
    (shape.arguments = [.word "clone", .word "--depth", .depth, .word "--single-branch",
        .word "--branch", .revision, .address, .directory] ∧ ∀ id, revision ≠ .commit id) ∨
      shape.arguments = [.word "clone", .word "--depth", .depth, .address, .directory] ∨
      shape.arguments = [.word "remote", .word "add", .word "origin", .address] ∨
      (shape.arguments = [.word "fetch", .word "--depth", .depth, .word "origin", .revision] ∧
        ∃ id, revision = .commit id) ∨
      shape.arguments = [.word "ls-remote", .address, .listedName] ∧ (∀ id, revision ≠ .commit id) ∨
      ∀ argument ∈ shape.arguments, ¬ argument.IsGiven := by
  cases revision <;> simp [shapes, checkoutShapes, Client.isPinned] at due <;>
    rcases due with rfl | rfl | rfl | rfl | rfl <;> simp [Argument.IsGiven]

private theorem listedName_plain (free : ∀ id, options.revision ≠ .commit id) :
    ¬ StartsWithDash (Argument.listedName.text options remote) := by
  cases known : options.revision with
  | commit id => exact absurd known (free id)
  | branch name => simp [StartsWithDash, Argument.text, Client.listedName, known]
  | tag name => simp [StartsWithDash, Argument.text, Client.listedName, known]
  | standard => simp [StartsWithDash, Argument.text, Client.listedName, known]

private theorem address_readings {shape : Shape} (due : shape ∈ shapes options.revision)
    {reading : Reading} (read : (.address, reading) ∈
      readings (Argument.text options remote) .anything shape.arguments) :
    reading.IsHarmless ↔ ¬ StartsWithDash remote.url := by
  rw [← address_dash_iff options remote]
  have present := (exists_readNext read).1
  rcases shapes_cases due with ⟨same, _⟩ | same | same | ⟨same, _⟩ | ⟨same, _⟩ | none
  · rw [same] at read
    refine harmless_iff_of_free [.word "clone", .word "--depth", .depth,
      .word "--single-branch", .word "--branch", .revision] ?_ (by simp) (by simp) read
    simp [expectedAfter, readNext, Argument.text, takesValue, StartsWithDash]
  · rw [same] at read
    refine harmless_iff_of_free [.word "clone", .word "--depth", .depth] ?_ (by simp)
      (by simp) read
    simp [expectedAfter, readNext, Argument.text, takesValue, StartsWithDash]
  · rw [same] at read
    refine harmless_iff_of_free [.word "remote", .word "add", .word "origin"] ?_ (by simp)
      (by simp) read
    simp [expectedAfter, readNext, Argument.text, StartsWithDash]
  · simp [same] at present
  · rw [same] at read
    refine harmless_iff_of_free [.word "ls-remote"] ?_ (by simp) (by simp) read
    simp [expectedAfter, readNext, Argument.text, StartsWithDash]
  · exact absurd trivial (none _ present)

private theorem revision_readings {shape : Shape} (due : shape ∈ shapes options.revision)
    {reading : Reading} (read : (.revision, reading) ∈
      readings (Argument.text options remote) .anything shape.arguments) :
    reading.IsHarmless ↔ ¬ ∃ id, options.revision = .commit id ∧ StartsWithDash id := by
  have present := (exists_readNext read).1
  rcases shapes_cases due with ⟨same, free⟩ | same | same | ⟨same, id, known⟩ | ⟨same, _⟩ | none
  · rw [same] at read
    have harmless : reading.IsHarmless := by
      refine harmless_of_value ([.word "clone", .word "--depth", .depth, .word "--single-branch",
        .word "--branch"] : List Argument) ?_ (by simp) (by simp) read
      simp [expectedAfter, readNext, Argument.text, takesValue, StartsWithDash]
    simp [harmless, free]
  · simp [same] at present
  · simp [same] at present
  · rw [same] at read
    have plainIff : reading.IsHarmless ↔ ¬ StartsWithDash (Argument.revision.text options remote) := by
      refine harmless_iff_of_free [.word "fetch", .word "--depth", .depth, .word "origin"]
        ?_ (by simp) (by simp) read
      simp [expectedAfter, readNext, Argument.text, takesValue, StartsWithDash]
    rw [plainIff]
    simp [Argument.text, known]
  · simp [same] at present
  · exact absurd trivial (none _ present)

private theorem listedName_readings {shape : Shape} (due : shape ∈ shapes options.revision)
    {reading : Reading} (read : (.listedName, reading) ∈
      readings (Argument.text options remote) .anything shape.arguments) :
    reading.IsHarmless := by
  have present := (exists_readNext read).1
  rcases shapes_cases due with ⟨same, _⟩ | same | same | ⟨same, _⟩ | ⟨_, free⟩ | none
  · simp [same] at present
  · simp [same] at present
  · simp [same] at present
  · simp [same] at present
  · exact harmless_of_plain (listedName_plain free) read
  · exact absurd trivial (none _ present)

/-- The given texts that git takes for options: an address, and the name of a commit, that begin with a
dash. -/
def Exposed (options : CloneOptions) (remote : Remote) : Argument → Prop
  | .address => StartsWithDash remote.url
  | .revision => ∃ id, options.revision = .commit id ∧ StartsWithDash id
  | _ => False

/-- Whatever git answers, each command that fetches a revision or asks where it points is one of the
known shapes, and a given text on its command line is the value of an option, has no dash, or stands
behind a separator, unless it is an address or the name of a commit that begins with a dash. -/
theorem given_texts_harmless (binary : String)
    {history : History Request.Reply} {result : Except ClientError String}
    (ended : Ends (Client.clone binary options remote) history result ∨
      Ends (Client.head binary options remote) history result)
    {command : Command} {outcome : Outcome} (ran : ⟨.run command, outcome⟩ ∈ history) :
    ∃ shape ∈ shapes options.revision,
      command.line = (shape.line (Session.prepare remote options.directory).settings).map
        (Argument.text options remote) ∧
      ∀ argument reading, (argument, reading) ∈
          readings (Argument.text options remote) .anything
            (shape.line (Session.prepare remote options.directory).settings) →
        argument.IsGiven → (reading.IsHarmless ↔ ¬ Exposed options remote argument) := by
  have shaped : Client.RunsShape options remote (.run command) := by
    rcases ended with cloned | asked
    · exact only_history (Client.only_clone binary options remote) cloned _ ran
    · exact only_history (Client.only_head binary options remote) asked _ ran
  obtain ⟨shape, due, same⟩ := shaped command rfl
  refine ⟨shape, due, same, ?_⟩
  intro argument reading read given
  have inArguments := readings_line given read
  cases argument with
  | word text => cases given
  | depth => cases given
  | directory => cases given
  | address => exact address_readings due inArguments
  | revision => exact revision_readings due inArguments
  | listedName =>
      have harmless := listedName_readings due inArguments
      simp only [harmless, Exposed, not_false_eq_true]

end

namespace DashedCommit

def remote : Remote := ⟨"https://git.example.com/org/repo.git", {}⟩

def options : CloneOptions := ⟨.commit "--upload-pack=sh", 1, "git/repo", remote, none⟩

def succeeding : (request : Request) → request.Reply
  | .write _ _ => ()
  | .clear _ => ()
  | .locate _ => true
  | .run _ => ⟨0, [], []⟩

def fetching : Command :=
  { directory := some "git/repo", settings := [], environment := [("GIT_TERMINAL_PROMPT", "0")]
    arguments := ["fetch", "--depth", "1", "origin", "--upload-pack=sh"] }

def cloning := (Client.clone "git" options remote).answeredBy succeeding

theorem ended : Ends (Client.clone "git" options remote) cloning.1 cloning.2 :=
  ends_answeredBy succeeding _

theorem ran : ⟨.run fetching, ⟨0, [], []⟩⟩ ∈ cloning.1 := by
  have sixth : cloning.1[6]? = some ⟨.run fetching, ⟨0, [], []⟩⟩ := by rfl
  exact List.mem_of_getElem? sixth

/-- The commit is on the command line of a fetch, where it would be harmless without its dash. -/
theorem fetch_readings :
    ∃ shape ∈ shapes options.revision,
      fetching.line = (shape.line (Session.prepare remote options.directory).settings).map
        (Argument.text options remote) ∧
      ∀ argument reading, (argument, reading) ∈
          readings (Argument.text options remote) .anything
            (shape.line (Session.prepare remote options.directory).settings) →
        argument.IsGiven → (reading.IsHarmless ↔ ¬ Exposed options remote argument) :=
  given_texts_harmless "git" (.inl ended) ran

/-- A commit that begins with a dash is taken for an option. -/
theorem not_always_harmless :
    ¬ ∀ (binary : String) (options : CloneOptions) (remote : Remote)
      (history : History Request.Reply) (result : Except ClientError String) (command : Command)
      (outcome : Outcome) (shape : Shape) (argument : Argument) (reading : Reading),
      Ends (Client.clone binary options remote) history result ∨
        Ends (Client.head binary options remote) history result →
      ⟨.run command, outcome⟩ ∈ history →
      shape ∈ shapes options.revision →
      command.line = (shape.line (Session.prepare remote options.directory).settings).map
        (Argument.text options remote) →
      (argument, reading) ∈ readings (Argument.text options remote) .anything
        (shape.line (Session.prepare remote options.directory).settings) →
      argument.IsGiven → reading.IsHarmless := by
  intro always
  have due : ⟨true, [.word "fetch", .word "--depth", .depth, .word "origin", .revision]⟩ ∈
      shapes options.revision := by
    simp [shapes, checkoutShapes, options]
  exact always "git" options remote _ _ _ _ _ .revision .option (.inl ended) ran due rfl
    (by decide) trivial

end DashedCommit

end GitDelivery.Git
