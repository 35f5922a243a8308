import GitDelivery.Proofs.Git.Redaction
import GitDelivery.Proofs.Text

set_option autoImplicit false

/-! Signing in. Credentials that are put into an address are all that changes of it, but they are put in
as they are: a character in them that ends an authority makes another host of what stands before it. -/

namespace GitDelivery.Git

/-- Before one of these characters an authority ends. -/
def endsAuthority (c : Char) : Bool :=
  c = '/' || c = '?' || c = '#'

/-- The address of a repository on a host, perhaps with what somebody signs in with. -/
structure Address where
  scheme : List Char
  userInfo : Option (List Char)
  host : List Char
  path : List Char
  scheme_plain : ':' ∉ scheme
  userInfo_plain : ∀ info, userInfo = some info → '/' ∉ info
  host_plain : ∀ c ∈ host, c ≠ '@' ∧ endsAuthority c = false
  path_starts : ∀ c, path.head? = some c → c = '/'

namespace Address

def signIn (address : Address) : List Char :=
  match address.userInfo with
  | none => []
  | some info => info ++ ['@']

def text (address : Address) : String :=
  String.ofList (address.scheme ++ ':' :: '/' :: '/' :: (address.signIn ++ address.host ++ address.path))

def signedIn (address : Address) (info : List Char) (plain : '/' ∉ info) : Address :=
  { address with
    userInfo := some info
    userInfo_plain := by
      intro other same
      cases same
      exact plain }

end Address

/-! ### The parts of an address -/

def afterScheme : List Char → List Char
  | ':' :: '/' :: '/' :: rest => rest
  | _ :: rest => afterScheme rest
  | [] => []

/-- What stands between the first `://` and the next slash, question mark or number sign. -/
def authorityOf (url : String) : List Char :=
  (afterScheme url.toList).takeWhile fun c => !endsAuthority c

def pathOf (url : String) : List Char :=
  (afterScheme url.toList).dropWhile fun c => !endsAuthority c

def cutLastAt (text : List Char) : Option (List Char × List Char) :=
  (Text.cutAt '@' text.reverse).map fun (after, before) => (before.reverse, after.reverse)

private theorem cutLastAt_append {before after : List Char} (absent : '@' ∉ after) :
    cutLastAt (before ++ '@' :: after) = some (before, after) := by
  have reversed : (before ++ '@' :: after).reverse = after.reverse ++ '@' :: before.reverse := by simp
  unfold cutLastAt
  rw [reversed, Text.cutAt_append fun member => absent (List.mem_reverse.mp member)]
  simp

private theorem eq_of_cutLastAt {text before after : List Char}
    (cut : cutLastAt text = some (before, after)) :
    text = before ++ '@' :: after := by
  obtain ⟨⟨back, front⟩, reversed, same⟩ := Option.map_eq_some_iff.mp cut
  cases same
  have whole := congrArg List.reverse (Text.cutAt_some reversed).1
  simpa using whole

variable {scheme : List Char}

private theorem afterScheme_append (plain : ':' ∉ scheme) (rest : List Char) :
    afterScheme (scheme ++ ':' :: '/' :: '/' :: rest) = rest := by
  induction scheme with
  | nil => rfl
  | cons c more ih =>
      obtain ⟨other, others⟩ := List.ne_and_not_mem_of_not_mem_cons plain
      rw [List.cons_append, afterScheme, ih others]
      rintro later same -
      exact other same.symm

private theorem cutScheme_append (plain : ':' ∉ scheme) (rest : List Char) :
    cutScheme (scheme ++ ':' :: '/' :: '/' :: rest) = some (scheme ++ [':', '/', '/'], rest) := by
  induction scheme with
  | nil => rfl
  | cons c more ih =>
      obtain ⟨other, others⟩ := List.ne_and_not_mem_of_not_mem_cons plain
      rw [List.cons_append, cutScheme, if_neg (by simp [other.symm]), ih others]
      rfl

/-! ### Signing in -/

/-- Credentials take the place of what stands before the last at-sign up to the first slash. -/
theorem withCredentials_append (plain : ':' ∉ scheme) (user token : String) (rest : List Char) :
    withCredentials user token (String.ofList (scheme ++ ':' :: '/' :: '/' :: rest)) =
      String.ofList (scheme ++ ':' :: '/' :: '/' :: (user.toList ++ ':' :: token.toList ++ '@' ::
        (afterLastAt (rest.takeWhile (· ≠ '/')) ++ rest.dropWhile (· ≠ '/')))) := by
  unfold withCredentials
  rw [String.toList_ofList, cutScheme_append plain]
  simp

namespace Address

variable (address : Address)

private theorem slashless_host : ∀ c ∈ address.host, c ≠ '/' := by
  rintro c member rfl
  exact absurd (address.host_plain '/' member).2 (by decide)

private theorem slashless_signIn : ∀ c ∈ address.signIn, c ≠ '/' := by
  rintro c member rfl
  unfold signIn at member
  split at member
  · cases member
  · next info given =>
      rcases List.mem_append.mp member with inside | sign
      · exact address.userInfo_plain info given inside
      · cases List.mem_singleton.mp sign

theorem at_not_mem_host : '@' ∉ address.host := fun member => (address.host_plain '@' member).1 rfl

private theorem afterLastAt_authority :
    afterLastAt (address.signIn ++ address.host) = address.host := by
  unfold signIn
  split
  · exact afterLastAt_of_not_mem address.at_not_mem_host
  · rw [List.append_assoc]
    exact afterLastAt_append address.at_not_mem_host

theorem withCredentials_text (user token : String) :
    withCredentials user token address.text =
      String.ofList (address.scheme ++ ':' :: '/' :: '/' :: (user.toList ++ ':' :: token.toList ++
        '@' :: (address.host ++ address.path))) := by
  have slashless : ∀ c ∈ address.signIn ++ address.host, decide (c ≠ '/') = true := by
    intro c member
    apply decide_eq_true
    rcases List.mem_append.mp member with first | last
    · exact address.slashless_signIn c first
    · exact address.slashless_host c last
  have starts : ∀ c, address.path.head? = some c → decide (c ≠ '/') = false := by
    intro c first
    rw [address.path_starts c first]
    rfl
  unfold text
  rw [withCredentials_append address.scheme_plain, Text.takeWhile_of_stops slashless starts,
    Text.dropWhile_of_stops slashless starts, afterLastAt_authority]

private theorem signedIn_text (user token : String)
    (plain : '/' ∉ user.toList ++ ':' :: token.toList) :
    (address.signedIn _ plain).text = withCredentials user token address.text := by
  rw [withCredentials_text]
  simp [text, signIn, signedIn]

theorem withCredentials_twice {user token : String} (plain : '/' ∉ user.toList ++ ':' :: token.toList)
    (nextUser nextToken : String) :
    withCredentials nextUser nextToken (withCredentials user token address.text) =
      withCredentials nextUser nextToken address.text := by
  rw [← address.signedIn_text user token plain, withCredentials_text, withCredentials_text]
  rfl

/-- What follows a slash in credentials is taken for a path, and stays. -/
theorem withCredentials_twice_ne {user token : String}
    (slash : '/' ∈ user.toList ++ ':' :: token.toList) (nextUser nextToken : String) :
    withCredentials nextUser nextToken (withCredentials user token address.text) ≠
      withCredentials nextUser nextToken address.text := by
  intro same
  obtain ⟨before, after, split, absent⟩ := List.eq_append_cons_of_mem slash
  have slashless : ∀ c ∈ before, decide (c ≠ '/') = true := by
    intro c member
    apply decide_eq_true
    rintro rfl
    exact absent member
  have shape : user.toList ++ ':' :: token.toList ++ '@' :: (address.host ++ address.path) =
      before ++ '/' :: (after ++ '@' :: (address.host ++ address.path)) := by
    rw [split]
    simp
  have stays : (before ++ '/' :: (after ++ '@' :: (address.host ++ address.path))).dropWhile
      (fun c => decide (c ≠ '/')) = '/' :: (after ++ '@' :: (address.host ++ address.path)) := by
    apply Text.dropWhile_of_stops slashless
    intro c first
    cases first
    rfl
  rw [withCredentials_text address user token, withCredentials_append address.scheme_plain, shape, stays,
    withCredentials_text] at same
  have lengths := congrArg (fun text => text.toList.length) same
  simp only [String.toList_ofList, List.length_append, List.length_cons] at lengths
  omega

private theorem afterScheme_withCredentials (user token : String) :
    afterScheme (withCredentials user token address.text).toList =
      user.toList ++ ':' :: token.toList ++ '@' :: address.host ++ address.path := by
  rw [withCredentials_text, String.toList_ofList, afterScheme_append address.scheme_plain]
  simp

private theorem parts_of_plain {user token : String}
    (plain : ∀ c ∈ user.toList ++ ':' :: token.toList, endsAuthority c = false) :
    authorityOf (withCredentials user token address.text) =
        user.toList ++ ':' :: token.toList ++ '@' :: address.host ∧
      pathOf (withCredentials user token address.text) = address.path := by
  have goesOn : ∀ c ∈ user.toList ++ ':' :: token.toList ++ '@' :: address.host,
      (!endsAuthority c) = true := by
    intro c member
    rw [Bool.not_eq_true']
    rcases List.mem_append.mp member with front | back
    · exact plain c front
    · rcases List.mem_cons.mp back with rfl | inHost
      · rfl
      · exact (address.host_plain c inHost).2
  have stops : ∀ c, address.path.head? = some c → (!endsAuthority c) = false := by
    intro c first
    rw [address.path_starts c first]
    rfl
  unfold authorityOf pathOf
  rw [afterScheme_withCredentials]
  exact ⟨Text.takeWhile_of_stops goesOn stops, Text.dropWhile_of_stops goesOn stops⟩

/-- Signing in keeps the host and the path exactly if no character of the credentials ends an authority;
and the next credentials replace them exactly if they hold no slash. -/
theorem keeps_host_iff (address : Address) (user token : String) :
    (cutLastAt (authorityOf (withCredentials user token address.text)) =
            some (user.toList ++ ':' :: token.toList, address.host) ∧
          pathOf (withCredentials user token address.text) = address.path ↔
        ∀ c ∈ user.toList ++ ':' :: token.toList, endsAuthority c = false) ∧
      ∀ nextUser nextToken,
        withCredentials nextUser nextToken (withCredentials user token address.text) =
            withCredentials nextUser nextToken address.text ↔
          '/' ∉ user.toList ++ ':' :: token.toList := by
  constructor
  · constructor
    · rintro ⟨cut, -⟩ c member
      have inside : c ∈ authorityOf (withCredentials user token address.text) := by
        rw [eq_of_cutLastAt cut]
        exact List.mem_append_left _ member
      have goesOn := List.all_eq_true.mp List.all_takeWhile c inside
      rwa [Bool.not_eq_true'] at goesOn
    · intro plain
      obtain ⟨authority, path⟩ := address.parts_of_plain plain
      rw [authority, cutLastAt_append address.at_not_mem_host]
      exact ⟨rfl, path⟩
  · intro nextUser nextToken
    constructor
    · intro same slash
      exact address.withCredentials_twice_ne slash nextUser nextToken same
    · intro plain
      exact address.withCredentials_twice plain nextUser nextToken

end Address

/-! ### A token with a slash -/

def onServer : Address where
  scheme := "https".toList
  userInfo := none
  host := "git.example.com".toList
  path := "/org/repo.git".toList
  scheme_plain := by decide
  userInfo_plain := fun _ impossible => nomatch impossible
  host_plain := by
    have plain : ("git.example.com".toList.all fun c => c ≠ '@' ∧ endsAuthority c = false) = true := by
      decide
    intro c member
    exact of_decide_eq_true (List.all_eq_true.mp plain c member)
  path_starts := by
    intro c first
    exact (Option.some.inj first).symm

/-- With a slash in the token no host stands behind an at-sign, and the next credentials are put in front
of these. -/
theorem not_always_keeps_host :
    (¬∀ (address : Address) (user token : String), user ≠ "" → token ≠ "" →
        cutLastAt (authorityOf (withCredentials user token address.text)) =
            some (user.toList ++ ':' :: token.toList, address.host) ∧
          pathOf (withCredentials user token address.text) = address.path) ∧
      ¬∀ (address : Address) (user token nextUser nextToken : String), user ≠ "" → token ≠ "" →
        nextUser ≠ "" → nextToken ≠ "" →
          withCredentials nextUser nextToken (withCredentials user token address.text) =
            withCredentials nextUser nextToken address.text := by
  constructor
  · intro always
    have cut := (always onServer "bot" "a/b" (by decide) (by decide)).1
    have misread : cutLastAt (authorityOf (withCredentials "bot" "a/b" onServer.text)) = none := by
      decide
    rw [misread] at cut
    cases cut
  · intro always
    have slash : '/' ∈ "bot".toList ++ ':' :: "a/b".toList := by decide
    exact onServer.withCredentials_twice_ne slash "ci" "tok"
      (always onServer "bot" "a/b" "ci" "tok" (by decide) (by decide) (by decide) (by decide))

end GitDelivery.Git
