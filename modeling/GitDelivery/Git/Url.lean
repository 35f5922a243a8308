import GitDelivery.Text.Basic

set_option autoImplicit false

/-! Credentials in the addresses of repositories: putting them in, and taking them out of texts. -/

namespace GitDelivery.Git

/-- What stands up to and including the first `://`, and what follows it. -/
def cutScheme : List Char → Option (List Char × List Char)
  | [] => none
  | c :: rest =>
    if ['/', '/'].isPrefixOf rest && c = ':' then some ([':', '/', '/'], rest.drop 2)
    else (cutScheme rest).map fun (scheme, after) => (c :: scheme, after)

/-- What follows the last `@`, or the whole text without one. -/
def afterLastAt (text : List Char) : List Char :=
  (text.reverse.takeWhile (· ≠ '@')).reverse

/-- The address with a user and a token, in place of those that it has. A text without a scheme is
taken for a host and a path. -/
def withCredentials (user token url : String) : String :=
  let (scheme, rest) := (cutScheme url.toList).getD ("https://".toList, url.toList)
  let authority := rest.takeWhile (· ≠ '/')
  let path := rest.dropWhile (· ≠ '/')
  String.ofList (scheme ++ user.toList ++ ':' :: token.toList ++ '@' :: afterLastAt authority ++ path)

/-- Does the address name one of the web's schemes? -/
def isWebUrl (url : String) : Bool :=
  let lower := Text.lowerAscii url
  (Text.dropLeading? "https://" lower).isSome || (Text.dropLeading? "http://" lower).isSome

/-- How many characters at the front are a user and a password: what stands up to the last `@` of
the authority, if there is a colon in it. -/
def credentialsLength (text : List Char) : Nat :=
  let authority := text.takeWhile fun c => c ≠ '/' && !Text.isBlank c
  let userInfo := authority.length - (afterLastAt authority).length
  if (authority.take userInfo).contains ':' then userInfo else 0

/-- Redacts a text after leaving out so many characters at the front. -/
def redactFrom : Nat → List Char → List Char
  | skipped + 1, _ :: rest => redactFrom skipped rest
  | 0, ':' :: '/' :: '/' :: rest =>
    let length := credentialsLength rest
    let mark := if length = 0 then [] else ['*', '*', '*', '@']
    ':' :: '/' :: '/' :: mark ++ redactFrom length rest
  | 0, c :: rest => c :: redactFrom 0 rest
  | _, [] => []

/-- The text with stars for the user and password of every address in it. -/
def redact (text : String) : String :=
  String.ofList (redactFrom 0 text.toList)

end GitDelivery.Git
