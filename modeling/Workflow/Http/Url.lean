import Workflow.Http.Base64
import Workflow.Http.Host

namespace Workflow.Http

/-!
# Addresses

An address names a server and a target on it.  Reading one forgives much: blanks around it, line
breaks in it, backslashes for slashes, any number of slashes after the scheme.  The path is resolved
(`.` and `..` are carried out) and characters that may not stand in it are escaped.  A fragment is
never sent, so it is not kept.  Only addresses with the scheme `http` are read here.
-/

/-- An address, with its target as it is sent. -/
structure Url where
  host : List Char
  /-- The number after the host, or 80. -/
  service : Nat
  /-- The user and the password, joined by a colon. -/
  credentials : Option (List UInt8)
  path : List Char
  query : Option (List Char)

namespace Url

/-- Whether a slash is meant. -/
def isSlash (c : Char) : Bool := c == '/' || c == '\\'

/-- The text without what is ignored in an address: controls and spaces at both ends, and tabs and
line breaks anywhere. -/
def significant (text : String) : List Char :=
  let isOuter (c : Char) : Bool := c ≤ ' '
  let trimmed := ((text.toList.dropWhile isOuter).reverse.dropWhile isOuter).reverse
  trimmed.filter fun c => c ≠ '\t' ∧ c ≠ '\n' ∧ c ≠ '\r'

/-- The scheme in lower case, and what follows its colon. -/
def scheme? (cs : List Char) : Option (String × List Char) :=
  let name := cs.takeWhile fun c => c.isAlphanum || c == '+' || c == '-' || c == '.'
  match name.head?, cs.drop name.length with
  | some first, ':' :: rest =>
    if first.isAlpha then some (String.ofList (name.map Char.toLower), rest) else none
  | _, _ => none

/-- The text before and after the last character that satisfies a test, if there is one. -/
def splitAtLast? (test : Char → Bool) (cs : List Char) : Option (List Char × List Char) :=
  let after := (cs.reverse.takeWhile fun c => !test c).reverse
  if after.length < cs.length then some (cs.take (cs.length - after.length - 1), after) else none

/-- The bytes of a part of an address, if they are UTF-8. -/
def utf8Bytes? (cs : List Char) : Option (List UInt8) :=
  let bytes := unescape cs
  (String.fromUTF8? bytes.toByteArray).map fun _ => bytes

/-- The user and the password before an at sign, joined by a colon.  A password that is no text does
not count, a user that is none cannot be let in, and there are none if both are empty. -/
def credentials? (userInfo : List Char) : Option (List UInt8) :=
  let name := userInfo.takeWhile (· ≠ ':')
  match utf8Bytes? name with
  | none => none
  | some user =>
    let password := (utf8Bytes? (userInfo.drop (name.length + 1))).getD []
    if user.isEmpty && password.isEmpty then none else some (user ++ 0x3A :: password)

/-- The host of a server and the number after it; the colon between them stands outside brackets. -/
def hostAndService? (cs : List Char) : Option (List Char × Nat) :=
  let host :=
    match cs with
    | '[' :: _ =>
      let inside := cs.takeWhile (· ≠ ']')
      inside ++ (cs.drop inside.length).takeWhile (· ≠ ':')
    | _ => cs.takeWhile (· ≠ ':')
  if !isHost host then none
  else
    match cs.drop host.length with
    | [] => some (host, 80)
    | _ :: digits =>
      if digits.isEmpty then some (host, 80)
      else if digits.all Char.isDigit then
        (Text.numberIn? 10 digits).bind fun service =>
          if service < 65536 then some (host, service) else none
      else none

/-- A segment of a path that stays where it is. -/
def isHere (segment : List Char) : Bool :=
  let lower := segment.map Char.toLower
  lower == ['.'] || lower == "%2e".toList

/-- A segment of a path that goes back by one. -/
def isBack (segment : List Char) : Bool :=
  let lower := segment.map Char.toLower
  ["..", ".%2e", "%2e.", "%2e%2e"].any fun form => lower == form.toList

/-- A segment that names a drive, a letter with a colon or a bar after it. -/
def isDrive : List Char → Bool
  | [letter, ':'] => letter.isAlpha
  | [letter, '|'] => letter.isAlpha
  | _ => false

/-- The segments without the last one reached, which stands first; a drive is not left. -/
def back : List (List Char) → List (List Char)
  | [] => []
  | last :: before => if isDrive last then last :: before else before

/-- The segments that a path comes to, after those it has come to already, the last one first.  A
path that ends by staying or going back ends with an empty segment. -/
def resolve (reached : List (List Char)) : List (List Char) → List (List Char)
  | [] => reached
  | [last] =>
    if isBack last then [] :: back reached
    else if isHere last then [] :: reached
    else last :: reached
  | segment :: rest =>
    if isBack segment then resolve (back reached) rest
    else if isHere segment then resolve reached rest
    else resolve (segment :: reached) rest

/-- The path that a text stands for. -/
def resolvedPath (cs : List Char) : List Char :=
  let relative := if cs.head?.any isSlash then cs.drop 1 else cs
  let segments := (Text.splitAtEach isSlash relative).map (escape standsInPath)
  '/' :: ['/'].intercalate (resolve [] segments).reverse

/-- Reads an address; only plain HTTP is spoken here, so any other scheme is refused. -/
def parse? (text : String) : Option Url := do
  let (scheme, rest) ← scheme? (significant text)
  if scheme ≠ "http" then none
  let afterSlashes := rest.dropWhile isSlash
  let authority := afterSlashes.takeWhile fun c => !isSlash c && c ≠ '?' && c ≠ '#'
  let target := afterSlashes.drop authority.length
  let (userInfo, server) := (splitAtLast? (· == '@') authority).getD ([], authority)
  let (host, service) ← hostAndService? server
  let path := target.takeWhile fun c => c ≠ '?' && c ≠ '#'
  let query :=
    match target.drop path.length with
    | '?' :: query => some (escape standsInQuery (query.takeWhile (· ≠ '#')))
    | _ => none
  return ⟨host, service, credentials? userInfo, resolvedPath path, query⟩

/-- The address with pairs added to its query; a query that stays empty is dropped. -/
def addPairs (url : Url) (pairs : List (String × String)) : Url :=
  let before := url.query.getD []
  let added := formPairs pairs
  let separator := if before.isEmpty || added.isEmpty then [] else ['&']
  let query := before ++ separator ++ added
  { url with query := if query.isEmpty then none else some query }

/-- The target of a request. -/
def target (url : Url) : String :=
  String.ofList (url.path ++ (url.query.map ('?' :: ·)).getD [])

end Url

end Workflow.Http
