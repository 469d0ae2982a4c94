import LabelStream.WebAddress.Host

/-! Web addresses in the one spelling under which they are asked for: dots on the path are resolved,
all but plain characters are percent encoded, and a port that goes without saying is left out. -/
namespace LabelStream

/-- Who asks: a name and a password, percent encoded. -/
structure WebAddress.User where
  name : String
  password : Option String
  deriving Repr, DecidableEq

structure WebAddress where
  scheme : String
  user : Option WebAddress.User
  host : WebAddress.Host
  port : Option Nat
  /-- The names between the slashes of the path. -/
  path : List String
  query : Option String
  fragment : Option String
  deriving Repr, DecidableEq

namespace WebAddress

def standardPort (scheme : String) : Nat := if scheme = "https" then 443 else 80

def isSlash (c : Char) : Bool := c == '/' || c == '\\'

/-- What comes before the first of certain characters, and what comes from it on. -/
def cut (stop : Char → Bool) (text : List Char) : List Char × List Char :=
  (text.takeWhile (!stop ·), text.dropWhile (!stop ·))

/-- The address as far as it matters: no blanks around it, and no line breaks or tabs anywhere. -/
def trimmed (address : String) : List Char :=
  let ended := (address.toList.reverse.dropWhile (· ≤ ' ')).reverse
  ended.filter fun c => !(c == '\t' || c == '\n' || c == '\r')

/-- Splits a text at the first mark, which is left out. -/
def splitAtMark (mark : Char) (text : List Char) : List Char × Option (List Char) :=
  match cut (· == mark) text with
  | (before, []) => (before, none)
  | (before, _ :: after) => (before, some after)

/-- Splits host and port. Colons in brackets belong to the host. -/
def splitPort (authority : List Char) : List Char × Option (List Char) :=
  match authority with
  | '[' :: _ =>
    let (inner, rest) := cut (· == ']') authority
    let (between, port) := splitAtMark ':' rest
    (inner ++ between, port)
  | _ => splitAtMark ':' authority

/-- A port below 65536, unless it is left out or goes without saying. -/
def port? (scheme : String) : Option (List Char) → Option (Option Nat)
  | none | some [] => some none
  | some digits =>
    match Host.number? 10 digits with
    | some n => if 65536 ≤ n then none else some (if n = standardPort scheme then none else some n)
    | none => none

/-- The name stands for the directory itself (one) or for the one above (two). -/
def dots (name : List Char) : Nat :=
  match (String.ofList (name.map Char.toLower)).replace "%2e" "." with
  | "." => 1
  | ".." => 2
  | _ => 0

/-- Characters that are encoded on a path, in a query and in a fragment. -/
def reservedInPath : List Char := " \"#<>?`\x7b\x7d".toList

def reservedInQuery : List Char := " \"#<>'".toList

def reservedInFragment : List Char := " \"<>`".toList

def encoded (reserved text : List Char) : String := String.ofList (Text.Percent.encode reserved text)

/-- Resolves the dots on a path. A path that ends in dots ends in a slash. -/
def resolve (before : List String) : List (List Char) → List String
  | [] => before
  | name :: rest =>
    let here := match dots name with
      | 0 => before ++ [encoded reservedInPath name]
      | 1 => before
      | _ => before.dropLast
    if rest.isEmpty && dots name ≠ 0 then here ++ [""] else resolve here rest

/-- Characters that are encoded in the names and passwords of users. -/
def reservedInUser : List Char := reservedInPath ++ "/:;=@[\\]^|".toList

/-- Reads name and password. Where both are empty there is no user. -/
def user? (text : List Char) : Option User :=
  let (name, password) := splitAtMark ':' text
  match name, password.getD [] with
  | [], [] => none
  | name, [] => some ⟨encoded reservedInUser name, none⟩
  | name, password => some ⟨encoded reservedInUser name, some (encoded reservedInUser password)⟩

/-- Splits off a user in front of the last at sign. -/
def splitUser (authority : List Char) : Option User × List Char :=
  let place := (authority.reverse.takeWhile (· != '@')).length
  if place < authority.length then
    (user? (authority.take (authority.length - place - 1)), authority.drop (authority.length - place))
  else (none, authority)

def parseAfter? (scheme : String) (text : List Char) : Option WebAddress := do
  let (text, fragment) := splitAtMark '#' (text.dropWhile isSlash)
  let (text, query) := splitAtMark '?' text
  let (authority, path) := cut isSlash text
  let (user, authority) := splitUser authority
  let (host, port) := splitPort authority
  let host ← Host.parse? host
  let port ← port? scheme port
  return {
    scheme, user, host, port
    path := resolve [] ((path.drop 1).map (fun c => if c == '\\' then '/' else c) |>.splitOn '/')
    query := query.map (encoded reservedInQuery)
    fragment := fragment.map (encoded reservedInFragment) }

def parse? (address : String) : Option WebAddress :=
  let (scheme, rest) := cut (· == ':') (trimmed address)
  match String.ofList scheme with
  | "http" => parseAfter? "http" (rest.drop 1)
  | "https" => parseAfter? "https" (rest.drop 1)
  | _ => none

def User.text (u : User) : String :=
  match u.password with
  | none => u.name ++ "@"
  | some password => u.name ++ ":" ++ password ++ "@"

def text (a : WebAddress) : String :=
  let user := (a.user.map User.text).getD ""
  let port := match a.port with
    | none => ""
    | some n => ":" ++ toString n
  let marked (mark : String) : Option String → String
    | none => ""
    | some part => mark ++ part
  a.scheme ++ "://" ++ user ++ a.host.text ++ port ++ "/" ++ "/".intercalate a.path ++
    marked "?" a.query ++ marked "#" a.fragment

/-- What percent encoding stands for is text. -/
def isText (encoded : String) : Bool :=
  (String.fromUTF8? (ByteArray.mk (Text.Percent.decode encoded.toUTF8.toList).toArray)).isSome

/-- The user can be named in a header: the name is text, and if it is empty there is a password that
is. -/
def User.isPlain (u : User) : Bool :=
  isText u.name && (u.name != "" || (u.password.map isText).getD false)

/-- The address as it is asked for. A user who can be named in a header is not part of it. -/
def asked (a : WebAddress) : WebAddress :=
  if (a.user.map User.isPlain).getD false then { a with user := none } else a

/-- Addresses that are asked for are no longer than this. -/
def longest : Nat := 65534

/-- Characters of hosts that no request can carry. -/
def unaskable : List Char := "\"`\x7b\x7d".toList

def canBeAsked (a : WebAddress) : Bool :=
  !a.host.text.toList.any (unaskable.contains ·) && a.text.utf8ByteSize ≤ longest

end WebAddress
end LabelStream
