import Ebms.Url.Host
import Ebms.Url.Path

/-! # URLs

Endpoints are absolute URLs, read leniently and kept in a normal form: scheme and
domain in small letters, no default port, dot segments of the path resolved, and
reserved characters written with percent signs. -/

set_option autoImplicit false

namespace Ebms

/-- An absolute URL in its written form, part by part. -/
structure Url where
  scheme : String
  /-- User name and password with the at sign behind them, host and port; none
  for a URL without double slash. -/
  authority : Option String
  path : String
  query : Option String
  fragment : Option String
  deriving DecidableEq, Repr, Inhabited

namespace Url

def text (u : Url) : String :=
  let authority := match u.authority with
    | some authority => "//" ++ authority
    | none => if Text.startsWith u.path "//" then "/." else ""
  u.scheme ++ ":" ++ authority ++ u.path
    ++ (match u.query with
      | some query => "?" ++ query
      | none => "")
    ++ (match u.fragment with
      | some fragment => "#" ++ fragment
      | none => "")

/-! ## Schemes -/

def defaultPort? (scheme : String) : Option Nat :=
  if scheme = "http" ∨ scheme = "ws" then some 80
  else if scheme = "https" ∨ scheme = "wss" then some 443
  else if scheme = "ftp" then some 21
  else none

/-- Whether the URLs of a scheme have a host and a path of segments. -/
def isKnown (scheme : String) : Bool := scheme == "file" || (defaultPort? scheme).isSome

def splitScheme (chars : List Char) : Option (String × List Char) :=
  let scheme := chars.takeWhile fun c => c.isAlphanum || c == '+' || c == '-' || c == '.'
  match scheme, chars.drop scheme.length with
  | first :: _, ':' :: rest =>
    if first.isAlpha then some (String.ofList (scheme.map Char.toLower), rest) else none
  | _, _ => none

/-! ## Reserved characters -/

def inFragment (c : Char) : Bool := " \"<>`".toList.contains c

def inPath (c : Char) : Bool := inFragment c || "#?\x7b\x7d".toList.contains c

def inUserInfo (c : Char) : Bool := inPath c || "/:;=@[\\]^|".toList.contains c

/-- Characters reserved in a query; an apostrophe only in a known scheme. -/
def inQuery (known : Bool) (c : Char) : Bool :=
  " \"#<>".toList.contains c || (known && c.toNat == 39)

/-! ## Authority -/

def endsAuthority (known : Bool) (c : Char) : Bool :=
  c == '/' || c == '?' || c == '#' || (known && c == '\\')

def splitUserInfo (chars : List Char) : Option (List Char) × List Char :=
  let host := (chars.reverse.takeWhile (· != '@')).reverse
  if host.length = chars.length then (none, chars)
  else (some (chars.take (chars.length - host.length - 1)), host)

def userInfoText (chars : List Char) : String :=
  let name := chars.takeWhile (· != ':')
  let password := (chars.drop name.length).drop 1
  let shown (part : List Char) := String.ofList (percentEncode inUserInfo part)
  if name.isEmpty && password.isEmpty then ""
  else shown name ++ (if password.isEmpty then "" else ":" ++ shown password) ++ "@"

/-- The host at the start, and what follows it.  A colon in brackets does not
end it. -/
def splitHost (inBrackets : Bool) (passed : List Char) : List Char → List Char × List Char
  | [] => (passed.reverse, [])
  | c :: rest =>
    if c = ':' ∧ ¬inBrackets then (passed.reverse, c :: rest)
    else splitHost (if c = '[' then true else if c = ']' then false else inBrackets)
      (c :: passed) rest

/-- The port as written, nothing for none and for the default one, and what
follows it.  In an unknown scheme a backslash ends it. -/
def portText (scheme : String) (chars : List Char) : Except UrlFault (String × List Char) :=
  let digits := chars.takeWhile Char.isDigit
  let rest := chars.drop digits.length
  if !(rest.isEmpty || (!isKnown scheme && rest.head? == some '\\')) then .error .invalidPort
  else
    match Text.decimal? digits with
    | none => .ok ("", rest)
    | some port =>
      if 65535 < port then .error .invalidPort
      else if defaultPort? scheme = some port then .ok ("", rest)
      else .ok (":" ++ Text.ofNat port, rest)

/-- The written form of an authority, and what follows its port.  `isLast` tells
that nothing follows the authority. -/
def authorityText (scheme : String) (isLast : Bool) (chars : List Char) :
    Except UrlFault (String × List Char) := do
  let (userInfo, hostAndPort) := splitUserInfo chars
  let (host, port) := splitHost false [] hostAndPort
  if userInfo = some [] ∧ hostAndPort = [] ∧ ¬isLast then throw .emptyHost
  if isKnown scheme && host.isEmpty then throw .emptyHost
  let hostText ← if isKnown scheme then hostText host else opaqueHostText host
  if hostText.isEmpty && !port.isEmpty then throw .emptyHost
  let (portText, rest) ← portText scheme (port.drop 1)
  let userText := userInfoText (userInfo.getD [])
  if hostText.isEmpty && !userText.isEmpty then throw .emptyHost
  pure (userText ++ hostText ++ portText, rest)

/-! ## Path -/

/-- The segments between slashes, their reserved characters written with percent
signs; in a known scheme a backslash is a slash. -/
def segments (known : Bool) (chars : List Char) : List (List Char) :=
  let slashed := chars.map fun c => if known && c == '\\' then '/' else c
  (Text.pieces '/' (String.ofList slashed)).map fun segment => percentEncode inPath segment.toList

def pathText (known : Bool) (chars : List Char) : String :=
  (resolve false (segments known chars)).text false

/-! ## The whole -/

def splitTail (chars : List Char) : List Char × Option (List Char) × Option (List Char) :=
  let beforeFragment := chars.takeWhile (· != '#')
  let fragment := match chars.drop beforeFragment.length with
    | _ :: fragment => some fragment
    | [] => none
  let path := beforeFragment.takeWhile (· != '?')
  let query := match beforeFragment.drop path.length with
    | _ :: query => some query
    | [] => none
  (path, query, fragment)

def assemble (scheme : String) (authority : Option String) (path : String)
    (query fragment : Option (List Char)) : Url :=
  { scheme, authority, path
    query := query.map fun q =>
      String.ofList (percentEncode (inQuery (isKnown scheme)) q)
    fragment := fragment.map fun f => String.ofList (percentEncode inFragment f) }

def isSlash (known : Bool) (c : Char) : Bool := c == '/' || (known && c == '\\')

def withAuthority (scheme : String) (chars : List Char) : Except UrlFault Url := do
  let known := isKnown scheme
  let authority := chars.takeWhile fun c => !endsAuthority known c
  let tail := chars.drop authority.length
  let (path, query, fragment) := splitTail tail
  let (authority, rest) ← authorityText scheme tail.isEmpty authority
  let path := match rest ++ path with
    | [] => if known then "/" else ""
    | first :: more => pathText known (if isSlash known first then more else first :: more)
  pure (assemble scheme (some authority) path query fragment)

/-- The URL of a file whose host is written, with the tail behind it.  A drive
takes the place of the host. -/
def fileUrl (host : String) (tail : List Char) : Url :=
  let (path, query, fragment) := splitTail tail
  let resolved := resolve true (segments true path)
  assemble "file" (some (if resolved.hasDrive then "" else host)) (resolved.text true) query
    fragment

/-- The URL of a file.  The host of this machine is left out, and a drive is no
host. -/
def ofFile (chars : List Char) : Except UrlFault Url := do
  match chars with
  | a :: b :: rest =>
    if isSlash true a && isSlash true b then
      let name := rest.takeWhile fun c => !endsAuthority true c
      let tail := rest.drop name.length
      if isDrive name then pure (fileUrl "" rest)
      else
        let host ← if name.isEmpty then pure "" else hostText name
        if host.isEmpty || host == "localhost" then pure (fileUrl "" tail)
        else
          pure (fileUrl host (match tail with
            | first :: more => if isSlash true first then more else first :: more
            | [] => []))
    else pure (fileUrl "" (if isSlash true a then b :: rest else a :: b :: rest))
  | [a] => pure (fileUrl "" (if isSlash true a then [] else [a]))
  | [] => pure (fileUrl "" [])

def ofUnknownScheme (scheme : String) (chars : List Char) : Except UrlFault Url :=
  match chars with
  | '/' :: '/' :: rest => withAuthority scheme rest
  | '/' :: rest =>
    let (path, query, fragment) := splitTail rest
    .ok (assemble scheme none (pathText false path) query fragment)
  | _ =>
    let (path, query, fragment) := splitTail chars
    .ok (assemble scheme none (String.ofList (percentEncode (fun _ => false) path)) query
      fragment)

def isControlOrSpace (c : Char) : Bool := c.toNat ≤ 32

/-- The URL that a text spells.  Controls and spaces at its ends and tabs and
line breaks anywhere do not count. -/
def ofText (text : String) : Except UrlFault Url :=
  let chars := (Text.dropEndWhile isControlOrSpace (text.toList.dropWhile isControlOrSpace)).filter
    fun c => c != '\t' && c != '\n' && c != '\r'
  match splitScheme chars with
  | none => .error .noScheme
  | some (scheme, rest) =>
    if scheme = "file" then ofFile rest
    else if isKnown scheme then withAuthority scheme (rest.dropWhile (isSlash true))
    else ofUnknownScheme scheme rest

end Url

end Ebms
