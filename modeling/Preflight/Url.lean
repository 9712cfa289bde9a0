import Preflight.Url.Host

/-!
URLs: how a text is read as one and how it is written again. URLs for the web always have a host and
a path; any other URL may be a scheme and some text.
-/

namespace Preflight

/-- The parts of a URL. -/
structure Url where
  scheme : List Char
  -- what stands before the host: a name, and perhaps a password
  user : List Char := []
  password : List Char := []
  host : Option Url.Host := none
  portNumber : Option Nat := none
  -- the path as it is written
  path : List Char
  query : Option (List Char) := none
  fragment : Option (List Char) := none
  deriving DecidableEq, Repr

namespace Url

/-! ## 1. Schemes -/

def knownPort? (scheme : List Char) : Option Nat :=
  [("http", 80), ("https", 443), ("ws", 80), ("wss", 443), ("ftp", 21)].lookup
    (String.ofList scheme)

def isWeb (scheme : List Char) : Bool := (knownPort? scheme).isSome

def isSchemeChar (c : Char) : Bool :=
  c.isAlphanum || c == '+' || c == '-' || c == '.'

-- the scheme in lower case, and what is behind its colon
def splitScheme? (cs : List Char) : Option (List Char × List Char) :=
  match cs, cs.dropWhile isSchemeChar with
  | c :: _, ':' :: rest =>
    if c.isAlpha then some ((cs.takeWhile isSchemeChar).map Char.toLower, rest) else none
  | _, _ => none

/-! ## 2. Characters that stand as they are -/

def isPlain (others : String) (c : Char) : Bool :=
  0x20 ≤ c.toNat && c.toNat ≤ 0x7E && !others.toList.contains c

def inUser : Char → Bool := isPlain " \"#<>?`\x7b\x7d/:;=@[\\]^|"

def inPath : Char → Bool := isPlain " \"#<>?`\x7b\x7d"

def inOpaquePath : Char → Bool := isPlain ""

def inQuery (web : Bool) : Char → Bool := isPlain (if web then " \"#<>'" else " \"#<>")

def inFragment : Char → Bool := isPlain " \"<>`"

/-! ## 3. Paths -/

def isHere (segment : List Char) : Bool :=
  ["."].contains (String.ofList segment) || (String.ofList segment).toLower = "%2e"

def isUp (segment : List Char) : Bool :=
  ["..", "%2e.", ".%2e", "%2e%2e"].contains (String.ofList segment).toLower

/-- The segments of a path with each step up carried out, behind the segments so far. A path that
ends at a directory has an empty segment at its end. -/
def resolve (sofar : List (List Char)) : List (List Char) → List (List Char)
  | [] => sofar
  | [s] =>
    if isUp s then sofar.dropLast ++ [[]]
    else if isHere s then sofar ++ [[]]
    else sofar ++ [s]
  | s :: rest =>
    if isUp s then resolve sofar.dropLast rest
    else if isHere s then resolve sofar rest
    else resolve (sofar ++ [s]) rest

/-- A path behind a host or a slash. In a URL for the web a backslash counts as a slash. -/
def readPath (web : Bool) (cs : List Char) : List Char :=
  let cs := if web then cs.map fun c => if c = '\\' then '/' else c else cs
  if cs.isEmpty then (if web then ['/'] else [])
  else
    let cs := match cs with
      | '/' :: r => r
      | r => r
    let segments := (resolve [] (Text.splitAt '/' cs)).map (percentEncode inPath)
    '/' :: Text.joinBy '/' segments

/-! ## 4. Authorities -/

def isSlash (web : Bool) (c : Char) : Bool := c == '/' || (web && c == '\\')

def endsAuthority (web : Bool) (c : Char) : Bool := isSlash web c || c == '?' || c == '#'

-- what is before and behind the last `@`
def splitUser (cs : List Char) : List Char × List Char :=
  let behind := (cs.reverse.takeWhile (· != '@')).reverse
  if behind.length = cs.length then ([], cs) else (cs.take (cs.length - behind.length - 1), behind)

/-- The host and the port number between which a colon outside brackets stands. -/
def splitPort (inBrackets : Bool) : List Char → List Char × Option (List Char)
  | [] => ([], none)
  | c :: cs =>
    if c = ':' && !inBrackets then ([], some cs)
    else
      let (host, number) := splitPort (c = '[' || (inBrackets && c != ']')) cs
      (c :: host, number)

/-- The port number that digits write, unless it is the one that the scheme stands for. -/
def readPort (scheme : List Char) : Option (List Char) → Except Fault (Option Nat)
  | none => .ok none
  | some [] => .ok none
  | some digits =>
    if !digits.all Char.isDigit then .error .badPort
    else
      let n := digits.foldl (fun n c => n * 10 + (c.toNat - 48)) 0
      if 65535 < n then .error .badPort
      else .ok (if knownPort? scheme = some n then none else some n)

def readAuthority [Domains] (scheme : List Char) (cs : List Char) : Except Fault Url := do
  let (userinfo, place) := splitUser cs
  let user := userinfo.takeWhile (· != ':')
  let password := userinfo.drop (user.length + 1)
  let (name, digits) := splitPort false place
  let web := isWeb scheme
  if name.isEmpty && (web || !cs.isEmpty) then throw .emptyHost
  let host ← if web then Host.read name else Host.readOther name
  let portNumber ← readPort scheme digits
  return {
    scheme
    user := percentEncode inUser user
    password := percentEncode inUser password
    host := some host
    portNumber
    path := [] }

/-! ## 5. Reading -/

def isTrimmed (c : Char) : Bool := c.toNat ≤ 0x20

/-- A text without control characters and spaces at its ends, and without tabs and ends of
lines. -/
def cleaned (cs : List Char) : List Char :=
  ((((cs.dropWhile isTrimmed).reverse.dropWhile isTrimmed).reverse).filter fun c =>
    c != '\t' && c != '\n' && c != '\r')

/-- Puts the path, the query and the fragment that a text holds into a URL. -/
def withRest (u : Url) (path : List Char → List Char) (cs : List Char) : Url :=
  let web := isWeb u.scheme
  let beforeFragment := cs.takeWhile (· != '#')
  let fragment := cs.dropWhile (· != '#')
  let query := beforeFragment.dropWhile (· != '?')
  { u with
    path := path (beforeFragment.takeWhile (· != '?'))
    query := if query.isEmpty then none else some (percentEncode (inQuery web) (query.drop 1))
    fragment :=
      if fragment.isEmpty then none else some (percentEncode inFragment (fragment.drop 1)) }

def parse [Domains] (s : String) : Except Fault Url :=
  match splitScheme? (cleaned s.toList) with
  | none => .error .relative
  | some (scheme, rest) =>
    let web := isWeb scheme
    let behind (cs : List Char) : Except Fault Url := do
      let ends := endsAuthority web
      let u ← readAuthority scheme (cs.takeWhile fun c => !ends c)
      return u.withRest (readPath web) (cs.dropWhile fun c => !ends c)
    if web then behind (rest.dropWhile (isSlash true))
    else
      match rest with
      | '/' :: '/' :: cs => behind cs
      | '/' :: _ => .ok (withRest { scheme, path := [] } (readPath false) rest)
      | _ => .ok (withRest { scheme, path := [] } (percentEncode inOpaquePath) rest)

/-! ## 6. Writing -/

def front (u : Url) : List Char :=
  let user :=
    if u.user.isEmpty && u.password.isEmpty then []
    else u.user ++ (if u.password.isEmpty then [] else ':' :: u.password) ++ ['@']
  match u.host with
  | none => u.scheme ++ [':']
  | some host => u.scheme ++ [':', '/', '/'] ++ user ++ host.text

-- the text of a URL with a port number, if one is given
def textWithPort (u : Url) (number : Option Nat) : String :=
  let part (mark : Char) : Option (List Char) → List Char
    | none => []
    | some cs => mark :: cs
  String.ofList <| u.front ++ part ':' (number.map (Nat.toDigits 10)) ++ u.path
    ++ part '?' u.query ++ part '#' u.fragment

def text (u : Url) : String := u.textWithPort u.portNumber

-- the text of a URL in which no port number is left out
def fullText (u : Url) : String :=
  u.textWithPort (u.portNumber <|> (if u.host.isSome then knownPort? u.scheme else none))

/-! ## 7. Secure URLs -/

/-- Whether secrets may be sent to a URL: it is encrypted, or it is on the machine itself. -/
def isSecure (u : Url) : Bool :=
  u.scheme == "https".toList || u.scheme == "wss".toList || (u.host.map Host.isLocal).getD false

end Url

end Preflight
