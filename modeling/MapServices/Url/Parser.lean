import MapServices.Url.Basic

/-!
# Reading addresses

An absolute address is read component by component: the scheme, then, depending on what follows
it, a user and a host with a port, then the path, the query and the fragment. White space and
controls at the ends and line breaks anywhere are passed over. Six schemes are special: their
addresses name a host, except that a file may do without one, and a backslash counts as a slash in
them.

* `readChars` reads a whole address or says why it is none.
* `resolveDots` resolves dot segments; `Host.ofText` tells names from numeric addresses.
-/

namespace MapServices.Url

/-- Why a text is no absolute address. -/
inductive ReadError where
  /-- The text does not start with a scheme. -/
  | noScheme
  /-- The host is missing. -/
  | emptyHost
  /-- The host is no domain name. -/
  | badDomain
  /-- The host holds a character that no host may hold. -/
  | badHostCharacter
  /-- The host ends in a number and is no address of 32 bits. -/
  | badIpv4
  /-- The host in brackets is no address of 128 bits. -/
  | badIpv6
  /-- The port is no number below `2 ^ 16`. -/
  | badPort
deriving DecidableEq, Repr

/-- The text of the error. -/
def ReadError.message : ReadError → String
  | noScheme => "relative URL without a base"
  | emptyHost => "empty host"
  | badDomain => "invalid international domain name"
  | badHostCharacter => "invalid domain character"
  | badIpv4 => "invalid IPv4 address"
  | badIpv6 => "invalid IPv6 address"
  | badPort => "invalid port number"

/-! ### Schemes -/

/-- How the addresses of a scheme are built. -/
inductive SchemeType where
  /-- A file, with or without a host. -/
  | file
  /-- A special scheme whose addresses have a host. -/
  | special
  /-- Any other scheme. -/
  | other
deriving DecidableEq, Repr

/-- Whether a backslash counts as a slash. -/
def SchemeType.isSpecial : SchemeType → Bool
  | other => false
  | _ => true

/-- The port that a scheme implies. -/
def defaultPort? (scheme : List Char) : Option Nat :=
  match String.ofList scheme with
  | "http" | "ws" => some 80
  | "https" | "wss" => some 443
  | "ftp" => some 21
  | _ => none

/-- How the addresses of the scheme are built. -/
def SchemeType.ofScheme (scheme : List Char) : SchemeType :=
  if scheme = ['f', 'i', 'l', 'e'] then file
  else if (defaultPort? scheme).isSome then special
  else other

/-- Whether the character may stand in a scheme after its first letter. -/
def isSchemeChar (c : Char) : Bool := c.isAlphanum || c = '+' || c = '-' || c = '.'

/-- The scheme in lower case, and what follows its colon. -/
def splitScheme? (s : List Char) : Option (List Char × List Char) :=
  match s with
  | first :: _ =>
    if first.isAlpha then
      match s.dropWhile isSchemeChar with
      | ':' :: rest => some (Text.lower (s.takeWhile isSchemeChar), rest)
      | _ => none
    else none
  | [] => none

/-! ### Hosts -/

/-- Whether the character may not stand in a host of a scheme that is not special. -/
def isForbiddenInHost (c : Char) : Bool :=
  c = '\x00' || "\t\n\r #/:<>?@[\\]^|".toList.contains c

/-- A host in brackets. -/
def Host.ofBrackets (s : List Char) : Except ReadError Host :=
  if 2 ≤ s.length && s.getLast? = some ']' then
    match Ipv6.read? (s.drop 1).dropLast with
    | some pieces => .ok (.ipv6 pieces)
    | none => .error .badIpv6
  else .error .badIpv6

/-- The host of a special address. -/
def Host.ofDomain (s : List Char) : Except ReadError Host :=
  match (Utf8.decode? (percentDecode (Utf8.encode s))).bind Domain.toAscii? with
  | none => .error .badDomain
  | some [] => .error .emptyHost
  | some domain =>
    if Ipv4.endsInNumber domain then
      match Ipv4.read? domain with
      | some address => .ok (.ipv4 address)
      | none => .error .badIpv4
    else .ok (.name domain)

/-- The host that a text stands for. -/
def Host.ofText (special : Bool) (s : List Char) : Except ReadError Host :=
  match s with
  | '[' :: _ => Host.ofBrackets s
  | _ =>
    if special then Host.ofDomain s
    else if s.any isForbiddenInHost then .error .badHostCharacter
    else .ok (.name (percentEncode isControlOrForeign s))

/-! ### Authorities -/

/-- Whether the character ends the part of an address that names the place. -/
def endsAuthority (special : Bool) (c : Char) : Bool :=
  c = '/' || c = '?' || c = '#' || (special && c = '\\')

/-- Splits at the last `@`: what stands before it, if there is one, and what stands after it. -/
def splitUser (s : List Char) : Option (List Char) × List Char :=
  match s.splitOn '@' with
  | [] => (none, [])
  | [host] => (none, host)
  | pieces => (some (['@'].intercalate pieces.dropLast), (pieces.getLast?).getD [])

/-- Splits at the first colon outside brackets: the host, and what stands after the colon if there
is one. -/
def splitPort (inBrackets : Bool) : List Char → List Char × Option (List Char)
  | [] => ([], none)
  | c :: s =>
    if c = ':' && !inBrackets then ([], some s)
    else
      let inBrackets := if c = '[' then true else if c = ']' then false else inBrackets
      let (host, port?) := splitPort inBrackets s
      (c :: host, port?)

/-- The port that a text spells, unless the scheme implies it. -/
def readPort (scheme : List Char) (s : List Char) : Except ReadError (Option Nat) :=
  if s.isEmpty then .ok none
  else if s.all Char.isDigit && Decimal.digitsValue s < 0x10000 then
    let port := Decimal.digitsValue s
    .ok (if defaultPort? scheme = some port then none else some port)
  else .error .badPort

/-- A user, a host and a port. -/
structure Authority where
  username : List Char := []
  password : List Char := []
  host : Host
  port? : Option Nat := none
deriving DecidableEq, Repr

/-- The user name and the password before an `@`. -/
def readUser (s : List Char) : List Char × List Char :=
  match Text.cutAt? ':' s with
  | some (user, password) =>
    (percentEncode isUserEncoded user, percentEncode isUserEncoded password)
  | none => (percentEncode isUserEncoded s, [])

/-- Reads the part of an address that names the place; `more` says whether the address goes on
behind it. An address of a scheme that is not special may have the empty host, but then neither
user nor port. A backslash ends the port, and what follows it is left for the path. -/
def Authority.ofText (scheme : List Char) (special more : Bool) (s : List Char) :
    Except ReadError (Authority × List Char) := do
  let (user?, place) := splitUser s
  if user? = some [] && place.isEmpty && more then throw .emptyHost
  let (username, password) := readUser (user?.getD [])
  let (hostText, portText?) := splitPort false place
  if special && hostText.isEmpty then throw .emptyHost
  let host ← Host.ofText special hostText
  let named := host ≠ .name []
  if !named && portText?.isSome then throw .emptyHost
  let portText := portText?.getD []
  let port? ← readPort scheme (portText.takeWhile (· ≠ '\\'))
  if !named && !(username.isEmpty && password.isEmpty) then throw .emptyHost
  return ({ username, password, host, port? }, portText.dropWhile (· ≠ '\\'))

/-! ### Paths -/

/-- Whether a segment is a single dot, which may be encoded. -/
def isSingleDot (segment : List Char) : Bool :=
  [".", "%2e"].contains (String.ofList (Text.lower segment))

/-- Whether a segment is a double dot, in which each dot may be encoded. -/
def isDoubleDot (segment : List Char) : Bool :=
  ["..", "%2e.", ".%2e", "%2e%2e"].contains (String.ofList (Text.lower segment))

/-- Whether a segment names a drive: a letter and a colon or bar. -/
def isDrive (segment : List Char) : Bool :=
  match segment with
  | [letter, mark] => letter.isAlpha && (mark = ':' || mark = '|')
  | _ => false

/-- Whether a segment starts with a drive, so that a double dot after it does not remove it. -/
def startsWithDrive (segment : List Char) : Bool :=
  isDrive (segment.take 2) && (segment.length = 2 || segment[2]? = some '\\')

/-- Takes the last segment away, unless it names a drive. The segments are in reverse order. -/
def parent : List (List Char) → List (List Char)
  | [] => []
  | last :: rest => if startsWithDrive last then last :: rest else rest

/-- Resolves dot segments. `done` holds the segments before, in reverse order. -/
def resolveDots (done : List (List Char)) : List (List Char) → List (List Char)
  | [] => done.reverse
  | segment :: rest =>
    let atEnd := if rest.isEmpty then [[]] else []
    if isDoubleDot segment then resolveDots (atEnd ++ parent done) rest
    else if isSingleDot segment then resolveDots (atEnd ++ done) rest
    else resolveDots (segment :: done) rest

/-- The pieces of a path between slashes. -/
def splitPath (special : Bool) (s : List Char) : List (List Char) :=
  s.splitOnP fun c => c = '/' || (special && c = '\\')

/-- The segments of a path whose first slash has been read. -/
def readSegments (special : Bool) (s : List Char) : List (List Char) :=
  resolveDots [] ((splitPath special s).map (percentEncode isPathEncoded))

/-- Writes a drive with a colon. -/
def normalizeDrive (segment : List Char) : List Char :=
  if isDrive segment then [segment.headD ' ', ':'] else segment

/-- The segments of the path of a file: empty segments in front are left out, and drives are written
with a colon. -/
def fileSegments (segments : List (List Char)) : List (List Char) :=
  match segments.dropWhile List.isEmpty with
  | [] => [[]]
  | rest => rest.map normalizeDrive

/-! ### Whole addresses -/

/-- Splits off the query and the fragment. -/
def splitTail (s : List Char) : List Char × Option (List Char) × Option (List Char) :=
  let (s, fragment?) := match Text.cutAt? '#' s with
    | some (front, fragment) => (front, some fragment)
    | none => (s, none)
  match Text.cutAt? '?' s with
  | some (front, query) => (front, some query, fragment?)
  | none => (s, none, fragment?)

/-- Reads what follows two slashes: the place and the path. -/
def readHierarchy (scheme : List Char) (special : Bool) (s : List Char) (more : Bool) :
    Except ReadError Url := do
  let placeText := s.takeWhile (!endsAuthority special ·)
  let rest := s.dropWhile (!endsAuthority special ·)
  let (a, left) ← Authority.ofText scheme special (!rest.isEmpty || more) placeText
  let segments := match left, rest with
    | [], [] => if special then [[]] else []
    | [], _ :: rest => readSegments special rest
    | left, rest => readSegments special (left ++ rest)
  return { scheme, username := a.username, password := a.password, host? := some a.host,
           port? := a.port?, path := .segments segments }

/-- Reads the address of a file after the scheme. -/
def readFile (scheme : List Char) (s : List Char) : Except ReadError Url := do
  let isSlash (c : Char) : Bool := c = '/' || c = '\\'
  let unplaced (segments : List (List Char)) : Url :=
    { scheme, host? := some (.name []), path := .segments (fileSegments segments) }
  match s with
  | a :: b :: rest =>
    if isSlash a && isSlash b then
      let hostText := rest.takeWhile (!isSlash ·)
      let path := rest.dropWhile (!isSlash ·)
      if isDrive hostText then return unplaced (readSegments true rest)
      else if hostText.isEmpty then return unplaced (readSegments true rest)
      else
        let host ← Host.ofText true hostText
        let segments := readSegments true (path.drop 1)
        if host = .name "localhost".toList || segments.any isDrive then return unplaced segments
        else return { scheme, host? := some host, path := .segments (fileSegments segments) }
    else if isSlash a then return unplaced (readSegments true (b :: rest))
    else return unplaced (readSegments true s)
  | [a] => return unplaced (readSegments true (if isSlash a then [] else [a]))
  | [] => return unplaced [[]]

/-- Reads an address of a scheme that is not special, after the scheme. -/
def readOther (scheme : List Char) (s : List Char) (more : Bool) : Except ReadError Url :=
  match s with
  | '/' :: '/' :: rest => readHierarchy scheme false rest more
  | '/' :: rest => .ok { scheme, path := .segments (readSegments false rest) }
  | _ => .ok { scheme, path := .plain (percentEncode isControlOrForeign s) }

/-- Whether the character is passed over at the ends of an address. -/
def isControlOrSpace (c : Char) : Bool := c.toNat ≤ 0x20

/-- The text without controls and spaces at its ends and without tabs and line breaks. -/
def clean (s : List Char) : List Char :=
  let s := s.dropWhile isControlOrSpace
  let s := (s.reverse.dropWhile isControlOrSpace).reverse
  s.filter fun c => !(c = '\t' || c = '\n' || c = '\r')

/-- Reads what follows the scheme, up to the query. -/
def readPlace (scheme : List Char) (s : List Char) (more : Bool) : Except ReadError Url :=
  match SchemeType.ofScheme scheme with
  | .file => readFile scheme s
  | .special => readHierarchy scheme true (s.dropWhile fun c => c = '/' || c = '\\') more
  | .other => readOther scheme s more

/-- The address that a text spells. -/
def readChars (s : List Char) : Except ReadError Url := do
  match splitScheme? (clean s) with
  | none => .error .noScheme
  | some (scheme, rest) =>
    let (front, query?, fragment?) := splitTail rest
    let url ← readPlace scheme front (query?.isSome || fragment?.isSome)
    let special := (SchemeType.ofScheme scheme).isSpecial
    return { url with
      query? := query?.map (percentEncode (isQueryEncoded special))
      fragment? := fragment?.map (percentEncode isFragmentEncoded) }

end MapServices.Url
