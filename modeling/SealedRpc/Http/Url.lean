import SealedRpc.Http.Host
import SealedRpc.Text.Blank

/-!
# Addresses on the web

Taking an address apart, putting it together, and resolving a relative reference against
a base. The rules are the usual ones, with a few of older practice: an empty query or
fragment is dropped, parameters after a semicolon belong to the last segment, and
schemes that are not known to be hierarchical resolve nothing.
-/

namespace SealedRpc.Http

/-- What is wrong with an address. -/
inductive UrlFault where
  | brackets
  | host (fault : HostFault)
  | compatibilityForms (authority : Text)
  | noScheme (url : Text)
  deriving DecidableEq, Repr

/-- The words for a fault. -/
def UrlFault.message : UrlFault → Text
  | .brackets => "Invalid IPv6 URL"
  | .host fault => fault.message
  | .compatibilityForms authority =>
      "netloc '" ++ authority ++ "' contains invalid characters under NFKC normalization"
  | .noScheme url => "unknown url type: " ++ url.quoted

/-- The parts of an address. -/
structure Url where
  scheme : Text
  authority : Text
  path : Text
  parameters : Text
  query : Text
  fragment : Text
  deriving DecidableEq, Repr

namespace Url

/-- Schemes that resolve relative references. -/
def relativeSchemes : List Text :=
  ["", "ftp", "http", "gopher", "nntp", "imap", "wais", "file", "https", "shttp", "mms",
    "prospero", "rtsp", "rtspu", "sftp", "svn", "svn+ssh", "ws", "wss"]

/-- Schemes whose addresses have an authority. -/
def authoritySchemes : List Text :=
  ["", "ftp", "http", "gopher", "nntp", "telnet", "imap", "wais", "file", "mms", "https",
    "shttp", "snews", "prospero", "rtsp", "rtspu", "rsync", "svn", "svn+ssh", "sftp",
    "nfs", "git", "git+ssh", "ws", "wss"]

/-- Schemes whose last segment may have parameters. -/
def parameterSchemes : List Text :=
  ["", "ftp", "hdl", "prospero", "http", "imap", "https", "shttp", "rtsp", "rtspu",
    "sip", "sips", "mms", "sftp", "tel"]

/-! ### Taking apart -/

/-- Letters of ASCII. -/
def isLetter (c : CodePoint) : Bool :=
  (0x41 ≤ c.val && c.val ≤ 0x5A) || (0x61 ≤ c.val && c.val ≤ 0x7A)

/-- What a scheme is made of. -/
def isSchemeChar (c : CodePoint) : Bool :=
  isLetter c || c.asciiDigit?.isSome || c = '+' || c = '-' || c = '.'

/-- The scheme in front of an address, in small letters, and the rest. -/
def cutScheme? (t : Text) : Option (Text × Text) :=
  match Text.cut? ':' t with
  | some (scheme, rest) =>
      if scheme.head?.any isLetter && scheme.all isSchemeChar then
        some (Text.asciiLower scheme, rest)
      else none
  | none => none

/-- Code points whose compatibility form holds one of `/ ? # @ :`, so that a host could
hide another address. -/
def disguised : List Nat :=
  [0x2047, 0x2048, 0x2049, 0x2100, 0x2101, 0x2105, 0x2106, 0x2A74, 0xFE13, 0xFE16, 0xFE55,
    0xFE56, 0xFE5F, 0xFE6B, 0xFF03, 0xFF0F, 0xFF1A, 0xFF1F, 0xFF20]

/-- Splits at the first `mark`; what follows is empty if there is none. -/
def cutOff (mark : CodePoint) (t : Text) : Text × Text :=
  (Text.cut? mark t).getD (t, [])

/-- What stands after the last at sign of an authority: a host, and perhaps a port. -/
def hostAndPort (authority : Text) : Text :=
  ((Text.cutLast? '@' authority).map Prod.snd).getD authority

/-- The host that stands between brackets, which nothing precedes and only a port follows. An
authority without brackets after the user has a plain host. -/
def bracketedHost (authority : Text) : Except UrlFault Text :=
  match Text.cut? '[' (hostAndPort authority) with
  | some (before, inside) =>
      let (host, after) := cutOff ']' inside
      if !before.isEmpty || !(after.isEmpty || after.head? = some ':') then .error .brackets
      else .ok host
  | none => .ok (cutOff ':' (hostAndPort authority)).1

/-- Checks the authority of an address: brackets come in pairs around an address. -/
def checkBrackets (authority : Text) : Except UrlFault Unit := do
  let opens := authority.contains ('[' : CodePoint)
  let closes := authority.contains (']' : CodePoint)
  if opens != closes then .error .brackets
  if opens then
    (Host.check (← bracketedHost authority)).mapError .host

/-- Refuses an authority with a disguised delimiter. -/
def checkForms (authority : Text) : Except UrlFault Unit :=
  if authority.any fun c => disguised.contains c.val then .error (.compatibilityForms authority)
  else .ok ()

/-- Whether a code point ends an authority. -/
def endsAuthority (c : CodePoint) : Bool :=
  c = '/' || c = '?' || c = '#'

/-- Splits the parameters off the last segment of a path. -/
def cutParameters (path : Text) : Text × Text :=
  match Text.cutLast? '/' path with
  | some (folder, last) =>
      match Text.cut? ';' last with
      | some (name, parameters) => (folder ++ "/" ++ name, parameters)
      | none => (path, [])
  | none => cutOff ';' path

/-- Takes an address apart. Without a scheme of its own it gets the scheme `fallback`. -/
def split (t : Text) (fallback : Text) : Except UrlFault Url := do
  let isUnsafe := fun c : CodePoint => c.val = 0x09 || c.val = 0x0A || c.val = 0x0D
  let plain := (t.dropWhile fun c => c.val ≤ 0x20).filter fun c => !isUnsafe c
  let (scheme, rest) := (cutScheme? plain).getD (fallback, plain)
  let (authority, rest) :=
    match Text.after? "//" rest with
    | some tail =>
        (tail.takeWhile fun c => !endsAuthority c, tail.dropWhile fun c => !endsAuthority c)
    | none => ([], rest)
  checkBrackets authority
  let (rest, fragment) := cutOff '#' rest
  let (path, query) := cutOff '?' rest
  checkForms authority
  let (path, parameters) :=
    if parameterSchemes.contains scheme then cutParameters path else (path, [])
  return ⟨scheme, authority, path, parameters, query, fragment⟩

/-! ### Putting together -/

/-- The text of an address. -/
def toText (u : Url) : Text :=
  let path := if u.parameters.isEmpty then u.path else u.path ++ ";" ++ u.parameters
  let hasAuthority := !u.authority.isEmpty || (!u.scheme.isEmpty &&
    authoritySchemes.contains u.scheme && (Text.after? "//" path).isNone)
  let path :=
    if hasAuthority then
      let rooted :=
        if path.isEmpty || path.head? = some ('/' : CodePoint) then path else "/" ++ path
      "//" ++ u.authority ++ rooted
    else path
  let withScheme := if u.scheme.isEmpty then path else u.scheme ++ ":" ++ path
  let withQuery := if u.query.isEmpty then withScheme else withScheme ++ "?" ++ u.query
  if u.fragment.isEmpty then withQuery else withQuery ++ "#" ++ u.fragment

/-! ### Resolving references -/

/-- Drops the empty segments other than the first and the last one. -/
def dropEmptyInside (segments : List Text) : List Text :=
  match segments with
  | [] => []
  | [only] => [only]
  | first :: rest => first :: (rest.dropLast.filter fun s => !s.isEmpty) ++ rest.getLast?.toList

/-- The segments of a path relative to a base path. -/
def mergedSegments (base path : Text) : List Text :=
  if path.head? = some ('/' : CodePoint) then Text.splitOn '/' path
  else
    let baseSegments := Text.splitOn '/' base
    let folders :=
      if baseSegments.getLast? = some [] then baseSegments else baseSegments.dropLast
    dropEmptyInside (folders ++ Text.splitOn '/' path)

/-- Follows the segments one by one: a dot stays, two dots go up. The segments so far are
kept with the last one in front. -/
def follow (kept : List Text) : List Text → List Text
  | [] => kept.reverse
  | s :: rest =>
      if s = Text.ofString ".." then follow kept.tail rest
      else if s = Text.ofString "." then follow kept rest
      else follow (s :: kept) rest

/-- The path that segments lead to. A path that ends in dots ends in a slash. -/
def resolvedPath (segments : List Text) : Text :=
  let last := segments.getLast?
  let endsInDots := last = some (Text.ofString ".") || last = some (Text.ofString "..")
  let path := Text.join "/" (follow [] segments ++ if endsInDots then [[]] else [])
  if path.isEmpty then "/" else path

/-- Resolves a reference against a base. -/
def join (base reference : Text) : Except UrlFault Text := do
  if base.isEmpty then return reference
  if reference.isEmpty then return base
  let b ← split base []
  let r ← split reference b.scheme
  if r.scheme ≠ b.scheme || !relativeSchemes.contains r.scheme then return reference
  let sharesAuthority := authoritySchemes.contains r.scheme
  if sharesAuthority && !r.authority.isEmpty then return r.toText
  let authority := if sharesAuthority then b.authority else r.authority
  if r.path.isEmpty && r.parameters.isEmpty then
    let query := if r.query.isEmpty then b.query else r.query
    return toText ⟨r.scheme, authority, b.path, b.parameters, query, r.fragment⟩
  return toText { r with authority, path := resolvedPath (mergedSegments b.path r.path) }

/-! ### Addresses of requests -/

/-- Takes the white space, the angle brackets and the mark `URL:` off an address. -/
def unwrap (t : Text) : Text :=
  let t := t.trim
  let bracketed := t.head? = some ('<' : CodePoint) && t.getLast? = some ('>' : CodePoint)
  let t := if bracketed then Text.trim (t.drop 1).dropLast else t
  match Text.after? "URL:" t with
  | some rest => rest.trim
  | none => t

/-- Whether an address begins with a scheme: something without a slash before a colon. -/
def hasScheme (t : Text) : Bool :=
  match t.dropWhile fun c : CodePoint => c ≠ '/' && c ≠ ':' with
  | c :: _ => c = ':' && t.head? ≠ some ':'
  | [] => false

/-- The address that a request is sent to, which must have a scheme. An empty fragment is
dropped, any other stays. -/
def forRequest (t : Text) : Except UrlFault Text := do
  let (address, fragment) := (Text.cutLast? '#' (unwrap t)).getD (unwrap t, [])
  let full := if fragment.isEmpty then address else address ++ "#" ++ fragment
  if !hasScheme address then .error (.noScheme full)
  let _ ← split full []
  return full

end Url

end SealedRpc.Http
