import SealedRpc.Http.Url
import SealedRpc.Text.Utf8

/-!
# Paths of requests

What the target of a request stands for. Whoever sends it takes the path out of it and
follows the dots in it. Its percent escapes are undone octet by octet, and octets that are
no text become U+FFFD.

## Main results

* `octets_of_not_mem`: a path without a percent sign has the octets of its characters.
-/

namespace SealedRpc.Http.Path

/-- The octets of a path with its escapes undone. A percent sign that begins no escape stands
for itself. -/
def octets : Text → Bytes
  | a :: b :: c :: rest =>
      if a = '%' then
        match b.hexDigit?, c.hexDigit? with
        | some high, some low => UInt8.ofNat (16 * high + low) :: octets rest
        | _, _ => a.utf8 ++ octets (b :: c :: rest)
      else a.utf8 ++ octets (b :: c :: rest)
  | short => short.flatMap CodePoint.utf8

/-- Without a percent sign nothing is undone. -/
theorem octets_of_not_mem {path : Text} (h : ('%' : CodePoint) ∉ path) :
    octets path = path.flatMap CodePoint.utf8 := by
  fun_induction octets path <;> simp_all

/-- A path with its escapes undone. -/
def decode (path : Text) : Text :=
  Utf8.decodeLossy (octets path)

/-- Follows the segments of a path one by one: a dot stays, two dots go up, but not above the
root. The segments so far are kept with the last one in front. -/
def follow (kept : List Text) : List Text → List Text
  | [] => kept.reverse
  | s :: rest =>
      if s = Text.ofString "." then follow kept rest
      else if s = Text.ofString ".." then follow (if kept = [[]] then kept else kept.tail) rest
      else follow (s :: kept) rest

/-! ### Targets -/

/-- Why a target is refused. -/
inductive TargetFault where
  | control (c : CodePoint) (position : Nat)
  | slashes
  | colon
  deriving DecidableEq, Repr

/-- The words for a fault. -/
def TargetFault.message : TargetFault → Text
  | .control c position =>
      "Invalid non-printable ASCII character in URL, " ++ Text.quoted [c] ++ " at position " ++
        Text.ofNat position ++ "."
  | .slashes => "Relative URLs cannot have a path starting with '//'"
  | .colon => "Relative URLs cannot have a path starting with ':'"

/-- Whether a code point is a control character of ASCII. -/
def isControl (c : CodePoint) : Bool :=
  c.val < 0x20 || c.val = 0x7F

/-- The scheme, the authority and the path of a target, each of which may be empty. -/
def parts (target : Text) : Text × Text × Text :=
  let (scheme, rest) :=
    if target.head? = some ':' then ([], target.drop 1)
    else (Url.cutScheme? target).getD ([], target)
  let (authority, rest) :=
    if (Text.ofString "//").isPrefixOf rest then (rest.drop 2).span fun c => !Url.endsAuthority c
    else ([], rest)
  (scheme, authority, rest.takeWhile fun c : CodePoint => c ≠ '?' && c ≠ '#')

/-- The path that a target stands for, with the dots in it followed. A target without both a
scheme and an authority is put behind the root, without slashes of its own. -/
def ofTarget (target : Text) : Except TargetFault Text := do
  match target.findIdx? isControl with
  | some i => .error (.control (target.getD i 0) i)
  | none =>
      let (scheme, authority, path) := parts target
      if scheme.isEmpty && authority.isEmpty && (Text.ofString "//").isPrefixOf path then
        .error .slashes
      else if scheme.isEmpty && authority.isEmpty && path.head? = some ':' then .error .colon
      else
        let rooted := if scheme.isEmpty || authority.isEmpty then
            "/" ++ path.dropWhile (· = ('/' : CodePoint))
          else path
        let followed := Text.join "/" (follow [] (Text.splitOn '/' rooted))
        return if followed.isEmpty then "/" else followed

end SealedRpc.Http.Path
