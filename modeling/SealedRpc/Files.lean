import SealedRpc.Text.Quoted
import SealedRpc.Text.Utf8

/-!
# Files

Files are a function from paths to contents or faults. The function of a working directory
that holds files and no folders is spelled out: a path may have empty components and single
dots in it, which mean nothing.
-/

namespace SealedRpc

/-- Why a file cannot be read. The path is shown without what means nothing in it. -/
inductive FileFault where
  | missing (path : Text)
  | notDirectory (path : Text)
  | isDirectory (path : Text)
  | nameTooLong (path : Text)
  | notEncodable
  | notPath
  | nullInPath
  | other (text : Text)
  deriving DecidableEq, Repr

namespace FileFault

/-- The number that the system has for a fault. -/
def number? : FileFault → Option Int
  | .missing _ => some 2
  | .notDirectory _ => some 20
  | .isDirectory _ => some 21
  | .nameTooLong _ => some 36
  | .notEncodable | .notPath | .nullInPath | .other _ => none

/-- The words for a fault. -/
def message : FileFault → Text
  | .missing path => "[Errno 2] No such file or directory: " ++ path.quoted
  | .notDirectory path => "[Errno 20] Not a directory: " ++ path.quoted
  | .isDirectory path => "[Errno 21] Is a directory: " ++ path.quoted
  | .nameTooLong path => "[Errno 36] File name too long: " ++ path.quoted
  | .notEncodable => "the path has no encoded form"
  | .notPath => "expected str, bytes or os.PathLike object, not list"
  | .nullInPath => "embedded null byte"
  | .other text => text

end FileFault

/-- What reading a path comes to. -/
abbrev Files := Text → Except FileFault Bytes

namespace Files

/-- The components of a path that mean something. -/
def components (path : Text) : List Text :=
  (Text.splitOn '/' path).filter fun c => !c.isEmpty && c ≠ Text.ofString "."

/-- The slashes that a path keeps at its beginning: two if there are exactly two, one if
there is any other number. -/
def root (path : Text) : Text :=
  let slashes := (path.takeWhile (· = ('/' : CodePoint))).length
  if slashes = 0 then [] else if slashes = 2 then "//" else "/"

/-- A path as it is shown. -/
def shown (path : Text) : Text :=
  let plain := root path ++ Text.join "/" (components path)
  if plain.isEmpty then "." else plain

/-- The longest path that the system takes, in octets. -/
def longestPath : Nat := 4095

/-- The longest component of a path that the system takes, in octets. -/
def longestName : Nat := 255

/-- Whether a code point stands for a single octet that is no character of its own. -/
def isBareOctet (c : CodePoint) : Bool :=
  0xDC80 ≤ c.val && c.val ≤ 0xDCFF

/-- Whether a path has a form that the system can be given. -/
def isEncodable (path : Text) : Bool :=
  path.all fun c => !c.isSurrogate || isBareOctet c

/-- The length of a text in octets, as the system is given it. -/
def octetCount (t : Text) : Nat :=
  t.foldl (fun n c => n + if isBareOctet c then 1 else c.utf8.length) 0

/-- The files of a working directory, which are given by name. Components that lead out of
it come to directories that hold nothing. -/
def ofDirectory (entries : List (Text × Bytes)) : Files := fun path =>
  if !isEncodable path then .error .notEncodable
  else if path.any (·.val = 0) then .error .nullInPath
  else if longestPath < octetCount (shown path) then .error (.nameTooLong (shown path))
  else
    let parts := components path
    match parts.dropWhile (· = Text.ofString "..") with
    | [] => .error (.isDirectory (shown path))
    | name :: rest =>
        if longestName < octetCount name then .error (.nameTooLong (shown path))
        else if !(root path).isEmpty || parts.head? ≠ some name then
          .error (.missing (shown path))
        else
          match entries.lookup name with
          | some content =>
              if rest.isEmpty then .ok content else .error (.notDirectory (shown path))
          | none => .error (.missing (shown path))

end Files

end SealedRpc
