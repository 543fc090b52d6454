import SealedRpc.Text.Quoted

/-!
# Hosts in brackets

A host between brackets is an address of the sixth version of the protocol or of a later
one. This module decides which texts are addresses.
-/

namespace SealedRpc.Http

/-- What is wrong with a host between brackets. -/
inductive HostFault where
  | laterVersion
  | fourthVersion
  | noAddress (host : Text)
  deriving DecidableEq, Repr

/-- The words for a fault. -/
def HostFault.message : HostFault → Text
  | .laterVersion => "IPvFuture address is invalid"
  | .fourthVersion => "An IPv4 address cannot be in brackets"
  | .noAddress host => host.quoted ++ " does not appear to be an IPv4 or IPv6 address"

namespace Host

/-- The value of a part of a dotted address: up to three digits, no zero in front of
another digit, at most 255. -/
def dottedPart? (t : Text) : Option Nat :=
  match t.mapM CodePoint.asciiDigit? with
  | none => none
  | some digits =>
      let n := digits.foldl (fun n d => 10 * n + d) 0
      if digits.isEmpty || 3 < digits.length || (1 < digits.length && digits.head? = some 0) ||
          255 < n then none
      else some n

/-- Whether a text is an address of the fourth version: four parts with dots between. -/
def isDotted (t : Text) : Bool :=
  let parts := Text.splitOn '.' t
  parts.length = 4 && parts.all fun p => (dottedPart? p).isSome

/-- Whether a text is a group of up to four hexadecimal digits. -/
def isGroup (t : Text) : Bool :=
  !t.isEmpty && t.length ≤ 4 && t.all fun c => c.hexDigit?.isSome

/-- The positions of empty parts between the first and the last part. -/
def gaps (parts : List Text) : List Nat :=
  (List.range (parts.length - 1)).filter fun i => 0 < i && (parts[i]?).any List.isEmpty

/-- Whether parts between colons are the eight groups of an address, where one gap may
stand for one or more groups of zero. -/
def areGroups (parts : List Text) : Bool :=
  match gaps parts with
  | [] => parts.length = 8 && parts.all isGroup
  | [gap] =>
      let before := parts.take gap
      let after := parts.drop (gap + 1)
      let before := if before = [[]] then [] else before
      let after := if after = [[]] then [] else after
      before.length + after.length < 8 && before.all isGroup && after.all isGroup
  | _ => false

/-- Parts whose last one is a dotted address, with two groups in its place. -/
def replaceDotted (parts : List Text) : Option (List Text) :=
  match parts.getLast? with
  | some last =>
      if last.contains ('.' : CodePoint) then
        if isDotted last then some (parts.dropLast ++ [("0" : Text), "0"]) else none
      else some parts
  | none => some parts

/-- Whether a text is an address of the sixth version, with an optional zone. -/
def isColoned (t : Text) : Bool :=
  let (address, zoneFits) :=
    match Text.cut? '%' t with
    | none => (t, true)
    | some (address, zone) => (address, !zone.isEmpty && !zone.contains ('%' : CodePoint))
  let parts := Text.splitOn ':' address
  zoneFits && !t.contains ('/' : CodePoint) && 3 ≤ parts.length &&
    match replaceDotted parts with
    | some parts => parts.length ≤ 9 && areGroups parts
    | none => false

/-- Whether a text that begins with `v` is an address of a later version: hexadecimal
digits, a dot, and something on the same line after it. -/
def isLater (t : Text) : Bool :=
  match t with
  | _ :: rest =>
      let isHex := fun c : CodePoint => c.hexDigit?.isSome
      match rest.dropWhile isHex with
      | c :: tail =>
          c = '.' && !(rest.takeWhile isHex).isEmpty && !tail.isEmpty &&
            !tail.contains ('\n' : CodePoint)
      | [] => false
  | [] => false

/-- Checks a host that stood between brackets. -/
def check (host : Text) : Except HostFault Unit :=
  if host.head? = some 'v' then if isLater host then .ok () else .error .laterVersion
  else if isDotted host then .error .fourthVersion
  else if isColoned host then .ok ()
  else .error (.noAddress host)

end Host

end SealedRpc.Http
