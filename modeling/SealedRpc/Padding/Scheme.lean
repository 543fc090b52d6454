import SealedRpc.Text.Blank
import SealedRpc.Text.Case
import SealedRpc.Text.Quoted

/-!
# Padding schemes

The two paddings that a deployment can agree on, their names, and how many octets of each
block they take. The scheme is part of the agreement and never read off the data.

## Main results

* `Scheme.ofName?_name`: the name of a scheme denotes that scheme.
* `Scheme.chunkSize_eq_ok_iff`: a block holds data exactly if it is longer than the padding.
-/

namespace SealedRpc

/-- A padding scheme. -/
inductive Scheme where
  | pkcs1v15
  | oaepSha256
  deriving DecidableEq, Repr

/-- A modulus of `keySize` octets is too short for a padding of `overhead` octets. -/
structure KeyTooSmall where
  keySize : Int
  overhead : Nat
  deriving DecidableEq, Repr

namespace Scheme

/-- The name of a scheme. -/
def name : Scheme → String
  | .pkcs1v15 => "pkcs1v15"
  | .oaepSha256 => "oaep-sha256"

/-- The scheme with exactly this name. -/
def ofName? (t : Text) : Option Scheme :=
  if t = Text.ofString "pkcs1v15" then some .pkcs1v15
  else if t = Text.ofString "oaep-sha256" then some .oaepSha256
  else none

/-- The name of a scheme denotes that scheme. -/
theorem ofName?_name (s : Scheme) : ofName? (Text.ofString s.name) = some s := by
  cases s <;> decide

/-- The names that settings may use, in small letters and with hyphens. -/
def aliases : List (Text × Scheme) :=
  [("pkcs1", .pkcs1v15), ("pkcs1v15", .pkcs1v15), ("pkcs1-v1.5", .pkcs1v15),
    ("oaep", .oaepSha256), ("oaep-sha256", .oaepSha256)]

/-- Reads a scheme from a setting: white space around it, the case of its letters, and
underscores for hyphens do not matter. -/
def parse? (setting : Text) : Option Scheme :=
  let hyphenated : CodePoint → CodePoint := fun c => if c = '_' then '-' else c
  aliases.lookup (setting.trim.toLower.map hyphenated)

/-- How many octets of each block the padding takes. -/
def overhead : Scheme → Nat
  | .pkcs1v15 => 11
  | .oaepSha256 => 66

/-- How many octets of data a block of `keySize` octets holds at most. -/
def chunkSize (s : Scheme) (keySize : Int) : Except KeyTooSmall Nat :=
  if keySize ≤ s.overhead then .error ⟨keySize, s.overhead⟩
  else .ok (keySize - s.overhead).toNat

/-- A block holds data exactly if it is longer than the padding. -/
theorem chunkSize_eq_ok_iff {s : Scheme} {keySize : Int} {n : Nat} :
    s.chunkSize keySize = .ok n ↔ 0 < n ∧ keySize = s.overhead + n := by
  unfold chunkSize
  split
  · constructor
    · intro h; cases h
    · omega
  · constructor
    · intro h; cases h; omega
    · intro h; congr 1; omega

end Scheme

end SealedRpc
