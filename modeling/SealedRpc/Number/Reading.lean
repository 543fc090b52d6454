import SealedRpc.Number.Shortest
import SealedRpc.Text.Blank
import SealedRpc.Text.Digit
import SealedRpc.Text.Quoted

/-!
# Numbers in settings

Reading integers and floating point numbers from texts that people type: white space
around them, digits of any script, and single underscores between digits.
-/

namespace SealedRpc

/-- Integers with more decimal digits than this are neither read nor written. -/
def digitLimit : Nat := 4300

namespace Number

/-- Why a text is no integer. -/
inductive IntFault where
  | malformed (text : Text)
  | tooLong (digits : Nat)
  deriving DecidableEq, Repr

/-- Why an integer has no text: the beginning of the message for both directions. -/
def limitMessage : String :=
  "Exceeds the limit (4300 digits) for integer string conversion"

/-- What to do about it. -/
def limitAdvice : String :=
  "; use sys.set_int_max_str_digits() to increase the limit"

/-- The message about a number of so many digits that was to be read. -/
def tooLongMessage (digits : Nat) : Text :=
  limitMessage ++ ": value has " ++ Text.ofNat digits ++ " digits" ++ limitAdvice

/-- The words for a fault. A long text is cut off after 200 code points. -/
def IntFault.message : IntFault → Text
  | .malformed text => "invalid literal for int() with base 10: " ++ text.quoted.take 200
  | .tooLong digits => tooLongMessage digits

/-- Writes digits of other scripts and their white space as ASCII, up to the first code
point that is neither, which becomes a question mark. -/
def toAscii : Text → Text
  | [] => []
  | c :: rest =>
      if c.val < 127 then c :: toAscii rest
      else if c.isBlank then ' ' :: toAscii rest
      else match c.digit? with
        | some d => CodePoint.ofChar (Nat.digitChar d) :: toAscii rest
        | none => ['?']

/-- The white space of ASCII. -/
def isAsciiBlank (c : CodePoint) : Bool :=
  c.val = 0x20 || (0x09 ≤ c.val && c.val ≤ 0x0D)

/-- Takes an optional sign off a text and says whether it was a minus. -/
def takeSign (t : Text) : Bool × Text :=
  match t with
  | c :: rest => if c = '-' then (true, rest) else if c = '+' then (false, rest) else (false, t)
  | [] => (false, [])

/-- Whether every underscore stands between two digits. -/
def underscoresFit (before : Option CodePoint) : Text → Bool
  | [] => before ≠ some '_'
  | c :: rest =>
      let isDigit := fun d : CodePoint => d.asciiDigit?.isSome
      (if c = '_' then before.any isDigit else before ≠ some '_' || isDigit c) &&
        underscoresFit (some c) rest

/-- The number that ASCII digits write. -/
def ofDigits (digits : Text) : Nat :=
  digits.foldl (fun n c => 10 * n + c.asciiDigit?.getD 0) 0

/-- Reads an integer. -/
def readInt (text : Text) : Except IntFault Int :=
  let (negative, body) := takeSign ((toAscii text).dropWhile isAsciiBlank)
  let inNumeral := fun c : CodePoint => c.asciiDigit?.isSome || c = '_'
  let numeral := body.takeWhile inNumeral
  let rest := body.dropWhile inNumeral
  let digits := numeral.filter (· ≠ ('_' : CodePoint))
  if digits.isEmpty || !underscoresFit none numeral then .error (.malformed text)
  else if digitLimit < digits.length then .error (.tooLong digits.length)
  else if rest.all isAsciiBlank then
    .ok (if negative then -(ofDigits digits : Int) else ofDigits digits)
  else .error (.malformed text)

/-- Reads the part of a numeral after its sign: digits with at most one point among them,
and an optional exponent. -/
def readMagnitude? (negative : Bool) (t : Text) : Option Binary64 :=
  let isDigit := fun c : CodePoint => c.asciiDigit?.isSome
  let whole := t.takeWhile isDigit
  let afterWhole := t.dropWhile isDigit
  let (places, afterPlaces) :=
    match afterWhole with
    | c :: rest =>
        if c = '.' then (rest.takeWhile isDigit, rest.dropWhile isDigit) else ([], afterWhole)
    | [] => ([], [])
  if whole.isEmpty && places.isEmpty then none
  else
    let digits := ofDigits (whole ++ places)
    match afterPlaces with
    | [] => some (.ofDecimal negative digits (-places.length))
    | c :: rest =>
        if c = 'e' ∨ c = 'E' then
          let (below, power) := takeSign rest
          if power.isEmpty || !power.all isDigit then none
          else
            let e : Int := ofDigits power
            some (.ofDecimal negative digits ((if below then -e else e) - places.length))
        else none

/-- Reads a floating point number. -/
def readFloat? (text : Text) : Option Binary64 :=
  let ascii := Text.trimWhile isAsciiBlank (toAscii text)
  if ascii.contains ('_' : CodePoint) && !underscoresFit none ascii then none
  else
    let (negative, body) := takeSign (ascii.filter (· ≠ ('_' : CodePoint)))
    let name := body.map CodePoint.asciiLower
    if name = Text.ofString "inf" ∨ name = Text.ofString "infinity" then some (.infinite negative)
    else if name = Text.ofString "nan" then some .nan
    else readMagnitude? negative body

end Number

end SealedRpc
