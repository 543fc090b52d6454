import SealedRpc.Json.Basic

/-!
# Reading JSON

A reader for JSON texts. It also accepts the three names for what is no number. Whether it
accepts lone surrogates written as escapes, how deeply containers may nest, and how long
numbers may be is a matter of the dialect. A failure names its cause and the place, which is
counted in code points.

The readers take what is left of the text and give back what they leave. Inside they
report a place as the length of the text from there on; the place from the start is
worked out once, at the end. They recurse on a budget of steps that the length of the text
provides, and containers may nest to a fixed depth.
-/

namespace SealedRpc.Json

/-- What is wrong with a JSON text at some place. -/
inductive Issue where
  | byteOrderMark
  | value
  | propertyName
  | colon
  | comma
  | extraData
  | unterminatedString
  | controlCharacter
  | escape
  | unicodeEscape
  | loneSurrogate
  deriving DecidableEq, Repr

/-- The words for an issue. -/
def Issue.message : Issue → String
  | .byteOrderMark => "Unexpected UTF-8 BOM (decode using utf-8-sig)"
  | .value => "Expecting value"
  | .propertyName => "Expecting property name enclosed in double quotes"
  | .colon => "Expecting ':' delimiter"
  | .comma => "Expecting ',' delimiter"
  | .extraData => "Extra data"
  | .unterminatedString => "Unterminated string starting at"
  | .controlCharacter => "Invalid control character at"
  | .escape => "Invalid \\escape"
  | .unicodeEscape => "Invalid \\uXXXX escape"
  | .loneSurrogate => "Lone surrogate in string starting at"

/-- What readers of JSON texts differ in. -/
structure Dialect where
  /-- How deeply containers may nest. -/
  nesting : Nat
  /-- Whether a string may hold a lone surrogate. -/
  loneSurrogates : Bool
  /-- Whether an empty container counts as one more level of nesting. -/
  emptyNests : Bool
  /-- How many digits the whole part of any number may have, if that is limited. -/
  wholeLength? : Option Nat
  deriving DecidableEq, Repr

/-- The dialect that everything is read in unless a format says otherwise. -/
def Dialect.lenient [NestingLimit] : Dialect := ⟨nestingLimit, true, true, none⟩

/-- A failure of a reader: an issue with the length of the text from its place on, a
number with too many digits, or nesting beyond the limit. -/
inductive Stop where
  | issue (issue : Issue) (remaining : Nat)
  | intTooLong (digits : Nat)
  | tooDeep
  deriving DecidableEq, Repr

/-- Stops at the beginning of what is left. -/
def stopAt {α : Type} (issue : Issue) (t : Text) : Except Stop α :=
  .error (.issue issue t.length)

/-- The white space between tokens. -/
def isSpace (c : CodePoint) : Bool :=
  c.val = 0x20 || c.val = 0x09 || c.val = 0x0A || c.val = 0x0D

/-- Drops white space. -/
def skipSpace (t : Text) : Text :=
  t.dropWhile isSpace

/-! ### Strings -/

/-- The number of four hexadecimal digits. -/
def hex4? (a b c d : CodePoint) : Option Nat := do
  return 0x1000 * (← a.hexDigit?) + 0x100 * (← b.hexDigit?) + 0x10 * (← c.hexDigit?) +
    (← d.hexDigit?)

/-- What a backslash and one more code point stand for. -/
def simpleEscape? (c : CodePoint) : Option CodePoint :=
  if c = '"' ∨ c = '\\' ∨ c = '/' then some c
  else if c = 'b' then some 0x08
  else if c = 'f' then some 0x0C
  else if c = 'n' then some 0x0A
  else if c = 'r' then some 0x0D
  else if c = 't' then some 0x09
  else none

/-- The code point of a pair of surrogates, if the two are one. -/
def pair? (high : Option CodePoint) (low : Nat) : Option CodePoint :=
  high.bind fun h =>
    if 0xDC00 ≤ low ∧ low ≤ 0xDFFF then
      some (Fin.ofNat _ (0x10000 + 0x400 * (h.val - 0xD800) + (low - 0xDC00)))
    else none

/-- Reads a string after its opening quote, `start` being the length of the text from
that quote on. A high surrogate that was just read as an escape waits in `high`, since a
low one may follow. -/
def readString (start : Nat) (high : Option CodePoint) : Text → Except Stop (Text × Text)
  | [] => .error (.issue .unterminatedString start)
  | c :: rest =>
      if c = '"' then .ok (high.toList, rest)
      else if c = '\\' then
        match rest with
        | [] => .error (.issue .unterminatedString start)
        | e :: rest =>
            if e = 'u' then
              match rest with
              | h1 :: h2 :: h3 :: h4 :: rest =>
                  if rest.isEmpty then .error (.issue .unicodeEscape 5)
                  else match hex4? h1 h2 h3 h4 with
                    | none => .error (.issue .unicodeEscape (rest.length + 5))
                    | some n =>
                        match pair? high n with
                        | some whole =>
                            (readString start none rest).map fun r => (whole :: r.1, r.2)
                        | none =>
                            if 0xD800 ≤ n ∧ n ≤ 0xDBFF then
                              (readString start (some (Fin.ofNat _ n)) rest).map fun r =>
                                (high.toList ++ r.1, r.2)
                            else
                              (readString start none rest).map fun r =>
                                (high.toList ++ Fin.ofNat _ n :: r.1, r.2)
              | _ => .error (.issue .unicodeEscape (rest.length + 1))
            else match simpleEscape? e with
              | none => .error (.issue .escape (rest.length + 2))
              | some plain =>
                  (readString start none rest).map fun r => (high.toList ++ plain :: r.1, r.2)
      else if c.val ≤ 0x1F then .error (.issue .controlCharacter (rest.length + 1))
      else (readString start none rest).map fun r => (high.toList ++ c :: r.1, r.2)

/-- Reads a string after its opening quote in a dialect. -/
def readText (dialect : Dialect) (start : Nat) (t : Text) : Except Stop (Text × Text) := do
  let (content, rest) ← readString start none t
  if !dialect.loneSurrogates && content.any CodePoint.isSurrogate then
    .error (.issue .loneSurrogate start)
  else return (content, rest)

/-! ### Numbers and names -/

/-- Whether a code point is an ASCII digit. -/
def isDigit (c : CodePoint) : Bool :=
  c.asciiDigit?.isSome

/-- Takes the whole part of a number: a zero alone, or digits that start with another. -/
def readWhole? : Text → Option (Text × Text)
  | [] => none
  | c :: rest =>
      if c = '0' then some ([c], rest)
      else if isDigit c then some (c :: rest.takeWhile isDigit, rest.dropWhile isDigit)
      else none

/-- Takes a point and the digits after it; without a digit after it the point stays. -/
def readPlaces? : Text → Option (Text × Text)
  | c :: d :: rest =>
      if c = '.' ∧ isDigit d then some (d :: rest.takeWhile isDigit, rest.dropWhile isDigit)
      else none
  | _ => none

/-- Takes an exponent; without a digit in it, it stays. -/
def readExponent? : Text → Option (Int × Text)
  | [] => none
  | c :: rest =>
      if c = 'e' ∨ c = 'E' then
        let (below, body) := Number.takeSign rest
        let digits := body.takeWhile isDigit
        if digits.isEmpty then none
        else
          let n : Int := Number.ofDigits digits
          some (if below then -n else n, body.dropWhile isDigit)
      else none

/-- Reads a number. Without an exponent and decimal places it is an integer, whose digits are
limited in every dialect. -/
def readNumber (dialect : Dialect) (t : Text) : Except Stop (Json × Text) :=
  let (negative, body) :=
    match t with
    | c :: rest => if c = '-' then (true, rest) else (false, t)
    | [] => (false, t)
  match readWhole? body with
  | none => stopAt .value t
  | some (whole, rest) =>
      let places := readPlaces? rest
      let rest := (places.map Prod.snd).getD rest
      let power := readExponent? rest
      let rest := (power.map Prod.snd).getD rest
      if dialect.wholeLength?.any (· < whole.length) then .error (.intTooLong whole.length)
      else if places.isNone && power.isNone then
        if digitLimit < whole.length then .error (.intTooLong whole.length)
        else
          let n : Int := Number.ofDigits whole
          .ok (.int (if negative then -n else n), rest)
      else
        let fraction := (places.map Prod.fst).getD []
        let digits := Number.ofDigits (whole ++ fraction)
        .ok (.float (.ofDecimal negative digits ((power.map Prod.fst).getD 0 - fraction.length)),
          rest)

/-- The names that stand for values. -/
def names : List (Text × Json) :=
  [("null", .null), ("true", .bool true), ("false", .bool false), ("NaN", .float .nan),
    ("Infinity", .float (.infinite false)), ("-Infinity", .float (.infinite true))]

/-- Reads a name or a number. -/
def readAtom (dialect : Dialect) (t : Text) : Except Stop (Json × Text) :=
  match names.findSome? fun n => (Text.after? n.1 t).map fun rest => (n.2, rest) with
  | some found => .ok found
  | none => readNumber dialect t

/-- What is left after a container that is closed at once, which may stand at the limit of
nesting if the dialect lets it. -/
def emptyAtLimit? (dialect : Dialect) (closing : CodePoint) (t : Text) : Option Text :=
  match skipSpace t with
  | c :: after => if !dialect.emptyNests && c = closing then some after else none
  | [] => none

/-! ### Values -/

mutual

/-- Reads one value, with no white space before it. -/
def readValue (dialect : Dialect) : Nat → Nat → Text → Except Stop (Json × Text)
  | 0, _, t => stopAt .value t
  | steps + 1, depth, t =>
      match t with
      | [] => stopAt .value t
      | c :: rest =>
          if c = '"' then
            (readText dialect t.length rest).map fun r => (.text r.1, r.2)
          else if c = '[' then
            match depth with
            | 0 =>
                match emptyAtLimit? dialect ']' rest with
                | some after => .ok (.array [], after)
                | none => .error .tooDeep
            | depth + 1 =>
                match skipSpace rest with
                | d :: after =>
                    if d = ']' then .ok (.array [], after)
                    else (readItems dialect steps depth (d :: after)).map fun r => (.array r.1, r.2)
                | [] => stopAt .value []
          else if c = '{' then
            match depth with
            | 0 =>
                match emptyAtLimit? dialect '}' rest with
                | some after => .ok (.object [], after)
                | none => .error .tooDeep
            | depth + 1 =>
                match skipSpace rest with
                | d :: after =>
                    if d = '}' then .ok (.object [], after)
                    else
                      (readFields dialect steps depth (d :: after)).map fun r => (ofFields r.1, r.2)
                | [] => stopAt .propertyName []
          else readAtom dialect t

/-- Reads the items of an array up to its closing bracket. -/
def readItems (dialect : Dialect) : Nat → Nat → Text → Except Stop (List Json × Text)
  | 0, _, t => stopAt .value t
  | steps + 1, depth, t => do
      let (item, rest) ← readValue dialect steps depth t
      let rest := skipSpace rest
      match rest with
      | [] => stopAt .comma rest
      | c :: after =>
          if c = ']' then return ([item], after)
          else if c = ',' then
            let (items, rest) ← readItems dialect steps depth (skipSpace after)
            return (item :: items, rest)
          else stopAt .comma rest

/-- Reads the fields of an object up to its closing brace. -/
def readFields (dialect : Dialect) : Nat → Nat → Text → Except Stop (List (Text × Json) × Text)
  | 0, _, t => stopAt .value t
  | steps + 1, depth, t => do
      let (name, rest) ←
        match t with
        | c :: rest =>
            if c = '"' then readText dialect t.length rest else stopAt .propertyName t
        | [] => stopAt .propertyName t
      let rest := skipSpace rest
      let rest ←
        match rest with
        | c :: after => if c = ':' then pure (skipSpace after) else stopAt .colon rest
        | [] => stopAt .colon rest
      let (value, rest) ← readValue dialect steps depth rest
      let rest := skipSpace rest
      match rest with
      | [] => stopAt .comma rest
      | c :: after =>
          if c = '}' then return ([(name, value)], after)
          else if c = ',' then
            let (fields, rest) ← readFields dialect steps depth (skipSpace after)
            return ((name, value) :: fields, rest)
          else stopAt .comma rest

end

/-! ### Whole texts -/

/-- Why a text is no JSON text. -/
inductive Fault where
  | malformed (issue : Issue) (line column offset : Nat)
  | intTooLong (digits : Nat)
  | tooDeep
  deriving DecidableEq, Repr

/-- The words for a fault. -/
def Fault.message : Fault → Text
  | .malformed issue line column offset =>
      issue.message ++ ": line " ++ Text.ofNat line ++ " column " ++ Text.ofNat column ++
        " (char " ++ Text.ofNat offset ++ ")"
  | .intTooLong digits => Number.tooLongMessage digits
  | .tooDeep => "maximum recursion depth exceeded"

/-- An issue at an offset into a text, with its line and its column. -/
def Fault.at (issue : Issue) (t : Text) (offset : Nat) : Fault :=
  let before := t.take offset
  let line := before.count ('\n' : CodePoint) + 1
  let column := (before.reverse.takeWhile (· ≠ ('\n' : CodePoint))).length + 1
  .malformed issue line column offset

/-- Relates a stop to the whole text. -/
def Stop.toFault (t : Text) : Stop → Fault
  | .issue cause remaining => Fault.at cause t (t.length - remaining)
  | .intTooLong digits => .intTooLong digits
  | .tooDeep => .tooDeep

/-- Reads a value with white space around it and nothing else. -/
def readWholeText (dialect : Dialect) (t : Text) : Except Stop Json := do
  let (value, rest) ← readValue dialect (2 * t.length + 2) dialect.nesting (skipSpace t)
  let rest := skipSpace rest
  if rest.isEmpty then return value else stopAt .extraData rest

/-- The mark that a text must not begin with. -/
def byteOrderMark : CodePoint := 0xFEFF

/-- Reads a JSON text in a dialect. -/
def parseIn (dialect : Dialect) (t : Text) : Except Fault Json :=
  if t.head? = some byteOrderMark then .error (Fault.at .byteOrderMark t 0)
  else (readWholeText dialect t).mapError (Stop.toFault t)

/-- Reads a JSON text. -/
def parse [NestingLimit] (t : Text) : Except Fault Json :=
  parseIn .lenient t

end SealedRpc.Json
