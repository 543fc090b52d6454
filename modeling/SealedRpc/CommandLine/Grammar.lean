import SealedRpc.Number.Reading

/-!
# Command line grammars

A grammar names the flags and the parameters of a program and says what each of their words
does to a draft of the result. Flags may stand anywhere among the parameters. They may be
shortened as long as the rest tells them apart, and their word may follow after an equals
sign. A word of two dashes makes everything after it a parameter, and a word that looks like
a negative number is none of the flags.

Each argument drops one mark of two dashes from its words. Where that mark was its only word,
the argument is empty.

A grammar may end in a command: a word that takes everything after it.
-/

namespace SealedRpc.CommandLine

/-- What is wrong with a command line. -/
inductive UsageFault where
  | ambiguous (word : Text) (candidates : List String)
  | missing (names : List String)
  | unrecognised (words : List Text)
  | expectedOne (argument : String)
  | ignoredValue (argument : String) (value : Text)
  | invalidInt (argument : String) (word : Text)
  | invalidFloat (argument : String) (word : Text)
  | invalidChoice (argument : String) (word : Text) (choices : List String)
  deriving DecidableEq, Repr

/-- Names with commas between them. -/
def listed (names : List String) : Text :=
  Text.join ", " (names.map Text.ofString)

/-- A message about one argument. -/
def aboutArgument (argument : String) (message : Text) : Text :=
  "argument " ++ Text.ofString argument ++ ": " ++ message

/-- The words for a fault. -/
def UsageFault.message : UsageFault → Text
  | .ambiguous word candidates =>
      "ambiguous option: " ++ word ++ " could match " ++ listed candidates
  | .missing names => "the following arguments are required: " ++ listed names
  | .unrecognised words => "unrecognized arguments: " ++ Text.join " " words
  | .expectedOne argument => aboutArgument argument "expected one argument"
  | .ignoredValue argument value =>
      aboutArgument argument ("ignored explicit argument " ++ value.quoted)
  | .invalidInt argument word => aboutArgument argument ("invalid int value: " ++ word.quoted)
  | .invalidFloat argument word =>
      aboutArgument argument ("invalid float value: " ++ word.quoted)
  | .invalidChoice argument word choices =>
      aboutArgument argument ("invalid choice: " ++ word.quoted ++ " (choose from " ++
        Text.join ", " (choices.map fun c => (Text.ofString c).quoted) ++ ")")

/-- Why a command line is not carried out. -/
inductive Exit where
  | help
  | usage (program : String) (fault : UsageFault)
  deriving DecidableEq, Repr

/-- The status that a program ends with. -/
def Exit.status : Exit → Nat
  | .help => 0
  | .usage .. => 2

/-- What a program says when it ends early. -/
def Exit.message? : Exit → Option Text
  | .help => none
  | .usage program fault => some (program ++ Text.ofString ": error: " ++ fault.message)

/-- What an argument comes to: a value, or nothing at all if the mark of two dashes was its
only word. -/
inductive Argument (α : Type) where
  | value (a : α)
  | empty
  deriving DecidableEq, Repr

/-- The word that ends the flags. -/
def separator : Text := "--"

/-- The argument of a word that comes without another mark of two dashes. -/
def Argument.ofWord (word : Text) : Argument Text :=
  if word = separator then .empty else .value word

/-- How an argument shows where a text is expected. -/
def Argument.shown : Argument Text → Text
  | .value word => word
  | .empty => "[]"

/-- Reads the value of an argument that is not empty. -/
def Argument.read {α β ε : Type} (read : α → Except ε β) : Argument α → Except ε (Argument β)
  | .value a => (read a).map .value
  | .empty => .ok .empty

/-- A flag that takes one word. -/
structure Flag (σ : Type) where
  name : String
  set : Argument Text → σ → Except UsageFault σ

/-- A parameter, which is known by its position. -/
structure Parameter (σ : Type) where
  name : String
  set : Argument Text → σ → Except UsageFault σ

/-- A last parameter that takes a word and everything after it. -/
structure Remainder (σ : Type) where
  name : String
  set : List Text → σ → Except Exit σ

/-- A grammar for a program. Every grammar has the two flags that ask for help. -/
structure Grammar (σ : Type) where
  program : String
  flags : List (Flag σ)
  parameters : List (Parameter σ)
  remainder? : Option (Remainder σ)

variable {σ : Type}

/-! ### Reading words -/

/-- What a flag means. The flag for help may be of one letter. -/
inductive Meaning (σ : Type) where
  | help (short : Bool)
  | takesWord (flag : Flag σ)

/-- What a word is. A flag may have a text given with it: after an equals sign, or attached
to a flag of one letter. -/
inductive Reading (σ : Type) where
  | separator
  | value
  | flag (meaning : Meaning σ) (given : Option Text)
  | unknownFlag

/-- A word with its reading. -/
structure Word (σ : Type) where
  text : Text
  reading : Reading σ

namespace Word

/-- Whether a word can be the word of a parameter or a flag. -/
def isValue (w : Word σ) : Bool :=
  match w.reading with
  | .value => true
  | _ => false

/-- Whether a word is the one of two dashes. -/
def isSeparator (w : Word σ) : Bool :=
  match w.reading with
  | .separator => true
  | _ => false

/-- Whether a word is a flag, known or not. -/
def isFlag (w : Word σ) : Bool :=
  match w.reading with
  | .flag .. | .unknownFlag => true
  | _ => false

end Word

/-- What a flag begins with. -/
def dash : CodePoint := '-'

/-- The name of the short flag for help. -/
def shortHelp : String := "-h"

/-- The name of both flags for help in messages. -/
def helpName : String := "-h/--help"

/-- The flags of a grammar by name. -/
def Grammar.meanings (g : Grammar σ) : List (String × Meaning σ) :=
  (shortHelp, .help true) :: ("--help", .help false) :: g.flags.map fun f => (f.name, .takesWord f)

/-- The meaning of a flag that is written out. -/
def Grammar.meaning? (g : Grammar σ) (name : Text) : Option (Meaning σ) :=
  (g.meanings.find? fun m => Text.ofString m.1 = name).map Prod.snd

/-- The readings of a shortened long flag, or of a short flag with its word attached. -/
def Grammar.candidates (g : Grammar σ) (word : Text) : List (String × Reading σ) :=
  if (word.drop 1).head? = some dash then
    let cut := Text.cut? '=' word
    let start := (cut.map Prod.fst).getD word
    g.meanings.filterMap fun m =>
      if start.isPrefixOf (Text.ofString m.1) then some (m.1, .flag m.2 (cut.map Prod.snd))
      else none
  else
    g.meanings.filterMap fun m =>
      if Text.ofString m.1 = word.take 2 then some (m.1, .flag m.2 (some (word.drop 2)))
      else none

/-- Whether a word looks like a negative number. One line break may follow it. -/
def looksNegative (word : Text) : Bool :=
  let word := if word.getLast? = some '\n' then word.dropLast else word
  let isDigit := fun c : CodePoint => c.digit?.isSome
  match word with
  | [] => false
  | c :: body =>
      c = dash && match Text.cut? '.' body with
        | none => !body.isEmpty && body.all isDigit
        | some (whole, places) => whole.all isDigit && !places.isEmpty && places.all isDigit

/-- Reads a word that is not known to be a parameter. -/
def Grammar.readWord (g : Grammar σ) (word : Text) : Except Exit (Reading σ) :=
  if word.head? ≠ some dash then .ok .value
  else match g.meaning? word with
    | some meaning => .ok (.flag meaning none)
    | none =>
        let byEquals := (Text.cut? '=' word).bind fun p =>
          (g.meaning? p.1).map fun meaning => Reading.flag meaning (some p.2)
        if word.length = 1 then .ok .value
        else match byEquals, g.candidates word with
          | some reading, _ => .ok reading
          | none, [(_, reading)] => .ok reading
          | none, [] =>
              .ok (if looksNegative word || word.contains ' ' then .value else .unknownFlag)
          | none, several => .error (.usage g.program (.ambiguous word (several.map Prod.fst)))

/-- Reads all words. -/
def Grammar.readWords (g : Grammar σ) : List Text → Except Exit (List (Word σ))
  | [] => .ok []
  | word :: rest =>
      if word = separator then .ok (⟨word, .separator⟩ :: rest.map fun w => ⟨w, .value⟩)
      else do
        let reading ← g.readWord word
        let others ← g.readWords rest
        return ⟨word, reading⟩ :: others

/-! ### Filling a draft -/

/-- How far a command line has been read: the draft, the parameters yet to come, and the
words that found no place. -/
structure Progress (σ : Type) where
  draft : σ
  parameters : List (Parameter σ)
  remainder? : Option (Remainder σ)
  extras : List Text

/-- Takes the word of one parameter, and separators around it. -/
def takeWord (words : List (Word σ)) : Option (Argument Text × List (Word σ)) :=
  match words.dropWhile Word.isSeparator with
  | w :: rest =>
      let argument := if words.head?.any Word.isSeparator then .value w.text else .ofWord w.text
      if w.isValue then some (argument, rest.dropWhile Word.isSeparator) else none
  | [] => none

/-- Gives words to parameters as long as there are both. -/
def takeParameters : List (Parameter σ) → List (Word σ) → σ →
    Except UsageFault (List (Parameter σ) × List (Word σ) × σ)
  | [], words, draft => .ok ([], words, draft)
  | p :: rest, words, draft =>
      match takeWord words with
      | none => .ok (p :: rest, words, draft)
      | some (argument, words) => do
          let draft ← p.set argument draft
          takeParameters rest words draft

/-- Gives words to parameters, and what is left to the remainder if nothing stands before
it. -/
def Grammar.takeValues (g : Grammar σ) (p : Progress σ) (words : List (Word σ)) :
    Except Exit (Progress σ × List (Word σ)) := do
  let (parameters, rest, draft) ←
    (takeParameters p.parameters words p.draft).mapError (.usage g.program)
  match parameters, p.remainder?, takeWord rest with
  | [], some remainder, some _ =>
      let draft ← remainder.set (rest.map Word.text) draft
      return ({ p with draft, parameters := [], remainder? := none }, [])
  | _, _, _ => return ({ p with draft, parameters }, rest)

/-- Carries out a flag for help. A text attached to the short one is read as more flags of
one letter, of which there is no other. -/
def Grammar.help {α : Type} (g : Grammar σ) (short : Bool) (given : Option Text) :
    Except Exit α :=
  let fault := fun value => Exit.usage g.program (.ignoredValue helpName value)
  match given with
  | none => .error .help
  | some value =>
      let unread := value.dropWhile (· = ('h' : CodePoint))
      if !short || value.isEmpty then .error (fault value)
      else if unread.isEmpty then .error .help
      else .error (fault unread)

/-- Carries out a flag that stands before some words. -/
def Grammar.takeFlag (g : Grammar σ) (p : Progress σ) (meaning : Meaning σ)
    (given : Option Text) (words : List (Word σ)) : Except Exit (Progress σ × List (Word σ)) :=
  match meaning with
  | .help short => g.help short given
  | .takesWord flag =>
      let set := fun text words => do
        let draft ← (flag.set (.ofWord text) p.draft).mapError (.usage g.program)
        return ({ p with draft }, words)
      match given, words with
      | some given, words => set given words
      | none, w :: rest =>
          if w.isValue then set w.text rest
          else .error (.usage g.program (.expectedOne flag.name))
      | none, [] => .error (.usage g.program (.expectedOne flag.name))

/-- Reads words up to their end; each step takes at least one of them. -/
def Grammar.takeWords (g : Grammar σ) : Nat → Progress σ → List (Word σ) →
    Except Exit (Progress σ)
  | 0, p, _ => .ok p
  | steps + 1, p, words =>
      match words with
      | [] => .ok p
      | w :: rest =>
          match w.reading with
          | .unknownFlag => g.takeWords steps { p with extras := p.extras ++ [w.text] } rest
          | .flag meaning given => do
              let (p, words) ← g.takeFlag p meaning given rest
              g.takeWords steps p words
          | _ => do
              let (p, left) ← g.takeValues p words
              if left.length < words.length then g.takeWords steps p left
              else
                let noFlag := fun w : Word σ => !w.isFlag
                let extras := p.extras ++ (left.takeWhile noFlag).map Word.text
                g.takeWords steps { p with extras } (left.dropWhile noFlag)

/-- Reads a command line into a draft. Gives back the draft and the words that found no
place. -/
def Grammar.read (g : Grammar σ) (initial : σ) (words : List Text) :
    Except Exit (σ × List Text) := do
  let words ← g.readWords words
  let p ← g.takeWords (words.length + 1) ⟨initial, g.parameters, g.remainder?, []⟩ words
  let missing := p.parameters.map (·.name) ++ p.remainder?.toList.map (·.name)
  if missing.isEmpty then return (p.draft, p.extras)
  else .error (.usage g.program (.missing missing))

end SealedRpc.CommandLine
