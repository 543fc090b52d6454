import SealedRpc.Text.CaseTable

/-!
# Upper and lower case

Full case mapping of texts: a code point may become several, and a capital sigma at the
end of a word becomes the final small sigma.
-/

namespace SealedRpc

namespace CodePoint

/-- Maps one code point by a table of runs and a table of expansions. -/
def mapCase (shifts : List CaseTable.Shift) (expansions : List (Nat × Text))
    (c : CodePoint) : Text :=
  match expansions.find? fun e => e.1 == c.val with
  | some e => e.2
  | none =>
      match shifts.find? fun s => s.covers c with
      | some s => [s.apply c]
      | none => [c]

/-- The capital sigma, whose lower case depends on its place in the word. -/
def capitalSigma : CodePoint := 0x3A3

/-- The small sigma inside a word. -/
def smallSigma : CodePoint := 0x3C3

/-- The small sigma at the end of a word. -/
def finalSigma : CodePoint := 0x3C2

/-- Whether the nearest code point that counts for case has case. -/
def nextIsCased : Text → Bool
  | [] => false
  | c :: rest =>
      if inRanges CaseTable.ignorableRanges c then nextIsCased rest
      else inRanges CaseTable.casedRanges c

end CodePoint

namespace Text

/-- The lower case of a text whose earlier code points, nearest first, are `before`. -/
def toLowerAfter (before : Text) : Text → Text
  | [] => []
  | c :: rest =>
      let lowered : Text :=
        if c = CodePoint.capitalSigma then
          if CodePoint.nextIsCased before && !CodePoint.nextIsCased rest then
            [CodePoint.finalSigma]
          else [CodePoint.smallSigma]
        else c.mapCase CaseTable.lowerShifts CaseTable.lowerExpansions
      lowered ++ toLowerAfter (c :: before) rest

/-- The lower case of a text. -/
def toLower (t : Text) : Text :=
  toLowerAfter [] t

/-- The upper case of a text. -/
def toUpper (t : Text) : Text :=
  t.flatMap fun c => c.mapCase CaseTable.upperShifts CaseTable.upperExpansions

end Text

end SealedRpc
