import HostScript.Text.CaseTables

/-!
# Upper and lower case

Case is mapped character by character, one character possibly giving several, with one exception: a
capital sigma becomes a final sigma at the end of a word.
-/

namespace HostScript.Text

/-- The image of a character under a full case mapping. -/
def mapCase (expansions : List (Nat × List Nat)) (runs : List CaseRun) (char : Char) :
    List Char :=
  match expansions.lookup char.toNat with
  | some codes => codes.map Char.ofNat
  | none => [((CaseRun.image? char.toNat runs).map Char.ofNat).getD char]

/-- The upper case of a text. -/
def upper (text : List Char) : List Char :=
  text.flatMap (mapCase upperExpansions upperRuns)

/-- Whether the first character that is not passed over has a case. -/
def nextIsCased (text : List Char) : Bool :=
  match text.dropWhile fun char => isInside char.toNat caseIgnorableEdges with
  | [] => false
  | char :: _ => isInside char.toNat casedEdges

/-- The lower case of a text whose preceding characters, nearest first, are `before`. A capital
sigma with a cased character before it and none after it is final. -/
def lowerAfter (before : List Char) : List Char → List Char
  | [] => []
  | char :: rest =>
    let image :=
      if char = 'Σ' then [if nextIsCased before && !nextIsCased rest then 'ς' else 'σ']
      else mapCase lowerExpansions lowerRuns char
    image ++ lowerAfter (char :: before) rest

/-- The lower case of a text. -/
def lower (text : List Char) : List Char :=
  lowerAfter [] text

end HostScript.Text
