import Nodewright.Text.Printable
import Nodewright.Url.FoldingTable

/-! # Folded characters

`fold?` says as what a character of a domain name is read. A character that is read as itself is
folded already; `isFolded` is the test. -/

namespace Nodewright.Url

/-- As what a letter of a run is read. -/
def foldedRun? (n : Nat) : Option Nat :=
  (foldRuns.find? fun (first, last, step, _) =>
    first ≤ n && n ≤ last && (n - first) % step = 0).map fun (first, _, _, target) =>
      target + (n - first)

/-- As what an ideograph is read. -/
def foldedIdeograph? (n : Nat) : Option Char :=
  foldIdeographs.findSome? fun (first, targets) =>
    if first ≤ n then targets.toList[n - first]? else none

/-- As what characters another character is read. -/
def foldedText? (n : Nat) : Option (List Nat) :=
  foldTexts.findSome? fun (first, targets) => if first ≤ n then targets[n - first]? else none

/-- The joiners, which have no shape but may stand in a name. -/
def namedJoiners : List Nat := [0x200c, 0x200d]

/-- Whether no name can hold a character beyond ASCII. -/
def isUnnamed (n : Nat) : Bool :=
  0x80 ≤ n && ((Text.unprintable.contains n && !namedJoiners.contains n) ||
    Text.CodeRanges.contains unnamed n)

/-- The characters that a character of a name is read as, if a name can hold it. -/
def fold? (c : Char) : Option (List Char) :=
  if Text.CodeRanges.contains passedOver c.toNat then some []
  else
    match foldedRun? c.toNat, foldedIdeograph? c.toNat, foldedText? c.toNat with
    | some n, _, _ => some [Char.ofNat n]
    | none, some ideograph, _ => some [ideograph]
    | none, none, some ns => some (ns.map Char.ofNat)
    | none, none, none => if isUnnamed c.toNat then none else some [c]

/-- Whether a character is read as itself. -/
def isFolded (c : Char) : Bool := fold? c = some [c]

/-- The characters that the characters of a name are read as, if a name can hold them. -/
def foldAll? (cs : List Char) : Option (List Char) := (cs.mapM fold?).map List.flatten

end Nodewright.Url
