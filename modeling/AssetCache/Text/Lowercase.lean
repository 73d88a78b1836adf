import AssetCache.Text.CaseTable

/-!
# Lowercase text

The full lowercase mapping of Unicode, which depends on the surroundings for one letter: a capital
sigma that ends a word becomes the final form.
-/

namespace AssetCache.Text

/-- Whether a character lies in one of some ranges. -/
def inRanges (ranges : List (Nat × Nat)) (c : Char) : Bool :=
  ranges.any fun (low, high) => low ≤ c.toNat && c.toNat ≤ high

/-- Whether a character has case. -/
def isCased (c : Char) : Bool :=
  inRanges casedRanges c

/-- Whether a character is passed over when its surroundings are asked for their case. -/
def isCaseIgnorable (c : Char) : Bool :=
  inRanges caseIgnorableRanges c

/-- The lowercase form of a character in a run. -/
def CaseRun.lower? (run : CaseRun) (c : Char) : Option Char :=
  if run.first ≤ c.toNat ∧ c.toNat ≤ run.last ∧ (c.toNat - run.first) % run.step = 0 then
    some (Char.ofNat (run.lower + (c.toNat - run.first)))
  else none

/-- The lowercase form of a character by itself. -/
def lowerChar (c : Char) : List Char :=
  if c.toNat < 0x80 then [c.toLower]
  else if c = 'İ' then ['i', '\u0307']
  else [(caseRuns.findSome? (·.lower? c)).getD c]

/-- Whether the first character that is not passed over has case. -/
def startsCased (text : List Char) : Bool :=
  ((text.dropWhile isCaseIgnorable).head?.map isCased).getD false

/-- The lowercase form of a character between what stands before it, last character first, and
what follows. -/
def lowerWithin (before : List Char) (c : Char) (after : List Char) : List Char :=
  if c = 'Σ' then if startsCased before && !startsCased after then ['ς'] else ['σ']
  else lowerChar c

/-- The lowercase form of a text that follows some characters, given last first. -/
def lowerAfter (before : List Char) : List Char → List Char
  | [] => []
  | c :: after => lowerWithin before c after ++ lowerAfter (c :: before) after

/-- The lowercase form of a text. -/
def lowercase (text : List Char) : List Char :=
  lowerAfter [] text

end AssetCache.Text
