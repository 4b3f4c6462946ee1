import FunctionScript.Binary64.Arithmetic
import FunctionScript.Binary64.Order

namespace FunctionScript.Text

/-!
# Similar words

Two words share a letter if it stands in both at places that are not further apart
than about half the longer word. Their similarity is the mean of three shares: of
the first word that is shared, of the second, and of the shared letters that
stand in the same order in both.

The mean is computed in binary64, and every step of it rounds. So of two pairs
that are exactly equally similar one may count as the more similar.
-/

/-- Whether a place of the second word is near enough to one of the first. -/
def isNear
    (range first second : Nat) :
    Bool :=
  first ≤ second + range && second ≤ first + range

/-- Find a letter near a place among numbered letters, and take it out. -/
def takeNear?
    (range place : Nat)
    (letter : Char) :
    List (Nat × Char) →
    Option ((Nat × Char) × List (Nat × Char))
  | [] => none
  | candidate :: rest =>
      if isNear range place candidate.1 && candidate.2 == letter then
        some (candidate, rest)
      else
        (takeNear? range place letter rest).map fun (found, left) =>
          (found, candidate :: left)

/-- The shared letters: as they stand in the first word, and with their places in the second. -/
def sharedLetters
    (range : Nat) :
    List (Nat × Char) →
    List (Nat × Char) →
    List Char × List (Nat × Char)
  | [], _ => ([], [])
  | (place, letter) :: rest, candidates =>
      match takeNear? range place letter candidates with
      | none => sharedLetters range rest candidates
      | some (found, left) =>
          let (letters, places) := sharedLetters range rest left
          (letter :: letters, found :: places)

def numbered
    (word : List Char) :
    List (Nat × Char) :=
  (List.range word.length).zip word

/-- A share of a whole, as a binary64 number. -/
def share
    (part whole : Nat) :
    Binary64 :=
  (Binary64.ofInt part).div (Binary64.ofInt whole)

/-- How similar two words are: zero if they share no letter, and one if they are equal. -/
def similarity
    (first second : List Char) :
    Binary64 :=
  let range := max first.length second.length / 2 - 1
  let (letters, found) := sharedLetters range (numbered first) (numbered second)
  let inSecond := (found.mergeSort fun left right => left.1 ≤ right.1).map (·.2)
  let misplaced := ((letters.zip inSecond).filter fun (left, right) => left != right).length
  let shared := letters.length
  if shared = 0 then
    Binary64.zero false
  else
    let shares :=
      ((share shared first.length).add (share shared second.length)).add
        (share (shared - misplaced / 2) shared)
    shares.div (Binary64.ofInt 3)

/-- The similarity above which words are similar: seven tenths. -/
def similarityThreshold : Binary64 :=
  Binary64.ofMagnitude? false (Magnitude.ofDecimal? 7 (-1))

def isSimilar
    (first second : List Char) :
    Bool :=
  similarityThreshold.isLess (similarity first second)

end FunctionScript.Text
