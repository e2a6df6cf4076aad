/-!
# Similarity of words

The Jaro similarity of two words. Characters match if they are equal and not too far apart; the
similarity is the mean of the shares of matched characters in both words and of the share of matches
that stand in the same order.
-/

namespace Overlay.Text.Similarity

/-- A character of the second word and whether it is matched. -/
abbrev Slot := Char × Bool

/-- Matches a character with the first free one between two places; `j` is the place of the head. -/
def claim (c : Char) (low high : Nat) : (j : Nat) → List Slot → Option (List Slot)
  | _, [] => none
  | j, (d, taken) :: rest =>
    if low ≤ j && j < high && c == d && !taken then some ((d, true) :: rest)
    else (claim c low high (j + 1) rest).map ((d, taken) :: ·)

/-- The matched characters of the first word, and the second word with its matches. `i` is the place
of the head. -/
def pairUp (range : Nat) : (i : Nat) → List Char → List Slot → List Char × List Slot
  | _, [], slots => ([], slots)
  | i, c :: rest, slots =>
    match claim c (i - range) (i + range + 1) 0 slots with
    | some slots =>
      let (matched, slots) := pairUp range (i + 1) rest slots
      (c :: matched, slots)
    | none => pairUp range (i + 1) rest slots

/-- The number of places at which two words differ. -/
def differences (a b : List Char) : Nat := ((a.zip b).filter fun p => p.1 != p.2).length

/-- The Jaro similarity, between zero and one. -/
def jaro (a b : List Char) : Float :=
  if a.isEmpty && b.isEmpty then 1.0
  else
    let range := max a.length b.length / 2 - 1
    let (matched, slots) := pairUp range 0 a (b.map fun c => (c, false))
    let m := matched.length
    let ordered := (slots.filter Prod.snd).map Prod.fst
    let crossings := differences matched ordered / 2
    if m == 0 then 0.0
    else (m.toFloat / a.length.toFloat + m.toFloat / b.length.toFloat
      + (m - crossings).toFloat / m.toFloat) / 3.0

/-- The most similar one of some words, if it is similar enough; of equally similar ones the
last. -/
def closest? (word : String) (candidates : List String) : Option String :=
  let close := (candidates.map fun c => (jaro word.toList c.toList, c)).filter fun s => s.1 > 0.7
  (close.foldl (fun best s =>
    match best with
    | some b => if s.1 < b.1 then some b else some s
    | none => some s) none).map Prod.snd

end Overlay.Text.Similarity
