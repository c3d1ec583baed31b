/-!
# Likeness of words

How alike two words are, for suggesting the option that was meant. Characters match if they are
equal and not too far apart; the likeness is the mean of the share of either word that matches and
the share of the matches that are in the same order.
-/

namespace Jury.Command

/-- Marks the first of the positions from `low` to `high` where `word` has `c` and which is not
marked yet. -/
def markMatch (c : Char) (low high : Nat) (word : List (Char × Bool)) :
    Option (List (Char × Bool)) :=
  let hits := word.mapIdx fun j (d, marked) => low ≤ j && j ≤ high && c == d && !marked
  match hits.findIdx? id with
  | none => none
  | some j => some (word.modify j fun (d, _) => (d, true))

/-- The characters of a word from position `i` on that match some of another word, which is marked
where it was matched; a match is at most `reach` positions off. -/
def matchWord (reach i : Nat) : List Char → List (Char × Bool) → List Char × List (Char × Bool)
  | [], other => ([], other)
  | c :: word, other =>
    match markMatch c (i - reach) (i + reach) other with
    | none => matchWord reach (i + 1) word other
    | some other =>
      let (matched, other) := matchWord reach (i + 1) word other
      (c :: matched, other)

/-- How alike two words are, from 0 to 1, as a numerator and a denominator. -/
def likeness (a b : List Char) : Nat × Nat :=
  let (inA, marked) := matchWord (max a.length b.length / 2 - 1) 0 a (b.map (·, false))
  let inB := (marked.filter (·.2)).map (·.1)
  let hits := inA.length
  let swaps := (inA.zip inB).countP (fun (c, d) => c != d) / 2
  if hits = 0 then (0, 1)
  else
    (hits * hits * b.length + hits * hits * a.length + (hits - swaps) * a.length * b.length,
      3 * a.length * b.length * hits)

/-- The candidate most like `word`, of several the last one, if any is alike by at least seven
tenths. -/
def mostSimilar? (word : String) (candidates : List String) : Option String :=
  let rated := candidates.map fun candidate => (candidate, likeness word.toList candidate.toList)
  let alike := rated.filter fun (_, num, den) => 7 * den ≤ 10 * num
  let best := alike.foldl (fun best rated => match best with
    | none => some rated
    | some leader =>
      if leader.2.1 * rated.2.2 ≤ rated.2.1 * leader.2.2 then some rated else some leader)
    none
  best.map (·.1)

end Jury.Command
