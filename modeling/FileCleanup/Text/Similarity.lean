namespace FileCleanup.Text

/-!
How alike two words are (Jaro): characters match that are equal and not too far apart, and
matches count less when their orders differ.
-/

/-- Marks the first character equal to `c` that is not taken yet and not before `start`, among the
next `count` ones. -/
def takeMatch (c : Char) (start count : Nat) : List (Char × Bool) → Option (List (Char × Bool))
  | [] => none
  | (other, taken) :: rest =>
    match start, count with
    | 0, 0 => none
    | 0, count + 1 =>
      if other = c ∧ !taken then some ((other, true) :: rest)
      else (takeMatch c 0 count rest).map ((other, taken) :: ·)
    | start + 1, count => (takeMatch c start count rest).map ((other, taken) :: ·)

/-- The characters of the first word that match, and the second word with its matches marked. -/
def matchesFrom (range index : Nat) (marked : List (Char × Bool)) :
    List Char → List Char × List (Char × Bool)
  | [] => ([], marked)
  | c :: rest =>
    let start := index - range
    match takeMatch c start (index + range + 1 - start) marked with
    | some marked =>
      let (found, marked) := matchesFrom range (index + 1) marked rest
      (c :: found, marked)
    | none => matchesFrom range (index + 1) marked rest

/-- The similarity of two words as a fraction, three times a number between 0 and 1. -/
def similarity (left right : List Char) : Nat × Nat :=
  let range := max left.length right.length / 2 - 1
  let (found, marked) := matchesFrom range 0 (right.map (·, false)) left
  let others := (marked.filter (·.2)).map (·.1)
  let count := found.length
  let moved := ((found.zip others).filter fun (a, b) => a ≠ b).length / 2
  if count = 0 then (0, 1)
  else
    (count * count * right.length + count * count * left.length +
        (count - moved) * left.length * right.length,
      left.length * right.length * count)

/-- Whether the similarity is above seven tenths. -/
def areSimilar (left right : List Char) : Bool :=
  let (numerator, denominator) := similarity left right
  21 * denominator < 10 * numerator

def moreSimilar (first second : Nat × Nat) : Bool :=
  second.1 * first.2 < first.1 * second.2

end FileCleanup.Text
