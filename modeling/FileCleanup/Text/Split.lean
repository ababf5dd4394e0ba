namespace FileCleanup.Text

/-! Cutting a text at every occurrence of one character. -/

/-- The pieces between the separators; there is always one more piece than separators. -/
def splitAt (separator : Char) : List Char → List (List Char)
  | [] => [[]]
  | c :: rest =>
    if c = separator then [] :: splitAt separator rest
    else
      match splitAt separator rest with
      | [] => [[c]]
      | piece :: pieces => (c :: piece) :: pieces

def split (separator : Char) (text : String) : List String :=
  (splitAt separator text.toList).map String.ofList

theorem splitAt_ne_nil (separator : Char) (text : List Char) : splitAt separator text ≠ [] := by
  cases text with
  | nil => simp [splitAt]
  | cons c rest =>
    unfold splitAt
    split
    · simp
    · split <;> simp

theorem splitAt_of_not_mem {separator : Char} {text : List Char} (absent : separator ∉ text) :
    splitAt separator text = [text] := by
  induction text with
  | nil => rfl
  | cons c rest induction =>
    simp only [List.mem_cons, not_or] at absent
    simp [splitAt, Ne.symm absent.1, induction absent.2]

theorem splitAt_append (separator : Char) (left right : List Char) :
    splitAt separator (left ++ separator :: right) =
      splitAt separator left ++ splitAt separator right := by
  induction left with
  | nil => simp [splitAt]
  | cons c rest induction =>
    by_cases same : c = separator
    · simp [splitAt, same, induction]
    · cases pieces : splitAt separator rest with
      | nil => exact absurd pieces (splitAt_ne_nil separator rest)
      | cons piece more => simp [splitAt, same, induction, pieces]

/-- Joining the pieces again restores the text. -/
theorem intercalate_splitAt (separator : Char) (text : List Char) :
    [separator].intercalate (splitAt separator text) = text := by
  induction text with
  | nil => rfl
  | cons c rest induction =>
    by_cases same : c = separator
    · rw [splitAt, if_pos same]
      cases pieces : splitAt separator rest with
      | nil => exact absurd pieces (splitAt_ne_nil separator rest)
      | cons piece more =>
        rw [pieces] at induction
        simpa [List.intercalate, same] using induction
    · rw [splitAt, if_neg same]
      cases pieces : splitAt separator rest with
      | nil => exact absurd pieces (splitAt_ne_nil separator rest)
      | cons piece more =>
        rw [pieces] at induction
        cases more <;> simpa [List.intercalate] using induction

/-- The pieces of a text do not have the character it is cut at. -/
theorem not_mem_of_mem_splitAt {separator : Char} {text piece : List Char}
    (member : piece ∈ splitAt separator text) : separator ∉ piece := by
  induction text generalizing piece with
  | nil =>
    rw [splitAt, List.mem_singleton] at member
    simp [member]
  | cons c rest induction =>
    rw [splitAt] at member
    split at member
    · rcases List.mem_cons.mp member with rfl | later
      · exact List.not_mem_nil
      · exact induction later
    · rename_i different
      split at member
      · rw [List.mem_singleton] at member
        simpa [member] using Ne.symm different
      · rename_i first more pieces
        rcases List.mem_cons.mp member with rfl | later
        · have none := induction (pieces ▸ List.mem_cons_self)
          simp [Ne.symm different, none]
        · exact induction (pieces ▸ List.mem_cons_of_mem _ later)

/-- Pieces without the separator are found again in the text they are joined to. -/
theorem splitAt_intercalate {separator : Char} {pieces : List (List Char)}
    (single : ∀ piece ∈ pieces, separator ∉ piece) (some : pieces ≠ []) :
    splitAt separator ([separator].intercalate pieces) = pieces := by
  induction pieces with
  | nil => exact absurd rfl some
  | cons piece rest induction =>
    have first := single piece List.mem_cons_self
    cases rest with
    | nil => simpa using splitAt_of_not_mem first
    | cons next more =>
      have onward := induction
        (fun other member => single other (List.mem_cons_of_mem _ member))
        (List.cons_ne_nil next more)
      rw [List.intercalate_cons_cons, List.append_assoc, List.singleton_append, splitAt_append,
        splitAt_of_not_mem first, onward]
      rfl

end FileCleanup.Text
