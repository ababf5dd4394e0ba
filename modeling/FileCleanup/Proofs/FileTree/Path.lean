import FileCleanup.Proofs.FileTree.Walk

namespace FileCleanup

open Text

/-! Paths that are put together, and what can be removed at them. -/

namespace FilePath

@[simp] theorem names_empty : names "" = [] := by
  decide

theorem names_slash (left right : String) :
    names (left ++ "/" ++ right) = names left ++ names right := by
  have chars : (left ++ "/" ++ right).toList =
      left.toList ++ '/' :: right.toList := by
    simp
  rw [names, split, chars, splitAt_append, List.map_append, List.filter_append]
  rfl

theorem exists_of_endsInSlash {path : String} (ends : endsInSlash path) :
    ∃ front : String, path = front ++ "/" := by
  obtain ⟨chars, same⟩ :=
    List.getLast?_eq_some_iff.mp (of_decide_eq_true ends)
  refine ⟨String.ofList chars, String.toList_injective ?_⟩
  simp [same]

@[simp] theorem names_join (path name : String) :
    names (join path name) = names path ++ names name := by
  unfold join
  split
  · rename_i joins
    rcases joins with rfl | ends
    · simp
    · obtain ⟨front, rfl⟩ := exists_of_endsInSlash ends
      have closed := names_slash front ""
      rw [names_empty, List.append_nil, String.append_empty] at closed
      rw [names_slash, closed]
  · exact names_slash path name

theorem names_of_not_mem {name : String} (single : '/' ∉ name.toList)
    (nonempty : name ≠ "") : names name = [name] := by
  simp [names, split, splitAt_of_not_mem single, nonempty]

theorem names_ne_nil {path : String} (nonempty : path ≠ "")
    (relative : path.toList.head? ≠ some '/') : names path ≠ [] := by
  cases chars : path.toList with
  | nil => exact absurd (String.toList_eq_nil_iff.mp chars) nonempty
  | cons c rest =>
      have notSlash : c ≠ '/' := by
        rintro rfl
        exact relative (by rw [chars]; rfl)
      cases pieces : splitAt '/' rest with
      | nil => exact absurd pieces (splitAt_ne_nil '/' rest)
      | cons piece more =>
          have first : String.ofList (c :: piece) ≠ "" := by
            intro empty
            cases String.ofList_eq_empty_iff.mp empty
          simp [names, split, chars, splitAt, notSlash, pieces]

theorem toList_join (path name : String) :
    (join path name).toList = path.toList ++ name.toList ∨
      (join path name).toList = path.toList ++ '/' :: name.toList := by
  unfold join
  split <;> simp

theorem mem_join {path name : String} {c : Char}
    (member : c ∈ (join path name).toList) :
    c ∈ path.toList ∨ c = '/' ∨ c ∈ name.toList := by
  rcases toList_join path name with same | same <;> rw [same] at member
  · exact (List.mem_append.mp member).imp_right .inr
  · exact (List.mem_append.mp member).imp_right List.mem_cons.mp

theorem join_ne_empty {path : String} (nonempty : path ≠ "") (name : String) :
    join path name ≠ "" := by
  intro empty
  have chars : path.toList ≠ [] := mt String.toList_eq_nil_iff.mp nonempty
  rcases toList_join path name with same | same <;>
    simp [empty, chars] at same

theorem isAbsolute_join {path : String} (nonempty : path ≠ "")
    (name : String) : isAbsolute (join path name) = isAbsolute path := by
  obtain ⟨first, rest, chars⟩ := List.exists_cons_of_ne_nil
    (mt String.toList_eq_nil_iff.mp nonempty)
  unfold isAbsolute
  rcases toList_join path name with same | same <;> simp [same, chars]

end FilePath

end FileCleanup
