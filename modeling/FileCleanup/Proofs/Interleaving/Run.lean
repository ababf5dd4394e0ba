import FileCleanup.Proofs.Interleaving.Step
import Mathlib.Data.List.Induction

namespace FileCleanup.Simulation.Interleaving

open Time

/-! Whole runs, and what was claimed in them. -/

variable {state : Interleaving} {moves : List Move} {move : Move}
  {instant : Instant} {record : FileRecord}

theorem run_append (state : Interleaving) (earlier later : List Move) :
    state.run (earlier ++ later) = (state.run earlier).run later :=
  List.foldl_append

theorem run_concat (state : Interleaving) (moves : List Move) (move : Move) :
    state.run (moves ++ [move]) = (state.run moves).step move :=
  run_append state moves [move]

theorem inMemory_run (memory : state.world.InMemory) (moves : List Move) :
    (state.run moves).world.InMemory := by
  induction moves generalizing state with
  | nil => exact memory
  | cons move moves induction => exact induction (inMemory_step memory move)

namespace Unaided

theorem append {left right : List Move} (leftUnaided : Unaided left)
    (rightUnaided : Unaided right) : Unaided (left ++ right) where
  launches settings member := by
    rcases List.mem_append.mp member with inLeft | inRight
    · exact leftUnaided.launches settings inLeft
    · exact rightUnaided.launches settings inRight
  calls call member := by
    rcases List.mem_append.mp member with inLeft | inRight
    · exact leftUnaided.calls call inLeft
    · exact rightUnaided.calls call inRight

theorem of_append {left right : List Move} (unaided : Unaided (left ++ right)) :
    Unaided left where
  launches settings member :=
    unaided.launches settings (List.mem_append_left _ member)
  calls call member := unaided.calls call (List.mem_append_left _ member)

end Unaided

theorem ne_call_of_mem (own : ∀ call, .call call ∉ moves)
    (member : move ∈ moves) (call : Call) : move ≠ .call call := by
  rintro rfl
  exact own call member

theorem holds_of_holds_run (memory : state.world.InMemory) (moves : List Move)
    {bucket key : String}
    (held : (state.run moves).world.objects.holds bucket key) :
    state.world.objects.holds bucket key := by
  induction moves generalizing state with
  | nil => exact held
  | cons move moves induction =>
      exact holds_of_holds_step memory
        (induction (inMemory_step memory move) held)

theorem Forward.now_le (forward : state.Forward moves) :
    state.world.now ≤ (state.run moves).world.now := by
  induction moves generalizing state with
  | nil => exact Int.le_refl _
  | cons move moves induction =>
      exact Int.le_trans forward.1 (induction forward.2)

theorem forward_append {earlier later : List Move} :
    state.Forward (earlier ++ later) ↔
      state.Forward earlier ∧ (state.run earlier).Forward later := by
  induction earlier generalizing state with
  | nil => exact ⟨fun holds => ⟨trivial, holds⟩, And.right⟩
  | cons move moves induction =>
      change _ ∧ (state.step move).Forward (moves ++ later) ↔ _
      rw [induction, ← and_assoc]
      rfl

theorem not_claimedDuring_nil : ¬state.ClaimedDuring [] instant record := by
  rintro ⟨earlier, move, later, split, _⟩
  simp at split

theorem claimedDuring_concat :
    state.ClaimedDuring (moves ++ [move]) instant record ↔
      state.ClaimedDuring moves instant record ∨
        instant = (state.run moves).world.now ∧
          (state.run moves).Claims move record := by
  constructor
  · rintro ⟨earlier, chosen, later, split, shown, claims⟩
    rcases List.eq_nil_or_concat later with rfl | ⟨between, last, rfl⟩
    · obtain ⟨rfl, same⟩ := List.append_inj' split rfl
      cases same
      exact .inr ⟨shown, claims⟩
    · rw [List.concat_eq_append, ← List.cons_append, ← List.append_assoc]
        at split
      obtain ⟨same, _⟩ := List.append_inj' split rfl
      exact .inl ⟨earlier, chosen, between, same, shown, claims⟩
  · rintro (⟨earlier, chosen, later, split, shown, claims⟩ | ⟨shown, claims⟩)
    · refine ⟨earlier, chosen, later ++ [move], ?_, shown, claims⟩
      rw [split, List.append_assoc, List.cons_append]
    · exact ⟨moves, move, [], rfl, shown, claims⟩

theorem ClaimedDuring.claimable
    (claimed : state.ClaimedDuring moves instant record) :
    record.Claimable instant := by
  obtain ⟨earlier, move, later, _, rfl, claims⟩ := claimed
  exact claims.claimed.1

/-- Whatever a batch has in hand was claimed in the run. -/
theorem mem_files_run (memory : state.world.InMemory)
    (idle : state.flights = []) (moves : List Move) {flight : Flight}
    (member : flight ∈ (state.run moves).flights) {file : FileRecord}
    (inHand : file ∈ flight.stage.files) :
    ∃ instant record, state.ClaimedDuring moves instant record ∧
      file = record.claimed instant := by
  induction moves using List.reverseRecOn generalizing flight with
  | nil =>
      change flight ∈ state.flights at member
      rw [idle] at member
      cases member
  | append_singleton moves move induction =>
      rw [run_concat] at member
      rcases mem_files_step (inMemory_run memory moves) member inHand with
        ⟨before, beforeMember, old⟩ | ⟨_, record, _, claims, rfl⟩
      · obtain ⟨instant, record, claimed, same⟩ := induction beforeMember old
        exact ⟨instant, record, claimedDuring_concat.mpr (.inl claimed), same⟩
      · exact ⟨_, record, claimedDuring_concat.mpr (.inr ⟨rfl, claims⟩), rfl⟩

end FileCleanup.Simulation.Interleaving
