import FileCleanup.Proofs.Interleaving.Exchanges

namespace FileCleanup.Simulation

open Time

/-! Runs in which records are also added from outside, followed for one file
that is not among them. -/

inductive Turn
  | move (move : Move)
  /-- Somebody adds a record, in place of one with its identifier. -/
  | insert (record : FileRecord)

/-- No record with this identifier is added. -/
def Turn.Apart (turns : List Turn) (id : Uuid) : Prop :=
  ∀ record, insert record ∈ turns → record.id ≠ id

namespace Turn.Apart

variable {turn : Turn} {earlier later turns : List Turn} {id : Uuid}

theorem tail (apart : Apart (turn :: turns) id) : Apart turns id :=
  fun record member => apart record (List.mem_cons_of_mem _ member)

theorem of_append (apart : Apart (earlier ++ later) id) :
    Apart earlier id ∧ Apart later id :=
  ⟨fun record member => apart record (List.mem_append_left _ member),
    fun record member => apart record (List.mem_append_right _ member)⟩

end Turn.Apart

namespace Interleaving

def take (state : Interleaving) : Turn → Interleaving
  | .move move => state.step move
  | .insert record =>
    { state with world.store := state.world.store.insert record }

def play (state : Interleaving) (turns : List Turn) : Interleaving :=
  turns.foldl take state

/-- The call that is made in a turn, with the answer that the caller gets. -/
def spoken? (state : Interleaving) : Turn → Option Exchange
  | .move move => state.exchange? move
  | .insert _ => none

/-- The wall clock never goes back while turns are played. -/
def Advances (state : Interleaving) : List Turn → Prop
  | [] => True
  | turn :: turns =>
    state.world.now ≤ (state.take turn).world.now ∧
      (state.take turn).Advances turns

instance decidableAdvances : (state : Interleaving) → (turns : List Turn) →
    Decidable (state.Advances turns)
  | _, [] => .isTrue trivial
  | state, turn :: turns =>
    have := decidableAdvances (state.take turn) turns
    inferInstanceAs (Decidable (_ ∧ _))

/-- The record with an identifier is there and has a property. -/
def Stores (state : Interleaving) (id : Uuid) (property : FileRecord → Prop) :
    Prop :=
  ∃ record ∈ state.world.store.records, record.id = id ∧ property record

variable {state : Interleaving} {turn : Turn} {turns : List Turn} {id : Uuid}

theorem play_append (state : Interleaving) (earlier later : List Turn) :
    state.play (earlier ++ later) = (state.play earlier).play later :=
  List.foldl_append

theorem advances_append {earlier later : List Turn} :
    state.Advances (earlier ++ later) ↔
      state.Advances earlier ∧ (state.play earlier).Advances later := by
  induction earlier generalizing state with
  | nil => exact ⟨fun holds => ⟨trivial, holds⟩, And.right⟩
  | cons turn turns induction =>
      change _ ∧ (state.take turn).Advances (turns ++ later) ↔ _
      rw [induction, ← and_assoc]
      rfl

theorem Advances.now_le (advances : state.Advances turns) :
    state.world.now ≤ (state.play turns).world.now := by
  induction turns generalizing state with
  | nil => exact Int.le_refl _
  | cons turn turns induction =>
      exact Int.le_trans advances.1 (induction advances.2)

namespace Stores

variable {first second : FileRecord → Prop}

/-- There is only one record with an identifier. -/
theorem both (left : state.Stores id first) (right : state.Stores id second) :
    ∃ record, first record ∧ second record := by
  obtain ⟨record, member, same, holds⟩ := left
  obtain ⟨other, otherMember, otherSame, otherHolds⟩ := right
  have self : other = record :=
    RecordStore.eq_of_mem_of_id_eq otherMember member
      (otherSame.trans same.symm)
  exact ⟨record, holds, self ▸ otherHolds⟩

theorem take (stores : state.Stores id first)
    (apart : Turn.Apart (turn :: turns) id) :
    ∃ before, before.id = id ∧ first before ∧
      (state.take turn).Stores id
        (before.Fate state.world.now (state.spoken? turn)) := by
  obtain ⟨record, member, same, holds⟩ := stores
  refine ⟨record, same, holds, ?_⟩
  cases turn with
  | move move =>
      obtain ⟨later, laterMember, changed⟩ := exists_after move member
      exact ⟨later, laterMember, changed.sameFile.id.trans same,
        changed.fate member laterMember⟩
  | insert other =>
      have different : record.id ≠ other.id :=
        fun equal =>
          apart other List.mem_cons_self (equal.symm.trans same)
      refine ⟨record, ?_, same, .kept _ _⟩
      exact List.mem_cons_of_mem _
        (List.mem_filter.mpr ⟨member, decide_eq_true different⟩)

end Stores

end Interleaving

end FileCleanup.Simulation
