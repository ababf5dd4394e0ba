import FileCleanup.Proofs.Crew.Standing
import Mathlib.Tactic.Ring

namespace FileCleanup

/-! When the batches of a worker begin, given when they end. -/

/-- Batches one after the other, by when they began and when they ended: each
begins as soon as its tick is due and the one before has ended. -/
inductive Timetable (first : Ticker) : List Nat → List Nat → Ticker → Prop
  | opens : Timetable first [] [] first
  | begins {begins ends : List Nat} {ticker : Ticker} {now : Nat}
      (table : Timetable first begins ends ticker)
      (idle : begins.length = ends.length) (past : ∀ time ∈ ends, time ≤ now)
      (due : ticker.due ≤ now)
      (prompt : now = ticker.due ∨ ends.getLast? = some now) :
      Timetable first (begins ++ [now]) ends (ticker.taken now)
  | ends {begins ends : List Nat} {ticker : Ticker} {now : Nat}
      (table : Timetable first begins ends ticker)
      (busy : begins.length = ends.length + 1)
      (past : ∀ time ∈ begins, time ≤ now) :
      Timetable first begins (ends ++ [now]) ticker

namespace Timetable

variable {first ticker : Ticker} {begins ends : List Nat} {time next ended : Nat}

open Simulation

/-- A tick taken late moves the next one, but not by the whole delay. -/
theorem due_taken (ticker : Ticker) {now : Nat} (due : ticker.due ≤ now) :
    (ticker.taken now).due ≤ now + ticker.period ∧
      now + ticker.period ≤ (ticker.taken now).due + Ticker.slack ∧
      ticker.due + ticker.period ≤ (ticker.taken now).due := by
  unfold Ticker.taken
  split <;> simp only <;> omega

theorem lengths (table : Timetable first begins ends ticker) :
    ends.length ≤ begins.length ∧ begins.length ≤ ends.length + 1 := by
  induction table with
  | opens => simp
  | begins _ idle =>
      rw [List.length_append, List.length_singleton]
      omega
  | ends _ busy =>
      rw [List.length_append, List.length_singleton]
      omega

theorem period (table : Timetable first begins ends ticker) :
    ticker.period = first.period := by
  induction table with
  | opens => rfl
  | begins _ _ _ _ _ same => exact same
  | ends _ _ _ same => exact same

/-- The ticker never falls behind one period for each batch. -/
theorem due_ge (table : Timetable first begins ends ticker) :
    first.due + begins.length * first.period ≤ ticker.due := by
  induction table with
  | opens => simp
  | @begins begins ends ticker now table idle past due prompt induction =>
      have taken := due_taken ticker due
      rw [table.period] at taken
      rw [List.length_append, List.length_singleton, Nat.add_mul]
      omega
  | ends _ _ _ induction => exact induction

theorem begin_ge (table : Timetable first begins ends ticker) {batch : Nat}
    (found : begins[batch]? = some time) :
    first.due + batch * first.period ≤ time := by
  induction table with
  | opens => cases found
  | begins table idle past due prompt induction =>
      rcases getElem?_concat_eq_some_iff.mp found with old | ⟨rfl, rfl⟩
      · exact induction old
      · exact Nat.le_trans table.due_ge due
  | ends _ _ _ induction => exact induction found

theorem eq_first (table : Timetable first begins ends ticker)
    (none : begins.length = 0) : ticker = first := by
  cases table with
  | opens => rfl
  | begins => simp at none
  | ends _ busy => omega

theorem begin_zero (table : Timetable first begins ends ticker)
    (found : begins[0]? = some time) : time = first.due := by
  induction table with
  | opens => cases found
  | @begins begins ends ticker now table idle past due prompt induction =>
      rcases getElem?_concat_eq_some_iff.mp found with old | ⟨here, rfl⟩
      · exact induction old
      · rw [← table.eq_first here.symm]
        have none : ends = [] := List.eq_nil_of_length_eq_zero (by omega)
        rcases prompt with prompt | last
        · exact prompt
        · rw [none] at last
          cases last
  | ends _ _ _ induction => exact induction found

theorem end_ge (table : Timetable first begins ends ticker) {batch : Nat}
    (found : ends[batch]? = some ended) :
    ∃ time, begins[batch]? = some time ∧ time ≤ ended := by
  induction table with
  | opens => cases found
  | begins _ _ _ _ _ induction =>
      obtain ⟨time, begun, before⟩ := induction found
      exact ⟨time, getElem?_concat_eq_some_iff.mpr (.inl begun), before⟩
  | @ends begins ends ticker now table busy past induction =>
      rcases getElem?_concat_eq_some_iff.mp found with old | ⟨rfl, rfl⟩
      · exact induction old
      · have begun := List.getElem?_eq_getElem (l := begins) (i := ends.length)
          (by omega)
        exact ⟨_, begun, past _ (List.mem_of_getElem? begun)⟩

theorem end_before (table : Timetable first begins ends ticker) {batch : Nat}
    (found : begins[batch + 1]? = some time) :
    ∃ ended, ends[batch]? = some ended ∧ ended ≤ time := by
  induction table with
  | opens => cases found
  | @begins begins ends ticker now table idle past due prompt induction =>
      rcases getElem?_concat_eq_some_iff.mp found with old | ⟨here, rfl⟩
      · exact induction old
      · have ended := List.getElem?_eq_getElem (l := ends) (i := batch)
          (by omega)
        exact ⟨_, ended, past _ (List.mem_of_getElem? ended)⟩
  | ends _ _ _ induction =>
      obtain ⟨ended, before, earlier⟩ := induction found
      exact ⟨ended, getElem?_concat_eq_some_iff.mpr (.inl before), earlier⟩

/-- The next tick is due one period after the last beginning, or a little
earlier. -/
theorem due_after (table : Timetable first begins ends ticker) {batch : Nat}
    (found : begins[batch]? = some time) (last : batch + 1 = begins.length) :
    ticker.due ≤ time + first.period ∧
      time + first.period ≤ ticker.due + Ticker.slack := by
  induction table with
  | opens => cases found
  | @begins begins ends ticker now table idle past due prompt induction =>
      rcases getElem?_concat_eq_some_iff.mp found with old | ⟨_, rfl⟩
      · obtain ⟨bound, _⟩ := List.getElem?_eq_some_iff.mp old
        simp only [List.length_append, List.length_singleton] at last
        omega
      · have taken := due_taken ticker due
        rw [table.period] at taken
        exact ⟨taken.1, taken.2.1⟩
  | ends _ _ _ induction => exact induction found last

theorem begin_spacing (table : Timetable first begins ends ticker) {batch : Nat}
    (found : begins[batch]? = some time)
    (foundNext : begins[batch + 1]? = some next) :
    time + first.period ≤ next + Ticker.slack := by
  induction table with
  | opens => cases found
  | @begins begins ends ticker now table idle past due prompt induction =>
      rcases getElem?_concat_eq_some_iff.mp foundNext with old | ⟨here, rfl⟩
      · obtain ⟨bound, _⟩ := List.getElem?_eq_some_iff.mp old
        refine induction ?_ old
        rwa [List.getElem?_append_left (by omega)] at found
      · rw [List.getElem?_append_left (by omega)] at found
        have after := table.due_after found here
        omega
  | ends _ _ _ induction => exact induction found foundNext

/-- No batch ends so late that it delays the tick after the next one. -/
def Punctual (first : Ticker) (ends : List Nat) : Prop :=
  ∀ batch ended, ends[batch]? = some ended →
    ended ≤ first.due + (batch + 1) * first.period + Ticker.slack

theorem Punctual.of_append {later : List Nat}
    (punctual : Punctual first (ends ++ later)) : Punctual first ends := by
  intro batch ended found
  obtain ⟨bound, _⟩ := List.getElem?_eq_some_iff.mp found
  exact punctual batch ended (by rwa [List.getElem?_append_left bound])

/-- A punctual ticker keeps its schedule. -/
theorem due_eq (table : Timetable first begins ends ticker)
    (punctual : Punctual first ends) :
    ticker.due = first.due + begins.length * first.period := by
  induction table with
  | opens => simp
  | @begins begins ends ticker now table idle past due prompt induction =>
      have same := induction punctual
      have onTime : now ≤ ticker.due + Ticker.slack := by
        rcases prompt with rfl | last
        · exact Nat.le_add_right _ _
        · rw [List.getLast?_eq_getElem?] at last
          obtain ⟨bound, _⟩ := List.getElem?_eq_some_iff.mp last
          have early := punctual _ now last
          rw [same, idle]
          rwa [Nat.sub_add_cancel (by omega)] at early
      have taken : (ticker.taken now).due = ticker.due + ticker.period :=
        if_pos onTime
      rw [taken, same, table.period, List.length_append, List.length_singleton]
      ring
  | ends _ _ _ induction => exact induction punctual.of_append

theorem begin_eq (table : Timetable first begins ends ticker)
    (punctual : Punctual first ends) {batch : Nat}
    (found : begins[batch + 1]? = some time)
    (before : ends[batch]? = some ended) :
    time = max (first.due + (batch + 1) * first.period) ended := by
  induction table with
  | opens => cases found
  | @begins begins ends ticker now table idle past due prompt induction =>
      rcases getElem?_concat_eq_some_iff.mp found with old | ⟨here, rfl⟩
      · exact induction punctual old before
      · rw [here, ← table.due_eq punctual]
        have earlier := past ended (List.mem_of_getElem? before)
        rcases prompt with rfl | last
        · exact (Nat.max_eq_left earlier).symm
        · have index : ends.length - 1 = batch := by omega
          rw [List.getLast?_eq_getElem?, index, before] at last
          cases last
          exact (Nat.max_eq_right due).symm
  | @ends begins ends ticker now table busy past induction =>
      rcases getElem?_concat_eq_some_iff.mp before with old | ⟨here, _⟩
      · exact induction punctual.of_append found old
      · obtain ⟨bound, _⟩ := List.getElem?_eq_some_iff.mp found
        omega

end Timetable

/-- Batches of a worker that is started at `start`: the instants at which they
have begun and ended so far. -/
structure Scheduled (start period : Nat) (begins ends : List Nat) : Prop where
  lengths : ends.length ≤ begins.length ∧ begins.length ≤ ends.length + 1
  first : ∀ time : Nat, begins[0]? = some time → time = start + period
  earliest : ∀ batch time : Nat, begins[batch]? = some time →
    start + (batch + 1) * period ≤ time
  ordered : ∀ batch ended : Nat, ends[batch]? = some ended →
    ∃ time : Nat, begins[batch]? = some time ∧ time ≤ ended
  apart : ∀ batch time : Nat, begins[batch + 1]? = some time →
    ∃ ended : Nat, ends[batch]? = some ended ∧ ended ≤ time
  spaced : ∀ batch time next : Nat, begins[batch]? = some time →
    begins[batch + 1]? = some next → time + period ≤ next + Ticker.slack
  punctual : (∀ batch ended : Nat, ends[batch]? = some ended →
      ended ≤ start + (batch + 2) * period + Ticker.slack) →
    ∀ batch time ended : Nat, begins[batch + 1]? = some time →
      ends[batch]? = some ended → time = max (start + (batch + 2) * period) ended

theorem Timetable.scheduled {start period : Nat} {begins ends : List Nat}
    {ticker : Ticker}
    (table : Timetable (.start start period) begins ends ticker)
    (inRange : start + period ≤ Ticker.latest) :
    Scheduled start period begins ends := by
  have first : (Ticker.start start period).due = start + period :=
    if_pos inRange
  have tick (batch : Nat) : start + period + batch * period =
      start + (batch + 1) * period := by ring
  refine ⟨table.lengths, ?_, ?_, fun _ _ => table.end_ge,
    fun _ _ => table.end_before, fun _ _ _ => table.begin_spacing, ?_⟩
  · intro time found
    rw [table.begin_zero found, first]
  · intro batch time found
    rw [← tick, ← first]
    exact table.begin_ge found
  · intro early batch time ended found before
    rw [← tick, ← first]
    refine table.begin_eq ?_ found before
    intro batch ended found
    have bound := early batch ended found
    rwa [← tick, ← first] at bound

end FileCleanup
