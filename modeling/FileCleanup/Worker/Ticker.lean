namespace FileCleanup

/-!
When the batches of a worker are due, in milliseconds.  A tick that is taken late moves all later
ones, so that missed ticks are not made up for.
-/

structure Ticker where
  period : Nat
  due : Nat
  deriving DecidableEq, Repr

namespace Ticker

/-- A tick taken at most this late keeps the schedule. -/
def slack : Nat := 5

/-- Thirty years. -/
def farFuture : Nat := 86400 * 365 * 30 * 1000

/-- The last instant that a clock of 64-bit seconds shows. -/
def latest : Nat := 9223372036854775807 * 1000 + 999

/-- The first tick is one period away, unless no clock would ever show it. -/
def firstDue (now period : Nat) : Nat :=
  if now + period ≤ latest then now + period else now + farFuture

theorem le_firstDue (now period : Nat) : now ≤ firstDue now period := by
  unfold firstDue
  split <;> exact Nat.le_add_right _ _

theorem lt_firstDue (now : Nat) {period : Nat} (positive : 0 < period) :
    now < firstDue now period := by
  unfold firstDue
  split
  · omega
  · exact Nat.lt_add_of_pos_right (by decide)

theorem firstDue_eq {now period : Nat} (room : now + farFuture ≤ latest)
    (near : period ≤ farFuture) : firstDue now period = now + period := by
  rw [firstDue, if_pos (by omega)]

def start (now period : Nat) : Ticker :=
  ⟨period, firstDue now period⟩

/-- The schedule after the tick that is due has been taken at `now`. -/
def taken (ticker : Ticker) (now : Nat) : Ticker :=
  { ticker with
    due := if now ≤ ticker.due + slack then ticker.due + ticker.period else now + ticker.period }

theorem lt_due_taken {ticker : Ticker} {now : Nat} (positive : slack < ticker.period) :
    now < (ticker.taken now).due := by
  unfold taken
  split <;> simp only <;> omega

end Ticker

end FileCleanup
