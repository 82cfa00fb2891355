import Mathlib

/-!
# Notifications

A notification cell that one task waits on, in the manner of an asynchronous runtime: a future must exist before a
broadcast for the broadcast to reach it, whereas a single notification that finds no future is kept as a permit.
-/

/-- The future of the waiting task, and by what it has been notified. -/
inductive Waiter
  | absent | waiting | notifiedOne | notifiedAll
  deriving DecidableEq

structure Notify where
  permit : Bool
  waiter : Waiter

namespace Notify

def new : Notify := ⟨false, .absent⟩

/-- `notified()`: a future, which nothing has reached yet. -/
def notified (cell : Notify) : Notify := { cell with waiter := .waiting }

/-- `notify_waiters()`: no permit is kept for a future that does not exist yet. -/
def notifyWaiters (cell : Notify) : Notify :=
  match cell.waiter with
  | .waiting => { cell with waiter := .notifiedAll }
  | _ => cell

/-- `notify_one()`. -/
def notifyOne (cell : Notify) : Notify :=
  match cell.waiter with
  | .waiting => { cell with waiter := .notifiedOne }
  | _ => { cell with permit := true }

/-- The wait ends at the next poll. -/
def pending (cell : Notify) : Bool := cell.permit || cell.waiter = .notifiedOne || cell.waiter = .notifiedAll

/-- The wait ends: what notified the future, or else the permit, is used up. -/
def consume (cell : Notify) : Notify :=
  match cell.waiter with
  | .waiting => ⟨false, .absent⟩
  | _ => { cell with waiter := .absent }

/-- The future is dropped; a single notification that it has not used is passed on. -/
def cancel (cell : Notify) : Notify :=
  match cell.waiter with
  | .notifiedOne => ⟨true, .absent⟩
  | _ => { cell with waiter := .absent }

@[simp] theorem pending_notifyOne (cell : Notify) : cell.notifyOne.pending = true := by
  unfold notifyOne pending
  split <;> simp

theorem pending_notifyWaiters {cell : Notify} (h : cell.waiter ≠ .absent) : cell.notifyWaiters.pending = true := by
  unfold notifyWaiters pending
  cases hw : cell.waiter <;> simp_all

@[simp] theorem waiter_notifyWaiters {cell : Notify} : cell.notifyWaiters.waiter = .absent ↔ cell.waiter = .absent := by
  unfold notifyWaiters
  cases hw : cell.waiter <;> simp_all

@[simp] theorem waiter_notifyOne {cell : Notify} : cell.notifyOne.waiter = .absent ↔ cell.waiter = .absent := by
  unfold notifyOne
  cases hw : cell.waiter <;> simp_all

end Notify
