import BulkDelivery.Buffer

/-!
# An agenda on a virtual clock

An agenda holds tasks that are ready and tasks that become ready at a set time.  Ready tasks
are taken in the order in which they became ready.  The clock does not move by itself: it is
moved to a time, and then the tasks that were set for that time or an earlier one become
ready, in the order in which they were set.

A task is ready at most once, and it is set for at most one time.

## Main definitions

* `Agenda` — the clock, the ready tasks and the others.
* `Agenda.call` — make a task ready.
* `Agenda.setAt`, `Agenda.cancel` — set a task for a time, or for no time.
* `Agenda.take?` — the next ready task.
* `Agenda.nextTime?`, `Agenda.moveTo` — the next time at which a task becomes ready, and
  moving the clock.
-/

namespace BulkDelivery

/-- Tasks that are ready, and tasks that become ready at a time. -/
structure Agenda (α : Type) where
  /-- The clock. -/
  now : Time := 0
  /-- The ready tasks, first to be taken first. -/
  ready : List α := []
  /-- The other tasks with their times, in the order in which they were set. -/
  alarms : List (Time × α) := []

namespace Agenda

variable {α : Type} [DecidableEq α]

/-- Make a task ready. -/
def call (a : Agenda α) (task : α) : Agenda α :=
  if a.ready.contains task then a else { a with ready := a.ready ++ [task] }

/-- Set a task for no time. -/
def cancel (a : Agenda α) (task : α) : Agenda α :=
  { a with alarms := a.alarms.filter fun alarm => alarm.2 ≠ task }

/-- Set a task for a time, and for no other. -/
def setAt (a : Agenda α) (t : Time) (task : α) : Agenda α :=
  { a with alarms := (a.cancel task).alarms ++ [(t, task)] }

omit [DecidableEq α] in
/-- The next ready task, and the agenda without it. -/
def take? (a : Agenda α) : Option (α × Agenda α) :=
  match a.ready with
  | [] => none
  | task :: ready => some (task, { a with ready })

omit [DecidableEq α] in
/-- The next time at which a task becomes ready. -/
def nextTime? (a : Agenda α) : Option Time :=
  (a.alarms.map Prod.fst).min?

/-- Move the clock to a time. -/
def moveTo (a : Agenda α) (t : Time) : Agenda α :=
  let due := a.alarms.filter fun alarm => alarm.1 ≤ t
  let later := a.alarms.filter fun alarm => t < alarm.1
  due.foldl (fun a alarm => a.call alarm.2) { a with now := t, alarms := later }

end Agenda

end BulkDelivery
