import NodeInventory.Calendar.DateTime
import NodeInventory.Calendar.Span
import NodeInventory.Query.Condition

/-!
# Time windows

A window is relative, some hours or else some days back from now, or absolute, between two
date-times either of which may be missing.  A relative window wins and has no end.
-/

namespace NodeInventory

/-- The window that a query is limited to. -/
structure Window where
  hours : Value := .null
  days : Value := .null
  start : Option DateTime := none
  stop : Option DateTime := none

namespace Window

/-- Whether the window counts back from now. -/
def isRelative (w : Window) : Bool := w.hours.truthy || w.days.truthy

/-- How far a relative window reaches back. -/
def span (w : Window) : Outcome Int :=
  if w.hours.truthy then Span.ofAmount .hour w.hours else Span.ofAmount .day w.days

/-- The start and the end of a window. -/
def resolve (w : Window) (now : DateTime) : Outcome (Option DateTime × Option DateTime) :=
  if w.isRelative then do
    let span ← w.span
    match now.back? span with
    | some start => pure (some start, none)
    | none => .error .outOfRange
  else .ok (w.start, w.stop)

end Window

/-- The bindings of a time column to a start and an end, both included. -/
def windowBindings (field : String) (start stop : Option DateTime) : List Binding :=
  (start.toList.map fun t => ⟨field, .ge, [t.stamp]⟩) ++
    (stop.toList.map fun t => ⟨field, .le, [t.stamp]⟩)

end NodeInventory
