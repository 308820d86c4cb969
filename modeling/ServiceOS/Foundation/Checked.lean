import ServiceOS.Foundation.Word

/-! # Checked access

Reading a range or an element of a buffer faults when it is not there, as does
writing more to a fixed buffer than it holds and arithmetic whose result is no
machine word. -/

namespace ServiceOS

/-- Why checked code did not answer: it reported an error, or it panicked because an
access was out of range or an operation overflowed. -/
inductive Fault (Error : Type)
  | error (error : Error)
  | panicked
deriving DecidableEq

namespace Checked

variable {Element Error : Type}

def range (elements : List Element) (start stop : Nat) : Except (Fault Error) (List Element) :=
  if start ≤ stop ∧ stop ≤ elements.length then
    .ok ((elements.take stop).drop start)
  else
    .error .panicked

def index (elements : List Element) (place : Nat) : Except (Fault Error) Element :=
  match elements[place]? with
  | none => .error .panicked
  | some element => .ok element

/-- The contents of a buffer once these elements were written to its front. -/
def copyInto (capacity : Nat) (elements : List Element) : Except (Fault Error) (List Element) :=
  if elements.length ≤ capacity then .ok elements else .error .panicked

def add (left right : Nat) : Except (Fault Error) Nat :=
  if left + right < Word.limit then .ok (left + right) else .error .panicked

def mul (left right : Nat) : Except (Fault Error) Nat :=
  if left * right < Word.limit then .ok (left * right) else .error .panicked

theorem range_ok (ordered : start ≤ stop) (inside : stop ≤ elements.length) :
    (range elements start stop : Except (Fault Error) _) = .ok ((elements.take stop).drop start) :=
  if_pos ⟨ordered, inside⟩

theorem copyInto_ok (fits : elements.length ≤ capacity) :
    (copyInto capacity elements : Except (Fault Error) _) = .ok elements := if_pos fits

/-! ## What code can answer -/

variable {Answer Result : Type} {answered : Answer → Prop} {refused : Error → Prop}

/-- Code that panics, or answers or refuses like this. -/
def Settles (code : Except (Fault Error) Answer) (answered : Answer → Prop)
    (refused : Error → Prop) : Prop :=
  match code with
  | .ok answer => answered answer
  | .error (.error error) => refused error
  | .error .panicked => True

theorem settles_bind (first : Settles code answered refused)
    (rest : ∀ answer, answered answer → Settles (next answer) finished refused) :
    Settles (code >>= next) finished refused := by
  match code with
  | .ok answer => exact rest answer first
  | .error (.error _) => exact first
  | .error .panicked => trivial

theorem settles_ite [Decidable condition] (holds : answered answer) :
    Settles (if condition then .ok answer else .error .panicked) answered refused := by
  split
  · exact holds
  · trivial

end Checked
end ServiceOS
