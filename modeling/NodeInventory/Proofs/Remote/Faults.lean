import NodeInventory.Proofs.Remote.Sending

/-!
# What can go wrong with a request

A request fails when it is lost, when the server rejects it, or when its answer does not have the
form that is expected (`Fault.OfRequest`).  The last kind of cause is told apart from the others
(`Fault.OfValue`): it comes of looking into a value, and says nothing about the status of the
response.
-/

namespace NodeInventory

/-! ### Outcomes that fail for causes of one sort -/

namespace Outcome

/-- Every fault of an outcome is a `p`. -/
def FailsOnly {α : Type} (p : Fault → Prop) (outcome : Outcome α) : Prop :=
  ∀ fault, outcome = .error fault → p fault

variable {α β : Type} {p q : Fault → Prop} {outcome : Outcome α}

theorem failsOnly_ok (a : α) : FailsOnly p (.ok a) := by
  rintro _ ⟨⟩

theorem failsOnly_error {fault : Fault} (h : p fault) : FailsOnly p (.error fault : Outcome α) := by
  rintro _ ⟨⟩
  exact h

theorem FailsOnly.mono (h : FailsOnly p outcome) (weaker : ∀ fault, p fault → q fault) :
    FailsOnly q outcome := fun fault failed => weaker fault (h fault failed)

theorem FailsOnly.bind {f : α → Outcome β} (first : FailsOnly p outcome)
    (second : ∀ a, FailsOnly p (f a)) : FailsOnly p (outcome >>= f) := by
  cases outcome with
  | error fault => exact failsOnly_error (first fault rfl)
  | ok a => exact second a

theorem FailsOnly.mapM {f : α → Outcome β} (each : ∀ a, FailsOnly p (f a)) (as : List α) :
    FailsOnly p (as.mapM f) := by
  induction as with
  | nil => exact failsOnly_ok []
  | cons a rest ih =>
      rw [List.mapM_cons]
      exact (each a).bind fun _ => ih.bind fun _ => failsOnly_ok _

end Outcome

open Outcome

/-! ### Looking into a value -/

/-- The value under a key, null when there is none. -/
def Fields.valueAt (fields : Fields) (key : String) : Value := (fields.find? key).getD .null

/-- The faults of reading a value and of looking up a part of it. -/
inductive Fault.OfValue : Fault → Prop
  | noAttribute (kind : Kind) (name : String) : OfValue (.noAttribute kind name)
  | notSized (kind : Kind) : OfValue (.notSized kind)
  | wrongType : OfValue .wrongType
  | missingKey (key : String) : OfValue (.missingKey key)
  | notInteger (text : String) : OfValue (.notInteger text)
  | tooManyDigits (count : Nat) : OfValue (.tooManyDigits count)
  | badValue : OfValue .badValue
  | outOfRange : OfValue .outOfRange
  | malformed (problem : Json.Problem) : OfValue (.malformed problem)

namespace Value

theorem getOr_fails (v : Value) (key : String) (default : Value) :
    FailsOnly Fault.OfValue (v.getOr key default) := by
  cases v with
  | object fields => exact failsOnly_ok _
  | _ => exact failsOnly_error (.noAttribute _ _)

theorem field_fails (v : Value) (key : String) : FailsOnly Fault.OfValue (v.field key) := by
  unfold field
  split
  · split
    · exact failsOnly_ok _
    · exact failsOnly_error (.missingKey key)
  · exact failsOnly_error .wrongType

theorem first_fails (v : Value) : FailsOnly Fault.OfValue v.first := by
  unfold first
  split
  · exact failsOnly_ok _
  · exact failsOnly_error .outOfRange
  · split
    · exact failsOnly_ok _
    · exact failsOnly_error .outOfRange
  · exact failsOnly_error (.missingKey _)
  · exact failsOnly_error .wrongType

theorem size_fails (v : Value) : FailsOnly Fault.OfValue v.size := by
  unfold size
  split
  case h_4 => exact failsOnly_error (.notSized _)
  all_goals exact failsOnly_ok _

theorem toInt_fails (v : Value) : FailsOnly Fault.OfValue v.toInt := by
  unfold toInt
  split
  case h_3 => exact failsOnly_error .badValue
  case h_4 => exact failsOnly_error .outOfRange
  case h_6 s =>
    unfold Text.toInt
    dsimp only
    split
    · exact failsOnly_error (.notInteger s)
    · split
      · exact failsOnly_error (.tooManyDigits _)
      · split
        · exact failsOnly_ok _
        · exact failsOnly_error (.notInteger s)
  case h_7 => exact failsOnly_error .wrongType
  all_goals exact failsOnly_ok _

end Value

/-- The faults of reading a text as JSON. -/
inductive Fault.OfReader : Fault → Prop
  | malformed (problem : Json.Problem) : OfReader (.malformed problem)
  | tooManyDigits (count : Nat) : OfReader (.tooManyDigits count)

theorem Fault.OfReader.ofValue {fault : Fault} (h : OfReader fault) : OfValue fault := by
  cases h with
  | malformed problem => exact .malformed problem
  | tooManyDigits count => exact .tooManyDigits count

theorem Json.read_refuses (text : List Char) : FailsOnly Fault.OfReader (Json.read text) := by
  unfold Json.read
  dsimp only
  split
  · exact failsOnly_error (.malformed _)
  · split
    · exact failsOnly_error (.malformed _)
    · exact failsOnly_error (.tooManyDigits _)
    · split
      · exact failsOnly_ok _
      · exact failsOnly_error (.malformed _)

theorem bodyValue_refuses (body : String) : FailsOnly Fault.OfReader (bodyValue body) := by
  unfold bodyValue
  dsimp only
  split
  · exact failsOnly_ok _
  · exact Json.read_refuses _

theorem bodyValue_fails (body : String) : FailsOnly Fault.OfValue (bodyValue body) :=
  (bodyValue_refuses body).mono fun _ => Fault.OfReader.ofValue

/-! ### Requests -/

/-- The faults of a request. -/
inductive Fault.OfRequest : Fault → Prop
  | lost (reason : String) : OfRequest (.lost reason)
  | rejected (status : Int) (remote : Value) (url : String) :
      OfRequest (.rejected status remote url)
  | value {fault : Fault} : OfValue fault → OfRequest fault

namespace Connection

theorem rowsOf_fails (result : Value) : FailsOnly Fault.OfValue (rowsOf result) := by
  refine (Value.getOr_fails _ _ _).bind fun rows => ?_
  exact (Value.size_fails rows).bind fun _ => failsOnly_ok rows

theorem outcomeOf_fails (c : Connection) (path : String) (answer : Answer) :
    FailsOnly Fault.OfRequest (c.outcomeOf path answer) := by
  cases answer with
  | failure reason => exact failsOnly_error (.lost reason)
  | response status body =>
      show FailsOnly Fault.OfRequest (c.valueOf path (status, body))
      unfold valueOf
      split
      · exact failsOnly_error (.rejected _ _ _)
      · exact (bodyValue_fails body).mono fun _ => .value

theorem queried_fails (c : Connection) (remote : Remote) (before : List Request) (text : String)
    (parameters : Fields) :
    FailsOnly Fault.OfRequest (c.queried remote before text parameters) :=
  (c.outcomeOf_fails _ _).bind fun result => (rowsOf_fails result).mono fun _ => .value

end Connection

end NodeInventory
