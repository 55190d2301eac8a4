import NodeInventory.Proofs.Discovery.Requests
import NodeInventory.Proofs.Remote.Faults
import NodeInventory.Proofs.Text.Whole

/-!
# What status a value stands for

A value stands for the status whose code it counts as, and for the unknown one when it counts as no
code (`Status.Decodes`); there is always just one such status.  Decoding finds it for every value
except an infinite number, which is out of range instead (`Status.ofValue_ok`,
`Status.ofValue_infinite`).  A server can send such a number, since a decimal too large for the
format is read as infinite, and then reading the status of a job, or its log, fails
(`decoded_iff_not_infinite`, `oversized_status_raises`).
-/

namespace NodeInventory

open Exchange

/-! ### The status of a value -/

/-- An infinite number, of either sign. -/
def Value.Infinite (v : Value) : Prop := ∃ negative, v = .float (.infinite negative)

namespace Status

/-- A whole number is the code of a status. -/
def IsCode (n : Int) : Prop := 0 ≤ n ∧ n ≤ 8

/-- A value stands for a status: the one with the code that the value counts as, and the unknown
one if it counts as no code. -/
structure Decodes (v : Value) (status : Status) : Prop where
  coded : ∀ n : Int, v.Counts n → IsCode n → status.code = n
  otherwise : (∀ n : Int, v.Counts n → ¬IsCode n) → status = .unknown

theorem code_injective {s t : Status} (same : s.code = t.code) : s = t := by
  revert same
  cases s <;> cases t <;> decide

theorem Decodes.unique {v : Value} {s t : Status} (h : Decodes v s) (h' : Decodes v t) : s = t := by
  by_cases coded : ∃ n : Int, v.Counts n ∧ IsCode n
  · obtain ⟨n, counts, code⟩ := coded
    have same : (s.code : Int) = t.code := by rw [h.coded n counts code, h'.coded n counts code]
    exact code_injective (Int.ofNat.inj same)
  · have uncoded : ∀ n : Int, v.Counts n → ¬IsCode n := fun n counts code =>
      coded ⟨n, counts, code⟩
    rw [h.otherwise uncoded, h'.otherwise uncoded]

theorem code_ofInt {n : Int} (code : IsCode n) : (ofInt n).code = n := by
  have codes : ∀ n < 9, (all.getD n .unknown).code = n := by decide
  obtain ⟨least, most⟩ := code
  have small : n.toNat < 9 := by omega
  unfold ofInt
  rw [if_pos least, codes n.toNat small, Int.toNat_of_nonneg least]

theorem ofInt_of_not_isCode {n : Int} (other : ¬IsCode n) : ofInt n = .unknown := by
  unfold ofInt
  split
  next least =>
    have large : all.length ≤ n.toNat := by
      have above : 8 < n := Int.not_le.mp fun most => other ⟨least, most⟩
      show 9 ≤ n.toNat
      omega
    rw [List.getD_eq_getElem?_getD, List.getElem?_eq_none large]
    rfl
  next => rfl

theorem decodes_ofInt {v : Value} {n : Int} (counts : v.Counts n) : Decodes v (ofInt n) := by
  refine ⟨fun n' counts' code => ?_, fun uncoded => ofInt_of_not_isCode (uncoded n counts)⟩
  obtain rfl := counts.unique counts'
  exact code_ofInt code

/-- Only infinite numbers are out of range as whole numbers. -/
theorem toInt_outOfRange {v : Value} (failed : v.toInt = .error .outOfRange) : v.Infinite := by
  unfold Value.toInt at failed
  split at failed
  case h_4 negative => exact ⟨negative, rfl⟩
  case h_6 s =>
    unfold Text.toInt at failed
    dsimp only at failed
    split at failed
    · cases failed
    · split at failed
      · cases failed
      · split at failed <;> cases failed
  all_goals cases failed

theorem ofValue_infinite {v : Value} (infinite : v.Infinite) :
    ofValue v = .error .outOfRange := by
  obtain ⟨negative, rfl⟩ := infinite
  rfl

/-- Every value but an infinite number is decoded to what it stands for. -/
theorem ofValue_ok {v : Value} (bounded : ¬v.Infinite) :
    ∃ status, ofValue v = .ok status ∧ Decodes v status := by
  unfold ofValue
  split
  next n read => exact ⟨ofInt n, rfl, decodes_ofInt (Value.toInt_iff.mp read)⟩
  next failed => exact absurd (toInt_outOfRange failed) bounded
  next fault _ failed =>
    have none_ : ∀ n : Int, ¬v.Counts n := by
      intro n counts
      rw [Value.toInt_iff.mpr counts] at failed
      cases failed
    exact ⟨.unknown, rfl, fun n counts => absurd counts (none_ n), fun _ => rfl⟩

end Status

/-! ### Reading a status from a row -/

section reading

variable {α β : Type} {v : Value}

/-- An outcome holds the status that a value stands for, unless the value is infinite: then the
outcome is that something is out of range. -/
structure DecodesUnlessInfinite (v : Value) (status? : α → Option Status) (outcome : Outcome α) :
    Prop where
  decoded : (∃ a status, outcome = .ok a ∧ status? a = some status ∧ Status.Decodes v status) ↔
    ¬v.Infinite
  refused : v.Infinite → outcome = .error .outOfRange

/-- What is made of a decoded status, and keeps it, inherits its failure and nothing more. -/
theorem decodesUnlessInfinite_map {f : Status → α} {status? : α → Option Status}
    (keeps : ∀ s, status? (f s) = some s) :
    DecodesUnlessInfinite v status? (f <$> Status.ofValue v) := by
  by_cases infinite : v.Infinite
  · rw [Status.ofValue_infinite infinite]
    refine ⟨⟨?_, fun bounded => absurd infinite bounded⟩, fun _ => rfl⟩
    rintro ⟨a, status, ⟨⟩, -, -⟩
  · obtain ⟨status, decoded, stands⟩ := Status.ofValue_ok infinite
    rw [decoded]
    refine ⟨⟨fun _ => infinite, fun _ => ?_⟩, fun h => absurd h infinite⟩
    exact ⟨f status, status, rfl, keeps status, stands⟩

end reading

theorem statusIn_row (row : Fields) (rest : List Value) :
    statusIn (.list (.object row :: rest)) = Status.ofValue (row.valueAt "Status") := rfl

theorem logIn_row (row : Fields) (rest : List Value) :
    logIn (.list (.object row :: rest)) =
      (fun status => some
        { result := status
          description := (row.valueAt "ResultDescription").orElse (.text "")
          errorMessage := (row.valueAt "ErrorMessage").orElse (.text "")
          batch := row.valueAt "BatchID" }) <$> Status.ofValue (row.valueAt "Result") := by
  show some <$> DiscoveryLog.ofRow (.object row) = _
  unfold DiscoveryLog.ofRow
  have result : (Value.object row).get "Result" = .ok (row.valueAt "Result") := rfl
  rw [result]
  show some <$> (Status.ofValue (row.valueAt "Result") >>= _) = _
  cases Status.ofValue (row.valueAt "Result") <;> rfl

theorem fetch_of_row {α : Type} (c : Connection) {remote : Remote} {trace : Trace}
    {job profile rows : Value} {text : String} {read : Value → Outcome α}
    (known : profileNumber job = .ok profile)
    (answered : c.queried remote trace.sent text [("profileId", profile)] = .ok rows) :
    (askAbout c job text read remote trace).1 = read rows := by
  obtain ⟨_, -, -, outcome⟩ := askAbout_known c text read known trace
  rw [outcome, answered]
  rfl

/-- A status is decoded exactly if it is not infinite; then it is what the value stands for, and
otherwise it is out of range.  So it is for the status of a job and for the one in its log, whatever
else is in the row and in the rows after it. -/
theorem decoded_iff_not_infinite (v : Value) (c : Connection) (remote : Remote) (trace : Trace)
    {job profile : Value} (known : profileNumber job = .ok profile) :
    DecodesUnlessInfinite v some (Status.ofValue v) ∧
      (∀ (row : Fields) (rest : List Value), row.valueAt "Status" = v →
        c.queried remote trace.sent statusQuery [("profileId", profile)] =
          .ok (.list (.object row :: rest)) →
        DecodesUnlessInfinite v some (fetchStatus c job remote trace).1) ∧
      (∀ (row : Fields) (rest : List Value), row.valueAt "Result" = v →
        c.queried remote trace.sent logQuery [("profileId", profile)] =
          .ok (.list (.object row :: rest)) →
        DecodesUnlessInfinite v (Option.map DiscoveryLog.result)
          (fetchLog c job remote trace).1) := by
  have itself : DecodesUnlessInfinite v some (id <$> Status.ofValue v) :=
    decodesUnlessInfinite_map fun _ => rfl
  rw [id_map] at itself
  refine ⟨itself, ?_, ?_⟩
  · rintro row rest rfl answered
    rw [fetchStatus_eq, fetch_of_row c known answered, statusIn_row]
    exact itself
  · rintro row rest rfl answered
    rw [fetchLog_eq, fetch_of_row c known answered, logIn_row]
    exact decodesUnlessInfinite_map fun _ => rfl

/-! ### A number that is too large -/

/-- A server that gives a number, as it is written, for the status of every job and in its log. -/
def numberServer (number : String) : Remote :=
  let row := "\x7b\"results\": [\x7b\"Status\": " ++ number ++ ", \"Result\": " ++ number ++
    "\x7d]\x7d"
  .answering [row, row]

/-- A number that is too large for its format is neither a code nor unknown: the status of a job
that the server gives by it is not read, nor is the log. -/
theorem oversized_status_raises :
    (∀ status, Status.ofValue (.float (.infinite false)) ≠ .ok status) ∧
      (fetchStatus { server := .text "orion.test" } (.int 42) (numberServer "1e400") {}).1.isOk =
        false ∧
      (fetchLog { server := .text "orion.test" } (.int 42) (numberServer "1e400") {}).1.isOk =
        false := by
  refine ⟨fun status decoded => ?_, by decide +kernel, by decide +kernel⟩
  cases decoded

/-- The first one of some rows, when there are rows and it is an object. -/
def firstRow? : Outcome Value → Option Fields
  | .ok (.list (.object row :: _)) => some row
  | _ => none

theorem rows_of_firstRow? {rows : Outcome Value} {row : Fields}
    (first : firstRow? rows = some row) :
    ∃ rest, rows = .ok (.list (.object row :: rest)) := by
  unfold firstRow? at first
  split at first
  · cases first
    exact ⟨_, rfl⟩
  · cases first

/-- A number with a fraction stands for the status whose code is its whole part. -/
theorem decoded_iff_not_infinite_fraction :
    ∃ v status, v.number? = some (.finite false (5 / 2)) ∧
      (fetchStatus { server := .text "orion.test" } (.int 42) (numberServer "2.5") {}).1 =
        .ok status ∧
      Status.Decodes v status ∧ status = .finished := by
  have given : (firstRow? (({ server := .text "orion.test" } : Connection).queried
      (numberServer "2.5") [] statusQuery [("profileId", .int 42)])).bind
        (fun row => (row.valueAt "Status").number?) = some (.finite false (5 / 2)) := by
    decide +kernel
  have read : (fetchStatus { server := .text "orion.test" } (.int 42)
      (numberServer "2.5") {}).1.toOption = some .finished := by decide +kernel
  obtain ⟨row, first, number⟩ := Option.bind_eq_some_iff.mp given
  obtain ⟨rest, answered⟩ := rows_of_firstRow? first
  have bounded : ¬(row.valueAt "Status").Infinite := by
    rintro ⟨negative, infinite⟩
    rw [infinite] at number
    cases number
  have known : profileNumber (.int 42) = .ok (.int 42) := if_pos (by decide)
  obtain ⟨-, status, -⟩ := decoded_iff_not_infinite (row.valueAt "Status")
    { server := .text "orion.test" } (numberServer "2.5") {} known
  obtain ⟨s, _, outcome, ⟨⟩, stands⟩ := (status row rest rfl answered).decoded.mpr bounded
  rw [outcome] at read
  exact ⟨_, s, number, outcome, stands, Option.some.inj read⟩

end NodeInventory
