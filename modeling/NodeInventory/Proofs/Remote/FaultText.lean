import NodeInventory.Proofs.Json.Reading
import NodeInventory.Proofs.Json.Standing
import NodeInventory.Proofs.Remote.Rejection
import NodeInventory.Proofs.Text.Trim

/-!
# What a fault says

The body of a rejected request may be anything: nothing at all, words, JSON of whatever kind.  It
never hides the rejection.  A body that is an object says what is under `Message`, or else under
`message`, if that counts as true, and every other body is given as it is, up to 500 characters
(`Tells`).  Which bodies are objects is a matter of the grammar of JSON alone, but for one thing: a
whole number of more than 4300 digits makes a body unreadable, and its message unheard
(`fault_body_tells`, `long_number_hides_message`).

A message that is written with half of a surrogate pair in it is no text, and nothing is said of how
it is told.  Everything else about such a body is, as any other character may stand for the half
(`BodySays.restand`).
-/

namespace NodeInventory

open Json Text

/-! ### What a body is -/

/-- ASCII blanks. -/
def Blanks (cs : List Char) : Prop := ∀ c ∈ cs, isAsciiBlank c = true

/-- A body is JSON for a value, with blanks around it. -/
def BodyIs (d : Dialect) (body : String) (v : Value) : Prop :=
  ∃ lead cs tail, Blanks lead ∧ Denotes d cs v ∧ Blanks tail ∧ body.toList = lead ++ cs ++ tail

theorem blanks_nil : Blanks [] := by rintro _ ⟨⟩

section bodies

variable {d : Dialect} {body : String} {v : Value}

theorem Json.Denotes.trimWith {lead cs tail : List Char} (denotes : Denotes d cs v)
    (leads : Blanks lead) (tails : Blanks tail) :
    trimWith isAsciiBlank (lead ++ cs ++ tail) = cs := by
  refine trimWith_around leads tails ?_ denotes.ends.getLast?
  obtain ⟨c, more, rfl, visible, -⟩ := denotes.head
  rintro _ ⟨⟩
  exact visible

theorem bodyIs_iff : BodyIs d body v ↔ Document d (trimWith isAsciiBlank body.toList) v := by
  constructor
  · rintro ⟨lead, cs, tail, leads, denotes, tails, whole⟩
    rw [whole, denotes.trimWith leads tails]
    have document := Document.intro gap_nil denotes gap_nil
    rwa [List.nil_append, List.append_nil] at document
  · intro document
    obtain ⟨lead, tail, leads, tails, whole⟩ := trimWith_whole isAsciiBlank body.toList
    generalize trimWith isAsciiBlank body.toList = core at document whole
    obtain ⟨isGap_, denotes, isGap'⟩ := document
    rename_i gap cs gap'
    refine ⟨lead ++ gap, cs, gap' ++ tail, fun c member => ?_, denotes, fun c member => ?_, ?_⟩
    · exact (List.mem_append.mp member).elim (leads c) fun inside =>
        isAsciiBlank_of_isGap (isGap_ c inside)
    · exact (List.mem_append.mp member).elim
        (fun inside => isAsciiBlank_of_isGap (isGap' c inside)) (tails c)
    · simp only [whole, List.append_assoc]

theorem not_bodyIs_of_blanks (blank : Blanks body.toList) : ¬BodyIs d body v := by
  rw [bodyIs_iff, trimWith_eq_nil.mpr blank]
  intro document
  obtain ⟨c, more, whole⟩ := document.head
  cases whole

/-- A body is read as what it is, and as null if it is blank; nothing else is read. -/
theorem bodyValue_iff : bodyValue body = .ok v ↔
    BodyIs reader body v ∨ (Blanks body.toList ∧ v = .null) := by
  unfold bodyValue
  dsimp only
  by_cases blank : Blanks body.toList
  · have empty : (trimWith isAsciiBlank body.toList).isEmpty = true :=
      List.isEmpty_iff.mpr (trimWith_eq_nil.mpr blank)
    rw [if_pos empty, or_iff_right (not_bodyIs_of_blanks blank)]
    constructor
    · intro read
      cases read
      exact ⟨blank, rfl⟩
    · rintro ⟨-, rfl⟩
      rfl
  · have full : ¬(trimWith isAsciiBlank body.toList).isEmpty = true := fun empty =>
      blank (trimWith_eq_nil.mp (List.isEmpty_iff.mp empty))
    rw [if_neg full, read_iff, bodyIs_iff, or_iff_left fun h => blank h.1]

end bodies

/-! ### What a body says -/

/-- Something is said under a key of an object: a value that counts as true. -/
def Said (fields : Fields) (key : String) (v : Value) : Prop :=
  Fields.find? fields key = some v ∧ v.truthy = true

/-- An object says what is said under `Message`, or else what is said under `message`. -/
inductive Says (fields : Fields) : Value → Prop
  | first {v : Value} : Said fields "Message" v → Says fields v
  | second {v : Value} : (∀ v', ¬Said fields "Message" v') → Said fields "message" v →
      Says fields v

/-- A body is an object that says something. -/
def BodySays (d : Dialect) (body : String) (v : Value) : Prop :=
  ∃ fields, BodyIs d body (.object fields) ∧ Says fields v

/-- A fault's body tells a message: what it says, and its own start if it says nothing.  Any
character outside ASCII may stand for half of a surrogate pair, and what is said is not told if such
a half is in it. -/
structure Tells (short : Nat → Prop) (body : String) (message : Value) : Prop where
  said : ∀ half v, Foreign half → BodySays ⟨short, half⟩ body v → ¬Mentions half v → message = v
  otherwise : ∀ half, Foreign half → (∀ v, ¬BodySays ⟨short, half⟩ body v) →
    message = .text (String.ofList (body.toList.take 500))

section saying

variable {body key : String} {fields fields' : Fields} {v : Value} {half : Char}

theorem Said.alike (said : Said fields key v) (alike : AlikeFields half fields fields')
    (ascii : Ascii key) : ∃ v', Said fields' key v' ∧ Agree half v v' := by
  obtain ⟨found, truthy⟩ := said
  rcases alike.found ascii with ⟨w, v', here, there, agree⟩ | ⟨missing, -⟩
  · obtain rfl : v = w := Option.some.inj (found.symm.trans here)
    exact ⟨v', ⟨there, agree.truthy ▸ truthy⟩, agree⟩
  · rw [missing] at found
    cases found

theorem Said.alike_symm {v' : Value} (said : Said fields' key v')
    (alike : AlikeFields half fields fields') (ascii : Ascii key) : ∃ v, Said fields key v := by
  obtain ⟨found, truthy⟩ := said
  rcases alike.found ascii with ⟨v, w, here, there, agree⟩ | ⟨-, missing⟩
  · obtain rfl : v' = w := Option.some.inj (found.symm.trans there)
    exact ⟨v, here, agree.truthy ▸ truthy⟩
  · rw [missing] at found
    cases found

theorem Says.alike (heard : Says fields v) (alike : AlikeFields half fields fields') :
    ∃ v', Says fields' v' ∧ Agree half v v' := by
  have first : Ascii "Message" := by decide
  have second : Ascii "message" := by decide
  cases heard with
  | first said =>
      obtain ⟨v', said', agree⟩ := said.alike alike first
      exact ⟨v', .first said', agree⟩
  | second silent said =>
      obtain ⟨v', said', agree⟩ := said.alike alike second
      refine ⟨v', .second (fun v' said' => ?_) said', agree⟩
      obtain ⟨v, said⟩ := said'.alike_symm alike first
      exact silent v said

/-- What a body says agrees with what it says when another character stands for half of a pair. -/
theorem BodySays.restand {short : Nat → Prop} {half' : Char} (foreign : Foreign half)
    (foreign' : Foreign half') (heard : BodySays ⟨short, half⟩ body v) :
    ∃ v', BodySays ⟨short, half'⟩ body v' ∧ Agree half v v' := by
  obtain ⟨fields, ⟨lead, cs, tail, leads, denotes, tails, whole⟩, said⟩ := heard
  obtain ⟨_, denotes', alike⟩ := denotes.restand foreign foreign'
  obtain ⟨fields', rfl, alike'⟩ := alike.object fields rfl
  obtain ⟨v', said', agree⟩ := said.alike alike'
  exact ⟨v', ⟨fields', ⟨lead, cs, tail, leads, denotes', tails, whole⟩, said'⟩, agree⟩

end saying

/-! ### What a body tells -/

section tells

variable {body key : String} {fields : Fields} {v other message : Value}

theorem orElse_of_said (said : Said fields key v) :
    (Fields.valueAt fields key).orElse other = v := by
  obtain ⟨found, truthy⟩ := said
  unfold Fields.valueAt
  rw [found]
  exact if_pos truthy

theorem orElse_of_silent (silent : ∀ v, ¬Said fields key v) :
    (Fields.valueAt fields key).orElse other = other := by
  refine if_neg fun truthy => ?_
  unfold Fields.valueAt at truthy
  cases found : fields.find? key with
  | none =>
      rw [found] at truthy
      cases truthy
  | some v =>
      rw [found] at truthy
      exact silent v ⟨found, truthy⟩

theorem faultMessage_object (is : BodyIs reader body (.object fields)) :
    faultMessage body = ((Fields.valueAt fields "Message").orElse
      (Fields.valueAt fields "message")).orElse (bodyStart body) := by
  have read : bodyValue body = .ok (.object fields) := bodyValue_iff.mpr (.inl is)
  unfold faultMessage
  rw [read]
  rfl

theorem faultMessage_other (other : ∀ fields, ¬BodyIs reader body (.object fields)) :
    faultMessage body = bodyStart body := by
  unfold faultMessage
  split
  next fields read =>
    rcases bodyValue_iff.mp read with is | ⟨-, ⟨⟩⟩
    exact absurd is (other fields)
  next => rfl

theorem faultMessage_heard (heard : BodySays reader body v) : faultMessage body = v := by
  obtain ⟨fields, is, said⟩ := heard
  rw [faultMessage_object is]
  cases said with
  | first said =>
      rw [orElse_of_said said]
      exact if_pos said.2
  | second silent said =>
      rw [orElse_of_silent silent, orElse_of_said said]

theorem faultMessage_unheard (silent : ∀ v, ¬BodySays reader body v) :
    faultMessage body = bodyStart body := by
  by_cases object : ∃ fields, BodyIs reader body (.object fields)
  · obtain ⟨fields, is⟩ := object
    have first : ∀ v, ¬Said fields "Message" v := fun v said =>
      silent v ⟨fields, is, .first said⟩
    have second : ∀ v, ¬Said fields "message" v := fun v said =>
      silent v ⟨fields, is, .second first said⟩
    rw [faultMessage_object is, orElse_of_silent first, orElse_of_silent second]
  · exact faultMessage_other fun fields is => object ⟨fields, is⟩

theorem foreign_replacement : Foreign replacement := by decide

/-- The message of a fault is one that its body tells. -/
theorem faultMessage_tells (body : String) : Tells Short body (faultMessage body) := by
  constructor
  case said =>
    intro half v foreign heard plain
    obtain ⟨v', heard', agree⟩ := heard.restand foreign foreign_replacement
    rw [faultMessage_heard heard', agree.same plain]
  case otherwise =>
    intro half foreign silent
    refine faultMessage_unheard fun v heard => ?_
    obtain ⟨v', heard', -⟩ := BodySays.restand foreign_replacement foreign heard
    exact silent v' heard'

/-- A body tells one message only, unless the replacement character is in what it says. -/
theorem tells_iff (plain : ∀ v, BodySays reader body v → ¬Mentions replacement v) :
    Tells Short body message ↔ message = faultMessage body := by
  constructor
  · intro tells
    by_cases heard : ∃ v, BodySays reader body v
    · obtain ⟨v, heard⟩ := heard
      rw [faultMessage_heard heard]
      exact tells.said replacement v foreign_replacement heard (plain v heard)
    · have silent : ∀ v, ¬BodySays reader body v := fun v found => heard ⟨v, found⟩
      rw [faultMessage_unheard silent]
      exact tells.otherwise replacement foreign_replacement silent
  · rintro rfl
    exact faultMessage_tells body

end tells

theorem Operation.run_of_fault (op : Operation) (c : Connection) (remote : Remote) (trace : Trace)
    {status : Int} {body : String} (admits : op.admitted = .ok ())
    (answered : (remote.reply (trace.sent ++ [op.request c])).answer = .response status body)
    (fault : 400 ≤ status) :
    ∃ after, op.run c remote trace =
        (.error (.rejected status (faultMessage body) (c.url op.path)), after) ∧
      after.sent = trace.sent ++ [op.request c] := by
  obtain ⟨_, sent, rfl, ended⟩ := op.run_sends c admits trace
  rw [answered, op.outcome_of_fault c body fault] at ended
  exact ⟨_, Prod.ext ended rfl, sent⟩

/-- A status of 400 or more is a rejection, whatever the body is: each operation fails with the
status, with where its request went and with what the body tells, as long as its whole numbers are
short enough.  What keeps a body from being read is only that it is not JSON of that kind. -/
theorem fault_body_tells (op : Operation) (c : Connection) (remote : Remote) (trace : Trace)
    {status : Int} {body : String} (admits : op.admitted = .ok ())
    (answered : (remote.reply (trace.sent ++ [op.request c])).answer = .response status body)
    (fault : 400 ≤ status) :
    ∃ message after,
      op.run c remote trace = (.error (.rejected status message (c.url op.path)), after) ∧
        after.sent = trace.sent ++ [op.request c] ∧ Tells Short body message ∧
        ∀ refusal, bodyValue body = .error refusal → refusal.OfReader := by
  obtain ⟨after, run, sent⟩ := op.run_of_fault c remote trace admits answered fault
  exact ⟨_, after, run, sent, faultMessage_tells body, bodyValue_refuses body⟩

/-! ### A number that is too long -/

/-- The text of an object with a message and a number. -/
def busyText (digits : List Char) : List Char :=
  '\x7b' :: ("\"Message\": \"busy\", \"count\": ".toList ++ (digits ++ ['\x7d']))

/-- A body with a message and a number. -/
def busyBody (digits : List Char) : String := String.ofList (busyText digits)

section busy

variable {digits : List Char} {d : Dialect}

/-- The fields of the object. -/
def busyFields (digits : List Char) : Fields :=
  [("Message", .text "busy"), ("count", .int (asciiNumber digits))]

theorem gap_space : Gap [' '] := by
  intro c member
  obtain rfl := List.mem_singleton.mp member
  rfl

theorem message_spelled {half : Char} : Spells half "Message".toList "Message".toList :=
  spells_plain rfl

theorem count_spelled {half : Char} : Spells half "count".toList "count".toList := spells_plain rfl

theorem busy_denotes : Denotes d ('"' :: ("busy".toList ++ ['"'])) (.text "busy") :=
  .text (spells_plain rfl)

theorem busyBody_toList : (busyBody digits).toList = busyText digits := String.toList_ofList

theorem busyText_denotes (whole : Whole digits) (few : d.short digits.length) :
    Denotes d (busyText digits) (.object (busyFields digits)) := by
  have count : Denotes d digits (.int (asciiNumber digits)) := .number (.whole false whole few)
  have members := Members.next (.intro message_spelled gap_nil gap_space busy_denotes) gap_nil
    gap_space (.last (.intro count_spelled gap_nil gap_space count) gap_nil)
  exact .object gap_nil members

theorem not_mentions_busy : ¬Mentions replacement (.text "busy") := by
  rintro ⟨inside⟩
  exact absurd inside (by decide)

theorem busyBody_message (whole : Whole digits) (few : d.short digits.length) :
    BodySays d (busyBody digits) (.text "busy") := by
  refine ⟨busyFields digits, ⟨[], _, [], blanks_nil, busyText_denotes whole few, blanks_nil, ?_⟩,
    .first ⟨rfl, rfl⟩⟩
  rw [busyBody_toList, List.nil_append, List.append_nil]

/-- The body is read up to its number only, if that has too many digits. -/
theorem readValue_busyText (whole : Whole digits) (many : digitLimit < digits.length)
    {depth : Nat} (enough : 8 ≤ depth) :
    readValue depth (busyText digits) = .error (.digits digits.length) := by
  obtain ⟨depth, rfl⟩ : ∃ d, depth = d + 4 := ⟨depth - 4, by omega⟩
  obtain ⟨c, more, rfl, digit⟩ := whole.toDigits.head
  have number : readValue (depth + 1) (c :: (more ++ ['\x7d'])) =
      .error (.digits (c :: more).length) := by
    have numeral : Numeral (fun _ => True) (c :: more) _ := .whole false whole trivial
    rw [← List.cons_append, readValue_number numeral]
    exact readNumber_long false whole many (stops_gap gap_nil (by decide))
  let second := '"' :: ("count".toList ++ '"' :: ':' :: ' ' :: (c :: (more ++ ['\x7d'])))
  have first : readFields (depth + 3) [] _ = fieldsAfter (depth + 2) _ (',' :: ' ' :: second) :=
    readFields_field message_spelled gap_nil gap_space busy_denotes
      (busy_denotes.read (by simp; omega) (stops_gap gap_nil (by decide)))
  have stopped : readFields (depth + 2) [("Message", .text "busy")] second = _ :=
    readFields_error count_spelled gap_nil gap_space (isGap_of_isAsciiDigit digit) number
  exact first.trans stopped

theorem busyBody_unreadable (whole : Whole digits) (many : digitLimit < digits.length) :
    bodyValue (busyBody digits) = .error (.tooManyDigits digits.length) := by
  have denotes : Denotes ⟨fun _ => True, replacement⟩ (busyText digits) _ :=
    busyText_denotes whole trivial
  have trimmed : trimWith isAsciiBlank (busyText digits ++ []) = busyText digits :=
    denotes.trimWith blanks_nil blanks_nil
  rw [List.append_nil] at trimmed
  have full : ¬(busyText digits).isEmpty = true := by rintro ⟨⟩
  have markless : (busyText digits).head? ≠ some '\uFEFF' := by rintro ⟨⟩
  have skipped : skipGap (busyText digits) = busyText digits := rfl
  have enough : 8 ≤ 2 * (busyText digits).length + 1 := by
    simp [busyText]
    omega
  unfold bodyValue
  rw [busyBody_toList, trimmed]
  dsimp only
  rw [if_neg full]
  unfold Json.read
  dsimp only
  rw [if_neg markless, skipped, readValue_busyText whole many enough]

end busy

/-- As many digits as are too many. -/
def tooManyOnes : List Char := List.replicate 4301 '1'

theorem tooManyOnes_whole : Whole tooManyOnes := by
  refine ⟨⟨List.cons_ne_nil _ _, fun c member => ?_⟩, fun zero => ?_⟩
  · rw [List.eq_of_mem_replicate member]
    rfl
  · cases zero

/-- A server that is busy and answers every request with a body that tells so. -/
def busyServer (digits : List Char) : Remote where
  reply _ := { answer := .response 503 (busyBody digits) }
  horizon := 0

/-- The reading of a node. -/
def sampleRead : Operation := .read "swis://orion.test/Orion/Orion.Nodes/NodeID=7"

/-- An object with a number that is too long is not heard: it tells that the server is busy, but the
rejection has the start of the body for its message. -/
theorem long_number_hides_message :
    ∃ message after,
      sampleRead.run { server := .text "orion.test" } (busyServer tooManyOnes) {} =
          (.error (.rejected 503 message
            (Connection.url { server := .text "orion.test" } sampleRead.path)), after) ∧
        ¬Tells (fun _ => True) (busyBody tooManyOnes) message := by
  obtain ⟨after, run, -⟩ := sampleRead.run_of_fault { server := .text "orion.test" }
    (busyServer tooManyOnes) {} rfl rfl (by decide)
  refine ⟨_, after, run, fun tells => ?_⟩
  have many : digitLimit < tooManyOnes.length := by
    rw [tooManyOnes, List.length_replicate]
    decide
  have unheard : faultMessage (busyBody tooManyOnes) = bodyStart (busyBody tooManyOnes) := by
    refine faultMessage_other fun fields is => ?_
    have read := bodyValue_iff.mpr (.inl is)
    rw [busyBody_unreadable tooManyOnes_whole many] at read
    cases read
  have told := tells.said replacement _ foreign_replacement
    (busyBody_message tooManyOnes_whole trivial) not_mentions_busy
  rw [unheard, bodyStart, busyBody_toList] at told
  have start := congrArg String.toList (Value.text.inj told)
  rw [String.toList_ofList] at start
  cases start

/-- An object with a number of usual length is. -/
theorem fault_body_tells_busy :
    ∃ after, sampleRead.run { server := .text "orion.test" } (busyServer ['1', '2']) {} =
      (.error (.rejected 503 (.text "busy")
        (Connection.url { server := .text "orion.test" } sampleRead.path)), after) := by
  obtain ⟨message, after, run, -, tells, -⟩ := fault_body_tells sampleRead
    { server := .text "orion.test" } (busyServer ['1', '2']) {} rfl rfl (by decide)
  have whole : Whole ['1', '2'] := ⟨⟨List.cons_ne_nil _ _, List.all_eq_true.mp rfl⟩, by decide⟩
  have told := tells.said replacement _ foreign_replacement
    (busyBody_message whole (by decide : 2 ≤ digitLimit)) not_mentions_busy
  exact ⟨after, told ▸ run⟩

end NodeInventory
