import NodeInventory.Proofs.Discovery.PassOrder
import NodeInventory.Proofs.Network.HostPart
import NodeInventory.Proofs.Text.Numeral

/-!
# Captions that are written

A node that is to be renamed is given the short name of its caption, unless that is the caption, and
nothing else sets the caption of a node (`Connection.Shortens`).  The short name of a caption that
begins with a dot is empty, and it is written all the same; no other node gets an empty caption:
`captions_nonempty_iff`.
-/

namespace NodeInventory

open Exchange

variable {remote : Remote}

/-! ### Requests that set a caption -/

namespace Connection

/-- A request sets the caption of a node: it posts an object with that field to the node itself, not
to its custom properties. -/
structure SetsCaption (c : Connection) (v : Value) (r : Request) : Prop where
  posts : r.method = .post
  place : ∃ number, r.url = c.url (c.nodeUri number)
  field : ∃ fields, r.payload = some (.object fields) ∧ Fields.find? fields "Caption" = some v

variable (c : Connection) (number : Int)

theorem nodeUri_ne_properties (number' : Int) :
    c.nodeUri number' ≠ c.nodeUri number ++ "/CustomProperties" := by
  intro same
  have characters :
      (toString number').toList = (toString number).toList ++ "/CustomProperties".toList := by
    simpa [nodeUri, entityUri, Value.shown, Value.spelled] using congrArg String.toList same
  have slash : '/' ∈ (toString number').toList := by
    rw [characters]
    exact List.mem_append_right _ (by decide)
  exact (stamped_int number').not_mem (by decide) slash

theorem setsCaption_rename_iff {name v : Value} :
    c.SetsCaption v (c.renameRequest number name) ↔ v = name := by
  constructor
  · rintro ⟨-, -, _, ⟨⟩, found⟩
    exact (Option.some.inj found).symm
  · rintro rfl
    exact ⟨rfl, ⟨number, rfl⟩, _, rfl, rfl⟩

theorem not_setsCaption_read (v : Value) : ¬c.SetsCaption v (c.readRequest number) :=
  fun sets => Method.noConfusion sets.posts

theorem not_setsCaption_property (properties v : Value) :
    ¬c.SetsCaption v (c.propertyRequest number properties) := by
  rintro ⟨-, ⟨number', place⟩, -⟩
  exact c.nodeUri_ne_properties number number' (c.url_injective place).symm

theorem not_setsCaption_query (text : String) (parameters : Fields) (v : Value) :
    ¬c.SetsCaption v (c.queryRequest text parameters) := by
  rintro ⟨-, ⟨number, place⟩, -⟩
  refine c.nodeUri_append_ne_query number "" ?_
  rw [String.append_empty]
  exact (c.url_injective place).symm

theorem not_setsCaption_removal (i : Interface) (v : Value) : ¬c.SetsCaption v (c.removal i) :=
  fun sets => Method.noConfusion sets.posts

end Connection

/-! ### The caption that a visit sets -/

theorem shortNameOf_eq_ok {caption name : Value} (named : shortNameOf caption = .ok name) :
    (∃ s, caption = .text s ∧ name = .text (shortName s)) ∨
      name = caption ∧ ∀ s, caption ≠ .text s := by
  cases caption with
  | text s => exact .inl ⟨s, rfl, (Except.ok.inj named).symm⟩
  | bool b => exact .inr ⟨(Except.ok.inj named).symm, nofun⟩
  | int n =>
      unfold shortNameOf at named
      dsimp only at named
      split at named
      · exact .inr ⟨(Except.ok.inj named).symm, nofun⟩
      · cases named
  | _ => cases named

namespace Connection

variable (c : Connection) (remote : Remote) (options : ReconcileOptions) (before : List Request)
  (node : Entity)

/-- A node that is read after some requests has a text as its caption. -/
def Captioned (caption : String) : Prop :=
  ∃ number n, nodeNumber node.reference = .ok (some number) ∧
    c.reading number remote options before node = .ok n ∧ n.caption = .text caption

/-- Of what a visit sends, exactly one thing sets a caption if the node is to have another one: to
the short name of the one that it has.  Otherwise nothing does. -/
def Shortens (sent : List Request) : Prop :=
  ∀ v, (∃ r ∈ sent, c.SetsCaption v r) ↔
    ∃ caption, c.Captioned remote options before node caption ∧ shortName caption ≠ caption ∧
      v = .text (shortName caption)

/-- The caption of a node that is read after some requests does not begin with a dot. -/
def Undotted : Prop :=
  ∀ caption, c.Captioned remote options before node caption → caption.toList.head? ≠ some '.'

end Connection

section visit

variable {c : Connection} {options : ReconcileOptions} {before : List Request} {node : Entity}
  {number : Int} {n : Naming}

/-- What a visit sends once the node has been read: the request that renames it, if there is to be
one, and after that nothing that sets a caption. -/
theorem Readied.sets_no_other {lead sent : List Request} {prepared : Outcome PreparedNode}
    {outcome : Outcome NodeOutcome}
    (readied : Readied c remote options before node number prepared lead)
    (finishes : Finishes c remote options.patterns node prepared (before ++ lead) outcome sent) :
    (∃ fault, c.reading number remote options before node = .error fault ∧
        lead ++ sent = [c.readRequest number]) ∨
      ∃ n rest, c.reading number remote options before node = .ok n ∧
        lead ++ sent = c.untilNamed number n ++ rest ∧ ∀ r ∈ rest, ∀ v, ¬c.SetsCaption v r := by
  have dressing : ∀ r ∈ (c.propertyStep number options.customProperties).toList,
      ∀ v, ¬c.SetsCaption v r := by
    unfold Connection.propertyStep
    split
    · exact List.forall_mem_singleton.mpr (c.not_setsCaption_property number _)
    · exact List.forall_mem_nil _
  cases readied with
  | @unread fault failed =>
      obtain ⟨rfl, -⟩ := finishes
      exact .inl ⟨fault, failed, List.append_nil _⟩
  | @unnamed n _ read _ =>
      obtain ⟨rfl, -⟩ := finishes
      exact .inr ⟨n, [], read, rfl, List.forall_mem_nil _⟩
  | @inadmissible n _ named _ =>
      obtain ⟨rfl, -⟩ := finishes
      exact .inr ⟨n, [], named.read, rfl, List.forall_mem_nil _⟩
  | @undressed n _ named _ _ =>
      obtain ⟨rfl, -⟩ := finishes
      exact .inr ⟨n, _, named.read, List.append_nil _, dressing⟩
  | @asked n dressed =>
      refine .inr ⟨n, _ ++ c.interfaceRequest number :: sent, dressed.read, ?_,
        List.forall_mem_append.mpr ⟨dressing, List.forall_mem_cons.mpr
          ⟨c.not_setsCaption_query _ _, fun r member => ?_⟩⟩⟩
      · rw [Connection.untilDressed, List.append_assoc, List.append_assoc]
        rfl
      · obtain ⟨i, rfl⟩ := finishes.deletes r member
        exact c.not_setsCaption_removal i

theorem untilNamed_sets_iff (v : Value) :
    (∃ r ∈ c.untilNamed number n, c.SetsCaption v r) ↔
      n.name.shown ≠ n.caption.shown ∧ v = n.name := by
  unfold Connection.untilNamed Connection.renameStep
  by_cases same : n.name.shown = n.caption.shown
  · rw [if_pos (beq_iff_eq.mpr same)]
    refine iff_of_false ?_ fun other => other.1 same
    rintro ⟨r, member, sets⟩
    obtain rfl := List.mem_singleton.mp member
    exact c.not_setsCaption_read number v sets
  · rw [if_neg (mt beq_iff_eq.mp same), and_iff_right same]
    constructor
    · rintro ⟨r, member, sets⟩
      rcases List.mem_cons.mp member with rfl | member
      · exact absurd sets (c.not_setsCaption_read number v)
      · obtain rfl := List.mem_singleton.mp member
        exact (c.setsCaption_rename_iff number).mp sets
    · rintro rfl
      exact ⟨_, List.mem_cons_of_mem _ (List.mem_singleton_self _),
        (c.setsCaption_rename_iff number).mpr rfl⟩

/-- The caption of a node that is read is the one that it was read with. -/
theorem captioned_iff (referred : nodeNumber node.reference = .ok (some number))
    (read : c.reading number remote options before node = .ok n) {caption : String} :
    c.Captioned remote options before node caption ↔ n.caption = .text caption := by
  constructor
  · rintro ⟨number', n', referred', read', text⟩
    obtain rfl := Option.some.inj (Except.ok.inj (referred.symm.trans referred'))
    obtain rfl := Except.ok.inj (read.symm.trans read')
    exact text
  · intro text
    exact ⟨number, n, referred, read, text⟩

theorem untilNamed_sets_short_iff (named : shortNameOf n.caption = .ok n.name) (v : Value) :
    (∃ r ∈ c.untilNamed number n, c.SetsCaption v r) ↔
      ∃ caption, n.caption = .text caption ∧ shortName caption ≠ caption ∧
        v = .text (shortName caption) := by
  rw [untilNamed_sets_iff]
  rcases shortNameOf_eq_ok named with ⟨s, text, short⟩ | ⟨same, other⟩
  · rw [short, text]
    constructor
    · rintro ⟨differs, rfl⟩
      exact ⟨s, rfl, differs, rfl⟩
    · rintro ⟨caption, same, differs, rfl⟩
      obtain rfl := Value.text.inj same
      exact ⟨differs, rfl⟩
  · refine iff_of_false ?_ ?_
    · rintro ⟨differs, -⟩
      exact differs (congrArg Value.shown same)
    · rintro ⟨caption, text, -⟩
      exact other caption text

theorem sets_append_iff {lead rest : List Request} {v : Value}
    (quiet : ∀ r ∈ rest, ¬c.SetsCaption v r) :
    (∃ r ∈ lead ++ rest, c.SetsCaption v r) ↔ ∃ r ∈ lead, c.SetsCaption v r := by
  constructor
  · rintro ⟨r, member, sets⟩
    rcases List.mem_append.mp member with early | late
    · exact ⟨r, early, sets⟩
    · exact absurd sets (quiet r late)
  · rintro ⟨r, early, sets⟩
    exact ⟨r, List.mem_append_left _ early, sets⟩

theorem Readied.shortens {lead sent : List Request} {prepared : Outcome PreparedNode}
    {outcome : Outcome NodeOutcome} (renames : options.rename = true)
    (referred : nodeNumber node.reference = .ok (some number))
    (readied : Readied c remote options before node number prepared lead)
    (finishes : Finishes c remote options.patterns node prepared (before ++ lead) outcome sent) :
    c.Shortens remote options before node (lead ++ sent) := by
  intro v
  rcases readied.sets_no_other finishes with ⟨fault, failed, all⟩ | ⟨n, rest, read, all, quiet⟩
  · rw [all]
    refine iff_of_false ?_ ?_
    · rintro ⟨r, member, sets⟩
      obtain rfl := List.mem_singleton.mp member
      exact c.not_setsCaption_read number v sets
    · rintro ⟨caption, ⟨number', n, referred', read, -⟩, -, -⟩
      obtain rfl := Option.some.inj (Except.ok.inj (referred.symm.trans referred'))
      cases failed.symm.trans read
  · have named := reading_name read
    rw [renames, nameFor, if_pos rfl] at named
    rw [all, sets_append_iff fun r member => quiet r member v, untilNamed_sets_short_iff named]
    simp only [captioned_iff referred read]

theorem reconcileNode_shortens (c : Connection) (node : Entity) (renames : options.rename = true) :
    (reconcileNode c options node).Sends remote fun before _ added =>
      c.Shortens remote options before node added := by
  by_cases named : ∃ number, nodeNumber node.reference = .ok (some number)
  · obtain ⟨number, referred⟩ := named
    refine (reconcileNode_readied options referred).mono ?_
    rintro before outcome _ ⟨prepared, lead, sent, rfl, ⟨readied, -⟩, finishes⟩
    exact readied.shortens renames referred finishes
  · have nameless (number : Int) : nodeNumber node.reference ≠ .ok (some number) :=
      fun found => named ⟨number, found⟩
    refine (reconcileNode_nameless c options nameless).mono ?_
    rintro before _ _ ⟨fault, -, rfl⟩ v
    refine iff_of_false ?_ ?_
    · rintro ⟨r, member, -⟩
      cases member
    · rintro ⟨caption, ⟨number, n, referred, -⟩, -⟩
      exact nameless number referred

/-- A visit that sets captions as it should sets none to an empty text exactly if the caption of the
node does not begin with a dot. -/
theorem Connection.Shortens.nonempty_iff {sent : List Request}
    (h : c.Shortens remote options before node sent) :
    (∀ r ∈ sent, ∀ v, c.SetsCaption v r → ∃ s, v = .text s ∧ s ≠ "") ↔
      c.Undotted remote options before node := by
  constructor
  · intro filled caption captioned dot
    have empty : shortName caption = "" := shortName_eq_empty_iff.mpr (.inr dot)
    have differs : shortName caption ≠ caption := by
      rw [empty]
      rintro rfl
      cases dot
    obtain ⟨r, member, sets⟩ := (h _).mpr ⟨caption, captioned, differs, rfl⟩
    obtain ⟨s, same, some_⟩ := filled r member _ sets
    exact some_ ((Value.text.inj same).symm.trans empty)
  · intro undotted r member v sets
    obtain ⟨caption, captioned, differs, rfl⟩ := (h v).mp ⟨r, member, sets⟩
    refine ⟨_, rfl, fun empty => ?_⟩
    rcases shortName_eq_empty_iff.mp empty with rfl | dot
    · exact differs empty
    · exact undotted caption captioned dot

end visit

/-! ### The captions that a run sets -/

/-- If a request of each visit is a `p` exactly if something is true of the visit, then all requests
of a tour are exactly if it is true of all visits. -/
theorem Tour.forall_sent_iff {visited visited' : List Request → Entity → Visit → Prop}
    {p : Request → Prop} (each : ∀ {before : List Request} {node : Entity} {v : Visit},
      visited before node v → ((∀ r ∈ v.sent, p r) ↔ visited' before node v))
    {before : List Request} {nodes : List Entity} {visits : List Visit}
    (tour : Tour visited before nodes visits) :
    (∀ r ∈ visits.flatMap Visit.sent, p r) ↔ Tour visited' before nodes visits := by
  induction tour with
  | done before => exact iff_of_true (List.forall_mem_nil _) (.done before)
  | visit first _ ih =>
      rw [List.flatMap_cons, List.forall_mem_append, each first, ih]
      constructor
      · rintro ⟨now, later⟩
        exact .visit now later
      · rintro (_ | ⟨now, later⟩)
        exact ⟨now, later⟩

namespace Connection

variable (c : Connection)

/-- What asks for the batch of a discovery that has finished; nothing does for any other. -/
def batchRequests : Option DiscoveryLog → List Request
  | some l => if l.result = .finished then [c.itemRequest l.batch] else []
  | none => []

/-- The nodes of the batch of a discovery, as they are listed after some requests; none if the
discovery has not finished, or if its batch cannot be read. -/
def batchNodes (remote : Remote) (before : List Request) : Option DiscoveryLog → List Entity
  | some l =>
      if l.result = .finished then
        match c.queried remote before itemQuery [("batchId", l.batch)] >>= entitiesOf with
        | .ok entities => entities.filter (·.isNode)
        | .error _ => []
      else []
  | none => []

end Connection

theorem reconcile_tours {c : Connection} {options : ReconcileOptions}
    (visited : List Request → Entity → Visit → Prop)
    (each : ∀ node, (reconcileNode c options node).Sends remote fun before outcome added =>
      ∃ o, outcome = .ok o ∧ visited before node ⟨added, o⟩)
    (job : Value) (status : Status) (log : Option DiscoveryLog) :
    (reconcile c job status log options).Sends remote fun before _ added =>
      ∃ visits : List Visit, added = c.batchRequests log ++ visits.flatMap Visit.sent ∧
        Tour visited (before ++ c.batchRequests log) (c.batchNodes remote before log) visits := by
  cases log with
  | none =>
      refine (sends_pure _).mono ?_
      rintro before _ _ rfl
      exact ⟨[], rfl, .done _⟩
  | some l =>
      by_cases finished : l.result = .finished
      · simp only [Connection.batchRequests, Connection.batchNodes, if_pos finished]
        refine (reconcile_batch each job status finished).mono ?_
        rintro before _ _ (⟨fault, failed, -, rfl⟩ | ⟨entities, visits, read, tour, -, rfl⟩)
        · rw [failed]
          exact ⟨[], rfl, .done _⟩
        · rw [read]
          exact ⟨visits, rfl, tour⟩
      · simp only [Connection.batchRequests, Connection.batchNodes, if_neg finished]
        unfold reconcile
        dsimp only
        rw [if_neg finished]
        refine (sends_pure _).mono ?_
        rintro before _ _ rfl
        exact ⟨[], rfl, .done _⟩

/-- A run that renames sets, in the visit of each node, the short name of its caption and no other
one, and all captions that it sets are texts that are not empty, exactly if the caption of no node
begins with a dot when the node is read. -/
theorem captions_nonempty_iff (c : Connection) (remote : Remote) (options : ReconcileOptions)
    (job : Value) (status : Status) (log : Option DiscoveryLog) (trace : Trace)
    (renames : options.rename = true) :
    ∃ sent visits, (reconcile c job status log options remote trace).2.sent = trace.sent ++ sent ∧
      sent = c.batchRequests log ++ visits.flatMap Visit.sent ∧
      Tour (fun before node v => c.Shortens remote options before node v.sent)
        (trace.sent ++ c.batchRequests log) (c.batchNodes remote trace.sent log) visits ∧
      ((∀ r ∈ sent, ∀ v, c.SetsCaption v r → ∃ s, v = .text s ∧ s ≠ "") ↔
        Tour (fun before node _ => c.Undotted remote options before node)
          (trace.sent ++ c.batchRequests log) (c.batchNodes remote trace.sent log) visits) := by
  have each (node : Entity) : (reconcileNode c options node).Sends remote
      fun before outcome added => ∃ o, outcome = .ok o ∧
        c.Shortens remote options before node added := by
    refine ((reconcileNode_visited c options node).and
      (reconcileNode_shortens c node renames)).mono ?_
    rintro before outcome added ⟨⟨o, ended, -⟩, shortens⟩
    exact ⟨o, ended, shortens⟩
  obtain ⟨_, sent, visits, rfl, tour⟩ := reconcile_tours
    (fun before node v => c.Shortens remote options before node v.sent) each job status log trace
  refine ⟨_, visits, sent, rfl, tour, ?_⟩
  have asks : ∀ r ∈ c.batchRequests log, ∀ v, c.SetsCaption v r → ∃ s, v = .text s ∧ s ≠ "" := by
    unfold Connection.batchRequests
    split
    · split
      · exact List.forall_mem_singleton.mpr fun v sets =>
          absurd sets (c.not_setsCaption_query _ _ v)
      · exact List.forall_mem_nil _
    · exact List.forall_mem_nil _
  rw [List.forall_mem_append, and_iff_right asks]
  exact tour.forall_sent_iff fun shortens => shortens.nonempty_iff

/-! ### A caption that begins with a dot -/

/-- The text that a request would set a caption to. -/
def Request.captionText? (r : Request) : Option String :=
  match r.payload.bind Value.fields? with
  | some fields =>
      match Fields.find? fields "Caption" with
      | some (.text s) => some s
      | _ => none
  | none => none

theorem setsCaption_of_text {c : Connection} {number : Int} {r : Request} {s : String}
    (posts : r.method = .post) (place : r.url = c.url (c.nodeUri number))
    (text : r.captionText? = some s) : c.SetsCaption (.text s) r := by
  refine ⟨posts, ⟨number, place⟩, ?_⟩
  unfold Request.captionText? at text
  split at text
  case h_2 => cases text
  case h_1 fields given =>
    obtain ⟨payload, sent, object⟩ := Option.bind_eq_some_iff.mp given
    split at text
    case h_2 => cases text
    case h_1 found =>
      obtain rfl := Option.some.inj text
      cases payload with
      | object =>
          obtain rfl := Option.some.inj object
          exact ⟨_, sent, found⟩
      | _ => cases object

/-- A finished discovery. -/
def finishedLog : DiscoveryLog := { result := .finished, batch := .text "b" }

/-- Answers about a batch of one node, whose caption begins with a dot. -/
def dottedServer : Remote :=
  .answering
    ["\x7b\"results\": [\x7b\"EntityType\": \"Orion.Nodes\", \"NetObjectID\": \"N:7\"\x7d]\x7d",
      "\x7b\"Caption\": \".lab.test\"\x7d", "", emptyAnswer]

/-- The reconciliation of that batch, with short names. -/
def dottedRun : Outcome Report × Trace :=
  reconcile sampleConnection (.text "42") .finished (some finishedLog) { rename := true }
    dottedServer {}

theorem dottedRun_sets_empty :
    ∃ r ∈ dottedRun.2.sent, sampleConnection.SetsCaption (.text "") r := by
  have third : dottedRun.2.sent[2]?.map (fun r => (r.method, r.url, r.captionText?)) =
      some (.post, sampleConnection.url (sampleConnection.nodeUri 7), some "") := by
    decide +kernel
  obtain ⟨r, sent, same⟩ := Option.map_eq_some_iff.mp third
  obtain ⟨posts, other⟩ := Prod.ext_iff.mp same
  obtain ⟨place, text⟩ := Prod.ext_iff.mp other
  exact ⟨r, List.mem_of_getElem? sent, setsCaption_of_text posts place text⟩

/-- A run that renames sets a caption to an empty text. -/
theorem dotted_caption_emptied : ¬∀ r ∈ dottedRun.2.sent, ∀ v,
    sampleConnection.SetsCaption v r → ∃ s, v = .text s ∧ s ≠ "" := by
  obtain ⟨r, sent, sets⟩ := dottedRun_sets_empty
  intro filled
  obtain ⟨s, same, some_⟩ := filled r sent _ sets
  exact some_ (Value.text.inj same).symm

/-- So the caption of one of its nodes begins with a dot. -/
theorem captions_nonempty_iff_dotted : ∃ visits : List Visit,
    dottedRun.2.sent =
      sampleConnection.batchRequests (some finishedLog) ++ visits.flatMap Visit.sent ∧
    ¬Tour (fun before node _ =>
        sampleConnection.Undotted dottedServer { rename := true } before node)
      (sampleConnection.batchRequests (some finishedLog))
      (sampleConnection.batchNodes dottedServer [] (some finishedLog)) visits := by
  obtain ⟨sent, visits, all, parts, -, filled⟩ := captions_nonempty_iff sampleConnection
    dottedServer { rename := true } (.text "42") .finished (some finishedLog) {} rfl
  have whole : dottedRun.2.sent = sent := all
  refine ⟨visits, whole.trans parts, fun undotted => ?_⟩
  obtain ⟨r, member, sets⟩ := dottedRun_sets_empty
  obtain ⟨s, same, some_⟩ := filled.mpr undotted r (whole ▸ member) _ sets
  exact some_ (Value.text.inj same).symm

end NodeInventory
