import NodeInventory.Proofs.Discovery.Batch
import NodeInventory.Proofs.Discovery.Readying

/-!
# The custom properties of a node

The custom properties of a node are handed over as named arguments.  A key that is the name of an
argument which setting properties takes anyway cannot be handed over: with such a key nothing is
set, and the node fails (`clashing`).  All other custom properties reach the server in one request,
as they are: `custom_properties_sent_iff`.
-/

namespace NodeInventory

open Exchange

variable {remote : Remote}

/-- The first key of some properties that is the name of an argument of setting properties. -/
def clashing (properties : Fields) : Option String :=
  (List.find? (fun entry => ["self", "uri"].contains entry.1) properties).map Prod.fst

theorem refuse_eq (properties : Fields) :
    Connection.refuse "SwisClient.update()" ["self", "uri"] properties =
      match clashing properties with
      | some name => .error (.duplicateArgument "SwisClient.update()" name)
      | none => .ok () := by
  unfold Connection.refuse clashing
  cases List.find? (fun entry => ["self", "uri"].contains entry.1) properties <;> rfl

theorem clashing_eq_none {properties : Fields} :
    clashing properties = none ↔
      "self" ∉ properties.map Prod.fst ∧ "uri" ∉ properties.map Prod.fst := by
  unfold clashing
  rw [Option.map_eq_none_iff, List.find?_eq_none]
  constructor
  · intro free
    refine ⟨fun member => ?_, fun member => ?_⟩
    all_goals
      obtain ⟨entry, given, named⟩ := List.mem_map.mp member
      exact free entry given (by rw [named]; decide)
  · rintro ⟨free, free'⟩ entry given clash
    rcases List.mem_cons.mp (List.contains_iff_mem.mp clash) with same | same
    · exact free (same ▸ List.mem_map_of_mem given)
    · exact free' (List.mem_singleton.mp same ▸ List.mem_map_of_mem given)

theorem truthy_object {fields : Fields} (some_ : fields ≠ []) :
    (Value.object fields).truthy = true := by
  cases fields with
  | nil => exact absurd rfl some_
  | cons => rfl

theorem admissible_object {fields : Fields} (some_ : fields ≠ []) :
    admissible (.object fields) = match clashing fields with
      | some name => .error (.duplicateArgument "SwisClient.update()" name)
      | none => .ok () := by
  rw [admissible, if_pos (truthy_object some_)]
  exact refuse_eq fields

theorem untilDressed_object (c : Connection) (number : Int) (n : Naming) {fields : Fields}
    (some_ : fields ≠ []) : c.untilDressed number n (.object fields) =
      c.untilNamed number n ++ [c.propertyRequest number (.object fields)] := by
  rw [Connection.untilDressed, Connection.propertyStep, if_pos (truthy_object some_)]
  rfl

/-- What is sent for a node once it has its name, and what the node then adds to the report, when
its custom properties are some fields. -/
structure SetsProperties (c : Connection) (node : Entity) (number : Int) (fields : Fields)
    (rest : List Request) (o : NodeOutcome) : Prop where
  /-- The next request sets the properties as they are, exactly if no key clashes. -/
  next : rest.head? = some (c.propertyRequest number (.object fields)) ↔
    "self" ∉ fields.map Prod.fst ∧ "uri" ∉ fields.map Prod.fst
  /-- No other request sets them. -/
  once : ∀ r ∈ rest.tail, r.method = .post →
    r.url ≠ c.url (c.nodeUri number ++ "/CustomProperties")
  /-- A key that clashes is the end of the pass. -/
  refused : ∀ name, clashing fields = some name →
    rest = [] ∧ o = ⟨none, [node.failure (.duplicateArgument "SwisClient.update()" name)]⟩

section pass

variable {c : Connection} {options : ReconcileOptions} {node : Entity} {number : Int} {n : Naming}
  {fields : Fields} {before : List Request}

theorem SetsProperties.of_free {more : List Request} (free : clashing fields = none)
    (quiet : ∀ r ∈ more, r.method = .post → r.url ≠ c.url (c.nodeUri number ++ "/CustomProperties"))
    (o : NodeOutcome) :
    SetsProperties c node number fields (c.propertyRequest number (.object fields) :: more) o where
  next := iff_of_true rfl (clashing_eq_none.mp free)
  once := quiet
  refused := by
    rintro name clash
    rw [free] at clash
    cases clash

/-- With a key that clashes the node fails at once, as it should. -/
theorem SetsProperties.of_clash {name : String} (clash : clashing fields = some name) :
    SetsProperties c node number fields []
      ⟨none, [node.failure (.duplicateArgument "SwisClient.update()" name)]⟩ where
  next := by
    rw [← clashing_eq_none, clash]
    exact iff_of_false nofun nofun
  once := nofun
  refused := by
    rintro name' clash'
    obtain rfl := Option.some.inj (clash.symm.trans clash')
    exact ⟨rfl, rfl⟩

theorem Finishes.quiet {sent : List Request} {prepared : Outcome PreparedNode}
    {outcome : Outcome NodeOutcome}
    (h : Finishes c remote options.patterns node prepared before outcome sent) (number : Int) :
    (∃ o, outcome = .ok o) ∧ ∀ r ∈ c.interfaceRequest number :: sent, r.method = .post →
      r.url ≠ c.url (c.nodeUri number ++ "/CustomProperties") := by
  have query : (c.interfaceRequest number).url ≠ c.url (c.nodeUri number ++ "/CustomProperties") :=
    fun same => c.nodeUri_append_ne_query number _ (c.url_injective same.symm)
  cases prepared with
  | error fault =>
      obtain ⟨rfl, rfl⟩ := h
      exact ⟨⟨_, rfl⟩, List.forall_mem_cons.mpr ⟨fun _ => query, nofun⟩⟩
  | ok p =>
      obtain ⟨address, fates, rest, stop, -, pruned, -, rfl⟩ := h
      refine ⟨⟨_, rfl⟩, List.forall_mem_cons.mpr ⟨fun _ => query, fun r member posts => ?_⟩⟩
      obtain ⟨i, rfl⟩ := pruned.deletes r member
      exact Method.noConfusion posts

/-- A node that has its name goes on with its custom properties. -/
theorem Named.setsProperties {lead sent : List Request} {prepared : Outcome PreparedNode}
    {outcome : Outcome NodeOutcome} (named : Named c remote options before node number n)
    (given : options.customProperties = .object fields) (some_ : fields ≠ [])
    (readied : Readied c remote options before node number prepared lead)
    (finishes : Finishes c remote options.patterns node prepared (before ++ lead) outcome sent) :
    ∃ rest o, outcome = .ok o ∧ lead ++ sent = c.untilNamed number n ++ rest ∧
      SetsProperties c node number fields rest o := by
  have unique {n' : Naming} (read : c.reading number remote options before node = .ok n') :
      n' = n := Except.ok.inj (read.symm.trans named.read)
  have admits := admissible_object some_
  have dressing := untilDressed_object c number n some_
  rw [← given] at admits dressing
  have free (admitted : admissible options.customProperties = .ok ()) : clashing fields = none := by
    cases clash : clashing fields with
    | none => rfl
    | some name =>
        rw [clash] at admits
        cases admits.symm.trans admitted
  cases readied with
  | unread failed => cases failed.symm.trans named.read
  | unnamed read failed =>
      obtain rfl := unique read
      cases failed.symm.trans named.renamed
  | inadmissible named' refused =>
      obtain rfl := unique named'.read
      obtain ⟨rfl, rfl⟩ := finishes
      cases clash : clashing fields with
      | none =>
          rw [clash] at admits
          cases admits.symm.trans refused
      | some name =>
          rw [clash] at admits
          obtain rfl := Except.error.inj (admits.symm.trans refused)
          exact ⟨[], _, rfl, rfl, .of_clash clash⟩
  | undressed named' admitted failed =>
      obtain rfl := unique named'.read
      obtain ⟨rfl, rfl⟩ := finishes
      refine ⟨[_], _, rfl, ?_, .of_free (free admitted) (List.forall_mem_nil _) _⟩
      rw [dressing, given, List.append_nil]
  | asked dressed =>
      obtain rfl := unique dressed.read
      obtain ⟨⟨o, rfl⟩, quiet⟩ := finishes.quiet number
      refine ⟨_ :: c.interfaceRequest number :: sent, o, rfl, ?_,
        .of_free (free dressed.admitted) quiet o⟩
      rw [dressing, given]
      simp

/-- What setting some properties sends: one request with all of them, or nothing. -/
def Connection.settings (c : Connection) (uri : String) (properties : Fields) : List Request :=
  if clashing properties = none then [⟨.post, c.url uri, some (.object properties)⟩] else []

theorem update_sends_settings (c : Connection) (uri : String) (properties : Fields) :
    (c.update uri properties).Sends remote fun _ _ added => added = c.settings uri properties := by
  refine (c.update_sends uri properties).mono ?_
  unfold Connection.settings
  rintro before _ _ (⟨fault, refused, -, rfl⟩ | ⟨accepted, rfl, -⟩)
  · rw [refuse_eq] at refused
    split at refused
    case h_1 clash => rw [if_neg (by rw [clash]; exact nofun)]
    case h_2 => cases refused
  · rw [refuse_eq] at accepted
    split at accepted
    case h_1 => cases accepted
    case h_2 free => rw [if_pos free]

/-- A node that has been read and has its name goes on with its custom properties, if it is to have
any: they are sent as they are, in one request, exactly if no key of theirs is the name of an
argument of setting properties, and otherwise the node fails without sending anything more.  The
same holds of setting any properties of anything. -/
theorem custom_properties_sent_iff {trace : Trace}
    (referred : nodeNumber node.reference = .ok (some number))
    (named : Named c remote options trace.sent node number n)
    (given : options.customProperties = .object fields) (some_ : fields ≠ []) :
    (∃ rest o, (reconcileNode c options node remote trace).1 = .ok o ∧
      (reconcileNode c options node remote trace).2.sent =
        trace.sent ++ (c.untilNamed number n ++ rest) ∧
      SetsProperties c node number fields rest o) ∧
    ∀ (uri : String) (properties : Fields) (trace : Trace),
      (c.update uri properties remote trace).2.sent = trace.sent ++ c.settings uri properties ∧
      (c.settings uri properties = [⟨.post, c.url uri, some (.object properties)⟩] ↔
        "self" ∉ properties.map Prod.fst ∧ "uri" ∉ properties.map Prod.fst) := by
  constructor
  · obtain ⟨_, sent, prepared, lead, later, rfl, ⟨readied, -⟩, finishes⟩ :=
      reconcileNode_readied (c := c) options referred trace
    obtain ⟨rest, o, ended, same, sets⟩ := named.setsProperties given some_ readied finishes
    exact ⟨rest, o, ended, by rw [sent, same], sets⟩
  · intro uri properties trace
    obtain ⟨added, sent, rfl⟩ := update_sends_settings c uri properties trace
    refine ⟨sent, ?_⟩
    rw [← clashing_eq_none, Connection.settings]
    by_cases free : clashing properties = none
    · rw [if_pos free]
      exact iff_of_true rfl free
    · rw [if_neg free]
      exact iff_of_false nofun free

end pass

/-! ### A node with one custom property -/

/-- A node that is referred to by a number. -/
def dottedNode : Entity := ⟨true, .text "core.lab.test", .text "N:7"⟩

/-- Gives a node its short name and one custom property. -/
def cityOptions (key : String) : ReconcileOptions where
  rename := true
  customProperties := .object [(key, .text "Vienna")]

/-- Reads the node, takes its name and its custom property, and has no interfaces of it. -/
def obligingServer : Remote :=
  .answering ["\x7b\"Caption\": \"core.lab.test\"\x7d", "", "", emptyAnswer]

theorem dottedNode_named : ∀ key ∈ ["City", "uri"], ∃ n,
    Named sampleConnection obligingServer (cityOptions key) [] dottedNode 7 n := by
  have taken : ∀ key ∈ ["City", "uri"],
      (sampleConnection.reading 7 obligingServer (cityOptions key) [] dottedNode >>= fun n =>
        obligingServer.takes [sampleConnection.readRequest 7]
          (sampleConnection.renameStep 7 n)).isOk = true := by
    decide +kernel
  intro key member
  cases ended : sampleConnection.reading 7 obligingServer (cityOptions key) [] dottedNode >>=
      fun n => obligingServer.takes [sampleConnection.readRequest 7]
        (sampleConnection.renameStep 7 n) with
  | error fault =>
      have failed := taken key member
      rw [ended] at failed
      cases failed
  | ok _ =>
      obtain ⟨n, read, renamed⟩ := Outcome.bind_eq_ok.mp ended
      exact ⟨n, read, renamed⟩

/-- A custom property that is called like an argument is not sent, although the node has been read
and has its name. -/
theorem clashing_property_unsent :
    (∃ n, Named sampleConnection obligingServer (cityOptions "uri") [] dottedNode 7 n) ∧
    (∀ r ∈ (reconcileNode sampleConnection (cityOptions "uri") dottedNode obligingServer {}).2.sent,
      r.url ≠ sampleConnection.url (sampleConnection.nodeUri 7 ++ "/CustomProperties")) ∧
    (sampleConnection.update "swis://orion.test/node" [("uri", .text "Vienna")] obligingServer
      {}).2.sent.length = 0 := by
  have unsent : ((reconcileNode sampleConnection (cityOptions "uri") dottedNode obligingServer
      {}).2.sent.map Request.url).contains
        (sampleConnection.url (sampleConnection.nodeUri 7 ++ "/CustomProperties")) = false := by
    decide +kernel
  refine ⟨dottedNode_named "uri" (by decide), fun r sent same => ?_, by decide +kernel⟩
  refine Bool.false_ne_true (unsent.symm.trans (List.contains_iff_mem.mpr ?_))
  exact same ▸ List.mem_map_of_mem sent

/-- A custom property that is called otherwise is sent. -/
theorem custom_properties_sent_iff_city : ∃ n rest o,
    Named sampleConnection obligingServer (cityOptions "City") [] dottedNode 7 n ∧
    (reconcileNode sampleConnection (cityOptions "City") dottedNode obligingServer {}).1 = .ok o ∧
    (reconcileNode sampleConnection (cityOptions "City") dottedNode obligingServer {}).2.sent =
      sampleConnection.untilNamed 7 n ++ rest ∧
    rest.head? = some (sampleConnection.propertyRequest 7 (.object [("City", .text "Vienna")])) := by
  obtain ⟨n, named⟩ := dottedNode_named "City" List.mem_cons_self
  have begun : Named sampleConnection obligingServer (cityOptions "City") ({} : Trace).sent
      dottedNode 7 n := named
  have referred : nodeNumber dottedNode.reference = .ok (some 7) :=
    Outcome.eq_ok_of_toOption (by decide +kernel)
  obtain ⟨⟨rest, o, ended, sent, sets⟩, -⟩ :=
    custom_properties_sent_iff referred begun rfl (List.cons_ne_nil _ _)
  exact ⟨n, rest, o, named, ended, sent, sets.next.mpr ⟨by decide, by decide⟩⟩

end NodeInventory
