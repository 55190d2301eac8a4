import NodeInventory.Proofs.Discovery.Requests

/-!
# Getting a node ready, step by step

A node is read, renamed, given its custom properties, and asked for its interfaces.  The second and
the third step may be left out, and each step is taken only when the ones before it have ended well.
`Readied` lists the ways in which this can go after some requests, one for each step that can be the
first to fail, and `prepareNode_readied` says that there are no others.  What else is said of getting
a node ready is read off this list.
-/

namespace NodeInventory

open Exchange

variable {remote : Remote}

/-! ### The steps -/

/-- What is known of a node once it is read: its record, its caption, and the name that it is to
have. -/
structure Naming where
  record : Value
  caption : Value
  name : Value

/-- The name for a node: its caption, unless short names are asked for. -/
def nameFor (rename : Bool) (caption : Value) : Outcome Value :=
  if rename then shortNameOf caption else .ok caption

/-- What the record of a node tells of it.  The name that the discovery has given the node stands in
for an empty caption. -/
def namingIn (options : ReconcileOptions) (node : Entity) (record : Value) : Outcome Naming := do
  let caption := (← record.get "Caption").orElse node.displayName
  pure ⟨record, caption, ← nameFor options.rename caption⟩

/-- What the server makes of a step after some requests; one that is left out ends well. -/
def Remote.takes (remote : Remote) (before : List Request) (step : Option Request) : Outcome Unit :=
  step.elim (.ok ()) fun r =>
    r.outcomeOf (remote.reply (before ++ [r])).answer >>= fun _ => .ok ()

namespace Connection

variable (c : Connection) (number : Int)

/-- The name of a node. -/
def nodeUri : String := c.entityUri nodeEntity [("NodeID", .int number)]

theorem nodeUri_append_ne_query (rest : String) : c.nodeUri number ++ rest ≠ "Query" := by
  intro same
  have characters := congrArg String.toList same
  simp [nodeUri, entityUri] at characters

/-- The request that reads a node. -/
def readRequest : Request := ⟨.get, c.url (c.nodeUri number), none⟩

/-- The request that gives a node a name. -/
def renameRequest (name : Value) : Request :=
  ⟨.post, c.url (c.nodeUri number), some (.object [("Caption", name)])⟩

/-- The request that sets the custom properties of a node. -/
def propertyRequest (properties : Value) : Request :=
  ⟨.post, c.url (c.nodeUri number ++ "/CustomProperties"), some properties⟩

/-- A node is given a name if it does not have it yet. -/
def renameStep (n : Naming) : Option Request :=
  if n.name.shown == n.caption.shown then none else some (c.renameRequest number n.name)

/-- The custom properties of a node are set if there are any. -/
def propertyStep (properties : Value) : Option Request :=
  if properties.truthy then some (c.propertyRequest number properties) else none

/-- What is sent until a node has its name. -/
def untilNamed (n : Naming) : List Request := c.readRequest number :: (c.renameStep number n).toList

/-- What is sent until a node has its custom properties. -/
def untilDressed (n : Naming) (properties : Value) : List Request :=
  c.untilNamed number n ++ (c.propertyStep number properties).toList

/-- What is known of a node that is read after some requests. -/
def reading (remote : Remote) (options : ReconcileOptions) (before : List Request)
    (node : Entity) : Outcome Naming :=
  c.outcomeOf (c.nodeUri number) (remote.reply (before ++ [c.readRequest number])).answer >>=
    namingIn options node

/-- The interfaces of a node that is asked for them after some requests. -/
def listing (remote : Remote) (before : List Request) : Outcome (List Interface) :=
  c.queried remote before interfaceQuery [("nodeId", .int number)] >>= interfacesOf

end Connection

/-- Custom properties can be set if there are none, or if they are an object none of whose keys is
the name of an argument that setting properties has anyway. -/
def admissible (properties : Value) : Outcome Unit :=
  if properties.truthy then
    match properties.fields? with
    | some fields => Connection.refuse "SwisClient.update()" ["self", "uri"] fields
    | none => .error (.notMapping "swis.client.SwisClient.update()" properties.kind)
  else .ok ()

section steps

variable (c : Connection) (remote : Remote) (options : ReconcileOptions) (before : List Request)
  (node : Entity) (number : Int)

/-- A node has been read after some requests, and it has its name. -/
structure Named (n : Naming) : Prop where
  read : c.reading number remote options before node = .ok n
  renamed : remote.takes (before ++ [c.readRequest number]) (c.renameStep number n) = .ok ()

/-- It also has its custom properties. -/
structure Dressed (n : Naming) : Prop extends Named c remote options before node number n where
  admitted : admissible options.customProperties = .ok ()
  customised : remote.takes (before ++ c.untilNamed number n)
    (c.propertyStep number options.customProperties) = .ok ()

/-- The ways in which getting a node ready can go after some requests: one for each step that can be
the first to fail, and one that ends with the answer to the question for its interfaces. -/
inductive Readied : Outcome PreparedNode → List Request → Prop
  | unread {fault : Fault} : c.reading number remote options before node = .error fault →
      Readied (.error fault) [c.readRequest number]
  | unnamed {n : Naming} {fault : Fault} : c.reading number remote options before node = .ok n →
      remote.takes (before ++ [c.readRequest number]) (c.renameStep number n) = .error fault →
      Readied (.error fault) (c.untilNamed number n)
  | inadmissible {n : Naming} {fault : Fault} : Named c remote options before node number n →
      admissible options.customProperties = .error fault →
      Readied (.error fault) (c.untilNamed number n)
  | undressed {n : Naming} {fault : Fault} : Named c remote options before node number n →
      admissible options.customProperties = .ok () →
      remote.takes (before ++ c.untilNamed number n) (c.propertyStep number options.customProperties) =
        .error fault →
      Readied (.error fault) (c.untilDressed number n options.customProperties)
  | asked {n : Naming} : Dressed c remote options before node number n →
      Readied
        (c.listing number remote (before ++ c.untilDressed number n options.customProperties) >>=
          fun interfaces => .ok ⟨n.name, number, n.record, c.nodeUri number, interfaces⟩)
        (c.untilDressed number n options.customProperties ++ [c.interfaceRequest number])

end steps

/-! ### Each step by what it sends -/

theorem get_eq_ok {v found : Value} {key : String} (h : v.get key = .ok found) :
    ∃ fields, v = .object fields ∧ found = (Fields.find? fields key).getD .null := by
  cases v with
  | object fields =>
      obtain rfl := Except.ok.inj h
      exact ⟨fields, rfl, rfl⟩
  | _ => cases h

theorem eq_of_shown_eq {caption short : Value} (shortened : shortNameOf caption = .ok short)
    (same : short.shown = caption.shown) : short = caption := by
  cases caption with
  | text s =>
      obtain rfl := Except.ok.inj shortened
      exact congrArg Value.text same
  | bool b => exact (Except.ok.inj shortened).symm
  | int n =>
      unfold shortNameOf at shortened
      dsimp only at shortened
      split at shortened
      · exact (Except.ok.inj shortened).symm
      · cases shortened
  | _ => cases shortened

namespace Connection

variable (c : Connection)

/-- Reads a node. -/
def readNode (number : Int) (options : ReconcileOptions) (node : Entity) : Exchange Naming :=
  c.read (c.nodeUri number) >>= fun record => ofOutcome (namingIn options node record)

/-- Writes the name of a node if it does not have it yet. -/
def writeName (number : Int) (n : Naming) : Exchange Unit :=
  if n.name.shown == n.caption.shown then pure ()
  else c.update (c.nodeUri number) [("Caption", n.name)]

/-- Sets the custom properties of a node if there are any. -/
def setProperties (number : Int) (properties : Value) : Exchange Unit :=
  if properties.truthy then c.updateFrom (c.nodeUri number ++ "/CustomProperties") properties
  else pure ()

theorem update_sends (uri : String) (properties : Fields) :
    (c.update uri properties).Sends remote fun before outcome added =>
      (∃ fault, refuse "SwisClient.update()" ["self", "uri"] properties = .error fault ∧
        outcome = .error fault ∧ added = []) ∨
      refuse "SwisClient.update()" ["self", "uri"] properties = .ok () ∧
        added = [⟨.post, c.url uri, some (.object properties)⟩] ∧
        outcome = remote.takes before (some ⟨.post, c.url uri, some (.object properties)⟩) := by
  unfold update
  cases accepted : refuse "SwisClient.update()" ["self", "uri"] properties with
  | error fault =>
      refine (sends_ofOutcome (.error fault)).mono ?_
      rintro before _ _ ⟨rfl, rfl⟩
      exact .inl ⟨fault, rfl, rfl, rfl⟩
  | ok _ =>
      refine (c.request_sends .post uri _).bind_ofOutcome.mono ?_
      rintro before _ _ ⟨_, ⟨rfl, rfl⟩, rfl⟩
      exact .inr ⟨rfl, rfl, rfl⟩

theorem readNode_sends (number : Int) (options : ReconcileOptions) (node : Entity) :
    (c.readNode number options node).Sends remote fun before outcome added =>
      added = [c.readRequest number] ∧ outcome = c.reading number remote options before node := by
  refine (c.request_sends .get (c.nodeUri number) none).bind_ofOutcome.mono ?_
  rintro before _ _ ⟨_, ⟨rfl, rfl⟩, rfl⟩
  exact ⟨rfl, rfl⟩

theorem writeName_sends (number : Int) (n : Naming) :
    (c.writeName number n).Sends remote fun before outcome added =>
      added = (c.renameStep number n).toList ∧
        outcome = remote.takes before (c.renameStep number n) := by
  unfold writeName renameStep
  split
  · refine (sends_ofOutcome (.ok ())).mono ?_
    rintro before _ _ ⟨rfl, rfl⟩
    exact ⟨rfl, rfl⟩
  · refine (c.update_sends _ _).mono ?_
    rintro before _ _ (⟨fault, ⟨⟩, -, -⟩ | ⟨-, rfl, rfl⟩)
    exact ⟨rfl, rfl⟩

theorem setProperties_sends (number : Int) (properties : Value) :
    (c.setProperties number properties).Sends remote fun before outcome added =>
      (∃ fault, admissible properties = .error fault ∧ outcome = .error fault ∧ added = []) ∨
      admissible properties = .ok () ∧ added = (c.propertyStep number properties).toList ∧
        outcome = remote.takes before (c.propertyStep number properties) := by
  unfold setProperties admissible propertyStep updateFrom
  split
  · cases properties with
    | object fields => exact c.update_sends _ fields
    | _ =>
        refine (sends_ofOutcome (.error _)).mono ?_
        rintro before _ _ ⟨rfl, rfl⟩
        exact .inl ⟨_, rfl, rfl, rfl⟩
  · refine (sends_ofOutcome (.ok ())).mono ?_
    rintro before _ _ ⟨rfl, rfl⟩
    exact .inr ⟨rfl, rfl, rfl⟩

theorem update_stops (uri : String) (properties : Fields) :
    (c.update uri properties).Sends remote (Stops remote) :=
  (stops_ofOutcome _).stops_bind fun _ =>
    (c.request_stops _ _ _).stops_bind fun _ => stops_ofOutcome _

theorem readNode_stops (number : Int) (options : ReconcileOptions) (node : Entity) :
    (c.readNode number options node).Sends remote (Stops remote) :=
  (c.request_stops _ _ _).stops_bind fun _ => stops_ofOutcome _

theorem writeName_stops (number : Int) (n : Naming) :
    (c.writeName number n).Sends remote (Stops remote) := by
  unfold writeName
  split
  · exact stops_ofOutcome _
  · exact c.update_stops _ _

theorem setProperties_stops (number : Int) (properties : Value) :
    (c.setProperties number properties).Sends remote (Stops remote) := by
  unfold setProperties updateFrom
  split
  · split
    · exact c.update_stops _ _
    · exact stops_ofOutcome _
  · exact stops_ofOutcome _

end Connection

theorem fetchInterfaces_stops (c : Connection) (number : Int) :
    (fetchInterfaces c (.int number)).Sends remote (Stops remote) :=
  (c.query_stops interfaceQuery rfl).stops_bind fun _ => stops_ofOutcome _

/-! ### How a node is got ready -/

section ready

variable {c : Connection} {options : ReconcileOptions} {node : Entity} {number : Int}

theorem renameNode_eq (rename : Bool) (record caption : Value) :
    renameNode c rename (c.nodeUri number) caption =
      ofOutcome (nameFor rename caption) >>= fun name =>
        c.writeName number ⟨record, caption, name⟩ >>= fun _ => pure name := by
  unfold renameNode nameFor Connection.writeName
  cases rename with
  | false =>
      show pure caption = ((if caption.shown == caption.shown then pure () else _) >>=
        fun _ => pure caption : Exchange Value)
      rw [if_pos (beq_self_eq_true _)]
      rfl
  | true =>
      simp only [if_true]
      cases shortened : shortNameOf caption with
      | error fault => rfl
      | ok short =>
          show (if short.shown == caption.shown then _ else _) =
            ((if short.shown == caption.shown then _ else _) >>= fun _ => pure short :
              Exchange Value)
          by_cases same : (short.shown == caption.shown) = true
          · rw [if_pos same, if_pos same, eq_of_shown_eq shortened (beq_iff_eq.mp same)]
            rfl
          · rw [if_neg same, if_neg same]

/-- A node that is referred to by a number is got ready in these steps. -/
theorem prepareNode_eq (options : ReconcileOptions)
    (referred : nodeNumber node.reference = .ok (some number)) :
    prepareNode c options node = c.readNode number options node >>= fun n =>
      c.writeName number n >>= fun _ =>
      c.setProperties number options.customProperties >>= fun _ =>
      fetchInterfaces c (.int number) >>= fun interfaces =>
      ofOutcome (.ok ⟨n.name, number, n.record, c.nodeUri number, interfaces⟩) := by
  unfold prepareNode
  rw [referred, Connection.readNode, bind_assoc]
  refine congrArg (c.read _ >>= ·) (funext fun record => ?_)
  have shape : namingIn options node record = record.get "Caption" >>= fun given =>
      nameFor options.rename (given.orElse node.displayName) >>= fun name =>
        .ok ⟨record, given.orElse node.displayName, name⟩ := rfl
  rw [shape]
  cases record.get "Caption" with
  | error fault => rfl
  | ok given =>
      change (renameNode c _ (c.nodeUri number) (given.orElse node.displayName) >>= fun name => _) =
        (ofOutcome (nameFor options.rename (given.orElse node.displayName) >>= fun name => _) >>=
          fun n : Naming => _)
      -- Writing the name is looked at on its own; what follows it is the same on both sides.
      rw [renameNode_eq _ record, bind_assoc]
      cases nameFor options.rename (given.orElse node.displayName) with
      | error fault => rfl
      | ok name =>
          change ((c.writeName number ⟨record, _, name⟩ >>= fun _ => pure name) >>= fun name => _) =
            (c.writeName number ⟨record, _, name⟩ >>= fun _ => _)
          rw [bind_assoc]
          refine congrArg (c.writeName number _ >>= ·) (funext fun _ => ?_)
          unfold Connection.setProperties
          cases set : options.customProperties.truthy with
          | true =>
              rw [if_pos rfl]
              rfl
          | false => rfl

/-- Such a node is got ready in one of these ways. -/
theorem prepareNode_readied (options : ReconcileOptions)
    (referred : nodeNumber node.reference = .ok (some number)) :
    (prepareNode c options node).Sends remote fun before outcome added =>
      Readied c remote options before node number outcome added := by
  rw [prepareNode_eq options referred]
  refine ((c.readNode_sends number options node).seq _ fun _ n _ _ =>
    (c.writeName_sends number n).seq _ fun _ _ _ _ =>
    (c.setProperties_sends number options.customProperties).seq _ fun _ _ _ _ =>
    (fetchInterfaces_sends c number).bind_ofOutcome).mono ?_
  intro before outcome added
  -- each step is the first that fails, or leaves its result to the next one
  rintro (⟨fault, rfl, rfl, failed⟩ | ⟨n, _, _, rfl, ⟨rfl, read⟩, went⟩)
  · exact .unread failed.symm
  rcases went with ⟨fault, rfl, rfl, failed⟩ | ⟨_, _, _, rfl, ⟨rfl, renamed⟩, went⟩
  · exact .unnamed read.symm failed.symm
  have named : Named c remote options before node number n := ⟨read.symm, renamed.symm⟩
  rw [List.append_assoc, List.singleton_append] at went
  rcases went with ⟨fault, rfl, ⟨_, refused, ⟨⟩, rfl⟩ | ⟨admitted, rfl, failed⟩⟩ |
    ⟨_, _, _, rfl, ⟨_, -, ⟨⟩, -⟩ | ⟨admitted, rfl, set⟩, _, ⟨rfl, rfl⟩, rfl⟩
  · rw [List.append_nil]
    exact .inadmissible named refused
  · exact .undressed named admitted failed.symm
  · have dressed : Dressed c remote options before node number n :=
      { named with admitted := admitted, customised := set.symm }
    simpa [Connection.untilDressed, Connection.untilNamed, Connection.listing] using
      Readied.asked dressed

/-- Getting a node ready ends with the first request that fails, and with its fault. -/
theorem prepareNode_stops (options : ReconcileOptions)
    (referred : nodeNumber node.reference = .ok (some number)) :
    (prepareNode c options node).Sends remote (Stops remote) := by
  rw [prepareNode_eq options referred]
  refine (c.readNode_stops number options node).stops_bind fun n => ?_
  refine (c.writeName_stops number n).stops_bind fun _ => ?_
  refine (c.setProperties_stops number _).stops_bind fun _ => ?_
  exact (fetchInterfaces_stops c number).stops_bind fun _ => stops_ofOutcome _

theorem Readied.recorded {before added : List Request} {p : PreparedNode}
    (h : Readied c remote options before node number (.ok p) added) :
    ∃ fields, p.record = .object fields := by
  generalize ended : (Except.ok p : Outcome PreparedNode) = outcome at h
  cases h with
  | @asked n dressed =>
      obtain ⟨_, -, ⟨⟩⟩ := Outcome.bind_eq_ok.mp ended.symm
      obtain ⟨record, -, told⟩ := Outcome.bind_eq_ok.mp dressed.read
      obtain ⟨caption, found, told⟩ := Outcome.bind_eq_ok.mp told
      obtain ⟨name, -, ⟨⟩⟩ := Outcome.bind_eq_ok.mp told
      obtain ⟨fields, same, -⟩ := get_eq_ok found
      exact ⟨fields, same⟩
  | _ => cases ended

theorem prepareNode_nameless_eq (c : Connection) (options : ReconcileOptions)
    (nameless : ∀ number, nodeNumber node.reference ≠ .ok (some number)) :
    ∃ fault, prepareNode c options node = fail fault := by
  unfold prepareNode
  cases read : nodeNumber node.reference with
  | error fault => exact ⟨fault, rfl⟩
  | ok found =>
      cases found with
      | none => exact ⟨_, rfl⟩
      | some number => exact absurd read (nameless number)

theorem prepareNode_nameless (options : ReconcileOptions)
    (nameless : ∀ number, nodeNumber node.reference ≠ .ok (some number)) :
    (prepareNode c options node).Sends remote fun _ outcome added =>
      ∃ fault, outcome = .error fault ∧ added = [] := by
  obtain ⟨fault, fails⟩ := prepareNode_nameless_eq c options nameless
  rw [fails]
  refine (sends_ofOutcome (.error fault)).mono ?_
  rintro _ _ _ ⟨rfl, rfl⟩
  exact ⟨fault, rfl, rfl⟩

end ready

end NodeInventory
