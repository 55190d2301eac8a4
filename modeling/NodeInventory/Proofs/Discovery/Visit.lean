import NodeInventory.Proofs.Discovery.Pruning
import NodeInventory.Proofs.Discovery.Readying
import NodeInventory.Proofs.Remote.Script

/-!
# Visiting the nodes of a batch

The pass of one node is a visit: what it sends and what it adds to the report.  A visit gets the
node ready, asks for its interfaces, and gives every interface its fate, one after the other
(`Pruned`): it stays, it is deleted, or its deletion fails.  `Visited` lists the three ways in which
a visit can go, and `reconcileNode_visited` says that there are no others, whatever the server
answers.  What may be sent in a visit at all is `Connection.Visits`.
-/

namespace NodeInventory

open Exchange

variable {remote : Remote}

/-! ### The requests of a visit -/

namespace Connection

/-- The requests that get a node ready. -/
inductive Prepares (c : Connection) (number : Int) : Request → Prop
  | read : c.Prepares number ⟨.get, c.url (c.nodeUri number), none⟩
  | rename (short : Value) :
      c.Prepares number ⟨.post, c.url (c.nodeUri number), some (.object [("Caption", short)])⟩
  | customise (fields : Fields) :
      c.Prepares number
        ⟨.post, c.url (c.nodeUri number ++ "/CustomProperties"), some (.object fields)⟩

/-- The requests of a visit. -/
inductive Visits (c : Connection) : Request → Prop
  | prepare {number : Int} {r : Request} : c.Prepares number r → c.Visits r
  | list (number : Int) : c.Visits (c.interfaceRequest number)
  | remove (i : Interface) : c.Visits (c.removal i)

theorem Prepares.not_query {c : Connection} {number : Int} {r : Request}
    (h : c.Prepares number r) (text : String) (parameters : Fields) :
    r ≠ c.queryRequest text parameters := by
  intro same
  have url := congrArg Request.url same
  cases h with
  | read => exact Method.noConfusion (congrArg Request.method same)
  | rename short =>
      refine c.nodeUri_append_ne_query number "" ?_
      rw [String.append_empty]
      exact c.url_injective url
  | customise fields => exact c.nodeUri_append_ne_query number _ (c.url_injective url)

end Connection

/-! ### The fates of interfaces -/

/-- What becomes of an interface. -/
inductive Fate where
  | kept
  | deleted
  | undeletable (fault : Fault)

/-- The fate of an interface that is to be deleted. -/
def Fate.ofDeletion {α : Type} : Outcome α → Fate
  | .ok _ => .deleted
  | .error fault => .undeletable fault

/-- The interfaces that stay. -/
def keptOf (fates : List (Interface × Fate)) : List Interface :=
  fates.filterMap fun
    | (i, .kept) => some i
    | _ => none

/-- What a report says about the interfaces of a node that could not be deleted. -/
def incidentsOf (node : Value) (fates : List (Interface × Fate)) : List Incident :=
  fates.filterMap fun
    | (i, .undeletable fault) => some (.interface node i.displayName i.uri fault)
    | _ => none

/-- What the server makes of deleting an interface after some requests. -/
def Connection.deletion (c : Connection) (remote : Remote) (before : List Request)
    (i : Interface) : Outcome Value :=
  c.outcomeOf i.uri.shown (remote.reply (before ++ [c.removal i])).answer

/-- The fates that interfaces meet after some requests, one after the other, and what is sent for
them: nothing for an interface that stays, one deletion for any other. -/
inductive Pruned (c : Connection) (remote : Remote) (patterns : Value) :
    List Request → List (Interface × Fate) → List Request → Prop
  | done (before : List Request) : Pruned c remote patterns before [] []
  | kept {before sent : List Request} {i : Interface} {fates : List (Interface × Fate)} :
      keeps patterns i = .ok true → Pruned c remote patterns before fates sent →
      Pruned c remote patterns before ((i, .kept) :: fates) sent
  | deleted {before sent : List Request} {i : Interface} {fates : List (Interface × Fate)}
      {reply : Value} :
      keeps patterns i = .ok false → c.deletion remote before i = .ok reply →
      Pruned c remote patterns (before ++ [c.removal i]) fates sent →
      Pruned c remote patterns before ((i, .deleted) :: fates) (c.removal i :: sent)
  | undeletable {before sent : List Request} {i : Interface} {fates : List (Interface × Fate)}
      {fault : Fault} :
      keeps patterns i = .ok false → c.deletion remote before i = .error fault →
      Pruned c remote patterns (before ++ [c.removal i]) fates sent →
      Pruned c remote patterns before ((i, .undeletable fault) :: fates) (c.removal i :: sent)

/-- The interfaces that are left without a fate: none, or those from the first one on of which
nobody can tell whether it stays. -/
inductive Halts (patterns : Value) : List Interface → Option Fault → Prop
  | done : Halts patterns [] none
  | undecided {i : Interface} {rest : List Interface} {fault : Fault} :
      keeps patterns i = .error fault → Halts patterns (i :: rest) (some fault)

theorem delete_sends_outcome (c : Connection) (i : Interface) :
    (c.delete i.uri.shown).Sends remote fun before outcome added =>
      added = [c.removal i] ∧ outcome = c.deletion remote before i >>= fun _ => .ok () := by
  refine (c.request_sends .delete i.uri.shown none).bind_ofOutcome.mono ?_
  rintro before _ _ ⟨_, ⟨rfl, rfl⟩, rfl⟩
  exact ⟨rfl, rfl⟩

/-- What pruning some interfaces sends and how it ends: every interface meets its fate, a failing
deletion stops nothing, and only an interface of which nobody can tell whether it stays ends it. -/
theorem prune_fates (c : Connection) (patterns node : Value) : ∀ interfaces : List Interface,
    (prune c patterns node interfaces).Sends remote fun before outcome added =>
      ∃ fates rest stop, interfaces = fates.map Prod.fst ++ rest ∧
        Pruned c remote patterns before fates added ∧ Halts patterns rest stop ∧
        outcome = .ok ⟨keptOf fates, incidentsOf node fates, stop⟩
  | [] => by
      refine (sends_ofOutcome _).mono ?_
      rintro before _ _ ⟨rfl, rfl⟩
      exact ⟨[], [], none, rfl, .done before, .done, rfl⟩
  | i :: rest => by
      have more := @prune_fates c patterns node rest
      unfold prune
      split
      case h_1 fault undecided =>
        refine (sends_ofOutcome _).mono ?_
        rintro before _ _ ⟨rfl, rfl⟩
        exact ⟨[], i :: rest, some fault, rfl, .done before, .undecided undecided, rfl⟩
      case h_2 stays =>
        refine (more.bind_ofOutcome).mono ?_
        rintro before _ added ⟨_, ⟨fates, left, stop, rfl, pruned, halts, rfl⟩, rfl⟩
        exact ⟨(i, .kept) :: fates, left, stop, rfl, .kept stays pruned, halts, rfl⟩
      case h_3 goes =>
        refine ((delete_sends_outcome c i).attempt.seq
          (fun deleted before outcome added => ∃ fates left stop,
            rest = fates.map Prod.fst ++ left ∧
            Pruned c remote patterns before fates added ∧ Halts patterns left stop ∧
            outcome = .ok ⟨keptOf ((i, .ofDeletion deleted) :: fates),
              incidentsOf node ((i, .ofDeletion deleted) :: fates), stop⟩)
          (fun _ deleted _ _ => ?_)).mono ?_
        · rcases deleted with fault | _
          all_goals
            refine (more.bind_ofOutcome).mono ?_
            rintro before _ added ⟨_, ⟨fates, left, stop, rfl, pruned, halts, rfl⟩, rfl⟩
            exact ⟨fates, left, stop, rfl, pruned, halts, rfl⟩
        · rintro before _ _ (⟨_, -, ⟨_, ⟨⟩, -⟩⟩ | ⟨deleted, _, sent, rfl, ⟨_, ⟨⟩, rfl, ended⟩,
            ⟨fates, left, stop, rfl, pruned, halts, rfl⟩⟩)
          refine ⟨(i, .ofDeletion deleted) :: fates, left, stop, rfl, ?_, halts, rfl⟩
          cases answered : c.deletion remote before i with
          | ok reply =>
              rw [answered] at ended
              obtain rfl := ended
              exact .deleted goes answered pruned
          | error fault =>
              rw [answered] at ended
              obtain rfl := ended
              exact .undeletable goes answered pruned

/-! ### Getting a node ready -/

/-- What getting a node ready sends, and how it ends: it fails before the node's interfaces are
asked for, or it asks for them last and ends as the answer says. -/
def Readies (c : Connection) (remote : Remote) (number : Int) (before : List Request)
    (outcome : Outcome PreparedNode) (added : List Request) : Prop :=
  (∃ fault, outcome = .error fault ∧ ∀ r ∈ added, c.Prepares number r) ∨
    ∃ lead : List Request, (∀ r ∈ lead, c.Prepares number r) ∧
      added = lead ++ [c.interfaceRequest number] ∧
      c.queried remote (before ++ lead) interfaceQuery [("nodeId", .int number)] >>=
        interfacesOf = outcome.map PreparedNode.interfaces ∧
      ∀ p, outcome = .ok p → p.number = number ∧ p.uri = c.nodeUri number ∧
        ∃ fields, p.record = .object fields

section readies

variable {c : Connection} {number : Int}

theorem untilNamed_prepares (c : Connection) (number : Int) (n : Naming) :
    ∀ r ∈ c.untilNamed number n, c.Prepares number r := by
  refine List.forall_mem_cons.mpr ⟨.read, fun r member => ?_⟩
  unfold Connection.renameStep at member
  split at member
  · cases member
  · exact List.mem_singleton.mp member ▸ .rename n.name

theorem propertyStep_prepares (c : Connection) (number : Int) {properties : Value}
    (admitted : admissible properties = .ok ()) :
    ∀ r ∈ (c.propertyStep number properties).toList, c.Prepares number r := by
  intro r member
  unfold Connection.propertyStep at member
  unfold admissible at admitted
  split at member
  case isFalse => cases member
  case isTrue given =>
    rw [if_pos given] at admitted
    cases properties with
    | object fields => exact List.mem_singleton.mp member ▸ .customise fields
    | _ => cases admitted

theorem Readied.readies {options : ReconcileOptions} {node : Entity} {before added : List Request}
    {outcome : Outcome PreparedNode}
    (h : Readied c remote options before node number outcome added) :
    Readies c remote number before outcome added := by
  have naming := untilNamed_prepares c number
  have dressing (n : Naming) (admitted : admissible options.customProperties = .ok ()) :
      ∀ r ∈ c.untilDressed number n options.customProperties, c.Prepares number r := fun r member =>
    (List.mem_append.mp member).elim (naming n r) (propertyStep_prepares c number admitted r)
  have recorded (p : PreparedNode) (done : outcome = .ok p) : ∃ fields, p.record = .object fields :=
    (done ▸ h).recorded
  cases h with
  | @unread fault _ => exact .inl ⟨fault, rfl, List.forall_mem_singleton.mpr .read⟩
  | @unnamed n fault _ _ => exact .inl ⟨fault, rfl, naming n⟩
  | @inadmissible n fault _ _ => exact .inl ⟨fault, rfl, naming n⟩
  | @undressed n fault _ admitted _ => exact .inl ⟨fault, rfl, dressing n admitted⟩
  | @asked n dressed =>
      refine .inr ⟨_, dressing n dressed.admitted, rfl, ?_, fun p done => ?_⟩
      · show c.listing number remote _ = (c.listing number remote _ >>= _).map _
        cases c.listing number remote
          (before ++ c.untilDressed number n options.customProperties) <;> rfl
      · have object := recorded p done
        obtain ⟨interfaces, -, ⟨⟩⟩ := Outcome.bind_eq_ok.mp done
        exact ⟨rfl, rfl, object⟩

theorem prepareNode_readies (options : ReconcileOptions) {entity : Entity}
    (named : nodeNumber entity.reference = .ok (some number)) :
    (prepareNode c options entity).Sends remote (Readies c remote number) :=
  (prepareNode_readied options named).mono fun _ _ _ readied => readied.readies

end readies

/-! ### The visit of a node -/

/-- What is sent for one node, and what that adds to the report. -/
structure Visit where
  sent : List Request
  outcome : NodeOutcome

/-- What a report says about a node that has failed. -/
def Entity.failure (node : Entity) (fault : Fault) : Incident :=
  .node node.displayName node.reference fault

/-- What a node adds to the report once its interfaces have met their fates, and what has ended
this before its time, if anything has. -/
def settled (node : Entity) (p : PreparedNode) (address : Value)
    (fates : List (Interface × Fate)) : Option Fault → NodeOutcome
  | none =>
      ⟨some ⟨p.name, p.number, address, p.uri, keptOf fates⟩, incidentsOf p.name fates⟩
  | some fault => ⟨none, incidentsOf p.name fates ++ [node.failure fault]⟩

/-- The ways in which the visit of a node can go after some requests. -/
inductive Visited (c : Connection) (remote : Remote) (patterns : Value) (before : List Request)
    (node : Entity) : Visit → Prop
  /-- The node fails before its interfaces are asked for. -/
  | unready {lead : List Request} {fault : Fault} :
      (∀ r ∈ lead, ∃ number, nodeNumber node.reference = .ok (some number) ∧
        c.Prepares number r) →
      Visited c remote patterns before node ⟨lead, none, [node.failure fault]⟩
  /-- The node's interfaces are asked for in vain. -/
  | unlisted {number : Int} {lead : List Request} {fault : Fault} :
      nodeNumber node.reference = .ok (some number) → (∀ r ∈ lead, c.Prepares number r) →
      c.queried remote (before ++ lead) interfaceQuery [("nodeId", .int number)] >>=
        interfacesOf = .error fault →
      Visited c remote patterns before node
        ⟨lead ++ [c.interfaceRequest number], none, [node.failure fault]⟩
  /-- The node's interfaces are listed and meet their fates. -/
  | listed {lead sent : List Request} {p : PreparedNode} {address : Value}
      {fates : List (Interface × Fate)} {rest : List Interface} {stop : Option Fault} :
      nodeNumber node.reference = .ok (some p.number) → (∀ r ∈ lead, c.Prepares p.number r) →
      p.uri = c.nodeUri p.number →
      c.queried remote (before ++ lead) interfaceQuery [("nodeId", .int p.number)] >>=
        interfacesOf = .ok (fates.map Prod.fst ++ rest) →
      Pruned c remote patterns (before ++ lead ++ [c.interfaceRequest p.number]) fates sent →
      Halts patterns rest stop →
      Visited c remote patterns before node
        ⟨lead ++ c.interfaceRequest p.number :: sent, settled node p address fates stop⟩

theorem prune_settles (c : Connection) (patterns : Value) (node : Entity) {p : PreparedNode}
    (recorded : ∃ fields, p.record = .object fields) :
    (prune c patterns p.name p.interfaces >>= fun pruning =>
      match pruning.stop, fieldOrEmpty p.record "IPAddress" with
      | some fault, _ | none, .error fault =>
          pure ⟨none, pruning.incidents ++ [node.failure fault]⟩
      | none, .ok address =>
          pure ⟨some ⟨p.name, p.number, address, p.uri, pruning.kept⟩, pruning.incidents⟩).Sends
      remote fun before outcome added => ∃ address fates rest stop,
        p.interfaces = fates.map Prod.fst ++ rest ∧
        Pruned c remote patterns before fates added ∧ Halts patterns rest stop ∧
        outcome = .ok (settled node p address fates stop) := by
  obtain ⟨fields, recorded⟩ := recorded
  obtain ⟨address, addressed⟩ : ∃ address, fieldOrEmpty p.record "IPAddress" = .ok address := by
    rw [recorded]
    exact ⟨_, rfl⟩
  rw [addressed]
  refine ((prune_fates c patterns p.name p.interfaces).seq
    (fun pruning _ outcome added => added = [] ∧ outcome = .ok (match pruning.stop with
      | some fault => ⟨none, pruning.incidents ++ [node.failure fault]⟩
      | none => ⟨some ⟨p.name, p.number, address, p.uri, pruning.kept⟩, pruning.incidents⟩))
    (fun _ pruning _ _ => ?_)).mono ?_
  · cases stopped : pruning.stop <;> exact (sends_ofOutcome _).mono fun _ _ _ h => ⟨h.2, h.1⟩
  · rintro before _ _ (⟨_, -, _, _, _, _, _, _, ⟨⟩⟩ | ⟨_, sent, _, rfl,
      ⟨fates, rest, stop, listed, pruned, halts, ⟨⟩⟩, rfl, rfl⟩)
    rw [List.append_nil]
    exact ⟨address, fates, rest, stop, listed, pruned, halts, by cases stop <;> rfl⟩

/-- What is left to do for a node, once it is known whether it is ready. -/
def Finishes (c : Connection) (remote : Remote) (patterns : Value) (node : Entity)
    (prepared : Outcome PreparedNode) (before : List Request) (outcome : Outcome NodeOutcome)
    (added : List Request) : Prop :=
  match prepared with
  | .error fault => added = [] ∧ outcome = .ok ⟨none, [node.failure fault]⟩
  | .ok p => ∃ address fates rest stop, p.interfaces = fates.map Prod.fst ++ rest ∧
      Pruned c remote patterns before fates added ∧ Halts patterns rest stop ∧
      outcome = .ok (settled node p address fates stop)

/-- The visit of a node is getting it ready and what is then left to do. -/
theorem reconcileNode_finishes (c : Connection) (options : ReconcileOptions) (node : Entity)
    {post : List Request → Outcome PreparedNode → List Request → Prop}
    (prepares : (prepareNode c options node).Sends remote post)
    (recorded : ∀ before p added, post before (.ok p) added → ∃ fields, p.record = .object fields) :
    (reconcileNode c options node).Sends remote fun before outcome added =>
      ∃ prepared lead sent, added = lead ++ sent ∧ post before prepared lead ∧
        Finishes c remote options.patterns node prepared (before ++ lead) outcome sent := by
  unfold reconcileNode
  refine (prepares.attempt.seq (Finishes c remote options.patterns node)
    (fun before prepared lead ready => ?_)).mono ?_
  · obtain ⟨_, ⟨⟩, ready⟩ := ready
    cases prepared with
    | error fault => exact (sends_ofOutcome _).mono fun _ _ _ h => ⟨h.2, h.1⟩
    | ok p => exact prune_settles c options.patterns node (recorded _ _ _ ready)
  · rintro before _ _ (⟨_, -, _, ⟨⟩, -⟩ | ⟨prepared, lead, sent, rfl, ⟨_, ⟨⟩, ready⟩, finishes⟩)
    exact ⟨prepared, lead, sent, rfl, ready, finishes⟩

theorem reconcileNode_nameless (c : Connection) (options : ReconcileOptions) {node : Entity}
    (nameless : ∀ number, nodeNumber node.reference ≠ .ok (some number)) :
    (reconcileNode c options node).Sends remote fun _ outcome added =>
      ∃ fault, outcome = .ok ⟨none, [node.failure fault]⟩ ∧ added = [] := by
  refine (reconcileNode_finishes c options node (prepareNode_nameless options nameless) ?_).mono ?_
  · rintro _ _ _ ⟨_, ⟨⟩, -⟩
  · rintro before _ _ ⟨_, _, _, rfl, ⟨fault, rfl, rfl⟩, rfl, rfl⟩
    exact ⟨fault, rfl, rfl⟩

/-- A node is visited in one of these ways, whatever the server answers, and the visit always ends
well. -/
theorem reconcileNode_visited (c : Connection) (options : ReconcileOptions) (node : Entity) :
    (reconcileNode c options node).Sends remote fun before outcome added =>
      ∃ o, outcome = .ok o ∧ Visited c remote options.patterns before node ⟨added, o⟩ := by
  by_cases named : ∃ number, nodeNumber node.reference = .ok (some number)
  · obtain ⟨number, named⟩ := named
    refine (reconcileNode_finishes c options node (prepareNode_readies options named) ?_).mono ?_
    · rintro _ p _ (⟨_, ⟨⟩, -⟩ | ⟨_, _, _, _, ready⟩)
      exact (ready p rfl).2.2
    · rintro before outcome _ ⟨prepared, lead, sent, rfl, readies, finishes⟩
      rcases readies with ⟨fault, rfl, early⟩ | ⟨lead, early, rfl, read, ready⟩
      · obtain ⟨rfl, rfl⟩ := finishes
        rw [List.append_nil]
        exact ⟨_, rfl, .unready fun r member => ⟨number, named, early r member⟩⟩
      · cases prepared with
        | error fault =>
            obtain ⟨rfl, rfl⟩ := finishes
            rw [List.append_nil]
            exact ⟨_, rfl, .unlisted named early read⟩
        | ok p =>
            obtain ⟨rfl, uri, -⟩ := ready p rfl
            obtain ⟨address, fates, rest, stop, listed, pruned, halts, rfl⟩ := finishes
            refine ⟨_, rfl, ?_⟩
            rw [← List.append_assoc] at pruned
            rw [List.append_assoc]
            exact .listed named early uri (read.trans (congrArg Except.ok listed)) pruned halts
  · refine (reconcileNode_nameless c options fun number found => named ⟨number, found⟩).mono ?_
    rintro before _ _ ⟨fault, rfl, rfl⟩
    exact ⟨_, rfl, .unready nofun⟩

/-- The pass of a node that is referred to by a number gets it ready step by step, and then does
what is left to do. -/
theorem reconcileNode_readied {c : Connection} {node : Entity} {number : Int}
    (options : ReconcileOptions) (referred : nodeNumber node.reference = .ok (some number)) :
    (reconcileNode c options node).Sends remote fun before outcome added =>
      ∃ prepared lead sent, added = lead ++ sent ∧
        (Readied c remote options before node number prepared lead ∧
          Stops remote before prepared lead) ∧
        Finishes c remote options.patterns node prepared (before ++ lead) outcome sent :=
  reconcileNode_finishes c options node
    ((prepareNode_readied options referred).and (prepareNode_stops options referred))
    fun _ _ _ ready => ready.1.recorded

/-! ### Visits as scripts -/

section scripts

variable (c : Connection) {number : Int} {p : Request → Prop}

theorem writeName_script (prepares : ∀ {r : Request}, c.Prepares number r → p r) (n : Naming) :
    Script p (c.writeName number n) := by
  unfold Connection.writeName
  split
  · exact .pure _
  · exact c.update_script (prepares (.rename n.name))

theorem setProperties_script (prepares : ∀ {r : Request}, c.Prepares number r → p r)
    (properties : Value) : Script p (c.setProperties number properties) := by
  unfold Connection.setProperties
  split
  · exact c.updateFrom_script _ fun fields => prepares (.customise fields)
  · exact .pure _

end scripts

theorem prune_script (c : Connection) (patterns node : Value) :
    ∀ interfaces : List Interface, Script c.Visits (prune c patterns node interfaces)
  | [] => .pure _
  | i :: rest => by
      have more := prune_script c patterns node rest
      unfold prune
      split
      · exact .pure _
      · exact more.bind fun _ => .pure _
      · refine (c.delete_script (.remove i)).attempt.bind fun deleted => more.bind fun _ => ?_
        cases deleted <;> exact .pure _

theorem prepareNode_script (c : Connection) (options : ReconcileOptions) (entity : Entity) :
    Script c.Visits (prepareNode c options entity) := by
  by_cases named : ∃ number, nodeNumber entity.reference = .ok (some number)
  · obtain ⟨number, referred⟩ := named
    have prepares {r : Request} (h : c.Prepares number r) : c.Visits r := .prepare h
    rw [prepareNode_eq options referred]
    refine ((c.request_script (prepares .read)).bind fun _ => .outcome _).bind fun n => ?_
    refine (writeName_script c prepares n).bind fun _ => ?_
    refine (setProperties_script c prepares options.customProperties).bind fun _ => ?_
    refine Script.bind ?_ fun _ => .outcome _
    exact (c.query_script (.list number)).bind fun _ => .outcome _
  · obtain ⟨fault, fails⟩ := prepareNode_nameless_eq c options fun number found =>
      named ⟨number, found⟩
    rw [fails]
    exact .fail fault

/-- A visit sends nothing but the requests of a visit. -/
theorem reconcileNode_script (c : Connection) (options : ReconcileOptions) (node : Entity) :
    Script c.Visits (reconcileNode c options node) := by
  unfold reconcileNode
  refine (prepareNode_script c options node).attempt.bind fun prepared => ?_
  cases prepared with
  | error fault => exact .pure _
  | ok p =>
      refine (prune_script c options.patterns p.name p.interfaces).bind fun pruning => ?_
      dsimp only
      split <;> exact .pure _

end NodeInventory
