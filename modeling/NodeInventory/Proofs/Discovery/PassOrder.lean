import NodeInventory.Proofs.Discovery.Batch
import NodeInventory.Proofs.Discovery.Readying

/-!
# The order of a node's pass

The answers of the server decide in advance which requests the pass of a node would send if no step
of it failed: that is its script.  `node_pass_order` says that a pass goes by its script from the
first request on and up to the first failure, that only a failing deletion does not end it, and that
a reported node has the name that was last written for it, or its caption.
-/

namespace NodeInventory

open Exchange

variable {remote : Remote}

/-! ### The script of a pass -/

/-- Whether the patterns tell that an interface does not stay. -/
def goes (patterns : Value) (i : Interface) : Bool :=
  match keeps patterns i with
  | .ok stays => !stays
  | .error _ => false

namespace Connection

variable (c : Connection) (remote : Remote) (options : ReconcileOptions) (before : List Request)
  (node : Entity) (number : Int)

/-- What deletes those of some interfaces that do not stay, in their order. -/
def removals (patterns : Value) (interfaces : List Interface) : List Request :=
  (interfaces.filter (goes patterns)).map c.removal

/-- The requests of a pass that follows some requests, in their order: the node is read, given its
name if it does not have it, and given its custom properties if there are any; then its interfaces
are asked for, and those that do not stay are deleted.  What the node is called and which interfaces
it has is in the answers. -/
def passScript : List Request :=
  match c.reading number remote options before node with
  | .error _ => [c.readRequest number]
  | .ok n =>
      let lead := c.untilDressed number n options.customProperties
      lead ++ c.interfaceRequest number ::
        match c.listing number remote (before ++ lead) with
        | .error _ => []
        | .ok interfaces => c.removals options.patterns interfaces

/-- The server has taken a name that was written for a node after some requests, and no other one
was written later. -/
def Writes (added : List Request) (name : Value) : Prop :=
  ∃ lead more reply, added = lead ++ c.renameRequest number name :: more ∧
    (c.renameRequest number name).outcomeOf
      (remote.reply (before ++ lead ++ [c.renameRequest number name])).answer = .ok reply ∧
    ∀ other, c.renameRequest number other ∉ more

end Connection

/-- What is said of the pass of a node by the requests before it, those that it adds, and what the
node adds to the report. -/
structure InOrder (c : Connection) (remote : Remote) (options : ReconcileOptions)
    (before : List Request) (node : Entity) (added : List Request) (o : NodeOutcome) : Prop where
  /-- Nothing is sent for a node whose reference has no number. -/
  nameless : (∀ number, nodeNumber node.reference ≠ .ok (some number)) → added = []
  /-- The pass of any other node goes by its script, from the first request on. -/
  ordered : ∀ number, nodeNumber node.reference = .ok (some number) →
    [c.readRequest number] <+: added ∧ added <+: c.passScript remote options before node number
  /-- A failing request that deletes nothing is the last one, and the node fails with its fault. -/
  stops : ∀ (lead : List Request) (r : Request) (more : List Request) (fault : Fault),
    added = lead ++ r :: more → r.method ≠ .delete →
    r.outcomeOf (remote.reply (before ++ lead ++ [r])).answer = .error fault →
    more = [] ∧ o = ⟨none, [node.failure fault]⟩
  /-- A node is reported after its whole script, under the name that was written for it last, or
  under its caption when none was written. -/
  reported : ∀ report, o.node = some report → ∃ number n,
    nodeNumber node.reference = .ok (some number) ∧
    c.reading number remote options before node = .ok n ∧
    added = c.passScript remote options before node number ∧
    (c.Writes remote before number added report.name ∨
      (∀ name, c.renameRequest number name ∉ added) ∧ report.name = n.caption)

/-! ### Names -/

theorem nameFor_eq_caption {rename : Bool} {caption name : Value}
    (named : nameFor rename caption = .ok name) (same : name.shown = caption.shown) :
    name = caption := by
  cases rename with
  | false => exact (Except.ok.inj named).symm
  | true => exact eq_of_shown_eq named same

section order

variable {c : Connection} {options : ReconcileOptions} {before : List Request} {node : Entity}
  {number : Int} {n : Naming}

theorem reading_name (read : c.reading number remote options before node = .ok n) :
    nameFor options.rename n.caption = .ok n.name := by
  obtain ⟨record, -, told⟩ := Outcome.bind_eq_ok.mp read
  obtain ⟨given, -, told⟩ := Outcome.bind_eq_ok.mp told
  obtain ⟨name, short, ⟨⟩⟩ := Outcome.bind_eq_ok.mp told
  exact short

theorem renameRequest_notMem (c : Connection) (number : Int) (properties : Value)
    {deletions : List Request} (deletes : ∀ r ∈ deletions, ∃ i, r = c.removal i) (name : Value) :
    c.renameRequest number name ∉
      (c.propertyStep number properties).toList ++ c.interfaceRequest number :: deletions := by
  intro member
  rcases List.mem_append.mp member with sets | later
  · unfold Connection.propertyStep at sets
    split at sets
    case isTrue =>
      have place := c.url_injective (congrArg Request.url (List.mem_singleton.mp sets))
      have characters := congrArg String.toList place
      simp at characters
    case isFalse => cases sets
  rcases List.mem_cons.mp later with asks | removes
  · exact (Connection.Prepares.rename name).not_query _ _ asks
  · obtain ⟨i, same⟩ := deletes _ removes
    exact Method.noConfusion (congrArg Request.method same)

/-! ### The course of a pass -/

theorem removals_cons (patterns : Value) (i : Interface) (rest : List Interface) :
    c.removals patterns (i :: rest) =
      if goes patterns i then c.removal i :: c.removals patterns rest
      else c.removals patterns rest := by
  unfold Connection.removals
  rw [List.filter_cons]
  split <;> rfl

theorem removals_append (patterns : Value) (early late : List Interface) :
    c.removals patterns (early ++ late) =
      c.removals patterns early ++ c.removals patterns late := by
  unfold Connection.removals
  rw [List.filter_append, List.map_append]

theorem Pruned.sent_eq {patterns : Value} {fates : List (Interface × Fate)} {sent : List Request}
    (h : Pruned c remote patterns before fates sent) :
    sent = c.removals patterns (fates.map Prod.fst) := by
  have goes_eq {i : Interface} {stays : Bool} (told : keeps patterns i = .ok stays) :
      goes patterns i = !stays := by
    rw [goes, told]
  induction h with
  | done _ => rfl
  | kept stays _ ih =>
      rw [List.map_cons, removals_cons, goes_eq stays]
      exact ih
  | deleted leaves _ _ ih =>
      rw [List.map_cons, removals_cons, goes_eq leaves, ih]
      rfl
  | undeletable leaves _ _ ih =>
      rw [List.map_cons, removals_cons, goes_eq leaves, ih]
      rfl

/-- Getting a node ready goes by the script of its pass, and once the node is ready, only deletions
are left of the script. -/
theorem Readied.prefix_script {prepared : Outcome PreparedNode} {lead : List Request}
    (h : Readied c remote options before node number prepared lead) :
    [c.readRequest number] <+: lead ∧ lead <+: c.passScript remote options before node number ∧
    ∀ p, prepared = .ok p → ∃ n, Named c remote options before node number n ∧ p.name = n.name ∧
      lead = c.untilDressed number n options.customProperties ++ [c.interfaceRequest number] ∧
      c.passScript remote options before node number =
        lead ++ c.removals options.patterns p.interfaces := by
  have script {n : Naming} (read : c.reading number remote options before node = .ok n) :
      c.untilDressed number n options.customProperties ++ [c.interfaceRequest number] <+:
        c.passScript remote options before node number := by
    unfold Connection.passScript
    rw [read]
    dsimp only
    exact (List.prefix_append_right_inj _).mpr (List.prefix_append [_] _)
  have named (n : Naming) : c.untilNamed number n <+:
      c.untilDressed number n options.customProperties := List.prefix_append _ _
  have dressed (n : Naming) : c.untilDressed number n options.customProperties <+:
      c.untilDressed number n options.customProperties ++ [c.interfaceRequest number] :=
    List.prefix_append _ _
  have first (n : Naming) : [c.readRequest number] <+: c.untilNamed number n :=
    List.prefix_append [_] _
  cases h with
  | unread failed =>
      have script : c.passScript remote options before node number = [c.readRequest number] := by
        unfold Connection.passScript
        rw [failed]
      exact ⟨List.prefix_rfl, script ▸ List.prefix_rfl, nofun⟩
  | @unnamed n _ read _ =>
      exact ⟨first n, ((named n).trans (dressed n)).trans (script read), nofun⟩
  | @inadmissible n _ h _ =>
      exact ⟨first n, ((named n).trans (dressed n)).trans (script h.read), nofun⟩
  | @undressed n _ h _ _ =>
      exact ⟨(first n).trans (named n), (dressed n).trans (script h.read), nofun⟩
  | @asked n h =>
      refine ⟨((first n).trans (named n)).trans (dressed n), script h.read, fun p ended => ?_⟩
      obtain ⟨interfaces, listed, ⟨⟩⟩ := Outcome.bind_eq_ok.mp ended
      refine ⟨n, h.toNamed, rfl, rfl, ?_⟩
      unfold Connection.passScript
      rw [h.read]
      dsimp only
      rw [listed, List.append_assoc]
      rfl

theorem Named.writes {added deletions : List Request}
    (h : Named c remote options before node number n)
    (sent : added = c.untilDressed number n options.customProperties ++
      [c.interfaceRequest number] ++ deletions)
    (deletes : ∀ r ∈ deletions, ∃ i, r = c.removal i) :
    c.Writes remote before number added n.name ∨
      (∀ name, c.renameRequest number name ∉ added) ∧ n.name = n.caption := by
  have later := renameRequest_notMem c number options.customProperties deletes
  have added_eq : added = c.readRequest number :: ((c.renameStep number n).toList ++
      ((c.propertyStep number options.customProperties).toList ++
        c.interfaceRequest number :: deletions)) := by
    simp [sent, Connection.untilDressed, Connection.untilNamed]
  have renamed := h.renamed
  cases same : n.name.shown == n.caption.shown with
  | true =>
      have step : c.renameStep number n = none := if_pos same
      rw [step] at added_eq
      refine .inr ⟨fun name member => ?_,
        nameFor_eq_caption (reading_name h.read) (beq_iff_eq.mp same)⟩
      rw [added_eq] at member
      rcases List.mem_cons.mp member with reads | member
      · exact Method.noConfusion (congrArg Request.method reads)
      · exact later name member
  | false =>
      have step : c.renameStep number n = some (c.renameRequest number n.name) :=
        if_neg (by rw [same]; exact Bool.false_ne_true)
      rw [step] at added_eq renamed
      obtain ⟨reply, taken, -⟩ := Outcome.bind_eq_ok.mp renamed
      exact .inl ⟨[c.readRequest number], _, reply, added_eq, taken, later⟩

/-- A request that fails ends the pass if it is one of those that get the node ready, and those that
come later delete. -/
theorem Exchange.Stops.pass {prepared : Outcome PreparedNode} {asked deletions : List Request}
    (stops : Stops remote before prepared asked)
    (deletes : ∀ r ∈ deletions, ∃ i, r = c.removal i) {lead more : List Request} {r : Request}
    {fault : Fault} (split : asked ++ deletions = lead ++ r :: more) (other : r.method ≠ .delete)
    (failed : r.outcomeOf (remote.reply (before ++ lead ++ [r])).answer = .error fault) :
    prepared = .error fault ∧ more = deletions := by
  have early : r ∉ deletions := by
    intro member
    obtain ⟨i, rfl⟩ := deletes r member
    exact other rfl
  rcases List.append_eq_append_iff.mp split with ⟨rest, rfl, late⟩ | ⟨rest, rfl, late⟩
  · rw [late] at early
    exact absurd (List.mem_append_right _ List.mem_cons_self) early
  · cases rest with
    | nil =>
        rw [← List.nil_append deletions, ← late] at early
        exact absurd List.mem_cons_self early
    | cons r' rest =>
        obtain ⟨rfl, rfl⟩ := List.cons.inj late
        obtain ⟨rfl, ended⟩ := stops lead r rest fault rfl failed
        exact ⟨ended, rfl⟩

/-- The pass of a node is in order: getting the node ready is, and then its interfaces meet their
fates. -/
theorem Finishes.inOrder {prepared : Outcome PreparedNode} {lead sent : List Request}
    {outcome : Outcome NodeOutcome} (referred : nodeNumber node.reference = .ok (some number))
    (readied : Readied c remote options before node number prepared lead)
    (stops : Stops remote before prepared lead)
    (h : Finishes c remote options.patterns node prepared (before ++ lead) outcome sent) :
    ∃ o, outcome = .ok o ∧ InOrder c remote options before node (lead ++ sent) o := by
  have nameless : ¬∀ number, nodeNumber node.reference ≠ .ok (some number) :=
    fun none_ => none_ number referred
  have only {number' : Int} (found : nodeNumber node.reference = .ok (some number')) :
      number = number' := Option.some.inj (Except.ok.inj (referred.symm.trans found))
  obtain ⟨first, script, ready⟩ := readied.prefix_script
  cases prepared with
  | error fault =>
      obtain ⟨rfl, rfl⟩ := h
      rw [List.append_nil]
      refine ⟨_, rfl, fun none_ => absurd none_ nameless, ?_, ?_, nofun⟩
      · intro number' found
        obtain rfl := only found
        exact ⟨first, script⟩
      · intro lead' r more fault' split _ failed
        obtain ⟨last, ⟨⟩⟩ := stops lead' r more fault' split failed
        exact ⟨last, rfl⟩
  | ok p =>
      obtain ⟨n, named, called, rfl, whole⟩ := ready p rfl
      obtain ⟨address, fates, rest, stop, listed, pruned, halts, rfl⟩ := h
      have deletes := pruned.deletes
      have sent_eq := pruned.sent_eq
      rw [listed, removals_append, ← sent_eq, ← List.append_assoc] at whole
      refine ⟨_, rfl, fun none_ => absurd none_ nameless, ?_, ?_, ?_⟩
      · intro number' found
        obtain rfl := only found
        exact ⟨first.trans (List.prefix_append _ _), whole ▸ List.prefix_append _ _⟩
      · intro lead' r more fault split other failed
        obtain ⟨⟨⟩, -⟩ := stops.pass deletes split other failed
      · intro report found
        cases halts with
        | undecided => cases found
        | done =>
            obtain rfl := Option.some.inj found
            refine ⟨number, n, referred, named.read, ?_, ?_⟩
            · rw [whole]
              exact (List.append_nil _).symm
            · have writes := named.writes rfl deletes
              rwa [← called] at writes

end order

/-- The pass of every node is in order, whatever the options, whatever was sent before and whatever
the server answers. -/
theorem node_pass_order (c : Connection) (remote : Remote) (options : ReconcileOptions)
    (node : Entity) (trace : Trace) : ∃ added o,
      (reconcileNode c options node remote trace).1 = .ok o ∧
      (reconcileNode c options node remote trace).2.sent = trace.sent ++ added ∧
      InOrder c remote options trace.sent node added o := by
  by_cases named : ∃ number, nodeNumber node.reference = .ok (some number)
  · obtain ⟨number, referred⟩ := named
    obtain ⟨_, sent, prepared, lead, later, rfl, ⟨readied, stops⟩, finishes⟩ :=
      reconcileNode_readied (c := c) options referred trace
    obtain ⟨o, ended, order⟩ := finishes.inOrder referred readied stops
    exact ⟨_, o, ended, sent, order⟩
  · have nameless (number : Int) : nodeNumber node.reference ≠ .ok (some number) :=
      fun found => named ⟨number, found⟩
    obtain ⟨_, sent, _, _, _, rfl, ⟨fault, rfl, rfl⟩, rfl, ended⟩ :=
      reconcileNode_finishes c options node (prepareNode_nameless options nameless)
        (by rintro _ _ _ ⟨_, ⟨⟩, -⟩) trace
    refine ⟨[], _, ended, sent, fun _ => rfl, fun number found => absurd found (nameless number),
      fun lead r more fault split => ?_, nofun⟩
    exact absurd split.symm (by simp)

/-- A node that cannot be given its name keeps its interfaces. -/
example : (reconcileNode sampleConnection { rename := true, patterns := .texts ["g*"] }
    ⟨true, .text "", .text "N:7"⟩ (.answering ["\x7b\"Caption\": \"core.lab.test\"\x7d"])
    {}).2.sent.map Request.method = [.get, .post] := by decide +kernel

end NodeInventory
