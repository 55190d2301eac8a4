import NodeInventory.Proofs.Discovery.Success
import NodeInventory.Proofs.Discovery.Visit

/-!
# Reconciling a batch

The nodes of a batch are visited one after the other (`Tour`), and the report puts together what the
visits add to it (`Report.ofVisits`).  `reconcile_batch` says how a batch is reconciled, and
`batch_accounted` what this means for the rows of the batch: each row of a node is either reported,
under the number that it refers to, or listed as failed, in the order of the rows; and if the
interfaces of a node are listed and their names can be compared with the patterns, the node is
reported and each of its interfaces stays, is deleted, or is listed as one that could not be.
-/

namespace NodeInventory

open Exchange

variable {remote : Remote}

/-! ### Visits in turn -/

/-- The visits of some nodes after some requests, one visit to a node, each of which is as `visited`
says. -/
inductive Tour (visited : List Request → Entity → Visit → Prop) :
    List Request → List Entity → List Visit → Prop
  | done (before : List Request) : Tour visited before [] []
  | visit {before : List Request} {node : Entity} {nodes : List Entity} {v : Visit}
      {visits : List Visit} : visited before node v →
      Tour visited (before ++ v.sent) nodes visits →
      Tour visited before (node :: nodes) (v :: visits)

/-- What becomes of a discovery by the visits of its nodes. -/
def Report.ofVisits (job : Value) (l : DiscoveryLog) (visits : List Visit) : Report where
  job := job
  status := l.result
  description := l.description
  errorMessage := l.errorMessage
  nodes := visits.filterMap (·.outcome.node)
  incidents := visits.flatMap (·.outcome.incidents)

section tour

variable {c : Connection} {options : ReconcileOptions}
  {visited : List Request → Entity → Visit → Prop}

/-- What is true of each visit is true of all of them, one after the other. -/
theorem reconcileNodes_tour
    (each : ∀ node, (reconcileNode c options node).Sends remote fun before outcome added =>
      ∃ o, outcome = .ok o ∧ visited before node ⟨added, o⟩) :
    ∀ nodes : List Entity,
      (nodes.mapM (reconcileNode c options)).Sends remote fun before outcome added =>
        ∃ visits : List Visit, added = visits.flatMap Visit.sent ∧
          Tour visited before nodes visits ∧ outcome = .ok (visits.map Visit.outcome)
  | [] => by
      refine (sends_ofOutcome _).mono ?_
      rintro before _ _ ⟨rfl, rfl⟩
      exact ⟨[], rfl, .done before, rfl⟩
  | node :: rest => by
      rw [List.mapM_cons]
      have more := reconcileNodes_tour each rest
      refine ((each node).seq _
        fun _ o _ _ => more.bind_ofOutcome (f := fun os => .ok (o :: os))).mono ?_
      rintro before _ _ (⟨_, -, _, ⟨⟩, -⟩ | ⟨o, sent, _, rfl, ⟨_, ⟨⟩, first⟩,
        _, ⟨visits, rfl, tour, rfl⟩, rfl⟩)
      exact ⟨⟨sent, o⟩ :: visits, rfl, .visit first tour, rfl⟩

/-- How a batch is reconciled after some requests: it is asked for, and if it can be read, its
nodes are visited in turn. -/
theorem reconcile_batch
    (each : ∀ node, (reconcileNode c options node).Sends remote fun before outcome added =>
      ∃ o, outcome = .ok o ∧ visited before node ⟨added, o⟩)
    (job : Value) (status : Status) {l : DiscoveryLog} (finished : l.result = .finished) :
    (reconcile c job status (some l) options).Sends remote fun before outcome added =>
      (∃ fault, c.queried remote before itemQuery [("batchId", l.batch)] >>= entitiesOf =
          .error fault ∧ outcome = .error fault ∧ added = [c.itemRequest l.batch]) ∨
        ∃ entities visits, c.queried remote before itemQuery [("batchId", l.batch)] >>=
            entitiesOf = .ok entities ∧
          Tour visited (before ++ [c.itemRequest l.batch]) (entities.filter (·.isNode)) visits ∧
          outcome = .ok (.ofVisits job l visits) ∧
          added = c.itemRequest l.batch :: visits.flatMap Visit.sent := by
  unfold reconcile
  dsimp only
  rw [if_pos finished]
  refine ((fetchEntities_sends c l.batch).seq
    (fun entities before outcome added => ∃ visits : List Visit,
      added = visits.flatMap Visit.sent ∧
      Tour visited before (entities.filter (·.isNode)) visits ∧
      outcome = .ok (.ofVisits job l visits)) (fun _ entities _ _ => ?_)).mono ?_
  · refine (reconcileNodes_tour each (entities.filter (·.isNode))).bind_ofOutcome.mono ?_
    rintro before _ _ ⟨_, ⟨visits, rfl, tour, rfl⟩, rfl⟩
    refine ⟨visits, rfl, tour, congrArg Except.ok ?_⟩
    simp only [Report.ofVisits, List.filterMap_map, List.flatMap_map, Function.comp_def]
  · rintro before _ _ (⟨fault, rfl, rfl, read⟩ | ⟨entities, _, _, rfl, ⟨rfl, read⟩,
      visits, rfl, tour, rfl⟩)
    · exact .inl ⟨fault, read.symm, rfl, rfl⟩
    · exact .inr ⟨entities, visits, read.symm, tour, rfl, rfl⟩

end tour

/-! ### The rows of a batch -/

/-- The entity in a row that is an object. -/
def Entity.ofFields (row : Fields) : Entity where
  isNode := match (Fields.find? row "EntityType").getD .null with
    | .text s => s == nodeEntity
    | _ => false
  displayName := ((Fields.find? row "DisplayName").getD .null).orElse (.text "")
  reference := ((Fields.find? row "NetObjectID").getD .null).orElse (.text "")

/-- A row that names a node. -/
def NamesNode (row : Fields) : Prop :=
  Fields.find? row "EntityType" = some (.text nodeEntity)

theorem isNode_iff (row : Fields) : (Entity.ofFields row).isNode = true ↔ NamesNode row := by
  unfold Entity.ofFields NamesNode
  dsimp only
  cases Fields.find? row "EntityType" with
  | none => simp
  | some type => cases type <;> simp

theorem entity_ofRow_object (row : Fields) :
    Entity.ofRow (.object row) = .ok (Entity.ofFields row) := rfl

theorem entitiesOf_objects (rows : List Fields) :
    entitiesOf (.list (rows.map .object)) = .ok (rows.map Entity.ofFields) := by
  show (rows.map Value.object).mapM Entity.ofRow = _
  induction rows with
  | nil => rfl
  | cons row rest ih => rw [List.map_cons, List.mapM_cons, ih, entity_ofRow_object]; rfl

/-! ### Interfaces that can be compared with the patterns -/

/-- The patterns are texts, if there are any. -/
def TextPatterns (patterns : Value) : Prop :=
  patterns.truthy = true → ∃ globs : List String, patterns.items = .ok (globs.map .text)

/-- A row that names an interface, and whose caption is a text or null. -/
structure NamesInterface (row : Value) : Prop where
  named : ∃ fields uri, row = .object fields ∧ Fields.find? fields "Uri" = some uri
  captioned : row.get "Caption" = .ok .null ∨ ∃ caption, row.get "Caption" = .ok (.text caption)

theorem matchesFirst_texts (lowered : String) (globs : List String) :
    Glob.matchesFirst lowered (globs.map .text) =
      .ok (globs.any (Glob.matchesLower lowered)) := by
  induction globs with
  | nil => rfl
  | cons glob rest ih =>
      show (if Glob.matchesLower lowered glob then pure true
        else Glob.matchesFirst lowered (rest.map .text)) = _
      rw [List.any_cons, ih]
      cases Glob.matchesLower lowered glob <;> rfl

theorem keeps_texts {patterns : Value} (texts : TextPatterns patterns) {i : Interface}
    {caption : String} (named : i.displayName = .text caption) :
    ∃ stays, keeps patterns i = .ok stays := by
  unfold keeps
  split
  case isTrue given =>
    obtain ⟨globs, listed⟩ := texts given
    refine ⟨globs.any (Glob.matchesLower (Text.lower caption)), ?_⟩
    rw [named, Glob.matchesAnyValue, listed]
    exact matchesFirst_texts _ globs
  case isFalse => exact ⟨true, rfl⟩

theorem NamesInterface.displayName {row : Value} (h : NamesInterface row) {i : Interface}
    (read : Interface.ofRow row = .ok i) : ∃ caption, i.displayName = .text caption := by
  obtain ⟨shown, -⟩ := interface_ofRow_eq_ok read
  unfold fieldOrEmpty at shown
  rcases h.captioned with null | ⟨caption, text⟩
  · rw [null] at shown
    exact ⟨"", (Except.ok.inj shown).symm⟩
  · rw [text] at shown
    have displayed : (Value.text caption).orElse (.text "") = i.displayName := Except.ok.inj shown
    unfold Value.orElse at displayed
    split at displayed
    · exact ⟨caption, displayed.symm⟩
    · exact ⟨"", displayed.symm⟩

theorem NamesInterface.ofRow {row : Value} (h : NamesInterface row) :
    ∃ i, Interface.ofRow row = .ok i := by
  obtain ⟨fields, uri, rfl, found⟩ := h.named
  have named : Value.field (.object fields) "Uri" = .ok uri := by
    simp only [Value.field, found]
  exact ⟨⟨_, uri⟩, by unfold Interface.ofRow; rw [named]; rfl⟩

theorem interfacesOf_named {rows : Value} {items : List Value} (listed : rows.items = .ok items)
    (named : ∀ row ∈ items, NamesInterface row) :
    ∃ interfaces, interfacesOf rows = .ok interfaces := by
  unfold interfacesOf
  rw [listed]
  show ∃ interfaces, items.mapM Interface.ofRow = .ok interfaces
  clear listed
  induction items with
  | nil => exact ⟨[], rfl⟩
  | cons row rest ih =>
      obtain ⟨i, read⟩ := (named row List.mem_cons_self).ofRow
      obtain ⟨more, later⟩ := ih fun r member => named r (List.mem_cons_of_mem _ member)
      rw [List.mapM_cons, read, later]
      exact ⟨i :: more, rfl⟩

/-! ### Accounting for the rows -/

/-- What went wrong with a node as a whole, not with one of its interfaces. -/
def Incident.isOfNode : Incident → Bool
  | .node .. => true
  | .interface .. => false

/-- What a visit owes to the row of its node, when it follows some requests. -/
structure Answers (c : Connection) (remote : Remote) (patterns : Value) (before : List Request)
    (node : Entity) (v : Visit) : Prop where
  /-- What is sent is for this node: it gets the node ready, asks for its interfaces or deletes one
  of them. -/
  own : ∀ r ∈ v.sent, ∃ number, nodeNumber node.reference = .ok (some number) ∧
    (c.Prepares number r ∨ r = c.interfaceRequest number ∨ ∃ i, r = c.removal i)
  /-- The node is either reported, under the number that it refers to, or listed once as failed. -/
  once : (∃ report, v.outcome.node = some report ∧
      nodeNumber node.reference = .ok (some report.number) ∧
      v.outcome.incidents.filter Incident.isOfNode = []) ∨
    (v.outcome.node = none ∧ ∃ fault,
      v.outcome.incidents.filter Incident.isOfNode = [node.failure fault])
  /-- When the interfaces of the node are listed and can be compared with the patterns, the node is
  reported, and its interfaces meet their fates in the order of their rows: those that stay are in
  the report, every other one is deleted by one request, and the deletions that fail are listed. -/
  settles : TextPatterns patterns → ∀ (number : Int) (lead more : List Request) (rows : Value)
    (items : List Value), v.sent = lead ++ c.interfaceRequest number :: more →
    c.queried remote (before ++ lead) interfaceQuery [("nodeId", .int number)] = .ok rows →
    rows.items = .ok items → (∀ row ∈ items, NamesInterface row) →
    ∃ report fates, v.outcome.node = some report ∧
      List.Forall₂ (fun row fate => Interface.ofRow row = .ok fate.1) items fates ∧
      Pruned c remote patterns (before ++ lead ++ [c.interfaceRequest number]) fates more ∧
      report.interfaces = keptOf fates ∧ v.outcome.incidents = incidentsOf report.name fates

/-- Each row of a batch that names a node has a visit that answers it, in the order of the rows and
one after the other; for the other rows there is none. -/
inductive Accounted (c : Connection) (remote : Remote) (patterns : Value) :
    List Request → List Fields → List Visit → Prop
  | done (before : List Request) : Accounted c remote patterns before [] []
  | other {before : List Request} {row : Fields} {rows : List Fields} {visits : List Visit} :
      ¬NamesNode row → Accounted c remote patterns before rows visits →
      Accounted c remote patterns before (row :: rows) visits
  | node {before : List Request} {row : Fields} {rows : List Fields} {v : Visit}
      {visits : List Visit} : NamesNode row →
      Answers c remote patterns before (.ofFields row) v →
      Accounted c remote patterns (before ++ v.sent) rows visits →
      Accounted c remote patterns before (row :: rows) (v :: visits)

section visited

variable {c : Connection} {patterns : Value} {before : List Request} {node : Entity} {v : Visit}

theorem incidentsOf_isOfNode (name : Value) (fates : List (Interface × Fate)) :
    (incidentsOf name fates).filter Incident.isOfNode = [] := by
  refine List.filter_eq_nil_iff.mpr fun incident member => ?_
  obtain ⟨⟨i, fate⟩, -, noted⟩ := List.mem_filterMap.mp member
  cases fate <;> cases noted
  exact Bool.false_ne_true

theorem Visited.once (h : Visited c remote patterns before node v) :
    (∃ report, v.outcome.node = some report ∧
      nodeNumber node.reference = .ok (some report.number) ∧
      v.outcome.incidents.filter Incident.isOfNode = []) ∨
    (v.outcome.node = none ∧ ∃ fault,
      v.outcome.incidents.filter Incident.isOfNode = [node.failure fault]) := by
  cases h with
  | @unready lead fault _ => exact .inr ⟨rfl, fault, rfl⟩
  | @unlisted number lead fault _ _ _ => exact .inr ⟨rfl, fault, rfl⟩
  | @listed lead sent p address fates rest stop named _ _ _ _ _ =>
      cases stop with
      | none => exact .inl ⟨_, rfl, named, incidentsOf_isOfNode p.name fates⟩
      | some fault =>
          refine .inr ⟨rfl, fault, ?_⟩
          show (incidentsOf p.name fates ++ [node.failure fault]).filter _ = _
          rw [List.filter_append, incidentsOf_isOfNode]
          rfl

theorem Pruned.deletes {fates : List (Interface × Fate)} {sent : List Request}
    (h : Pruned c remote patterns before fates sent) : ∀ r ∈ sent, ∃ i, r = c.removal i := by
  induction h with
  | done _ => exact nofun
  | kept _ _ ih => exact ih
  | deleted _ _ _ ih => exact List.forall_mem_cons.mpr ⟨⟨_, rfl⟩, ih⟩
  | undeletable _ _ _ ih => exact List.forall_mem_cons.mpr ⟨⟨_, rfl⟩, ih⟩

/-- Once a node is ready, or is not going to be, nothing is left but deleting. -/
theorem Finishes.deletes {prepared : Outcome PreparedNode} {outcome : Outcome NodeOutcome}
    {sent : List Request} (h : Finishes c remote patterns node prepared before outcome sent) :
    ∀ r ∈ sent, ∃ i, r = c.removal i := by
  cases prepared with
  | error fault =>
      obtain ⟨rfl, -⟩ := h
      exact List.forall_mem_nil _
  | ok p =>
      obtain ⟨address, fates, rest, stop, -, pruned, -, -⟩ := h
      exact pruned.deletes

theorem Visited.own (h : Visited c remote patterns before node v) :
    ∀ r ∈ v.sent, ∃ number, nodeNumber node.reference = .ok (some number) ∧
      (c.Prepares number r ∨ r = c.interfaceRequest number ∨ ∃ i, r = c.removal i) := by
  intro r member
  cases h with
  | unready prepares =>
      obtain ⟨number, named, prepared⟩ := prepares r member
      exact ⟨number, named, .inl prepared⟩
  | unlisted named prepares _ =>
      refine ⟨_, named, ?_⟩
      rcases List.mem_append.mp member with early | last
      · exact .inl (prepares r early)
      · exact .inr (.inl (List.mem_singleton.mp last))
  | listed named prepares _ _ pruned _ =>
      refine ⟨_, named, ?_⟩
      rcases List.mem_append.mp member with early | late
      · exact .inl (prepares r early)
      · rcases List.mem_cons.mp late with asks | removes
        · exact .inr (.inl asks)
        · exact .inr (.inr (pruned.deletes r removes))

theorem interfaceRequest_inj {number number' : Int}
    (same : c.interfaceRequest number = c.interfaceRequest number') : number = number' := by
  unfold Connection.interfaceRequest Connection.queryRequest at same
  simpa using same

/-- A visit asks for interfaces only once, after what gets the node ready. -/
theorem interfaceRequest_split {number number' : Int} {lead lead' sent more : List Request}
    (prepares : ∀ r ∈ lead', c.Prepares number' r) (deletes : ∀ r ∈ sent, ∃ i, r = c.removal i)
    (split : lead' ++ c.interfaceRequest number' :: sent =
      lead ++ c.interfaceRequest number :: more) :
    lead' = lead ∧ number' = number ∧ sent = more := by
  have early : c.interfaceRequest number ∉ lead' := fun member =>
    (prepares _ member).not_query _ _ rfl
  have late : c.interfaceRequest number ∉ sent := by
    intro member
    obtain ⟨i, same⟩ := deletes _ member
    exact Method.noConfusion (congrArg Request.method same)
  obtain ⟨rfl, same, rfl⟩ := (List.append_cons_inj_of_notMem early late).mp split
  exact ⟨rfl, interfaceRequest_inj same, rfl⟩

theorem Halts.decided {rest : List Interface} {stop : Option Fault} (h : Halts patterns rest stop)
    (decided : ∀ i ∈ rest, ∃ stays, keeps patterns i = .ok stays) : rest = [] ∧ stop = none := by
  cases h with
  | done => exact ⟨rfl, rfl⟩
  | undecided failed =>
      obtain ⟨stays, told⟩ := decided _ List.mem_cons_self
      rw [failed] at told
      cases told

theorem keeps_named (texts : TextPatterns patterns) {items : List Value}
    {interfaces : List Interface} (named : ∀ row ∈ items, NamesInterface row)
    (each : List.Forall₂ (fun row i => Interface.ofRow row = .ok i) items interfaces) :
    ∀ i ∈ interfaces, ∃ stays, keeps patterns i = .ok stays := by
  induction each with
  | nil => simp
  | cons read _ ih =>
      obtain ⟨first, later⟩ := List.forall_mem_cons.mp named
      obtain ⟨caption, shown⟩ := first.displayName read
      exact List.forall_mem_cons.mpr ⟨keeps_texts texts shown, ih later⟩

theorem Visited.settles (h : Visited c remote patterns before node v)
    (texts : TextPatterns patterns) {number : Int} {lead more : List Request} {rows : Value}
    {items : List Value} (asked : v.sent = lead ++ c.interfaceRequest number :: more)
    (answered : c.queried remote (before ++ lead) interfaceQuery [("nodeId", .int number)] =
      .ok rows) (listed : rows.items = .ok items) (named : ∀ row ∈ items, NamesInterface row) :
    ∃ report fates, v.outcome.node = some report ∧
      List.Forall₂ (fun row fate => Interface.ofRow row = .ok fate.1) items fates ∧
      Pruned c remote patterns (before ++ lead ++ [c.interfaceRequest number]) fates more ∧
      report.interfaces = keptOf fates ∧ v.outcome.incidents = incidentsOf report.name fates := by
  obtain ⟨interfaces, read⟩ := interfacesOf_named listed named
  cases h with
  | unready prepares =>
      have asks : c.interfaceRequest number ∈ lead ++ c.interfaceRequest number :: more := by simp
      obtain ⟨_, -, prepared⟩ := prepares _ (asked ▸ asks)
      exact absurd rfl (prepared.not_query _ _)
  | unlisted _ prepares failed =>
      obtain ⟨rfl, rfl, -⟩ := interfaceRequest_split prepares (by simp) asked
      rw [answered] at failed
      exact absurd (read.symm.trans failed) nofun
  | @listed _ _ p address fates rest stop _ prepares _ found pruned halts =>
      obtain ⟨rfl, rfl, rfl⟩ := interfaceRequest_split prepares pruned.deletes asked
      rw [answered] at found
      obtain ⟨_, same, each⟩ := interfacesOf_eq_ok found
      obtain rfl := Except.ok.inj (listed.symm.trans same)
      have decided := keeps_named texts named each
      obtain ⟨rfl, rfl⟩ := halts.decided fun i member => decided i (List.mem_append_right _ member)
      rw [List.append_nil, List.forall₂_map_right_iff] at each
      exact ⟨_, fates, rfl, each, pruned, rfl, rfl⟩

theorem Visited.answers (h : Visited c remote patterns before node v) :
    Answers c remote patterns before node v :=
  ⟨h.own, h.once, fun texts _ _ _ _ _ asked answered listed named =>
    h.settles texts asked answered listed named⟩

/-- The visits of the nodes in some rows account for the rows. -/
theorem Tour.accounted : ∀ {rows : List Fields} {before : List Request} {visits : List Visit},
    Tour (Visited c remote patterns) before ((rows.map Entity.ofFields).filter (·.isNode)) visits →
      Accounted c remote patterns before rows visits
  | [], _, _, .done before => .done before
  | row :: rows, before, visits, tour => by
      rw [List.map_cons] at tour
      by_cases names : NamesNode row
      · rw [List.filter_cons_of_pos ((isNode_iff row).mpr names)] at tour
        cases tour with
        | visit visited more => exact .node names visited.answers more.accounted
      · rw [List.filter_cons_of_neg (mt (isNode_iff row).mp names)] at tour
        exact .other names tour.accounted

end visited

/-- A finished batch whose rows are objects is always reconciled, whatever else the server answers:
the report is put together from visits, one after the other, that account for the rows. -/
theorem batch_accounted (c : Connection) (remote : Remote) (options : ReconcileOptions)
    (job : Value) (status : Status) (trace : Trace) {l : DiscoveryLog} {rows : List Fields}
    (finished : l.result = .finished)
    (listed : c.queried remote trace.sent itemQuery [("batchId", l.batch)] =
      .ok (.list (rows.map .object))) :
    ∃ (visits : List Visit) (report : Report) (after : Trace),
      reconcile c job status (some l) options remote trace = (.ok report, after) ∧
      after.sent = trace.sent ++ c.itemRequest l.batch :: visits.flatMap Visit.sent ∧
      report.nodes = visits.filterMap (·.outcome.node) ∧
      report.incidents = visits.flatMap (·.outcome.incidents) ∧
      Accounted c remote options.patterns (trace.sent ++ [c.itemRequest l.batch]) rows visits := by
  obtain ⟨added, sent, holds⟩ :=
    reconcile_batch (reconcileNode_visited c options) job status finished trace
  have read : c.queried remote trace.sent itemQuery [("batchId", l.batch)] >>= entitiesOf =
      .ok (rows.map Entity.ofFields) := by
    rw [listed]
    exact entitiesOf_objects rows
  rw [read] at holds
  rcases holds with ⟨_, ⟨⟩, -⟩ | ⟨_, visits, ⟨⟩, tour, ended, rfl⟩
  exact ⟨visits, _, _, Prod.ext ended rfl, sent, rfl, rfl, tour.accounted⟩

/-! ### Rows of texts -/

theorem eq_map_of_mapM_eq_some {α β : Type} {f : α → Option β} {g : β → α}
    (inverse : ∀ {a b}, f a = some b → a = g b) :
    ∀ {as : List α} {bs : List β}, as.mapM f = some bs → as = bs.map g
  | [], _, h => by
      obtain rfl := Option.some.inj h
      rfl
  | a :: rest, _, h => by
      rw [List.mapM_cons] at h
      obtain ⟨b, first, h⟩ := Option.bind_eq_some_iff.mp h
      obtain ⟨more, later, h⟩ := Option.bind_eq_some_iff.mp h
      obtain rfl := Option.some.inj h
      rw [List.map_cons, inverse first, eq_map_of_mapM_eq_some inverse later]

/-- A row of texts. -/
def Fields.ofTexts (row : List (String × String)) : Fields := row.map fun (k, s) => (k, .text s)

/-- The texts in an object that holds nothing else. -/
def textRow? : Value → Option (List (String × String))
  | .object fields => fields.mapM fun
      | (k, .text s) => some (k, s)
      | _ => none
  | _ => none

/-- The texts in rows that hold nothing else. -/
def textRows? : Outcome Value → Option (List (List (String × String)))
  | .ok (.list items) => items.mapM textRow?
  | _ => none

theorem textRow?_eq_some {v : Value} {row : List (String × String)} (h : textRow? v = some row) :
    v = .object (Fields.ofTexts row) := by
  cases v with
  | object fields =>
      refine congrArg Value.object (eq_map_of_mapM_eq_some (fun {field entry} same => ?_) h)
      obtain ⟨k, v⟩ := field
      cases v <;> cases same
      rfl
  | _ => cases h

theorem textRows?_eq_some {answer : Outcome Value} {rows : List (List (String × String))}
    (h : textRows? answer = some rows) :
    answer = .ok (.list ((rows.map Fields.ofTexts).map .object)) := by
  unfold textRows? at h
  split at h
  case h_1 items =>
    rw [eq_map_of_mapM_eq_some textRow?_eq_some h, List.map_map]
    rfl
  case h_2 => cases h

/-- A server that lists a node and something else, and three interfaces of the node, one of which it
then refuses to delete. -/
def sampleServer : Remote :=
  .answering
    ["\x7b\"results\": [\x7b\"EntityType\": \"Orion.Nodes\", \"NetObjectID\": \"N:5\"\x7d, \x7b\x7d]\x7d",
      "\x7b\"Caption\": \"core\"\x7d",
      "\x7b\"results\": [\x7b\"Caption\": \"G\", \"Uri\": \"u0\"\x7d, \x7b\"Caption\": null, \"Uri\": \"u1\"\x7d, " ++
        "\x7b\"Caption\": \"V\", \"Uri\": \"u2\"\x7d]\x7d",
      ""]

/-- The rows that it lists. -/
def sampleRows : List Fields :=
  [[("EntityType", "Orion.Nodes"), ("NetObjectID", "N:5")], []].map Fields.ofTexts

/-- A node with three interfaces: one stays, one is deleted and one cannot be. -/
theorem batch_accounted_sample :
    sampleConnection.queried sampleServer [] itemQuery [("batchId", .text "b")] =
        .ok (.list (sampleRows.map .object)) ∧
    ∃ (visits : List Visit) (report : Report) (after : Trace),
      reconcile sampleConnection (.text "42") .finished
        (some { result := .finished, batch := .text "b" }) { patterns := .texts ["g*"] }
        sampleServer {} = (.ok report, after) ∧
      (report.nodes.map (·.interfaces.length), report.incidents.length, after.sent.length) =
        ([1], 1, 5) ∧
      after.sent = sampleConnection.itemRequest (.text "b") :: visits.flatMap Visit.sent ∧
      report.nodes = visits.filterMap (·.outcome.node) ∧
      report.incidents = visits.flatMap (·.outcome.incidents) ∧
      Accounted sampleConnection sampleServer (.texts ["g*"])
        [sampleConnection.itemRequest (.text "b")] sampleRows visits := by
  have listed : sampleConnection.queried sampleServer [] itemQuery [("batchId", .text "b")] =
      .ok (.list (sampleRows.map .object)) :=
    textRows?_eq_some (by decide +kernel)
  have summary : (reconcile sampleConnection (.text "42") .finished
      (some { result := .finished, batch := .text "b" }) { patterns := .texts ["g*"] }
      sampleServer {}).map (·.toOption.map fun r => (r.nodes.map (·.interfaces.length),
        r.incidents.length)) (·.sent.length) = (some ([1], 1), 5) := by decide +kernel
  obtain ⟨visits, report, after, run, sent, nodes, incidents, accounted⟩ :=
    batch_accounted sampleConnection sampleServer { patterns := .texts ["g*"] } (.text "42")
      .finished {} (l := { result := .finished, batch := .text "b" }) rfl listed
  rw [run] at summary
  refine ⟨listed, visits, report, after, run, ?_, sent, nodes, incidents, accounted⟩
  simpa [Except.toOption, and_assoc] using summary

end NodeInventory
