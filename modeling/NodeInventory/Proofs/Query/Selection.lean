import NodeInventory.Proofs.Query.Meaning
import NodeInventory.Query.Filter

/-!
# What a filter selects

A filter's parameters say which rows it admits: of every dimension that includes values one has to
accept the row's text, and none that is excluded; the severity of a syslog message lies between
its bounds, and the time of all rows that have one lies in the window.  The statement of the
filter selects these rows and no other ones, `filter_selects`.
-/

namespace NodeInventory

/-! ### Parameters -/

/-- The parameters of a filter. -/
structure Parameters where
  includes : Dimension → List String := fun _ => []
  excludes : Dimension → List String := fun _ => []
  least : Int := SeverityScale.leastSevere
  most : Int := SeverityScale.mostSevere
  leastKeyword : Option String := none
  mostKeyword : Option String := none
  toggles : MessageToggles := {}
  window : Window := {}
  limit : Int := 0
  fields : List String := []
  properties : List String := []

/-- A keyword as a value, null when it is absent. -/
def keywordValue (keyword : Option String) : Value := keyword.elim .null .text

namespace Parameters

/-- The filter that has the parameters. -/
def filter (p : Parameters) : Filter where
  includes d := .texts (p.includes d)
  excludes d := .texts (p.excludes d)
  severity :=
    { least := .int p.least
      most := .int p.most
      leastKeyword := keywordValue p.leastKeyword
      mostKeyword := keywordValue p.mostKeyword }
  toggles := p.toggles
  window := some p.window
  limit := .int p.limit
  fields := .texts p.fields
  customProperties := .texts p.properties

/-- A value is included: it is asked for, or it is a hardware report and these are. -/
def Includes (p : Parameters) (d : Dimension) (v : String) : Prop :=
  v ∈ p.includes d ∨
    d = .messageType ∧ p.toggles.includeAll = false ∧ p.toggles.includeHardware = true ∧
      v ∈ MessageToggles.hardwareTypes

/-- A value is excluded: it is asked for, or it belongs to a group of message types that is left
out, unless all of them are included. -/
def Excludes (p : Parameters) (d : Dimension) (v : String) : Prop :=
  v ∈ p.excludes d ∨
    d = .messageType ∧ p.toggles.includeAll = false ∧
      (p.toggles.excludeEmpty = true ∧ v = "" ∨
        p.toggles.excludeLinkStatus = true ∧ v ∈ MessageToggles.linkStatusTypes ∨
        p.toggles.excludePoeStatus = true ∧ v ∈ MessageToggles.poeStatusTypes)

end Parameters

/-- A keyword is absent, empty or a word of the severity scale. -/
def KeywordValid (keyword : Option String) : Prop :=
  ∀ k, keyword = some k → k ≠ "" → Text.lower k ∈ SeverityScale.keywords

/-- A severity bound: the keyword's place in the scale when there is one, otherwise the number. -/
def severityBound (number : Int) (keyword : Option String) : Int :=
  match keyword with
  | none => number
  | some k => if k = "" then number else SeverityScale.keywords.idxOf (Text.lower k)

/-! ### Rows that are admitted -/

/-- The column of a dimension. -/
def Subject.column? : Subject → Dimension → Option String
  | _, .nodeName => some "Nodes.Caption"
  | .syslog, .ipAddress => some "SysLog.IPAddress"
  | _, .ipAddress => some "Nodes.IPAddress"
  | _, .vendor => some "Nodes.Vendor"
  | .event, .machineType => none
  | _, .machineType => some "Nodes.MachineType"
  | .syslog, .messageType => some "SysLog.MessageType"
  | .event, .eventType => some "Events.EventType"
  | .syslog, .message => some "SysLog.Message"
  | .event, .message => some "Events.Message"
  | .node, .status => some "Nodes.Status"
  | _, _ => none

/-- The column of the time. -/
def Subject.timeColumn? : Subject → Option String
  | .syslog => some "SysLog.DateTime"
  | .event => some "Events.EventTime"
  | .node => none

/-- A value accepts a text: as a pattern when it has an asterisk, otherwise as the text itself. -/
def Accepts (v text : String) : Prop :=
  if isPattern v then Like (wildcards v).toList text.toList else text = v

/-- The parameters admit a row. -/
structure Parameters.Admits (p : Parameters) (subject : Subject) (now : DateTime)
    (order : RowOrder) (row : Row) : Prop where
  included : ∀ d column, subject.column? d = some column → (∃ v, p.Includes d v) →
    ∃ v, p.Includes d v ∧ Accepts v (row column)
  excluded : ∀ d column, subject.column? d = some column → ∀ v, p.Excludes d v →
    ¬Accepts v (row column)
  severity : subject = .syslog →
    order "SysLog.SysLogSeverity" (row "SysLog.SysLogSeverity")
        (toString (severityBound p.least p.leastKeyword)) ∧
      order "SysLog.SysLogSeverity" (toString (severityBound p.most p.mostKeyword))
        (row "SysLog.SysLogSeverity")
  time : ∀ column, subject.timeColumn? = some column → ∀ start stop,
    p.window.resolve now = .ok (start, stop) →
      (∀ t, start = some t → order column t.stamp (row column)) ∧
        (∀ t, stop = some t → order column (row column) t.stamp)

/-! ### The bindings of a filter -/

/-- The values that a dimension includes. -/
def Parameters.wanted (p : Parameters) (d : Dimension) : List String :=
  p.includes d ++ if d = .messageType then p.toggles.included else []

/-- The values that a dimension excludes. -/
def Parameters.unwanted (p : Parameters) (d : Dimension) : List String :=
  p.excludes d ++ if d = .messageType then p.toggles.excluded else []

theorem mem_wanted {p : Parameters} {d : Dimension} {v : String} :
    v ∈ p.wanted d ↔ p.Includes d v := by
  unfold Parameters.wanted Parameters.Includes MessageToggles.included
  by_cases type : d = .messageType
  · cases p.toggles.includeAll <;> cases p.toggles.includeHardware <;> simp [type]
  · simp [type]

theorem mem_unwanted {p : Parameters} {d : Dimension} {v : String} :
    v ∈ p.unwanted d ↔ p.Excludes d v := by
  unfold Parameters.unwanted Parameters.Excludes MessageToggles.excluded
  by_cases type : d = .messageType
  · cases p.toggles.includeAll <;> cases p.toggles.excludeEmpty <;>
      cases p.toggles.excludeLinkStatus <;> cases p.toggles.excludePoeStatus <;>
      simp [type, MessageToggles.emptyTypes]
  · simp [type]

theorem listed_texts (ss : List String) : Filter.listed (.texts ss) = .ok (ss.map .text) := by
  cases ss <;> rfl

theorem included_eq (p : Parameters) (d : Dimension) :
    p.filter.included d = .ok ((p.wanted d).map .text) := by
  cases d with
  | messageType =>
      unfold Parameters.wanted
      rw [if_pos rfl, List.map_append]
      rfl
  | _ => exact (listed_texts _).trans (by simp [Parameters.wanted])

theorem excluded_eq (p : Parameters) (d : Dimension) :
    p.filter.excluded d = .ok ((p.unwanted d).map .text) := by
  cases d with
  | messageType =>
      unfold Parameters.unwanted
      rw [if_pos rfl, List.map_append]
      rfl
  | _ => exact (listed_texts _).trans (by simp [Parameters.unwanted])

/-- The bindings of the dimensions of a subject. -/
def Parameters.dimensionBindings (p : Parameters) (subject : Subject) : List Binding :=
  subject.columns.flatMap fun (d, column) =>
    [⟨column, .eq, p.wanted d⟩, ⟨column, .neq, p.unwanted d⟩]

theorem bind_eq (column : String) (op : Operator) (vs : List String) :
    Filter.bind column op (.ok (vs.map .text)) = .ok ⟨column, op, vs⟩ := by
  show Except.ok _ = Except.ok _
  simp [Value.shown, Function.comp_def]

theorem dimensionBindings_eq (p : Parameters) (subject : Subject) :
    p.filter.dimensionBindings subject = .ok (p.dimensionBindings subject) := by
  unfold Filter.dimensionBindings
  have pair : (fun (column : Dimension × String) => (do
        let wanted ← Filter.bind column.2 .eq (p.filter.included column.1)
        let unwanted ← Filter.bind column.2 .neq (p.filter.excluded column.1)
        pure [wanted, unwanted] : Outcome (List Binding))) =
      fun column =>
        pure [⟨column.2, .eq, p.wanted column.1⟩, ⟨column.2, .neq, p.unwanted column.1⟩] := by
    funext column
    rw [included_eq, excluded_eq, bind_eq, bind_eq]
    rfl
  rw [pair, List.mapM_pure]
  rfl

/-- The bindings of the severity. -/
def Parameters.severityBindings (p : Parameters) (subject : Subject) : List Binding :=
  if subject.hasSeverity then
    [⟨Filter.severityColumn, .le, [toString (severityBound p.least p.leastKeyword)]⟩,
     ⟨Filter.severityColumn, .ge, [toString (severityBound p.most p.mostKeyword)]⟩]
  else []

theorem rank?_of_mem {k : String} (known : k ∈ SeverityScale.keywords) :
    SeverityScale.rank? k = some (SeverityScale.keywords.idxOf k) := by
  have found : (SeverityScale.rank? k).isSome := List.isSome_idxOf?.mpr known
  obtain ⟨rank, same⟩ := Option.isSome_iff_exists.mp found
  obtain ⟨bound, here, first⟩ := List.idxOf?_eq_some_iff.mp same
  have place : SeverityScale.keywords.idxOf k = rank := by
    subst here
    have distinct : SeverityScale.keywords.Nodup := by decide
    exact distinct.idxOf_getElem rank bound
  rw [same, place]

theorem bound_eq (number : Int) {keyword : Option String} (valid : KeywordValid keyword) :
    SeverityChoice.bound (.int number) (keywordValue keyword) =
      .ok (.int (severityBound number keyword)) := by
  cases keyword with
  | none => rfl
  | some k =>
      by_cases empty : k = ""
      · subst empty
        rfl
      · have given : (Value.text k).truthy = true := by simp [Value.truthy, empty]
        have word : SeverityChoice.ofKeyword (.text k) =
            .ok (.int (SeverityScale.keywords.idxOf (Text.lower k))) := by
          have known := rank?_of_mem (valid k rfl empty)
          unfold SeverityChoice.ofKeyword
          simp only [Value.textFor, bind, Except.bind, known]
          rfl
        simp only [keywordValue, Option.elim_some, SeverityChoice.bound, given, if_true, word,
          severityBound, if_neg empty]

theorem severityBindings_eq (p : Parameters) (subject : Subject)
    (least : subject = .syslog → KeywordValid p.leastKeyword)
    (most : subject = .syslog → KeywordValid p.mostKeyword) :
    p.filter.severityBindings subject = .ok (p.severityBindings subject) := by
  cases subject with
  | syslog =>
      have bounds : p.filter.severity.bounds =
          .ok (.int (severityBound p.least p.leastKeyword),
            .int (severityBound p.most p.mostKeyword)) := by
        have low := bound_eq p.least (least rfl)
        have high := bound_eq p.most (most rfl)
        simp only [SeverityChoice.bounds, Parameters.filter, low, high]
        rfl
      unfold Filter.severityBindings
      rw [bounds]
      rfl
  | event => rfl
  | node => rfl

/-- The bindings of the window. -/
def Parameters.timeBindings (p : Parameters) (subject : Subject) (now : DateTime) : List Binding :=
  match subject.timeColumn?, p.window.resolve now with
  | some column, .ok (start, stop) => windowBindings column start stop
  | _, _ => []

theorem timeBindings_eq (p : Parameters) (subject : Subject) (now : DateTime)
    (resolvable : subject ≠ .node → ∃ window, p.window.resolve now = .ok window) :
    p.filter.timeBindings subject now = .ok (p.timeBindings subject now) := by
  cases subject with
  | node => rfl
  | _ =>
      obtain ⟨window, resolved⟩ := resolvable (by decide)
      simp only [Filter.timeBindings, Parameters.timeBindings, Parameters.filter, resolved]
      rfl

/-- All bindings of a filter. -/
def Parameters.bindings (p : Parameters) (subject : Subject) (now : DateTime) : List Binding :=
  p.dimensionBindings subject ++ p.severityBindings subject ++ p.timeBindings subject now

/-- The texts in a list. -/
def textsOf : Value → List String
  | .list vs => vs.filterMap fun
      | .text s => some s
      | _ => none
  | _ => []

theorem defaultFields_eq (subject : Subject) :
    subject.definition.defaultFields = .texts (textsOf subject.definition.defaultFields) := by
  cases subject <;> rfl

/-- A statement up to the condition of a filter. -/
def Parameters.opening (p : Parameters) (subject : Subject) : String :=
  NodeInventory.opening subject.definition p.limit (textsOf subject.definition.defaultFields)
    p.fields p.properties

theorem filter_statement_eq (p : Parameters) (subject : Subject) (now : DateTime)
    (least : subject = .syslog → KeywordValid p.leastKeyword)
    (most : subject = .syslog → KeywordValid p.mostKeyword)
    (resolvable : subject ≠ .node → ∃ window, p.window.resolve now = .ok window) :
    p.filter.statement subject now =
      .ok (p.opening subject ++ wherePart (p.bindings subject now) ++ " " ++
        orderPart subject.definition) := by
  have bindings : p.filter.bindings subject =
      .ok (p.dimensionBindings subject ++ p.severityBindings subject) := by
    rw [Filter.bindings, dimensionBindings_eq, severityBindings_eq p subject least most]
    rfl
  rw [Filter.statement, bindings, timeBindings_eq p subject now resolvable]
  exact statement_eq (defaultFields_eq subject) p.limit p.fields p.properties
    (p.bindings subject now)

/-! ### What the bindings demand -/

section demands

variable {order : RowOrder} {row : Row}

/-- A binding has no values, or it holds. -/
def Binding.Demands (b : Binding) (order : RowOrder) (row : Row) : Prop :=
  b.given = true → b.Holds order row

theorem termHolds_eq {field v : String} :
    TermHolds order row field .eq v ↔ Accepts v (row field) := by
  unfold TermHolds Accepts
  cases pattern : isPattern v with
  | true => simp [comparator, Comparator.Holds]
  | false => simp [comparator, Comparator.Holds, wildcards_of_not_pattern pattern]

theorem termHolds_neq {field v : String} :
    TermHolds order row field .neq v ↔ ¬Accepts v (row field) := by
  unfold TermHolds Accepts
  cases pattern : isPattern v with
  | true => simp [comparator, Comparator.Holds]
  | false => simp [comparator, Comparator.Holds, wildcards_of_not_pattern pattern]

theorem Stamped.not_pattern {v : String} (h : Stamped v) : isPattern v = false := by
  have none_ : '*' ∉ v.toList := h.not_mem (by decide)
  simpa [isPattern] using none_

theorem given_iff {b : Binding} : b.given = true ↔ ∃ v, v ∈ b.values := by
  unfold Binding.given
  cases b.values <;> simp

theorem demands_eq {field : String} {vs : List String} :
    (Binding.mk field .eq vs).Demands order row ↔
      ((∃ v, v ∈ vs) → ∃ v ∈ vs, Accepts v (row field)) := by
  simp only [Binding.Demands, given_iff, Binding.Holds, Operator.negated, Bool.false_eq_true,
    if_false, termHolds_eq]

theorem demands_neq {field : String} {vs : List String} :
    (Binding.mk field .neq vs).Demands order row ↔ ∀ v ∈ vs, ¬Accepts v (row field) := by
  simp only [Binding.Demands, given_iff, Binding.Holds, Operator.negated, if_true, termHolds_neq]
  constructor
  · intro all v member
    exact all ⟨v, member⟩ v member
  · intro all _
    exact all

theorem demands_le {field v : String} (h : Stamped v) :
    (Binding.mk field .le [v]).Demands order row ↔ order field (row field) v := by
  have plain_ := h.not_pattern
  simp [Binding.Demands, Binding.given, Binding.Holds, Operator.negated, TermHolds, plain_,
    comparator, Comparator.Holds, wildcards_of_not_pattern]

theorem demands_ge {field v : String} (h : Stamped v) :
    (Binding.mk field .ge [v]).Demands order row ↔ order field v (row field) := by
  have plain_ := h.not_pattern
  simp [Binding.Demands, Binding.given, Binding.Holds, Operator.negated, TermHolds, plain_,
    comparator, Comparator.Holds, wildcards_of_not_pattern]

theorem dimensions_demand (p : Parameters) (subject : Subject) :
    (∀ b ∈ p.dimensionBindings subject, b.Demands order row) ↔
      ∀ d column, subject.column? d = some column →
        ((∃ v, p.Includes d v) → ∃ v, p.Includes d v ∧ Accepts v (row column)) ∧
          ∀ v, p.Excludes d v → ¬Accepts v (row column) := by
  have table (d : Dimension) (column : String) :
      (d, column) ∈ subject.columns ↔ subject.column? d = some column := by
    cases subject <;> cases d <;> simp [Subject.columns, Subject.column?, eq_comm]
  have pair (d : Dimension) (column : String) :
      (∀ b ∈ [Binding.mk column .eq (p.wanted d), ⟨column, .neq, p.unwanted d⟩],
          b.Demands order row) ↔
        ((∃ v, p.Includes d v) → ∃ v, p.Includes d v ∧ Accepts v (row column)) ∧
          ∀ v, p.Excludes d v → ¬Accepts v (row column) := by
    simp only [List.forall_mem_cons, List.not_mem_nil, false_implies, implies_true, and_true,
      demands_eq, demands_neq, mem_wanted, mem_unwanted]
  simp only [Parameters.dimensionBindings, List.mem_flatMap, Prod.exists]
  constructor
  · intro all d column here
    refine (pair d column).mp fun b member => all b ⟨d, column, (table d column).mpr here, member⟩
  · rintro all b ⟨d, column, here, member⟩
    exact (pair d column).mpr (all d column ((table d column).mp here)) b member

theorem severity_demands (p : Parameters) (subject : Subject) :
    (∀ b ∈ p.severityBindings subject, b.Demands order row) ↔
      (subject = .syslog →
        order "SysLog.SysLogSeverity" (row "SysLog.SysLogSeverity")
            (toString (severityBound p.least p.leastKeyword)) ∧
          order "SysLog.SysLogSeverity" (toString (severityBound p.most p.mostKeyword))
            (row "SysLog.SysLogSeverity")) := by
  cases subject with
  | syslog =>
      simp only [Parameters.severityBindings, Subject.hasSeverity, if_true, List.forall_mem_cons,
        demands_le (stamped_int _), demands_ge (stamped_int _), Filter.severityColumn]
      simp
  | _ => simp [Parameters.severityBindings, Subject.hasSeverity]

theorem window_demands (column : String) (start stop : Option DateTime) :
    (∀ b ∈ windowBindings column start stop, b.Demands order row) ↔
      (∀ t, start = some t → order column t.stamp (row column)) ∧
        (∀ t, stop = some t → order column (row column) t.stamp) := by
  cases start <;> cases stop <;>
    simp [windowBindings, demands_le (stamped_stamp _), demands_ge (stamped_stamp _)]

theorem time_demands (p : Parameters) (subject : Subject) (now : DateTime) :
    (∀ b ∈ p.timeBindings subject now, b.Demands order row) ↔
      ∀ column, subject.timeColumn? = some column → ∀ start stop,
        p.window.resolve now = .ok (start, stop) →
          (∀ t, start = some t → order column t.stamp (row column)) ∧
            (∀ t, stop = some t → order column (row column) t.stamp) := by
  unfold Parameters.timeBindings
  cases timed : subject.timeColumn? with
  | none => simp
  | some column =>
      cases resolved : p.window.resolve now with
      | error fault => simp
      | ok window =>
          obtain ⟨start, stop⟩ := window
          rw [window_demands]
          constructor
          · rintro both _ ⟨⟩ _ _ ⟨⟩
            exact both
          · intro all
            exact all column rfl start stop rfl

end demands

/-- What the bindings of a filter demand is what its parameters admit. -/
theorem bindings_demand (p : Parameters) (subject : Subject) (now : DateTime) (order : RowOrder)
    (row : Row) :
    (∀ b ∈ p.bindings subject now, b.Demands order row) ↔ p.Admits subject now order row := by
  rw [Parameters.bindings, List.forall_mem_append, List.forall_mem_append, dimensions_demand,
    severity_demands, time_demands]
  constructor
  · rintro ⟨⟨dimensions, severity⟩, time⟩
    exact ⟨fun d column here => (dimensions d column here).1,
      fun d column here => (dimensions d column here).2, severity, time⟩
  · rintro ⟨included, excluded, severity, time⟩
    exact ⟨⟨fun d column here => ⟨included d column here, excluded d column here⟩, severity⟩, time⟩

theorem bindings_word (p : Parameters) (subject : Subject) (now : DateTime) :
    ∀ b ∈ p.bindings subject now, IsWord b.field := by
  have columns : ∀ entry ∈ subject.columns, IsWord entry.2 := by
    cases subject <;> decide
  have times : ∀ column, subject.timeColumn? = some column → IsWord column := by
    cases subject <;> simp only [Subject.timeColumn?] <;> rintro _ ⟨⟩ <;> decide
  have severity : IsWord Filter.severityColumn := by decide
  intro b member
  unfold Parameters.bindings at member
  rcases List.mem_append.mp member with first | time
  · rcases List.mem_append.mp first with dimension | bound
    · obtain ⟨⟨d, column⟩, here, pair⟩ := List.mem_flatMap.mp dimension
      have same : b.field = column := by
        simp only [List.mem_cons, List.not_mem_nil, or_false] at pair
        rcases pair with rfl | rfl <;> rfl
      rw [same]
      exact columns _ here
    · have same : b.field = Filter.severityColumn := by
        unfold Parameters.severityBindings at bound
        split at bound
        · simp only [List.mem_cons, List.not_mem_nil, or_false] at bound
          rcases bound with rfl | rfl <;> rfl
        · cases bound
      rw [same]
      exact severity
  · unfold Parameters.timeBindings at time
    split at time
    · rename_i column start stop timed _
      have same : b.field = column := by
        simp only [windowBindings, List.mem_append, List.mem_map] at time
        rcases time with ⟨t, -, rfl⟩ | ⟨t, -, rfl⟩ <;> rfl
      rw [same]
      exact times column timed
    · cases time

/-! ### The statement of a filter -/

theorem wherePart_eq (bindings : List Binding) :
    wherePart bindings = (whereText bindings).elim "" (" WHERE " ++ ·) := by
  unfold wherePart whereText
  cases bindings.any Binding.given <;> rfl

/-- The condition in the statement of a filter selects the rows that the parameters admit; without
a condition the parameters admit all rows. -/
theorem filter_selects (subject : Subject) (p : Parameters) (now : DateTime)
    (least : subject = .syslog → KeywordValid p.leastKeyword)
    (most : subject = .syslog → KeywordValid p.mostKeyword)
    (resolvable : subject ≠ .node → ∃ window, p.window.resolve now = .ok window) :
    ∃ (where_ : Option String) (cond : Option Cond),
      p.filter.statement subject now =
        .ok (p.opening subject ++ where_.elim "" (" WHERE " ++ ·) ++ " " ++
          orderPart subject.definition) ∧
      where_.map readCondition = cond.map some ∧
      ∀ order row, (∀ c, cond = some c → c.Holds order row) ↔ p.Admits subject now order row := by
  obtain ⟨cond, read, holds⟩ := condition_meaning (bindings_word p subject now)
  refine ⟨whereText (p.bindings subject now), cond, ?_, read, fun order row => ?_⟩
  · rw [filter_statement_eq p subject now least most resolvable, wherePart_eq]
  · rw [holds]
    exact bindings_demand p subject now order row

/-- Errors of the last two hours from core nodes, and hardware reports, without a noisy text. -/
def sampleParameters : Parameters where
  includes
    | .nodeName => ["core*", "edge-1"]
    | _ => []
  excludes
    | .message => ["it\x27s *", "AND"]
    | _ => []
  leastKeyword := some "ERR"
  toggles := { includeHardware := true }
  window := { hours := .int 2 }
  limit := 100

def sampleTime : DateTime := ⟨63880000000000000, none, by decide⟩

theorem filter_selects_sample :
    KeywordValid sampleParameters.leastKeyword ∧ KeywordValid sampleParameters.mostKeyword ∧
      (∃ window, sampleParameters.window.resolve sampleTime = .ok window) ∧
      ∃ (where_ : Option String) (cond : Option Cond),
        sampleParameters.filter.statement .syslog sampleTime =
          .ok (sampleParameters.opening .syslog ++ where_.elim "" (" WHERE " ++ ·) ++ " " ++
            orderPart syslogDefinition) ∧
        where_.map readCondition = cond.map some ∧
        ∀ order row, (∀ c, cond = some c → c.Holds order row) ↔
          sampleParameters.Admits .syslog sampleTime order row := by
  have least : KeywordValid sampleParameters.leastKeyword := by
    rintro k ⟨⟩ _
    decide +kernel
  have most : KeywordValid sampleParameters.mostKeyword := by
    rintro k ⟨⟩
  have resolvable : ∃ window, sampleParameters.window.resolve sampleTime = .ok window :=
    ⟨_, rfl⟩
  exact ⟨least, most, resolvable, filter_selects .syslog sampleParameters sampleTime
    (fun _ => least) (fun _ => most) (fun _ => resolvable)⟩

end NodeInventory
