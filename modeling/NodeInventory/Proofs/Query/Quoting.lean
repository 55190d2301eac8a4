import NodeInventory.Proofs.Query.Literal
import NodeInventory.Proofs.Text.Numeral
import NodeInventory.Query.Statement

/-!
# Values in a statement

The values of a statement's bindings are its literals and nothing else of it: a statement is read
outside of the literals to its end, its literals are the values in their order, and what is left
when the literals are blanked is made of the shapes of the bindings, `outline`.  The main
statement is `values_keep_structure`; the symbols of terms, clauses and conditions come first.
-/

namespace NodeInventory

/-! ### Terms, clauses and conditions -/

theorem wildcards_of_not_pattern {v : String} (h : isPattern v = false) : wildcards v = v := by
  have none_ : '*' ∉ v.toList := by simpa [isPattern] using h
  have same : v.toList.map (fun c => if c = '*' then '%' else c) = v.toList.map id := by
    refine List.map_congr_left fun c member => if_neg ?_
    rintro rfl
    exact none_ member
  rw [wildcards, same, List.map_id, String.ofList_toList]

theorem comparison_literal (op : Operator) (v : String) : (comparison op v).2 = wildcards v := by
  unfold comparison
  cases h : isPattern v with
  | true => rfl
  | false => exact (wildcards_of_not_pattern h).symm

/-- What a term compares a value by. -/
def sign (op : Operator) (pattern : Bool) : String := if pattern then op.likeSymbol else op.symbol

theorem comparison_sign (op : Operator) (v : String) : (comparison op v).1 = sign op (isPattern v) := by
  unfold comparison sign
  cases isPattern v <;> rfl

/-- A term up to its literal. -/
def termLead (field : String) (op : Operator) (pattern : Bool) : String :=
  field ++ " " ++ sign op pattern ++ " "

/-- The symbols of a term. -/
def termSymbols (field : String) (op : Operator) (v : String) : List Symbol :=
  plain (termLead field op (isPattern v)) ++ [.literal (wildcards v)]

/-- The symbols of the clause of a binding with values. -/
def clauseSymbols (b : Binding) : List Symbol :=
  plain "( " ++ (plain (joiner b.operator)).intercalate
    (b.values.map (termSymbols b.field b.operator)) ++ plain " )"

/-- Whether a binding has values. -/
def Binding.given (b : Binding) : Bool := !b.values.isEmpty

/-- The symbols of a condition. -/
def conditionSymbols (bindings : List Binding) : List Symbol :=
  (plain conjunction).intercalate ((bindings.filter Binding.given).map clauseSymbols)

theorem sign_quoteFree (op : Operator) (pattern : Bool) : QuoteFree (sign op pattern) := by
  cases op <;> cases pattern <;> decide

theorem termLead_quoteFree {field : String} (h : QuoteFree field) (op : Operator) (pattern : Bool) :
    QuoteFree (termLead field op pattern) :=
  ((h.append (by decide)).append (sign_quoteFree op pattern)).append (by decide)

theorem term_reads {field : String} (h : QuoteFree field) (op : Operator) (v : String) :
    Reads (term field op v) (termSymbols field op v) := by
  have split_ : term field op v =
      termLead field op (isPattern v) ++ quoteLiteral (wildcards v) := by
    rw [termLead, ← comparison_sign, ← comparison_literal op v]
    rfl
  rw [split_]
  refine (termLead_quoteFree h op _).reads_literal ?_ _
  intro empty
  have length : (termLead field op (isPattern v)).length = 0 := by rw [empty]; rfl
  simp [termLead] at length

/-- The clause of a binding with values. -/
def Binding.clause (b : Binding) : String :=
  "( " ++ (joiner b.operator).intercalate (b.values.map (term b.field b.operator)) ++ " )"

theorem clause_reads {b : Binding} (h : QuoteFree b.field) : Reads b.clause (clauseSymbols b) := by
  have joined : QuoteFree (joiner b.operator) := by cases b.operator <;> decide
  have opened : QuoteFree "( " := by decide
  have closed : QuoteFree " )" := by decide
  have terms := Reads.intercalate joined fun v (_ : v ∈ b.values) => term_reads h b.operator v
  exact (opened.reads.append terms).append closed.reads

theorem filterMap_clause? (bindings : List Binding) :
    bindings.filterMap Binding.clause? = (bindings.filter Binding.given).map Binding.clause := by
  induction bindings with
  | nil => rfl
  | cons b rest ih =>
      cases values : b.values with
      | nil =>
          have none_ : b.clause? = none := by simp [Binding.clause?, clause?, values]
          have absent : b.given = false := by simp [Binding.given, values]
          rw [List.filterMap_cons_none none_, List.filter_cons_of_neg (by simp [absent]), ih]
      | cons v vs =>
          have some_ : b.clause? = some b.clause := by
            simp [Binding.clause?, NodeInventory.clause?, Binding.clause, values]
          have present : b.given = true := by simp [Binding.given, values]
          rw [List.filterMap_cons_some some_, List.filter_cons_of_pos present, ih, List.map_cons]

theorem condition_eq (bindings : List Binding) :
    condition bindings =
      conjunction.intercalate ((bindings.filter Binding.given).map Binding.clause) := by
  rw [condition, filterMap_clause?]

/-- A condition is read as the symbols of its clauses. -/
theorem condition_reads {bindings : List Binding} (h : ∀ b ∈ bindings, QuoteFree b.field) :
    Reads (condition bindings) (conditionSymbols bindings) := by
  rw [condition_eq]
  have free : QuoteFree conjunction := by decide
  refine Reads.intercalate free fun b member => ?_
  exact clause_reads (h b (List.mem_filter.mp member).1)

/-! ### Statements -/

/-- The columns that a statement selects. -/
def columnNames (d : Definition) (columns fields properties : List String) : List String :=
  columns ++ fields ++ properties.map fun name => d.propertyOwner ++ ".CustomProperties." ++ name

/-- The row limit of a statement. -/
def limitPart (limit : Int) : List String := if 0 < limit then ["TOP " ++ toString limit] else []

/-- A statement up to its condition. -/
def opening (d : Definition) (limit : Int) (columns fields properties : List String) : String :=
  " ".intercalate (["SELECT"] ++ limitPart limit ++
    [", ".intercalate (columnNames d columns fields properties)] ++ sourceParts d)

/-- A condition in a statement. -/
def wherePart (bindings : List Binding) : String :=
  if bindings.any Binding.given then " WHERE " ++ condition bindings else ""

theorem ofInt_zero_lt (n : Int) : (Number.ofInt 0).lt (Number.ofInt n) = decide (0 < n) := by
  show decide ((if decide ((0 : Int) < 0) then _ else _) < (if decide (n < 0) then _ else _)) = _
  rw [Number.signed_natAbs, Number.signed_natAbs]
  exact decide_eq_decide.mpr Rat.intCast_lt_intCast

theorem topPart_int (limit : Int) : topPart (.int limit) = .ok (limitPart limit) := by
  unfold limitPart
  by_cases zero : limit = 0
  · subst zero
    rfl
  · have given : (Value.int limit).truthy = true := by simp [Value.truthy, zero]
    simp [topPart, given, Value.number?, ofInt_zero_lt, Value.shown, Value.spelled]

theorem projection_texts {d : Definition} {columns : List String}
    (h : d.defaultFields = .texts columns) (fields properties : List String) :
    projection d (.texts fields) (.texts properties) =
      .ok ((columnNames d columns fields properties).map .text) := by
  unfold projection
  rw [h]
  simp only [Value.texts, Value.items, columnNames, List.map_append, List.map_map]
  show Except.ok _ = Except.ok _
  simp [Value.shown, Function.comp_def]

theorem mapM_columnText (names : List String) :
    (names.map Value.text).mapM columnText = .ok names := by
  have each : columnText ∘ Value.text = fun name => pure (id name) := rfl
  rw [List.mapM_map, each, List.mapM_pure, List.map_id]
  rfl

theorem clause_append_ne (b : Binding) (t : String) : b.clause ++ t ≠ "" := by
  intro empty
  have length : (b.clause ++ t).length = 0 := by rw [empty]; rfl
  simp [Binding.clause] at length

theorem condition_isEmpty (bindings : List Binding) :
    (condition bindings).isEmpty = !bindings.any Binding.given := by
  rw [condition_eq]
  cases given : bindings.filter Binding.given with
  | nil =>
      have none_ : bindings.any Binding.given = false := by
        rw [List.any_eq_false]
        exact List.filter_eq_nil_iff.mp given
      rw [none_]
      rfl
  | cons b rest =>
      have member : b ∈ bindings.filter Binding.given := by simp [given]
      have some_ : bindings.any Binding.given = true :=
        List.any_eq_true.mpr ⟨b, List.mem_filter.mp member⟩
      have text : conjunction.intercalate ((b :: rest).map Binding.clause) ≠ "" := by
        cases rest with
        | nil => simpa using clause_append_ne b ""
        | cons b' rest =>
            rw [List.map_cons, List.map_cons, String.intercalate_cons_cons, String.append_assoc]
            exact clause_append_ne b _
      rw [some_]
      simpa using text

/-- A statement is its opening, the condition when some binding has a value, and the order. -/
theorem statement_eq {d : Definition} {columns : List String}
    (h : d.defaultFields = .texts columns) (limit : Int) (fields properties : List String)
    (bindings : List Binding) :
    statement d (.ok (condition bindings)) (.int limit) (.texts fields) (.texts properties) =
      .ok (opening d limit columns fields properties ++ wherePart bindings ++ " " ++
        orderPart d) := by
  unfold statement
  rw [projection_texts h, topPart_int]
  show (((columnNames d columns fields properties).map Value.text).mapM columnText >>= _) = _
  rw [mapM_columnText]
  show Except.ok _ = Except.ok _
  have last (parts : List String) (some_ : parts ≠ []) (part : String) :
      " ".intercalate (parts ++ [part]) = " ".intercalate parts ++ " " ++ part := by
    rw [String.intercalate_append_of_ne_nil some_ (by simp), String.intercalate_singleton]
  rw [condition_isEmpty, wherePart, opening, last _ (by simp)]
  cases bindings.any Binding.given with
  | false => simp
  | true =>
      have spaced : " WHERE " = " " ++ "WHERE " := by decide
      simp only [Bool.not_true, Bool.false_eq_true, if_false, if_true]
      rw [last _ (by simp), spaced]
      simp only [String.append_assoc]

/-! ### The parts of a statement without quotes -/

/-- No text of a definition and none of the asked columns has a quote. -/
structure PlainParts (d : Definition) (columns fields properties : List String) : Prop where
  defaults : d.defaultFields = .texts columns
  entity : QuoteFree d.entity
  alias_ : QuoteFree d.alias_
  join : ∀ j, d.join = some j → QuoteFree j.entity ∧ QuoteFree j.alias_ ∧ QuoteFree j.on
  orderBy : QuoteFree d.orderBy
  propertyAlias : ∀ a, d.propertyAlias = some a → QuoteFree a
  columns : ∀ c ∈ columns, QuoteFree c
  fields : ∀ c ∈ fields, QuoteFree c
  properties : ∀ c ∈ properties, QuoteFree c

theorem Stamped.quoteFree {s : String} (h : Stamped s) : QuoteFree s := h.not_mem (by decide)

section parts

variable {d : Definition} {columns fields properties : List String}

theorem PlainParts.owner (h : PlainParts d columns fields properties) :
    QuoteFree d.propertyOwner := by
  unfold Definition.propertyOwner
  cases given : d.propertyAlias with
  | none => exact h.alias_
  | some a => exact h.propertyAlias a given

theorem PlainParts.names (h : PlainParts d columns fields properties) :
    ∀ c ∈ columnNames d columns fields properties, QuoteFree c := by
  intro c member
  rcases List.mem_append.mp member with asked | property
  · rcases List.mem_append.mp asked with column | field
    · exact h.columns c column
    · exact h.fields c field
  · obtain ⟨name, given, rfl⟩ := List.mem_map.mp property
    exact (h.owner.append (by decide)).append (h.properties name given)

theorem limitPart_quoteFree (limit : Int) : ∀ c ∈ limitPart limit, QuoteFree c := by
  intro c member
  unfold limitPart at member
  split at member
  · rw [List.mem_singleton.mp member]
    exact QuoteFree.append (by decide) (stamped_int limit).quoteFree
  · cases member

theorem PlainParts.source (h : PlainParts d columns fields properties) :
    ∀ c ∈ sourceParts d, QuoteFree c := by
  intro c member
  unfold sourceParts at member
  rcases List.mem_cons.mp member with rfl | joined
  · exact ((QuoteFree.append (by decide) h.entity).append (by decide)).append h.alias_
  · cases given : d.join with
    | none => rw [given] at joined; cases joined
    | some j =>
        obtain ⟨entity, alias_, on⟩ := h.join j given
        rw [given] at joined
        rw [List.mem_singleton.mp joined]
        have named := ((QuoteFree.append (t := "JOIN ") (by decide) entity).append
          (u := " AS ") (by decide)).append alias_
        exact (named.append (by decide)).append on

theorem PlainParts.opening (h : PlainParts d columns fields properties) (limit : Int) :
    QuoteFree (opening d limit columns fields properties) := by
  have space : QuoteFree " " := by decide
  have comma : QuoteFree ", " := by decide
  refine space.intercalate fun c member => ?_
  rcases List.mem_append.mp member with lead | source
  · rcases List.mem_append.mp lead with first | names
    · rcases List.mem_append.mp first with select | top
      · rw [List.mem_singleton.mp select]
        decide
      · exact limitPart_quoteFree limit c top
    · rw [List.mem_singleton.mp names]
      exact comma.intercalate h.names
  · exact h.source c source

theorem PlainParts.order (h : PlainParts d columns fields properties) :
    QuoteFree (orderPart d) := by
  unfold orderPart
  refine (QuoteFree.append (by decide) h.orderBy).append ?_
  split <;> decide

end parts

/-! ### Literals and outlines -/

/-- What is left of a binding when of its values only the patterns among them are told. -/
structure Shape where
  field : String
  operator : Operator
  patterns : List Bool
  deriving DecidableEq, Repr

def Binding.shape (b : Binding) : Shape := ⟨b.field, b.operator, b.values.map isPattern⟩

namespace Shape

def given (s : Shape) : Bool := !s.patterns.isEmpty

/-- A term with a blank literal. -/
def term (s : Shape) (pattern : Bool) : List Symbol :=
  plain (termLead s.field s.operator pattern) ++ [.literal ""]

/-- A clause with blank literals. -/
def clause (s : Shape) : List Symbol :=
  plain "( " ++ (plain (joiner s.operator)).intercalate (s.patterns.map s.term) ++ plain " )"

end Shape

/-- A statement with blank literals. -/
def outline (d : Definition) (limit : Int) (columns fields properties : List String)
    (shapes : List Shape) : List Symbol :=
  plain (opening d limit columns fields properties) ++
    (if shapes.any Shape.given then
      plain " WHERE " ++
        (plain conjunction).intercalate ((shapes.filter Shape.given).map Shape.clause)
    else []) ++ plain (" " ++ orderPart d)

theorem map_intercalate_of_append {α β : Type} {f : List α → List β} (nil : f [] = [])
    (append : ∀ as bs, f (as ++ bs) = f as ++ f bs) (sep : List α) :
    ∀ parts : List (List α), f (sep.intercalate parts) = (f sep).intercalate (parts.map f)
  | [] => nil
  | [part] => by simp
  | part :: part' :: rest => by
      have later := map_intercalate_of_append nil append sep (part' :: rest)
      rw [List.intercalate_cons_cons, append, append, later]
      simp only [List.map_cons, List.intercalate_cons_cons]

theorem nil_intercalate {α : Type} : ∀ parts : List (List α),
    ([] : List α).intercalate parts = parts.flatten
  | [] => rfl
  | [part] => by simp
  | part :: part' :: rest => by
      rw [List.intercalate_cons_cons, nil_intercalate (part' :: rest), List.append_nil]
      rfl

@[simp] theorem map_blank_plain (t : String) : (plain t).map Symbol.blank = plain t := by
  simp [plain, Symbol.blank, Function.comp_def]

@[simp] theorem filterMap_literal_plain (t : String) :
    (plain t).filterMap Symbol.literal? = [] := by
  simp [plain, Symbol.literal?, Function.comp_def]

theorem map_blank_intercalate (sep : List Symbol) (parts : List (List Symbol)) :
    (sep.intercalate parts).map Symbol.blank =
      (sep.map Symbol.blank).intercalate (parts.map (List.map Symbol.blank)) :=
  map_intercalate_of_append rfl (fun _ _ => List.map_append) sep parts

theorem filterMap_literal_intercalate (sep : String) (parts : List (List Symbol)) :
    ((plain sep).intercalate parts).filterMap Symbol.literal? =
      parts.flatMap (List.filterMap Symbol.literal?) := by
  have joined := map_intercalate_of_append (f := List.filterMap Symbol.literal?) rfl
    (fun _ _ => List.filterMap_append) (plain sep) parts
  rw [joined, filterMap_literal_plain, nil_intercalate, List.flatMap_def]

theorem clause_literals (b : Binding) :
    (clauseSymbols b).filterMap Symbol.literal? = b.values.map wildcards := by
  unfold clauseSymbols
  rw [List.filterMap_append, List.filterMap_append, filterMap_literal_intercalate]
  simp [termSymbols, List.flatMap_map, Symbol.literal?, ← List.map_eq_flatMap]

theorem clause_outline (b : Binding) :
    (clauseSymbols b).map Symbol.blank = b.shape.clause := by
  unfold clauseSymbols
  rw [List.map_append, List.map_append, map_blank_intercalate]
  simp [Shape.clause, Binding.shape, Function.comp_def, termSymbols, Shape.term, Symbol.blank]

theorem condition_literals (bindings : List Binding) :
    (conditionSymbols bindings).filterMap Symbol.literal? =
      bindings.flatMap fun b => b.values.map wildcards := by
  rw [conditionSymbols, filterMap_literal_intercalate, List.flatMap_map]
  simp only [clause_literals]
  induction bindings with
  | nil => rfl
  | cons b rest ih =>
      cases values : b.values with
      | nil => simpa [Binding.given, values] using ih
      | cons v vs => simpa [Binding.given, values] using ih

theorem given_shape (b : Binding) : b.shape.given = b.given := by
  simp [Shape.given, Binding.given, Binding.shape]

theorem any_given_shape (bindings : List Binding) :
    (bindings.map Binding.shape).any Shape.given = bindings.any Binding.given := by
  rw [List.any_map]
  simp only [Function.comp_def, given_shape]

theorem condition_outline (bindings : List Binding) :
    (conditionSymbols bindings).map Symbol.blank = (plain conjunction).intercalate
      (((bindings.map Binding.shape).filter Shape.given).map Shape.clause) := by
  rw [conditionSymbols, map_blank_intercalate, map_blank_plain, List.filter_map]
  simp only [List.map_map, Function.comp_def, clause_outline, given_shape]

/-- The symbols of the condition in a statement. -/
def whereSymbols (bindings : List Binding) : List Symbol :=
  if bindings.any Binding.given then plain " WHERE " ++ conditionSymbols bindings else []

theorem where_reads {bindings : List Binding} (h : ∀ b ∈ bindings, QuoteFree b.field) :
    Reads (wherePart bindings) (whereSymbols bindings) := by
  unfold wherePart whereSymbols
  split
  · have word : QuoteFree " WHERE " := by decide
    exact word.reads.append (condition_reads h)
  · have empty : QuoteFree "" := by decide
    exact empty.reads

/-- A statement is read to its end outside of the literals.  Its literals are the values of its
bindings, and the rest of it depends on no more of them than their shapes; there is a condition
when some binding has a value, and only then. -/
theorem values_keep_structure {d : Definition} {columns fields properties : List String}
    (parts : PlainParts d columns fields properties) (limit : Int) {bindings : List Binding}
    (named : ∀ b ∈ bindings, QuoteFree b.field) :
    ∃ (text : String) (ss : List Symbol),
      statement d (.ok (condition bindings)) (.int limit) (.texts fields) (.texts properties) =
        .ok text ∧
      text = opening d limit columns fields properties ++
        (if bindings.any Binding.given then " WHERE " ++ condition bindings else "") ++ " " ++
        orderPart d ∧
      symbols text = some ss ∧
      ss.filterMap Symbol.literal? = bindings.flatMap (fun b => b.values.map wildcards) ∧
      ss.map Symbol.blank =
        outline d limit columns fields properties (bindings.map Binding.shape) := by
  have space : QuoteFree " " := by decide
  have text := (((parts.opening limit).reads.append (where_reads named)).append space.reads).append
    parts.order.reads
  refine ⟨_, _, statement_eq parts.defaults limit fields properties bindings, rfl,
    text.symbols_eq, ?_, ?_⟩
  · simp only [List.filterMap_append, filterMap_literal_plain, List.nil_append, List.append_nil]
    unfold whereSymbols
    split
    · rw [List.filterMap_append, filterMap_literal_plain, List.nil_append, condition_literals]
    · rename_i none_
      have absent : ∀ b ∈ bindings, b.values = [] := by
        simpa [Binding.given] using none_
      symm
      rw [List.filterMap_nil, List.flatMap_eq_nil_iff]
      intro b member
      rw [absent b member, List.map_nil]
  · simp only [List.map_append, map_blank_plain]
    unfold outline whereSymbols
    rw [any_given_shape, plain_append]
    cases bindings.any Binding.given with
    | false => simp
    | true => simp [condition_outline]

/-- Bindings whose values hold quotes, a whole condition, and nothing at all. -/
def quotingBindings : List Binding :=
  [⟨"Nodes.Caption", .eq, ["it\x27s", "\x27 OR \x271\x27 = \x271", ""]⟩, ⟨"Nodes.Vendor", .neq, []⟩,
   ⟨"SysLog.Message", .neq, ["*\x27\x27) --*"]⟩]

theorem values_keep_structure_injection :
    PlainParts { syslogDefinition with defaultFields := .texts ["SysLog.Message"] }
        ["SysLog.Message"] ["Nodes.DNS"] ["City"] ∧
      (∀ b ∈ quotingBindings, QuoteFree b.field) ∧
      ∃ (text : String) (ss : List Symbol),
        statement { syslogDefinition with defaultFields := .texts ["SysLog.Message"] }
          (.ok (condition quotingBindings)) (.int 10) (.texts ["Nodes.DNS"]) (.texts ["City"]) =
            .ok text ∧
        symbols text = some ss ∧
        ss.filterMap Symbol.literal? =
          ["it\x27s", "\x27 OR \x271\x27 = \x271", "", "%\x27\x27) --%"] := by
  have parts : PlainParts { syslogDefinition with defaultFields := .texts ["SysLog.Message"] }
      ["SysLog.Message"] ["Nodes.DNS"] ["City"] := by
    refine ⟨rfl, by decide, by decide, ?_, by decide, ?_, by decide, by decide, by decide⟩
    · rintro j ⟨⟩
      decide
    · rintro a ⟨⟩
      decide
  have named : ∀ b ∈ quotingBindings, QuoteFree b.field := by decide
  obtain ⟨text, ss, stated, -, read, literals, -⟩ := values_keep_structure parts 10 named
  exact ⟨parts, named, text, ss, stated, read, literals.trans (by decide)⟩

end NodeInventory
