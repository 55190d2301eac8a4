import NodeInventory.Query.Operator
import NodeInventory.Value.Access

/-!
# Clauses over one column

A clause compares one column with some values.  A value with an asterisk is a pattern: it is
compared by `LIKE`, with every asterisk written as `%`; any other value is compared by the
operator itself.  The terms of an including operator are alternatives, those of the excluding one
all have to hold, and no values make no clause.

Each function comes in two forms: over texts, and over values of any kind (`…Value`), which fails
where a value does not offer what a text does.  The two agree on texts
(`clauseOfValue_texts`).
-/

namespace NodeInventory

/-- Whether a value is a pattern. -/
def isPattern (s : String) : Bool := s.toList.contains '*'

/-- A value's asterisks written as the statement language's own wildcard. -/
def wildcards (s : String) : String :=
  String.ofList (s.toList.map fun c => if c = '*' then '%' else c)

/-- The operator and the literal that a value is compared by. -/
def comparison (op : Operator) (s : String) : String × String :=
  if isPattern s then (op.likeSymbol, wildcards s) else (op.symbol, s)

/-- A text as a literal: between single quotes, a quote inside written twice. -/
def quoteLiteral (s : String) : String :=
  String.ofList ('\x27' :: s.toList.flatMap (fun c => if c = '\x27' then [c, c] else [c]) ++ ['\x27'])

/-- One comparison of a column with a value. -/
def term (field : String) (op : Operator) (s : String) : String :=
  let (symbol, literal) := comparison op s
  field ++ " " ++ symbol ++ " " ++ quoteLiteral literal

/-- What stands between the terms of a clause. -/
def joiner (op : Operator) : String := if op.negated then " AND " else " OR "

/-- The clause over a column; none when there are no values. -/
def clause? (field : String) (op : Operator) (values : List String) : Option String :=
  if values.isEmpty then none
  else some ("( " ++ (joiner op).intercalate (values.map (term field op)) ++ " )")

/-! ### Values of any kind -/

/-- `comparison` for any value.  A list or an object without an asterisk among its items is passed
through. -/
def comparisonOfValue (op : Operator) (v : Value) : Outcome (String × Value) :=
  match v with
  | .text s => let (symbol, literal) := comparison op s; .ok (symbol, .text literal)
  | _ =>
      match v.holds "*" with
      | .error e => .error e
      | .ok true => .error (.noAttribute v.kind "replace")
      | .ok false => .ok (op.symbol, v)

/-- `quoteLiteral` for any value. -/
def quoteValue (v : Value) : Outcome String := (v.textFor "replace").map quoteLiteral

/-- `term` for any value. -/
def termOfValue (field : String) (op : Operator) (v : Value) : Outcome String := do
  let (symbol, literal) ← comparisonOfValue op v
  let quoted ← quoteValue literal
  pure (field ++ " " ++ symbol ++ " " ++ quoted)

/-- `clause?` for any value that has items. -/
def clauseOfValue (field : String) (op : Operator) (values : Value) : Outcome (Option String) :=
  if values.truthy then do
    let terms ← (← values.items).mapM (termOfValue field op)
    pure (some ("( " ++ (joiner op).intercalate terms ++ " )"))
  else .ok none

theorem termOfValue_text (field : String) (op : Operator) (s : String) :
    termOfValue field op (.text s) = .ok (term field op s) := rfl

theorem mapM_termOfValue_texts (field : String) (op : Operator) (ss : List String) :
    (ss.map Value.text).mapM (termOfValue field op) = .ok (ss.map (term field op)) := by
  have each : termOfValue field op ∘ Value.text = fun s => pure (term field op s) :=
    funext (termOfValue_text field op)
  rw [List.mapM_map, each, List.mapM_pure]
  rfl

/-- On texts both forms of a clause agree. -/
theorem clauseOfValue_texts (field : String) (op : Operator) (ss : List String) :
    clauseOfValue field op (Value.texts ss) = .ok (clause? field op ss) := by
  cases ss with
  | nil => rfl
  | cons s rest =>
      have items : (Value.texts (s :: rest)).items = .ok ((s :: rest).map Value.text) := rfl
      simp only [clauseOfValue, items]
      show ((((s :: rest).map Value.text).mapM (termOfValue field op)) >>= _) = _
      rw [mapM_termOfValue_texts]
      rfl

end NodeInventory
