import NodeInventory.Proofs.Query.Grammar
import NodeInventory.Proofs.Query.Quoting

/-!
# The meaning of conditions

A row gives a text to each column, and a condition holds of it or not: equality is that of texts,
the order is any one, which may differ from column to column, and in a pattern `%` stands for any
run of characters and `_` for any one.  The condition of some bindings can be read, and it holds
of a row when every binding with values does, `condition_meaning`.
-/

namespace NodeInventory

/-! ### Rows -/

/-- The text in each column. -/
abbrev Row := String → String

/-- Whether a text is at most another one, in each column. -/
abbrev RowOrder := String → String → String → Prop

/-- A text matches a pattern. -/
def Like : List Char → List Char → Prop
  | [], cs => cs = []
  | p :: ps, cs =>
      if p = '%' then ∃ run rest, cs = run ++ rest ∧ Like ps rest
      else if p = '_' then ∃ c rest, cs = c :: rest ∧ Like ps rest
      else ∃ rest, cs = p :: rest ∧ Like ps rest

/-- A comparison of a column with a text holds. -/
def Comparator.Holds (order : RowOrder) (row : Row) (column s : String) : Comparator → Prop
  | .eq => row column = s
  | .neq => row column ≠ s
  | .le => order column (row column) s
  | .ge => order column s (row column)
  | .like => Like s.toList (row column).toList
  | .notLike => ¬Like s.toList (row column).toList

/-- A condition holds of a row. -/
def Cond.Holds (order : RowOrder) (row : Row) : Cond → Prop
  | .test column comparator s => comparator.Holds order row column s
  | .and left right => left.Holds order row ∧ right.Holds order row
  | .or left right => left.Holds order row ∨ right.Holds order row

/-! ### The tokens of a condition -/

/-- Symbols make tokens of their own, whatever follows them. -/
def Lexes (ss : List Symbol) (ts : List Token) : Prop :=
  ∀ rest : List Symbol, tokensFrom [] (ss ++ rest) = ts ++ tokensFrom [] rest

theorem Lexes.append {ss ss' : List Symbol} {ts ts' : List Token} (h : Lexes ss ts)
    (h' : Lexes ss' ts') : Lexes (ss ++ ss') (ts ++ ts') := by
  intro rest
  rw [List.append_assoc, h, h', List.append_assoc]

theorem Lexes.intercalate {α : Type} {sep : List Symbol} {joint : List Token} (h : Lexes sep joint)
    {ss : α → List Symbol} {ts : α → List Token} : ∀ {as : List α},
      (∀ a ∈ as, Lexes (ss a) (ts a)) →
        Lexes (sep.intercalate (as.map ss)) (joint.intercalate (as.map ts))
  | [], _ => fun _ => rfl
  | [a], each => by simpa using each a (by simp)
  | a :: b :: rest, each => by
      have later : Lexes (sep.intercalate ((b :: rest).map ss))
          (joint.intercalate ((b :: rest).map ts)) :=
        Lexes.intercalate h fun x member => each x (List.mem_cons_of_mem a member)
      simp only [List.map_cons, List.intercalate_cons_cons] at later ⊢
      exact ((each a (by simp)).append h).append later

theorem Lexes.tokens_eq {ss : List Symbol} {ts : List Token} (h : Lexes ss ts) :
    tokensFrom [] ss = ts := by
  have whole := h []
  rw [List.append_nil] at whole
  rw [whole]
  exact List.append_nil ts

/-- A character inside a word. -/
def isWordChar (c : Char) : Bool := c != ' ' && c != '(' && c != ')'

/-- A text that makes one word. -/
structure IsWord (t : String) : Prop where
  some_ : t.toList ≠ []
  chars : ∀ c ∈ t.toList, isWordChar c = true
  quoteFree : QuoteFree t

instance (t : String) : Decidable (IsWord t) :=
  decidable_of_iff (t.toList ≠ [] ∧ t.toList.all isWordChar = true ∧ QuoteFree t)
    ⟨fun ⟨some_, chars, free⟩ => ⟨some_, List.all_eq_true.mp chars, free⟩,
      fun ⟨some_, chars, free⟩ => ⟨some_, List.all_eq_true.mpr chars, free⟩⟩

theorem tokensFrom_word : ∀ {cs w : List Char} (rest : List Symbol), w ++ cs ≠ [] →
    (∀ c ∈ cs, isWordChar c = true) →
      tokensFrom w (cs.map Symbol.char ++ .char ' ' :: rest) =
        .word (String.ofList (w ++ cs)) :: tokensFrom [] rest
  | [], w, rest, some_, _ => by
      have given : w.isEmpty = false := by simpa using some_
      simp [tokensFrom, wordToken, given]
  | c :: cs, w, rest, some_, chars => by
      have others : ∀ c' ∈ cs, isWordChar c' = true :=
        fun c' member => chars c' (List.mem_cons_of_mem c member)
      have later := tokensFrom_word (w := w ++ [c]) rest (by simp) others
      have first : (c ≠ ' ' ∧ c ≠ '(') ∧ c ≠ ')' := by simpa [isWordChar] using chars c
      obtain ⟨⟨space, opens⟩, closes⟩ := first
      rw [List.map_cons, List.cons_append, tokensFrom, if_neg space, if_neg opens, if_neg closes,
        later, List.append_assoc, List.singleton_append]

theorem IsWord.lexes {t : String} (h : IsWord t) : Lexes (plain (t ++ " ")) [.word t] := by
  intro rest
  have word := tokensFrom_word (w := []) rest (by simpa using h.some_) h.chars
  rw [List.nil_append, String.ofList_toList] at word
  rw [plain_append, List.append_assoc]
  exact word

/-- The comparison that a term makes with a value. -/
def comparator (op : Operator) (pattern : Bool) : Comparator :=
  match op, pattern with
  | .neq, true => .notLike
  | _, true => .like
  | .eq, false => .eq
  | .neq, false => .neq
  | .le, false => .le
  | .ge, false => .ge

theorem sign_lexes (op : Operator) (pattern : Bool) :
    Lexes (plain (sign op pattern ++ " ")) (comparator op pattern).words := by
  cases op <;> cases pattern <;> exact fun _ => rfl

/-- The tokens of a term. -/
def termTokens (field : String) (op : Operator) (v : String) : List Token :=
  .word field :: (comparator op (isPattern v)).words ++ [.literal (wildcards v)]

theorem term_lexes {field : String} (h : IsWord field) (op : Operator) (v : String) :
    Lexes (termSymbols field op v) (termTokens field op v) := by
  have literal : Lexes [.literal (wildcards v)] [.literal (wildcards v)] := fun _ => rfl
  have parts := (h.lexes.append (sign_lexes op (isPattern v))).append literal
  have lead : plain (termLead field op (isPattern v)) =
      plain (field ++ " ") ++ plain (sign op (isPattern v) ++ " ") := by
    rw [← plain_append, termLead]
    simp only [String.append_assoc]
  rw [termSymbols, lead]
  exact parts

/-- The word between the terms of a clause. -/
def joint (op : Operator) : String := if op.negated then "AND" else "OR"

theorem joiner_lexes (op : Operator) : Lexes (plain (joiner op)) [.word (joint op)] := by
  cases op <;> exact fun _ => rfl

/-- The tokens of a clause. -/
def clauseTokens (b : Binding) : List Token :=
  .opens :: [.word (joint b.operator)].intercalate (b.values.map (termTokens b.field b.operator)) ++
    [.closes]

theorem clause_lexes {b : Binding} (h : IsWord b.field) :
    Lexes (clauseSymbols b) (clauseTokens b) := by
  have opened : Lexes (plain "( ") [.opens] := fun _ => rfl
  have closed : Lexes (plain " )") [.closes] := fun _ => rfl
  have terms := (joiner_lexes b.operator).intercalate
    fun v (_ : v ∈ b.values) => term_lexes h b.operator v
  exact (opened.append terms).append closed

/-- The tokens of a condition. -/
def conditionTokens (bindings : List Binding) : List Token :=
  [.word "AND"].intercalate ((bindings.filter Binding.given).map clauseTokens)

theorem condition_lexes {bindings : List Binding} (h : ∀ b ∈ bindings, IsWord b.field) :
    Lexes (conditionSymbols bindings) (conditionTokens bindings) := by
  have joined : Lexes (plain conjunction) [.word "AND"] := fun _ => rfl
  refine joined.intercalate fun b member => ?_
  exact clause_lexes (h b (List.mem_filter.mp member).1)

/-! ### Joined conditions -/

theorem intercalate_cons_flatMap {α : Type} (sep first : List α) : ∀ rest : List (List α),
    sep.intercalate (first :: rest) = first ++ rest.flatMap (sep ++ ·)
  | [] => by simp
  | second :: rest => by
      rw [List.intercalate_cons_cons, intercalate_cons_flatMap sep second rest, List.flatMap_cons,
        List.append_assoc, List.append_assoc]

/-- The tokens of a rank stand for a condition with a meaning. -/
def Means (rank : Rank) (ts : List Token) (meaning : RowOrder → Row → Prop) : Prop :=
  ∃ c : Cond, Derives rank ts c ∧ ∀ order row, c.Holds order row ↔ meaning order row

theorem Means.conjunct {ts : List Token} {meaning : RowOrder → Row → Prop}
    (h : Means .atom ts meaning) : Means .conjunct ts meaning := by
  obtain ⟨c, derived, holds⟩ := h
  exact ⟨c, .conjunct derived, holds⟩

theorem Means.condition {ts : List Token} {meaning : RowOrder → Row → Prop}
    (h : Means .conjunct ts meaning) : Means .condition ts meaning := by
  obtain ⟨c, derived, holds⟩ := h
  exact ⟨c, .condition derived, holds⟩

theorem Means.group {ts : List Token} {meaning : RowOrder → Row → Prop}
    (h : Means .condition ts meaning) : Means .atom (.opens :: ts ++ [.closes]) meaning := by
  obtain ⟨c, derived, holds⟩ := h
  exact ⟨c, .group derived, holds⟩

section joined

variable {α : Type} {ts : α → List Token} {meaning : α → RowOrder → Row → Prop}

/-- Atoms joined by `AND` to some conjuncts all have to hold. -/
theorem Means.and : ∀ {as : List α} {us : List Token} {first : RowOrder → Row → Prop},
    Means .conjunct us first → (∀ a ∈ as, Means .atom (ts a) (meaning a)) →
      Means .conjunct (us ++ (as.map ts).flatMap ([.word "AND"] ++ ·))
        fun order row => first order row ∧ ∀ a ∈ as, meaning a order row
  | [], us, first, h, _ => by simpa using h
  | a :: as, us, first, ⟨c, derived, holds⟩, each => by
      obtain ⟨d, derived', holds'⟩ := each a (by simp)
      have both : Means .conjunct (us ++ .word "AND" :: ts a)
          fun order row => first order row ∧ meaning a order row := by
        refine ⟨.and c d, .and derived derived', fun order row => ?_⟩
        rw [Cond.Holds, holds, holds']
      obtain ⟨e, derived'', holds''⟩ :=
        Means.and both fun x member => each x (List.mem_cons_of_mem a member)
      refine ⟨e, by simpa using derived'', fun order row => ?_⟩
      simp only [holds'', List.forall_mem_cons, and_assoc]

/-- Of atoms joined by `OR` to some alternatives one has to hold. -/
theorem Means.or : ∀ {as : List α} {us : List Token} {first : RowOrder → Row → Prop},
    Means .condition us first → (∀ a ∈ as, Means .atom (ts a) (meaning a)) →
      Means .condition (us ++ (as.map ts).flatMap ([.word "OR"] ++ ·))
        fun order row => first order row ∨ ∃ a ∈ as, meaning a order row
  | [], us, first, h, _ => by simpa using h
  | a :: as, us, first, ⟨c, derived, holds⟩, each => by
      obtain ⟨d, derived', holds'⟩ := (each a (by simp)).conjunct
      have either : Means .condition (us ++ .word "OR" :: ts a)
          fun order row => first order row ∨ meaning a order row := by
        refine ⟨.or c d, .or derived derived', fun order row => ?_⟩
        rw [Cond.Holds, holds, holds']
      obtain ⟨e, derived'', holds''⟩ :=
        Means.or either fun x member => each x (List.mem_cons_of_mem a member)
      refine ⟨e, by simpa using derived'', fun order row => ?_⟩
      simp [holds'', or_assoc]

end joined

/-! ### The meaning of bindings -/

/-- A term over a column holds for a value. -/
def TermHolds (order : RowOrder) (row : Row) (field : String) (op : Operator) (v : String) : Prop :=
  (comparator op (isPattern v)).Holds order row field (wildcards v)

/-- A binding with values holds: every term of an excluding one, some term of any other. -/
def Binding.Holds (b : Binding) (order : RowOrder) (row : Row) : Prop :=
  if b.operator.negated then ∀ v ∈ b.values, TermHolds order row b.field b.operator v
  else ∃ v ∈ b.values, TermHolds order row b.field b.operator v

theorem term_means (field : String) (op : Operator) (v : String) :
    Means .atom (termTokens field op v) fun order row => TermHolds order row field op v :=
  ⟨_, .test field (comparator op (isPattern v)) (wildcards v), fun _ _ => Iff.rfl⟩

theorem clause_means {b : Binding} (given : b.given = true) :
    Means .atom (clauseTokens b) b.Holds := by
  have each (v : String) := term_means b.field b.operator v
  cases values : b.values with
  | nil => simp [Binding.given, values] at given
  | cons v vs =>
      refine Means.group ?_
      rw [values, List.map_cons, intercalate_cons_flatMap]
      cases negated : b.operator.negated with
      | true =>
          have all := ((each v).conjunct.and fun v' (_ : v' ∈ vs) => each v').condition
          have word : joint b.operator = "AND" := by simp [joint, negated]
          obtain ⟨c, derived, holds⟩ := all
          refine ⟨c, by rwa [word], fun order row => ?_⟩
          rw [holds, Binding.Holds, values, negated]
          simp
      | false =>
          have any := (each v).conjunct.condition.or fun v' (_ : v' ∈ vs) => each v'
          have word : joint b.operator = "OR" := by simp [joint, negated]
          obtain ⟨c, derived, holds⟩ := any
          refine ⟨c, by rwa [word], fun order row => ?_⟩
          rw [holds, Binding.Holds, values, negated]
          simp

theorem conditions_mean {bindings : List Binding} (some_ : bindings.any Binding.given = true) :
    Means .condition (conditionTokens bindings)
      fun order row => ∀ b ∈ bindings, b.given = true → b.Holds order row := by
  have each : ∀ b ∈ bindings.filter Binding.given, Means .atom (clauseTokens b) b.Holds :=
    fun b member => clause_means (List.mem_filter.mp member).2
  have same (order : RowOrder) (row : Row) :
      (∀ b ∈ bindings.filter Binding.given, b.Holds order row) ↔
        ∀ b ∈ bindings, b.given = true → b.Holds order row := by
    simp only [List.mem_filter, and_imp]
  cases given : bindings.filter Binding.given with
  | nil =>
      rw [List.filter_eq_nil_iff] at given
      obtain ⟨b, member, present⟩ := List.any_eq_true.mp some_
      exact absurd present (given b member)
  | cons b rest =>
      rw [given] at each same
      have first := (each b (by simp)).conjunct
      obtain ⟨c, derived, holds⟩ :=
        (first.and fun b' member => each b' (List.mem_cons_of_mem b member)).condition
      refine ⟨c, ?_, fun order row => ?_⟩
      · rw [conditionTokens, given, List.map_cons, intercalate_cons_flatMap]
        exact derived
      · simp only [holds, ← same, List.forall_mem_cons]

/-- The condition in a statement, if there is one. -/
def whereText (bindings : List Binding) : Option String :=
  if bindings.any Binding.given then some (condition bindings) else none

/-- The condition of some bindings stands for one that holds when all of those with values do;
without values there is none. -/
theorem condition_meaning {bindings : List Binding} (h : ∀ b ∈ bindings, IsWord b.field) :
    ∃ cond : Option Cond, (whereText bindings).map readCondition = cond.map some ∧
      ∀ order row, (∀ c, cond = some c → c.Holds order row) ↔
        ∀ b ∈ bindings, b.given = true → b.Holds order row := by
  unfold whereText
  cases some_ : bindings.any Binding.given with
  | false =>
      refine ⟨none, rfl, fun order row => ?_⟩
      have absent : ∀ b ∈ bindings, ¬b.given = true := List.any_eq_false.mp some_
      constructor
      · intro _ b member present
        exact absurd present (absent b member)
      · rintro _ _ ⟨⟩
  | true =>
      obtain ⟨c, derived, holds⟩ := conditions_mean some_
      refine ⟨some c, ?_, fun order row => ?_⟩
      · have read := (condition_reads fun b member => (h b member).quoteFree).symbols_eq
        have tokens := (condition_lexes h).tokens_eq
        simp only [if_true, Option.map_some, readCondition, read, Option.bind_some, tokens,
          derived.parse_eq]
      · simp [holds]

end NodeInventory
