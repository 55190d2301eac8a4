import NodeInventory.Query.Clause

/-!
# Reading a text with literals

A text is read from left to right: a literal runs from a quote to the next quote that is not
doubled, a doubled quote inside stands for one quote, and every other character stands for itself.
A text that ends inside a literal cannot be read.

`Reads t symbols` says that `t` is read as `symbols` whatever text follows it, as long as this text
does not begin with a quote.  It is kept by putting texts together, so that the symbols of a text
are put together like the text itself.
-/

namespace NodeInventory

/-- A symbol of a text: a character that stands outside of the literals, or a literal. -/
inductive Symbol where
  | char (c : Char)
  | literal (s : String)
  deriving DecidableEq, Repr

namespace Symbol

/-- What a literal stands for. -/
def literal? : Symbol → Option String
  | char _ => none
  | literal s => some s

/-- The symbol with nothing in its literal. -/
def blank : Symbol → Symbol
  | char c => char c
  | literal _ => literal ""

end Symbol

/-- Where a reading is: outside of the literals, inside of one, or behind a quote that either ends
one or is the first of two; with the characters of the literal so far. -/
inductive Place where
  | outside
  | inside (begun : List Char)
  | closing (begun : List Char)

/-- The symbols of the rest of a text. -/
def symbolsFrom : Place → List Char → Option (List Symbol)
  | .outside, [] => some []
  | .inside _, [] => none
  | .closing begun, [] => some [.literal (String.ofList begun)]
  | .outside, c :: rest =>
      if c = '\x27' then symbolsFrom (.inside []) rest
      else (symbolsFrom .outside rest).map (.char c :: ·)
  | .inside begun, c :: rest =>
      if c = '\x27' then symbolsFrom (.closing begun) rest
      else symbolsFrom (.inside (begun ++ [c])) rest
  | .closing begun, c :: rest =>
      if c = '\x27' then symbolsFrom (.inside (begun ++ ['\x27'])) rest
      else (symbolsFrom .outside rest).map fun ss => .literal (String.ofList begun) :: .char c :: ss

/-- The symbols of a text, unless it ends inside a literal. -/
def symbols (t : String) : Option (List Symbol) := symbolsFrom .outside t.toList

/-- The symbols of a text without quotes. -/
def plain (t : String) : List Symbol := t.toList.map .char

def QuoteFree (t : String) : Prop := '\x27' ∉ t.toList

instance (t : String) : Decidable (QuoteFree t) := inferInstanceAs (Decidable (¬_))

/-- The text does not begin with a quote, and its symbols come before those of what follows. -/
structure Reads (t : String) (ss : List Symbol) : Prop where
  start : t.toList.head? ≠ some '\x27'
  reads : ∀ rest : List Char, rest.head? ≠ some '\x27' →
    symbolsFrom .outside (t.toList ++ rest) = (symbolsFrom .outside rest).map (ss ++ ·)

theorem Reads.symbols_eq {t : String} {ss : List Symbol} (h : Reads t ss) :
    symbols t = some ss := by
  have whole := h.reads [] (by simp)
  rw [List.append_nil] at whole
  rw [symbols, whole]
  simp [symbolsFrom]

/-! ### Texts without quotes -/

@[simp] theorem plain_append (t u : String) : plain (t ++ u) = plain t ++ plain u := by
  simp [plain]

theorem QuoteFree.append {t u : String} (h : QuoteFree t) (h' : QuoteFree u) :
    QuoteFree (t ++ u) := by
  simpa [QuoteFree] using And.intro h h'

theorem QuoteFree.intercalate {sep : String} (h : QuoteFree sep) :
    ∀ {ts : List String}, (∀ t ∈ ts, QuoteFree t) → QuoteFree (sep.intercalate ts)
  | [], _ => by simp [QuoteFree]
  | [t], each => by
      rw [String.intercalate_singleton]
      exact each t (by simp)
  | t :: u :: rest, each => by
      rw [String.intercalate_cons_cons]
      have later : QuoteFree (sep.intercalate (u :: rest)) :=
        h.intercalate fun v member => each v (by simp [List.mem_cons.mp member])
      exact ((each t (by simp)).append h).append later

theorem symbolsFrom_plain {cs : List Char} (free : '\x27' ∉ cs) (rest : List Char) :
    symbolsFrom .outside (cs ++ rest) = (symbolsFrom .outside rest).map (cs.map .char ++ ·) := by
  induction cs with
  | nil => simp
  | cons c cs ih =>
      have other : c ≠ '\x27' := fun same => free (by simp [same])
      have later : '\x27' ∉ cs := fun member => free (List.mem_cons_of_mem c member)
      rw [List.cons_append, symbolsFrom, if_neg other, ih later, Option.map_map]
      rfl

theorem QuoteFree.reads {t : String} (h : QuoteFree t) : Reads t (plain t) where
  start := by
    intro quoted
    exact h (List.mem_of_head? quoted)
  reads := fun rest _ => symbolsFrom_plain h rest

/-! ### Literals -/

theorem symbolsFrom_closing (begun : List Char) {rest : List Char}
    (start : rest.head? ≠ some '\x27') :
    symbolsFrom (.closing begun) rest =
      (symbolsFrom .outside rest).map (.literal (String.ofList begun) :: ·) := by
  cases rest with
  | nil => simp [symbolsFrom]
  | cons c rest =>
      have other : c ≠ '\x27' := by simpa using start
      rw [symbolsFrom, symbolsFrom, if_neg other, if_neg other, Option.map_map]
      rfl

/-- What is written between the quotes of a literal is read as what it stands for. -/
theorem symbolsFrom_doubled (s begun : List Char) {rest : List Char}
    (start : rest.head? ≠ some '\x27') :
    symbolsFrom (.inside begun)
        (s.flatMap (fun c => if c = '\x27' then [c, c] else [c]) ++ '\x27' :: rest) =
      (symbolsFrom .outside rest).map (.literal (String.ofList (begun ++ s)) :: ·) := by
  induction s generalizing begun with
  | nil =>
      rw [List.flatMap_nil, List.nil_append, symbolsFrom, if_pos rfl, List.append_nil]
      exact symbolsFrom_closing begun start
  | cons c s ih =>
      have later := ih (begun ++ [c])
      rw [List.append_assoc, List.singleton_append] at later
      by_cases quote : c = '\x27'
      · subst quote
        rw [← later]
        simp [symbolsFrom]
      · rw [← later]
        simp [symbolsFrom, quote]

theorem symbolsFrom_quoteLiteral (s : String) {rest : List Char}
    (start : rest.head? ≠ some '\x27') :
    symbolsFrom .outside ((quoteLiteral s).toList ++ rest) =
      (symbolsFrom .outside rest).map (.literal s :: ·) := by
  have inside := symbolsFrom_doubled s.toList [] start
  rw [List.nil_append, String.ofList_toList] at inside
  rw [← inside]
  simp [quoteLiteral, symbolsFrom]

/-! ### Putting texts together -/

theorem Reads.append {t u : String} {ss ss' : List Symbol} (h : Reads t ss) (h' : Reads u ss') :
    Reads (t ++ u) (ss ++ ss') where
  start := by
    rw [String.toList_append]
    cases first : t.toList with
    | nil => simpa using h'.start
    | cons c cs => simpa [first] using h.start
  reads := by
    intro rest start
    have next : (u.toList ++ rest).head? ≠ some '\x27' := by
      cases second : u.toList with
      | nil => simpa using start
      | cons c cs => simpa [second] using h'.start
    rw [String.toList_append, List.append_assoc, h.reads _ next, h'.reads _ start, Option.map_map]
    simp [Function.comp_def]

theorem QuoteFree.reads_literal {t : String} (h : QuoteFree t) (some_ : t ≠ "") (s : String) :
    Reads (t ++ quoteLiteral s) (plain t ++ [.literal s]) where
  start := by
    rw [String.toList_append]
    cases first : t.toList with
    | nil => exact absurd (String.toList_eq_nil_iff.mp first) some_
    | cons c cs => simpa [first] using h.reads.start
  reads := by
    intro rest start
    rw [String.toList_append, List.append_assoc, symbolsFrom_plain h,
      symbolsFrom_quoteLiteral s start, Option.map_map]
    simp [plain, Function.comp_def]

theorem Reads.intercalate {α : Type} {sep : String} (h : QuoteFree sep) {text : α → String}
    {ss : α → List Symbol} : ∀ {as : List α}, (∀ a ∈ as, Reads (text a) (ss a)) →
      Reads (sep.intercalate (as.map text)) ((plain sep).intercalate (as.map ss))
  | [], _ => by
      have empty : QuoteFree "" := by decide
      exact empty.reads
  | [a], each => by
      simpa using each a (by simp)
  | a :: b :: rest, each => by
      have later : Reads (sep.intercalate ((b :: rest).map text))
          ((plain sep).intercalate ((b :: rest).map ss)) :=
        Reads.intercalate h fun x member => each x (List.mem_cons_of_mem a member)
      have first := (each a (by simp)).append h.reads
      rw [List.map_cons, List.map_cons, List.map_cons, List.map_cons, String.intercalate_cons_cons,
        List.intercalate_cons_cons]
      exact first.append later

end NodeInventory
