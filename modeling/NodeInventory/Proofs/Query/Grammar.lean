import NodeInventory.Proofs.Query.Literal

/-!
# The grammar of conditions

The symbols of a text make tokens: words, parentheses and literals.  A condition is a comparison
of a column with a literal, a condition in parentheses, or several of these joined by `AND` and
`OR`, of which `AND` binds tighter (`Derives`).  `parse` reads tokens from left to right and keeps
a frame for each open parenthesis.  It finds the condition of every derivation, `Derives.parse_eq`,
so that no tokens have two.
-/

namespace NodeInventory

/-! ### Tokens -/

inductive Token where
  | word (s : String)
  | opens
  | closes
  | literal (s : String)
  deriving DecidableEq, Repr

/-- The token of a word that has ended, if there is one. -/
def wordToken (w : List Char) : List Token := if w.isEmpty then [] else [.word (String.ofList w)]

/-- The tokens of the rest of a text; a word may have begun with some characters. -/
def tokensFrom (w : List Char) : List Symbol → List Token
  | [] => wordToken w
  | .literal s :: rest => wordToken w ++ .literal s :: tokensFrom [] rest
  | .char c :: rest =>
      if c = ' ' then wordToken w ++ tokensFrom [] rest
      else if c = '(' then wordToken w ++ .opens :: tokensFrom [] rest
      else if c = ')' then wordToken w ++ .closes :: tokensFrom [] rest
      else tokensFrom (w ++ [c]) rest

/-! ### Conditions -/

/-- How a column is compared with a text. -/
inductive Comparator where
  | eq | neq | le | ge | like | notLike
  deriving DecidableEq, Repr

/-- A condition on a row. -/
inductive Cond where
  | test (column : String) (comparator : Comparator) (s : String)
  | and (left right : Cond)
  | or (left right : Cond)
  deriving DecidableEq, Repr

/-- The words of a comparison. -/
def Comparator.words : Comparator → List Token
  | .eq => [.word "="]
  | .neq => [.word "!="]
  | .le => [.word "<="]
  | .ge => [.word ">="]
  | .like => [.word "LIKE"]
  | .notLike => [.word "NOT", .word "LIKE"]

/-- What a part of a condition can be joined by: nothing, `AND`, or `AND` and `OR`. -/
inductive Rank where
  | atom | conjunct | condition

/-- The condition that some tokens of a rank stand for. -/
inductive Derives : Rank → List Token → Cond → Prop
  | test (column : String) (comparator : Comparator) (s : String) :
      Derives .atom (.word column :: comparator.words ++ [.literal s])
        (.test column comparator s)
  | group {ts : List Token} {c : Cond} : Derives .condition ts c →
      Derives .atom (.opens :: ts ++ [.closes]) c
  | conjunct {ts : List Token} {c : Cond} : Derives .atom ts c → Derives .conjunct ts c
  | and {ts us : List Token} {c d : Cond} : Derives .conjunct ts c → Derives .atom us d →
      Derives .conjunct (ts ++ .word "AND" :: us) (.and c d)
  | condition {ts : List Token} {c : Cond} : Derives .conjunct ts c → Derives .condition ts c
  | or {ts us : List Token} {c d : Cond} : Derives .condition ts c → Derives .conjunct us d →
      Derives .condition (ts ++ .word "OR" :: us) (.or c d)

/-! ### Parsing -/

/-- The comparison of a sign of one word. -/
def Comparator.ofWord? (s : String) : Option Comparator :=
  if s = "=" then some .eq
  else if s = "!=" then some .neq
  else if s = "<=" then some .le
  else if s = ">=" then some .ge
  else if s = "LIKE" then some .like
  else none

/-- What has been read between a parenthesis and an atom: the alternatives before the last `OR`,
and the conjuncts after it. -/
structure Frame where
  alternatives : Option Cond := none
  conjuncts : Option Cond := none

/-- A condition behind another one, if there is one. -/
def behind (join : Cond → Cond → Cond) (first : Option Cond) (c : Cond) : Cond :=
  match first with
  | none => c
  | some b => join b c

mutual

/-- Reads an atom and what follows it. -/
def expect (outer : List Frame) (frame : Frame) : List Token → Option Cond
  | .opens :: rest => expect (frame :: outer) {} rest
  | .word column :: .word sign :: .literal s :: rest =>
      match Comparator.ofWord? sign with
      | some comparator =>
          follow outer frame.alternatives
            (behind .and frame.conjuncts (.test column comparator s)) rest
      | none => none
  | .word column :: .word negation :: .word sign :: .literal s :: rest =>
      if negation = "NOT" ∧ sign = "LIKE" then
        follow outer frame.alternatives
          (behind .and frame.conjuncts (.test column .notLike s)) rest
      else none
  | _ => none

/-- Reads on after some conjuncts. -/
def follow (outer : List Frame) (alternatives : Option Cond) (c : Cond) :
    List Token → Option Cond
  | [] =>
      match outer with
      | [] => some (behind .or alternatives c)
      | _ :: _ => none
  | .closes :: rest =>
      match outer with
      | [] => none
      | frame :: outer =>
          follow outer frame.alternatives
            (behind .and frame.conjuncts (behind .or alternatives c)) rest
  | .word w :: rest =>
      if w = "AND" then expect outer ⟨alternatives, some c⟩ rest
      else if w = "OR" then expect outer ⟨some (behind .or alternatives c), none⟩ rest
      else none
  | _ => none

end

/-- The condition that some tokens stand for. -/
def parse (ts : List Token) : Option Cond := expect [] {} ts

/-- The condition that a text stands for, unless it is none. -/
def readCondition (t : String) : Option Cond := (symbols t).bind fun ss => parse (tokensFrom [] ss)

/-! ### Every derivation is found -/

/-- What the parser does with the tokens of a rank, whatever follows them. -/
def Found : Rank → List Token → Cond → Prop
  | .atom, ts, c => ∀ (outer : List Frame) (frame : Frame) (rest : List Token),
      expect outer frame (ts ++ rest) =
        follow outer frame.alternatives (behind .and frame.conjuncts c) rest
  | .conjunct, ts, c => ∀ (outer : List Frame) (alternatives : Option Cond) (rest : List Token),
      expect outer ⟨alternatives, none⟩ (ts ++ rest) = follow outer alternatives c rest
  | .condition, ts, c => ∀ (outer : List Frame) (rest : List Token),
      ∃ (alternatives : Option Cond) (last : Cond), behind .or alternatives last = c ∧
        expect outer {} (ts ++ rest) = follow outer alternatives last rest

theorem Derives.found {rank : Rank} {ts : List Token} {c : Cond} (h : Derives rank ts c) :
    Found rank ts c := by
  induction h with
  | test column comparator s =>
      intro outer frame rest
      cases comparator <;> simp [Comparator.words, expect, Comparator.ofWord?]
  | group _ ih =>
      intro outer frame rest
      obtain ⟨alternatives, last, rfl, read⟩ := ih (frame :: outer) (.closes :: rest)
      rw [List.cons_append, List.cons_append, List.append_assoc, expect, List.singleton_append,
        read, follow]
  | conjunct _ ih =>
      intro outer alternatives rest
      exact ih outer ⟨alternatives, none⟩ rest
  | and _ _ ih ih' =>
      intro outer alternatives rest
      rw [List.append_assoc, ih, List.cons_append, follow, if_pos rfl, ih']
      rfl
  | @condition _ c _ ih =>
      intro outer rest
      exact ⟨none, c, rfl, ih outer none rest⟩
  | @or _ _ c d _ _ ih ih' =>
      intro outer rest
      obtain ⟨alternatives, last, rfl, read⟩ := ih outer (.word "OR" :: (_ ++ rest))
      refine ⟨some (behind .or alternatives last), d, rfl, ?_⟩
      rw [List.append_assoc, List.cons_append, read, follow, if_neg (by decide), if_pos rfl, ih']

/-- The parser finds the condition that tokens stand for. -/
theorem Derives.parse_eq {ts : List Token} {c : Cond} (h : Derives .condition ts c) :
    parse ts = some c := by
  obtain ⟨alternatives, last, rfl, read⟩ := h.found [] []
  rw [List.append_nil] at read
  rw [parse, read, follow]

example : readCondition "( a = 'x' OR b NOT LIKE 'y''%' ) AND c <= '7'" =
    some (.and (.or (.test "a" .eq "x") (.test "b" .notLike "y'%")) (.test "c" .le "7")) := by
  decide

end NodeInventory
