import NodeInventory.Glob.CharSet
import NodeInventory.Text.Case
import NodeInventory.Value.Access

/-!
# Patterns for names

A pattern has to match the whole of a name: `*` stands for any run of characters, `?` for any one,
brackets for one character of a set, and every other character for itself, as does a bracket that
is never closed.  Names and patterns are compared in lower case.
-/

namespace NodeInventory

namespace Glob

/-- What a part of a pattern stands for. -/
inductive Token where
  | run
  | any
  | set (s : CharSet)
  | char (c : Char)
  deriving DecidableEq, Repr

/-- Whether a token can stand for one character. -/
def Token.admits : Token → Char → Bool
  | .run, _ | .any, _ => true
  | .set s, c => s.holds c
  | .char c', c => c' == c

/-- The text between brackets and what follows it, `cs` starting after the opening one.  A closing
bracket right at the start, or right after an exclamation mark, belongs to the text. -/
def takeSet (cs : List Char) : Option (List Char × List Char) :=
  let (lead, rest) := match cs with
    | '!' :: ']' :: rest => (['!', ']'], rest)
    | '!' :: rest => (['!'], rest)
    | ']' :: rest => ([']'], rest)
    | rest => ([], rest)
  match rest.dropWhile (· != ']') with
  | [] => none
  | _ :: after => some (lead ++ rest.takeWhile (· != ']'), after)

theorem takeSet_length {cs inside after : List Char} (h : takeSet cs = some (inside, after)) :
    after.length < cs.length := by
  have shorter (rest : List Char) : (rest.dropWhile (· != ']')).length ≤ rest.length :=
    (List.dropWhile_sublist _).length_le
  unfold takeSet at h
  split at h
  rename_i lead rest split_
  split at h
  · simp at h
  · rename_i c tail found
    have after_ : tail = after := by simpa using (Option.some.inj h |> Prod.mk.inj).2
    have bound := shorter rest
    rw [found, after_] at bound
    have whole : rest.length ≤ cs.length := by
      split at split_ <;> grind
    simp only [List.length_cons] at bound
    omega

/-- The tokens of a pattern. -/
def tokens : List Char → List Token
  | [] => []
  | c :: rest =>
      if c = '*' then .run :: tokens rest
      else if c = '?' then .any :: tokens rest
      else if c = '[' then
        match _h : takeSet rest with
        | some (inside, after) => .set (CharSet.ofText inside) :: tokens after
        | none => .char '[' :: tokens rest
      else .char c :: tokens rest
termination_by cs => cs.length
decreasing_by
  all_goals first
    | exact Nat.lt_succ_self _
    | exact Nat.lt_succ_of_lt (takeSet_length _h)

/-! ### Matching

A row tells for each end part of a pattern, the longest first, whether it matches one text. -/

/-- The row of the empty text. -/
def emptyRow : List Token → List Bool
  | [] => [true]
  | token :: rest =>
      let row := emptyRow rest
      (token = .run && row.headD false) :: row

/-- The row of a text from its first character and the row of the rest. -/
def nextRow (c : Char) : List Token → List Bool → List Bool
  | token :: rest, matched :: row =>
      let next := nextRow c rest row
      (if token = .run then next.headD false || matched else token.admits c && row.headD false) ::
        next
  | _, _ => [false]

/-- Whether tokens match a text. -/
def accepts (ts : List Token) (cs : List Char) : Bool :=
  (cs.foldr (fun c row => nextRow c ts row) (emptyRow ts)).headD false

/-- Whether a name in lower case matches a pattern. -/
def matchesLower (lowered pattern : String) : Bool :=
  accepts (tokens (Text.lower pattern).toList) lowered.toList

/-- Whether a name matches one of the patterns. -/
def matchesAny (name : String) (patterns : List String) : Bool :=
  patterns.any (matchesLower (Text.lower name))

/-! ### Values of any kind -/

/-- Whether a name in lower case matches one of the patterns, looked at up to the first match. -/
def matchesFirst (lowered : String) : List Value → Outcome Bool
  | [] => .ok false
  | pattern :: rest => do
      let pattern ← pattern.textFor "lower"
      if matchesLower lowered pattern then pure true else matchesFirst lowered rest

/-- `matchesAny` for any values. -/
def matchesAnyValue (name patterns : Value) : Outcome Bool := do
  let name ← name.textFor "lower"
  matchesFirst (Text.lower name) (← patterns.items)

end Glob

end NodeInventory
