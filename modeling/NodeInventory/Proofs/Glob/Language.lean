import NodeInventory.Glob.Pattern
import NodeInventory.Proofs.Glob.Sets

/-!
# The language of a pattern

A pattern stands for a language (`Matches`): an asterisk for any run of characters, a question mark
for any one, brackets around a text for one that they hold, and every other character for itself,
as does a bracket that nothing closes.  A table of which end parts of the pattern match which end
parts of a text decides this language, whatever ways there are to share a text out among the
asterisks: `matchesLower_iff`.  Brackets hold what `BracketsHold` says, and not quite what they
seem to (`reversed_range_negates`).
-/

namespace NodeInventory

namespace Glob

/-- A text inside brackets is closed off from what follows it, the opening bracket being left out:
besides an exclamation mark in front it has a character, and no closing bracket behind this one. -/
structure Encloses (cs inside after : List Char) : Prop where
  closed : cs = inside ++ ']' :: after
  first : ∃ c body, (c ≠ '!' ∧ inside = c :: body ∨ inside = '!' :: c :: body) ∧ ']' ∉ body

/-- The language of a pattern, by what brackets around a text hold. -/
inductive Matches (hold : List Char → Char → Prop) : List Char → List Char → Prop
  | nil : Matches hold [] []
  | run {p run cs : List Char} : Matches hold p cs → Matches hold ('*' :: p) (run ++ cs)
  | any {p cs : List Char} {c : Char} : Matches hold p cs → Matches hold ('?' :: p) (c :: cs)
  | set {p inside after cs : List Char} {c : Char} : Encloses p inside after → hold inside c →
      Matches hold after cs → Matches hold ('[' :: p) (c :: cs)
  | bracket {p cs : List Char} : (∀ inside after, ¬Encloses p inside after) →
      Matches hold p cs → Matches hold ('[' :: p) ('[' :: cs)
  | char {p cs : List Char} {c : Char} : c ≠ '*' → c ≠ '?' → c ≠ '[' → Matches hold p cs →
      Matches hold (c :: p) (c :: cs)

/-! ### Tokens -/

/-- The texts that tokens stand for. -/
def Denotes : List Token → List Char → Prop
  | [], cs => cs = []
  | .run :: ts, cs => ∃ run rest, cs = run ++ rest ∧ Denotes ts rest
  | t :: ts, cs => ∃ c rest, cs = c :: rest ∧ t.admits c = true ∧ Denotes ts rest

/-- The row of a text. -/
def row (ts : List Token) (cs : List Char) : List Bool :=
  cs.foldr (fun c row => nextRow c ts row) (emptyRow ts)

theorem accepts_eq (ts : List Token) (cs : List Char) : accepts ts cs = (row ts cs).headD false := rfl

/-- The rows of the end parts of a pattern are the end parts of its row. -/
theorem row_cons (t : Token) (ts : List Token) (cs : List Char) :
    row (t :: ts) cs = accepts (t :: ts) cs :: row ts cs := by
  induction cs with
  | nil => rfl
  | cons c cs ih =>
      show nextRow c (t :: ts) (row (t :: ts) cs) = _
      rw [accepts_eq]
      show _ = (nextRow c (t :: ts) (row (t :: ts) cs)).headD false :: _
      rw [ih]
      rfl

theorem accepts_cons_nil (t : Token) (ts : List Token) :
    accepts (t :: ts) [] = (t = .run && accepts ts []) := rfl

theorem accepts_cons_cons (t : Token) (ts : List Token) (c : Char) (cs : List Char) :
    accepts (t :: ts) (c :: cs) =
      if t = .run then accepts ts (c :: cs) || accepts (t :: ts) cs
      else t.admits c && accepts ts cs := by
  show (nextRow c (t :: ts) (row (t :: ts) cs)).headD false = _
  rw [row_cons]
  rfl

theorem denotes_run_cons {ts : List Token} {c : Char} {cs : List Char} :
    Denotes (.run :: ts) (c :: cs) ↔ Denotes ts (c :: cs) ∨ Denotes (.run :: ts) cs := by
  constructor
  · rintro ⟨_ | ⟨d, run⟩, rest, split_, denoted⟩
    · exact .inl (split_ ▸ denoted)
    · obtain ⟨rfl, rfl⟩ := List.cons.inj split_
      exact .inr ⟨run, rest, rfl, denoted⟩
  · rintro (denoted | ⟨run, rest, rfl, denoted⟩)
    · exact ⟨[], _, rfl, denoted⟩
    · exact ⟨c :: run, rest, rfl, denoted⟩

theorem denotes_one {t : Token} (one : t ≠ .run) {ts : List Token} {cs : List Char} :
    Denotes (t :: ts) cs ↔ ∃ c rest, cs = c :: rest ∧ t.admits c = true ∧ Denotes ts rest := by
  cases t with
  | run => exact (one rfl).elim
  | _ => rfl

theorem denotes_char {d : Char} {ts : List Token} {cs : List Char} :
    Denotes (.char d :: ts) cs ↔ ∃ rest, cs = d :: rest ∧ Denotes ts rest := by
  constructor
  · rintro ⟨c, rest, rfl, admitted, denoted⟩
    obtain rfl : d = c := beq_iff_eq.mp admitted
    exact ⟨rest, rfl, denoted⟩
  · rintro ⟨rest, rfl, denoted⟩
    exact ⟨d, rest, rfl, beq_iff_eq.mpr rfl, denoted⟩

/-- The table decides what tokens stand for. -/
theorem accepts_iff (ts : List Token) (cs : List Char) :
    accepts ts cs = true ↔ Denotes ts cs := by
  induction ts generalizing cs with
  | nil =>
      cases cs with
      | nil => exact iff_of_true rfl rfl
      | cons c cs => exact iff_of_false Bool.false_ne_true (List.cons_ne_nil c cs)
  | cons t ts ih =>
      by_cases several : t = .run
      · subst several
        induction cs with
        | nil =>
            rw [accepts_cons_nil, decide_eq_true rfl, Bool.true_and, ih]
            constructor
            · intro denoted
              exact ⟨[], [], rfl, denoted⟩
            · rintro ⟨run, rest, split_, denoted⟩
              obtain ⟨-, rfl⟩ := List.append_eq_nil_iff.mp split_.symm
              exact denoted
        | cons c cs ih' =>
            rw [accepts_cons_cons, if_pos rfl, Bool.or_eq_true, ih, ih', denotes_run_cons]
      · rw [denotes_one several]
        cases cs with
        | nil => simp [accepts_cons_nil, several]
        | cons c cs =>
            rw [accepts_cons_cons, if_neg several, Bool.and_eq_true, ih]
            constructor
            · rintro ⟨admitted, denoted⟩
              exact ⟨c, cs, rfl, admitted, denoted⟩
            · rintro ⟨_, _, ⟨⟩, admitted, denoted⟩
              exact ⟨admitted, denoted⟩

/-! ### The tokens of a pattern -/

/-- The text between brackets, some of it having been read. -/
def close (lead rest : List Char) : Option (List Char × List Char) :=
  match rest.dropWhile (· != ']') with
  | [] => none
  | _ :: after => some (lead ++ rest.takeWhile (· != ']'), after)

theorem close_eq_some {lead rest inside after : List Char} :
    close lead rest = some (inside, after) ↔
      ∃ body, ']' ∉ body ∧ inside = lead ++ body ∧ rest = body ++ ']' :: after := by
  have passes {c : Char} : (c != ']') = true ↔ c ≠ ']' := bne_iff_ne
  unfold close
  constructor
  · intro h
    split at h
    case h_1 => cases h
    case h_2 c tail found =>
    cases h
    have first : c = ']' := by
      have stopped := List.head?_dropWhile_not (· != ']') rest
      rw [found] at stopped
      simpa using stopped
    refine ⟨rest.takeWhile (· != ']'), fun member => ?_, rfl, ?_⟩
    · have passed := List.all_takeWhile (p := (· != ']')) (l := rest)
      exact passes.mp (List.all_eq_true.mp passed _ member) rfl
    · rw [first] at found
      rw [← found, List.takeWhile_append_dropWhile]
  · rintro ⟨body, none_, rfl, rfl⟩
    have passed : ∀ c ∈ body, (c != ']') = true := by
      intro c member
      exact passes.mpr fun same => none_ (same ▸ member)
    rw [List.dropWhile_append_of_pos passed, List.takeWhile_append_of_pos passed]
    simp

/-- Behind an exclamation mark one more character belongs to the text. -/
theorem encloses_mark {rest inside after : List Char} :
    Encloses ('!' :: rest) inside after ↔
      ∃ c body, ']' ∉ body ∧ inside = '!' :: c :: body ∧ rest = c :: (body ++ ']' :: after) := by
  constructor
  · rintro ⟨closed, c, body, ⟨other, rfl⟩ | rfl, none_⟩
    · exact (other (List.cons.inj closed).1.symm).elim
    · exact ⟨c, body, none_, rfl, (List.cons.inj closed).2⟩
  · rintro ⟨c, body, none_, rfl, rfl⟩
    exact ⟨rfl, c, body, .inr rfl, none_⟩

theorem encloses_unmarked {c : Char} (other : c ≠ '!') {rest inside after : List Char} :
    Encloses (c :: rest) inside after ↔
      ∃ body, ']' ∉ body ∧ inside = c :: body ∧ rest = body ++ ']' :: after := by
  constructor
  · rintro ⟨closed, d, body, ⟨-, rfl⟩ | rfl, none_⟩
    · obtain ⟨rfl, rfl⟩ := List.cons.inj closed
      exact ⟨body, none_, rfl, rfl⟩
    · exact (other (List.cons.inj closed).1).elim
  · rintro ⟨body, none_, rfl, rfl⟩
    exact ⟨rfl, c, body, .inl ⟨other, rfl⟩, none_⟩

theorem exists_body_iff {rest after : List Char} {P : List Char → Prop}
    (unclosed : ∀ tail, rest ≠ ']' :: tail) :
    (∃ body, ']' ∉ body ∧ P body ∧ rest = body ++ ']' :: after) ↔
      ∃ c body, ']' ∉ body ∧ P (c :: body) ∧ rest = c :: (body ++ ']' :: after) := by
  constructor
  · rintro ⟨_ | ⟨c, body⟩, none_, holds, rfl⟩
    · exact (unclosed after rfl).elim
    · exact ⟨c, body, fun member => none_ (List.mem_cons_of_mem c member), holds, rfl⟩
  · rintro ⟨c, body, none_, holds, rfl⟩
    refine ⟨c :: body, fun member => ?_, holds, rfl⟩
    rcases List.mem_cons.mp member with rfl | later
    · exact unclosed _ rfl
    · exact none_ later

theorem takeSet_eq_some {cs inside after : List Char} :
    takeSet cs = some (inside, after) ↔ Encloses cs inside after := by
  unfold takeSet
  split
  rename_i lead rest given
  show close lead rest = _ ↔ _
  rw [close_eq_some]
  split at given <;> cases given
  case h_1 rest =>
    rw [encloses_mark]
    constructor
    · rintro ⟨body, none_, rfl, rfl⟩
      exact ⟨']', body, none_, rfl, rfl⟩
    · rintro ⟨c, body, none_, rfl, closed⟩
      obtain ⟨rfl, rfl⟩ := List.cons.inj closed
      exact ⟨body, none_, rfl, rfl⟩
  case h_2 rest unclosed =>
    rw [encloses_mark, exists_body_iff unclosed]
    rfl
  case h_3 rest =>
    rw [encloses_unmarked (by decide)]
    rfl
  case h_4 unmarked unclosed =>
    rw [exists_body_iff unclosed]
    constructor
    · rintro ⟨c, body, none_, rfl, rfl⟩
      have other : c ≠ '!' := fun mark => unmarked _ (congrArg (· :: _) mark)
      exact (encloses_unmarked other).mpr ⟨body, none_, rfl, rfl⟩
    · rintro ⟨closed, c, body, ⟨-, rfl⟩ | rfl, none_⟩
      · exact ⟨c, body, none_, rfl, closed⟩
      · exact (unmarked _ closed).elim

theorem Encloses.unique {cs inside inside' after after' : List Char} (h : Encloses cs inside after)
    (h' : Encloses cs inside' after') : inside = inside' ∧ after = after' := by
  have same := (takeSet_eq_some.mpr h).symm.trans (takeSet_eq_some.mpr h')
  exact Prod.mk.inj (Option.some.inj same)

section forms

variable {hold : List Char → Char → Prop} {p cs : List Char}

theorem matches_nil : Matches hold [] cs ↔ cs = [] := by
  constructor
  · rintro ⟨⟩
    rfl
  · rintro rfl
    exact .nil

theorem matches_run :
    Matches hold ('*' :: p) cs ↔ ∃ run rest, cs = run ++ rest ∧ Matches hold p rest := by
  constructor
  · intro h
    cases h with
    | run matched => exact ⟨_, _, rfl, matched⟩
    | char other => exact (other rfl).elim
  · rintro ⟨run, rest, rfl, matched⟩
    exact .run matched

theorem matches_any :
    Matches hold ('?' :: p) cs ↔ ∃ c rest, cs = c :: rest ∧ Matches hold p rest := by
  constructor
  · intro h
    cases h with
    | any matched => exact ⟨_, _, rfl, matched⟩
    | char _ other => exact (other rfl).elim
  · rintro ⟨c, rest, rfl, matched⟩
    exact .any matched

theorem matches_set {inside after : List Char} (closed : Encloses p inside after) :
    Matches hold ('[' :: p) cs ↔
      ∃ c rest, cs = c :: rest ∧ hold inside c ∧ Matches hold after rest := by
  constructor
  · intro h
    cases h with
    | set closed' held matched =>
        obtain ⟨rfl, rfl⟩ := closed.unique closed'
        exact ⟨_, _, rfl, held, matched⟩
    | bracket unclosed => exact (unclosed _ _ closed).elim
    | char _ _ other => exact (other rfl).elim
  · rintro ⟨c, rest, rfl, held, matched⟩
    exact .set closed held matched

theorem matches_bracket (unclosed : ∀ inside after, ¬Encloses p inside after) :
    Matches hold ('[' :: p) cs ↔ ∃ rest, cs = '[' :: rest ∧ Matches hold p rest := by
  constructor
  · intro h
    cases h with
    | set closed => exact (unclosed _ _ closed).elim
    | bracket _ matched => exact ⟨_, rfl, matched⟩
    | char _ _ other => exact (other rfl).elim
  · rintro ⟨rest, rfl, matched⟩
    exact .bracket unclosed matched

theorem matches_char {c : Char} (star : c ≠ '*') (mark : c ≠ '?') (bracket : c ≠ '[') :
    Matches hold (c :: p) cs ↔ ∃ rest, cs = c :: rest ∧ Matches hold p rest := by
  constructor
  · intro h
    cases h with
    | run => exact (star rfl).elim
    | any => exact (mark rfl).elim
    | set => exact (bracket rfl).elim
    | bracket => exact (bracket rfl).elim
    | char _ _ _ matched => exact ⟨_, rfl, matched⟩
  · rintro ⟨rest, rfl, matched⟩
    exact .char star mark bracket matched

end forms

theorem not_encloses {p : List Char} (none_ : takeSet p = none) (inside after : List Char) :
    ¬Encloses p inside after := by
  intro closed
  exact Option.some_ne_none _ ((takeSet_eq_some.mpr closed).symm.trans none_)

/-- The tokens of a pattern stand for its language. -/
theorem denotes_tokens (p cs : List Char) :
    Denotes (tokens p) cs ↔ Matches BracketsHold p cs := by
  induction p using tokens.induct generalizing cs with
  | case1 =>
      rw [tokens, matches_nil]
      rfl
  | case2 rest ih =>
      rw [tokens, if_pos rfl, matches_run]
      simp only [← ih]
      rfl
  | case3 rest star ih =>
      rw [tokens, if_neg star, if_pos rfl, matches_any]
      have one : Token.any ≠ .run := by decide
      simp only [← ih, denotes_one one, Token.admits, true_and]
  | case4 rest inside after found star mark ih =>
      have closed := takeSet_eq_some.mp found
      have cut : tokens ('[' :: rest) = .set (CharSet.ofText inside) :: tokens after := by
        rw [tokens, if_neg star, if_neg mark, if_pos rfl]
        split <;> simp_all
      rw [cut, matches_set closed]
      simp only [← ih, ← CharSet.holds_ofText]
      rfl
  | case5 rest found star mark ih =>
      have cut : tokens ('[' :: rest) = .char '[' :: tokens rest := by
        rw [tokens, if_neg star, if_neg mark, if_pos rfl]
        split <;> simp_all
      rw [cut, matches_bracket (not_encloses found), denotes_char]
      simp only [ih]
  | case6 c rest star mark bracket ih =>
      rw [tokens, if_neg star, if_neg mark, if_neg bracket, matches_char star mark bracket,
        denotes_char]
      simp only [ih]

/-! ### Names and patterns -/

theorem matchesLower_iff (lowered pattern : String) :
    matchesLower lowered pattern = true ↔
      Matches BracketsHold (Text.lower pattern).toList lowered.toList := by
  unfold matchesLower
  rw [accepts_iff, denotes_tokens]

/-- A name matches one of some patterns exactly if its lower-case form belongs to the language of
the lower-case form of one of them, where brackets hold what `BracketsHold` says. -/
theorem matchesAny_iff (name : String) (patterns : List String) :
    matchesAny name patterns = true ↔ ∃ pattern ∈ patterns,
      Matches BracketsHold (Text.lower pattern).toList (Text.lower name).toList := by
  unfold matchesAny
  simp only [List.any_eq_true, matchesLower_iff]

/-- What brackets would hold if only an exclamation mark in front of the text negated. -/
def BracketsList : List Char → Char → Prop
  | '!' :: cs, c => ¬SetItem.AnyHolds (itemsOf cs) c
  | cs, c => SetItem.AnyHolds (itemsOf cs) c

/-- An exclamation mark negates behind a reversed range too: brackets around `b-a!x` hold `y`. -/
theorem reversed_range_negates :
    ¬∀ (name : String) (patterns : List String), matchesAny name patterns = true ↔
      ∃ pattern ∈ patterns,
        Matches BracketsList (Text.lower pattern).toList (Text.lower name).toList := by
  intro all
  have matched : matchesAny "y" ["[b-a!x]"] = true := by decide +kernel
  have lowered : (Text.lower "[b-a!x]").toList = ['[', 'b', '-', 'a', '!', 'x', ']'] ∧
      (Text.lower "y").toList = ['y'] := by decide +kernel
  obtain ⟨pattern, member, listed⟩ := (all "y" ["[b-a!x]"]).mp matched
  rw [List.mem_singleton.mp member, lowered.1, lowered.2] at listed
  have closed : Encloses ['b', '-', 'a', '!', 'x', ']'] ['b', '-', 'a', '!', 'x'] [] :=
    takeSet_eq_some.mp (by decide)
  obtain ⟨c, rest, same, held, -⟩ := (matches_set closed).mp listed
  obtain ⟨rfl, -⟩ := List.cons.inj same
  obtain ⟨item, member, holds⟩ := held
  have items : itemsOf ['b', '-', 'a', '!', 'x'] = [.range 'b' 'a', .char '!', .char 'x'] := by
    decide
  rw [items] at member
  simp only [List.mem_cons, List.not_mem_nil, or_false] at member
  rcases member with rfl | rfl | rfl
  · exact absurd (Char.le_trans holds.1 holds.2) (by decide)
  · exact absurd (show 'y' = '!' from holds) (by decide)
  · exact absurd (show 'y' = 'x' from holds) (by decide)

end Glob

end NodeInventory
