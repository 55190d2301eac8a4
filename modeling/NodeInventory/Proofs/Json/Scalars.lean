import NodeInventory.Proofs.Json.Grammar

/-!
# Reading texts and numbers

The readers of the smallest parts of a JSON text accept what the grammar allows and nothing else:
a text in quotes is read to its closing quote (`readText_sound`, `readText_append`), and a number is
read to its end wherever what follows does not go on with it (`readNumber_sound`,
`readNumber_append`).
-/

namespace NodeInventory.Json

/-! ### Texts in quotes -/

section quoted

variable {start : Nat} {cs t rest : List Char}

theorem prepend_eq_ok {c : Char} {read : Read (List Char)} :
    prepend c read = .ok (t, rest) ↔ ∃ t', read = .ok (t', rest) ∧ t = c :: t' := by
  cases read with
  | error stop => simp [prepend]
  | ok found =>
      obtain ⟨t', rest'⟩ := found
      constructor
      · intro same
        cases same
        exact ⟨t', rfl, rfl⟩
      · rintro ⟨_, ⟨⟩, rfl⟩
        rfl

/-- What is read up to a quote is spelled there. -/
theorem readText_sound (read : readText start cs = .ok (t, rest)) :
    ∃ front, Spells replacement front t ∧ cs = front ++ '"' :: rest := by
  fun_induction readText start cs generalizing t with
  | case2 =>
      cases read
      exact ⟨[], .done, rfl⟩
  | case6 a b c d e f g h next more high code isHigh low lowCode isLow ih =>
      obtain ⟨t', read', rfl⟩ := prepend_eq_ok.mp read
      obtain ⟨front, spelled, whole⟩ := ih read'
      rw [whole]
      exact ⟨_, .pair code isHigh lowCode isLow spelled, rfl⟩
  | case7 a b c d e f g h next more high code after isHigh low lowCode notLow =>
      rename_i ih
      obtain ⟨t', read', rfl⟩ := prepend_eq_ok.mp read
      obtain ⟨front, spelled, (whole : '\\' :: 'u' :: e :: f :: g :: h :: next :: more = _)⟩ :=
        ih read'
      have alone : ¬StartsLow front := by
        rintro ⟨e', f', g', h', _, low', rfl, lowCode', isLow'⟩
        simp only [List.cons_append, List.cons.injEq] at whole
        obtain ⟨-, -, rfl, rfl, rfl, rfl, -⟩ := whole
        rw [lowCode] at lowCode'
        cases lowCode'
        exact notLow isLow'
      rw [whole]
      exact ⟨_, .unit code (fun _ => alone) spelled, rfl⟩
  | case8 a b c d e f g h next more unit code after notHigh =>
      rename_i ih
      obtain ⟨t', read', rfl⟩ := prepend_eq_ok.mp read
      obtain ⟨front, spelled, (whole : '\\' :: 'u' :: e :: f :: g :: h :: next :: more = _)⟩ :=
        ih read'
      rw [whole]
      exact ⟨_, .unit code (fun isHigh => absurd isHigh notHigh) spelled, rfl⟩
  | case10 a b c d next more ends unit code ih =>
      obtain ⟨t', read', rfl⟩ := prepend_eq_ok.mp read
      obtain ⟨front, spelled, whole⟩ := ih read'
      have alone : ¬StartsLow front := by
        rintro ⟨e, f, g, h, tail, low, rfl, -, -⟩
        obtain ⟨next', more', follows⟩ : ∃ next' more', tail ++ '"' :: rest = next' :: more' := by
          cases tail <;> exact ⟨_, _, rfl⟩
        cases whole
        exact ends e f g h next' more' rfl (by rw [← follows]; rfl)
      rw [whole]
      exact ⟨_, .unit code (fun _ => alone) spelled, rfl⟩
  | case12 c more _ _ _ e code ih =>
      obtain ⟨t', read', rfl⟩ := prepend_eq_ok.mp read
      obtain ⟨front, spelled, rfl⟩ := ih read'
      exact ⟨_, .escape code spelled, rfl⟩
  | case15 c more quote final _ _ _ other visible ih =>
      obtain ⟨t', read', rfl⟩ := prepend_eq_ok.mp read
      have unescaped : c ≠ '\\' := by
        intro same
        cases more with
        | nil => exact final same rfl
        | cons next more => exact other next more same rfl
      obtain ⟨front, spelled, rfl⟩ := ih read'
      exact ⟨_, .plain (Nat.le_of_not_lt visible) quote unescaped spelled, rfl⟩
  | _ => cases read

/-- A code that is followed by the closing quote is a code of the text. -/
theorem Spells.code {half e f g h : Char} {more : List Char} (spelled : Spells half cs t)
    (follows : cs ++ '"' :: rest = '\\' :: 'u' :: e :: f :: g :: h :: more) :
    ∃ tail unit, cs = '\\' :: 'u' :: e :: f :: g :: h :: tail ∧ codeUnit? e f g h = some unit := by
  cases spelled with
  | done => cases follows
  | plain _ _ unescaped _ => exact absurd (List.cons.inj follows).1 unescaped
  | escape letter _ =>
      obtain rfl := (List.cons.inj (List.cons.inj follows).2).1
      cases letter
  | unit code _ _ =>
      simp only [List.cons_append, List.cons.injEq, true_and] at follows
      obtain ⟨rfl, rfl, rfl, rfl, -⟩ := follows
      exact ⟨_, _, rfl, code⟩
  | pair code _ _ _ _ =>
      simp only [List.cons_append, List.cons.injEq, true_and] at follows
      obtain ⟨rfl, rfl, rfl, rfl, -⟩ := follows
      exact ⟨_, _, rfl, code⟩

/-- What is spelled in front of a quote is read up to it. -/
theorem readText_append (spelled : Spells replacement cs t) :
    readText start (cs ++ '"' :: rest) = .ok (t, rest) := by
  induction spelled with
  | done => exact readText.eq_2 start rest
  | @plain c cs t visible quote unescaped _ ih =>
      rw [List.cons_append, readText.eq_8 start c _ quote (fun same _ => unescaped same)
        (fun _ _ _ _ _ _ _ _ _ _ same _ => unescaped same)
        (fun _ _ _ _ _ _ same _ => unescaped same) (fun _ same _ => unescaped same)
        (fun _ _ same _ => unescaped same), if_neg (Nat.not_lt.mpr visible), ih]
      rfl
  | @escape c e cs t letter _ ih =>
      have other : c ≠ 'u' := by
        rintro rfl
        cases letter
      rw [List.cons_append, List.cons_append, readText.eq_7 start c _
        (fun _ _ _ _ _ _ _ _ _ _ same _ => other same) (fun _ _ _ _ _ _ same _ => other same)
        other, letter, ih]
      rfl
  | @unit a b c d unit cs t code alone spelled ih =>
      obtain ⟨next, more, follows⟩ : ∃ next more, cs ++ '"' :: rest = next :: more := by
        cases cs <;> exact ⟨_, _, rfl⟩
      simp only [List.cons_append]
      rw [follows] at ih ⊢
      by_cases paired : ∃ e f g h next' more',
          next = '\\' ∧ more = 'u' :: e :: f :: g :: h :: next' :: more'
      · obtain ⟨e, f, g, h, next', more', rfl, rfl⟩ := paired
        obtain ⟨tail, low, whole, lowCode⟩ := spelled.code follows
        rw [readText.eq_4, code]
        by_cases isHigh : isHighSurrogate unit = true
        · have notLow : ¬isLowSurrogate low = true := fun isLow =>
            alone isHigh ⟨e, f, g, h, tail, low, whole, lowCode, isLow⟩
          simp only [if_pos isHigh, lowCode, if_neg notLow, ih]
          rfl
        · simp only [if_neg isHigh, ih]
          rfl
      · rw [readText.eq_5 start a b c d next more fun e f g h next' more' backslash rest =>
          paired ⟨e, f, g, h, next', more', backslash, rest⟩, code]
        simp only [ih]
        rfl
  | @pair a b c d e f g h high low cs t code isHigh lowCode isLow _ ih =>
      obtain ⟨next, more, follows⟩ : ∃ next more, cs ++ '"' :: rest = next :: more := by
        cases cs <;> exact ⟨_, _, rfl⟩
      simp only [List.cons_append]
      rw [follows] at ih ⊢
      rw [readText.eq_4, code]
      simp only [if_pos isHigh, lowCode, if_pos isLow, ih]
      rfl

/-- A character that stands for itself between quotes. -/
def isPlain (c : Char) : Bool := 0x20 ≤ c.toNat && c != '"' && c != '\\'

theorem spells_plain {half : Char} (plain : cs.all isPlain = true) : Spells half cs cs := by
  induction cs with
  | nil => exact .done
  | cons c cs ih =>
      rw [List.all_cons, Bool.and_eq_true] at plain
      obtain ⟨first, rest⟩ := plain
      simp only [isPlain, Bool.and_eq_true, decide_eq_true_eq, bne_iff_ne] at first
      obtain ⟨⟨visible, quote⟩, unescaped⟩ := first
      exact .plain visible quote unescaped (ih rest)

end quoted

/-! ### Numbers -/

section numbers

variable {cs ds rest : List Char}

/-- What follows does not go on with digits. -/
def NoDigit (rest : List Char) : Prop := ∀ c, rest.head? = some c → isAsciiDigit c = false

/-- What follows does not go on with a number. -/
def Stops (rest : List Char) : Prop :=
  ∀ c, rest.head? = some c → isAsciiDigit c = false ∧ c ≠ '.' ∧ c ≠ 'e' ∧ c ≠ 'E'

theorem Stops.noDigit (stops : Stops rest) : NoDigit rest := fun c first => (stops c first).1

theorem takeWhile_digits (digits : ∀ c ∈ ds, isAsciiDigit c = true) (ends : NoDigit rest) :
    (ds ++ rest).takeWhile isAsciiDigit = ds ∧ (ds ++ rest).dropWhile isAsciiDigit = rest := by
  rw [List.takeWhile_append_of_pos digits, List.dropWhile_append_of_pos digits]
  cases rest with
  | nil => exact ⟨List.append_nil ds, rfl⟩
  | cons c rest =>
      have other : ¬isAsciiDigit c = true := Bool.eq_false_iff.mp (ends c rfl)
      rw [List.takeWhile_cons_of_neg other, List.dropWhile_cons_of_neg other]
      exact ⟨List.append_nil ds, rfl⟩

theorem digits_takeWhile {c : Char} (first : isAsciiDigit c = true) (cs : List Char) :
    Digits (c :: cs.takeWhile isAsciiDigit) := by
  refine ⟨List.cons_ne_nil _ _, fun d member => ?_⟩
  rcases List.mem_cons.mp member with rfl | later
  · exact first
  · exact List.mem_takeWhile_imp later

theorem Digits.head (h : Digits ds) : ∃ c more, ds = c :: more ∧ isAsciiDigit c = true := by
  obtain ⟨some_, digits⟩ := h
  cases ds with
  | nil => exact absurd rfl some_
  | cons c more => exact ⟨c, more, rfl, digits c List.mem_cons_self⟩

theorem takeWhole_sound (taken : takeWhole cs = some (ds, rest)) :
    Whole ds ∧ cs = ds ++ rest := by
  unfold takeWhole at taken
  split at taken
  · cases taken
    exact ⟨⟨⟨List.cons_ne_nil _ _, List.all_eq_true.mp rfl⟩, fun _ => rfl⟩, rfl⟩
  next c more other =>
    split at taken
    next digit =>
      cases taken
      refine ⟨⟨digits_takeWhile digit more, fun first => ?_⟩, ?_⟩
      · exact absurd (Option.some.inj first) other
      · rw [List.cons_append, List.takeWhile_append_dropWhile]
    next => cases taken
  · cases taken

theorem takeWhole_append (whole : Whole ds) (ends : NoDigit rest) :
    takeWhole (ds ++ rest) = some (ds, rest) := by
  obtain ⟨c, more, rfl, digit⟩ := whole.toDigits.head
  by_cases zero : c = '0'
  · subst zero
    rw [whole.unpadded rfl]
    rfl
  · have digits : ∀ d ∈ more, isAsciiDigit d = true := fun d member =>
      whole.digits d (List.mem_cons_of_mem c member)
    obtain ⟨taken, left⟩ := takeWhile_digits digits ends
    rw [List.cons_append, takeWhole.eq_2 c _ zero, if_pos digit, taken, left]

theorem takeFraction_sound {fs : List Char} (taken : takeFraction cs = (fs, rest)) :
    ∃ fraction, Fraction fraction fs ∧ cs = fraction ++ rest := by
  unfold takeFraction at taken
  split at taken
  next c more =>
    split at taken
    next digit =>
      cases taken
      refine ⟨_, .some (digits_takeWhile digit more), ?_⟩
      rw [List.cons_append, List.cons_append, List.takeWhile_append_dropWhile]
    next =>
      cases taken
      exact ⟨[], .none, rfl⟩
  next =>
    cases taken
    exact ⟨[], .none, rfl⟩

theorem takeFraction_append {fraction fs : List Char} (h : Fraction fraction fs)
    (ends : NoDigit rest) (pointless : rest.head? ≠ some '.') :
    takeFraction (fraction ++ rest) = (fs, rest) := by
  cases h with
  | none =>
      refine takeFraction.eq_2 rest fun c more same => pointless ?_
      rw [same]
      rfl
  | some digits =>
      obtain ⟨c, more, rfl, digit⟩ := digits.head
      obtain ⟨taken, left⟩ := takeWhile_digits
        (fun d member => digits.digits d (List.mem_cons_of_mem c member)) ends
      show takeFraction ('.' :: c :: (more ++ rest)) = _
      rw [takeFraction.eq_1, if_pos digit, taken, left]

theorem takeExponent_sound {n : Option Int} (taken : takeExponent cs = (n, rest)) :
    ∃ exponent, Exponent exponent n ∧ cs = exponent ++ rest := by
  unfold takeExponent at taken
  split at taken
  next mark more =>
    split at taken
    next marked =>
      obtain ⟨sign, signs, whole⟩ := Text.takeSign_sound more
      dsimp only at taken
      split at taken
      next =>
        cases taken
        exact ⟨[], .none, rfl⟩
      next some_ =>
        have mark_eq : mark = 'e' ∨ mark = 'E' := by simpa using marked
        have digits : Digits ((Text.takeSign more).2.takeWhile isAsciiDigit) :=
          ⟨fun none_ => some_ (by rw [none_]; rfl), fun _ => List.mem_takeWhile_imp⟩
        cases taken
        refine ⟨_, .some mark_eq signs digits, ?_⟩
        rw [List.cons_append, List.append_assoc, List.takeWhile_append_dropWhile, ← whole]
    next =>
      cases taken
      exact ⟨[], .none, rfl⟩
  next =>
    cases taken
    exact ⟨[], .none, rfl⟩

theorem takeExponent_append {exponent : List Char} {n : Option Int} (h : Exponent exponent n)
    (stops : Stops rest) : takeExponent (exponent ++ rest) = (n, rest) := by
  cases h with
  | none =>
      cases rest with
      | nil => rfl
      | cons c rest =>
          obtain ⟨-, -, lower, upper⟩ := stops c rfl
          have unmarked : ¬(c == 'e' || c == 'E') = true := by simp [lower, upper]
          exact if_neg unmarked
  | @some mark sign ds negative marked signs digits =>
      obtain ⟨c, more, rfl, digit⟩ := digits.head
      have minus : c ≠ '-' := by
        rintro rfl
        cases digit
      have plus : c ≠ '+' := by
        rintro rfl
        cases digit
      obtain ⟨taken, left⟩ := takeWhile_digits digits.digits stops.noDigit
      have mark_eq : (mark == 'e' || mark == 'E') = true := by simpa using marked
      unfold takeExponent
      simp only [List.cons_append, List.append_assoc, mark_eq, if_true,
        Text.takeSign_append signs minus plus]
      rw [← List.cons_append, taken, left]
      rfl

theorem follows_exponent {exponent : List Char} {n : Option Int} (h : Exponent exponent n)
    (stops : Stops rest) :
    NoDigit (exponent ++ rest) ∧ (exponent ++ rest).head? ≠ some '.' := by
  cases h with
  | none => exact ⟨stops.noDigit, fun point => (stops _ point).2.1 rfl⟩
  | some marked _ _ =>
      rcases marked with rfl | rfl
      · exact ⟨by rintro _ ⟨⟩; rfl, by rintro ⟨⟩⟩
      · exact ⟨by rintro _ ⟨⟩; rfl, by rintro ⟨⟩⟩

theorem follows_fraction {fraction fs : List Char} (h : Fraction fraction fs)
    (ends : NoDigit rest) : NoDigit (fraction ++ rest) := by
  cases h with
  | none => exact ends
  | some => rintro _ ⟨⟩; rfl

/-- The number of digits that a reader converts to a whole number. -/
def Short (count : Nat) : Prop := count ≤ Text.digitLimit

/-- What the reader makes of what is left open. -/
def reader : Dialect := ⟨Short, replacement⟩

/-- What is read as a number is one. -/
theorem readNumber_sound {v : Value} (read : readNumber cs = .ok (v, rest)) :
    ∃ front, Numeral Short front v ∧ cs = front ++ rest := by
  unfold readNumber at read
  split at read
  next negative unsigned signed =>
    have whole : cs = minus negative ++ unsigned := by
      split at signed <;> cases signed <;> rfl
    split at read
    next => cases read
    next ds afterWhole wholeTaken =>
      obtain ⟨isWhole, rfl⟩ := takeWhole_sound wholeTaken
      split at read
      next fs afterFraction fractionTaken =>
        obtain ⟨fraction, fractional, rfl⟩ := takeFraction_sound fractionTaken
        split at read
        next n after exponentTaken =>
          obtain ⟨exponent, raised, rfl⟩ := takeExponent_sound exponentTaken
          split at read
          next plain =>
            obtain ⟨none_, noExponent⟩ : fs = [] ∧ n = none := by simpa using plain
            split at read
            next => cases read
            next few =>
              cases read
              subst none_ noExponent
              cases raised
              cases fractional with
              | some digits => exact absurd rfl digits.nonempty
              | none => exact ⟨_, .whole negative isWhole (Nat.le_of_not_lt few), by simp [whole]⟩
          next marked =>
            have further : fs ≠ [] ∨ n ≠ none := by
              by_contra neither
              simp only [not_or, not_not] at neither
              exact marked (by simp [neither])
            cases read
            refine ⟨_, .decimal negative isWhole fractional raised further, ?_⟩
            simp only [whole, List.append_assoc]

theorem readNumber_of_parts (negative : Bool) {unsigned afterWhole fs afterFraction : List Char}
    {n : Option Int} (wholeTaken : takeWhole unsigned = some (ds, afterWhole))
    (fractionTaken : takeFraction afterWhole = (fs, afterFraction))
    (exponentTaken : takeExponent afterFraction = (n, rest)) :
    readNumber (minus negative ++ unsigned) =
      if fs = [] ∧ n = none then
        if Text.digitLimit < ds.length then .error (.digits ds.length)
        else .ok (.int (Text.signed negative (Text.asciiNumber ds)), rest)
      else
        .ok (.float (Binary64.ofDecimal negative (Text.asciiNumber (ds ++ fs))
          (n.getD 0 - fs.length)), rest) := by
  unfold readNumber
  split
  next negative' unsigned' signed =>
    have same : negative' = negative ∧ unsigned' = unsigned := by
      cases negative with
      | true =>
          cases signed
          exact ⟨rfl, rfl⟩
      | false =>
          have unmarked : minus false ++ unsigned = unsigned := rfl
          rw [unmarked] at signed
          split at signed
          · cases wholeTaken
          · cases signed
            exact ⟨rfl, rfl⟩
    obtain ⟨rfl, rfl⟩ := same
    simp only [wholeTaken, fractionTaken, exponentTaken, Bool.and_eq_true, List.isEmpty_iff,
      Option.isNone_iff_eq_none]
    rfl

/-- A number is read to its end, if what follows does not go on with it. -/
theorem readNumber_append {front : List Char} {v : Value} (h : Numeral Short front v)
    (stops : Stops rest) : readNumber (front ++ rest) = .ok (v, rest) := by
  cases h with
  | @whole negative ds isWhole few =>
      have taken := takeWhole_append isWhole stops.noDigit
      have pointless := takeFraction_append .none stops.noDigit fun point =>
        (stops _ point).2.1 rfl
      rw [List.append_assoc, readNumber_of_parts negative taken pointless
        (takeExponent_append .none stops), if_pos ⟨rfl, rfl⟩, if_neg (Nat.not_lt.mpr few)]
  | @decimal negative ds fraction fs exponent n isWhole fractional raised further =>
      obtain ⟨ends, pointless⟩ := follows_exponent raised stops
      have wholeTaken := takeWhole_append isWhole (follows_fraction fractional ends)
      have fractionTaken := takeFraction_append fractional ends pointless
      have decimal : ¬(fs = [] ∧ n = none) := fun ⟨none_, noExponent⟩ =>
        further.elim (· none_) (· noExponent)
      simp only [List.append_assoc]
      rw [readNumber_of_parts negative wholeTaken fractionTaken
        (takeExponent_append raised stops), if_neg decimal]

theorem readNumber_long (negative : Bool) (whole : Whole ds) (many : Text.digitLimit < ds.length)
    (stops : Stops rest) :
    readNumber (minus negative ++ (ds ++ rest)) = .error (.digits ds.length) := by
  have taken := takeWhole_append whole stops.noDigit
  have pointless := takeFraction_append .none stops.noDigit fun point => (stops _ point).2.1 rfl
  rw [readNumber_of_parts negative taken pointless (takeExponent_append .none stops),
    if_pos ⟨rfl, rfl⟩, if_pos many]

end numbers

end NodeInventory.Json
