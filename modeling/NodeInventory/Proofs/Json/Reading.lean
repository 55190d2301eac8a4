import NodeInventory.Proofs.Json.Scalars

/-!
# Reading is the grammar

Every value that is read is one that the text denotes, `readValue_sound`, and whatever a text
denotes is read, `Denotes.read`: the steps that the reader is given are enough for any text, and
where the grammar lets a part end the reader ends it as well.  So a text is read exactly if it is
JSON with whole numbers that are not too long, and then as the value that it denotes (`read_iff`);
every other text is refused, and there is nothing else that can happen.
-/

namespace NodeInventory.Json

/-! ### Gaps -/

section gaps

variable {gap cs : List Char}

theorem skipGap_sound (cs : List Char) : ∃ gap, Gap gap ∧ cs = gap ++ skipGap cs :=
  ⟨cs.takeWhile isGap, fun _ => List.mem_takeWhile_imp, List.takeWhile_append_dropWhile.symm⟩

theorem gap_nil : Gap [] := by rintro _ ⟨⟩

theorem skipGap_append {c : Char} (h : Gap gap) (token : isGap c = false) :
    skipGap (gap ++ c :: cs) = c :: cs := by
  unfold skipGap
  rw [List.dropWhile_append_of_pos h, List.dropWhile_cons_of_neg (Bool.eq_false_iff.mp token)]

theorem skipGap_gap (h : Gap gap) : skipGap gap = [] := List.dropWhile_eq_nil_iff.mpr h

end gaps

/-! ### Words and numbers -/

section scalars

variable {cs rest : List Char} {v : Value}

theorem readScalar_sound (read : readScalar cs = .ok (v, rest)) :
    ∃ front, Denotes reader front v ∧ cs = front ++ rest := by
  unfold readScalar at read
  split at read
  next w v' found =>
    cases read
    have starts := List.find?_some found
    obtain ⟨more, rfl⟩ := List.isPrefixOf_iff_prefix.mp starts
    refine ⟨_, .word (List.mem_of_find?_eq_some found), ?_⟩
    rw [← String.length_toList, List.drop_left]
  next =>
    obtain ⟨front, number, whole⟩ := readNumber_sound read
    exact ⟨front, .number number, whole⟩

end scalars

/-! ### Values -/

mutual

theorem readValue_sound : ∀ (depth : Nat) {cs rest : List Char} {v : Value},
    readValue depth cs = .ok (v, rest) → ∃ front, Denotes reader front v ∧ cs = front ++ rest
  | 0, _, _, _, read => by
      rw [readValue] at read
      cases read
  | _ + 1, [], _, _, read => by
      rw [readValue] at read
      · cases read
      · rintro ⟨⟩
  | depth + 1, c :: more, rest, v, read => by
      rw [readValue] at read
      split at read
      next quote =>
        subst quote
        split at read
        next t after text =>
          obtain ⟨front, spelled, rfl⟩ := readText_sound text
          cases read
          exact ⟨_, .text spelled, by simp⟩
        next => cases read
      next =>
        split at read
        next bracket =>
          subst bracket
          obtain ⟨gap, isGap_, whole⟩ := skipGap_sound more
          split at read
          next after closes =>
            cases read
            refine ⟨_, .emptyList isGap_, ?_⟩
            rw [whole, closes]
            simp
          next =>
            obtain ⟨front, vs, items, rfl, whole'⟩ := readItems_sound depth read
            refine ⟨_, .list isGap_ items, ?_⟩
            rw [whole, whole']
            simp
        next =>
          split at read
          next brace =>
            subst brace
            obtain ⟨gap, isGap_, whole⟩ := skipGap_sound more
            split at read
            next after closes =>
              cases read
              refine ⟨_, .emptyObject isGap_, ?_⟩
              rw [whole, closes]
              simp
            next =>
              obtain ⟨front, fields, members, rfl, whole'⟩ := readFields_sound depth read
              refine ⟨_, .object isGap_ members, ?_⟩
              rw [whole, whole']
              simp
          next => exact readScalar_sound read

theorem readItems_sound : ∀ (depth : Nat) {before : List Value} {cs rest : List Char} {v : Value},
    readItems depth before cs = .ok (v, rest) →
      ∃ front vs, Items reader front vs ∧ v = .list (before.reverse ++ vs) ∧ cs = front ++ rest
  | 0, _, _, _, _, read => by
      rw [readItems] at read
      cases read
  | depth + 1, before, cs, rest, v, read => by
      rw [readItems] at read
      split at read
      next => cases read
      next item after found =>
        obtain ⟨front, denotes, rfl⟩ := readValue_sound depth found
        obtain ⟨gap, isGap_, whole⟩ := skipGap_sound after
        split at read
        next closes =>
          cases read
          refine ⟨_, _, .last denotes isGap_, ?_, ?_⟩
          · rw [List.reverse_cons]
          · rw [whole, closes]
            simp
        next more comma =>
          obtain ⟨gap', isGap', whole'⟩ := skipGap_sound more
          obtain ⟨front', vs, items, rfl, whole''⟩ := readItems_sound depth read
          refine ⟨_, _, .next denotes isGap_ isGap' items, ?_, ?_⟩
          · rw [List.reverse_cons, List.append_assoc, List.singleton_append]
          · rw [whole, comma, whole', whole'']
            simp
        next => cases read

theorem readFields_sound : ∀ (depth : Nat) {before : Fields} {cs rest : List Char} {v : Value},
    readFields depth before cs = .ok (v, rest) →
      ∃ front fields, Members reader front fields ∧
        v = .object (Fields.ofList (before.reverse ++ fields)) ∧ cs = front ++ rest
  | 0, _, _, _, _, read => by
      rw [readFields] at read
      cases read
  | depth + 1, before, cs, rest, v, read => by
      unfold readFields at read
      split at read
      next more =>
        split at read
        next => cases read
        next name after text =>
          obtain ⟨front, spelled, rfl⟩ := readText_sound text
          obtain ⟨gap, isGap_, whole⟩ := skipGap_sound after
          split at read
          next afterColon colon =>
            obtain ⟨gap', isGap', whole'⟩ := skipGap_sound afterColon
            split at read
            next => cases read
            next item afterValue found =>
              obtain ⟨value, denotes, follows⟩ := readValue_sound depth found
              obtain ⟨gapEnd, isGapEnd, wholeEnd⟩ := skipGap_sound afterValue
              have member := Member.intro spelled isGap_ isGap' denotes
              have start : '"' :: (front ++ '"' :: after) =
                  '"' :: (front ++ '"' :: (gap ++ ':' :: (gap' ++ value))) ++ afterValue := by
                rw [whole, colon, whole', follows]
                simp
              dsimp only at read
              split at read
              next closes =>
                cases read
                refine ⟨_, _, .last member isGapEnd, ?_, ?_⟩
                · rw [List.reverse_cons]
                · rw [start, wholeEnd, closes]
                  simp
              next afterComma comma =>
                obtain ⟨gapNext, isGapNext, wholeNext⟩ := skipGap_sound afterComma
                obtain ⟨front', fields, members, rfl, rest_eq⟩ := readFields_sound depth read
                refine ⟨_, _, .next member isGapEnd isGapNext members, ?_, ?_⟩
                · rw [List.reverse_cons, List.append_assoc, List.singleton_append]
                · rw [start, wholeEnd, comma, wholeNext, rest_eq]
                  simp
              next => cases read
          next => cases read
      next => cases read

end

/-! ### What begins and what follows a value -/

section ends

variable {short : Nat → Prop} {d : Dialect} {cs gap rest : List Char} {v : Value}

theorem ne_of_isAsciiDigit {c other : Char} (digit : isAsciiDigit c = true)
    (none_ : isAsciiDigit other = false) : c ≠ other := by
  rintro rfl
  rw [none_] at digit
  cases digit

theorem isAsciiBlank_of_isAsciiDigit {c : Char} (digit : isAsciiDigit c = true) :
    Text.isAsciiBlank c = false := by
  have low : 48 ≤ c.toNat := by
    simp only [isAsciiDigit, Bool.and_eq_true, decide_eq_true_eq] at digit
    exact digit.1
  have space : c ≠ ' ' := ne_of_isAsciiDigit digit rfl
  have below : ¬c.toNat ≤ 0xD := by omega
  simp [Text.isAsciiBlank, space, below]

theorem isAsciiBlank_of_isGap {c : Char} (between : isGap c = true) :
    Text.isAsciiBlank c = true := by
  simp only [isGap, Bool.or_eq_true, beq_iff_eq] at between
  rcases between with ((rfl | rfl) | rfl) | rfl <;> rfl

theorem isGap_of_visible {c : Char} (visible : Text.isAsciiBlank c = false) : isGap c = false := by
  by_contra between
  have blank := isAsciiBlank_of_isGap (Bool.not_eq_false _ ▸ between)
  rw [visible] at blank
  cases blank

theorem isGap_of_isAsciiDigit {c : Char} (digit : isAsciiDigit c = true) : isGap c = false :=
  isGap_of_visible (isAsciiBlank_of_isAsciiDigit digit)

theorem Numeral.head (h : Numeral short cs v) : ∃ negative c more,
    cs = minus negative ++ c :: more ∧ isAsciiDigit c = true := by
  cases h with
  | whole negative whole _ =>
      obtain ⟨c, more, rfl, digit⟩ := whole.toDigits.head
      exact ⟨negative, c, more, rfl, digit⟩
  | decimal negative whole _ _ _ =>
      obtain ⟨c, more, rfl, digit⟩ := whole.toDigits.head
      exact ⟨negative, c, _, rfl, digit⟩

/-- No value begins with a blank, with a byte order mark or with the end of a list. -/
theorem Denotes.head (h : Denotes d cs v) :
    ∃ c more, cs = c :: more ∧ Text.isAsciiBlank c = false ∧ c ≠ ']' ∧ c ≠ '\uFEFF' := by
  cases h with
  | word listed =>
      simp only [words, List.mem_cons, Prod.mk.injEq, List.not_mem_nil, or_false] at listed
      rcases listed with ⟨rfl, -⟩ | ⟨rfl, -⟩ | ⟨rfl, -⟩ | ⟨rfl, -⟩ | ⟨rfl, -⟩ | ⟨rfl, -⟩ <;>
        exact ⟨_, _, rfl, by decide, by decide, by decide⟩
  | number number =>
      obtain ⟨negative, c, more, rfl, digit⟩ := number.head
      cases negative with
      | true => exact ⟨_, _, rfl, by decide, by decide, by decide⟩
      | false =>
          exact ⟨c, more, rfl, isAsciiBlank_of_isAsciiDigit digit, ne_of_isAsciiDigit digit rfl,
            ne_of_isAsciiDigit digit rfl⟩
  | _ => exact ⟨_, _, rfl, by decide, by decide, by decide⟩

theorem Items.head {vs : List Value} (h : Items d cs vs) :
    ∃ c more, cs = c :: more ∧ isGap c = false ∧ c ≠ ']' := by
  cases h with
  | last denotes _ =>
      obtain ⟨c, more, rfl, visible, other, -⟩ := denotes.head
      exact ⟨c, _, rfl, isGap_of_visible visible, other⟩
  | next denotes _ _ _ =>
      obtain ⟨c, more, rfl, visible, other, -⟩ := denotes.head
      exact ⟨c, _, rfl, isGap_of_visible visible, other⟩

theorem Members.head {fields : Fields} (h : Members d cs fields) :
    ∃ more, cs = '"' :: more := by
  cases h with
  | last member _ => cases member; exact ⟨_, rfl⟩
  | next member _ _ _ => cases member; exact ⟨_, rfl⟩

/-- A text ends with a character that is no blank. -/
def Ends (cs : List Char) : Prop := ∃ front c, cs = front ++ [c] ∧ Text.isAsciiBlank c = false

theorem ends_singleton {c : Char} (visible : Text.isAsciiBlank c = false) : Ends [c] :=
  ⟨[], c, rfl, visible⟩

theorem Ends.append (h : Ends cs) (front : List Char) : Ends (front ++ cs) := by
  obtain ⟨more, c, rfl, visible⟩ := h
  exact ⟨front ++ more, c, (List.append_assoc front more [c]).symm, visible⟩

theorem Ends.cons (h : Ends cs) (c : Char) : Ends (c :: cs) := h.append [c]

theorem Ends.getLast? (h : Ends cs) : ∀ c, cs.getLast? = some c → Text.isAsciiBlank c = false := by
  obtain ⟨front, c, rfl, visible⟩ := h
  intro c' last
  rw [List.getLast?_concat] at last
  exact Option.some.inj last ▸ visible

theorem Digits.ends (h : Digits cs) : Ends cs := by
  obtain ⟨some_, digits⟩ := h
  exact ⟨_, _, (List.dropLast_append_getLast some_).symm,
    isAsciiBlank_of_isAsciiDigit (digits _ (List.getLast_mem some_))⟩

theorem Numeral.ends (h : Numeral short cs v) : Ends cs := by
  cases h with
  | whole negative whole _ => exact whole.toDigits.ends.append _
  | decimal negative whole fraction exponent _ =>
      refine Ends.append ?_ _
      cases exponent with
      | some _ _ digits => exact (((digits.ends.append _).cons _).append _).append _
      | none =>
          rw [List.append_nil]
          cases fraction with
          | some digits => exact (digits.ends.cons _).append _
          | none =>
              rw [List.append_nil]
              exact whole.toDigits.ends

theorem Items.ends {vs : List Value} : ∀ {cs : List Char}, Items d cs vs → Ends cs
  | _, .last _ _ => ((ends_singleton rfl).append _).append _
  | _, .next _ _ _ items => (((items.ends.append _).cons _).append _).append _

theorem Members.ends {fields : Fields} : ∀ {cs : List Char}, Members d cs fields → Ends cs
  | _, .last _ _ => ((ends_singleton rfl).append _).append _
  | _, .next _ _ _ members => (((members.ends.append _).cons _).append _).append _

/-- No value ends with a blank. -/
theorem Denotes.ends (h : Denotes d cs v) : Ends cs := by
  cases h with
  | word listed =>
      simp only [words, List.mem_cons, Prod.mk.injEq, List.not_mem_nil, or_false] at listed
      rcases listed with ⟨rfl, -⟩ | ⟨rfl, -⟩ | ⟨rfl, -⟩ | ⟨rfl, -⟩ | ⟨rfl, -⟩ | ⟨rfl, -⟩ <;>
        exact ⟨_, _, (List.dropLast_append_getLast (by decide)).symm, by decide⟩
  | number number => exact number.ends
  | list _ items => exact (items.ends.append _).cons _
  | object _ members => exact (members.ends.append _).cons _
  | _ => exact ((ends_singleton rfl).append _).cons _

theorem ends_of_isGap {c : Char} (between : isGap c = true) :
    isAsciiDigit c = false ∧ c ≠ '.' ∧ c ≠ 'e' ∧ c ≠ 'E' := by
  have other : ∀ mark, isGap mark = false → c ≠ mark := by
    rintro mark token rfl
    rw [token] at between
    cases between
  refine ⟨?_, other _ rfl, other _ rfl, other _ rfl⟩
  by_contra digit
  rw [isGap_of_isAsciiDigit (Bool.not_eq_false _ ▸ digit)] at between
  cases between

theorem Gap.stops (h : Gap gap) : Stops gap := fun c first =>
  ends_of_isGap (h c (List.mem_of_head? first))

theorem stops_gap {mark : Char} (h : Gap gap) (ends : mark ∈ [',', ']', '\x7d']) :
    Stops (gap ++ mark :: rest) := by
  intro c first
  cases gap with
  | nil =>
      obtain rfl := Option.some.inj first
      simp only [List.mem_cons, List.not_mem_nil, or_false] at ends
      rcases ends with rfl | rfl | rfl <;> decide
  | cons space gap =>
      obtain rfl := Option.some.inj first
      exact ends_of_isGap (h space List.mem_cons_self)

end ends

/-! ### Values are read to their end -/

section steps

variable {depth : Nat} {cs after rest : List Char} {v : Value}

theorem readItems_last {before : List Value} (read : readValue depth cs = .ok (v, after))
    (closes : skipGap after = ']' :: rest) :
    readItems (depth + 1) before cs = .ok (.list (before.reverse ++ [v]), rest) := by
  rw [readItems, read]
  dsimp only
  rw [closes, ← List.reverse_cons]
  rfl

theorem readItems_next {before : List Value} (read : readValue depth cs = .ok (v, after))
    (comma : skipGap after = ',' :: rest) :
    readItems (depth + 1) before cs = readItems depth (v :: before) (skipGap rest) := by
  rw [readItems, read]
  dsimp only
  rw [comma]
  rfl

/-- A number begins with no word. -/
theorem readScalar_number {short : Nat → Prop} (number : Numeral short cs v) (rest : List Char) :
    readScalar (cs ++ rest) = readNumber (cs ++ rest) := by
  obtain ⟨negative, c, more, rfl, digit⟩ := number.head
  have other : ∀ letter, isAsciiDigit letter = false → letter ≠ c := fun letter none_ =>
    (ne_of_isAsciiDigit digit none_).symm
  unfold readScalar
  split
  next w v found =>
    have listed := List.mem_of_find?_eq_some found
    have starts := List.find?_some found
    simp only [words, List.mem_cons, Prod.mk.injEq, List.not_mem_nil, or_false] at listed
    rcases listed with ⟨rfl, -⟩ | ⟨rfl, -⟩ | ⟨rfl, -⟩ | ⟨rfl, -⟩ | ⟨rfl, -⟩ | ⟨rfl, -⟩ <;>
      (cases negative <;> simp [minus] at starts) <;> exact absurd starts.1 (other _ rfl)
  next => rfl

theorem readValue_number {short : Nat → Prop} (number : Numeral short cs v) (rest : List Char) :
    readValue (depth + 1) (cs ++ rest) = readNumber (cs ++ rest) := by
  rw [← readScalar_number number]
  obtain ⟨negative, c, more, rfl, digit⟩ := number.head
  cases negative with
  | true => rfl
  | false =>
      show readValue (depth + 1) (c :: (more ++ rest)) = readScalar (c :: (more ++ rest))
      rw [readValue, if_neg (ne_of_isAsciiDigit digit rfl), if_neg (ne_of_isAsciiDigit digit rfl),
        if_neg (ne_of_isAsciiDigit digit rfl)]

/-- How the fields of an object go on after one of them. -/
def fieldsAfter (depth : Nat) (written : Fields) (after : List Char) : Read Value :=
  match skipGap after with
  | '\x7d' :: rest => .ok (.object (Fields.ofList written.reverse), rest)
  | ',' :: rest => readFields depth written (skipGap rest)
  | rest => .error (.flaw .noComma rest.length)

theorem readFields_field {before : Fields} {name t gap gap' : List Char}
    (spelled : Spells replacement name t) (isGap_ : Gap gap) (isGap' : Gap gap')
    (denotes : Denotes reader cs v) (read : readValue depth (cs ++ rest) = .ok (v, rest)) :
    readFields (depth + 1) before
        ('"' :: (name ++ '"' :: (gap ++ ':' :: (gap' ++ (cs ++ rest))))) =
      fieldsAfter depth ((String.ofList t, v) :: before) rest := by
  have colon : skipGap (gap ++ ':' :: (gap' ++ (cs ++ rest))) = ':' :: (gap' ++ (cs ++ rest)) :=
    skipGap_append isGap_ rfl
  have reached : skipGap (gap' ++ (cs ++ rest)) = cs ++ rest := by
    obtain ⟨c, more, rfl, visible, -⟩ := denotes.head
    exact skipGap_append isGap' (isGap_of_visible visible)
  simp only [readFields, readText_append spelled, colon, reached, read]
  rfl

/-- A field whose value is not read stops the reading of an object. -/
theorem readFields_error {before : Fields} {name t gap gap' : List Char} {c : Char} {stop : Stop}
    (spelled : Spells replacement name t) (isGap_ : Gap gap) (isGap' : Gap gap')
    (token : isGap c = false) (stopped : readValue depth (c :: rest) = .error stop) :
    readFields (depth + 1) before ('"' :: (name ++ '"' :: (gap ++ ':' :: (gap' ++ c :: rest)))) =
      .error stop := by
  have colon : skipGap (gap ++ ':' :: (gap' ++ c :: rest)) = ':' :: (gap' ++ c :: rest) :=
    skipGap_append isGap_ rfl
  simp only [readFields, readText_append spelled, colon, skipGap_append isGap' token, stopped]

end steps

mutual

/-- Whatever a text denotes is read from it, in no more steps than it has characters. -/
theorem Denotes.read {cs : List Char} {v : Value} :
    Denotes reader cs v → ∀ {depth : Nat} {rest : List Char}, cs.length ≤ depth → Stops rest →
      readValue depth (cs ++ rest) = .ok (v, rest) := by
  intro denotes depth rest enough stops
  obtain ⟨depth, rfl⟩ : ∃ d, depth = d + 1 := by
    obtain ⟨c, more, rfl, -⟩ := denotes.head
    exact ⟨depth - 1, by rw [List.length_cons] at enough; omega⟩
  cases denotes with
  | word listed =>
      simp only [words, List.mem_cons, Prod.mk.injEq, List.not_mem_nil, or_false] at listed
      rcases listed with ⟨rfl, rfl⟩ | ⟨rfl, rfl⟩ | ⟨rfl, rfl⟩ | ⟨rfl, rfl⟩ | ⟨rfl, rfl⟩ |
        ⟨rfl, rfl⟩ <;> rfl
  | number number =>
      rw [readValue_number number]
      exact readNumber_append number stops
  | text spelled =>
      simp only [List.cons_append, List.append_assoc, List.nil_append]
      rw [readValue, if_pos rfl, readText_append spelled]
  | emptyList isGap_ =>
      simp only [List.cons_append, List.append_assoc, List.nil_append]
      rw [readValue, if_neg (by decide), if_pos rfl, skipGap_append isGap_ rfl]
      rfl
  | @list gap cs vs isGap_ items =>
      simp only [List.length_cons, List.length_append] at enough
      have read : readItems depth [] (cs ++ rest) = .ok (.list vs, rest) := items.read (by omega)
      obtain ⟨c, more, rfl, token, other⟩ := items.head
      simp only [List.cons_append, List.append_assoc] at read ⊢
      rw [readValue, if_neg (by decide), if_pos rfl, skipGap_append isGap_ token]
      split
      next closes => exact absurd (List.cons.inj closes).1 other
      next => exact read
  | emptyObject isGap_ =>
      simp only [List.cons_append, List.append_assoc, List.nil_append]
      rw [readValue, if_neg (by decide), if_neg (by decide), if_pos rfl, skipGap_append isGap_ rfl]
      rfl
  | @object gap cs fields isGap_ members =>
      simp only [List.length_cons, List.length_append] at enough
      have read : readFields depth [] (cs ++ rest) = .ok (.object (Fields.ofList fields), rest) :=
        members.read (by omega)
      obtain ⟨more, rfl⟩ := members.head
      simp only [List.cons_append, List.append_assoc] at read ⊢
      rw [readValue, if_neg (by decide), if_neg (by decide), if_pos rfl, skipGap_append isGap_ rfl]
      exact read

theorem Items.read {cs : List Char} {vs : List Value} :
    Items reader cs vs → ∀ {depth : Nat} {before : List Value} {rest : List Char},
      cs.length ≤ depth →
      readItems depth before (cs ++ rest) = .ok (.list (before.reverse ++ vs), rest) := by
  intro items depth before rest enough
  obtain ⟨depth, rfl⟩ : ∃ d, depth = d + 1 := by
    obtain ⟨c, more, rfl, -⟩ := items.head
    exact ⟨depth - 1, by rw [List.length_cons] at enough; omega⟩
  cases items with
  | last denotes isGap_ =>
      simp only [List.length_append, List.length_cons] at enough
      simp only [List.append_assoc, List.cons_append, List.nil_append]
      exact readItems_last (denotes.read (by omega) (stops_gap isGap_ (by decide)))
        (skipGap_append isGap_ rfl)
  | @next cs gap gap' more v vs denotes isGap_ isGap' items =>
      simp only [List.length_append, List.length_cons] at enough
      simp only [List.append_assoc, List.cons_append]
      have value : readValue depth (cs ++ (gap ++ ',' :: (gap' ++ (more ++ rest)))) =
          .ok (v, gap ++ ',' :: (gap' ++ (more ++ rest))) :=
        denotes.read (by omega) (stops_gap isGap_ (by decide))
      have others : readItems depth (v :: before) (more ++ rest) =
          .ok (.list ((v :: before).reverse ++ vs), rest) := items.read (by omega)
      obtain ⟨c, more, rfl, token, -⟩ := items.head
      rw [readItems_next value (skipGap_append isGap_ rfl), List.cons_append,
        skipGap_append isGap' token, ← List.cons_append, others, List.reverse_cons,
        List.append_assoc, List.singleton_append]

theorem Member.read {cs : List Char} {field : String × Value} :
    Member reader cs field → ∀ {depth : Nat} {before : Fields} {rest : List Char},
      cs.length ≤ depth + 1 → Stops rest →
      readFields (depth + 1) before (cs ++ rest) = fieldsAfter depth (field :: before) rest := by
  intro member depth before rest enough stops
  cases member with
  | intro spelled isGap_ isGap' denotes =>
      simp only [List.length_append, List.length_cons] at enough
      simp only [List.append_assoc, List.cons_append]
      exact readFields_field spelled isGap_ isGap' denotes (denotes.read (by omega) stops)

theorem Members.read {cs : List Char} {fields : Fields} :
    Members reader cs fields → ∀ {depth : Nat} {before : Fields} {rest : List Char},
      cs.length ≤ depth →
      readFields depth before (cs ++ rest) =
        .ok (.object (Fields.ofList (before.reverse ++ fields)), rest) := by
  intro members depth before rest enough
  obtain ⟨depth, rfl⟩ : ∃ d, depth = d + 1 := by
    obtain ⟨more, rfl⟩ := members.head
    exact ⟨depth - 1, by rw [List.length_cons] at enough; omega⟩
  cases members with
  | last member isGap_ =>
      simp only [List.length_append, List.length_cons] at enough
      simp only [List.append_assoc, List.cons_append, List.nil_append]
      rw [member.read (by omega) (stops_gap isGap_ (by decide)), fieldsAfter,
        skipGap_append isGap_ rfl, List.reverse_cons]
      rfl
  | @next cs gap gap' more field fields member isGap_ isGap' members =>
      simp only [List.length_append, List.length_cons] at enough
      simp only [List.append_assoc, List.cons_append]
      have others : readFields depth (field :: before) (more ++ rest) =
          .ok (.object (Fields.ofList ((field :: before).reverse ++ fields)), rest) :=
        members.read (by omega)
      obtain ⟨more, rfl⟩ := members.head
      rw [member.read (by omega) (stops_gap isGap_ (by decide)), fieldsAfter,
        skipGap_append isGap_ rfl]
      show readFields depth (field :: before) (skipGap (gap' ++ ('"' :: more ++ rest))) = _
      rw [List.cons_append, skipGap_append isGap' rfl, ← List.cons_append, others,
        List.reverse_cons, List.append_assoc, List.singleton_append]

end

/-! ### Whole texts -/

section documents

variable {text : List Char} {v : Value}

theorem Document.head {d : Dialect} (h : Document d text v) :
    ∃ c more, text = c :: more := by
  cases h with
  | @intro gap cs gap' _ _ denotes _ =>
      obtain ⟨c, more, rfl, -⟩ := denotes.head
      cases gap <;> exact ⟨_, _, rfl⟩

/-- A text is read exactly if it is JSON whose whole numbers are short enough, and as the value
that it denotes. -/
theorem read_iff : read text = .ok v ↔ Document reader text v := by
  constructor
  · intro found
    obtain ⟨gap, isGap_, whole⟩ := skipGap_sound text
    unfold read at found
    dsimp only at found
    split at found
    next => cases found
    next =>
      split at found
      next => cases found
      next => cases found
      next after first =>
        obtain ⟨front, denotes, split_⟩ := readValue_sound _ first
        split at found
        next nothing =>
          cases found
          rw [whole, split_]
          exact .intro isGap_ denotes (List.dropWhile_eq_nil_iff.mp nothing)
        next => cases found
  · rintro ⟨isGap_, denotes, isGap'⟩
    rename_i gap cs gap'
    have enough : cs.length ≤ 2 * (gap ++ (cs ++ gap')).length + 1 := by
      simp only [List.length_append]
      omega
    have value := denotes.read enough isGap'.stops
    obtain ⟨c, more, rfl, visible, -, unmarked⟩ := denotes.head
    have skipped : skipGap (gap ++ (c :: more ++ gap')) = c :: more ++ gap' :=
      skipGap_append isGap_ (isGap_of_visible visible)
    have markless : (gap ++ (c :: more ++ gap')).head? ≠ some '\uFEFF' := by
      intro mark
      cases gap with
      | nil => exact unmarked (Option.some.inj mark)
      | cons space gap =>
          have between := isGap_ space List.mem_cons_self
          rw [Option.some.inj mark] at between
          cases between
    unfold read
    dsimp only
    rw [if_neg markless, skipped, value]
    dsimp only
    rw [skipGap_gap isGap']

theorem Document.unique {v' : Value} (h : Document reader text v) (h' : Document reader text v') :
    v = v' := by
  have same : (.ok v : Outcome Value) = .ok v' := (read_iff.mpr h).symm.trans (read_iff.mpr h')
  cases same
  rfl

end documents

end NodeInventory.Json
