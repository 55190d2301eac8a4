import NodeInventory.Proofs.Query.Selection

/-!
# Asterisks as wildcards

In a value `*` is meant to stand for any run of characters, and every other character for itself
(`Starred`).  A term compares by `LIKE` instead, with `%` for the asterisks, and there `%` and `_`
are wildcards wherever they come from.  So a term accepts every text that it should, and another
one only if the value has an asterisk next to a `%` or a `_` of its own: `wildcards_translated`.
-/

namespace NodeInventory

/-- A text matches a value in which only asterisks are wildcards. -/
def Starred : List Char → List Char → Prop
  | [], cs => cs = []
  | p :: ps, cs =>
      if p = '*' then ∃ run rest, cs = run ++ rest ∧ Starred ps rest
      else ∃ rest, cs = p :: rest ∧ Starred ps rest

/-- A character of a value as it stands in the pattern. -/
def patternChar (c : Char) : Char := if c = '*' then '%' else c

theorem wildcards_toList (v : String) : (wildcards v).toList = v.toList.map patternChar :=
  String.toList_ofList

section forms

variable {p : Char} {ps cs : List Char}

theorem starred_star :
    Starred ('*' :: ps) cs ↔ ∃ run rest, cs = run ++ rest ∧ Starred ps rest := Iff.rfl

theorem starred_char (other : p ≠ '*') :
    Starred (p :: ps) cs ↔ ∃ rest, cs = p :: rest ∧ Starred ps rest := by
  rw [Starred, if_neg other]

theorem like_percent : Like ('%' :: ps) cs ↔ ∃ run rest, cs = run ++ rest ∧ Like ps rest := Iff.rfl

theorem like_underscore : Like ('_' :: ps) cs ↔ ∃ c rest, cs = c :: rest ∧ Like ps rest := Iff.rfl

theorem like_char (percent : p ≠ '%') (underscore : p ≠ '_') :
    Like (p :: ps) cs ↔ ∃ rest, cs = p :: rest ∧ Like ps rest := by
  rw [Like, if_neg percent, if_neg underscore]

end forms

/-! ### Texts that match -/

theorem starred_iff_eq {v cs : List Char} (h : '*' ∉ v) : Starred v cs ↔ cs = v := by
  induction v generalizing cs with
  | nil => rfl
  | cons p ps ih =>
      obtain ⟨other, later⟩ := not_or.mp (mt List.mem_cons.mpr h)
      simp only [starred_char (Ne.symm other), ih later]
      constructor
      · rintro ⟨_, rfl, rfl⟩
        rfl
      · rintro rfl
        exact ⟨ps, rfl, rfl⟩

/-- What matches a value matches its pattern: a wildcard can stand for its own character. -/
theorem Starred.like {v cs : List Char} (h : Starred v cs) : Like (v.map patternChar) cs := by
  induction v generalizing cs with
  | nil => exact h
  | cons p ps ih =>
      rw [List.map_cons]
      by_cases star : p = '*'
      · subst star
        obtain ⟨run, rest, rfl, matched⟩ := starred_star.mp h
        exact like_percent.mpr ⟨run, rest, rfl, ih matched⟩
      obtain ⟨rest, rfl, matched⟩ := (starred_char star).mp h
      rw [patternChar, if_neg star]
      by_cases percent : p = '%'
      · subst percent
        exact like_percent.mpr ⟨['%'], rest, rfl, ih matched⟩
      by_cases underscore : p = '_'
      · subst underscore
        exact like_underscore.mpr ⟨'_', rest, rfl, ih matched⟩
      · exact (like_char percent underscore).mpr ⟨rest, rfl, ih matched⟩

/-- A pattern has no other wildcards than the asterisks if the value has no `%` and no `_`. -/
theorem Starred.of_like {v cs : List Char} (percent : '%' ∉ v) (underscore : '_' ∉ v)
    (h : Like (v.map patternChar) cs) : Starred v cs := by
  induction v generalizing cs with
  | nil => exact h
  | cons p ps ih =>
      obtain ⟨percent, percents⟩ := not_or.mp (mt List.mem_cons.mpr percent)
      obtain ⟨underscore, underscores⟩ := not_or.mp (mt List.mem_cons.mpr underscore)
      rw [List.map_cons] at h
      by_cases star : p = '*'
      · subst star
        obtain ⟨run, rest, rfl, matched⟩ := like_percent.mp h
        exact starred_star.mpr ⟨run, rest, rfl, ih percents underscores matched⟩
      · rw [patternChar, if_neg star] at h
        obtain ⟨rest, rfl, matched⟩ := (like_char (Ne.symm percent) (Ne.symm underscore)).mp h
        exact (starred_char star).mpr ⟨rest, rfl, ih percents underscores matched⟩

/-! ### A text that matches the pattern alone -/

/-- Every character of a value but the asterisk is in all texts that match. -/
theorem Starred.mem {v cs : List Char} (h : Starred v cs) {c : Char} (member : c ∈ v)
    (other : c ≠ '*') : c ∈ cs := by
  induction v generalizing cs with
  | nil => cases member
  | cons p ps ih =>
      by_cases star : p = '*'
      · subst star
        obtain ⟨run, rest, rfl, matched⟩ := starred_star.mp h
        have later : c ∈ ps := (List.mem_cons.mp member).resolve_left other
        exact List.mem_append_right run (ih matched later)
      · obtain ⟨rest, rfl, matched⟩ := (starred_char star).mp h
        rcases List.mem_cons.mp member with rfl | later
        · exact List.mem_cons_self
        · exact List.mem_cons_of_mem p (ih matched later)

/-- What a pattern can have in the place of a character of the value so that neither `%` nor `_` is
used. -/
def standIn (c : Char) : List Char :=
  if c = '*' ∨ c = '%' then [] else if c = '_' then ['-'] else [c]

theorem like_standIn (v : List Char) : Like (v.map patternChar) (v.flatMap standIn) := by
  induction v with
  | nil => rfl
  | cons p ps ih =>
      rw [List.map_cons, List.flatMap_cons]
      by_cases star : p = '*'
      · subst star
        exact like_percent.mpr ⟨[], _, rfl, ih⟩
      rw [patternChar, if_neg star]
      by_cases percent : p = '%'
      · subst percent
        exact like_percent.mpr ⟨[], _, rfl, ih⟩
      by_cases underscore : p = '_'
      · subst underscore
        exact like_underscore.mpr ⟨'-', _, rfl, ih⟩
      · rw [standIn, if_neg (not_or.mpr ⟨star, percent⟩), if_neg underscore]
        exact (like_char percent underscore).mpr ⟨_, rfl, ih⟩

theorem not_mem_standIn {c : Char} (wild : c = '%' ∨ c = '_') (v : List Char) :
    c ∉ v.flatMap standIn := by
  rw [List.mem_flatMap]
  rintro ⟨p, -, member⟩
  unfold standIn at member
  split at member
  case isTrue => cases member
  case isFalse starless =>
  split at member
  case isTrue =>
    rw [List.mem_singleton] at member
    subst member
    rcases wild with dash | dash <;> cases dash
  case isFalse underscore =>
    rw [List.mem_singleton] at member
    subst member
    rcases wild with percent | same
    · exact starless (.inr percent)
    · exact underscore same

/-! ### Terms -/

theorem Starred.accepts {v text : String} (h : Starred v.toList text.toList) : Accepts v text := by
  unfold Accepts
  split
  case isTrue =>
    rw [wildcards_toList]
    exact h.like
  case isFalse starless =>
    have none_ : '*' ∉ v.toList := by simpa [isPattern] using starless
    exact String.toList_inj.mp ((starred_iff_eq none_).mp h)

/-- A value accepts no other texts than those that match it exactly if it has no asterisk, or
neither a `%` nor a `_`. -/
theorem accepts_exact_iff (v : String) :
    (∀ text : String, Accepts v text ↔ Starred v.toList text.toList) ↔
      '*' ∉ v.toList ∨ '%' ∉ v.toList ∧ '_' ∉ v.toList := by
  constructor
  · intro exact_
    by_cases star : '*' ∈ v.toList
    case neg => exact .inl star
    have pattern : isPattern v = true := by simpa [isPattern] using star
    -- this text has no `%` and no `_`, so that no value with one of them matches it
    have accepted : Accepts v (String.ofList (v.toList.flatMap standIn)) := by
      unfold Accepts
      rw [if_pos pattern, wildcards_toList, String.toList_ofList]
      exact like_standIn v.toList
    have matched := (exact_ _).mp accepted
    rw [String.toList_ofList] at matched
    have absent {c : Char} (wild : c = '%' ∨ c = '_') (distinct : c ≠ '*') : c ∉ v.toList :=
      fun member => not_mem_standIn wild v.toList (matched.mem member distinct)
    exact .inr ⟨absent (.inl rfl) (by decide), absent (.inr rfl) (by decide)⟩
  · intro tame text
    refine ⟨fun accepted => ?_, Starred.accepts⟩
    unfold Accepts at accepted
    split at accepted
    case isFalse starless =>
      have none_ : '*' ∉ v.toList := by simpa [isPattern] using starless
      exact (starred_iff_eq none_).mpr (congrArg String.toList accepted)
    case isTrue pattern =>
      have star : '*' ∈ v.toList := by simpa [isPattern] using pattern
      obtain ⟨percent, underscore⟩ := tame.resolve_left fun none_ => none_ star
      rw [wildcards_toList] at accepted
      exact .of_like percent underscore accepted

theorem readCondition_term {column : String} (word : IsWord column) (op : Operator) (v : String) :
    readCondition (term column op v) =
      some (.test column (comparator op (isPattern v)) (wildcards v)) := by
  have read := (term_reads word.quoteFree op v).symbols_eq
  have tokens := (term_lexes word op v).tokens_eq
  have derived : Derives .condition (termTokens column op v)
      (.test column (comparator op (isPattern v)) (wildcards v)) :=
    .condition (.conjunct (.test ..))
  rw [readCondition, read, Option.bind_some, tokens, derived.parse_eq]

/-- The including term of a value holds of every row whose text matches the value, and of these
alone exactly if the value has no asterisk, or neither a `%` nor a `_`; the excluding term holds
exactly where the including one does not. -/
theorem wildcards_translated {column : String} (word : IsWord column) (v : String) :
    ∃ including excluding : Cond,
      readCondition (term column .eq v) = some including ∧
      readCondition (term column .neq v) = some excluding ∧
      ∀ order : RowOrder,
        (∀ row, Starred v.toList (row column).toList → including.Holds order row) ∧
        ((∀ row, including.Holds order row ↔ Starred v.toList (row column).toList) ↔
          '*' ∉ v.toList ∨ '%' ∉ v.toList ∧ '_' ∉ v.toList) ∧
        ∀ row, excluding.Holds order row ↔ ¬including.Holds order row := by
  refine ⟨_, _, readCondition_term word .eq v, readCondition_term word .neq v, fun order => ?_⟩
  have includes (row : Row) :
      Cond.Holds order row (.test column (comparator .eq (isPattern v)) (wildcards v)) ↔
        Accepts v (row column) := termHolds_eq
  have excludes (row : Row) :
      Cond.Holds order row (.test column (comparator .neq (isPattern v)) (wildcards v)) ↔
        ¬Accepts v (row column) := termHolds_neq
  refine ⟨fun row matched => (includes row).mpr matched.accepts, ?_, fun row => ?_⟩
  · simp only [includes]
    rw [← accepts_exact_iff]
    constructor
    · intro all text
      exact all fun _ => text
    · intro all row
      exact all (row column)
  · rw [includes, excludes]

/-- A value with an asterisk and an underscore, and a quote. -/
theorem wildcards_translated_underscore :
    IsWord "Nodes.Caption" ∧ ∃ including excluding : Cond,
      readCondition "Nodes.Caption LIKE 'o''b_r%'" = some including ∧
      readCondition "Nodes.Caption NOT LIKE 'o''b_r%'" = some excluding ∧
      ∀ order : RowOrder,
        (∀ row, Starred "o'b_r*".toList (row "Nodes.Caption").toList →
          including.Holds order row) ∧
        (¬∀ row, including.Holds order row ↔
          Starred "o'b_r*".toList (row "Nodes.Caption").toList) ∧
        ∀ row, excluding.Holds order row ↔ ¬including.Holds order row := by
  have word : IsWord "Nodes.Caption" := by decide
  have eq_ : term "Nodes.Caption" .eq "o'b_r*" = "Nodes.Caption LIKE 'o''b_r%'" := by decide
  have neq_ : term "Nodes.Caption" .neq "o'b_r*" = "Nodes.Caption NOT LIKE 'o''b_r%'" := by decide
  obtain ⟨including, excluding, read, read', holds⟩ := wildcards_translated word "o'b_r*"
  rw [eq_] at read
  rw [neq_] at read'
  refine ⟨word, including, excluding, read, read', fun order => ?_⟩
  obtain ⟨sound, exact_, negated⟩ := holds order
  refine ⟨sound, fun all => ?_, negated⟩
  exact absurd (exact_.mp all) (by decide)

end NodeInventory
