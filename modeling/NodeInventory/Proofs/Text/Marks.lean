import NodeInventory.Text.Case

/-!
# Marks in lower case

Lower-casing a text leaves its marks where they are: the characters that can stand for something
else in a pattern stay as they are, and no other character becomes one of them, though it may
become two other characters.  So a text and its lower-case form have the same marks in the same
places (`lower_sameMarks`), and where one of them is cut at a mark, so is the other
(`SameMarks.cut`).
-/

namespace NodeInventory.Text

/-- The characters that can stand for something else in a pattern. -/
def marks : List Char := ['!', '*', '?', '[', ']']

/-- A character is one of these. -/
def IsMark (c : Char) : Prop := c ∈ marks

instance (c : Char) : Decidable (IsMark c) := inferInstanceAs (Decidable (c ∈ marks))

/-- Two texts differ only in what stands between their marks. -/
inductive SameMarks : List Char → List Char → Prop
  | nil : SameMarks [] []
  | same (c : Char) {cs cs' : List Char} : SameMarks cs cs' → SameMarks (c :: cs) (c :: cs')
  | other {part part' cs cs' : List Char} : part ≠ [] → part' ≠ [] →
      (∀ c ∈ part, ¬IsMark c) → (∀ c ∈ part', ¬IsMark c) → SameMarks cs cs' →
      SameMarks (part ++ cs) (part' ++ cs')

namespace SameMarks

variable {cs cs' : List Char}

theorem symm (h : SameMarks cs cs') : SameMarks cs' cs := by
  induction h with
  | nil => exact .nil
  | same c _ ih => exact .same c ih
  | other some_ some_' none_ none_' _ ih => exact .other some_' some_ none_' none_ ih

/-- Where one text is cut at a mark, the other one is, too. -/
theorem cut {before after : List Char} {m : Char} (mark : IsMark m)
    (h : SameMarks (before ++ m :: after) cs') : ∃ before' after',
      cs' = before' ++ m :: after' ∧ SameMarks before before' ∧ SameMarks after after' := by
  generalize whole : before ++ m :: after = cs at h
  induction h generalizing before with
  | nil => exact absurd whole (by simp)
  | same c rest ih =>
      cases before with
      | nil =>
          obtain ⟨rfl, rfl⟩ := List.cons.inj whole
          exact ⟨[], _, rfl, .nil, rest⟩
      | cons d before =>
          obtain ⟨rfl, rest⟩ := List.cons.inj whole
          obtain ⟨before', after', rfl, early, late⟩ := ih rest
          exact ⟨d :: before', after', rfl, .same d early, late⟩
  | @other part part' cs cs' some_ some_' none_ none_' _ ih =>
      obtain ⟨more, rfl, split_⟩ | ⟨more, rfl, split_⟩ := List.append_eq_append_iff.mp whole
      · -- the mark stands in the part, which has none, or right behind it
        cases more with
        | nil =>
            obtain ⟨before', after', rfl, early, late⟩ := @ih [] split_
            refine ⟨part' ++ before', after', (List.append_assoc ..).symm, ?_, late⟩
            simpa using SameMarks.other some_ some_' none_ none_' early
        | cons d more =>
            obtain ⟨rfl, -⟩ := List.cons.inj split_
            exact (none_ m (by simp) mark).elim
      · obtain ⟨before', after', rfl, early, late⟩ := ih split_.symm
        refine ⟨part' ++ before', after', (List.append_assoc ..).symm, ?_, late⟩
        exact .other some_ some_' none_ none_' early

theorem eq_nil (h : SameMarks cs []) : cs = [] := by
  generalize none_ : [] = cs' at h
  cases h with
  | nil => rfl
  | same => cases none_
  | other _ some_' => exact (some_' (List.append_eq_nil_iff.mp none_.symm).1).elim

theorem eq_singleton {m : Char} (mark : IsMark m) (h : SameMarks cs [m]) : cs = [m] := by
  have lone : SameMarks ([] ++ [m]) cs := h.symm
  obtain ⟨before, after, rfl, early, late⟩ := lone.cut mark
  rw [early.symm.eq_nil, late.symm.eq_nil]
  rfl

theorem mem {m : Char} (mark : IsMark m) (h : SameMarks cs cs') (member : m ∈ cs) : m ∈ cs' := by
  obtain ⟨before, after, rfl⟩ := List.append_of_mem member
  obtain ⟨before', after', rfl, -, -⟩ := cut mark h
  exact List.mem_append_right _ (List.mem_cons_self ..)

end SameMarks

/-! ### Lower case -/

theorem lowerChar_of_isMark {c : Char} (mark : IsMark c) : lowerChar c = c := by
  have each : marks.all (fun m => lowerChar m == m) = true := by decide +kernel
  exact beq_iff_eq.mp (List.all_eq_true.mp each c mark)

theorem isMark_of_lowerChar {c : Char} (mark : IsMark (lowerChar c)) : IsMark c := by
  -- what a run leads to comes behind the marks
  have behind : ∀ run ∈ lowerRuns, 0x61 ≤ run.1 + run.2.2.2 := by decide +kernel
  have before : marks.all (fun m => decide (0 < m.toNat ∧ m.toNat < 0x61)) = true := by decide
  unfold lowerChar at mark
  split at mark
  case h_2 => exact mark
  case h_1 first last step offset found =>
  have member := List.mem_of_find?_eq_some found
  have inside := List.find?_some found
  have least : 0x61 ≤ first + offset := behind _ member
  have bounds := of_decide_eq_true (List.all_eq_true.mp before _ mark)
  simp only [Bool.and_eq_true, decide_eq_true_eq] at inside
  have code (n : Nat) : (Char.ofNat n).toNat = n ∨ (Char.ofNat n).toNat = 0 := by
    by_cases valid : n.isValidChar
    · exact .inl (by rw [Char.ofNat, dif_pos valid]; rfl)
    · exact .inr (by rw [Char.ofNat, dif_neg valid]; rfl)
  rcases code (c.toNat + offset).toNat with same | none_ <;> omega

theorem lowerFrom_sameMarks (before cs : List Char) : SameMarks cs (lowerFrom before cs) := by
  induction cs generalizing before with
  | nil => exact .nil
  | cons c rest ih =>
      rw [lowerFrom]
      by_cases mark : IsMark c
      · have sigma : c ≠ 'Σ' := by
          rintro rfl
          exact absurd mark (by decide)
        have dotted : c ≠ 'İ' := by
          rintro rfl
          exact absurd mark (by decide)
        rw [if_neg sigma, if_neg dotted, lowerChar_of_isMark mark]
        exact .same c (ih _)
      · show SameMarks ([c] ++ rest) _
        refine .other (List.cons_ne_nil c []) ?_ (by simpa using mark) ?_ (ih _)
        · split
          · exact List.cons_ne_nil _ _
          · split <;> exact List.cons_ne_nil _ _
        · split
          · split <;> simp [IsMark, marks]
          · split
            · simp [IsMark, marks]
            · simpa using fun mark' => mark (isMark_of_lowerChar mark')

/-- Lower-casing leaves the marks of a text where they are. -/
theorem lower_sameMarks (s : String) : SameMarks s.toList (lower s).toList := by
  unfold lower
  rw [String.toList_ofList]
  exact lowerFrom_sameMarks [] s.toList

end NodeInventory.Text
