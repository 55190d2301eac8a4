import NodeInventory.Text.Blank
import Mathlib.Data.List.DropRight

/-!
# Trimming

To trim a text is to take away all blanks at both ends and nothing else: what is left neither begins
nor ends with a blank, and there is only one such text (`strips_iff`).
-/

namespace NodeInventory.Text

/-- A text is another one without the blanks around it. -/
structure Strips (s t : String) : Prop where
  around : ∃ lead tail, (∀ c ∈ lead, isBlank c = true) ∧ (∀ c ∈ tail, isBlank c = true) ∧
    s.toList = lead ++ t.toList ++ tail
  first : ∀ c, t.toList.head? = some c → isBlank c = false
  last : ∀ c, t.toList.getLast? = some c → isBlank c = false

theorem trimWith_eq (skip : Char → Bool) (cs : List Char) :
    trimWith skip cs = (cs.dropWhile skip).rdropWhile skip := rfl

theorem trim_toList (s : String) : (trim s).toList = trimWith isBlank s.toList :=
  String.toList_ofList

section ends

variable {skip : Char → Bool}

theorem head_trimWith {cs : List Char} {c : Char} (first : (trimWith skip cs).head? = some c) :
    skip c = false := by
  obtain ⟨rest, whole⟩ := List.rdropWhile_prefix skip (l := cs.dropWhile skip)
  have dropped : (cs.dropWhile skip).head? = some c := by
    rw [← whole, List.head?_append, ← trimWith_eq, first]
    rfl
  have left := List.head?_dropWhile_not skip cs
  rwa [dropped] at left

theorem getLast_trimWith {cs : List Char} {c : Char}
    (last : (trimWith skip cs).getLast? = some c) : skip c = false := by
  have some_ : trimWith skip cs ≠ [] := by
    intro none_
    rw [none_] at last
    cases last
  rw [List.getLast?_eq_some_getLast some_] at last
  obtain rfl := Option.some.inj last
  exact Bool.eq_false_iff.mpr (List.rdropWhile_last_not skip _ some_)

/-- Around a text that neither begins nor ends with a character of a class, such characters are
dropped, and no others. -/
theorem trimWith_around {lead core tail : List Char} (leads : ∀ c ∈ lead, skip c = true)
    (tails : ∀ c ∈ tail, skip c = true) (first : ∀ c, core.head? = some c → skip c = false)
    (last : ∀ c, core.getLast? = some c → skip c = false) :
    trimWith skip (lead ++ core ++ tail) = core := by
  rw [trimWith_eq, List.append_assoc, List.dropWhile_append_of_pos leads]
  cases core with
  | nil =>
      rw [List.nil_append, List.dropWhile_eq_nil_iff.mpr tails]
      rfl
  | cons c rest =>
      have stays : (c :: rest ++ tail).dropWhile skip = c :: rest ++ tail :=
        List.dropWhile_cons_of_neg (Bool.eq_false_iff.mp (first c rfl))
      rw [stays, List.rdropWhile, List.reverse_append,
        List.dropWhile_append_of_pos fun d member => tails d (List.mem_reverse.mp member)]
      refine List.rdropWhile_eq_self_iff.mpr fun some_ => ?_
      exact Bool.eq_false_iff.mp (last _ (List.getLast?_eq_some_getLast some_))

theorem trimWith_whole (skip : Char → Bool) (cs : List Char) :
    ∃ lead tail, (∀ c ∈ lead, skip c = true) ∧ (∀ c ∈ tail, skip c = true) ∧
      cs = lead ++ trimWith skip cs ++ tail := by
  refine ⟨cs.takeWhile skip, (cs.dropWhile skip).rtakeWhile skip,
    fun c => List.mem_takeWhile_imp, fun c => List.mem_rtakeWhile_imp, ?_⟩
  rw [trimWith_eq, List.append_assoc, List.rdropWhile_append_rtakeWhile,
    List.takeWhile_append_dropWhile]

theorem trimWith_eq_nil {cs : List Char} : trimWith skip cs = [] ↔ ∀ c ∈ cs, skip c = true := by
  constructor
  · intro nothing
    obtain ⟨lead, tail, leads, tails, whole⟩ := trimWith_whole skip cs
    rw [nothing, List.append_nil] at whole
    rw [whole]
    exact fun c member => (List.mem_append.mp member).elim (leads c) (tails c)
  · intro all_
    rw [trimWith_eq, List.dropWhile_eq_nil_iff.mpr all_]
    rfl

end ends

/-- Trimming is the only way to strip a text. -/
theorem strips_iff {s t : String} : Strips s t ↔ t = trim s := by
  constructor
  · rintro ⟨⟨lead, tail, leads, tails, whole⟩, first, last⟩
    rw [← String.toList_inj, trim_toList, whole, trimWith_around leads tails first last]
  · rintro rfl
    refine ⟨?_, fun c first => ?_, fun c last => ?_⟩
    · rw [trim_toList]
      exact trimWith_whole isBlank s.toList
    · rw [trim_toList] at first
      exact head_trimWith first
    · rw [trim_toList] at last
      exact getLast_trimWith last

end NodeInventory.Text
