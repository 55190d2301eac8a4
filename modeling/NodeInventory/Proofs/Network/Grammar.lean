import NodeInventory.Network.Address
import NodeInventory.Proofs.Text.Numeral
import Mathlib.Data.List.Basic

/-!
# The grammar of addresses

An address is written in one of two ways: as four decimal groups between dots (`Dotted`), or as
groups of hexadecimal digits between colons, with a double colon for groups that are left out, four
decimal groups for the last two, and a scope at the end, as one likes (`Scoped`).  The grammar says
which texts these are, and `isAddress_iff` says that they are the ones that are recognised.  All
that stands in front of a scope is hexadecimal digits, colons and dots (`Coloned.plain`), and an
address does not begin with a dot (`AddressText.head_ne_dot`).
-/

namespace NodeInventory.Address

/-! ### The grammar -/

/-- A decimal group: a number of at most 255 as it is written, with one to three digits and without
a zero in front of others. -/
def DecimalGroup (g : List Char) : Prop := ∃ n ≤ 255, g = Nat.toDigits 10 n

/-- Four decimal groups between dots. -/
def Dotted (cs : List Char) : Prop :=
  ∃ groups : List (List Char), groups.length = 4 ∧ (∀ g ∈ groups, DecimalGroup g) ∧
    cs = ['.'].intercalate groups

/-- The hexadecimal digits in both cases. -/
def hexDigits : List Char := "0123456789abcdefABCDEF".toList

/-- A hexadecimal group: one to four hexadecimal digits. -/
structure HexGroup (g : List Char) : Prop where
  length_pos : 1 ≤ g.length
  length_le : g.length ≤ 4
  digits : ∀ c ∈ g, c ∈ hexDigits

/-- So many hexadecimal groups between colons. -/
def HexGroups (n : Nat) (cs : List Char) : Prop :=
  ∃ groups : List (List Char), groups.length = n ∧ (∀ g ∈ groups, HexGroup g) ∧
    cs = [':'].intercalate groups

/-- So many groups at the end of an address, where four decimal groups may stand for the last
two. -/
inductive EndGroups : Nat → List Char → Prop
  | hex {n : Nat} {cs : List Char} : HexGroups n cs → EndGroups n cs
  | dotted {groups : List (List Char)} {tail : List Char} : (∀ g ∈ groups, HexGroup g) →
      Dotted tail → EndGroups (groups.length + 2) ([':'].intercalate (groups ++ [tail]))

/-- Eight groups, of which a double colon may stand for one or more. -/
inductive Coloned : List Char → Prop
  | whole {cs : List Char} : EndGroups 8 cs → Coloned cs
  | shortened {n m : Nat} {before after : List Char} : HexGroups n before → EndGroups m after →
      n + m + 1 ≤ 8 → Coloned (before ++ ':' :: ':' :: after)

/-- Eight groups and perhaps a scope, which is not empty and has no percent sign of its own. -/
inductive Scoped : List Char → Prop
  | bare {address : List Char} : Coloned address → Scoped address
  | withScope {address scope : List Char} : Coloned address → scope ≠ [] → '%' ∉ scope →
      Scoped (address ++ '%' :: scope)

/-- The text of an address. -/
def AddressText (cs : List Char) : Prop := Dotted cs ∨ Scoped cs ∧ '/' ∉ cs

/-! ### Texts between separators -/

theorem splitAt_eq_splitOn (separator : Char) (cs : List Char) :
    splitAt separator cs = cs.splitOn separator := by
  induction cs with
  | nil => rfl
  | cons c rest ih =>
      rw [splitAt, ih, List.splitOn_cons_eq_if_modifyHead]
      by_cases same : c = separator
      · rw [if_pos same, if_pos (beq_iff_eq.mpr same)]
      · rw [if_neg same, if_neg (mt beq_iff_eq.mp same)]
        cases parts : rest.splitOn separator with
        | nil => exact absurd parts (List.splitOn_ne_nil _ _)
        | cons part more => rfl

theorem intercalate_splitAt (separator : Char) (cs : List Char) :
    [separator].intercalate (splitAt separator cs) = cs := by
  rw [splitAt_eq_splitOn, List.intercalate_splitOn]

theorem splitAt_intercalate {separator : Char} {parts : List (List Char)} (some_ : parts ≠ [])
    (free : ∀ part ∈ parts, separator ∉ part) :
    splitAt separator ([separator].intercalate parts) = parts := by
  rw [splitAt_eq_splitOn, List.splitOn_intercalate separator free some_]

theorem not_mem_of_mem_splitAt {separator : Char} {cs part : List Char}
    (listed : part ∈ splitAt separator cs) : separator ∉ part := by
  induction cs generalizing part with
  | nil =>
      obtain rfl := List.mem_singleton.mp listed
      exact List.not_mem_nil
  | cons c rest ih =>
      rw [splitAt] at listed
      split at listed
      case isTrue =>
        rcases List.mem_cons.mp listed with rfl | later
        · exact List.not_mem_nil
        · exact ih later
      case isFalse other =>
        cases parts : splitAt separator rest with
        | nil =>
            rw [parts] at listed
            obtain rfl := List.mem_singleton.mp listed
            simpa using Ne.symm other
        | cons first more =>
            rw [parts] at listed ih
            rcases List.mem_cons.mp listed with rfl | later
            · exact List.not_mem_cons_of_ne_of_not_mem (Ne.symm other) (ih List.mem_cons_self)
            · exact ih (List.mem_cons_of_mem _ later)

theorem mem_of_mem_intercalate {separator c : Char} : ∀ {parts : List (List Char)},
    c ∈ [separator].intercalate parts → c = separator ∨ ∃ part ∈ parts, c ∈ part
  | [], member => by simp at member
  | [part], member => by
      rw [List.intercalate_singleton] at member
      exact .inr ⟨part, List.mem_singleton_self _, member⟩
  | part :: part' :: rest, member => by
      rw [List.intercalate_cons_cons, List.append_assoc] at member
      rcases List.mem_append.mp member with here | later
      · exact .inr ⟨part, List.mem_cons_self, here⟩
      rcases List.mem_cons.mp later with same | later
      · exact .inl same
      · rcases mem_of_mem_intercalate later with same | ⟨other, listed, inside⟩
        · exact .inl same
        · exact .inr ⟨other, List.mem_cons_of_mem _ listed, inside⟩

/-! ### Groups -/

theorem isOctet_iff {g : List Char} : isOctet g = true ↔ DecimalGroup g := by
  constructor
  · intro octet
    simp only [isOctet, Bool.and_eq_true, Bool.or_eq_true, Bool.not_eq_true', bne_iff_ne,
      decide_eq_true_eq, List.isEmpty_eq_false_iff, List.all_eq_true] at octet
    obtain ⟨⟨⟨⟨some_, -⟩, digits⟩, unpadded⟩, small⟩ := octet
    refine ⟨_, small, (toDigits_asciiNumber some_ digits fun zero => ?_).symm⟩
    exact unpadded.resolve_right fun other => other zero
  · have small : ∀ n < 256, isOctet (Nat.toDigits 10 n) = true := by decide +kernel
    rintro ⟨n, bound, rfl⟩
    exact small n (Nat.lt_succ_of_le bound)

theorem isHexDigit_iff {c : Char} : isHexDigit c = true ↔ c ∈ hexDigits := by
  constructor
  · intro digit
    have low : ∀ n < 103, isHexDigit (Char.ofNat n) = true → Char.ofNat n ∈ hexDigits := by
      decide +kernel
    have bound : c.toNat < 103 := by
      simp only [isHexDigit, Bool.or_eq_true, Bool.and_eq_true, decide_eq_true_eq,
        Char.isDigit_iff_toNat, Char.le_def, UInt32.le_iff_toNat_le] at digit
      rcases digit with (⟨-, high⟩ | ⟨-, high⟩) | ⟨-, high⟩
      all_goals exact Nat.lt_of_le_of_lt high (by decide)
    have found := low c.toNat bound
    rw [Char.ofNat_toNat] at found
    exact found digit
  · have each : hexDigits.all isHexDigit = true := by decide +kernel
    exact List.all_eq_true.mp each c

theorem isHextet_iff {g : List Char} : isHextet g = true ↔ HexGroup g := by
  simp only [isHextet, Bool.and_eq_true, Bool.not_eq_true', decide_eq_true_eq,
    List.isEmpty_eq_false_iff, List.all_eq_true, isHexDigit_iff]
  constructor
  · rintro ⟨⟨some_, length⟩, digits⟩
    exact ⟨List.length_pos_iff.mpr some_, length, digits⟩
  · rintro ⟨some_, length, digits⟩
    exact ⟨⟨List.length_pos_iff.mp some_, length⟩, digits⟩

/-- A character of an address before its scope. -/
def IsPlain (c : Char) : Prop := c ∈ hexDigits ∨ c = ':' ∨ c = '.'

instance (c : Char) : Decidable (IsPlain c) := inferInstanceAs (Decidable (_ ∨ _))

theorem DecimalGroup.digits {g : List Char} (h : DecimalGroup g) : ∀ c ∈ g, c ∈ hexDigits := by
  obtain ⟨n, -, rfl⟩ := h
  intro c member
  have digit := Nat.isDigit_of_mem_toDigits (by decide) (by decide) member
  exact isHexDigit_iff.mp (by simp [isHexDigit, digit])

theorem DecimalGroup.ne_nil {g : List Char} (h : DecimalGroup g) : g ≠ [] := by
  obtain ⟨n, -, rfl⟩ := h
  exact Nat.toDigits_ne_nil

theorem HexGroup.ne_nil {g : List Char} (h : HexGroup g) : g ≠ [] :=
  List.length_pos_iff.mp h.length_pos

theorem HexGroup.not_colon {g : List Char} (h : HexGroup g) : ':' ∉ g :=
  fun member => absurd (h.digits _ member) (by decide)

theorem HexGroup.not_dot {g : List Char} (h : HexGroup g) : '.' ∉ g :=
  fun member => absurd (h.digits _ member) (by decide)

/-! ### Four decimal groups -/

theorem isDotted_iff {cs : List Char} : isDotted cs = true ↔ Dotted cs := by
  simp only [isDotted, Bool.and_eq_true, decide_eq_true_eq, List.all_eq_true, isOctet_iff]
  constructor
  · rintro ⟨four, each⟩
    exact ⟨_, four, each, (intercalate_splitAt '.' cs).symm⟩
  · rintro ⟨groups, four, each, rfl⟩
    have some_ : groups ≠ [] := List.ne_nil_of_length_pos (by omega)
    have free : ∀ g ∈ groups, '.' ∉ g := fun g member dot =>
      absurd ((each g member).digits _ dot) (by decide)
    rw [splitAt_intercalate some_ free]
    exact ⟨four, each⟩

theorem Dotted.plain {cs : List Char} (h : Dotted cs) : ∀ c ∈ cs, c ∈ hexDigits ∨ c = '.' := by
  obtain ⟨groups, -, each, rfl⟩ := h
  intro c member
  rcases mem_of_mem_intercalate member with dot | ⟨g, listed, inside⟩
  · exact .inr dot
  · exact .inl ((each g listed).digits c inside)

theorem Dotted.not_colon {cs : List Char} (h : Dotted cs) : ':' ∉ cs :=
  fun member => absurd (h.plain _ member) (by decide)

theorem Dotted.dot_mem {cs : List Char} (h : Dotted cs) : '.' ∈ cs := by
  obtain ⟨groups, four, -, rfl⟩ := h
  match groups, four with
  | g :: g' :: rest, _ => simp [List.intercalate_cons_cons]

/-! ### Groups between colons -/

theorem intercalate_ne_nil {separator : Char} {parts : List (List Char)} (some_ : parts ≠ [])
    (each : ∀ part ∈ parts, part ≠ []) : [separator].intercalate parts ≠ [] := by
  match parts with
  | [part] => simpa using each part
  | part :: part' :: rest => simp [List.intercalate_cons_cons]

/-- Groups that are not at the end of an address are counted when all of them are hexadecimal. -/
theorem groupCount?_false {n : Nat} {cs : List Char} :
    groupCount? false cs = some n ↔ HexGroups n cs := by
  unfold groupCount?
  constructor
  · intro counted
    split at counted
    case isTrue none_ =>
      obtain rfl := Option.some.inj counted
      exact ⟨[], rfl, nofun, List.isEmpty_iff.mp none_⟩
    case isFalse =>
      dsimp only at counted
      split at counted
      case isTrue each =>
        refine ⟨_, Option.some.inj counted, fun g listed => ?_, (intercalate_splitAt ':' cs).symm⟩
        exact isHextet_iff.mp (List.all_eq_true.mp each g listed)
      case isFalse => simp at counted
  · rintro ⟨groups, rfl, each, rfl⟩
    by_cases some_ : groups = []
    · subst some_
      rfl
    · have hex : groups.all isHextet = true :=
        List.all_eq_true.mpr fun g listed => isHextet_iff.mpr (each g listed)
      have filled : [':'].intercalate groups ≠ [] :=
        intercalate_ne_nil some_ fun g listed => (each g listed).ne_nil
      have free : ∀ g ∈ groups, ':' ∉ g := fun g listed => (each g listed).not_colon
      rw [if_neg (mt List.isEmpty_iff.mp filled), splitAt_intercalate some_ free, if_pos hex]

theorem groupCount?_of_hex {n : Nat} {cs : List Char} (counted : groupCount? false cs = some n) :
    groupCount? true cs = some n := by
  unfold groupCount? at counted ⊢
  by_cases none_ : cs.isEmpty = true
  · rwa [if_pos none_] at counted ⊢
  · rw [if_neg none_] at counted ⊢
    dsimp only at counted ⊢
    by_cases each : (splitAt ':' cs).all isHextet = true
    · rwa [if_pos each] at counted ⊢
    · rw [if_neg each] at counted
      simp at counted

/-- Groups of which the last ones are decimal are counted by their colons. -/
theorem groupCount?_dotted {groups : List (List Char)} {tail : List Char}
    (each : ∀ g ∈ groups, HexGroup g) (dotted : Dotted tail) :
    groupCount? true ([':'].intercalate (groups ++ [tail])) = some (groups.length + 2) := by
  have some_ : groups ++ [tail] ≠ [] := by simp
  have free : ∀ g ∈ groups ++ [tail], ':' ∉ g :=
    List.forall_mem_append.mpr ⟨fun g listed => (each g listed).not_colon,
      List.forall_mem_singleton.mpr dotted.not_colon⟩
  have filled : ∀ g ∈ groups ++ [tail], g ≠ [] :=
    List.forall_mem_append.mpr ⟨fun g listed => (each g listed).ne_nil,
      List.forall_mem_singleton.mpr (List.ne_nil_of_mem dotted.dot_mem)⟩
  have other : ¬(groups ++ [tail]).all isHextet = true := by
    intro hex
    have last := List.all_eq_true.mp hex tail (by simp)
    exact (isHextet_iff.mp last).not_dot dotted.dot_mem
  have tailed : (groups.all isHextet && isDotted tail) = true :=
    Bool.and_eq_true_iff.mpr
      ⟨List.all_eq_true.mpr fun g listed => isHextet_iff.mpr (each g listed),
        isDotted_iff.mpr dotted⟩
  unfold groupCount?
  rw [if_neg (mt List.isEmpty_iff.mp (intercalate_ne_nil some_ filled)),
    splitAt_intercalate some_ free]
  dsimp only
  rw [if_neg other, List.dropLast_concat, List.getLastD_concat, Bool.true_and, if_pos tailed,
    List.length_append]
  rfl

/-- At the end of an address the last ones of the groups may be decimal. -/
theorem groupCount?_true {n : Nat} {cs : List Char} :
    groupCount? true cs = some n ↔ EndGroups n cs := by
  constructor
  · intro counted
    by_cases hex : groupCount? false cs = some n
    · exact .hex (groupCount?_false.mp hex)
    unfold groupCount? at counted hex
    by_cases none_ : cs.isEmpty = true
    · rw [if_pos none_] at counted hex
      exact absurd counted hex
    rw [if_neg none_] at counted hex
    dsimp only at counted hex
    by_cases each : (splitAt ':' cs).all isHextet = true
    · rw [if_pos each] at counted hex
      exact absurd counted hex
    rw [if_neg each] at counted
    split at counted
    case isFalse => cases counted
    case isTrue tailed =>
      simp only [Bool.true_and, Bool.and_eq_true, List.all_eq_true, isHextet_iff,
        isDotted_iff] at tailed
      obtain ⟨lead, dotted⟩ := tailed
      have some_ : splitAt ':' cs ≠ [] := by
        rw [splitAt_eq_splitOn]
        exact List.splitOn_ne_nil _ _
      rw [List.getLastD_eq_getLast?, List.getLast?_eq_some_getLast some_,
        Option.getD_some] at dotted
      have ended := EndGroups.dotted lead dotted
      rw [List.dropLast_concat_getLast some_, intercalate_splitAt, List.length_dropLast] at ended
      have length := List.length_pos_iff.mpr some_
      obtain rfl := Option.some.inj counted
      rwa [show (splitAt ':' cs).length - 1 + 2 = (splitAt ':' cs).length + 1 by omega] at ended
  · intro ended
    cases ended with
    | hex h => exact groupCount?_of_hex (groupCount?_false.mpr h)
    | dotted each dotted => exact groupCount?_dotted each dotted

/-! ### The double colon -/

theorem eq_of_splitDouble : ∀ {cs before after : List Char},
    splitDouble cs = some (before, after) → cs = before ++ ':' :: ':' :: after := by
  intro cs
  fun_induction splitDouble cs with
  | case1 rest =>
      intro before after found
      cases found
      rfl
  | case2 c rest _ ih =>
      intro before after found
      obtain ⟨⟨lead, after'⟩, found, same⟩ := Option.map_eq_some_iff.mp found
      cases same
      rw [ih found]
      rfl
  | case3 => exact nofun

/-- A character that is no colon has no part in a double colon. -/
theorem splitDouble_cons {c : Char} (other : c ≠ ':') (rest : List Char) :
    splitDouble (c :: rest) = (splitDouble rest).map fun (lead, after) => (c :: lead, after) := by
  rw [splitDouble]
  rintro rest' rfl
  exact absurd rfl other

theorem splitDouble_append {g : List Char} (free : ':' ∉ g) (rest : List Char) :
    splitDouble (g ++ rest) = (splitDouble rest).map fun (lead, after) => (g ++ lead, after) := by
  induction g with
  | nil => simp
  | cons c g ih =>
      obtain ⟨other, free⟩ := not_or.mp (mt List.mem_cons.mpr free)
      rw [List.cons_append, splitDouble_cons (Ne.symm other), ih free, Option.map_map]
      rfl

/-- A colon between two groups has no part in a double colon. -/
theorem splitDouble_colon {c : Char} (other : c ≠ ':') (rest : List Char) :
    splitDouble (':' :: c :: rest) =
      (splitDouble (c :: rest)).map fun (lead, after) => (':' :: lead, after) := by
  rw [splitDouble]
  rintro rest' - same
  exact absurd (List.cons.inj same).1 other

/-- Groups between colons have no double colon. -/
theorem splitDouble_groups : ∀ {groups : List (List Char)}, (∀ g ∈ groups, g ≠ [] ∧ ':' ∉ g) →
    ∀ rest, splitDouble ([':'].intercalate groups ++ rest) =
      (splitDouble rest).map fun (lead, after) => ([':'].intercalate groups ++ lead, after)
  | [], _, rest => by simp
  | [g], each, rest => by
      rw [List.intercalate_singleton]
      exact splitDouble_append (each g (List.mem_singleton_self g)).2 rest
  | g :: g' :: groups, each, rest => by
      obtain ⟨⟨-, free⟩, each⟩ := List.forall_mem_cons.mp each
      have later := splitDouble_groups each rest
      cases g' with
      | nil => exact absurd rfl (each [] List.mem_cons_self).1
      | cons c more =>
          have other : c ≠ ':' := by
            rintro rfl
            exact (each _ List.mem_cons_self).2 List.mem_cons_self
          rw [List.intercalate_cons_cons_left, List.cons_append] at later
          rw [List.intercalate_cons_cons, List.intercalate_cons_cons_left, List.append_assoc,
            List.append_assoc, splitDouble_append free]
          change (splitDouble (':' :: c :: (_ ++ _))).map _ = _
          rw [splitDouble_colon other, later, Option.map_map, Option.map_map]
          refine congrArg (Option.map · _) (funext fun ⟨lead, after⟩ => ?_)
          simp

/-! ### Eight groups -/

theorem HexGroups.splitDouble_append {n : Nat} {cs : List Char} (h : HexGroups n cs)
    (rest : List Char) :
    splitDouble (cs ++ rest) = (splitDouble rest).map fun (lead, after) => (cs ++ lead, after) := by
  obtain ⟨groups, -, each, rfl⟩ := h
  refine splitDouble_groups (fun g listed => ?_) rest
  exact ⟨(each g listed).ne_nil, (each g listed).not_colon⟩

theorem EndGroups.splitDouble_eq_none {n : Nat} {cs : List Char} (h : EndGroups n cs) :
    splitDouble cs = none := by
  cases h with
  | hex groups =>
      have none_ := groups.splitDouble_append []
      rwa [List.append_nil] at none_
  | @dotted groups tail each dotted =>
      have filled : ∀ g ∈ groups ++ [tail], g ≠ [] ∧ ':' ∉ g :=
        List.forall_mem_append.mpr
          ⟨fun g listed => ⟨(each g listed).ne_nil, (each g listed).not_colon⟩,
            List.forall_mem_singleton.mpr ⟨List.ne_nil_of_mem dotted.dot_mem, dotted.not_colon⟩⟩
      have none_ := splitDouble_groups filled []
      rwa [List.append_nil] at none_

theorem isColoned_iff {cs : List Char} : isColoned cs = true ↔ Coloned cs := by
  constructor
  · intro coloned
    unfold isColoned at coloned
    split at coloned
    case h_1 before after found =>
      rw [eq_of_splitDouble found]
      split at coloned
      case h_1 n m counted counted' =>
        have few := of_decide_eq_true coloned
        exact .shortened (groupCount?_false.mp counted) (groupCount?_true.mp counted') (by omega)
      case h_2 => cases coloned
    case h_2 => exact .whole (groupCount?_true.mp (of_decide_eq_true coloned))
  · intro coloned
    cases coloned with
    | whole groups =>
        rw [isColoned, groups.splitDouble_eq_none]
        exact decide_eq_true (groupCount?_true.mpr groups)
    | @shortened n m before after groups groups' few =>
        have found : splitDouble (before ++ ':' :: ':' :: after) = some (before, after) := by
          rw [groups.splitDouble_append]
          simp [splitDouble]
        rw [isColoned, found]
        dsimp only
        rw [groupCount?_false.mpr groups, groupCount?_true.mpr groups']
        exact decide_eq_true (by omega)

/-! ### Scopes -/

theorem HexGroups.plain {n : Nat} {cs : List Char} (h : HexGroups n cs) : ∀ c ∈ cs, IsPlain c := by
  obtain ⟨groups, -, each, rfl⟩ := h
  intro c member
  rcases mem_of_mem_intercalate member with colon | ⟨g, listed, inside⟩
  · exact .inr (.inl colon)
  · exact .inl ((each g listed).digits c inside)

theorem EndGroups.plain {n : Nat} {cs : List Char} (h : EndGroups n cs) : ∀ c ∈ cs, IsPlain c := by
  cases h with
  | hex groups => exact groups.plain
  | @dotted groups tail each dotted =>
      intro c member
      rcases mem_of_mem_intercalate member with colon | ⟨g, listed, inside⟩
      · exact .inr (.inl colon)
      rcases List.mem_append.mp listed with early | last
      · exact .inl ((each g early).digits c inside)
      · obtain rfl := List.mem_singleton.mp last
        exact (dotted.plain c inside).imp_right .inr

theorem Coloned.plain {cs : List Char} (h : Coloned cs) : ∀ c ∈ cs, IsPlain c := by
  cases h with
  | whole groups => exact groups.plain
  | shortened groups groups' _ =>
      have colon : IsPlain ':' := .inr (.inl rfl)
      exact List.forall_mem_append.mpr ⟨groups.plain,
        List.forall_mem_cons.mpr ⟨colon, List.forall_mem_cons.mpr ⟨colon, groups'.plain⟩⟩⟩

theorem Coloned.not_percent {cs : List Char} (h : Coloned cs) : '%' ∉ cs :=
  fun member => absurd (h.plain _ member) (by decide)

theorem isScoped_iff {cs : List Char} : isScoped cs = true ↔ Scoped cs ∧ '/' ∉ cs := by
  have slash : (!cs.contains '/') = true ↔ '/' ∉ cs := by simp
  rw [isScoped, Bool.and_eq_true, slash, and_comm]
  refine and_congr_left fun _ => ⟨fun accepted => ?_, fun h => ?_⟩
  · have whole := intercalate_splitAt '%' cs
    have free : ∀ part ∈ splitAt '%' cs, '%' ∉ part := fun part => not_mem_of_mem_splitAt
    split at accepted
    case h_1 address parts =>
      rw [parts, List.intercalate_singleton] at whole
      exact .bare (whole ▸ isColoned_iff.mp accepted)
    case h_2 address scope parts =>
      rw [parts, List.intercalate_cons_cons, List.intercalate_singleton, List.append_assoc] at whole
      rw [parts] at free
      simp only [Bool.and_eq_true, Bool.not_eq_true', List.isEmpty_eq_false_iff] at accepted
      exact whole ▸ .withScope (isColoned_iff.mp accepted.2) accepted.1 (free scope (by simp))
    case h_3 => cases accepted
  · cases h with
    | bare coloned =>
        rw [splitAt_eq_splitOn, List.splitOn_eq_singleton coloned.not_percent]
        exact isColoned_iff.mpr coloned
    | withScope coloned some_ free =>
        rw [splitAt_eq_splitOn, List.splitOn_append_cons_self_of_not_mem coloned.not_percent,
          List.splitOn_eq_singleton free]
        simp [some_, isColoned_iff.mpr coloned]

/-- A text is recognised exactly if the grammar says that it is an address. -/
theorem isAddress_iff {s : String} : isAddress s = true ↔ AddressText s.toList := by
  rw [isAddress, Bool.or_eq_true, isDotted_iff, isScoped_iff]
  rfl

/-! ### The first character -/

/-- A text that is not empty begins with a hexadecimal digit. -/
def BeginsHex (cs : List Char) : Prop := ∀ c, cs.head? = some c → c ∈ hexDigits

theorem BeginsHex.of_digits {g : List Char} (digits : ∀ c ∈ g, c ∈ hexDigits) : BeginsHex g :=
  fun c first => digits c (List.mem_of_head? first)

theorem BeginsHex.intercalate {separator : Char} {parts : List (List Char)}
    (each : ∀ part ∈ parts, part ≠ [] ∧ BeginsHex part) :
    BeginsHex ([separator].intercalate parts) := by
  match parts, each with
  | [], _ => exact nofun
  | [] :: _, each => exact absurd rfl (each [] List.mem_cons_self).1
  | (c :: part) :: rest, each =>
      rw [List.intercalate_cons_cons_left]
      exact (each _ List.mem_cons_self).2

theorem Dotted.beginsHex {cs : List Char} (h : Dotted cs) : BeginsHex cs := by
  obtain ⟨groups, -, each, rfl⟩ := h
  exact .intercalate fun g listed => ⟨(each g listed).ne_nil, .of_digits (each g listed).digits⟩

theorem HexGroups.beginsHex {n : Nat} {cs : List Char} (h : HexGroups n cs) : BeginsHex cs := by
  obtain ⟨groups, -, each, rfl⟩ := h
  exact .intercalate fun g listed => ⟨(each g listed).ne_nil, .of_digits (each g listed).digits⟩

theorem EndGroups.beginsHex {n : Nat} {cs : List Char} (h : EndGroups n cs) : BeginsHex cs := by
  cases h with
  | hex groups => exact groups.beginsHex
  | dotted each dotted =>
      exact .intercalate <| List.forall_mem_append.mpr
        ⟨fun g listed => ⟨(each g listed).ne_nil, .of_digits (each g listed).digits⟩,
          List.forall_mem_singleton.mpr ⟨List.ne_nil_of_mem dotted.dot_mem, dotted.beginsHex⟩⟩

theorem Coloned.head_ne_dot {cs : List Char} (h : Coloned cs) : cs.head? ≠ some '.' := by
  cases h with
  | whole groups => exact fun dot => absurd (groups.beginsHex _ dot) (by decide)
  | @shortened n m before after groups _ _ =>
      cases before with
      | nil => simp
      | cons c rest => exact fun dot => absurd (groups.beginsHex _ dot) (by decide)

theorem AddressText.head_ne_dot {cs : List Char} (h : AddressText cs) : cs.head? ≠ some '.' := by
  rcases h with dotted | ⟨h, -⟩
  · exact fun dot => absurd (dotted.beginsHex _ dot) (by decide)
  · cases h with
    | bare coloned => exact coloned.head_ne_dot
    | @withScope address scope coloned _ _ =>
        cases address with
        | nil => simp
        | cons c rest => exact coloned.head_ne_dot

end NodeInventory.Address
