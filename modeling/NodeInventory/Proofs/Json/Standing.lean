import Mathlib.Data.List.Forall2
import NodeInventory.Proofs.Json.Grammar

/-!
# What stands for half of a pair

Half of a surrogate pair is no character, and a dialect has another one stand for it.  Which one it
is shows in the texts and in the keys that hold such a half, and nowhere else: what is JSON in one
dialect is so in the other, and as long as both characters are outside ASCII the two values agree
under every ASCII key (`Denotes.restand`).  They count as true both or not at all, and a value that
does not mention the character of its dialect is the same in the other one.
-/

namespace NodeInventory.Json

/-- A character outside ASCII. -/
def Foreign (c : Char) : Prop := 0x80 ≤ c.toNat

instance (c : Char) : Decidable (Foreign c) := inferInstanceAs (Decidable (0x80 ≤ c.toNat))

/-- A text of ASCII characters. -/
def Ascii (s : String) : Prop := ∀ c ∈ s.toList, ¬Foreign c

instance (s : String) : Decidable (Ascii s) :=
  List.decidableBAll (fun c => ¬Foreign c) s.toList

/-- A character is in a text or in a key somewhere in a value. -/
inductive Mentions (c : Char) : Value → Prop
  | text {s : String} : c ∈ s.toList → Mentions c (.text s)
  | item {vs : List Value} {v : Value} : v ∈ vs → Mentions c v → Mentions c (.list vs)
  | key {fields : Fields} {field : String × Value} : field ∈ fields → c ∈ field.1.toList →
      Mentions c (.object fields)
  | field {fields : Fields} {field : String × Value} : field ∈ fields → Mentions c field.2 →
      Mentions c (.object fields)

/-! ### Texts -/

/-- Two texts differ only in that one character stands for another. -/
def AlikeTexts (half half' : Char) : List Char → List Char → Prop :=
  List.Forall₂ fun c c' => c' = c ∨ c = half ∧ c' = half'

section texts

variable {half half' : Char} {t t' : List Char}

theorem AlikeTexts.eq_ascii {key : List Char} (foreign : Foreign half) (foreign' : Foreign half')
    (h : AlikeTexts half half' t t') (ascii : ∀ c ∈ key, ¬Foreign c) : t = key ↔ t' = key := by
  induction h generalizing key with
  | nil => exact Iff.rfl
  | @cons c c' t t' same _ ih =>
      cases key with
      | nil => simp
      | cons k key =>
          have first : c = k ↔ c' = k := by
            rcases same with rfl | ⟨rfl, rfl⟩
            · exact Iff.rfl
            · have plain := ascii k List.mem_cons_self
              exact iff_of_false (fun same => plain (same ▸ foreign))
                (fun same => plain (same ▸ foreign'))
          have others := ih fun c member => ascii c (List.mem_cons_of_mem k member)
          rw [List.cons.injEq, List.cons.injEq, first, others]

theorem AlikeTexts.same (h : AlikeTexts half half' t t') (plain : half ∉ t) : t' = t := by
  induction h with
  | nil => rfl
  | cons first _ ih =>
      rw [List.mem_cons, not_or] at plain
      obtain ⟨other, plain⟩ := plain
      rcases first with rfl | ⟨rfl, -⟩
      · rw [ih plain]
      · exact absurd rfl other

theorem AlikeTexts.isEmpty (h : AlikeTexts half half' t t') : t.isEmpty = t'.isEmpty := by
  cases h <;> rfl

end texts

/-! ### Values -/

/-- Two values count as true both or not at all, and are the same if the first one does not mention
a character. -/
structure Agree (half : Char) (v v' : Value) : Prop where
  truthy : v.truthy = v'.truthy
  same : ¬Mentions half v → v' = v

/-- Two fields, as they are written, agree and are under the same ASCII keys. -/
structure AlikeField (half : Char) (field field' : String × Value) : Prop where
  ascii : ∀ key, Ascii key → (field.1 = key ↔ field'.1 = key)
  same : half ∉ field.1.toList → field'.1 = field.1
  agree : Agree half field.2 field'.2

/-- Two objects agree under every ASCII key. -/
structure AlikeFields (half : Char) (fields fields' : Fields) : Prop where
  under : ∀ key, Ascii key →
    Option.Rel (Agree half) (Fields.find? fields key) (Fields.find? fields' key)
  empty : fields.isEmpty = fields'.isEmpty

/-- Two values agree, and so do their fields if they are objects. -/
structure Alike (half : Char) (v v' : Value) : Prop extends Agree half v v' where
  object : ∀ fields, v = .object fields → ∃ fields', v' = .object fields' ∧
    AlikeFields half fields fields'

section values

variable {half : Char} {v v' : Value} {vs vs' : List Value} {fields fields' : Fields}

theorem Agree.refl (half : Char) (v : Value) : Agree half v v := ⟨rfl, fun _ => rfl⟩

theorem Alike.refl (half : Char) (v : Value) : Alike half v v := by
  refine ⟨.refl half v, fun fields same => ⟨fields, same, fun key _ => ?_, rfl⟩⟩
  cases Fields.find? fields key with
  | none => exact .none
  | some v => exact .some (.refl half v)

theorem Agree.alike (h : Agree half v v') (other : ∀ fields, v ≠ .object fields) :
    Alike half v v' := ⟨h, fun fields same => absurd same (other fields)⟩

theorem agree_text {half' : Char} {t t' : List Char} (h : AlikeTexts half half' t t') :
    Agree half (.text (String.ofList t)) (.text (String.ofList t')) := by
  constructor
  case truthy =>
    have empty (t : List Char) : (String.ofList t).isEmpty = t.isEmpty := by
      rw [Bool.eq_iff_iff, String.isEmpty_iff, List.isEmpty_iff, ← String.toList_inj,
        String.toList_ofList]
      rfl
    simp only [Value.truthy, empty, h.isEmpty]
  case same =>
    intro plain
    have out : half ∉ t := fun member => plain (.text (by rwa [String.toList_ofList]))
    rw [h.same out]

theorem forall₂_same {α : Type} {as bs : List α} (h : List.Forall₂ (fun a b => b = a) as bs) :
    bs = as := by
  have same : List.Forall₂ (fun b a => b = a) bs as := h.flip
  rwa [List.forall₂_eq_eq_eq] at same

theorem agree_list (h : List.Forall₂ (Agree half) vs vs') : Agree half (.list vs) (.list vs') := by
  constructor
  case truthy => cases h <;> rfl
  case same =>
    intro plain
    have each : ∀ v ∈ vs, ¬Mentions half v := fun v member inside => plain (.item member inside)
    rw [forall₂_same (((List.forall₂_and_left _ _).mpr ⟨each, h⟩).imp fun v v' ⟨out, agree⟩ =>
      agree.same out)]

/-! ### Objects -/

theorem isEmpty_put (fields : Fields) (key : String) (v : Value) :
    (fields.put key v).isEmpty = false := by
  cases fields with
  | nil => rfl
  | cons _ _ =>
      unfold Fields.put
      split <;> rfl

theorem AlikeFields.put {field field' : String × Value} (h : AlikeFields half fields fields')
    (alike : AlikeField half field field') :
    AlikeFields half (fields.put field.1 field.2) (fields'.put field'.1 field'.2) := by
  refine ⟨fun key ascii => ?_, by rw [isEmpty_put, isEmpty_put]⟩
  have same := alike.ascii key ascii
  rw [Fields.find?_put, Fields.find?_put]
  by_cases here : field.1 = key
  · rw [if_pos here, if_pos (same.mp here)]
    exact .some alike.agree
  · rw [if_neg here, if_neg fun there => here (same.mpr there)]
    exact h.under key ascii

theorem AlikeFields.found {key : String} (h : AlikeFields half fields fields')
    (ascii : Ascii key) :
    (∃ v v', fields.find? key = some v ∧ fields'.find? key = some v' ∧ Agree half v v') ∨
      (fields.find? key = none ∧ fields'.find? key = none) := by
  have under := h.under key ascii
  generalize fields.find? key = here, fields'.find? key = there at under
  cases under with
  | some agree => exact .inl ⟨_, _, rfl, rfl, agree⟩
  | none => exact .inr ⟨rfl, rfl⟩

/-- What holds of two objects while their fields are written holds of them in the end. -/
theorem ofList_induction {written written' : Fields} {p : Fields → Fields → Prop}
    {q : String × Value → String × Value → Prop} (start : p [] [])
    (step : ∀ {before before' field field'}, q field field' → p before before' →
      p (before.put field.1 field.2) (before'.put field'.1 field'.2))
    (h : List.Forall₂ q written written') : p (Fields.ofList written) (Fields.ofList written') := by
  have onto : ∀ {before before' : Fields}, p before before' →
      p (written.foldl (fun fields field => fields.put field.1 field.2) before)
        (written'.foldl (fun fields field => fields.put field.1 field.2) before') := by
    induction h with
    | nil => exact fun now => now
    | cons field _ ih => exact fun now => ih (step field now)
  exact onto start

theorem alikeFields_ofList (h : List.Forall₂ (AlikeField half) fields fields') :
    AlikeFields half (Fields.ofList fields) (Fields.ofList fields') :=
  ofList_induction ⟨fun _ _ => .none, rfl⟩ (fun field alike => alike.put field) h

/-- Two fields are under one key and agree. -/
def SameKey (half : Char) (field field' : String × Value) : Prop :=
  field'.1 = field.1 ∧ Agree half field.2 field'.2

theorem SameKey.put {field field' : String × Value} (h : SameKey half field field')
    (before : List.Forall₂ (SameKey half) fields fields') :
    List.Forall₂ (SameKey half) (fields.put field.1 field.2) (fields'.put field'.1 field'.2) := by
  rw [h.1]
  induction before with
  | nil => exact .cons ⟨rfl, h.2⟩ .nil
  | @cons first first' _ _ same others ih =>
      obtain ⟨k, v⟩ := first
      obtain ⟨k', v'⟩ := first'
      obtain ⟨rfl, agree⟩ : k' = k ∧ Agree half v v' := same
      unfold Fields.put
      by_cases here : k' = field.1
      · rw [if_pos here, if_pos here]
        exact .cons ⟨rfl, h.2⟩ others
      · rw [if_neg here, if_neg here]
        exact .cons ⟨rfl, agree⟩ ih

theorem mem_of_find? {key : String} (found : Fields.find? fields key = some v) :
    (key, v) ∈ fields := by
  induction fields with
  | nil => cases found
  | cons field fields ih =>
      obtain ⟨k, w⟩ := field
      unfold Fields.find? at found
      split at found
      next here =>
        cases found
        exact here ▸ List.mem_cons_self
      next => exact List.mem_cons_of_mem _ (ih found)

/-- A field may be lost behind a later one under its key, but the key stays. -/
theorem find?_ofList_of_mem {field : String × Value} (written : field ∈ fields) :
    ∃ v, (Fields.ofList fields).find? field.1 = some v := by
  have onto : ∀ {before : Fields}, ((∃ v, before.find? field.1 = some v) ∨ field ∈ fields) →
      ∃ v, (fields.foldl (fun fields field => Fields.put fields field.1 field.2) before).find?
        field.1 = some v := by
    clear written
    induction fields with
    | nil =>
        intro before known
        exact known.resolve_right List.not_mem_nil
    | cons first others ih =>
        intro before known
        refine ih ?_
        rw [Fields.find?_put]
        by_cases here : first.1 = field.1
        · exact .inl ⟨first.2, if_pos here⟩
        · rw [if_neg here]
          refine known.imp_right fun member => ?_
          rcases List.mem_cons.mp member with rfl | later
          · exact absurd rfl here
          · exact later
  exact onto (.inr written)

theorem ofList_same (h : List.Forall₂ (AlikeField half) fields fields')
    (plain : ¬Mentions half (.object (Fields.ofList fields))) :
    Fields.ofList fields' = Fields.ofList fields := by
  have keys : ∀ field ∈ fields, half ∉ field.1.toList := by
    intro field written inside
    obtain ⟨v, found⟩ := find?_ofList_of_mem written
    exact plain (.key (mem_of_find? found) inside)
  have sameKeys : List.Forall₂ (SameKey half) fields fields' :=
    ((List.forall₂_and_left _ _).mpr ⟨keys, h⟩).imp fun field field' ⟨out, alike⟩ =>
      ⟨alike.same out, alike.agree⟩
  have same : List.Forall₂ (SameKey half) (Fields.ofList fields) (Fields.ofList fields') :=
    ofList_induction .nil SameKey.put sameKeys
  have values : ∀ field ∈ Fields.ofList fields, ¬Mentions half field.2 :=
    fun field member inside => plain (.field member inside)
  exact forall₂_same (((List.forall₂_and_left _ _).mpr ⟨values, same⟩).imp
    fun field field' ⟨out, key, agree⟩ => Prod.ext key (agree.same out))

theorem alike_object (h : List.Forall₂ (AlikeField half) fields fields') :
    Alike half (.object (Fields.ofList fields)) (.object (Fields.ofList fields')) := by
  have alike := alikeFields_ofList h
  refine ⟨⟨congrArg not alike.empty, fun plain => congrArg Value.object (ofList_same h plain)⟩, ?_⟩
  rintro _ ⟨⟩
  exact ⟨_, rfl, alike⟩

end values

/-! ### Another character for a half -/

section restand

variable {half half' : Char} {short : Nat → Prop}

theorem standing_alike (half half' : Char) (unit : Nat) :
    standing half' unit = standing half unit ∨
      standing half unit = half ∧ standing half' unit = half' := by
  unfold standing
  split
  · exact .inr ⟨rfl, rfl⟩
  · exact .inl rfl

theorem Spells.restand {cs t : List Char} (half' : Char) (h : Spells half cs t) :
    ∃ t', Spells half' cs t' ∧ AlikeTexts half half' t t' := by
  induction h with
  | done => exact ⟨[], .done, .nil⟩
  | plain visible quote unescaped _ ih =>
      obtain ⟨t', spelled, alike⟩ := ih
      exact ⟨_, .plain visible quote unescaped spelled, .cons (.inl rfl) alike⟩
  | escape letter _ ih =>
      obtain ⟨t', spelled, alike⟩ := ih
      exact ⟨_, .escape letter spelled, .cons (.inl rfl) alike⟩
  | unit code alone _ ih =>
      obtain ⟨t', spelled, alike⟩ := ih
      exact ⟨_, .unit code alone spelled, .cons (standing_alike half half' _) alike⟩
  | pair code isHigh lowCode isLow _ ih =>
      obtain ⟨t', spelled, alike⟩ := ih
      exact ⟨_, .pair code isHigh lowCode isLow spelled, .cons (.inl rfl) alike⟩

mutual

/-- A text that denotes a value denotes one like it when another character stands for a half. -/
theorem Denotes.restand (foreign : Foreign half) (foreign' : Foreign half') {cs : List Char}
    {v : Value} : Denotes ⟨short, half⟩ cs v →
      ∃ v', Denotes ⟨short, half'⟩ cs v' ∧ Alike half v v'
  | .word listed => ⟨_, .word listed, .refl _ _⟩
  | .number number => ⟨_, .number number, .refl _ _⟩
  | .text spelled => by
      obtain ⟨t', spelled', alike⟩ := spelled.restand half'
      exact ⟨_, .text spelled', (agree_text alike).alike (by rintro _ ⟨⟩)⟩
  | .emptyList isGap_ => ⟨_, .emptyList isGap_, .refl _ _⟩
  | .list isGap_ items => by
      obtain ⟨vs', items', agree⟩ := items.restand foreign foreign'
      exact ⟨_, .list isGap_ items', (agree_list agree).alike (by rintro _ ⟨⟩)⟩
  | .emptyObject isGap_ => ⟨_, .emptyObject isGap_, .refl _ _⟩
  | .object isGap_ members => by
      obtain ⟨fields', members', alike⟩ := members.restand foreign foreign'
      exact ⟨_, .object isGap_ members', alike_object alike⟩

theorem Items.restand (foreign : Foreign half) (foreign' : Foreign half') {cs : List Char}
    {vs : List Value} : Items ⟨short, half⟩ cs vs →
      ∃ vs', Items ⟨short, half'⟩ cs vs' ∧ List.Forall₂ (Agree half) vs vs'
  | .last denotes isGap_ => by
      obtain ⟨v', denotes', alike⟩ := denotes.restand foreign foreign'
      exact ⟨_, .last denotes' isGap_, .cons alike.toAgree .nil⟩
  | .next denotes isGap_ isGap' items => by
      obtain ⟨v', denotes', alike⟩ := denotes.restand foreign foreign'
      obtain ⟨vs', items', others⟩ := items.restand foreign foreign'
      exact ⟨_, .next denotes' isGap_ isGap' items', .cons alike.toAgree others⟩

theorem Member.restand (foreign : Foreign half) (foreign' : Foreign half') {cs : List Char}
    {field : String × Value} : Member ⟨short, half⟩ cs field →
      ∃ field', Member ⟨short, half'⟩ cs field' ∧ AlikeField half field field'
  | .intro spelled isGap_ isGap' denotes => by
      obtain ⟨t', spelled', texts⟩ := spelled.restand half'
      obtain ⟨v', denotes', alike⟩ := denotes.restand foreign foreign'
      refine ⟨_, .intro spelled' isGap_ isGap' denotes', fun key ascii => ?_, fun plain => ?_,
        alike.toAgree⟩
      · rw [← String.toList_inj, ← String.toList_inj, String.toList_ofList, String.toList_ofList]
        exact texts.eq_ascii foreign foreign' ascii
      · rw [String.toList_ofList] at plain
        exact congrArg String.ofList (texts.same plain)

theorem Members.restand (foreign : Foreign half) (foreign' : Foreign half') {cs : List Char}
    {fields : Fields} : Members ⟨short, half⟩ cs fields →
      ∃ fields', Members ⟨short, half'⟩ cs fields' ∧
        List.Forall₂ (AlikeField half) fields fields'
  | .last member isGap_ => by
      obtain ⟨field', member', alike⟩ := member.restand foreign foreign'
      exact ⟨_, .last member' isGap_, .cons alike .nil⟩
  | .next member isGap_ isGap' members => by
      obtain ⟨field', member', alike⟩ := member.restand foreign foreign'
      obtain ⟨fields', members', others⟩ := members.restand foreign foreign'
      exact ⟨_, .next member' isGap_ isGap' members', .cons alike others⟩

end

end restand

end NodeInventory.Json
