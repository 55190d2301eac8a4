import NodeInventory.Discovery.Payloads
import NodeInventory.Proofs.Remote.Sending

/-!
# Building payloads

A payload is built exactly if each of its fields can be filled, and then it has these fields, in
their order (`build_eq_ok`).  Of settings that are an object each fills one field, with its default
if it is missing (`Setting.entries_object`).  The payload of a job holds the configurations that it is given, one
after the other, each of which has to be a text (`jobPayload_configurations`).
-/

namespace NodeInventory

/-! ### Fields -/

theorem Fields.find?_append (fields more : Fields) (key : String) :
    Fields.find? (fields ++ more) key = (Fields.find? fields key).or (Fields.find? more key) := by
  induction fields with
  | nil => rfl
  | cons entry rest ih =>
      obtain ⟨name, v⟩ := entry
      rw [List.cons_append, Fields.find?, Fields.find?, ih]
      split <;> rfl

theorem Fields.find?_eq_none {fields : Fields} {key : String}
    (absent : key ∉ fields.map Prod.fst) : Fields.find? fields key = none := by
  induction fields with
  | nil => rfl
  | cons entry rest ih =>
      rw [List.map_cons, List.mem_cons, not_or] at absent
      rw [Fields.find?, if_neg (Ne.symm absent.1)]
      exact ih absent.2

namespace Payload

/-- An entry fills a field. -/
structure Entry.Fills (e : Entry) (field : String × Value) : Prop where
  name : field.1 = e.name
  value : e.type.fill e.value = .ok field.2

theorem Entry.fill_eq_ok {e : Entry} {v : Value} :
    e.fill = .ok v ↔ e.type.fill e.value = .ok v := by
  unfold Entry.fill
  cases e.type.fill e.value with
  | error violations => exact iff_of_false nofun nofun
  | ok w => exact Iff.rfl

theorem fillAll_eq_ok {entries : List Entry} : ∀ {fields : Fields},
    fillAll entries = .ok fields ↔ List.Forall₂ Entry.Fills entries fields := by
  induction entries with
  | nil =>
      intro fields
      rw [List.forall₂_nil_left_iff, fillAll, Except.ok.injEq]
      exact eq_comm
  | cons e rest ih =>
      intro fields
      rw [List.forall₂_cons_left_iff]
      constructor
      · intro filled
        rw [fillAll] at filled
        split at filled
        · rename_i v more first later
          cases filled
          exact ⟨(e.name, v), more, ⟨rfl, Entry.fill_eq_ok.mp first⟩, ih.mp later, rfl⟩
        all_goals cases filled
      · rintro ⟨⟨_, v⟩, more, ⟨rfl, first⟩, later, rfl⟩
        rw [fillAll, Entry.fill_eq_ok.mpr first, ih.mpr later]

/-- A payload is built exactly if each of its fields can be filled. -/
theorem build_eq_ok {entries : List Entry} {fields : Fields} :
    build entries = .ok fields ↔ List.Forall₂ Entry.Fills entries fields := by
  rw [← fillAll_eq_ok]
  unfold build
  cases fillAll entries with
  | error violations => exact iff_of_false nofun nofun
  | ok filled => simp [Except.mapError]

theorem build_names {entries : List Entry} {fields : Fields} (built : build entries = .ok fields) :
    fields.map Prod.fst = entries.map Entry.name := by
  have filled := build_eq_ok.mp built
  clear built
  induction filled with
  | nil => rfl
  | cons first _ ih => rw [List.map_cons, List.map_cons, first.name, ih]

end Payload

open Payload

/-! ### Settings -/

namespace Setting

/-- The value that a setting has; its default when it is missing. -/
def given (s : Setting) (settings : Fields) : Value :=
  (Fields.find? settings s.key).getD s.default

/-- The field that a setting fills. -/
def entry (settings : Fields) (s : Setting) : Entry := ⟨s.field, s.type, s.given settings⟩

theorem entries_object (table : List Setting) (settings : Fields) :
    entries table (.object settings) = .ok (table.map (entry settings)) := by
  unfold entries
  induction table with
  | nil => rfl
  | cons s rest ih => rw [List.mapM_cons, ih]; rfl

end Setting

/-! ### The payload of a job -/

theorem Setting.entries_names {table : List Setting} {settings : Value} {entries : List Entry}
    (read : Setting.entries table settings = .ok entries) :
    entries.map Entry.name = table.map Setting.field := by
  have each := forall₂_of_mapM_eq_ok read
  clear read
  induction each with
  | nil => rfl
  | cons first _ ih =>
      obtain ⟨v, -, h⟩ := Outcome.bind_eq_ok.mp first
      cases h
      rw [List.map_cons, List.map_cons, ih]

theorem textObject_eq_ok {field : String} {v item : Value} :
    textObject field v = .ok item ↔ ∃ s, v = .text s ∧ item = .object [(field, .text s)] := by
  unfold textObject build fillAll fillAll Entry.fill FieldType.fill
  cases v <;> simp [Value.isText, Except.mapError, Except.map, eq_comm]

theorem textObjects_eq_ok {field : String} {vs items : List Value}
    (made : vs.mapM (textObject field) = .ok items) : ∃ texts : List String,
      vs = texts.map .text ∧ items = texts.map fun s => .object [(field, .text s)] := by
  have each := forall₂_of_mapM_eq_ok made
  clear made
  induction each with
  | nil => exact ⟨[], rfl, rfl⟩
  | cons first _ ih =>
      obtain ⟨s, rfl, rfl⟩ := textObject_eq_ok.mp first
      obtain ⟨texts, rfl, rfl⟩ := ih
      exact ⟨s :: texts, rfl, rfl⟩

theorem mapM_textObject (field : String) (texts : List String) :
    (texts.map Value.text).mapM (textObject field) =
      .ok (texts.map fun s => .object [(field, .text s)]) := by
  induction texts with
  | nil => rfl
  | cons s rest ih => rw [List.map_cons, List.mapM_cons, ih]; rfl

theorem sortedAddresses_texts (addresses : List String) :
    sortedAddresses (addresses.map .text) = .ok (addresses.mergeSort.map .text) := by
  have texts : (addresses.map Value.text).all Value.isText = true := by
    simp [Value.isText]
  have shown : (addresses.map Value.text).map Value.shown = addresses := by
    rw [List.map_map]
    exact List.map_id _
  rw [sortedAddresses, if_pos texts, shown]

/-- The configurations of a job are texts, and its payload holds them in their order. -/
theorem jobPayload_configurations {name settings : Value} {items : List Value} {job : Fields}
    (built : jobPayload name (.list items) settings = .ok job) :
    ∃ texts : List String, items = texts.map .text ∧
      Fields.find? job "PluginConfigurations" =
        some (.list (texts.map fun s => .object [("PluginConfigurationItem", .text s)])) := by
  obtain ⟨entries, read, built⟩ := Outcome.bind_eq_ok.mp built
  obtain ⟨_, ⟨⟩, built⟩ := Outcome.bind_eq_ok.mp built
  obtain ⟨configurations, made, built⟩ := Outcome.bind_eq_ok.mp built
  obtain ⟨fields, filled, built⟩ := Outcome.bind_eq_ok.mp built
  cases built
  obtain ⟨texts, rfl, rfl⟩ := textObjects_eq_ok made
  have absent : "PluginConfigurations" ∉ fields.map Prod.fst := by
    rw [build_names filled, List.map_cons, Setting.entries_names read]
    show "PluginConfigurations" ∉ "Name" :: Setting.job.map Setting.field
    decide
  refine ⟨texts, rfl, ?_⟩
  rw [Fields.find?_append, Fields.find?_eq_none absent]
  rfl

end NodeInventory
