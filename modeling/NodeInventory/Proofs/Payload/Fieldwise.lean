import NodeInventory.Proofs.Payload.Building

/-!
# Payloads field by field

The fields of a payload do not interact.  A value that cannot be read is reported under the name of
its field, whatever the other fields hold, and the reports of all fields stand one after the other
in the order of the fields (`build_of_violations`).  What a field is filled with can be read again, and then it
stays as it is (`FieldType.fill_filled`).

A payload of a discovery has some fields that no setting touches and a row of fields that are filled
from one setting each (`Layout`).  `payloads_fieldwise`: each of the three payloads is made
field by field in this sense, and its own fields, put back under the keys of their settings, make
the same payload.
-/

namespace NodeInventory

theorem Fields.find?_of_mem {fields : Fields} {field : String × Value} (present : field ∈ fields)
    (distinct : (fields.map Prod.fst).Nodup) : Fields.find? fields field.1 = some field.2 := by
  induction fields with
  | nil => cases present
  | cons entry rest ih =>
      rw [List.map_cons, List.nodup_cons] at distinct
      rw [Fields.find?]
      rcases List.mem_cons.mp present with rfl | later
      · exact if_pos rfl
      · have other : entry.1 ≠ field.1 := by
          intro same
          exact distinct.1 (same ▸ List.mem_map_of_mem later)
        rw [if_neg other]
        exact ih later distinct.2

namespace Payload

/-! ### One field -/

theorem lift_eq_ok {r : Except Rule Value} {v : Value} : lift r = .ok v ↔ r = .ok v := by
  cases r <;> simp [lift]

theorem lift_violations {r : Except Rule Value} {violations : List Violation}
    (failed : lift r = .error violations) : violations ≠ [] := by
  cases r <;> cases failed
  exact List.cons_ne_nil _ _

theorem under_ne_nil {step : PathStep} {violations : List Violation} (some_ : violations ≠ []) :
    under step violations ≠ [] :=
  mt List.map_eq_nil_iff.mp some_

theorem collect_eq_ok {fill : Value → Except (List Violation) Value} {vs : List Value} :
    ∀ {i : Nat} {ws : List Value},
      collect fill i vs = .ok ws ↔ List.Forall₂ (fun v w => fill v = .ok w) vs ws := by
  induction vs with
  | nil =>
      intro i ws
      rw [List.forall₂_nil_left_iff, collect, Except.ok.injEq]
      exact eq_comm
  | cons v rest ih =>
      intro i ws
      rw [List.forall₂_cons_left_iff]
      constructor
      · intro filled
        rw [collect] at filled
        split at filled
        · rename_i w more first later
          cases filled
          exact ⟨w, more, first, ih.mp later, rfl⟩
        all_goals cases filled
      · rintro ⟨w, more, first, later, rfl⟩
        rw [collect, first, ih.mpr later]

theorem collect_violations {fill : Value → Except (List Violation) Value}
    (blames : ∀ {v violations}, fill v = .error violations → violations ≠ []) (vs : List Value) :
    ∀ {i : Nat} {violations : List Violation},
      collect fill i vs = .error violations → violations ≠ [] := by
  induction vs with
  | nil => exact nofun
  | cons v rest ih =>
      intro i violations failed
      rw [collect] at failed
      split at failed <;> cases failed
      · rename_i later
        exact ih later
      · rename_i first _
        exact under_ne_nil (blames first)
      · rename_i first _
        exact List.append_ne_nil_of_left_ne_nil (under_ne_nil (blames first)) _

theorem FieldType.fill_violations (type : FieldType) : ∀ {v : Value} {violations : List Violation},
    type.fill v = .error violations → violations ≠ [] := by
  induction type with
  | int => exact lift_violations
  | bool => exact lift_violations
  | text =>
      intro v violations failed
      rw [FieldType.fill] at failed
      split at failed <;> cases failed
      exact List.cons_ne_nil _ _
  | object =>
      intro v violations failed
      cases v <;> cases failed <;> exact List.cons_ne_nil _ _
  | list item ih =>
      intro v violations failed
      cases v
      case list items =>
        cases made : collect item.fill 0 items with
        | ok ws => rw [FieldType.fill, made] at failed; cases failed
        | error own =>
            rw [FieldType.fill, made] at failed
            cases failed
            exact collect_violations ih items made
      all_goals cases failed; exact List.cons_ne_nil _ _

/-- What fills a field fills it again, unchanged: it is a whole number, a truth value, or a list
whose items are filled already, and no such value is read as another one. -/
theorem FieldType.fill_filled (type : FieldType) : ∀ {v w : Value},
    type.fill v = .ok w → type.fill w = .ok w := by
  induction type with
  | int =>
      intro v w filled
      obtain ⟨n, -, rfl⟩ := map_eq_ok.mp (lift_eq_ok.mp filled)
      rfl
  | bool =>
      intro v w filled
      obtain ⟨b, -, rfl⟩ := map_eq_ok.mp (lift_eq_ok.mp filled)
      rfl
  | text =>
      intro v w filled
      have same := filled
      rw [FieldType.fill] at same
      split at same <;> cases same
      exact filled
  | object =>
      intro v w filled
      cases v <;> cases filled
      rfl
  | list item ih =>
      intro v w filled
      cases v
      case list items =>
        obtain ⟨ws, made, rfl⟩ := map_eq_ok.mp filled
        have each := collect_eq_ok.mp made
        rw [FieldType.fill, map_eq_ok]
        refine ⟨ws, collect_eq_ok.mpr ?_, rfl⟩
        clear made filled
        induction each with
        | nil => exact .nil
        | cons first _ later => exact .cons (ih first) later
      all_goals cases filled

/-! ### All fields -/

/-- The violations that the value of a field earns on its own. -/
def Entry.violations (e : Entry) : List Violation :=
  match e.fill with
  | .ok _ => []
  | .error violations => violations

theorem Entry.violations_eq_nil {e : Entry} :
    e.violations = [] ↔ ∃ v, e.type.fill e.value = .ok v := by
  simp only [← Entry.fill_eq_ok]
  unfold Entry.violations
  cases filled : e.fill with
  | ok v => exact iff_of_true rfl ⟨v, rfl⟩
  | error violations =>
      refine iff_of_false ?_ nofun
      unfold Entry.fill at filled
      cases own : e.type.fill e.value with
      | ok v => rw [own] at filled; cases filled
      | error bare =>
          rw [own] at filled
          cases filled
          exact under_ne_nil (e.type.fill_violations own)

theorem exists_field {entries : List Entry} {fields : Fields} {e : Entry}
    (fills : List.Forall₂ Entry.Fills entries fields) (listed : e ∈ entries) :
    ∃ field ∈ fields, e.Fills field := by
  induction fills with
  | nil => cases listed
  | @cons _ field _ _ first _ ih =>
      rcases List.mem_cons.mp listed with rfl | later
      · exact ⟨field, List.mem_cons_self, first⟩
      · obtain ⟨field, present, fills⟩ := ih later
        exact ⟨field, List.mem_cons_of_mem _ present, fills⟩

/-- Fields can be filled together exactly if each of them can be filled on its own. -/
theorem exists_fills {entries : List Entry} :
    (∃ fields, List.Forall₂ Entry.Fills entries fields) ↔
      entries.flatMap Entry.violations = [] := by
  induction entries with
  | nil => exact iff_of_true ⟨[], .nil⟩ rfl
  | cons e rest ih =>
      rw [List.flatMap_cons, List.append_eq_nil_iff, ← ih, Entry.violations_eq_nil]
      constructor
      · rintro ⟨_, _ | ⟨first, later⟩⟩
        exact ⟨⟨_, first.value⟩, _, later⟩
      · rintro ⟨⟨v, first⟩, fields, later⟩
        exact ⟨(e.name, v) :: fields, .cons ⟨rfl, first⟩ later⟩

/-- What is reported is all that the fields earn, one field after the other. -/
theorem fillAll_eq_error {entries : List Entry} : ∀ {violations : List Violation},
    fillAll entries = .error violations → violations = entries.flatMap Entry.violations := by
  induction entries with
  | nil => exact nofun
  | cons e rest ih =>
      intro violations failed
      rw [fillAll] at failed
      rw [List.flatMap_cons, Entry.violations]
      cases first : e.fill with
      | ok v =>
          cases later : fillAll rest with
          | ok fields => rw [first, later] at failed; cases failed
          | error more =>
              rw [first, later] at failed
              cases failed
              exact ih later
      | error own =>
          cases later : fillAll rest with
          | ok fields =>
              have none_ := exists_fills.mp ⟨fields, fillAll_eq_ok.mp later⟩
              rw [first, later] at failed
              cases failed
              rw [none_, List.append_nil]
          | error more =>
              rw [first, later] at failed
              cases failed
              rw [ih later]

/-- A payload is rejected for all that its fields earn, if one of them earns anything. -/
theorem build_of_violations {entries : List Entry}
    (broken : entries.flatMap Entry.violations ≠ []) :
    build entries = .error (.invalid (entries.flatMap Entry.violations)) := by
  unfold build
  cases filled : fillAll entries with
  | ok fields => exact absurd (exists_fills.mp ⟨fields, fillAll_eq_ok.mp filled⟩) broken
  | error violations => rw [← fillAll_eq_error filled]; rfl

end Payload

open Payload

/-! ### Forms of payloads -/

namespace Setting

theorem refilled {table : List Setting} {settings again : Fields} : ∀ {filled : Fields},
    List.Forall₂ Entry.Fills (table.map (entry settings)) filled →
    (∀ s ∈ table, ∀ field ∈ filled, field.1 = s.field → s.given again = field.2) →
      List.Forall₂ Entry.Fills (table.map (entry again)) filled := by
  induction table with
  | nil => exact fun fills _ => fills
  | cons s rest ih =>
      rintro _ (_ | @⟨_, field, _, _, first, later⟩) held
      have own : s.given again = field.2 :=
        held s List.mem_cons_self field List.mem_cons_self first.name
      refine .cons ⟨first.name, ?_⟩ (ih later fun t listed other present => ?_)
      · show s.type.fill (s.given again) = .ok field.2
        rw [own]
        exact s.type.fill_filled first.value
      · exact held t (List.mem_cons_of_mem _ listed) other (List.mem_cons_of_mem _ present)

end Setting

/-- The fields of a payload in their order: some that are there from the start, some that are filled
from given values, those that are filled from settings, and some that are put at the end.  No two
fields have one name, and no two settings one key. -/
structure PayloadForm where
  lead : Fields
  fixed : List Entry
  table : List Setting
  close : Fields
  names_distinct : (lead.map Prod.fst ++ (fixed.map Entry.name ++ table.map Setting.field) ++
    close.map Prod.fst).Nodup
  keys_distinct : (table.map Setting.key).Nodup

namespace PayloadForm

/-- The fields that have to be filled. -/
def entries (form : PayloadForm) (settings : Fields) : List Entry :=
  form.fixed ++ form.table.map (Setting.entry settings)

/-- What the fields earn, one after the other. -/
def violations (form : PayloadForm) (settings : Fields) : List Violation :=
  (form.entries settings).flatMap Entry.violations

/-- The payload around the fields that have been filled. -/
def around (form : PayloadForm) (filled : Fields) : Fields := form.lead ++ filled ++ form.close

/-- The fields that settings fill, under the keys of these settings. -/
def fedBack (form : PayloadForm) (payload : Fields) : Fields :=
  form.table.map fun s => (s.key, (Fields.find? payload s.field).getD s.default)

/-- A payload is made field by field: it is rejected for exactly what its fields earn, each on its
own, and otherwise each field is filled from its own value; a field changes with its own setting
only; and the payload is made again from any settings that hold its fields. -/
structure Fieldwise (form : PayloadForm) (make : Fields → Outcome Fields) : Prop where
  rejected : ∀ settings, form.violations settings ≠ [] →
    make settings = .error (.invalid (form.violations settings))
  accepted : ∀ settings, form.violations settings = [] → ∃ filled,
    make settings = .ok (form.around filled) ∧
      List.Forall₂ Entry.Fills (form.entries settings) filled
  own : ∀ {settings other payload payload'}, make settings = .ok payload →
    make other = .ok payload' → ∀ s ∈ form.table,
      Fields.find? settings s.key = Fields.find? other s.key →
        Fields.find? payload s.field = Fields.find? payload' s.field
  stable : ∀ {settings again payload}, make settings = .ok payload →
    (∀ s ∈ form.table, Fields.find? again s.key = Fields.find? payload s.field) →
      make again = .ok payload
  fed_back : ∀ {settings payload}, make settings = .ok payload →
    make (form.fedBack payload) = .ok payload

variable {form : PayloadForm} {settings again filled : Fields}

theorem entries_names (form : PayloadForm) (settings : Fields) :
    (form.entries settings).map Entry.name =
      form.fixed.map Entry.name ++ form.table.map Setting.field := by
  rw [entries, List.map_append, List.map_map]
  rfl

theorem around_distinct (fills : List.Forall₂ Entry.Fills (form.entries settings) filled) :
    ((form.around filled).map Prod.fst).Nodup := by
  rw [around, List.map_append, List.map_append, build_names (build_eq_ok.mpr fills),
    entries_names]
  exact form.names_distinct

theorem find?_around (fills : List.Forall₂ Entry.Fills (form.entries settings) filled)
    {field : String × Value} (present : field ∈ filled) :
    Fields.find? (form.around filled) field.1 = some field.2 :=
  Fields.find?_of_mem (List.mem_append_left _ (List.mem_append_right _ present))
    (around_distinct fills)

theorem find?_setting (fills : List.Forall₂ Entry.Fills (form.entries settings) filled)
    {s : Setting} (listed : s ∈ form.table) : ∃ v, s.type.fill (s.given settings) = .ok v ∧
      Fields.find? (form.around filled) s.field = some v := by
  obtain ⟨field, present, own⟩ := exists_field fills
    (List.mem_append_right _ (List.mem_map_of_mem listed))
  have found := find?_around fills present
  rw [own.name] at found
  exact ⟨field.2, own.value, found⟩

theorem find?_fedBack (fills : List.Forall₂ Entry.Fills (form.entries settings) filled)
    {s : Setting} (listed : s ∈ form.table) :
    Fields.find? (form.fedBack (form.around filled)) s.key =
      Fields.find? (form.around filled) s.field := by
  obtain ⟨v, -, found⟩ := find?_setting fills listed
  have keys : (form.fedBack (form.around filled)).map Prod.fst = form.table.map Setting.key := by
    rw [fedBack, List.map_map]
    rfl
  have here := Fields.find?_of_mem (List.mem_map_of_mem listed) (keys ▸ form.keys_distinct)
  rw [found] at here ⊢
  exact here

theorem refilled (fills : List.Forall₂ Entry.Fills (form.entries settings) filled)
    (held : ∀ s ∈ form.table,
      Fields.find? again s.key = Fields.find? (form.around filled) s.field) :
    List.Forall₂ Entry.Fills (form.entries again) filled := by
  have fixed := (List.forall₂_take_append _ _ _ fills.flip).flip
  have table := (List.forall₂_drop_append _ _ _ fills.flip).flip
  rw [← List.take_append_drop form.fixed.length filled]
  refine List.rel_append fixed (Setting.refilled table fun s listed field present named => ?_)
  have found := find?_around fills (List.mem_of_mem_drop present)
  rw [Setting.given, held s listed, ← named, found]
  rfl

/-- A payload that is built from its form is made field by field. -/
theorem fieldwise_of_build {make : Fields → Outcome Fields}
    (built : ∀ settings, make settings = (build (form.entries settings)).map form.around) :
    form.Fieldwise make := by
  have made : ∀ {settings payload}, make settings = .ok payload ↔ ∃ filled,
      List.Forall₂ Entry.Fills (form.entries settings) filled ∧ form.around filled = payload := by
    intro settings payload
    rw [built, map_eq_ok]
    simp only [build_eq_ok]
  have stable : ∀ {settings again payload}, make settings = .ok payload →
      (∀ s ∈ form.table, Fields.find? again s.key = Fields.find? payload s.field) →
        make again = .ok payload := by
    intro settings again payload ok held
    obtain ⟨filled, fills, rfl⟩ := made.mp ok
    exact made.mpr ⟨filled, refilled fills held, rfl⟩
  refine ⟨fun settings broken => ?_, fun settings whole => ?_, ?_, stable, ?_⟩
  · rw [built, violations, build_of_violations broken]
    rfl
  · obtain ⟨filled, fills⟩ := exists_fills.mpr whole
    exact ⟨filled, made.mpr ⟨filled, fills, rfl⟩, fills⟩
  · intro settings other payload payload' ok ok' s listed same
    obtain ⟨filled, fills, rfl⟩ := made.mp ok
    obtain ⟨filled', fills', rfl⟩ := made.mp ok'
    obtain ⟨v, own, found⟩ := find?_setting fills listed
    obtain ⟨v', own', found'⟩ := find?_setting fills' listed
    rw [Setting.given, same] at own
    cases own.symm.trans own'
    rw [found, found']
  · intro settings payload ok
    obtain ⟨filled, fills, rfl⟩ := made.mp ok
    exact stable ok fun s listed => find?_fedBack fills listed

end PayloadForm

/-! ### The three payloads -/

/-- A text object for each text. -/
def textList (field : String) (texts : List String) : Value :=
  .list (texts.map fun s => .object [(field, .text s)])

namespace PayloadForm

/-- The payload of a job: its name and how it is run, and at the end its configurations. -/
def job (name : Value) (items : List String) : PayloadForm where
  lead := []
  fixed := [⟨"Name", .text, name⟩]
  table := Setting.job
  close := [("PluginConfigurations", textList "PluginConfigurationItem" items)]
  names_distinct := by
    show ("Name" :: Setting.job.map Setting.field ++ ["PluginConfigurations"]).Nodup
    decide
  keys_distinct := by decide

/-- The payload of a search: the addresses in order, the credential, and what is repeated. -/
def core (addresses : List String) (credential : Int) : PayloadForm where
  lead := [("BulkList", textList "Address" addresses.mergeSort),
    ("Credentials", .list [.object [("CredentialID", .int credential), ("Order", .int 1)]])]
  fixed := []
  table := Setting.core
  close := []
  names_distinct := by
    show ("BulkList" :: "Credentials" :: Setting.core.map Setting.field ++ []).Nodup
    decide
  keys_distinct := by decide

/-- The payload of what is taken in. -/
def interfaces : PayloadForm where
  lead := []
  fixed := []
  table := Setting.interfaces
  close := []
  names_distinct := by decide
  keys_distinct := by decide

end PayloadForm

theorem jobPayload_eq (name : Value) (items : List String) (settings : Fields) :
    jobPayload name (.texts items) (.object settings) =
      (build ((PayloadForm.job name items).entries settings)).map
        (PayloadForm.job name items).around := by
  unfold jobPayload
  rw [Setting.entries_object]
  show ((items.map Value.text).mapM (textObject "PluginConfigurationItem") >>= fun made => _) = _
  rw [mapM_textObject]
  show (build ((PayloadForm.job name items).entries settings) >>= fun fields => _) = _
  cases build ((PayloadForm.job name items).entries settings) <;> rfl

theorem corePayload_eq (addresses : List String) (credential : Int) (settings : Fields) :
    corePayload (.texts addresses) (.int credential) (.object settings) =
      (build ((PayloadForm.core addresses credential).entries settings)).map
        (PayloadForm.core addresses credential).around := by
  unfold corePayload
  show (sortedAddresses (addresses.map .text) >>= fun sorted => _) = _
  rw [sortedAddresses_texts]
  show ((addresses.mergeSort.map Value.text).mapM (textObject "Address") >>= fun made => _) = _
  rw [mapM_textObject, Setting.entries_object]
  show (build ((PayloadForm.core addresses credential).entries settings) >>= fun fields => _) = _
  cases build ((PayloadForm.core addresses credential).entries settings) with
  | error fault => rfl
  | ok fields => exact congrArg Except.ok (List.append_nil _).symm

theorem interfacesPayload_eq (settings : Fields) :
    interfacesPayload (.object settings) =
      (build (PayloadForm.interfaces.entries settings)).map PayloadForm.interfaces.around := by
  unfold interfacesPayload
  rw [Setting.entries_object]
  show build (PayloadForm.interfaces.entries settings) = _
  cases build (PayloadForm.interfaces.entries settings) with
  | error fault => rfl
  | ok fields => exact congrArg Except.ok (List.append_nil _).symm

/-- Each payload of a discovery is made field by field, whatever the name of the job and whichever
texts and whichever credential it is made of. -/
theorem payloads_fieldwise :
    (∀ (name : Value) (items : List String), (PayloadForm.job name items).Fieldwise fun settings =>
      jobPayload name (.texts items) (.object settings)) ∧
    (∀ (addresses : List String) (credential : Int),
      (PayloadForm.core addresses credential).Fieldwise fun settings =>
        corePayload (.texts addresses) (.int credential) (.object settings)) ∧
    PayloadForm.interfaces.Fieldwise fun settings => interfacesPayload (.object settings) :=
  ⟨fun name items => PayloadForm.fieldwise_of_build (jobPayload_eq name items),
    fun addresses credential =>
      PayloadForm.fieldwise_of_build (corePayload_eq addresses credential),
    PayloadForm.fieldwise_of_build interfacesPayload_eq⟩

/-- All fields that cannot be filled are reported, among them the name. -/
example : (PayloadForm.job (.int 3) []).violations
    [("hop_count", .null), ("engine_id", .text "one")] =
      [⟨[.field "Name"], .textType⟩, ⟨[.field "EngineId"], .intParsing⟩,
        ⟨[.field "HopCount"], .intType⟩] := by
  decide

end NodeInventory
