import NodeInventory.Proofs.Config.Filling

/-!
# Empty sections of a configuration

A section of a configuration that has nothing in it is null.  One could take it for a section that
is missing (`withoutEmpty`), but null is neither asked for a field nor filled: what is said about
discovery jobs is asked for its interval, and any other section fails when it is to be filled.  So a
configuration is accepted or refused as if its empty sections were missing only when there are none,
or when it is refused before they are looked at (`Indifferent`), which `empty_sections_iff` says.
-/

namespace NodeInventory

theorem Fields.find?_filter (keep : String → Bool) (fields : Fields) (key : String) :
    find? (fields.filter fun entry => keep entry.1) key =
      if keep key then find? fields key else none := by
  induction fields with
  | nil => simp [find?]
  | cons entry rest ih =>
      obtain ⟨name, v⟩ := entry
      by_cases same : name = key
      · subst same
        cases kept : keep name <;> simp [find?, kept, ih]
      · cases kept : keep name <;> simp [find?, kept, ih, same]

namespace Config

/-- The names of the sections that may be missing. -/
def optionalNames : List String := optionalSections.map Prod.fst

/-- Whether a configuration has an optional section with nothing in it. -/
def isEmptySection (fields : Fields) (name : String) : Bool :=
  optionalNames.contains name && (Fields.find? fields name).any Value.isNull

/-- A configuration without its empty sections. -/
def withoutEmpty (fields : Fields) : Fields :=
  fields.filter fun entry => !isEmptySection fields entry.1

/-- There is a section about the server, and each of the other sections is missing, an object, or
empty. -/
structure Outlined (fields : Fields) : Prop where
  swis : ∃ swis, Fields.find? fields "swis" = some (.object swis)
  optional : ∀ name ∈ optionalNames, ∀ given, Fields.find? fields name = some given →
    given = .null ∨ ∃ section_, given = .object section_

/-- A configuration has no empty section, or it is refused before the first one of them is looked
at: the section about the server lacks a field, or what is said about discovery jobs is looked at
and the configuration is not valid. -/
inductive Indifferent (fields : Fields) : Prop
  | full : (∀ name ∈ optionalNames, Fields.find? fields name ≠ some .null) → Indifferent fields
  | incomplete {swis : Fields} {fault : Fault} :
      Fields.find? fields "swis" = some (.object swis) →
      checkRequired (.object swis) requiredFields = .error fault → Indifferent fields
  | invalid {fault : Fault} : Fields.find? fields "discovery" ≠ some .null →
      validate (.object fields) = .error fault → Indifferent fields

/-! ### Leaving out what is empty -/

section without

variable {fields : Fields}

theorem isEmptySection_iff {name : String} :
    isEmptySection fields name = true ↔
      name ∈ optionalNames ∧ Fields.find? fields name = some .null := by
  unfold isEmptySection
  cases Fields.find? fields name with
  | none => simp
  | some given => cases given <;> simp [Value.isNull]

theorem find?_withoutEmpty (name : String) :
    Fields.find? (withoutEmpty fields) name =
      if isEmptySection fields name then none else Fields.find? fields name := by
  rw [withoutEmpty, Fields.find?_filter fun key => !isEmptySection fields key]
  cases isEmptySection fields name <;> rfl

theorem find?_withoutEmpty_swis :
    Fields.find? (withoutEmpty fields) "swis" = Fields.find? fields "swis" := by
  rw [find?_withoutEmpty]
  rfl

theorem withoutEmpty_eq_self
    (full : ∀ name ∈ optionalNames, Fields.find? fields name ≠ some .null) :
    withoutEmpty fields = fields := by
  refine List.filter_eq_self.mpr fun entry _ => ?_
  have kept : ¬isEmptySection fields entry.1 = true := fun empty =>
    full _ (isEmptySection_iff.mp empty).1 (isEmptySection_iff.mp empty).2
  simpa using kept

theorem Outlined.sectioned (h : Outlined fields) : Sectioned (withoutEmpty fields) where
  swis := by
    rw [find?_withoutEmpty_swis]
    exact h.swis
  optional := by
    intro name member given found
    rw [find?_withoutEmpty] at found
    split at found
    · cases found
    case isFalse full =>
      refine (h.optional name member given found).resolve_left ?_
      rintro rfl
      exact full (isEmptySection_iff.mpr ⟨member, found⟩)

end without

/-! ### Checking -/

/-- The checks of a configuration whose section about the server is an object look at that section
and at what is said about discovery jobs. -/
def inspect (swis : Fields) (discovery : Value) : Outcome Unit :=
  checkRequired (.object swis) requiredFields >>= fun _ =>
    discovery.get "poll_interval_seconds" >>= fun interval =>
      checkInterval interval >>= fun _ => checkCertificate (.object swis)

theorem validate_object {fields swis : Fields}
    (found : Fields.find? fields "swis" = some (.object swis)) :
    validate (.object fields) = inspect swis (sectionOf fields "discovery") := by
  have steps : validate (.object fields) =
      ((Value.object fields).holds "swis" >>= fun held =>
        if !held then .error (.missingSection "swis")
        else (Value.object fields).field "swis" >>= fun given =>
          checkRequired given requiredFields >>= fun _ =>
            (Value.object fields).getOr "discovery" (.object []) >>= fun discovery =>
              discovery.get "poll_interval_seconds" >>= fun interval =>
                checkInterval interval >>= fun _ => checkCertificate given) := rfl
  have held : (Value.object fields).holds "swis" = .ok true := by
    simp [Value.holds, Fields.has, found]
  have given : (Value.object fields).field "swis" = .ok (.object swis) :=
    Value.field_eq_ok.mpr ⟨fields, rfl, found⟩
  rw [steps, held, given]
  rfl

theorem inspect_missing (swis : Fields) :
    inspect swis (.object []) = checkRequired (.object swis) requiredFields >>= fun _ =>
      checkCertificate (.object swis) := rfl

theorem checkCertificate_eq_error {swis : Fields} {fault : Fault}
    (failed : checkCertificate (.object swis) = .error fault) : fault = .wrongType := by
  unfold checkCertificate Value.get Value.getOr at failed
  dsimp only [bind, Except.bind] at failed
  split at failed
  · cases failed
    rfl
  · cases failed

/-! ### Filling -/

theorem fillOptional_empty {fields defaults : Fields} {name : String}
    (empty : Fields.find? fields name = some .null) (asked : defaults ≠ []) :
    fillOptional (.object fields) name defaults = .error .wrongType := by
  have opened : fillOptional (.object fields) name defaults =
      if Fields.has fields name then fillPresent (.object fields) name defaults
      else fillPresent (.object (Fields.put fields name (.object []))) name defaults := rfl
  have there : (Value.object fields).field name = .ok .null :=
    Value.field_eq_ok.mpr ⟨fields, rfl, empty⟩
  cases defaults with
  | nil => exact absurd rfl asked
  | cons entry rest =>
      rw [opened, Fields.has, empty, Option.isSome_some, if_pos rfl, fillPresent, there]
      rfl

theorem fillOptional_object {fields section_ : Fields} {name : String} (defaults : Fields)
    (found : sectionOf fields name = .object section_) :
    fillOptional (.object fields) name defaults =
      .ok (.object (Fields.put fields name (.object (section_.filled defaults)))) := by
  refine fillOptional_eq_ok.mpr ⟨_, ?_, rfl⟩
  rw [found]
  exact fillSection_object defaults section_

/-- Sections of which each is missing, an object or empty, and one is empty, cannot all be
filled. -/
theorem fillSections_empty : ∀ (sections : List (String × Fields)) (fields : Fields),
    (∀ entry ∈ sections, entry.2 ≠ []) → (sections.map Prod.fst).Nodup →
    (∀ name ∈ sections.map Prod.fst, ∀ given, Fields.find? fields name = some given →
      given = .null ∨ ∃ section_, given = .object section_) →
    (∃ name ∈ sections.map Prod.fst, Fields.find? fields name = some .null) →
    sections.foldlM (fun config entry => fillOptional config entry.1 entry.2) (.object fields) =
      .error .wrongType
  | [], _, _, _, _, empty => by
      obtain ⟨_, member, -⟩ := empty
      cases member
  | (name, defaults) :: rest, fields, asked, distinct, outlined, empty => by
      obtain ⟨(fresh : name ∉ rest.map Prod.fst), distinct⟩ := List.nodup_cons.mp distinct
      obtain ⟨(asks : defaults ≠ []), asked⟩ := List.forall_mem_cons.mp asked
      rw [List.foldlM_cons]
      dsimp only
      by_cases first : Fields.find? fields name = some .null
      · rw [fillOptional_empty first asks]
        rfl
      obtain ⟨section_, found⟩ : ∃ section_, sectionOf fields name = .object section_ := by
        unfold sectionOf
        cases given : Fields.find? fields name with
        | none => exact ⟨[], rfl⟩
        | some v =>
            refine (outlined name List.mem_cons_self v given).resolve_left ?_
            rintro rfl
            exact first given
      rw [fillOptional_object defaults found]
      -- The rest of the sections are as they were.
      have kept (other : String) (member : other ∈ rest.map Prod.fst) (v : Value) :
          Fields.find? (Fields.put fields name v) other = Fields.find? fields other :=
        (Fields.find?_put ..).trans (if_neg fun same : name = other => fresh (same ▸ member))
      refine fillSections_empty rest _ asked distinct ?_ ?_
      · intro other member given found
        rw [kept other member] at found
        exact outlined other (List.mem_cons_of_mem _ member) given found
      · obtain ⟨other, member, null_⟩ := empty
        rcases List.mem_cons.mp member with rfl | member
        · exact absurd null_ first
        · exact ⟨other, member, (kept other member _).trans null_⟩

/-- A configuration with an empty section cannot be given its defaults. -/
theorem Outlined.applyDefaults_empty {fields : Fields} (h : Outlined fields)
    (empty : ∃ name ∈ optionalNames, Fields.find? fields name = some .null) :
    applyDefaults (.object fields) = .error .wrongType := by
  obtain ⟨swis, found⟩ := h.swis
  have first : fillPresent (.object fields) "swis" swisDefaults =
      .ok (.object (Fields.put fields "swis" (.object (Fields.filled swis swisDefaults)))) :=
    fillPresent_eq_ok.mpr ⟨_, _, found, fillSection_object _ _, rfl⟩
  have kept (name : String) (member : name ∈ optionalNames) (v : Value) :
      Fields.find? (Fields.put fields "swis" v) name = Fields.find? fields name := by
    refine (Fields.find?_put ..).trans (if_neg ?_)
    rintro rfl
    exact absurd member (by decide)
  unfold applyDefaults
  rw [first]
  refine fillSections_empty optionalSections _ (by decide) (by decide) ?_ ?_
  · intro name member given found
    rw [kept name member] at found
    exact h.optional name member given found
  · obtain ⟨name, member, null_⟩ := empty
    exact ⟨name, member, (kept name member _).trans null_⟩

/-! ### What becomes of a configuration with empty sections -/

/-- The cause for which a configuration with empty sections is refused, unless it is refused for
another one first. -/
def emptyFault (fields : Fields) : Fault :=
  if isEmptySection fields "discovery" then .noAttribute .null "get" else .wrongType

section outlined

variable {fields : Fields}

theorem validate_emptyDiscovery {swis : Fields}
    (found : Fields.find? fields "swis" = some (.object swis))
    (empty : Fields.find? fields "discovery" = some .null) :
    validate (.object fields) = checkRequired (.object swis) requiredFields >>= fun _ =>
      .error (.noAttribute .null "get") := by
  rw [validate_object found, sectionOf, empty]
  rfl

/-- With something said about discovery jobs, or nothing at all, the checks do not see the empty
sections. -/
theorem validate_withoutEmpty {swis : Fields}
    (found : Fields.find? fields "swis" = some (.object swis))
    (full : Fields.find? fields "discovery" ≠ some .null) :
    validate (.object (withoutEmpty fields)) = validate (.object fields) := by
  have kept : ¬isEmptySection fields "discovery" = true := fun empty =>
    full (isEmptySection_iff.mp empty).2
  rw [validate_object found, validate_object (find?_withoutEmpty_swis.trans found), sectionOf,
    sectionOf, find?_withoutEmpty, if_neg kept]

/-- A configuration is accepted or refused as it is without its empty sections if that makes no
difference to it. -/
theorem Outlined.accept_indifferent (h : Outlined fields) (same : Indifferent fields) :
    accept (.object fields) = accept (.object (withoutEmpty fields)) := by
  cases same with
  | full full => rw [withoutEmpty_eq_self full]
  | @incomplete swis fault found failed =>
      rw [accept_object, accept_object, validate_object found,
        validate_object (find?_withoutEmpty_swis.trans found), inspect, inspect, failed]
      rfl
  | invalid full failed =>
      obtain ⟨swis, found⟩ := h.swis
      rw [accept_object, accept_object, validate_withoutEmpty found full, failed]
      rfl

/-- Otherwise it is refused since it has an empty section, for which it is not without them. -/
theorem Outlined.accept_different (h : Outlined fields) (other : ¬Indifferent fields) :
    accept (.object fields) = .error (emptyFault fields) ∧
      accept (.object (withoutEmpty fields)) ≠ .error (emptyFault fields) := by
  obtain ⟨swis, found⟩ := h.swis
  obtain ⟨s, sections⟩ := h.sectioned.sections
  have filled := sections.applyDefaults
  by_cases empty : Fields.find? fields "discovery" = some .null
  · have named : emptyFault fields = .noAttribute .null "get" :=
      if_pos (isEmptySection_iff.mpr ⟨by decide, empty⟩)
    have missing : sectionOf (withoutEmpty fields) "discovery" = .object [] := by
      rw [sectionOf, find?_withoutEmpty, if_pos (isEmptySection_iff.mpr ⟨by decide, empty⟩),
        Option.getD_none]
    rw [named, accept_object, accept_object, validate_emptyDiscovery found empty,
      validate_object (find?_withoutEmpty_swis.trans found), missing, inspect_missing, filled]
    cases required : checkRequired (.object swis) requiredFields with
    | error fault => exact absurd (.incomplete found required) other
    | ok _ =>
        refine ⟨rfl, fun failed => ?_⟩
        change (checkCertificate (.object swis) >>= fun _ => _) = _ at failed
        cases certificate : checkCertificate (.object swis) with
        | ok _ =>
            rw [certificate] at failed
            cases failed
        | error fault =>
            rw [certificate, checkCertificate_eq_error certificate] at failed
            cases failed
  · have named : emptyFault fields = .wrongType :=
      if_neg fun found => empty (isEmptySection_iff.mp found).2
    rw [named, accept_object, accept_object, validate_withoutEmpty found empty, filled]
    cases valid : validate (.object fields) with
    | error fault => exact absurd (.invalid empty valid) other
    | ok _ =>
        have some_empty : ∃ name ∈ optionalNames, Fields.find? fields name = some .null := by
          by_contra none_
          exact other (.full fun name member null_ => none_ ⟨name, member, null_⟩)
        refine ⟨h.applyDefaults_empty some_empty, fun failed => ?_⟩
        cases failed

/-- A configuration whose sections are objects, missing or empty is accepted or refused as it is
without its empty sections exactly if it has none or is refused before one is looked at.  Otherwise
it is refused, for asking what is said about discovery jobs for its interval, or else for filling an
empty section.  Files that give the configuration with and without these sections fare alike. -/
theorem empty_sections_iff (h : Outlined fields) :
    (accept (.object fields) = accept (.object (withoutEmpty fields)) ↔ Indifferent fields) ∧
    (¬Indifferent fields → accept (.object fields) = .error (emptyFault fields)) ∧
    ∀ (path path' text text' : String), Yaml.read text.toList = .ok (.object fields) →
      Yaml.read text'.toList = .ok (.object (withoutEmpty fields)) →
      (load path (.file text) = load path' (.file text') ↔ Indifferent fields) := by
  have alike : accept (.object fields) = accept (.object (withoutEmpty fields)) ↔
      Indifferent fields := by
    refine ⟨fun same => ?_, h.accept_indifferent⟩
    by_contra other
    obtain ⟨refused, differs⟩ := h.accept_different other
    exact differs (same.symm.trans refused)
  refine ⟨alike, fun other => (h.accept_different other).1, ?_⟩
  intro path path' text text' read read'
  have content : load path (.file text) = accept (.object fields) := by
    rw [load, read]
    rfl
  have content' : load path' (.file text') = accept (.object (withoutEmpty fields)) := by
    rw [load, read']
    rfl
  rw [content, content', alike]

end outlined

/-- A configuration that names a server and an account, and has an empty section. -/
def emptied (name : String) : Fields :=
  [("swis", .object [("server", .text "orion"), ("username", .text "admin"),
     ("password", .text "secret")]), (name, .null)]

/-- A file with that configuration, the empty section and all. -/
def emptiedFile (name : String) : String := accountLines ++ name ++ ":\n"

theorem outlined_emptied : ∀ name ∈ optionalNames, Outlined (emptied name) := by
  intro name member
  have other : "swis" ≠ name := by
    rintro rfl
    exact absurd member (by decide)
  refine ⟨⟨_, rfl⟩, fun key asked given found => .inl ?_⟩
  have distinct : "swis" ≠ key := by
    rintro rfl
    exact absurd asked (by decide)
  simp only [emptied, Fields.find?, if_neg distinct] at found
  split at found
  · exact (Option.some.inj found).symm
  · cases found

/-- Whichever section is empty, the configuration is refused, and accepted without the section. -/
theorem empty_section_refused :
    (load defaultPath (.file accountLines)).isOk = true ∧
    ∀ name ∈ optionalNames, Outlined (emptied name) ∧
      (load defaultPath (.file (emptiedFile name))).isOk = false ∧
      (accept (.object (emptied name))).isOk = false ∧
      (accept (.object (withoutEmpty (emptied name)))).isOk = true := by
  have bare : (load defaultPath (.file accountLines)).isOk = true := by
    decide +kernel
  have runs : ∀ name ∈ optionalNames, (load defaultPath (.file (emptiedFile name))).isOk = false ∧
      (accept (.object (emptied name))).isOk = false ∧
      (accept (.object (withoutEmpty (emptied name)))).isOk = true := by
    decide +kernel
  exact ⟨bare, fun name member => ⟨outlined_emptied name member, runs name member⟩⟩

/-- An empty section about logging makes a difference, from whatever file it is read. -/
theorem empty_sections_iff_logging :
    Outlined (emptied "logging") ∧ ¬Indifferent (emptied "logging") ∧
    accept (.object (emptied "logging")) = .error .wrongType ∧
    ∀ (path path' text text' : String),
      Yaml.read text.toList = .ok (.object (emptied "logging")) →
      Yaml.read text'.toList = .ok (.object (withoutEmpty (emptied "logging"))) →
      load path (.file text) ≠ load path' (.file text') := by
  have outlined := outlined_emptied "logging" (by decide)
  obtain ⟨alike, refused, files⟩ := empty_sections_iff outlined
  have other : ¬Indifferent (emptied "logging") := fun same => by
    have accepted : (accept (.object (withoutEmpty (emptied "logging")))).isOk = true := by
      decide +kernel
    rw [← alike.mpr same] at accepted
    exact absurd accepted (by decide +kernel)
  exact ⟨outlined, other, refused other, fun path path' text text' read read' same =>
    other ((files path path' text text' read read').mp same)⟩

end Config

end NodeInventory
