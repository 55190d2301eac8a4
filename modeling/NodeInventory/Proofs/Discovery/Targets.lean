import NodeInventory.Proofs.Discovery.Submitting
import NodeInventory.Proofs.Remote.Faults
import NodeInventory.Proofs.Text.Trim
import Mathlib.Data.List.Sort
import Mathlib.Data.String.Basic

/-!
# What a submission looks at

Of the addresses that are given, a submission takes what is left without the blanks around them,
unless nothing is left, each once and in order (`mem_targetList`, `targetList_increasing`).  It is
over at once if there is none, and otherwise exactly these texts are in the payload that says what
to look at.  Nothing else of the addresses matters: `addresses_normalised`.
-/

namespace NodeInventory

open Exchange Outcome Payload

variable {remote : Remote}

/-! ### Texts in order -/

theorem mem_insertText {s t : String} {texts : List String} :
    t ∈ insertText s texts ↔ t = s ∨ t ∈ texts := by
  induction texts with
  | nil => simp [insertText]
  | cons first rest ih =>
      rw [insertText]
      split
      case isTrue => exact List.mem_cons
      case isFalse notBefore =>
        split
        case isTrue =>
          rw [List.mem_cons, ih, List.mem_cons]
          exact or_left_comm
        case isFalse notAfter =>
          obtain rfl := le_antisymm (not_lt.mp notAfter) (not_lt.mp notBefore)
          rw [List.mem_cons]
          exact (or_self_left ..).symm

theorem insertText_increasing {s : String} {texts : List String}
    (increasing : texts.Pairwise (· < ·)) : (insertText s texts).Pairwise (· < ·) := by
  induction texts with
  | nil => exact List.pairwise_singleton _ _
  | cons first rest ih =>
      obtain ⟨least, later⟩ := List.pairwise_cons.mp increasing
      rw [insertText]
      split
      case isTrue before =>
        refine List.pairwise_cons.mpr ⟨List.forall_mem_cons.mpr ⟨before, fun t member => ?_⟩,
          increasing⟩
        exact before.trans (least t member)
      case isFalse =>
        split
        case isTrue after =>
          refine List.pairwise_cons.mpr ⟨fun t member => ?_, ih later⟩
          rcases mem_insertText.mp member with rfl | member
          · exact after
          · exact least t member
        case isFalse => exact increasing

theorem mem_distinct {t : String} {texts : List String} : t ∈ distinct texts ↔ t ∈ texts := by
  induction texts with
  | nil => exact Iff.rfl
  | cons first rest ih =>
      show t ∈ insertText first (distinct rest) ↔ _
      rw [mem_insertText, ih, List.mem_cons]

theorem distinct_increasing (texts : List String) : (distinct texts).Pairwise (· < ·) := by
  induction texts with
  | nil => exact List.Pairwise.nil
  | cons first rest ih => exact insertText_increasing ih

/-! ### The targets among some addresses -/

/-- A text is left of one of some addresses without the blanks around it, and it is not empty. -/
def IsTarget (addresses : List String) (t : String) : Prop :=
  t ≠ "" ∧ ∃ s ∈ addresses, Text.Strips s t

/-- What is left of an address, if anything. -/
def target? (s : String) : Option String :=
  if (Text.trim s).isEmpty then none else some (Text.trim s)

/-- What is left of some addresses, in order and each once. -/
def targetList (addresses : List String) : List String := distinct (addresses.filterMap target?)

theorem target?_eq_some {s t : String} : target? s = some t ↔ t ≠ "" ∧ Text.Strips s t := by
  rw [target?, Text.strips_iff]
  split
  case isTrue empty =>
    refine iff_of_false nofun ?_
    rintro ⟨filled, rfl⟩
    exact filled (String.isEmpty_iff.mp empty)
  case isFalse filled =>
    rw [Option.some.injEq]
    constructor
    · rintro rfl
      exact ⟨mt String.isEmpty_iff.mpr filled, rfl⟩
    · rintro ⟨-, rfl⟩
      rfl

theorem mem_targetList {addresses : List String} {t : String} :
    t ∈ targetList addresses ↔ IsTarget addresses t := by
  simp only [targetList, mem_distinct, List.mem_filterMap, target?_eq_some, IsTarget]
  constructor
  · rintro ⟨s, given, filled, strips⟩
    exact ⟨filled, s, given, strips⟩
  · rintro ⟨filled, s, given, strips⟩
    exact ⟨s, given, filled, strips⟩

theorem targetList_increasing (addresses : List String) :
    (targetList addresses).Pairwise (· < ·) := distinct_increasing _

/-- Addresses of which the same is left have the same targets, in the same order. -/
theorem targetList_congr {addresses addresses' : List String}
    (same : ∀ t, IsTarget addresses' t ↔ IsTarget addresses t) :
    targetList addresses' = targetList addresses := by
  refine (targetList_increasing _).eq_of_mem_iff (targetList_increasing _) fun t => ?_
  rw [mem_targetList, mem_targetList]
  exact same t

/-- Blanks and repetitions leave two targets of five addresses. -/
example : targetList ["10.0.0.2", " 10.0.0.10\t", "", "10.0.0.2 ", " "] =
    ["10.0.0.10", "10.0.0.2"] := by decide +kernel

theorem targetOf_text (s : String) : targetOf (.text s) = .ok (target? s) := by
  unfold targetOf
  split
  case isTrue => rfl
  case isFalse empty =>
    have none_ : s = "" := by simpa [Value.truthy] using empty
    subst none_
    rfl

theorem targetsOf_texts (addresses : List String) :
    targetsOf (.texts addresses) = .ok (targetList addresses) := by
  have each : (addresses.map Value.text).mapM targetOf = .ok (addresses.map target?) := by
    induction addresses with
    | nil => rfl
    | cons s rest ih =>
        rw [List.map_cons, List.mapM_cons, targetOf_text, ih]
        rfl
  show ((addresses.map Value.text).mapM targetOf >>= fun found =>
    .ok (distinct (found.filterMap id))) = _
  rw [each]
  show Except.ok (distinct ((addresses.map target?).filterMap id)) = _
  rw [List.filterMap_map, Function.id_comp, targetList]

/-! ### The payload that says what to look at -/

/-- An address in the payload. -/
def addressItem (t : String) : Value := .object [("Address", .text t)]

theorem sortedAddresses_increasing {texts : List String} (increasing : texts.Pairwise (· < ·)) :
    sortedAddresses (texts.map .text) = .ok (texts.map .text) := by
  have ordered : texts.Pairwise (· ≤ ·) := increasing.imp le_of_lt
  rw [sortedAddresses_texts, List.mergeSort_eq_self _ ordered]

theorem corePayload_targets {targets : List String} {credential settings : Value} {core : Fields}
    (increasing : targets.Pairwise (· < ·))
    (built : corePayload (.texts targets) credential settings = .ok core) :
    Fields.find? core "BulkList" = some (.list (targets.map addressItem)) := by
  obtain ⟨_, ⟨⟩, built⟩ := Outcome.bind_eq_ok.mp built
  obtain ⟨_, sorted, built⟩ := Outcome.bind_eq_ok.mp built
  rw [sortedAddresses_increasing increasing] at sorted
  cases sorted
  obtain ⟨items, made, built⟩ := Outcome.bind_eq_ok.mp built
  obtain ⟨credentials, -, built⟩ := Outcome.bind_eq_ok.mp built
  obtain ⟨entries, -, built⟩ := Outcome.bind_eq_ok.mp built
  obtain ⟨retries, -, ⟨⟩⟩ := Outcome.bind_eq_ok.mp built
  obtain ⟨texts, same, rfl⟩ := textObjects_eq_ok made
  obtain rfl := List.map_injective_iff.mpr (fun _ _ => Value.text.inj) same
  rfl

/-! ### The faults of a submission -/

/-- The faults of a submission that has something to look at. -/
inductive Fault.OfStep : Fault → Prop
  | request {fault : Fault} : OfRequest fault → OfStep fault
  | unknownCredential (name : String) : OfStep (.unknownCredential name)
  | invalid (violations : List Violation) : OfStep (.invalid violations)

theorem Fault.OfStep.value {fault : Fault} (h : OfValue fault) : OfStep fault := .request (.value h)

theorem Fault.OfStep.ne_noTargets {fault : Fault} (h : OfStep fault) : fault ≠ .noTargets := by
  rintro rfl
  cases h with
  | request asked => cases asked with
    | value looked => cases looked

theorem build_fails (entries : List Entry) : FailsOnly Fault.OfStep (build entries) := by
  unfold build
  cases fillAll entries with
  | error violations => exact failsOnly_error (.invalid violations)
  | ok fields => exact failsOnly_ok fields

theorem entries_fails (table : List Setting) (settings : Value) :
    FailsOnly Fault.OfStep (Setting.entries table settings) := by
  refine FailsOnly.mapM (fun s => ?_) table
  exact ((Value.getOr_fails _ _ _).mono fun _ => .value).bind fun _ => failsOnly_ok _

theorem textObject_fails (field : String) (v : Value) :
    FailsOnly Fault.OfStep (textObject field v) := by
  unfold textObject
  rintro fault failed
  refine build_fails [⟨field, .text, v⟩] fault ?_
  cases built : build [⟨field, .text, v⟩] with
  | error violations =>
      rw [built] at failed
      cases failed
      rfl
  | ok fields =>
      rw [built] at failed
      cases failed

namespace Submission

variable {x : Submission} {c : Connection} {before sent : List Request} {outcome : Outcome Job}

theorem corePayload_fails (targets : List String) (number : Int) :
    FailsOnly Fault.OfStep (x.corePayload targets number) := by
  refine (failsOnly_ok _).bind fun items => ?_
  refine FailsOnly.bind ?_ fun sorted => ?_
  · unfold sortedAddresses
    split
    · exact failsOnly_ok _
    · split
      · exact failsOnly_ok _
      · exact failsOnly_error (.value .wrongType)
  refine (FailsOnly.mapM (textObject_fails "Address") sorted).bind fun _ => ?_
  refine (build_fails _).bind fun _ => ?_
  refine (entries_fails _ _).bind fun _ => ?_
  exact (build_fails _).bind fun _ => failsOnly_ok _

theorem interfacesPayload_fails : FailsOnly Fault.OfStep x.interfacesPayload :=
  (entries_fails _ _).bind fun _ => build_fails _

theorem jobPayload_fails (coreItem interfacesItem : Value) :
    FailsOnly Fault.OfStep (x.jobPayload coreItem interfacesItem) := by
  refine (entries_fails _ _).bind fun _ => ?_
  refine (failsOnly_ok _).bind fun items => ?_
  refine (FailsOnly.mapM (textObject_fails _) items).bind fun _ => ?_
  exact (build_fails _).bind fun _ => failsOnly_ok _

end Submission

theorem resolution_fails (c : Connection) (before : List Request) (credential : Value) :
    FailsOnly Fault.OfStep (c.resolution remote before credential) := by
  have looked (rows : Value) : FailsOnly Fault.OfStep (credentialIn credential rows) := by
    unfold credentialIn
    split
    · refine ((Value.first_fails rows).mono fun _ => .value).bind fun row => ?_
      refine ((Value.field_fails row _).mono fun _ => .value).bind fun id => ?_
      exact (Value.toInt_fails id).mono fun _ => .value
    · exact failsOnly_error (.unknownCredential _)
  unfold Connection.resolution
  split
  · exact failsOnly_ok _
  · exact ((c.queried_fails remote before _ _).mono fun _ => .request).bind looked

theorem Called.fails {c : Connection} {v : Verb} {payload : Outcome Fields}
    {before sent : List Request} {outcome : Outcome Value}
    (h : Called c remote v payload before outcome sent) (built : FailsOnly Fault.OfStep payload) :
    FailsOnly Fault.OfStep outcome := by
  cases h with
  | invalid failed => exact failsOnly_error (built _ failed)
  | asked _ answered =>
      rw [← answered]
      exact (c.outcomeOf_fails _ _).mono fun _ => .request

theorem Submission.Submits.fails {x : Submission} {c : Connection} {before sent : List Request}
    {outcome : Outcome Job} {targets : List String}
    (goes : x.Submits c remote before outcome sent)
    (found : usableTargets x.addresses = .ok targets) : FailsOnly Fault.OfStep outcome := by
  cases goes with
  | untargeted failed => cases found.symm.trans failed
  | unresolved _ failed => exact failsOnly_error (resolution_fails c before x.credential _ failed)
  | coreFailed _ called =>
      exact failsOnly_error (called.fails (corePayload_fails _ _) _ rfl)
  | interfacesFailed _ called => exact failsOnly_error (called.fails interfacesPayload_fails _ rfl)
  | startFailed _ called => exact failsOnly_error (called.fails (jobPayload_fails _ _) _ rfl)
  | started => exact failsOnly_ok _

/-! ### What is sent -/

/-- A request for the configuration made of what to look at names these addresses, in this
order. -/
def Connection.NamesTargets (c : Connection) (targets : List String) (r : Request) : Prop :=
  r.url = c.url Verb.createCore.path → ∃ core : Fields, r.payload = some (.list [.object core]) ∧
    Fields.find? core "BulkList" = some (.list (targets.map addressItem))

theorem call_sendsOnly {p : Request → Prop} (c : Connection) {v : Verb} {payload : Outcome Fields}
    (each : ∀ fields, payload = .ok fields → p (c.verbRequest v fields)) :
    SendsOnly p (c.call v payload) := by
  intro remote
  refine (call_sends c v payload).mono ?_
  rintro before outcome _ (⟨-⟩ | ⟨built, -⟩)
  · exact List.forall_mem_nil _
  · exact List.forall_mem_singleton.mpr (each _ built)

theorem resolveCredential_sendsOnly {p : Request → Prop} (c : Connection) (credential : Value)
    (query : p (c.queryRequest credentialQuery [("name", credential)])) :
    SendsOnly p (resolveCredential c credential) := by
  intro remote
  refine (resolveCredential_sends c credential).mono ?_
  rintro before _ _ ⟨rfl, -⟩
  unfold Connection.credentialRequests
  split
  · exact List.forall_mem_nil _
  · exact List.forall_mem_singleton.mpr query

/-- Only the targets are named in the request for the configuration. -/
theorem submission_namesTargets (x : Submission) (c : Connection) {targets : List String}
    (found : targetsOf x.addresses = .ok targets) (increasing : targets.Pairwise (· < ·)) :
    SendsOnly (c.NamesTargets targets) (x.run c) := by
  rw [submission_eq, usableTargets, found]
  show SendsOnly _ (ofOutcome (if targets.isEmpty then _ else _) >>= _)
  split
  case isTrue => exact sendsOnly_fail .noTargets
  case isFalse =>
    have elsewhere {r : Request} {path : String} (url : r.url = c.url path)
        (other : path ≠ Verb.createCore.path) : c.NamesTargets targets r := fun same =>
      absurd (c.url_injective (url.symm.trans same)) other
    have named (number : Int) (core : Fields) (built : x.corePayload targets number = .ok core) :
        c.NamesTargets targets (c.verbRequest .createCore core) := fun _ =>
      ⟨core, rfl, corePayload_targets increasing built⟩
    have later (v : Verb) (other : v.path ≠ Verb.createCore.path) (payload : Outcome Fields) :
        SendsOnly (c.NamesTargets targets) (c.call v payload) :=
      call_sendsOnly c fun _ _ => elsewhere rfl other
    refine (resolveCredential_sendsOnly c x.credential (elsewhere rfl (by decide))).bind
      fun number => ?_
    refine (call_sendsOnly c (named number)).bind fun coreItem => ?_
    refine (later .createInterfaces (by decide) _).bind fun interfacesItem => ?_
    exact (later .start (by decide) _).bind fun profile => sendsOnly_ofOutcome _

/-! ### What becomes of the addresses -/

namespace Submission

/-- The same submission with other addresses. -/
def lookingAt (x : Submission) (addresses : List String) : Submission :=
  { x with addresses := .texts addresses }

theorem lookingAt_targets (x : Submission) (addresses : List String) :
    targetsOf (x.lookingAt addresses).addresses = .ok (targetList addresses) :=
  targetsOf_texts addresses

/-- Submissions that differ in the addresses, but not in the targets, do not differ at all. -/
theorem run_congr (x : Submission) (c : Connection) {addresses addresses' : List String}
    (same : targetList addresses' = targetList addresses) :
    (x.lookingAt addresses').run c = (x.lookingAt addresses).run c := by
  have found : usableTargets (x.lookingAt addresses').addresses =
      usableTargets (x.lookingAt addresses).addresses := by
    rw [usableTargets, usableTargets, lookingAt_targets, lookingAt_targets, same]
  rw [submission_eq, submission_eq, found]
  rfl

/-- A submission has nothing to look at exactly if there is no target. -/
theorem run_untargeted_iff (x : Submission) (c : Connection) (addresses : List String)
    (trace : Trace) :
    ((x.lookingAt addresses).run c remote trace).1 = .error .noTargets ↔
      targetList addresses = [] := by
  obtain ⟨sent, -, goes⟩ := @submission_sends remote (x.lookingAt addresses) c trace
  have usable : usableTargets (x.lookingAt addresses).addresses =
      if (targetList addresses).isEmpty then .error .noTargets
      else .ok (targetList addresses) := by
    rw [usableTargets, lookingAt_targets]
    rfl
  by_cases none_ : targetList addresses = []
  · rw [none_] at usable
    exact iff_of_true (goes.of_unusable usable).1 none_
  · rw [if_neg (mt List.isEmpty_iff.mp none_)] at usable
    refine iff_of_false (fun failed => ?_) none_
    exact (goes.fails usable _ failed).ne_noTargets rfl

/-- A submission that starts a job has named its targets, and the job has them. -/
theorem Submits.looksAt {x : Submission} {c : Connection} {before sent : List Request}
    {targets : List String} {job : Job} (goes : x.Submits c remote before (.ok job) sent)
    (found : targetsOf x.addresses = .ok targets) :
    job.targets = targets ∧ ∃ r ∈ sent, r.url = c.url Verb.createCore.path := by
  cases goes with
  | @started targets' _ core _ _ _ _ _ made _ _ =>
      obtain ⟨_, given, usable⟩ := Outcome.bind_eq_ok.mp made.targets_found
      obtain rfl := Except.ok.inj (found.symm.trans given)
      refine ⟨?_, c.verbRequest .createCore core, ?_, rfl⟩
      · split at usable
        · cases usable
        · exact (Except.ok.inj usable).symm
      · simp [asked]

/-- What is said of a submission of some addresses: what it looks at, and what it adds to the
requests. -/
structure Normalises (x : Submission) (c : Connection) (remote : Remote) (trace : Trace)
    (addresses targets : List String) (sent : List Request) : Prop where
  /-- The targets are in the order of their code points, each once. -/
  increasing : targets.Pairwise (· < ·)
  /-- They are what is left of the addresses without the blanks around them, unless nothing is. -/
  members : ∀ t, t ∈ targets ↔ IsTarget addresses t
  added : ((x.lookingAt addresses).run c remote trace).2.sent = trace.sent ++ sent
  /-- The payload that says what to look at names the targets, in their order. -/
  names : ∀ r ∈ sent, c.NamesTargets targets r
  /-- A job that is started has the targets, and they have been named. -/
  started : ∀ job, ((x.lookingAt addresses).run c remote trace).1 = .ok job →
    job.targets = targets ∧ ∃ r ∈ sent, r.url = c.url Verb.createCore.path
  /-- A submission fails for want of targets exactly if there are none. -/
  untargeted : ((x.lookingAt addresses).run c remote trace).1 = .error .noTargets ↔
    ∀ t, ¬IsTarget addresses t
  /-- Any other addresses with the same targets lead to the same requests and the same outcome. -/
  alike : ∀ others, (∀ t, IsTarget others t ↔ IsTarget addresses t) →
    (x.lookingAt others).run c remote trace = (x.lookingAt addresses).run c remote trace

end Submission

/-- Whatever is submitted, whatever was sent before and whatever the server answers, of the
addresses only their targets matter. -/
theorem addresses_normalised (x : Submission) (c : Connection) (remote : Remote) (trace : Trace)
    (addresses : List String) :
    (∃ targets sent, x.Normalises c remote trace addresses targets sent) ∧
      Fault.noTargets.message = "At least one target address is required" := by
  have increasing := targetList_increasing addresses
  have found := x.lookingAt_targets addresses
  obtain ⟨sent, added, names, goes⟩ :=
    (submission_namesTargets (x.lookingAt addresses) c found increasing remote).and
      (submission_sends (x.lookingAt addresses) c) trace
  refine ⟨⟨targetList addresses, sent, increasing, fun _ => mem_targetList, added, names,
    fun job ended => ?_, ?_, fun others same => ?_⟩, rfl⟩
  · rw [ended] at goes
    exact goes.looksAt found
  · rw [x.run_untargeted_iff, List.eq_nil_iff_forall_not_mem]
    exact forall_congr' fun t => not_congr mem_targetList
  · rw [x.run_congr c (targetList_congr same)]

end NodeInventory
