import NodeInventory.Proofs.Discovery.Requests

/-!
# Pruning the interfaces of a node

An interface goes only when there are patterns and none of them matches its name.  `Removes` says
this of the row that the server listed for the interface: the row names what is deleted, and no
pattern matches its caption.  Pruning the interfaces of some rows deletes rows in their order, each
at most once (`prune_sends`, `removes_rows`), and none without patterns (`removals_eq_nil`).
-/

namespace NodeInventory

open Exchange

variable {remote : Remote}

/-- A request deletes what an interface row names, and no pattern matches the row's caption. -/
structure Removes (c : Connection) (patterns : Value) (r : Request) (row : Value) : Prop where
  named : ∃ uri, row.field "Uri" = .ok uri ∧ r = ⟨.delete, c.url uri.shown, none⟩
  unmatched : ∃ caption globs, fieldOrEmpty row "Caption" = .ok (.text caption) ∧
    patterns.items = .ok (globs.map .text) ∧ globs ≠ [] ∧ Glob.matchesAny caption globs = false

/-! ### Interfaces that stay and interfaces that go -/

theorem textFor_eq_ok {v : Value} {method s : String} (h : v.textFor method = .ok s) :
    v = .text s := by
  cases v with
  | text t =>
      obtain rfl := Except.ok.inj h
      rfl
  | _ => cases h

theorem matchesFirst_eq_false {lowered : String} : ∀ {patterns : List Value},
    Glob.matchesFirst lowered patterns = .ok false →
      ∃ globs : List String, patterns = globs.map .text ∧
        globs.any (Glob.matchesLower lowered) = false
  | [], _ => ⟨[], rfl, rfl⟩
  | pattern :: rest, h => by
      rw [Glob.matchesFirst] at h
      obtain ⟨glob, read, tested⟩ := Outcome.bind_eq_ok.mp h
      obtain rfl := textFor_eq_ok read
      split at tested
      · cases tested
      · rename_i miss
        obtain ⟨globs, rfl, none⟩ := matchesFirst_eq_false tested
        exact ⟨glob :: globs, rfl, by simp [miss, none]⟩

theorem truthy_of_keeps_eq_false {patterns : Value} {i : Interface}
    (h : keeps patterns i = .ok false) : patterns.truthy = true := by
  unfold keeps at h
  by_contra empty
  rw [if_neg empty] at h
  cases h

theorem items_ne_nil_iff {v : Value} {items : List Value} (listed : v.items = .ok items) :
    items ≠ [] ↔ v.truthy = true := by
  cases v with
  | text s =>
      obtain rfl := Except.ok.inj listed
      simp [Value.truthy]
  | list vs =>
      obtain rfl := Except.ok.inj listed
      simp [Value.truthy]
  | object fields =>
      obtain rfl := Except.ok.inj listed
      simp [Value.truthy]
  | _ => cases listed

/-- An interface goes only when its name and the patterns are texts and none of them matches. -/
theorem keeps_eq_false {patterns : Value} {i : Interface} (h : keeps patterns i = .ok false) :
    ∃ caption globs, i.displayName = .text caption ∧ patterns.items = .ok (globs.map .text) ∧
      globs ≠ [] ∧ Glob.matchesAny caption globs = false := by
  have given := truthy_of_keeps_eq_false h
  unfold keeps at h
  rw [if_pos given] at h
  unfold Glob.matchesAnyValue at h
  obtain ⟨caption, named, h⟩ := Outcome.bind_eq_ok.mp h
  obtain ⟨items, listed, first⟩ := Outcome.bind_eq_ok.mp h
  obtain ⟨globs, rfl, unmatched⟩ := matchesFirst_eq_false first
  refine ⟨caption, globs, textFor_eq_ok named, listed, ?_, unmatched⟩
  rintro rfl
  exact (items_ne_nil_iff listed).mpr given rfl

/-- The request that deletes an interface. -/
def Connection.removal (c : Connection) (i : Interface) : Request :=
  ⟨.delete, c.url i.uri.shown, none⟩

/-- A request deletes an interface, and the interface does not stay. -/
def Prunes (c : Connection) (patterns : Value) (r : Request) (i : Interface) : Prop :=
  r = c.removal i ∧ keeps patterns i = .ok false

theorem delete_sends (c : Connection) (i : Interface) :
    (c.delete i.uri.shown).Sends remote fun _ _ added => added = [c.removal i] := by
  have once : (c.request .delete i.uri.shown none).Sends remote
      fun _ _ added => added = [c.removal i] :=
    (c.request_sends .delete i.uri.shown none).mono fun _ _ _ holds => holds.1
  exact once.bind_silent fun _ => sends_pure _

/-- Pruning always ends well, and deletes, in order, interfaces that do not stay. -/
theorem prune_sends (c : Connection) (patterns node : Value) : ∀ interfaces : List Interface,
    (prune c patterns node interfaces).Sends remote fun _ outcome added =>
      (∃ pruning, outcome = .ok pruning) ∧ List.SublistForall₂ (Prunes c patterns) added interfaces
  | [] => (sends_ofOutcome _).mono fun _ _ _ ⟨done, silent⟩ => ⟨⟨_, done⟩, silent ▸ .nil⟩
  | i :: rest => by
      have more := prune_sends c patterns node rest
      unfold prune
      split
      · exact (sends_ofOutcome _).mono fun _ _ _ ⟨done, silent⟩ => ⟨⟨_, done⟩, silent ▸ .nil⟩
      · have later := more.mono fun _ _ _ holds => And.intro holds.1 (holds.2.cons_right (a := i))
        exact later.bind_pure fun _ => ⟨_, rfl⟩
      · rename_i goes
        refine (delete_sends c i).attempt.bind
          (fun _ _ outcome added => (∃ pruning, outcome = .ok pruning) ∧
            List.SublistForall₂ (Prunes c patterns) added rest) (fun deleted => ?_) ?_ ?_
        · refine more.bind_pure fun pruning => ?_
          cases deleted <;> exact ⟨_, rfl⟩
        · rintro _ _ _ ⟨_, ⟨⟩, -⟩
        · rintro _ _ _ _ removals ⟨_, -, rfl⟩ ⟨done, holds⟩
          exact ⟨done, .cons ⟨rfl, goes⟩ holds⟩

/-! ### Rows and their interfaces -/

theorem interface_ofRow_eq_ok {row : Value} {i : Interface} (h : Interface.ofRow row = .ok i) :
    fieldOrEmpty row "Caption" = .ok i.displayName ∧ row.field "Uri" = .ok i.uri := by
  unfold Interface.ofRow at h
  obtain ⟨name, caption, h⟩ := Outcome.bind_eq_ok.mp h
  obtain ⟨found, uri, h⟩ := Outcome.bind_eq_ok.mp h
  cases h
  exact ⟨caption, uri⟩

theorem interfacesOf_eq_ok {rows : Value} {interfaces : List Interface}
    (h : interfacesOf rows = .ok interfaces) : ∃ items, rows.items = .ok items ∧
      List.Forall₂ (fun row i => Interface.ofRow row = .ok i) items interfaces := by
  unfold interfacesOf at h
  obtain ⟨items, listed, each⟩ := Outcome.bind_eq_ok.mp h
  exact ⟨items, listed, forall₂_of_mapM_eq_ok each⟩

theorem rows_name {items : List Value} {interfaces : List Interface}
    (read : List.Forall₂ (fun row i => Interface.ofRow row = .ok i) items interfaces) :
    ∀ row ∈ items, ∃ uri, row.field "Uri" = .ok uri := by
  have named : List.Forall₂ (fun row i => (∃ uri, row.field "Uri" = .ok uri) ∧
      Interface.ofRow row = .ok i) items interfaces := by
    refine read.imp fun row i h => ?_
    exact ⟨⟨i.uri, (interface_ofRow_eq_ok h).2⟩, h⟩
  exact ((List.forall₂_and_left _ _).mp named).1

theorem Prunes.removes {c : Connection} {patterns row : Value} {r : Request} {i : Interface}
    (h : Prunes c patterns r i) (read : Interface.ofRow row = .ok i) :
    Removes c patterns r row := by
  obtain ⟨caption, uri⟩ := interface_ofRow_eq_ok read
  obtain ⟨rfl, goes⟩ := h
  refine ⟨⟨i.uri, uri, rfl⟩, ?_⟩
  obtain ⟨name, globs, same, listed, some_, unmatched⟩ := keeps_eq_false goes
  exact ⟨name, globs, by rw [caption, same], listed, some_, unmatched⟩

/-- What deletes interfaces in order deletes their rows in order. -/
theorem removes_rows {c : Connection} {patterns : Value} {items : List Value}
    {interfaces : List Interface}
    (read : List.Forall₂ (fun row i => Interface.ofRow row = .ok i) items interfaces) :
    ∀ {removals : List Request}, List.SublistForall₂ (Prunes c patterns) removals interfaces →
      List.SublistForall₂ (Removes c patterns) removals items := by
  induction read with
  | nil =>
      intro removals h
      cases h
      exact .nil
  | cons first _ ih =>
      intro removals h
      cases h with
      | nil => exact .nil
      | cons goes later => exact .cons (goes.removes first) (ih later)
      | cons_right later => exact .cons_right (ih later)

theorem Removes.given {c : Connection} {patterns row : Value} {r : Request}
    (h : Removes c patterns r row) : patterns.truthy = true := by
  obtain ⟨-, globs, -, listed, some_, -⟩ := h.unmatched
  exact (items_ne_nil_iff listed).mp (by simpa using some_)

theorem removals_eq_nil {c : Connection} {patterns : Value} {removals : List Request}
    {items : List Value} (h : List.SublistForall₂ (Removes c patterns) removals items)
    (none_ : patterns.truthy = false) : removals = [] := by
  induction h with
  | nil => rfl
  | cons goes _ _ => exact absurd goes.given (by simp [none_])
  | cons_right _ ih => exact ih

end NodeInventory
