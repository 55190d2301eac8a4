import NodeInventory.Proofs.Discovery.Success
import NodeInventory.Proofs.Glob.Language
import NodeInventory.Proofs.Text.Marks

/-!
# Interfaces listed by their own names

A name among the patterns is read as a pattern itself, so it is sure to be matched only if it
stands for itself among whatever else it stands for.  Brackets around a text may keep it from that
(`Bracketed`): they stand for one character, where the name has three or more.  A name without
them stands for itself, and a name with them does not unless an asterisk makes up for it.  So an
interface that is listed by its own name can be deleted, `listed_caption_deleted`, but only if its
name does not stand for itself, `listed_caption_spared`.
-/

namespace NodeInventory

open Exchange

namespace Glob

/-- A text has brackets around more than an exclamation mark. -/
def Bracketed (cs : List Char) : Prop :=
  ∃ before inside after, cs = before ++ '[' :: (inside ++ ']' :: after) ∧
    inside ≠ [] ∧ inside ≠ ['!']

/-- A name belongs to the language that it stands for as a pattern. -/
def StandsForItself (name : String) : Prop :=
  Matches BracketsHold (Text.lower name).toList (Text.lower name).toList

/-! ### Brackets -/

theorem Bracketed.cons {cs : List Char} (h : Bracketed cs) (c : Char) : Bracketed (c :: cs) := by
  obtain ⟨before, inside, after, rfl, some_, more⟩ := h
  exact ⟨c :: before, inside, after, rfl, some_, more⟩

theorem not_bracketed {cs : List Char} (h : '[' ∉ cs) : ¬Bracketed cs := by
  rintro ⟨before, inside, after, rfl, -⟩
  exact h (by simp)

theorem Encloses.bracketed {cs inside after : List Char} (h : Encloses cs inside after) :
    Bracketed ('[' :: cs) := by
  obtain ⟨rfl, c, body, ⟨other, rfl⟩ | rfl, -⟩ := h
  · exact ⟨[], c :: body, after, rfl, List.cons_ne_nil _ _, by simp [other]⟩
  · exact ⟨[], '!' :: c :: body, after, rfl, List.cons_ne_nil _ _, by simp⟩

theorem exists_encloses {inside : List Char} (some_ : inside ≠ []) (more : inside ≠ ['!'])
    (after : List Char) : ∃ inside' after', Encloses (inside ++ ']' :: after) inside' after' := by
  have first (body : List Char) : ∃ body' after',
      body ++ ']' :: after = body' ++ ']' :: after' ∧ ']' ∉ body' :=
    List.eq_append_cons_of_mem (by simp)
  cases inside with
  | nil => exact (some_ rfl).elim
  | cons c body =>
      by_cases mark : c = '!'
      · subst mark
        cases body with
        | nil => exact (more rfl).elim
        | cons d body =>
            obtain ⟨body', after', same, none_⟩ := first body
            exact ⟨'!' :: d :: body', after', congrArg ('!' :: d :: ·) same, d, body', .inr rfl, none_⟩
      · obtain ⟨body', after', same, none_⟩ := first body
        exact ⟨c :: body', after', congrArg (c :: ·) same, c, body', .inl ⟨mark, rfl⟩, none_⟩

theorem bracketed_cons {c : Char} {cs : List Char} (h : Bracketed (c :: cs)) :
    (c = '[' ∧ ∃ inside after, Encloses cs inside after) ∨ Bracketed cs := by
  obtain ⟨before, inside, after, split_, some_, more⟩ := h
  cases before with
  | nil =>
      obtain ⟨rfl, rfl⟩ := List.cons.inj split_
      exact .inl ⟨rfl, exists_encloses some_ more after⟩
  | cons d before =>
      obtain ⟨-, rfl⟩ := List.cons.inj split_
      exact .inr ⟨before, inside, after, rfl, some_, more⟩

theorem Bracketed.of_sameMarks {cs cs' : List Char} (same : Text.SameMarks cs cs')
    (h : Bracketed cs) : Bracketed cs' := by
  obtain ⟨before, inside, after, rfl, some_, more⟩ := h
  obtain ⟨before', tail, rfl, -, same⟩ := same.cut (by decide)
  obtain ⟨inside', after', rfl, same, -⟩ := same.cut (by decide)
  refine ⟨before', inside', after', rfl, ?_, ?_⟩
  · rintro rfl
    exact some_ same.eq_nil
  · rintro rfl
    exact more (same.eq_singleton (by decide))

/-! ### Texts that match themselves -/

section itself

variable {hold : List Char → Char → Prop}

theorem matches_self {p : List Char} (h : ¬Bracketed p) : Matches hold p p := by
  induction p with
  | nil => exact .nil
  | cons c p ih =>
      have matched : Matches hold p p := ih fun later => h (later.cons c)
      by_cases star : c = '*'
      · subst star
        exact matches_run.mpr ⟨['*'], p, rfl, matched⟩
      by_cases mark : c = '?'
      · subst mark
        exact .any matched
      by_cases bracket : c = '['
      · subst bracket
        exact .bracket (fun _ _ closed => h closed.bracketed) matched
      · exact .char star mark bracket matched

/-- Without an asterisk a pattern matches nothing that is longer, and with brackets only what is
shorter. -/
theorem Matches.length_le {p cs : List Char} (h : Matches hold p cs) (plain_ : '*' ∉ p) :
    cs.length ≤ p.length ∧ (Bracketed p → cs.length < p.length) := by
  -- one character on either side makes no difference unless the one of the pattern opens brackets
  have step {p cs : List Char} (c d : Char)
      (shorter : cs.length ≤ p.length ∧ (Bracketed p → cs.length < p.length))
      (unopened : ¬(c = '[' ∧ ∃ inside after, Encloses p inside after)) :
      (d :: cs).length ≤ (c :: p).length ∧
        (Bracketed (c :: p) → (d :: cs).length < (c :: p).length) := by
    refine ⟨Nat.succ_le_succ shorter.1, fun h => Nat.succ_lt_succ (shorter.2 ?_)⟩
    exact (bracketed_cons h).resolve_left unopened
  induction h with
  | nil => exact ⟨Nat.le_refl 0, fun h => (not_bracketed List.not_mem_nil h).elim⟩
  | run => exact (plain_ (List.mem_cons_self ..)).elim
  | any _ ih =>
      have shorter := ih fun member => plain_ (List.mem_cons_of_mem _ member)
      exact step _ _ shorter fun opened => absurd opened.1 (by decide)
  | @set p inside after cs c closed _ _ ih =>
      obtain ⟨most, -⟩ := ih fun member => plain_ (by simp [closed.closed, member])
      have shorter : cs.length + 1 < p.length + 1 := by
        rw [closed.closed, List.length_append, List.length_cons]
        omega
      exact ⟨Nat.le_of_lt shorter, fun _ => shorter⟩
  | bracket unclosed _ ih =>
      have shorter := ih fun member => plain_ (List.mem_cons_of_mem _ member)
      exact step _ _ shorter fun ⟨_, _, _, closed⟩ => unclosed _ _ closed
  | char _ _ bracket _ ih =>
      have shorter := ih fun member => plain_ (List.mem_cons_of_mem _ member)
      exact step _ _ shorter fun opened => bracket opened.1

end itself

theorem standsForItself_of_not_bracketed {name : String} (h : ¬Bracketed name.toList) :
    StandsForItself name :=
  matches_self fun lowered => h (lowered.of_sameMarks (Text.lower_sameMarks name).symm)

/-- A name with brackets and without an asterisk does not. -/
theorem not_standsForItself {name : String} (plain_ : '*' ∉ name.toList)
    (h : Bracketed name.toList) : ¬StandsForItself name := by
  intro itself
  have same := Text.lower_sameMarks name
  have plain_' : '*' ∉ (Text.lower name).toList := fun member =>
    plain_ (same.symm.mem (by decide) member)
  exact Nat.lt_irrefl _ ((itself.length_le plain_').2 (h.of_sameMarks same))

/-- A name is sure to be matched where it is listed exactly if it stands for itself. -/
theorem listed_matches_iff (name : String) :
    (∀ patterns : List String, name ∈ patterns → matchesAny name patterns = true) ↔
      StandsForItself name := by
  have own : matchesLower (Text.lower name) name = true ↔ StandsForItself name :=
    matchesLower_iff _ name
  rw [← own]
  constructor
  · intro sure
    simpa [matchesAny] using sure [name] (List.mem_singleton_self name)
  · intro matched patterns member
    exact List.any_eq_true.mpr ⟨name, member, matched⟩

end Glob

/-! ### Deletions -/

section deletions

variable {c : Connection} {remote : Remote} {patterns : Value}

/-- In the course of some requests the server has listed a row for an interface of a node. -/
def Connection.HasListed (c : Connection) (remote : Remote) (sent : List Request) (row : Value) :
    Prop :=
  ∃ (earlier : List Request) (number : Int) (rows : Value) (items : List Value),
    earlier ++ [c.interfaceRequest number] <+: sent ∧
    c.queried remote earlier interfaceQuery [("nodeId", .int number)] = .ok rows ∧
    rows.items = .ok items ∧ row ∈ items

theorem Connection.HasListed.mono {sent sent' : List Request} {row : Value}
    (h : c.HasListed remote sent row) (more : sent <+: sent') : c.HasListed remote sent' row := by
  obtain ⟨earlier, number, rows, items, asked, answered, found, member⟩ := h
  exact ⟨earlier, number, rows, items, asked.trans more, answered, found, member⟩

/-- After some requests, what deletes an interface deletes that of a row that has been listed. -/
def RemovesListed (c : Connection) (remote : Remote) (patterns : Value)
    (before sent : List Request) : Prop :=
  ∀ r ∈ sent, r.method = .delete → ∃ row, c.HasListed remote (before ++ sent) row ∧
    Removes c patterns r row

theorem NoDeletion.removesListed {before sent : List Request} (h : NoDeletion sent) :
    RemovesListed c remote patterns before sent :=
  fun r member deletes => (h r member deletes).elim

theorem RemovesListed.append {before early late : List Request}
    (h : RemovesListed c remote patterns before early)
    (h' : RemovesListed c remote patterns (before ++ early) late) :
    RemovesListed c remote patterns before (early ++ late) := by
  intro r member deletes
  rcases List.mem_append.mp member with first | second
  · obtain ⟨row, listed, removes⟩ := h r first deletes
    refine ⟨row, listed.mono ?_, removes⟩
    exact (List.prefix_append_right_inj _).mpr (List.prefix_append ..)
  · obtain ⟨row, listed, removes⟩ := h' r second deletes
    exact ⟨row, by rwa [List.append_assoc] at listed, removes⟩

theorem exists_removes {removals : List Request} {items : List Value}
    (h : List.SublistForall₂ (Removes c patterns) removals items) {r : Request}
    (member : r ∈ removals) : ∃ row ∈ items, Removes c patterns r row := by
  induction h with
  | nil => cases member
  | cons goes _ ih =>
      rcases List.mem_cons.mp member with rfl | later
      · exact ⟨_, List.mem_cons_self .., goes⟩
      · obtain ⟨row, inside, removes⟩ := ih later
        exact ⟨row, List.mem_cons_of_mem _ inside, removes⟩
  | cons_right _ ih =>
      obtain ⟨row, inside, removes⟩ := ih member
      exact ⟨row, List.mem_cons_of_mem _ inside, removes⟩

theorem NodePass.removesListed {before sent : List Request} {node : Entity}
    (h : NodePass c remote patterns before node sent) :
    RemovesListed c remote patterns before sent := by
  cases h with
  | sparing quiet => exact quiet.removesListed
  | @pruning number lead removals rows items _ quiet answered found _ goes =>
      refine quiet.removesListed.append fun r member deletes => ?_
      rcases List.mem_cons.mp member with rfl | removal
      · exact absurd deletes (noDeletion_query c _ _ _ (List.mem_singleton_self _))
      · obtain ⟨row, inside, removes⟩ := exists_removes goes removal
        refine ⟨row, ⟨before ++ lead, number, rows, items, ?_, answered, found, inside⟩, removes⟩
        exact (List.prefix_append_right_inj _).mpr ⟨removals, rfl⟩

theorem Passes.removesListed {before : List Request} {nodes : List Entity}
    {passes : List (List Request)} (h : Passes c remote patterns before nodes passes) :
    RemovesListed c remote patterns before passes.flatten := by
  induction h with
  | done => exact noDeletion_nil.removesListed
  | pass first _ ih => exact first.removesListed.append ih

theorem Licensed.removesListed {log : Option DiscoveryLog} {before sent : List Request}
    (h : Licensed c remote patterns log before sent) :
    RemovesListed c remote patterns before sent := by
  obtain quiet | ⟨l, entities, passes, -, -, -, -, rfl, more⟩ := h
  · exact quiet.removesListed
  · have asked : NoDeletion [c.itemRequest l.batch] := noDeletion_query c _ _
    exact asked.removesListed.append more.removesListed

end deletions

/-- A name is sure to be matched where it is listed exactly if it stands for itself, which it does
without brackets, and does not with brackets and without an asterisk.  Reconciling deletes an
interface that is listed by its own name only if the name does not stand for itself. -/
theorem listed_caption_spared (name : String) (c : Connection) (remote : Remote)
    (options : ReconcileOptions) (trace : Trace) :
    ((∀ patterns : List String, name ∈ patterns → Glob.matchesAny name patterns = true) ↔
      Glob.StandsForItself name) ∧
    (¬Glob.Bracketed name.toList → Glob.StandsForItself name) ∧
    ('*' ∉ name.toList → Glob.Bracketed name.toList → ¬Glob.StandsForItself name) ∧
    ∀ (job : Value) (status : Status) (log : Option DiscoveryLog), ∃ sent : List Request,
      (reconcile c job status log options remote trace).2.sent = trace.sent ++ sent ∧
      ∀ r ∈ sent, r.method = .delete → ∃ (row uri : Value) (caption : String),
        c.HasListed remote (trace.sent ++ sent) row ∧
        row.field "Uri" = .ok uri ∧ r = ⟨.delete, c.url uri.shown, none⟩ ∧
        fieldOrEmpty row "Caption" = .ok (.text caption) ∧
        ∀ items, options.patterns.items = .ok items → .text caption ∈ items →
          ¬Glob.StandsForItself caption := by
  refine ⟨Glob.listed_matches_iff name, Glob.standsForItself_of_not_bracketed,
    Glob.not_standsForItself, fun job status log => ?_⟩
  obtain ⟨sent, adds, licensed⟩ := reconcile_sends c job status log options trace
  refine ⟨sent, adds, fun r member deletes => ?_⟩
  obtain ⟨row, listed, ⟨uri, named, same⟩, caption, globs, called, given, -, unmatched⟩ :=
    licensed.removesListed r member deletes
  refine ⟨row, uri, caption, listed, named, same, called, ?_⟩
  intro items found inside itself
  obtain rfl := Except.ok.inj (given.symm.trans found)
  obtain ⟨glob, member, text⟩ := List.mem_map.mp inside
  obtain rfl := Value.text.inj text
  have matched := (Glob.listed_matches_iff glob).mpr itself globs member
  exact absurd (unmatched.symm.trans matched) Bool.false_ne_true

/-- A caption with brackets. -/
def bracketedCaption : String := "Intel[R] PRO/1000 MT"

/-- The answers about a node that has one interface, of that caption. -/
def bracketedAnswers : List String :=
  ["\x7b\"results\": [\x7b\"EntityType\": \"Orion.Nodes\", \"NetObjectID\": \"N:5\"\x7d]\x7d",
   "\x7b\x7d",
   "\x7b\"results\": [\x7b\"Caption\": \"Intel[R] PRO/1000 MT\", \"Uri\": \"eth0\"\x7d]\x7d",
   "null"]

/-- The reconciliation of that node, with the caption as the only pattern. -/
def bracketedRun : Outcome Report × Trace :=
  reconcile sampleConnection (.text "42") .finished (some { result := .finished })
    { patterns := .texts [bracketedCaption] } (.answering bracketedAnswers) {}

theorem bracketedRun_last : bracketedRun.2.sent.getLast?.map (fun r => (r.method, r.url)) =
    some (.delete, sampleConnection.url "eth0") := by
  decide +kernel

/-- An interface that is listed by its own name is deleted all the same. -/
theorem listed_caption_deleted :
    bracketedCaption ∈ [bracketedCaption] ∧
      Glob.matchesAny bracketedCaption [bracketedCaption] = false ∧
      bracketedRun.2.sent.getLast?.map (fun r => (r.method, r.url)) =
        some (.delete, sampleConnection.url "eth0") :=
  ⟨List.mem_singleton_self _, by decide +kernel, bracketedRun_last⟩

/-- A name without brackets is matched where it is listed, one with brackets does not stand for
itself, and what deletes the interface so named deletes the interface of a row that was listed. -/
theorem listed_caption_spared_bracketed :
    ("Gi0/1" ∈ ["Vlan*", "Gi0/1"] ∧ Glob.matchesAny "Gi0/1" ["Vlan*", "Gi0/1"] = true) ∧
    ('*' ∉ bracketedCaption.toList ∧ Glob.Bracketed bracketedCaption.toList ∧
      ¬Glob.StandsForItself bracketedCaption) ∧
    ∃ r ∈ bracketedRun.2.sent, r.method = .delete ∧ ∃ (row uri : Value) (caption : String),
      sampleConnection.HasListed (.answering bracketedAnswers) bracketedRun.2.sent row ∧
      row.field "Uri" = .ok uri ∧ r = ⟨.delete, sampleConnection.url uri.shown, none⟩ ∧
      fieldOrEmpty row "Caption" = .ok (.text caption) ∧
      (.text caption ∈ [Value.text bracketedCaption] → ¬Glob.StandsForItself caption) := by
  obtain ⟨listed, sure, -⟩ := listed_caption_spared "Gi0/1" sampleConnection
    (.answering bracketedAnswers) { patterns := .texts [bracketedCaption] } {}
  obtain ⟨-, -, unsure, runs⟩ := listed_caption_spared bracketedCaption sampleConnection
    (.answering bracketedAnswers) { patterns := .texts [bracketedCaption] } {}
  have plain_ : '*' ∉ bracketedCaption.toList := by decide
  have bracketed : Glob.Bracketed bracketedCaption.toList :=
    ⟨"Intel".toList, ['R'], " PRO/1000 MT".toList, by decide, by decide, by decide⟩
  have member : "Gi0/1" ∈ ["Vlan*", "Gi0/1"] := by decide
  have matched := listed.mpr (sure (Glob.not_bracketed (by decide))) _ member
  refine ⟨⟨member, matched⟩, ⟨plain_, bracketed, unsure plain_ bracketed⟩, ?_⟩
  obtain ⟨r, last, same⟩ := Option.map_eq_some_iff.mp bracketedRun_last
  have inside : r ∈ bracketedRun.2.sent := List.mem_of_getLast? last
  have deletes : r.method = .delete := congrArg Prod.fst same
  obtain ⟨sent, adds, each⟩ := runs (.text "42") .finished (some { result := .finished })
  have whole : bracketedRun.2.sent = sent := adds
  obtain ⟨row, uri, caption, found, named, same, called, spared⟩ :=
    each r (whole ▸ inside) deletes
  exact ⟨r, inside, deletes, row, uri, caption, whole ▸ found, named, same, called, spared _ rfl⟩

end NodeInventory
