import NodeInventory.Glob.CharSet

/-!
# What brackets hold

The text between brackets is read from left to right: a character, a hyphen and another character
make a range, and every other character stands for itself (`itemsOf`).  An exclamation mark in
front negates.  So does one that comes first only because reversed ranges stand before it, and if a
range begins with this one, then the hyphen and the end of the range stand for themselves
(`BracketsHold`).  Cutting the text at its hyphens and joining the pieces around reversed ranges
leads to a set that holds just these characters: `holds_ofText`.
-/

namespace NodeInventory

/-- A part of the text between brackets: a character, or all characters from one to another. -/
inductive SetItem where
  | char (c : Char)
  | range (first last : Char)
  deriving DecidableEq, Repr

namespace SetItem

/-- An item holds a character. -/
def Holds : SetItem → Char → Prop
  | char c', c => c = c'
  | range first last, c => first ≤ c ∧ c ≤ last

/-- Whether a range has its ends reversed, so that it holds nothing. -/
def reversed : SetItem → Bool
  | char _ => false
  | range first last => decide (last < first)

/-- One of some items holds a character. -/
def AnyHolds (items : List SetItem) (c : Char) : Prop := ∃ item ∈ items, item.Holds c

end SetItem

open SetItem

/-- The items of a text. -/
def itemsOf : List Char → List SetItem
  | first :: '-' :: last :: rest => .range first last :: itemsOf rest
  | c :: rest => .char c :: itemsOf rest
  | [] => []

/-- Items hold a character, an exclamation mark in front of them being read as a negation. -/
def MarkedHold : List SetItem → Char → Prop
  | .char '!' :: items, c => ¬AnyHolds items c
  | .range '!' last :: items, c => ¬AnyHolds (.char '-' :: .char last :: items) c
  | items, c => AnyHolds items c

/-- Brackets around a text hold a character. -/
def BracketsHold : List Char → Char → Prop
  | '!' :: cs, c => ¬AnyHolds (itemsOf cs) c
  | cs, c => MarkedHold ((itemsOf cs).dropWhile reversed) c

namespace CharSet

/-! ### The pieces of a text -/

/-- The items' characters up to the hyphen of their first range. -/
def firstPiece : List SetItem → List Char
  | [] => []
  | .char c :: rest => c :: firstPiece rest
  | .range first _ :: _ => [first]

/-- The items' characters between the hyphens of their ranges, and behind the last one. -/
def laterPieces : List SetItem → List (List Char)
  | [] => []
  | .char _ :: rest => laterPieces rest
  | .range _ last :: rest => (last :: firstPiece rest) :: laterPieces rest

/-- The items' characters, cut at the hyphens of their ranges. -/
def piecesOf (items : List SetItem) : List (List Char) := firstPiece items :: laterPieces items

theorem pieces_eq (keep : Nat) (cs : List Char) :
    pieces keep cs =
      match cutRange keep cs with
      | none => [cs]
      | some (before, rest) => before :: pieces 2 rest := by
  rw [pieces]
  split <;> rename_i cut <;> rw [cut]

theorem pieces_cons (keep : Nat) (c : Char) (cs : List Char) :
    pieces (keep + 1) (c :: cs) = (pieces keep cs).modifyHead (c :: ·) := by
  have cut : cutRange (keep + 1) (c :: cs) =
      (cutRange keep cs).map fun (before, rest) => (c :: before, rest) := by
    unfold cutRange
    simp only [List.drop_succ_cons, List.take_succ_cons]
    split <;> rfl
  rw [pieces_eq, pieces_eq keep, cut]
  cases cutRange keep cs with
  | none => rfl
  | some parts => rfl

theorem pieces_hyphen (cs : List Char) : pieces 0 ('-' :: cs) = [] :: pieces 2 cs := by
  rw [pieces_eq]
  rfl

theorem pieces_other {cs : List Char} (start : cs.head? ≠ some '-') : pieces 0 cs = pieces 1 cs := by
  have cut : cutRange 0 cs = cutRange 1 cs := by
    cases cs with
    | nil => rfl
    | cons c cs =>
        have other : (c != '-') = true := by simpa using start
        simp [cutRange, other]
  rw [pieces_eq, pieces_eq 1, cut]

theorem pieces_nil (keep : Nat) : pieces keep [] = [[]] := by
  rw [pieces_eq]
  simp [cutRange]

theorem pieces_ne_nil (keep : Nat) (cs : List Char) : pieces keep cs ≠ [] := by
  rw [pieces_eq]
  split <;> exact List.cons_ne_nil _ _

theorem closeLast_modifyHead (c : Char) (ps : List (List Char)) :
    closeLast (ps.modifyHead (c :: ·)) = (closeLast ps).modifyHead (c :: ·) := by
  match ps with
  | [] => rfl
  | [_] => rfl
  | [_, []] => rfl
  | _ :: [] :: _ :: _ => rfl
  | _ :: (_ :: _) :: _ => rfl

/-- Cutting a text at its hyphens cuts it at those of its ranges. -/
theorem closeLast_pieces (cs : List Char) : closeLast (pieces 1 cs) = piecesOf (itemsOf cs) := by
  fun_induction itemsOf cs with
  | case1 first last rest ih =>
      obtain ⟨piece, more, shape⟩ := List.exists_cons_of_ne_nil (pieces_ne_nil 1 rest)
      have later : closeLast ((last :: piece) :: more) =
          (last :: firstPiece (itemsOf rest)) :: laterPieces (itemsOf rest) := by
        show closeLast ((piece :: more).modifyHead (last :: ·)) = _
        rw [closeLast_modifyHead, ← shape, ih]
        rfl
      rw [pieces_cons, pieces_hyphen, pieces_cons, shape]
      exact congrArg ([first] :: ·) later
  | case2 c rest single ih =>
      rw [pieces_cons]
      by_cases start : rest.head? = some '-'
      case neg =>
        rw [pieces_other start, closeLast_modifyHead, ih]
        rfl
      -- nothing follows the hyphen, which closes no range then
      obtain ⟨tail, rfl⟩ := List.head?_eq_some_iff.mp start
      cases tail with
      | nil =>
          rw [pieces_hyphen, pieces_nil]
          rfl
      | cons last rest => exact (single last rest rfl).elim
  | case3 =>
      rw [pieces_nil]
      rfl

/-! ### Reversed ranges -/

theorem firstPiece_eq_nil {items : List SetItem} (h : firstPiece items = []) : items = [] := by
  cases items with
  | nil => rfl
  | cons item rest => cases item <;> cases h

theorem dropReversed_lead (c : Char) (items : List SetItem) :
    dropReversed ((c :: firstPiece items) :: laterPieces items) =
      (dropReversed (piecesOf items)).modifyHead (c :: ·) := by
  unfold piecesOf
  cases first : firstPiece items with
  | nil =>
      obtain rfl := firstPiece_eq_nil first
      rfl
  | cons d piece =>
      unfold dropReversed
      cases dropReversed (laterPieces items) with
      | nil => rfl
      | cons next more =>
          have same : reversed (c :: d :: piece) next = reversed (d :: piece) next := by
            unfold reversed
            rw [List.getLast?_cons_cons]
          dsimp only
          rw [same]
          cases reversed (d :: piece) next <;> rfl

/-- Joining the pieces around reversed ranges leaves these ranges out. -/
theorem dropReversed_pieces (items : List SetItem) :
    dropReversed (piecesOf items) = piecesOf (items.filter fun item => !item.reversed) := by
  induction items with
  | nil => rfl
  | cons item items ih =>
      cases item with
      | char c =>
          show dropReversed ((c :: firstPiece items) :: laterPieces items) = _
          rw [dropReversed_lead, ih]
          rfl
      | range first last =>
          have later := dropReversed_lead last items
          rw [ih] at later
          have ends (piece : List Char) :
              CharSet.reversed [first] (last :: piece) = (SetItem.range first last).reversed := rfl
          show dropReversed ([first] :: (last :: firstPiece items) :: laterPieces items) = _
          unfold dropReversed
          rw [later, List.filter_cons]
          show (if CharSet.reversed [first] (last :: _) = true then _ else _) = _
          rw [ends]
          cases (SetItem.range first last).reversed <;> rfl

/-! ### Ranges -/

/-- A character is in a range. -/
def Spans (c : Char) (range : Char × Char) : Prop := range.1 ≤ c ∧ c ≤ range.2

theorem holds_iff {s : CharSet} {c : Char} :
    s.holds c = true ↔ ((∃ range ∈ s.ranges, Spans c range) ↔ s.negated = false) := by
  unfold holds Spans
  cases s.negated <;> simp

theorem rangesOf_lead (c : Char) (items : List SetItem) :
    rangesOf ((c :: firstPiece items) :: laterPieces items) =
      (c, c) :: rangesOf (piecesOf items) := by
  unfold piecesOf
  cases first : firstPiece items with
  | nil =>
      obtain rfl := firstPiece_eq_nil first
      rfl
  | cons d piece =>
      unfold rangesOf
      dsimp only
      rw [List.getLast?_cons_cons]
      split <;> rfl

theorem spans_self {c d : Char} : Spans c (d, d) ↔ c = d := by
  unfold Spans
  constructor
  · rintro ⟨least, most⟩
    exact Char.le_antisymm most least
  · rintro rfl
    exact ⟨Char.le_refl c, Char.le_refl c⟩

theorem anyHolds_cons {c : Char} {item : SetItem} {items : List SetItem} :
    AnyHolds (item :: items) c ↔ item.Holds c ∨ AnyHolds items c := by
  simp [AnyHolds]

theorem spanned_iff {c : Char} {items : List SetItem} (h : ∀ item ∈ items, item.reversed = false) :
    (∃ range ∈ rangesOf (piecesOf items), Spans c range) ↔ AnyHolds items c := by
  induction items with
  | nil => simp [piecesOf, firstPiece, laterPieces, rangesOf, AnyHolds]
  | cons item items ih =>
      obtain ⟨proper, others⟩ := List.forall_mem_cons.mp h
      cases item with
      | char d =>
          show (∃ range ∈ rangesOf ((d :: firstPiece items) :: laterPieces items), _) ↔ _
          rw [rangesOf_lead, anyHolds_cons, ← ih others]
          simp [spans_self, SetItem.Holds]
      | range first last =>
          have ordered : first ≤ last := by simpa [SetItem.reversed] using proper
          show (∃ range ∈ (first, first) :: (first, last) ::
            rangesOf ((last :: firstPiece items) :: laterPieces items), _) ↔ _
          rw [rangesOf_lead, anyHolds_cons, ← ih others]
          -- the ends of the range are listed on their own besides
          have ends : Spans c (first, first) ∨ Spans c (first, last) ∨ Spans c (last, last) ↔
              Spans c (first, last) := by
            rw [spans_self, spans_self]
            constructor
            · rintro (rfl | inside | rfl)
              · exact ⟨Char.le_refl c, ordered⟩
              · exact inside
              · exact ⟨ordered, Char.le_refl c⟩
            · exact fun inside => .inr (.inl inside)
          have inside : (SetItem.range first last).Holds c ↔ Spans c (first, last) := Iff.rfl
          rw [inside, ← ends]
          simp [or_assoc]

theorem anyHolds_filter {c : Char} {items : List SetItem} :
    AnyHolds (items.filter fun item => !item.reversed) c ↔ AnyHolds items c := by
  have proper {item : SetItem} (holds : item.Holds c) : item.reversed = false := by
    cases item with
    | char d => rfl
    | range first last =>
        have ordered : first ≤ last := Char.le_trans holds.1 holds.2
        simpa [SetItem.reversed] using ordered
  unfold AnyHolds
  constructor
  · rintro ⟨item, member, holds⟩
    exact ⟨item, (List.mem_filter.mp member).1, holds⟩
  · rintro ⟨item, member, holds⟩
    exact ⟨item, List.mem_filter.mpr ⟨member, by rw [proper holds]; rfl⟩, holds⟩

/-! ### Negation -/

theorem holds_piecesOf {negated : Bool} {c : Char} {items : List SetItem}
    (h : ∀ item ∈ items, item.reversed = false) :
    (CharSet.mk negated (rangesOf (piecesOf items))).holds c = true ↔
      (AnyHolds items c ↔ negated = false) := by
  rw [holds_iff, spanned_iff h]

theorem ofPieces_marked (items : List SetItem) :
    ofPieces (('!' :: firstPiece items) :: laterPieces items) =
      ⟨true, rangesOf (piecesOf items)⟩ := by
  unfold piecesOf
  cases first : firstPiece items with
  | nil =>
      obtain rfl := firstPiece_eq_nil first
      rfl
  | cons d piece => rfl

theorem ofPieces_unmarked {c : Char} (other : c ≠ '!') (piece : List Char)
    (rest : List (List Char)) :
    ofPieces ((c :: piece) :: rest) = ⟨false, rangesOf ((c :: piece) :: rest)⟩ := by
  unfold ofPieces
  split
  case h_1 marked =>
    cases marked
    exact (other rfl).elim
  case h_2 marked =>
    cases marked
    exact (other rfl).elim
  case h_3 => rfl

/-- The set of the pieces of some items holds what these do, an exclamation mark in front of them
being read as a negation. -/
theorem holds_ofPieces {c : Char} {items : List SetItem}
    (h : ∀ item ∈ items, item.reversed = false) :
    (ofPieces (piecesOf items)).holds c = true ↔ MarkedHold items c := by
  cases items with
  | nil =>
      have none_ : ofPieces (piecesOf []) = ⟨false, rangesOf (piecesOf [])⟩ := rfl
      rw [none_, holds_piecesOf h]
      simp [MarkedHold]
  | cons item items =>
      obtain ⟨-, others⟩ := List.forall_mem_cons.mp h
      cases item with
      | char d =>
          by_cases mark : d = '!'
          · subst mark
            show (ofPieces (('!' :: firstPiece items) :: laterPieces items)).holds c = true ↔ _
            rw [ofPieces_marked, holds_piecesOf others]
            simp [MarkedHold]
          · have plain_ : ofPieces (piecesOf (.char d :: items)) =
                ⟨false, rangesOf (piecesOf (.char d :: items))⟩ := ofPieces_unmarked mark _ _
            rw [plain_, holds_piecesOf h]
            simp [MarkedHold, mark]
      | range first last =>
          by_cases mark : first = '!'
          · subst mark
            have single : ∀ item ∈ SetItem.char '-' :: .char last :: items,
                item.reversed = false := by simpa [SetItem.reversed] using others
            have cut : ofPieces (piecesOf (.range '!' last :: items)) =
                ⟨true, rangesOf (piecesOf (.char '-' :: .char last :: items))⟩ := by
              have lead : rangesOf (piecesOf (.char '-' :: .char last :: items)) =
                  ('-', '-') :: rangesOf (piecesOf (.char last :: items)) := rangesOf_lead ..
              rw [lead]
              rfl
            rw [cut, holds_piecesOf single]
            simp [MarkedHold]
          · have plain_ : ofPieces (piecesOf (.range first last :: items)) =
                ⟨false, rangesOf (piecesOf (.range first last :: items))⟩ :=
              ofPieces_unmarked mark _ _
            rw [plain_, holds_piecesOf h]
            simp [MarkedHold, mark]

theorem markedHold_congr {c : Char} {items items' : List SetItem}
    (same : AnyHolds items c ↔ AnyHolds items' c) (item : SetItem) :
    MarkedHold (item :: items) c ↔ MarkedHold (item :: items') c := by
  cases item with
  | char d => by_cases mark : d = '!' <;> simp [MarkedHold, mark, anyHolds_cons, same]
  | range first last =>
      by_cases mark : first = '!' <;> simp [MarkedHold, mark, anyHolds_cons, same]

/-- Of the reversed ranges only those in front make a difference. -/
theorem markedHold_filter {c : Char} {items : List SetItem} :
    MarkedHold (items.filter fun item => !item.reversed) c ↔
      MarkedHold (items.dropWhile SetItem.reversed) c := by
  induction items with
  | nil => rfl
  | cons item items ih =>
      rw [List.filter_cons, List.dropWhile_cons]
      cases item.reversed with
      | true => exact ih
      | false => exact markedHold_congr anyHolds_filter item

/-- The set of a text holds what brackets around the text do. -/
theorem holds_ofText (cs : List Char) (c : Char) :
    (ofText cs).holds c = true ↔ BracketsHold cs c := by
  have proper (items : List SetItem) :
      ∀ item ∈ items.filter (fun item => !item.reversed), item.reversed = false := by
    intro item member
    simpa using (List.mem_filter.mp member).2
  by_cases mark : cs.head? = some '!'
  · obtain ⟨rest, rfl⟩ := List.head?_eq_some_iff.mp mark
    have cut : ofText ('!' :: rest) =
        ⟨true, rangesOf (piecesOf ((itemsOf rest).filter fun item => !item.reversed))⟩ := by
      show ofPieces (dropReversed (closeLast (pieces 2 ('!' :: rest)))) = _
      rw [pieces_cons, closeLast_modifyHead, closeLast_pieces]
      show ofPieces (dropReversed (('!' :: firstPiece _) :: laterPieces _)) = _
      rw [dropReversed_lead, dropReversed_pieces]
      exact ofPieces_marked _
    rw [cut, holds_piecesOf (proper _), anyHolds_filter]
    simp [BracketsHold]
  · have cut : ofText cs =
        ofPieces (piecesOf ((itemsOf cs).filter fun item => !item.reversed)) := by
      unfold ofText
      rw [if_neg mark]
      show ofPieces (dropReversed (closeLast (pieces 1 cs))) = _
      rw [closeLast_pieces, dropReversed_pieces]
    rw [cut, holds_ofPieces (proper _), markedHold_filter]
    unfold BracketsHold
    split
    · exact (mark rfl).elim
    · rfl

end CharSet

end NodeInventory
