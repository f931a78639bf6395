import Folio.Text.Scan

/-!
# How a scan falls into parts

A scan reads a text from left to right, so what it makes of a text is known once the text is cut
at the right places. Two kinds of part are enough for that. A part is *inert* if nothing is
recognised at any of its characters, whatever text follows it. A part *reads as* a value if it is
taken as one item, again whatever follows. Scanning distributes over both.

The last section keeps the source of every item beside its value. It is what relates the pieces
of a text to the text itself.
-/

namespace Folio

namespace Piece

variable {α β : Type}

/-- A piece with another value in place of its item. -/
def map (change : α → β) : Piece α → Piece β
  | .plain c => .plain c
  | .item value => .item (change value)

@[simp]
theorem map_plain (change : α → β) (c : Char) :
    (Piece.plain c : Piece α).map change = .plain c :=
  rfl

@[simp]
theorem map_item (change : α → β) (value : α) :
    (Piece.item value).map change = .item (change value) :=
  rfl

@[simp]
theorem item?_plain (c : Char) : (Piece.plain c : Piece α).item? = none :=
  rfl

@[simp]
theorem item?_item (value : α) : (Piece.item value).item? = some value :=
  rfl

/-- The items among the pieces of a text, in order. -/
def items (pieces : List (Piece α)) : List α :=
  pieces.filterMap item?

@[simp]
theorem items_nil : items ([] : List (Piece α)) = [] :=
  rfl

@[simp]
theorem items_plain_cons (c : Char) (pieces : List (Piece α)) :
    items (.plain c :: pieces) = items pieces :=
  rfl

@[simp]
theorem items_item_cons (value : α) (pieces : List (Piece α)) :
    items (.item value :: pieces) = value :: items pieces :=
  rfl

@[simp]
theorem items_append (first second : List (Piece α)) :
    items (first ++ second) = items first ++ items second :=
  List.filterMap_append

@[simp]
theorem items_map_plain (text : Text) : items (text.map (Piece.plain (α := α))) = [] := by
  induction text with
  | nil => rfl
  | cons c text inductionHypothesis => simpa using inductionHypothesis

theorem items_map (change : α → β) (pieces : List (Piece α)) :
    items (pieces.map (map change)) = (items pieces).map change := by
  induction pieces with
  | nil => rfl
  | cons piece pieces inductionHypothesis =>
    cases piece with
    | plain c => simpa using inductionHypothesis
    | item value => simp [inductionHypothesis]

theorem map_map_map {γ : Type} (first : α → β) (second : β → γ) (pieces : List (Piece α)) :
    (pieces.map (map first)).map (map second) = pieces.map (map (second ∘ first)) := by
  rw [List.map_map]
  apply List.map_congr_left
  rintro (c | value) _ <;> rfl

/-- Pieces with other values are spelled by way of these values. -/
theorem flatMap_expand_map_map (change : α → β) (spell : β → Text) (pieces : List (Piece α)) :
    (pieces.map (map change)).flatMap (expand spell) =
      pieces.flatMap (expand (spell ∘ change)) := by
  rw [List.flatMap_map]
  congr 1
  funext piece
  cases piece <;> rfl

/-- Plain characters are spelled as they stand. -/
@[simp]
theorem flatMap_expand_map_plain (spell : α → Text) (text : Text) :
    (text.map Piece.plain).flatMap (expand spell) = text := by
  induction text with
  | nil => rfl
  | cons c text inductionHypothesis => simp [inductionHypothesis]

section Row

/-! ### A row of items, each with plain text after it -/

variable {ι : Type} (value : ι → α) (gap : ι → Text)

theorem items_row (row : List ι) :
    items (row.flatMap fun entry => .item (value entry) :: (gap entry).map Piece.plain) =
      row.map value := by
  induction row with
  | nil => rfl
  | cons entry row inductionHypothesis => simp [inductionHypothesis]

theorem expand_row (spell : α → Text) (row : List ι) :
    (row.flatMap fun entry => .item (value entry) :: (gap entry).map Piece.plain).flatMap
      (expand spell) = row.flatMap fun entry => spell (value entry) ++ gap entry := by
  induction row with
  | nil => rfl
  | cons entry row inductionHypothesis => simp [inductionHypothesis]

end Row

end Piece

namespace Text

variable {α β : Type}

/-! ## Inert parts -/

/-- Nothing is recognised at any character of a text, whatever follows the text. -/
def Inert (recognise : Text → Option β) : Text → Prop
  | [] => True
  | c :: text => (∀ rest, recognise (c :: (text ++ rest)) = none) ∧ Inert recognise text

theorem inert_cons {recognise : Text → Option β} {c : Char} {text : Text} :
    Inert recognise (c :: text) ↔
      (∀ rest, recognise (c :: (text ++ rest)) = none) ∧ Inert recognise text :=
  Iff.rfl

theorem Inert.append {recognise : Text → Option β} {first second : Text}
    (firstInert : Inert recognise first) (secondInert : Inert recognise second) :
    Inert recognise (first ++ second) := by
  induction first with
  | nil => exact secondInert
  | cons c first inductionHypothesis =>
    obtain ⟨missed, firstInert⟩ := inert_cons.1 firstInert
    rw [List.cons_append]
    refine inert_cons.2 ⟨?_, inductionHypothesis firstInert⟩
    intro rest
    rw [List.append_assoc]
    exact missed (second ++ rest)

/-- A text is inert for a recogniser that asks for two characters in a row if the text neither
holds the two nor ends with the first of them. -/
theorem inert_of_pair {recognise : Text → Option β} {first second : Char}
    (starts : ∀ {text value}, recognise text = some value →
      ∃ rest, text = first :: second :: rest)
    {text : Text} (absent : hasPart [first, second] text = false)
    (noEnd : text.getLast? ≠ some first) : Inert recognise text := by
  induction text with
  | nil => trivial
  | cons c text inductionHypothesis =>
    refine inert_cons.2 ⟨?_, ?_⟩
    · intro rest
      rw [Option.eq_none_iff_forall_ne_some]
      intro value found
      obtain ⟨after, same⟩ := starts found
      cases text with
      | nil =>
        simp only [List.cons.injEq] at same
        exact noEnd (by simp [same.1])
      | cons d text =>
        simp only [List.cons_append, List.cons.injEq] at same
        obtain ⟨rfl, rfl, -⟩ := same
        simp [hasPart, cutAt?] at absent
    · apply inductionHypothesis
      · unfold hasPart cutAt? at absent
        split at absent
        · simp at absent
        · simpa [hasPart] using absent
      · cases text with
        | nil => simp
        | cons d text => simpa [List.getLast?_cons_cons] using noEnd

/-- A text is read as plain characters if nothing is recognised at any of them. -/
theorem pieces_append_of_missed {recognise : Recogniser α} {text rest : Text}
    (missed : ∀ before c tail, text = before ++ c :: tail →
      recognise (c :: tail ++ rest) = none) :
    pieces recognise (text ++ rest) = text.map Piece.plain ++ pieces recognise rest := by
  induction text with
  | nil => rfl
  | cons c text inductionHypothesis =>
    have first : recognise (c :: (text ++ rest)) = none := missed [] c text rfl
    rw [List.cons_append, pieces_cons_of_none first, inductionHypothesis]
    · rfl
    · rintro before d tail rfl
      exact missed (c :: before) d tail rfl

/-- An inert text is read as plain characters. -/
theorem pieces_append_of_inert {recognise : Recogniser α} {text : Text}
    (inert : Inert recognise text) (rest : Text) :
    pieces recognise (text ++ rest) = text.map Piece.plain ++ pieces recognise rest := by
  induction text with
  | nil => rfl
  | cons c text inductionHypothesis =>
    obtain ⟨missed, inert⟩ := inert_cons.1 inert
    rw [List.cons_append, pieces_cons_of_none (missed rest), inductionHypothesis inert]
    rfl

/-- No item starts in an inert text. -/
theorem items_append_of_inert {recognise : Recogniser α} {text : Text}
    (inert : Inert recognise text) (rest : Text) :
    items recognise (text ++ rest) = items recognise rest := by
  rw [items, pieces_append_of_inert inert, List.filterMap_append]
  exact congrArg (· ++ items recognise rest) (Piece.items_map_plain text)

/-- An inert text comes before the first mark. -/
theorem cutAt?_append_of_inert {mark text : Text} (inert : Inert (dropLead? mark) text)
    (rest : Text) :
    cutAt? mark (text ++ rest) =
      (cutAt? mark rest).map fun (before, after) => (text ++ before, after) := by
  induction text with
  | nil => simp
  | cons c text inductionHypothesis =>
    obtain ⟨missed, inert⟩ := inert_cons.1 inert
    rw [List.cons_append, cutAt?, missed rest, inductionHypothesis inert]
    cases cutAt? mark rest <;> rfl

/-! ## Texts without an item -/

/-- Nothing is recognised at any character of a text that is read to its end. -/
def ItemFree (recognise : Text → Option β) : Text → Prop
  | [] => True
  | c :: text => recognise (c :: text) = none ∧ ItemFree recognise text

theorem itemFree_cons {recognise : Text → Option β} {c : Char} {text : Text} :
    ItemFree recognise (c :: text) ↔ recognise (c :: text) = none ∧ ItemFree recognise text :=
  Iff.rfl

/-- Nothing is recognised at any place of a text without an item. -/
theorem ItemFree.of_append {recognise : Text → Option β} {before rest : Text}
    (free : ItemFree recognise (before ++ rest)) : ItemFree recognise rest := by
  induction before with
  | nil => exact free
  | cons c before inductionHypothesis => exact inductionHypothesis (itemFree_cons.1 free).2

/-- A text holds no item if nothing is recognised at any place before its end. -/
theorem itemFree_iff {recognise : Text → Option β} {text : Text} :
    ItemFree recognise text ↔
      ∀ before rest, text = before ++ rest → rest ≠ [] → recognise rest = none := by
  constructor
  · rintro free before rest rfl nonempty
    cases rest with
    | nil => exact absurd rfl nonempty
    | cons c rest => exact (itemFree_cons.1 free.of_append).1
  · intro missed
    induction text with
    | nil => trivial
    | cons c text inductionHypothesis =>
      refine itemFree_cons.2 ⟨missed [] (c :: text) rfl (List.cons_ne_nil c text), ?_⟩
      apply inductionHypothesis
      rintro before rest rfl nonempty
      exact missed (c :: before) rest rfl nonempty

/-- An inert text in front of a text without an item makes none. -/
theorem Inert.itemFree_append {recognise : Text → Option β} {text rest : Text}
    (inert : Inert recognise text) (free : ItemFree recognise rest) :
    ItemFree recognise (text ++ rest) := by
  induction text with
  | nil => exact free
  | cons c text inductionHypothesis =>
    obtain ⟨missed, inert⟩ := inert_cons.1 inert
    exact itemFree_cons.2 ⟨missed rest, inductionHypothesis inert⟩

theorem Inert.itemFree {recognise : Text → Option β} {text : Text}
    (inert : Inert recognise text) : ItemFree recognise text := by
  have free : ItemFree recognise (text ++ []) := inert.itemFree_append trivial
  rwa [List.append_nil] at free

/-- A text without an item is read as plain characters. -/
theorem pieces_of_itemFree {recognise : Recogniser α} {text : Text}
    (free : ItemFree recognise text) : pieces recognise text = text.map Piece.plain := by
  induction text with
  | nil => rfl
  | cons c text inductionHypothesis =>
    obtain ⟨missed, free⟩ := itemFree_cons.1 free
    rw [pieces_cons_of_none missed, inductionHypothesis free]
    rfl

theorem items_of_itemFree {recognise : Recogniser α} {text : Text}
    (free : ItemFree recognise text) : items recognise text = [] := by
  rw [items, pieces_of_itemFree free]
  exact Piece.items_map_plain text

theorem firstItem?_of_itemFree {recognise : Recogniser α} {text : Text}
    (free : ItemFree recognise text) : firstItem? recognise text = none := by
  induction text with
  | nil => rfl
  | cons c text inductionHypothesis =>
    obtain ⟨missed, free⟩ := itemFree_cons.1 free
    rw [firstItem?, missed]
    exact inductionHypothesis free

/-- A text without an item has nothing in it to replace. -/
theorem substitute_of_itemFree {recognise : Recogniser α} {text : Text}
    (free : ItemFree recognise text) (spell : α → Text) :
    substitute recognise spell text = text := by
  rw [substitute, pieces_of_itemFree free, Piece.flatMap_expand_map_plain]

/-! ## Parts that read as one item -/

/-- A text is taken as one item of a value, whatever follows the text. -/
def ReadsAs (recognise : Recogniser α) (source : Text) (value : α) : Prop :=
  source ≠ [] ∧ ∀ rest, recognise (source ++ rest) = some (value, rest)

/-- An item at the start of a text comes before the items of what follows it. -/
theorem items_append_of_some {recognise : Recogniser α} {taken after : Text} {value : α}
    (nonempty : taken ≠ []) (found : recognise (taken ++ after) = some (value, after)) :
    items recognise (taken ++ after) = value :: items recognise after := by
  rw [items, pieces_append_of_some nonempty found]
  rfl

theorem pieces_append_of_readsAs {recognise : Recogniser α} {source : Text} {value : α}
    (reads : ReadsAs recognise source value) (rest : Text) :
    pieces recognise (source ++ rest) = .item value :: pieces recognise rest :=
  pieces_append_of_some reads.1 (reads.2 rest)

/-- A text that reads as one item is replaced by the spelling of the item. -/
theorem substitute_of_readsAs {recognise : Recogniser α} {source : Text} {value : α}
    (reads : ReadsAs recognise source value) (spell : α → Text) :
    substitute recognise spell source = spell value := by
  have pieces := pieces_append_of_readsAs reads []
  rw [List.append_nil] at pieces
  rw [substitute, pieces]
  simp

/-- In a row of sources, each with an inert text after it, every source is one item. -/
theorem pieces_row {ι : Type} {recognise : Recogniser α} {source gap : ι → Text} {value : ι → α}
    {row : List ι} (reads : ∀ entry ∈ row, ReadsAs recognise (source entry) (value entry))
    (inert : ∀ entry ∈ row, Inert recognise (gap entry)) :
    pieces recognise (row.flatMap fun entry => source entry ++ gap entry) =
      row.flatMap fun entry => .item (value entry) :: (gap entry).map Piece.plain := by
  induction row with
  | nil => rfl
  | cons entry row inductionHypothesis =>
    obtain ⟨firstReads, reads⟩ := List.forall_mem_cons.1 reads
    obtain ⟨firstInert, inert⟩ := List.forall_mem_cons.1 inert
    rw [List.flatMap_cons, List.append_assoc, pieces_append_of_readsAs firstReads,
      pieces_append_of_inert firstInert, inductionHypothesis reads inert]
    rfl

/-! ## What items are replaced by -/

/-- The spelling of an item stands in what the text is replaced by. -/
theorem exists_substitute_eq_of_mem {recognise : Recogniser α} {text : Text} {value : α}
    (member : value ∈ items recognise text) (spell : α → Text) :
    ∃ left right, substitute recognise spell text = left ++ spell value ++ right := by
  obtain ⟨piece, isPiece, isItem⟩ := List.mem_filterMap.1 member
  cases piece with
  | plain c => cases isItem
  | item found =>
    cases isItem
    obtain ⟨before, after, split⟩ := List.append_of_mem isPiece
    refine ⟨before.flatMap (Piece.expand spell), after.flatMap (Piece.expand spell), ?_⟩
    rw [substitute, split]
    simp

/-- What a text is replaced by depends on the spelling of its items only. -/
theorem substitute_congr {recognise : Recogniser α} {text : Text} {spell other : α → Text}
    (same : ∀ value ∈ items recognise text, spell value = other value) :
    substitute recognise spell text = substitute recognise other text := by
  refine congrArg List.flatten (List.map_congr_left ?_)
  rintro (c | value) isPiece
  · rfl
  · exact same value (List.mem_filterMap.2 ⟨.item value, isPiece, rfl⟩)

/-! ## The source of an item -/

/-- A recogniser that takes at least one character and leaves the rest as it was. -/
def Proper (recognise : Recogniser α) : Prop :=
  ∀ {text after value}, recognise text = some (value, after) →
    ∃ taken, taken ≠ [] ∧ text = taken ++ after

/-- Induction along a scan: a text is empty, or starts with a plain character, or starts with an
item. -/
theorem scan_induction {recognise : Recogniser α} (proper : Proper recognise)
    {motive : Text → Prop} (nil : motive [])
    (plain : ∀ c text, recognise (c :: text) = none → motive text → motive (c :: text))
    (item : ∀ taken after value, taken ≠ [] →
      recognise (taken ++ after) = some (value, after) → motive after → motive (taken ++ after))
    (text : Text) : motive text := by
  induction length : text.length using Nat.strongRecOn generalizing text with
  | ind size inductionHypothesis =>
    cases text with
    | nil => exact nil
    | cons c text =>
      cases found : recognise (c :: text) with
      | none =>
        apply plain c text found
        exact inductionHypothesis text.length (by simp [← length]) text rfl
      | some result =>
        obtain ⟨value, after⟩ := result
        obtain ⟨taken, nonempty, split⟩ := proper found
        rw [split] at found length ⊢
        have shorter : after.length < size := by
          have := List.length_pos_iff.2 nonempty
          simp only [List.length_append] at length
          omega
        exact item taken after value nonempty found (inductionHypothesis _ shorter after rfl)

/-- An item of a text is recognised where it stands. -/
theorem exists_found_of_mem_items {recognise : Recogniser α} (proper : Proper recognise)
    {text : Text} {value : α} (member : value ∈ items recognise text) :
    ∃ before taken after, text = before ++ (taken ++ after) ∧
      recognise (taken ++ after) = some (value, after) := by
  induction text using scan_induction proper with
  | nil => cases member
  | plain c text missed inductionHypothesis =>
    rw [items, pieces_cons_of_none missed] at member
    rcases inductionHypothesis member with ⟨before, taken, after, rfl, found⟩
    exact ⟨c :: before, taken, after, rfl, found⟩
  | item taken after found nonempty reads inductionHypothesis =>
    rw [items_append_of_some nonempty reads, List.mem_cons] at member
    rcases member with rfl | later
    · exact ⟨[], taken, after, rfl, reads⟩
    · rcases inductionHypothesis later with ⟨before, source, rest, rfl, recognised⟩
      exact ⟨taken ++ before, source, rest, by simp, recognised⟩

/-- A text holds no item, or there is a first one: nothing is recognised before it. -/
theorem itemFree_or_first_item {recognise : Recogniser α} (proper : Proper recognise)
    (text : Text) :
    ItemFree recognise text ∨
      ∃ lead taken after value, text = lead ++ (taken ++ after) ∧ taken ≠ [] ∧
        recognise (taken ++ after) = some (value, after) ∧
        ∀ before c tail, lead = before ++ c :: tail →
          recognise (c :: tail ++ (taken ++ after)) = none := by
  induction text using scan_induction proper with
  | nil => exact .inl trivial
  | plain c text missed inductionHypothesis =>
    rcases inductionHypothesis with
      free | ⟨lead, taken, after, value, rfl, nonempty, found, earlier⟩
    · exact .inl (itemFree_cons.2 ⟨missed, free⟩)
    · refine .inr ⟨c :: lead, taken, after, value, rfl, nonempty, found, ?_⟩
      intro before d tail split
      cases before with
      | nil =>
        obtain ⟨rfl, rfl⟩ := List.cons.inj split
        exact missed
      | cons e before => exact earlier before d tail (List.cons.inj split).2
  | item taken after value nonempty found _ =>
    exact .inr ⟨[], taken, after, value, rfl, nonempty, found, by simp⟩

/-- A text is read apart from what follows it if, at each of its characters, the same is
recognised with and without what follows. -/
theorem pieces_append_of_apart {recognise : Recogniser α} (proper : Proper recognise)
    {text rest : Text}
    (apart : ∀ before c tail, text = before ++ c :: tail →
      recognise (c :: tail ++ rest) =
        (recognise (c :: tail)).map fun (value, after) => (value, after ++ rest)) :
    pieces recognise (text ++ rest) = pieces recognise text ++ pieces recognise rest := by
  induction text using scan_induction proper with
  | nil => rfl
  | plain c text missed inductionHypothesis =>
    have first := apart [] c text rfl
    rw [missed, Option.map_none] at first
    rw [List.cons_append] at first ⊢
    rw [pieces_cons_of_none first, pieces_cons_of_none missed, inductionHypothesis]
    · rfl
    · rintro before d tail rfl
      exact apart (c :: before) d tail rfl
  | item taken after value nonempty found inductionHypothesis =>
    cases taken with
    | nil => exact absurd rfl nonempty
    | cons c taken =>
      have first := apart [] c (taken ++ after) rfl
      rw [← List.cons_append, found, Option.map_some, List.append_assoc] at first
      rw [List.append_assoc, pieces_append_of_some nonempty first,
        pieces_append_of_some nonempty found, inductionHypothesis]
      · rfl
      · rintro before d tail rfl
        exact apart (c :: taken ++ before) d tail (by simp)

/-- If the source of an item is known from its value, the plain characters and the sources of the
items are the whole text. -/
theorem expand_pieces_of_source {recognise : Recogniser α} (proper : Proper recognise)
    {source : α → Text}
    (isSource : ∀ taken after value, recognise (taken ++ after) = some (value, after) →
      taken = source value)
    (text : Text) : (pieces recognise text).flatMap (Piece.expand source) = text := by
  induction text using scan_induction proper with
  | nil => rfl
  | plain c text missed inductionHypothesis =>
    rw [pieces_cons_of_none missed, List.flatMap_cons, inductionHypothesis]
    rfl
  | item taken after value nonempty found inductionHypothesis =>
    rw [pieces_append_of_some nonempty found, List.flatMap_cons, inductionHypothesis,
      Piece.expand_item, isSource taken after value found]

/-- The recogniser that gives the source of an item beside its value. -/
def withSource (recognise : Recogniser α) : Recogniser (Text × α) := fun text =>
  (recognise text).map fun (value, after) =>
    ((text.take (text.length - after.length), value), after)

theorem withSource_eq_none {recognise : Recogniser α} {text : Text}
    (missed : recognise text = none) : withSource recognise text = none := by
  simp [withSource, missed]

theorem withSource_append {recognise : Recogniser α} {taken after : Text} {value : α}
    (found : recognise (taken ++ after) = some (value, after)) :
    withSource recognise (taken ++ after) = some ((taken, value), after) := by
  simp [withSource, found]

theorem withSource_proper {recognise : Recogniser α} (proper : Proper recognise) :
    Proper (withSource recognise) := by
  intro text after item found
  obtain ⟨⟨value, rest⟩, reads, same⟩ := Option.map_eq_some_iff.1 found
  obtain ⟨rfl, rfl⟩ := Prod.mk.inj same
  exact proper reads

/-- Keeping the sources changes nothing else. -/
theorem map_pieces_withSource {recognise : Recogniser α} (proper : Proper recognise)
    (text : Text) :
    (pieces (withSource recognise) text).map (Piece.map Prod.snd) = pieces recognise text := by
  induction text using scan_induction proper with
  | nil => rfl
  | plain c text missed inductionHypothesis =>
    rw [pieces_cons_of_none missed, pieces_cons_of_none (withSource_eq_none missed),
      List.map_cons, inductionHypothesis]
    rfl
  | item taken after value nonempty found inductionHypothesis =>
    rw [pieces_append_of_some nonempty found,
      pieces_append_of_some nonempty (withSource_append found), List.map_cons,
      inductionHypothesis]
    rfl

/-- The plain characters and the sources of the items are the whole text. -/
theorem expand_pieces_withSource {recognise : Recogniser α} (proper : Proper recognise)
    (text : Text) :
    (pieces (withSource recognise) text).flatMap (Piece.expand Prod.fst) = text := by
  apply expand_pieces_of_source (withSource_proper proper)
  intro taken after item found
  obtain ⟨⟨value, rest⟩, -, same⟩ := Option.map_eq_some_iff.1 found
  obtain ⟨rfl, rfl⟩ := Prod.mk.inj same
  simp

/-- The source of an item is recognised as its value where it stands. -/
theorem exists_after_of_mem_items {recognise : Recogniser α} (proper : Proper recognise)
    {text source : Text} {value : α}
    (member : (source, value) ∈ items (withSource recognise) text) :
    ∃ after, recognise (source ++ after) = some (value, after) := by
  rcases exists_found_of_mem_items (withSource_proper proper) member with
    ⟨before, taken, after, -, found⟩
  rcases Option.map_eq_some_iff.1 found with ⟨⟨item, rest⟩, reads, same⟩
  simp only [Prod.mk.injEq] at same
  rcases same with ⟨⟨isSource, rfl⟩, rfl⟩
  have isTaken : taken = source := by
    rw [← isSource]
    simp
  exact ⟨rest, isTaken ▸ reads⟩

end Text

end Folio
