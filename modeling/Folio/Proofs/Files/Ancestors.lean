import Folio.Proofs.Files.Path

/-!
# The directories above a path

The parent of an absolute path is the path without its last part that counts. It is a start of the
path as it is written, and it has one part less that counts, so the way up ends at the root: after
as many steps as the path has such parts, and never for want of steps.
-/

namespace Folio

namespace Text

variable {mark : Char} {first second parts : List Text}

theorem joinWith_eq_intercalate (separator : Text) (parts : List Text) :
    joinWith separator parts = separator.intercalate parts := by
  induction parts with
  | nil => rfl
  | cons part parts inductionHypothesis =>
    cases parts with
    | nil => simp [joinWith]
    | cons next parts =>
      change part ++ separator ++ joinWith separator (next :: parts) = _
      rw [inductionHypothesis, List.intercalate_cons_cons]

/-- The parts of a text, joined by the character between them, are the text. -/
theorem joinWith_splitAtEach (mark : Char) (text : Text) :
    joinWith [mark] (splitAtEach mark text) = text := by
  rw [joinWith_eq_intercalate, splitAtEach_eq_splitOn, List.intercalate_splitOn]

/-- Parts without the character come back when they are joined by it. -/
theorem splitAtEach_joinWith (nonempty : parts ≠ []) (absent : ∀ part ∈ parts, mark ∉ part) :
    splitAtEach mark (joinWith [mark] parts) = parts := by
  rw [joinWith_eq_intercalate, splitAtEach_eq_splitOn]
  exact List.splitOn_intercalate mark absent nonempty

theorem joinWith_isStart (separator : Text) (isStart : first <+: second) :
    joinWith separator first <+: joinWith separator second := by
  induction first generalizing second with
  | nil => exact List.nil_prefix
  | cons part first inductionHypothesis =>
    rcases isStart with ⟨rest, rfl⟩
    cases first with
    | nil =>
      cases rest with
      | nil => exact List.prefix_refl _
      | cons next rest =>
        change part <+: part ++ separator ++ joinWith separator (next :: rest)
        rw [List.append_assoc]
        exact List.prefix_append part _
    | cons next first =>
      have later := inductionHypothesis (List.prefix_append (next :: first) rest)
      simp only [List.cons_append, joinWith] at later ⊢
      exact (List.prefix_append_right_inj _).2 later

theorem length_splitAtEach_le (mark : Char) (text : Text) :
    (splitAtEach mark text).length ≤ text.length + 1 := by
  induction text with
  | nil => simp [splitAtEach]
  | cons c text inductionHypothesis =>
    rw [splitAtEach]
    split
    · simpa using inductionHypothesis
    · cases parts : splitAtEach mark text with
      | nil => simp
      | cons first rest =>
        rw [parts] at inductionHypothesis
        simp only [List.length_cons] at inductionHypothesis ⊢
        omega

end Text

namespace Path

open Text

variable {path parent : Path} {above : List Path}

/-! ## Parts that count -/

/-- The parts of a path that count. -/
def components (path : Path) : List Text :=
  (splitAtEach '/' path).filter fun part => !isIdle part

theorem trimParts_isStart (parts : List Text) : trimParts parts <+: parts := by
  unfold trimParts
  rw [← List.reverse_suffix, List.reverse_reverse]
  exact List.dropWhile_suffix isIdle

/-- Of the parts that are left one counts at the end, if any are left. -/
theorem trimParts_eq_nil_or_concat (parts : List Text) :
    trimParts parts = [] ∨
      ∃ front last, trimParts parts = front ++ [last] ∧ isIdle last = false := by
  rcases (trimParts parts).eq_nil_or_concat' with isEmpty | ⟨front, last, split⟩
  · exact .inl isEmpty
  · have isLast := getLast?_trimParts parts
    rw [split, List.getLast?_concat] at isLast
    exact .inr ⟨front, last, split, by simpa using List.find?_some isLast.symm⟩

/-- Trimming drops no part that counts. -/
theorem filter_trimParts (parts : List Text) :
    ((trimParts parts).filter fun part => !isIdle part) =
      parts.filter fun part => !isIdle part := by
  have dropped : ∀ row : List Text, ((row.dropWhile isIdle).filter fun part => !isIdle part) =
      row.filter fun part => !isIdle part := by
    intro row
    induction row with
    | nil => rfl
    | cons part row inductionHypothesis =>
      cases idle : isIdle part with
      | true => simpa [idle] using inductionHypothesis
      | false => simp [idle]
  unfold trimParts
  rw [List.filter_reverse, dropped, List.filter_reverse, List.reverse_reverse]

/-! ## Absolute paths -/

theorem isAbsolute_iff : isAbsolute path = true ↔ ∃ rest, path = '/' :: rest := by
  unfold isAbsolute
  rw [beq_iff_eq, List.head?_eq_some_iff]

theorem components_cons_slash (rest : Text) :
    components ('/' :: rest) = (splitAtEach '/' rest).filter fun part => !isIdle part := by
  unfold components
  rw [splitAtEach, if_pos rfl]
  simp [isIdle]

theorem components_slash_joinWith {parts : List Text} (noSlash : ∀ part ∈ parts, '/' ∉ part) :
    components ('/' :: joinWith ['/'] parts) = parts.filter fun part => !isIdle part := by
  rw [components_cons_slash]
  cases parts with
  | nil => simp [joinWith, splitAtEach, isIdle]
  | cons part parts => rw [splitAtEach_joinWith (List.cons_ne_nil part parts) noSlash]

theorem ofParts_slash (parts : List Text) :
    ofParts ['/'] parts = '/' :: joinWith ['/'] parts := by
  cases parts <;> rfl

/-- The parent of an absolute path leaves out the last part that counts and all that follows it. -/
theorem parent?_cons_slash (rest : Text) :
    (parent? ('/' :: rest) = none ∧ components ('/' :: rest) = []) ∨
      ∃ front last, trimParts (splitAtEach '/' rest) = front ++ [last] ∧ isIdle last = false ∧
        parent? ('/' :: rest) = some ('/' :: joinWith ['/'] (trimParts front)) := by
  have whole : counted ('/' :: rest) = (['/'], trimParts (splitAtEach '/' rest)) := rfl
  rcases trimParts_eq_nil_or_concat (splitAtEach '/' rest) with
    isEmpty | ⟨front, last, split, counts⟩
  · rw [isEmpty] at whole
    left
    constructor
    · rw [parent?, whole]
      rfl
    · rw [components_cons_slash, ← filter_trimParts, isEmpty]
      rfl
  · right
    refine ⟨front, last, split, counts, ?_⟩
    have shorter : some (ofParts ['/'] (trimParts (front ++ [last]).dropLast)) =
        some ('/' :: joinWith ['/'] (trimParts front)) := by
      rw [List.dropLast_concat, ofParts_slash]
    rw [split] at whole
    rw [parent?, whole, ← shorter]
    cases front <;> rfl

/-- An absolute path without a parent is a way to write the root. -/
theorem components_of_top (absolute : isAbsolute path = true) (isTop : parent? path = none) :
    components path = [] := by
  rcases isAbsolute_iff.1 absolute with ⟨rest, rfl⟩
  rcases parent?_cons_slash rest with ⟨-, isRoot⟩ | ⟨front, last, -, -, hasParent⟩
  · exact isRoot
  · rw [hasParent] at isTop
    cases isTop

/-- The parent of an absolute path is absolute, is a start of the path as it is written, and has all
parts of the path that count but the last one. -/
theorem components_of_parent? (absolute : isAbsolute path = true)
    (hasParent : parent? path = some parent) :
    isAbsolute parent = true ∧ parent <+: path ∧
      ∃ last, components path = components parent ++ [last] := by
  rcases isAbsolute_iff.1 absolute with ⟨rest, rfl⟩
  rcases parent?_cons_slash rest with ⟨isTop, -⟩ | ⟨front, last, split, counts, isParent⟩
  · rw [isTop] at hasParent
    cases hasParent
  · obtain rfl : '/' :: joinWith ['/'] (trimParts front) = parent :=
      Option.some.inj (isParent.symm.trans hasParent)
    have isStart : trimParts front <+: splitAtEach '/' rest := by
      apply (trimParts_isStart front).trans
      apply List.IsPrefix.trans _ (trimParts_isStart (splitAtEach '/' rest))
      rw [split]
      exact List.prefix_append front [last]
    refine ⟨rfl, ?_, last, ?_⟩
    · have written := joinWith_isStart ['/'] isStart
      rw [joinWith_splitAtEach] at written
      exact (List.prefix_cons_inj '/').2 written
    · have noSlash : ∀ part ∈ trimParts front, '/' ∉ part :=
        fun part member => not_mem_of_mem_splitAtEach (isStart.subset member)
      rw [components_slash_joinWith noSlash, filter_trimParts, components_cons_slash,
        ← filter_trimParts, split, List.filter_append]
      simp [counts]

theorem length_components_le (absolute : isAbsolute path = true) :
    (components path).length ≤ path.length := by
  rcases isAbsolute_iff.1 absolute with ⟨rest, rfl⟩
  rw [components_cons_slash]
  exact Nat.le_trans (List.length_filter_le _ _) (length_splitAtEach_le '/' rest)

/-! ## The way up -/

/-- The directories from a path up: the path itself, its parent, and so on until there is no
parent. -/
inductive UpFrom : Path → List Path → Prop
  | top {path : Path} (isTop : parent? path = none) : UpFrom path [path]
  | up {path parent : Path} {above : List Path} (hasParent : parent? path = some parent)
      (goesOn : UpFrom parent above) : UpFrom path (path :: above)

/-- There is a step for each part that counts, and one for the root. -/
theorem upFrom_ancestorsWithin {fuel : Nat} (absolute : isAbsolute path = true)
    (enough : (components path).length < fuel) : UpFrom path (ancestorsWithin fuel path) := by
  induction fuel generalizing path with
  | zero => exact absurd enough (Nat.not_lt_zero _)
  | succ fuel inductionHypothesis =>
    rw [ancestorsWithin]
    cases found : parent? path with
    | none => exact .top found
    | some parent =>
      rcases components_of_parent? absolute found with ⟨parentAbsolute, -, last, shorter⟩
      apply UpFrom.up found
      apply inductionHypothesis parentAbsolute
      rw [shorter, List.length_append, List.length_singleton] at enough
      omega

/-- The ancestors of an absolute path go all the way up. -/
theorem upFrom_ancestors (absolute : isAbsolute path = true) : UpFrom path (ancestors path) := by
  apply upFrom_ancestorsWithin absolute
  exact Nat.lt_succ_of_le (length_components_le absolute)

/-- On the way up from an absolute path there is one directory for each number of its parts that
count, from all of them down to none, and each is a start of the path as it is written. -/
theorem UpFrom.components_eq_take (upFrom : UpFrom path above)
    (absolute : isAbsolute path = true) :
    above.length = (components path).length + 1 ∧
      ∀ (place : Nat) (directory : Path), above[place]? = some directory →
        isAbsolute directory = true ∧ directory <+: path ∧
          components directory = (components path).take ((components path).length - place) := by
  induction upFrom with
  | top isTop =>
    rw [components_of_top absolute isTop]
    refine ⟨rfl, ?_⟩
    intro place directory found
    rcases List.getElem?_eq_some_iff.1 found with ⟨inside, rfl⟩
    simp [absolute, components_of_top absolute isTop]
  | @up path parent above hasParent goesOn inductionHypothesis =>
    rcases components_of_parent? absolute hasParent with ⟨parentAbsolute, isStart, last, split⟩
    rcases inductionHypothesis parentAbsolute with ⟨size, each⟩
    constructor
    · rw [List.length_cons, size, split, List.length_append, List.length_singleton]
    · intro place directory found
      cases place with
      | zero =>
        obtain rfl : path = directory := by simpa using found
        exact ⟨absolute, List.prefix_refl path, by simp⟩
      | succ place =>
        rcases each place directory found with ⟨isAbsolute, isStartOfParent, parts⟩
        refine ⟨isAbsolute, isStartOfParent.trans isStart, ?_⟩
        rw [parts, split, List.length_append, List.length_singleton, Nat.add_sub_add_right,
          List.take_append_of_le_length (Nat.sub_le _ _)]

end Path

end Folio
