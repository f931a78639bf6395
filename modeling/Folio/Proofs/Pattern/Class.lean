import Folio.Pattern.Class
import Folio.Proofs.Text.Mark
import Folio.Proofs.Text.Run

/-!
# Classes are read as they are meant

Between the brackets of a class stand members and operators. Members side by side are united, an
operator combines all that stands before it with the members behind it, and a class in brackets is a
member in turn. A class that is written like this is read as the set of characters that it stands
for, however deep the brackets go.
-/

namespace Folio.Pattern

open Text

/-! ## Written classes -/

/-- A character as it is written in a class: a sign stands behind a backslash, but for the two that
would be a place then. -/
def spelled (c : Char) : Text :=
  if c.toNat < 0x80 && !c.isAlphanum && c != '<' && c != '>' then ['\\', c] else [c]

/-- An operator as it is written. -/
def operatorSign : SetOperator → Text
  | .both => ['&', '&']
  | .without => ['-', '-']
  | .oneOnly => ['~', '~']

/-- The sign in front of a complement. -/
def complementSign (isComplement : Bool) : Text :=
  if isComplement then ['^'] else []

/-- A text is not empty and starts with none of some characters. -/
def StartsWithout (signs : List Char) (text : Text) : Prop :=
  ∃ c rest, text = c :: rest ∧ c ∉ signs

/-- What a text is inside the brackets of a class. -/
inductive ClassPart where
  | member
  /-- Members side by side. -/
  | union
  /-- All that stands between the brackets. -/
  | set

/-- A text is a part of a class, and these characters belong to the part. What stands between
brackets does not start with a hyphen, which would be a character there and no part of an
operator. -/
inductive Writes : ClassPart → Text → (Char → Bool) → Prop
  | char (c : Char) : Writes .member (spelled c) (· == c)
  | range {first last : Char} (ordered : first ≤ last) :
      Writes .member (spelled first ++ '-' :: spelled last) fun c => first ≤ c && c ≤ last
  | escape {letter : Char} {inClass : CharClass}
      (isEscape : escapeOf? letter = some (.oneOf inClass)) :
      Writes .member ['\\', letter] inClass.holds
  | named {name : Text} {ranges : List (Char × Char)} (isComplement : Bool)
      (isNamed : (name, ranges) ∈ namedClasses) :
      Writes .member ('[' :: ':' :: (complementSign isComplement ++ name ++ [':', ']']))
        fun c => ranges.any (fun range => range.1 ≤ c && c ≤ range.2) != isComplement
  | brackets {text : Text} {inSet : Char → Bool} (isComplement : Bool)
      (begins : StartsWithout ['-'] text) (writes : Writes .set text inSet) :
      Writes .member ('[' :: (complementSign isComplement ++ text ++ [']']))
        fun c => inSet c != isComplement
  | nil : Writes .union [] fun _ => false
  | add {text more : Text} {inUnion inMember : Char → Bool} (writes : Writes .union text inUnion)
      (writesMember : Writes .member more inMember) :
      Writes .union (text ++ more) fun c => inUnion c || inMember c
  | union {text : Text} {inUnion : Char → Bool} (writes : Writes .union text inUnion) :
      Writes .set text inUnion
  | operate {text more : Text} {inSet inUnion : Char → Bool} (operator : SetOperator)
      (writes : Writes .set text inSet) (writesUnion : Writes .union more inUnion) :
      Writes .set (text ++ operatorSign operator ++ more)
        fun c => operator.holds (inSet c) (inUnion c)

/-! ## How written classes start -/

namespace StartsWithout

variable {signs fewer : List Char} {text : Text}

theorem append (starts : StartsWithout signs text) (more : Text) :
    StartsWithout signs (text ++ more) := by
  rcases starts with ⟨c, rest, rfl, isNone⟩
  exact ⟨c, rest ++ more, rfl, isNone⟩

theorem mono (starts : StartsWithout signs text) (within : fewer ⊆ signs) :
    StartsWithout fewer text := by
  rcases starts with ⟨c, rest, rfl, isNone⟩
  exact ⟨c, rest, rfl, fun isSign => isNone (within isSign)⟩

theorem ne_nil (starts : StartsWithout signs text) : text ≠ [] := by
  rcases starts with ⟨c, rest, rfl, -⟩
  exact List.cons_ne_nil c rest

end StartsWithout

/-- A spelled character starts with a sign of its own. -/
theorem startsWithout_spelled (c : Char) :
    StartsWithout ['[', ']', '&', '-', '~', '^', ':'] (spelled c) := by
  have areSigns : ∀ d ∈ ['[', ']', '&', '-', '~', '^', ':'],
      (d.toNat < 0x80 && !d.isAlphanum && d != '<' && d != '>') = true := by decide
  rw [spelled]
  split
  · exact ⟨'\\', [c], rfl, by decide⟩
  · next noSign => exact ⟨c, [], rfl, fun isSign => noSign (areSigns c isSign)⟩

theorem startsWithout_operatorSign (operator : SetOperator) :
    StartsWithout [']', '^', ':'] (operatorSign operator) := by
  cases operator with
  | both => exact ⟨'&', _, rfl, by decide⟩
  | without => exact ⟨'-', _, rfl, by decide⟩
  | oneOnly => exact ⟨'~', _, rfl, by decide⟩

/-- How a part of a class starts, unless it is empty. Only a set can start with an operator. -/
def ClassPart.StartsWell (text : Text) : ClassPart → Prop
  | .member => StartsWithout [']', '-', '^', ':'] text
  | .union => text = [] ∨ StartsWithout [']', '-', '^', ':'] text
  | .set => text = [] ∨ StartsWithout [']', '^', ':'] text

theorem Writes.startsWell {part : ClassPart} {text : Text} {inPart : Char → Bool}
    (writes : Writes part text inPart) : part.StartsWell text := by
  induction writes with
  | char c => exact (startsWithout_spelled c).mono (by decide)
  | range ordered => exact ((startsWithout_spelled _).mono (by decide)).append _
  | escape isEscape => exact ⟨'\\', _, rfl, by decide⟩
  | named | brackets => exact ⟨'[', _, rfl, by decide⟩
  | nil => exact .inl rfl
  | add _ _ starts startsMember =>
    rcases starts with rfl | starts
    · exact .inr startsMember
    · exact .inr (starts.append _)
  | union _ starts => exact starts.imp_right (·.mono (by decide))
  | operate operator _ _ starts =>
    rcases starts with rfl | starts
    · exact .inr ((startsWithout_operatorSign operator).append _)
    · exact .inr ((starts.append _).append _)

/-- What stands between brackets starts with no sign that has a meaning at the start of a class. -/
theorem Writes.startsWithout {text : Text} {inSet : Char → Bool} (writes : Writes .set text inSet)
    (begins : StartsWithout ['-'] text) : StartsWithout ['-', ']', '^', ':'] text := by
  rcases begins with ⟨c, rest, rfl, noHyphen⟩
  rcases writes.startsWell.resolve_left (List.cons_ne_nil c rest) with ⟨_, _, same, isNone⟩
  cases same
  exact ⟨c, rest, rfl, List.not_mem_cons_of_ne_of_not_mem (List.ne_of_not_mem_cons noHyphen) isNone⟩

/-! ## Members -/

theorem item?_spelled (c : Char) (rest : Text) :
    item? (spelled c ++ rest) = .ok (.char c, rest) := by
  rw [spelled]
  split
  · next isSign =>
    simp only [Bool.and_eq_true, decide_eq_true_eq, Bool.not_eq_true', bne_iff_ne, ne_eq] at isSign
    obtain ⟨⟨⟨isAscii, noLetter⟩, noLess⟩, noGreater⟩ := isSign
    have known : isUnknownEscape c rest = false := by
      unfold isUnknownEscape
      split <;> simp_all [Char.isAlphanum]
    have noNumber : numberDigits? c = none := by
      unfold numberDigits?
      split <;> simp_all [Char.isAlphanum]
    have isEscape : escapeOf? c = some (.char c) := by
      unfold escapeOf?
      split <;> simp_all [Char.isAlphanum]
    simp [item?, escape?, known, noNumber, isEscape]
  · next noSign =>
    have noBackslash : c ≠ '\\' := by
      rintro rfl
      exact noSign (by decide)
    rw [List.singleton_append, item?]
    exact noBackslash

theorem item?_escape {letter : Char} {inClass : CharClass}
    (isEscape : escapeOf? letter = some (.oneOf inClass)) (rest : Text) :
    item? (['\\', letter] ++ rest) = .ok (.oneOf inClass, rest) := by
  have known : isUnknownEscape letter rest = false := by
    unfold isUnknownEscape
    split <;> simp_all [escapeOf?]
  have noNumber : numberDigits? letter = none := by
    unfold numberDigits?
    split <;> simp_all [escapeOf?]
  simp [item?, escape?, known, noNumber, isEscape]

theorem member?_of_item {text rest : Text} {item : Escape} {inClass : CharClass}
    (isItem : item? (text ++ rest) = .ok (item, rest)) (noRange : behindHyphen? rest = none)
    (isMember : item.member? = .ok inClass) : member? (text ++ rest) = .ok (inClass, rest) := by
  simp [member?, isItem, noRange, isMember, bind, Except.bind]

theorem behindHyphen?_spelled (c : Char) (rest : Text) :
    behindHyphen? ('-' :: (spelled c ++ rest)) = some (spelled c ++ rest) := by
  rcases startsWithout_spelled c with ⟨d, more, isSpelled, isNone⟩
  rw [isSpelled]
  unfold behindHyphen?
  split <;> simp_all

theorem member?_range {first last : Char} (ordered : first ≤ last) (rest : Text) :
    member? (spelled first ++ '-' :: spelled last ++ rest) = .ok (.range first last, rest) := by
  rw [List.append_assoc, List.cons_append]
  simp [member?, item?_spelled, behindHyphen?_spelled, range?, ordered, bind, Except.bind]

/-! ## Levels -/

/-- Reading a text takes a level on to another, whatever is open around it and whatever follows, if
only what follows does not go on with a range. -/
def TakesOn (text : Text) (level next : ClassLevel) : Prop :=
  ∃ signs ≤ text.length, ∀ fuel levels rest, behindHyphen? rest = none →
    readClass (fuel + signs) level levels (text ++ rest) = readClass fuel next levels rest

/-- What follows a text does not go on with a range. -/
def EndsMember (text : Text) : Prop :=
  ∀ rest, behindHyphen? rest = none → behindHyphen? (text ++ rest) = none

namespace TakesOn

variable {text more : Text} {level next last : ClassLevel}

theorem refl (level : ClassLevel) : TakesOn [] level level :=
  ⟨0, Nat.le_refl 0, fun _ _ _ _ => rfl⟩

theorem trans (first : TakesOn text level next) (ends : EndsMember more)
    (second : TakesOn more next last) : TakesOn (text ++ more) level last := by
  rcases first with ⟨signs, fewer, reads⟩
  rcases second with ⟨later, fewerLater, readsLater⟩
  use later + signs
  constructor
  · rw [List.length_append]
    omega
  · intro fuel levels rest noRange
    rw [← Nat.add_assoc, List.append_assoc, reads _ _ _ (ends rest noRange),
      readsLater _ _ _ noRange]

/-- A single sign that is a member. -/
theorem of_member {inClass : CharClass} (nonempty : text ≠ [])
    (isSign : ∀ rest, behindHyphen? rest = none →
      classSign? (text ++ rest) = .ok (.member inClass, rest)) (level : ClassLevel) :
    TakesOn text level (level.add ⟨inClass, 0⟩) := by
  use 1
  constructor
  · exact List.length_pos_iff.2 nonempty
  · intro fuel levels rest noRange
    simp [readClass, isSign rest noRange, bind, Except.bind]

theorem of_operator (operator : SetOperator) (level : ClassLevel) :
    TakesOn (operatorSign operator) level (level.operate operator) := by
  use 1
  constructor
  · exact List.length_pos_iff.2 (startsWithout_operatorSign operator).ne_nil
  · intro fuel levels rest _
    cases operator <;> rfl

end TakesOn

/-! ## Signs -/

/-- A text that starts with no sign of a class is read as a member. -/
theorem classSign?_of_startsWithout {text : Text}
    (starts : StartsWithout ['[', ']', '&', '-', '~'] text) :
    classSign? text = (member? text).map fun (inClass, after) => (.member inClass, after) := by
  rcases starts with ⟨c, rest, rfl, isNone⟩
  unfold classSign?
  split <;> simp_all

theorem namedClasses_well : ∀ entry ∈ namedClasses,
    ':' ∉ entry.1 ∧ entry.1.head? ≠ some '^' ∧ namedClasses.lookup entry.1 = some entry.2 := by
  decide

theorem caret_complementSign {text : Text} (isComplement : Bool)
    (noCaret : text.head? ≠ some '^') :
    caret (complementSign isComplement ++ text) = (isComplement, text) := by
  cases isComplement with
  | true => rfl
  | false =>
    unfold caret
    split
    · next isCaret => exact absurd (congrArg List.head? isCaret) noCaret
    · rfl

theorem holds_complementIf (isComplement : Bool) (inClass : CharClass) (c : Char) :
    (complementIf isComplement inClass).holds c = (inClass.holds c != isComplement) := by
  cases isComplement with
  | true => simp [complementIf, CharClass.holds]
  | false => simp [complementIf]

theorem anyHolds_eq_any (classes : List CharClass) (c : Char) :
    CharClass.anyHolds classes c = classes.any fun inClass => inClass.holds c := by
  induction classes with
  | nil => rfl
  | cons first rest inductionHypothesis =>
    rw [CharClass.anyHolds, List.any_cons, inductionHypothesis]

/-- The class of a name, behind its opening bracket. -/
theorem namedClass?_eq {name : Text} {ranges : List (Char × Char)}
    (isNamed : (name, ranges) ∈ namedClasses) (isComplement : Bool) (rest : Text) :
    namedClass? (':' :: (complementSign isComplement ++ name ++ [':', ']']) ++ rest) =
      some (complementIf isComplement (inRanges ranges), rest) := by
  rcases namedClasses_well _ isNamed with ⟨noColon, noCaret, isFound⟩
  have isName : (name ++ ':' :: ']' :: rest).head? ≠ some '^' := by
    cases name with
    | nil => simp
    | cons c name => exact noCaret
  have cut : cutAt? [':'] (name ++ ':' :: ']' :: rest) = some (name, ']' :: rest) := by
    have absent : hasPart [':'] name = false :=
      hasPart_eq_false_of_not_mem List.mem_cons_self noColon
    simpa using cutAt?_of_absent List.not_mem_nil absent (']' :: rest)
  simp [namedClass?, caret_complementSign isComplement isName, cut, isFound]

/-! ## Reading -/

section Opening

variable {text : Text} (isComplement : Bool) (starts : StartsWithout ['-', ']', '^', ':'] text)
  (rest : Text)

include starts

/-- Nothing at the start of a class is read in another way than further inside. -/
theorem openLevel_eq :
    openLevel (complementSign isComplement ++ text ++ rest) =
      (⟨isComplement, none, []⟩, text ++ rest) := by
  rcases starts with ⟨c, more, rfl, isNone⟩
  simp only [List.mem_cons, List.not_mem_nil, or_false, not_or] at isNone
  rcases isNone with ⟨noHyphen, noBracket, noCaret, -⟩
  have ran : run (· == '-') (c :: (more ++ rest)) = ([], c :: (more ++ rest)) :=
    run_cons_of_neg (by simpa using noHyphen) _
  rw [openLevel, List.append_assoc, caret_complementSign isComplement (by simpa using noCaret)]
  simp [ran, noBracket]

theorem namedClass?_eq_none :
    namedClass? (complementSign isComplement ++ text ++ rest) = none := by
  rcases starts with ⟨c, more, rfl, isNone⟩
  have noColon : ':' ≠ c := by
    rintro rfl
    exact isNone (by decide)
  cases isComplement with
  | true => rfl
  | false => simp [namedClass?, complementSign, noColon]

theorem readClass_open (fuel : Nat) (level : ClassLevel) (levels : List ClassLevel) :
    readClass (fuel + 1) level levels ('[' :: (complementSign isComplement ++ text ++ rest)) =
      readClass fuel ⟨isComplement, none, []⟩ (level :: levels) (text ++ rest) := by
  simp only [readClass, classSign?, namedClass?_eq_none isComplement starts,
    openLevel_eq isComplement starts, bind, Except.bind]

end Opening

theorem readClass_close (fuel : Nat) (level outer : ClassLevel) (levels : List ClassLevel)
    (rest : Text) :
    readClass (fuel + 1) level (outer :: levels) (']' :: rest) =
      readClass fuel (outer.add level.finish) levels rest :=
  rfl

/-- How a part of a class that takes characters is read. A member is added to any level, and so are
members side by side. A set is read into a level from the start. -/
def ClassPart.IsRead (text : Text) (inPart : Char → Bool) : ClassPart → Prop
  | .member => ∀ level, ∃ member : Nested CharClass,
      TakesOn text level (level.add member) ∧ ∀ c, member.form.holds c = inPart c
  | .union => ∀ level, ∃ members : List (Nested CharClass),
      TakesOn text level { level with members := members ++ level.members } ∧
        ∀ c, (members.any fun member => member.form.holds c) = inPart c
  | .set => ∀ isComplement, ∃ next, TakesOn text ⟨isComplement, none, []⟩ next ∧
      next.isComplement = isComplement ∧ ∀ c, next.inside.form.holds c = inPart c

theorem holds_union (members : List (Nested CharClass)) (c : Char) :
    (Nested.union members).form.holds c = members.any fun member => member.form.holds c := by
  have areForms : (members.any fun member => member.form.holds c) =
      (members.map Nested.form).any fun inClass => inClass.holds c := by
    rw [List.any_map]
    rfl
  rw [areForms, Nested.union]
  unfold unionOf
  split
  · next inClass isSingle => rw [isSingle, List.any_cons, List.any_nil, Bool.or_false]
  · rw [CharClass.holds, anyHolds_eq_any]

theorem endsMember_of_startsWithout {text : Text} (starts : StartsWithout ['-'] text) :
    EndsMember text := by
  rcases starts with ⟨c, more, rfl, noHyphen⟩
  intro rest _
  unfold behindHyphen?
  split <;> simp_all

theorem endsMember_operatorSign (operator : SetOperator) : EndsMember (operatorSign operator) := by
  cases operator <;> exact fun _ _ => rfl

theorem Writes.endsMember {text : Text} {inUnion : Char → Bool}
    (writes : Writes .union text inUnion) : EndsMember text := by
  rcases writes.startsWell with rfl | starts
  · exact fun _ => id
  · exact endsMember_of_startsWithout (starts.mono (by decide))

/-- A member that is a single sign. -/
theorem isRead_of_sign {text : Text} {inClass : CharClass} (nonempty : text ≠ [])
    (isSign : ∀ rest, behindHyphen? rest = none →
      classSign? (text ++ rest) = .ok (.member inClass, rest)) :
    ClassPart.member.IsRead text inClass.holds :=
  fun level => ⟨_, .of_member nonempty isSign level, fun _ => rfl⟩

theorem isRead_of_item {text : Text} {item : Escape} {inClass : CharClass}
    (starts : StartsWithout ['[', ']', '&', '-', '~'] text)
    (isItem : ∀ rest, item? (text ++ rest) = .ok (item, rest))
    (isMember : item.member? = .ok inClass) : ClassPart.member.IsRead text inClass.holds := by
  apply isRead_of_sign starts.ne_nil
  intro rest noRange
  rw [classSign?_of_startsWithout (starts.append rest),
    member?_of_item (isItem rest) noRange isMember]
  rfl

theorem isRead_spelled (c : Char) :
    ClassPart.member.IsRead (spelled c) (CharClass.single c).holds :=
  isRead_of_item ((startsWithout_spelled c).mono (by decide)) (item?_spelled c) rfl

theorem isRead_range {first last : Char} (ordered : first ≤ last) :
    ClassPart.member.IsRead (spelled first ++ '-' :: spelled last)
      (CharClass.range first last).holds := by
  have starts := (startsWithout_spelled first).append ('-' :: spelled last)
  apply isRead_of_sign starts.ne_nil
  intro rest _
  rw [classSign?_of_startsWithout ((starts.mono (by decide)).append rest), member?_range ordered]
  rfl

theorem holds_inRanges (ranges : List (Char × Char)) (c : Char) :
    (inRanges ranges).holds c = ranges.any fun range => range.1 ≤ c && c ≤ range.2 := by
  rw [inRanges, CharClass.holds, anyHolds_eq_any, List.any_map]
  rfl

theorem isRead_named {name : Text} {ranges : List (Char × Char)} (isComplement : Bool)
    (isNamed : (name, ranges) ∈ namedClasses) :
    ClassPart.member.IsRead ('[' :: ':' :: (complementSign isComplement ++ name ++ [':', ']']))
      fun c => ranges.any (fun range => range.1 ≤ c && c ≤ range.2) != isComplement := by
  simp only [← holds_inRanges, ← holds_complementIf]
  apply isRead_of_sign (List.cons_ne_nil _ _)
  intro rest _
  rw [List.cons_append, classSign?, namedClass?_eq isNamed]

/-- A class in brackets is opened, read as a set and closed. -/
theorem isRead_brackets {text : Text} {inSet : Char → Bool} (isComplement : Bool)
    (starts : StartsWithout ['-', ']', '^', ':'] text) (isRead : ClassPart.set.IsRead text inSet) :
    ClassPart.member.IsRead ('[' :: (complementSign isComplement ++ text ++ [']']))
      fun c => inSet c != isComplement := by
  intro level
  rcases isRead isComplement with ⟨next, ⟨signs, fewer, reads⟩, sameComplement, holds⟩
  use next.finish
  constructor
  · use signs + 2
    constructor
    · simp only [List.length_cons, List.length_append]
      omega
    · intro fuel levels rest _
      calc readClass (fuel + (signs + 2)) level levels
            ('[' :: (complementSign isComplement ++ text ++ [']']) ++ rest)
          = readClass (fuel + 1 + signs + 1) level levels
              ('[' :: (complementSign isComplement ++ text ++ ']' :: rest)) := by
            congr 1
            · omega
            · simp
        _ = readClass (fuel + 1 + signs) ⟨isComplement, none, []⟩ (level :: levels)
              (text ++ ']' :: rest) := readClass_open isComplement starts _ _ _ _
        _ = readClass (fuel + 1) next (level :: levels) (']' :: rest) := reads _ _ _ rfl
        _ = readClass fuel (level.add next.finish) levels rest := readClass_close _ _ _ _ _
  · intro c
    rw [ClassLevel.finish, holds_complementIf, holds c, sameComplement]

/-- Everything that is written as a part of a class is read as the part. -/
theorem Writes.isRead {part : ClassPart} {text : Text} {inPart : Char → Bool}
    (writes : Writes part text inPart) : part.IsRead text inPart := by
  induction writes with
  | char c => exact isRead_spelled c
  | range ordered => exact isRead_range ordered
  | escape isEscape =>
    exact isRead_of_item ⟨'\\', _, rfl, by decide⟩ (item?_escape isEscape) rfl
  | named isComplement isNamed => exact isRead_named isComplement isNamed
  | brackets isComplement begins writes isRead =>
    exact isRead_brackets isComplement (writes.startsWithout begins) isRead
  | nil => exact fun level => ⟨[], .refl level, fun _ => rfl⟩
  | add _ writesMember isRead memberIsRead =>
    intro level
    rcases isRead level with ⟨members, takesUnion, holds⟩
    rcases memberIsRead _ with ⟨member, takesMember, holdsMember⟩
    use member :: members
    constructor
    · exact takesUnion.trans
        (endsMember_of_startsWithout (writesMember.startsWell.mono (by decide))) takesMember
    · intro c
      rw [List.any_cons, holdsMember c, holds c, Bool.or_comm]
  | union _ isRead =>
    intro isComplement
    rcases isRead ⟨isComplement, none, []⟩ with ⟨members, takesOn, holds⟩
    refine ⟨_, takesOn, rfl, ?_⟩
    intro c
    rw [← holds c, ClassLevel.inside, holds_union]
    simp
  | operate operator _ writesUnion isRead unionIsRead =>
    intro isComplement
    rcases isRead isComplement with ⟨next, takesSet, sameComplement, holdsSet⟩
    rcases unionIsRead (next.operate operator) with ⟨members, takesUnion, holds⟩
    have takesOperator := takesSet.trans (endsMember_operatorSign operator)
      (.of_operator operator next)
    refine ⟨_, takesOperator.trans writesUnion.endsMember takesUnion, sameComplement, ?_⟩
    intro c
    simp only [← holdsSet c, ← holds c]
    simp [ClassLevel.inside, ClassLevel.operate, CharClass.holds, holds_union]

/-- A class that is written between brackets is read as the characters that it stands for. -/
theorem class?_of_writes {text : Text} {inSet : Char → Bool} (isComplement : Bool)
    (begins : StartsWithout ['-'] text) (writes : Writes .set text inSet) (after : Text) :
    ∃ inClass, class? (complementSign isComplement ++ text ++ ']' :: after) = .ok (inClass, after) ∧
      ∀ c, inClass.form.holds c = (inSet c != isComplement) := by
  rcases writes.isRead isComplement with ⟨next, ⟨signs, fewer, reads⟩, sameComplement, holds⟩
  have enough : (text ++ ']' :: after).length + 1 =
      text.length - signs + after.length + 1 + 1 + signs := by
    simp only [List.length_append, List.length_cons]
    omega
  use next.finish
  constructor
  · rw [class?, openLevel_eq isComplement (writes.startsWithout begins)]
    simp only [enough]
    rw [reads _ _ _ rfl]
    rfl
  · intro c
    rw [ClassLevel.finish, holds_complementIf, holds c, sameComplement]

/-- The digits without one of them. -/
example :
    (class? "0-9--4]+".toList).map (fun (inClass, after) =>
      (inClass.form.holds '3', inClass.form.holds '4', after)) = .ok (true, false, ['+']) :=
  rfl

/-- No character is two at once. -/
example : (class? "a&&b]".toList).map (fun read => read.1.form.holds 'a') = .ok false :=
  rfl

/-- A range goes from one character to another, and an escape that stands for several is none. -/
example : class? "\\w-.]".toList = .error .badRange :=
  rfl

end Folio.Pattern
