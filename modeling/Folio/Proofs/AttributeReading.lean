import Folio.Proofs.Attribute
import Folio.Proofs.Text.Octet
import Folio.Proofs.Unicode.LowerCase

/-!
# Reading attributes turn by turn

An attribute list can be read in turns on what is left of the text: a turn takes one attribute, and
the whitespace after it is dropped. The ends of keys and values are searched for, and the text is
cut at the offsets that the searches give. However a text is written, every such cut is at a place
where a character begins or the text ends, every turn leaves less than it found, and the turns
together give the attributes of the text. So the reading comes to its end, and no key is empty or
holds whitespace.
-/

namespace Folio.Attribute

open Text

/-! ## One turn -/

/-- The key of an attribute is the lower case of a word without whitespace. -/
theorem key_of_attribute? {text after : Text} {field : Attribute}
    (found : attribute? text = some (field, after)) :
    ∃ word, field.key = Unicode.lowerCase word ∧ word ≠ [] ∧
      ∀ c ∈ word, Unicode.isBlank c = false := by
  rcases keyed_or_flag_of_attribute? found with
    ⟨key, value, keyed, rfl⟩ | ⟨flag, nonempty, visible, -, rfl⟩
  · rcases keyed?_eq_some_iff.1 keyed with ⟨nonempty, plainKey, -⟩
    refine ⟨key, rfl, nonempty, ?_⟩
    exact fun c member => (Bool.or_eq_false_iff.1 (plainKey c member)).2
  · exact ⟨flag, rfl, nonempty, visible⟩

theorem key_of_mem_list {text : Text} {field : Attribute} (member : field ∈ list text) :
    field.key ≠ [] ∧ ∀ c ∈ field.key, Unicode.isBlank c = false := by
  rcases exists_found_of_mem_items attribute?_proper member with ⟨-, taken, after, -, found⟩
  rcases key_of_attribute? found with ⟨word, isLower, nonempty, visible⟩
  rw [isLower]
  constructor
  · exact fun isEmpty => nonempty (Unicode.lowerCase_eq_nil_iff.1 isEmpty)
  · have noBlank : (Unicode.lowerCase word).any Unicode.isBlank = false := by
      rw [Unicode.any_isBlank_lowerCase]
      simpa using visible
    simpa using noBlank

/-- After a turn and the whitespace that follows it, less of the text is left. -/
theorem exists_taken_of_turn {remaining : Text} (nonempty : remaining ≠ []) :
    ∃ taken, taken ≠ [] ∧ remaining = taken ++ trimStart (turn remaining).2 := by
  cases remaining with
  | nil => exact absurd rfl nonempty
  | cons c text =>
    cases blank : Unicode.isBlank c with
    | false =>
      have found : attribute? (c :: text) = some (turn (c :: text)) := by
        rw [attribute?_cons, blank]
        rfl
      rcases attribute?_proper found with ⟨taken, takes, split⟩
      refine ⟨taken ++ (turn (c :: text)).2.takeWhile Unicode.isBlank, by simp [takes], ?_⟩
      rw [List.append_assoc, trimStart, List.takeWhile_append_dropWhile]
      exact split
    | true =>
      -- Where no attribute starts, a turn takes nothing, and the whitespace is dropped after it.
      have stays : (turn (c :: text)).2 = c :: text := by
        simp [turn, keyed?, run, blank]
      rw [stays, trimStart, List.dropWhile_cons_of_pos blank]
      refine ⟨c :: text.takeWhile Unicode.isBlank, by simp, ?_⟩
      rw [List.cons_append, List.takeWhile_append_dropWhile]

/-! ## One turn by offsets -/

/-- Reads a value between two quotation marks, of which the second is searched for. -/
def quotedValueByOffset? (mark : Char) (text : Text) : Except BadOffset (Option (Text × Text)) :=
  match dropLead? [mark] text with
  | none => .ok none
  | some stripped =>
    match octetOffset? (· == mark) stripped with
    | none => .ok none
    | some closing => do
      let (value, _) ← cutAtOctet closing stripped
      let (_, rest) ← cutAtOctet (closing + 1) stripped
      return some (value, rest)

/-- Reads a value, which goes up to whitespace if it is not between quotation marks. -/
def readValueByOffset (text : Text) : Except BadOffset (Text × Text) := do
  match ← quotedValueByOffset? '"' text with
  | some value => return value
  | none =>
    match ← quotedValueByOffset? '\'' text with
    | some value => return value
    | none => cutAtOctet ((octetOffset? Unicode.isBlank text).getD (octets text)) text

/-- Reads a key and its value, if an equals sign comes before the first whitespace. -/
def keyedByOffset? (text : Text) : Except BadOffset (Option (Text × Text × Text)) :=
  match octetOffset? (fun c => c == '=' || Unicode.isBlank c) text with
  | none => .ok none
  | some keyEnd =>
    if keyEnd = 0 then .ok none
    else do
      let (key, tail) ← cutAtOctet keyEnd text
      if startsWith ['='] tail then
        let (_, afterEquals) ← cutAtOctet (keyEnd + 1) text
        let (value, rest) ← readValueByOffset afterEquals
        return some (key, value, rest)
      else return none

/-- One turn: an attribute with a key, or a flag that goes up to whitespace. -/
def turnByOffset (remaining : Text) : Except BadOffset (Attribute × Text) := do
  match ← keyedByOffset? remaining with
  | some (key, value, rest) => return (⟨Unicode.lowerCase key, value⟩, rest)
  | none =>
    let (flag, rest) ←
      cutAtOctet ((octetOffset? Unicode.isBlank remaining).getD (octets remaining)) remaining
    return (⟨Unicode.lowerCase flag, flagValue⟩, rest)

/-- After a start of a text that is followed by a character of one octet, the text can be cut before
that character and after it. -/
theorem cuts_at_single {c : Char} (single : octets [c] = 1) (word rest : Text) :
    cutAtOctet (octets word) (word ++ c :: rest) = .ok (word, c :: rest) ∧
      cutAtOctet (octets word + 1) (word ++ c :: rest) = .ok (word ++ [c], rest) := by
  constructor
  · exact cutAtOctet_append rfl _
  · have size : octets (word ++ [c]) = octets word + 1 := by rw [octets_append, single]
    rw [← cutAtOctet_append size rest, List.append_assoc, List.singleton_append]

theorem hasPart_of_run {mark : Char} {text word rest : Text}
    (read : run (fun c => !(c == mark)) text = (word, rest)) : hasPart [mark] word = false := by
  apply hasPart_eq_false_of_not_mem (List.mem_singleton_self mark)
  intro member
  simpa using (eq_append_of_run read).2 mark member

/-- A text is cut at a single character where the run of other characters ends. -/
theorem cutAt?_of_run {mark : Char} {text word rest : Text}
    (read : run (fun c => !(c == mark)) text = (word, mark :: rest)) :
    cutAt? [mark] text = some (word, rest) := by
  have cut := cutAt?_of_absent List.not_mem_nil (hasPart_of_run read) rest
  rwa [List.append_assoc, List.singleton_append, ← (eq_append_of_run read).1] at cut

theorem cutAt?_of_run_all {mark : Char} {text word : Text}
    (read : run (fun c => !(c == mark)) text = (word, [])) : cutAt? [mark] text = none := by
  rw [(eq_append_of_run read).1, List.append_nil]
  exact hasPart_eq_false_iff.1 (hasPart_of_run read)

theorem quotedValueByOffset?_eq {mark : Char} (single : octets [mark] = 1) (text : Text) :
    quotedValueByOffset? mark text = .ok (quotedValue? mark text) := by
  cases text with
  | nil => rfl
  | cons c stripped =>
    rw [quotedValueByOffset?, quotedValue?, dropLead?_cons_cons, dropLead?_nil]
    by_cases isMark : c = mark
    · subst isMark
      rw [if_pos rfl, if_pos rfl]
      dsimp only
      cases read : run (fun d => !(d == c)) stripped with
      | mk word rest =>
        rw [octetOffset?_of_run read]
        cases rest with
        | nil => rw [cutAt?_of_run_all read, if_pos rfl]
        | cons d rest =>
          obtain rfl : d = c := by simpa using (run_eq_iff.1 read).2.2 d rfl
          rcases eq_append_of_run read with ⟨rfl, -⟩
          rcases cuts_at_single single word rest with ⟨before, after⟩
          rw [cutAt?_of_run read, if_neg (List.cons_ne_nil d rest)]
          dsimp only
          rw [before, after]
          rfl
    · rw [if_neg isMark, if_neg (Ne.symm isMark)]

theorem readValueByOffset_eq (text : Text) : readValueByOffset text = .ok (readValue text) := by
  have isDouble : octets ['"'] = 1 := rfl
  have isSingle : octets ['\''] = 1 := rfl
  rw [readValueByOffset, readValue, quotedValueByOffset?_eq isDouble,
    quotedValueByOffset?_eq isSingle, cutAtOctet_octetOffset?]
  cases quotedValue? '"' text with
  | some value => rfl
  | none => cases quotedValue? '\'' text <;> rfl

theorem keyedByOffset?_eq (text : Text) : keyedByOffset? text = .ok (keyed? text) := by
  have isEquals : octets ['='] = 1 := rfl
  cases read : run (fun c => !(c == '=' || Unicode.isBlank c)) text with
  | mk key tail =>
    rcases eq_append_of_run read with ⟨rfl, -⟩
    rw [keyedByOffset?, octetOffset?_of_run read, keyed?_of_run read]
    by_cases atEnd : tail = []
    · subst atEnd
      rw [if_pos rfl]
      cases key <;> rfl
    · rw [if_neg atEnd]
      by_cases noKey : key = []
      · subst noKey
        rfl
      · dsimp only
        rw [if_neg noKey, if_neg (octets_eq_zero_iff.not.2 noKey), cutAtOctet_append rfl]
        dsimp only [bind, Except.bind]
        rw [startsWith]
        cases equals : dropLead? ['='] tail with
        | none => rfl
        | some rest =>
          obtain rfl : tail = '=' :: rest := dropLead?_eq_some_iff.1 equals
          rw [(cuts_at_single isEquals key rest).2]
          dsimp only
          rw [readValueByOffset_eq]
          rfl

theorem turnByOffset_eq (remaining : Text) : turnByOffset remaining = .ok (turn remaining) := by
  rw [turnByOffset, turn, keyedByOffset?_eq, cutAtOctet_octetOffset?]
  cases keyed? remaining <;> rfl

/-! ## All turns -/

theorem length_trimStart_lt {remaining rest : Text} {field : Attribute} (nonempty : remaining ≠ [])
    (read : turnByOffset remaining = .ok (field, rest)) :
    (trimStart rest).length < remaining.length := by
  rw [turnByOffset_eq] at read
  rcases exists_taken_of_turn nonempty with ⟨taken, takes, split⟩
  rw [Except.ok.inj read] at split
  have shorter := congrArg List.length split
  have := List.length_pos_iff.2 takes
  simp only [List.length_append] at shorter
  omega

/-- Takes turns until nothing is left. -/
def listByOffset (remaining : Text) : Except BadOffset (List Attribute) :=
  if _ : remaining = [] then .ok []
  else
    match _ : turnByOffset remaining with
    | .error bad => .error bad
    | .ok (field, rest) => (listByOffset (trimStart rest)).map (field :: ·)
termination_by remaining.length
decreasing_by apply length_trimStart_lt <;> assumption

theorem listByOffset_nil : listByOffset [] = .ok [] := by
  rw [listByOffset, dif_pos rfl]

theorem listByOffset_of_ne_nil {remaining : Text} (nonempty : remaining ≠ []) :
    listByOffset remaining =
      (listByOffset (trimStart (turn remaining).2)).map ((turn remaining).1 :: ·) := by
  rw [listByOffset, dif_neg nonempty]
  split
  · next bad failed =>
    rw [turnByOffset_eq] at failed
    cases failed
  · next field rest read =>
    rw [turnByOffset_eq] at read
    rw [Except.ok.inj read]

/-- The turns give the attributes of the text, and none of them fails. -/
theorem listByOffset_trimStart (text : Text) :
    listByOffset (trimStart text) = .ok (list text) := by
  induction text using scan_induction attribute?_proper with
  | nil => exact listByOffset_nil
  | plain c text missed inductionHypothesis =>
    have blank : Unicode.isBlank c = true := by
      rw [attribute?_cons] at missed
      by_contra visible
      simp [visible] at missed
    have same : list (c :: text) = list text := by
      rw [list, items, pieces_cons_of_none missed]
      rfl
    rw [same, trimStart, List.dropWhile_cons_of_pos blank]
    exact inductionHypothesis
  | item taken after field nonempty found inductionHypothesis =>
    have same : list (taken ++ after) = field :: list after := items_append_of_some nonempty found
    cases taken with
    | nil => exact absurd rfl nonempty
    | cons c taken =>
      rw [List.cons_append, attribute?_cons] at found
      split at found
      · cases found
      · next visible =>
        have trimmed : trimStart (c :: taken ++ after) = c :: taken ++ after :=
          List.dropWhile_cons_of_neg visible
        rw [same, trimmed, listByOffset_of_ne_nil (by simp), List.cons_append,
          Option.some.inj found, inductionHypothesis]
        rfl

/-- Reading attributes always gets on. Whatever is left of a text, a turn cuts it at places where a
character begins or the text ends, and leaves a shorter end of it. So the turns come to their end,
with the attributes of the text, and no key of these is empty or holds whitespace. -/
theorem listByOffset_progresses (text : Text) :
    (∀ remaining, remaining ≠ [] → ∃ field rest,
      turnByOffset remaining = .ok (field, rest) ∧ trimStart rest <:+ remaining ∧
        (trimStart rest).length < remaining.length) ∧
    listByOffset (trimStart text) = .ok (list text) ∧
    ∀ field ∈ list text, field.key ≠ [] ∧ ∀ c ∈ field.key, Unicode.isBlank c = false := by
  refine ⟨?_, listByOffset_trimStart text, fun _ => key_of_mem_list⟩
  intro remaining nonempty
  have read := turnByOffset_eq remaining
  rcases exists_taken_of_turn nonempty with ⟨taken, -, split⟩
  exact ⟨_, _, read, ⟨taken, split.symm⟩, length_trimStart_lt nonempty read⟩

/-- Words of equals signs are flags, a mark that is not closed belongs to a bare value, and letters
of two octets stand on both sides of an equals sign. -/
theorem listByOffset_progresses_of_stray_marks :
    let text := "=== =é ü=\"ß 'x='y' ".toList
    (∃ field rest, turnByOffset text = .ok (field, rest) ∧ trimStart rest <:+ text ∧
      (trimStart rest).length < text.length) ∧
    listByOffset (trimStart text) =
      .ok [⟨"===".toList, flagValue⟩, ⟨"=é".toList, flagValue⟩, ⟨"ü".toList, "\"ß".toList⟩,
        ⟨"'x".toList, "y".toList⟩] ∧
    ("ü".toList ≠ [] ∧ ∀ c ∈ "ü".toList, Unicode.isBlank c = false) := by
  intro text
  have listed : list text =
      [⟨"===".toList, flagValue⟩, ⟨"=é".toList, flagValue⟩, ⟨"ü".toList, "\"ß".toList⟩,
        ⟨"'x".toList, "y".toList⟩] := by
    decide +kernel
  rcases listByOffset_progresses text with ⟨progress, read, proper⟩
  refine ⟨progress text (List.cons_ne_nil _ _), ?_, ?_⟩
  · rw [read, listed]
  · exact proper ⟨"ü".toList, "\"ß".toList⟩ (by simp [listed])

end Folio.Attribute
