import Folio.Config.Basic
import Folio.Proofs.Text.Mark
import Folio.Proofs.Text.Run
import Mathlib.Data.List.Chain

/-!
# Dollar signs without braces

A value is expanded only if it refers to a variable with braces. But then it is expanded as a
whole, so a doubled dollar sign and a name without braces count in it wherever they stand. Text in
front of a value is therefore kept as it is written in two cases: the value holds no reference with
braces, or no dollar sign of the text begins anything. In every other case there are variables for
which the text is not kept.
-/

namespace Folio.Config

/-- No dollar sign of a text has a dollar sign or a name behind it. -/
def Unmarked (text : Text) : Prop :=
  text.IsChain fun first second => first = '$' → second ≠ '$' ∧ Mark.isNameChar second = false

instance (text : Text) : Decidable (Unmarked text) :=
  inferInstanceAs (Decidable (List.IsChain _ text))

namespace Mark

theorem recognise?_of_ne {c : Char} (noDollar : c ≠ '$') (text : Text) :
    recognise? (c :: text) = none := by
  unfold recognise?
  split <;> simp_all

/-- Every mark begins with a dollar sign. -/
theorem exists_rest_of_recognise? {text : Text} {found : Mark × Text}
    (recognised : recognise? text = some found) : ∃ rest, text = '$' :: rest := by
  cases text with
  | nil => cases recognised
  | cons c text =>
    by_cases isDollar : c = '$'
    · exact ⟨text, by rw [isDollar]⟩
    · rw [recognise?_of_ne isDollar] at recognised
      cases recognised

theorem recognise?_dollar (text : Text) : recognise? ('$' :: '$' :: text) = some (.dollar, text) :=
  rfl

theorem ne_of_isNameChar {c d : Char} (isName : isNameChar c = true)
    (noName : isNameChar d = false) : c ≠ d := by
  rintro rfl
  rw [isName] at noName
  exact Bool.noConfusion noName

/-- A dollar sign in front of a name refers to the variable of that name. -/
theorem recognise?_name {c : Char} (isName : isNameChar c = true) (text : Text) :
    recognise? ('$' :: c :: text) =
      some (.reference (c :: text.takeWhile isNameChar) none, text.dropWhile isNameChar) := by
  have noDollar : c ≠ '$' := ne_of_isNameChar isName (by decide)
  have noBrace : c ≠ '\x7b' := ne_of_isNameChar isName (by decide)
  simp [recognise?, noDollar, noBrace, Text.run, isName]

/-- Any other character behind a dollar sign makes it a plain one. -/
theorem recognise?_other {c : Char} (noDollar : c ≠ '$') (noBrace : c ≠ '\x7b')
    (noName : isNameChar c = false) (text : Text) : recognise? ('$' :: c :: text) = none := by
  simp [recognise?, noDollar, noBrace, Text.run, noName]

end Mark

/-! ## Text in front of a value -/

section Lead

variable {lead : Text}

theorem unmarked_cons_cons {first second : Char} {text : Text} :
    Unmarked (first :: second :: text) ↔
      (first = '$' → second ≠ '$' ∧ Mark.isNameChar second = false) ∧ Unmarked (second :: text) :=
  List.isChain_cons_cons

/-- Text without a reference in braces that does not end with a dollar sign begins none, whatever
follows it. -/
theorem inert_opening (noReference : hasReferences lead = false)
    (noEnd : lead.getLast? ≠ some '$') : Text.Inert (Text.dropLead? Mark.opening) lead := by
  refine Text.inert_of_pair ?_ noReference noEnd
  intro text after found
  exact ⟨after, Text.dropLead?_eq_some_iff.1 found⟩

theorem ne_dollar_of_inert_opening {c : Char}
    (inert : Text.Inert (Text.dropLead? Mark.opening) [c]) : c ≠ '$' := by
  rintro rfl
  have missed := (Text.inert_cons.1 inert).1 ['\x7b']
  simp [Mark.opening] at missed

theorem ne_brace_of_inert_opening {c : Char}
    (inert : Text.Inert (Text.dropLead? Mark.opening) ('$' :: c :: lead)) : c ≠ '\x7b' := by
  rintro rfl
  have missed := (Text.inert_cons.1 inert).1 []
  simp [Mark.opening] at missed

/-- No mark begins in a text that is unmarked. -/
theorem inert_of_unmarked (unmarked : Unmarked lead)
    (inert : Text.Inert (Text.dropLead? Mark.opening) lead) :
    Text.Inert Mark.recognise? lead := by
  induction lead with
  | nil => trivial
  | cons c lead inductionHypothesis =>
    cases lead with
    | nil =>
      have noDollar := ne_dollar_of_inert_opening inert
      exact Text.inert_cons.2 ⟨fun rest => Mark.recognise?_of_ne noDollar _, trivial⟩
    | cons d lead =>
      obtain ⟨harmless, unmarked⟩ := unmarked_cons_cons.1 unmarked
      refine Text.inert_cons.2 ⟨?_, inductionHypothesis unmarked (Text.inert_cons.1 inert).2⟩
      intro rest
      by_cases isDollar : c = '$'
      · subst isDollar
        obtain ⟨noDollar, noName⟩ := harmless rfl
        exact Mark.recognise?_other noDollar (ne_brace_of_inert_opening inert) noName _
      · exact Mark.recognise?_of_ne isDollar _

theorem expandPieces_map_plain (valueOf : Text → Option Text) (text : Text)
    (pieces : List (Piece Mark)) :
    expandPieces valueOf (text.map Piece.plain ++ pieces) =
      (expandPieces valueOf pieces).map (text ++ ·) := by
  induction text with
  | nil =>
    change expandPieces valueOf pieces = _
    cases expandPieces valueOf pieces <;> rfl
  | cons c text inductionHypothesis =>
    rw [List.map_cons, List.cons_append, expandPieces, inductionHypothesis]
    cases expandPieces valueOf pieces <;> rfl

/-- Text in which no dollar sign begins anything is kept in front of every value. -/
theorem expand_append_of_unmarked (unmarked : Unmarked lead)
    (inert : Text.Inert (Text.dropLead? Mark.opening) lead) (valueOf : Text → Option Text)
    (text : Text) : expand valueOf (lead ++ text) = (expand valueOf text).map (lead ++ ·) := by
  rw [expand, expand, hasReferences, Text.hasPart_append_of_inert inert, ← hasReferences]
  split
  · rw [Text.pieces_append_of_inert (inert_of_unmarked unmarked inert), expandPieces_map_plain]
  · rfl

end Lead

/-! ## Variables that stand for their names -/

/-- What a value is expanded to where every variable stands for its own name. -/
def spelledOut (text : Text) : Except Text Text :=
  expandPieces some (Text.pieces Mark.recognise? text)

/-- No variable is missing where every one stands for its name. -/
theorem exists_spelledOut (text : Text) : ∃ value, spelledOut text = .ok value := by
  unfold spelledOut
  induction Text.pieces Mark.recognise? text with
  | nil => exact ⟨[], rfl⟩
  | cons piece pieces inductionHypothesis =>
    obtain ⟨value, expanded⟩ := inductionHypothesis
    cases piece with
    | plain c => exact ⟨c :: value, by rw [expandPieces, expanded]; rfl⟩
    | item mark =>
      cases mark with
      | dollar => exact ⟨'$' :: value, by rw [expandPieces, expanded]; rfl⟩
      | reference name fallback => exact ⟨name ++ value, by rw [expandPieces, expanded]; rfl⟩

theorem exists_expand_some (text : Text) : ∃ value, expand some text = .ok value := by
  rw [expand]
  split
  · exact exists_spelledOut text
  · exact ⟨text, rfl⟩

theorem spelledOut_cons_of_none {c : Char} {text : Text}
    (missed : Mark.recognise? (c :: text) = none) :
    spelledOut (c :: text) = (spelledOut text).map (c :: ·) := by
  rw [spelledOut, Text.pieces_cons_of_none missed]
  rfl

theorem spelledOut_dollar (text : Text) :
    spelledOut ('$' :: '$' :: text) = (spelledOut text).map ('$' :: ·) := by
  obtain ⟨value, expanded⟩ := exists_spelledOut text
  have pieces : Text.pieces Mark.recognise? ('$' :: '$' :: text) =
      .item .dollar :: Text.pieces Mark.recognise? text :=
    Text.pieces_append_of_some (List.cons_ne_nil '$' ['$']) (Mark.recognise?_dollar text)
  rw [expanded, spelledOut, pieces, expandPieces, ← spelledOut, expanded]
  rfl

/-- A dollar sign in front of a name goes, wherever the name ends. -/
theorem spelledOut_name {c : Char} (isName : Mark.isNameChar c = true) (text : Text) :
    spelledOut ('$' :: c :: text) = spelledOut (c :: text) := by
  let name := c :: text.takeWhile Mark.isNameChar
  let after := text.dropWhile Mark.isNameChar
  have split : c :: text = name ++ after := by
    simp only [name, after, List.cons_append, List.takeWhile_append_dropWhile]
  have nameChars : ∀ d ∈ name, Mark.isNameChar d = true :=
    List.forall_mem_cons.2 ⟨isName, List.all_eq_true.1 List.all_takeWhile⟩
  have noDollar : '$' ∉ name := fun member =>
    Mark.ne_of_isNameChar (nameChars '$' member) (by decide) rfl
  have inert : Text.Inert Mark.recognise? name :=
    Text.Inert.of_lead Mark.exists_rest_of_recognise?
      (Text.inert_of_not_mem noDollar : Text.Inert (Text.dropLead? ['$']) name)
  have found : Mark.recognise? ('$' :: name ++ after) = some (.reference name none, after) := by
    rw [List.cons_append, ← split]
    exact Mark.recognise?_name isName text
  obtain ⟨value, expanded⟩ := exists_spelledOut after
  rw [split, ← List.cons_append, spelledOut, spelledOut,
    Text.pieces_append_of_some (List.cons_ne_nil '$' name) found,
    Text.pieces_append_of_inert inert, expandPieces_map_plain, expandPieces, ← spelledOut, expanded]
  rfl

/-- What a text in front of any value is expanded to where variables stand for their names. -/
def SpelledAs (lead written : Text) : Prop :=
  ∀ {text value : Text}, spelledOut text = .ok value →
    spelledOut (lead ++ text) = .ok (written ++ value)

namespace SpelledAs

variable {lead written : Text}

theorem nil : SpelledAs [] [] :=
  fun expanded => expanded

theorem cons_of_none {c : Char} (spelled : SpelledAs lead written)
    (missed : ∀ text, Mark.recognise? (c :: (lead ++ text)) = none) :
    SpelledAs (c :: lead) (c :: written) := by
  intro text value expanded
  rw [List.cons_append, spelledOut_cons_of_none (missed text), spelled expanded]
  rfl

theorem dollar (spelled : SpelledAs lead written) :
    SpelledAs ('$' :: '$' :: lead) ('$' :: written) := by
  intro text value expanded
  rw [List.cons_append, List.cons_append, spelledOut_dollar, spelled expanded]
  rfl

theorem name {c : Char} (isName : Mark.isNameChar c = true)
    (spelled : SpelledAs (c :: lead) written) : SpelledAs ('$' :: c :: lead) written := by
  intro text value expanded
  rw [List.cons_append, List.cons_append, spelledOut_name isName]
  exact spelled expanded

end SpelledAs

/-- Text in front of a value loses a dollar sign for every mark in it where variables stand for
their names. So only text without marks keeps its length. -/
theorem exists_spelledAs : ∀ {lead : Text}, Text.Inert (Text.dropLead? Mark.opening) lead →
    ∃ written, SpelledAs lead written ∧ written.length ≤ lead.length ∧
      (written.length = lead.length → Unmarked lead)
  | [], _ => ⟨[], SpelledAs.nil, le_rfl, fun _ => List.isChain_nil⟩
  | [c], inert => by
    have missed := Mark.recognise?_of_ne (ne_dollar_of_inert_opening inert)
    exact ⟨[c], SpelledAs.nil.cons_of_none missed, le_rfl, fun _ => List.isChain_singleton c⟩
  | c :: d :: lead, inert => by
    have tailInert := (Text.inert_cons.1 inert).2
    obtain ⟨written, spelled, isShort, keeps⟩ := exists_spelledAs tailInert
    by_cases isDollar : c = '$'
    · subst isDollar
      by_cases isDoubled : d = '$'
      · -- Both dollar signs are one mark, so what is behind them is read on its own.
        subst isDoubled
        obtain ⟨written, spelled, isShort, -⟩ := exists_spelledAs (Text.inert_cons.1 tailInert).2
        refine ⟨'$' :: written, spelled.dollar, ?_, ?_⟩
        · simp only [List.length_cons]
          omega
        · simp only [List.length_cons]
          omega
      · cases isName : Mark.isNameChar d with
        | true =>
          refine ⟨written, spelled.name isName, Nat.le_succ_of_le isShort, ?_⟩
          intro sameLength
          rw [sameLength, List.length_cons] at isShort
          omega
        | false =>
          have missed (text : Text) :=
            Mark.recognise?_other isDoubled (ne_brace_of_inert_opening inert) isName (lead ++ text)
          refine ⟨'$' :: written, spelled.cons_of_none missed, Nat.succ_le_succ isShort, ?_⟩
          intro sameLength
          have unmarked := keeps (Nat.succ.inj sameLength)
          exact unmarked_cons_cons.2 ⟨fun _ => ⟨isDoubled, isName⟩, unmarked⟩
    · have missed (text : Text) := Mark.recognise?_of_ne isDollar (d :: lead ++ text)
      refine ⟨c :: written, spelled.cons_of_none missed, Nat.succ_le_succ isShort, ?_⟩
      intro sameLength
      have unmarked := keeps (Nat.succ.inj sameLength)
      exact unmarked_cons_cons.2 ⟨fun same => absurd same isDollar, unmarked⟩

/-- Where variables stand for their names, only text without marks is kept in front of a value
that refers to a variable. -/
theorem unmarked_of_expand_append {lead text : Text}
    (inert : Text.Inert (Text.dropLead? Mark.opening) lead)
    (hasReference : hasReferences text = true)
    (isKept : expand some (lead ++ text) = (expand some text).map (lead ++ ·)) :
    Unmarked lead := by
  obtain ⟨written, spelled, -, keeps⟩ := exists_spelledAs inert
  obtain ⟨value, expanded⟩ := exists_spelledOut text
  have stillReference : hasReferences (lead ++ text) = true :=
    (Text.hasPart_append_of_inert inert text).trans hasReference
  have sameValue : Except.ok (written ++ value) = (.ok (lead ++ value) : Except Text Text) := by
    rw [expand, expand, if_pos stillReference, if_pos hasReference, ← spelledOut, ← spelledOut,
      spelled expanded, expanded] at isKept
    exact isKept
  obtain rfl : written = lead := List.append_cancel_right (Except.ok.inj sameValue)
  exact keeps rfl

/-! ## Fields -/

theorem expandField_some (valueOf : Text → Option Text) (field : Field) (text : Text) :
    expandField valueOf field (some text) =
      ((expand valueOf text).mapError (Fault.unset field)).map some := by
  rw [expandField]
  cases expand valueOf text <;> rfl

/-- Text in front of the value of a field is kept as it is written, for all variables, exactly if
the value holds no reference with braces or no dollar sign of the text begins anything. -/
theorem expandField_append {lead : Text} (noReference : hasReferences lead = false)
    (noEnd : lead.getLast? ≠ some '$') (text : Text) :
    (∀ valueOf field, expandField valueOf field (some (lead ++ text)) =
        (expandField valueOf field (some text)).map (Option.map (lead ++ ·))) ↔
      hasReferences text = false ∨ Unmarked lead := by
  have inert := inert_opening noReference noEnd
  constructor
  · intro isKept
    cases hasReference : hasReferences text with
    | false => exact .inl rfl
    | true =>
      refine .inr (unmarked_of_expand_append inert hasReference ?_)
      have kept := isKept some .name
      obtain ⟨whole, expandedWhole⟩ := exists_expand_some (lead ++ text)
      obtain ⟨value, expanded⟩ := exists_expand_some text
      rw [expandField_some, expandField_some, expandedWhole, expanded] at kept
      obtain rfl : whole = lead ++ value := Option.some.inj (Except.ok.inj kept)
      rw [expandedWhole, expanded]
      rfl
  · intro harmless valueOf field
    have kept : expand valueOf (lead ++ text) = (expand valueOf text).map (lead ++ ·) := by
      rcases harmless with noReferences | unmarked
      · rw [expand_of_not_hasReferences valueOf noReferences, expand_of_not_hasReferences]
        · rfl
        · exact (Text.hasPart_append_of_inert inert text).trans noReferences
      · exact expand_append_of_unmarked unmarked inert valueOf text
    rw [expandField_some, expandField_some, kept]
    cases expand valueOf text <;> rfl

/-- A drawing with dollar signs that begin nothing is kept in front of a reference. -/
theorem expandField_append_of_drawing :
    let lead := "<path d='M0 0h$'/> 5$ ".toList
    let text := "$\x7bKDOCS_NAME:-Docs\x7d".toList
    hasReferences lead = false ∧ lead.getLast? ≠ some '$' ∧
      (∀ valueOf field, expandField valueOf field (some (lead ++ text)) =
        (expandField valueOf field (some text)).map (Option.map (lead ++ ·))) ∧
      expandField (fun _ => none) .logo (some (lead ++ text)) =
        .ok (some "<path d='M0 0h$'/> 5$ Docs".toList) := by
  intro lead text
  have noReference : hasReferences lead = false := by decide
  have noEnd : lead.getLast? ≠ some '$' := by decide
  refine ⟨noReference, noEnd, ?_, by decide⟩
  exact (expandField_append noReference noEnd text).2 (.inr (by decide))

/-- A doubled dollar sign and a name without braces are kept where no reference with braces follows
them, and not in front of one. -/
theorem expandField_append_of_marks :
    let dollars := "US$$ ".toList
    let bareName := "$USER ".toList
    let text := "$\x7bKDOCS_UNSET:-Docs\x7d".toList
    let valueOf : Text → Option Text := fun name =>
      if name = "USER".toList then some "ada".toList else none
    hasReferences dollars = false ∧ dollars.getLast? ≠ some '$' ∧
      hasReferences bareName = false ∧ bareName.getLast? ≠ some '$' ∧
      expandField valueOf .name (some dollars) = .ok (some dollars) ∧
      expandField valueOf .name (some bareName) = .ok (some bareName) ∧
      expandField valueOf .name (some text) = .ok (some "Docs".toList) ∧
      expandField valueOf .name (some (dollars ++ text)) = .ok (some "US$ Docs".toList) ∧
      expandField valueOf .name (some (bareName ++ text)) = .ok (some "ada Docs".toList) := by
  decide

end Folio.Config
