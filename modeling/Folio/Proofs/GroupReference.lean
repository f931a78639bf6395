import Folio.Link.Rule
import Folio.Proofs.Pattern.Numbering
import Folio.Proofs.Pattern.Search
import Folio.Proofs.Text.Run
import Folio.Proofs.Text.Scan
import Mathlib.Data.Nat.Digits.Defs

/-!
# Commands with references

The command that a rule makes of a link is read once, from left to right. A `$` and the longest run
of decimal digits behind it refer to a part that the rule took out of the link, and the part is
written in their place; every other character is kept. Where the references of a command are is
settled before any link is known, so parts are written as they are and are never read. Which parts
there are is up to the rule; that of a written pattern takes them with a match of the pattern.
-/

namespace Folio.LinkRule

open Text

/-! ## Numbers of parts -/

/-- The number that ASCII digits write; the last digit counts one, the digit before it ten, and so
on. -/
def decimalValue (digits : Text) : Nat :=
  Nat.ofDigits 10 (digits.reverse.map fun d => d.toNat - '0'.toNat)

theorem number?_eq_some_iff {digits : Text} {number : Nat} :
    Entity.number? digits = some number ↔
      digits ≠ [] ∧ (∀ d ∈ digits, d.isDigit = true) ∧ decimalValue digits = number := by
  have value : digits.foldl (fun n c => 10 * n + (c.toNat - '0'.toNat)) 0 =
      decimalValue digits := by
    rw [decimalValue, Nat.ofDigits_eq_foldr, List.foldr_map, List.foldr_reverse]
    simp only [Nat.cast_id, Nat.add_comm]
  rw [Entity.number?, value]
  simp [and_assoc]

/-- Digits write the number of a part: they are ASCII digits, and the number fits into 64 bits. -/
structure WritesNumber (digits : Text) (number : Nat) : Prop where
  ascii : ∀ d ∈ digits, d.isDigit = true
  value : decimalValue digits = number
  fits : number < UInt64.size

theorem partNumber?_eq_some_iff {digits : Text} {number : Nat} (nonempty : digits ≠ []) :
    partNumber? digits = some number ↔ WritesNumber digits number := by
  rw [partNumber?, Option.filter_eq_some_iff, number?_eq_some_iff, decide_eq_true_eq]
  constructor
  · exact fun ⟨⟨_, ascii, value⟩, fits⟩ => ⟨ascii, value, fits⟩
  · exact fun ⟨ascii, value, fits⟩ => ⟨⟨nonempty, ascii, value⟩, fits⟩

/-- What the digits of a reference stand for, among the parts that a rule took out of a link. The
part with the number zero is all of what was matched. -/
inductive StandsFor (captures : Captures) (digits : Text) : Text → Prop
  | part {number : Nat} {taken : Text} (writes : WritesNumber digits number)
      (took : captures[number]? = some (some taken)) : StandsFor captures digits taken
  | idle {number : Nat} (writes : WritesNumber digits number)
      (took : captures[number]? = some none) : StandsFor captures digits []
  | missing {number : Nat} (writes : WritesNumber digits number)
      (took : captures[number]? = none) : StandsFor captures digits []
  | noNumber (noNumber : ∀ number, ¬ WritesNumber digits number) : StandsFor captures digits []

/-- The digits of a reference stand for one text. -/
theorem standsFor_iff {captures : Captures} {digits value : Text} (nonempty : digits ≠ []) :
    StandsFor captures digits value ↔ value = LinkRule.part captures digits := by
  constructor
  · intro standsFor
    cases standsFor with
    | part writes took | idle writes took | missing writes took =>
      rw [LinkRule.part, (partNumber?_eq_some_iff nonempty).2 writes, Option.bind_some, took]
      rfl
    | noNumber noNumber =>
      have written : partNumber? digits = none := by
        rw [Option.eq_none_iff_forall_ne_some]
        exact fun number written => noNumber number ((partNumber?_eq_some_iff nonempty).1 written)
      rw [LinkRule.part, written]
      rfl
  · rintro rfl
    rw [LinkRule.part]
    cases written : partNumber? digits with
    | none =>
      refine .noNumber fun number writes => ?_
      rw [(partNumber?_eq_some_iff nonempty).2 writes] at written
      cases written
    | some number =>
      have writes := (partNumber?_eq_some_iff nonempty).1 written
      rw [Option.bind_some]
      cases took : captures[number]? with
      | none => exact .missing writes took
      | some taken =>
        cases taken with
        | none => exact .idle writes took
        | some taken => exact .part writes took

/-! ## References -/

/-- A reference is a `$` and all the decimal digits behind it, of which there is at least one. -/
theorem reference?_eq_some_iff {text digits rest : Text} :
    reference? text = some (digits, rest) ↔
      digits ≠ [] ∧ (∀ d ∈ digits, Unicode.isDecimalDigit d = true) ∧
        (∀ d, rest.head? = some d → Unicode.isDecimalDigit d = false) ∧
        text = '$' :: (digits ++ rest) := by
  constructor
  · intro found
    unfold reference? at found
    split at found
    · next text =>
      split at found
      · cases found
      · next word after nonempty ran =>
        obtain ⟨rfl, rfl⟩ := Prod.mk.inj (Option.some.inj found)
        obtain ⟨rfl, all, maximal⟩ := run_eq_iff.1 ran
        exact ⟨nonempty, all, maximal, rfl⟩
    · cases found
  · rintro ⟨nonempty, all, maximal, rfl⟩
    rw [reference?, run_eq_iff.2 ⟨rfl, all, maximal⟩]
    cases digits with
    | nil => exact absurd rfl nonempty
    | cons d digits => rfl

/-- No reference starts with another character, nor with a `$` that no digit follows. -/
theorem reference?_cons_eq_none_iff {c : Char} {rest : Text} :
    reference? (c :: rest) = none ↔
      (c = '$' → ∀ d, rest.head? = some d → Unicode.isDecimalDigit d = false) := by
  constructor
  · rintro missed rfl d isHead
    obtain ⟨more, rfl⟩ := List.head?_eq_some_iff.1 isHead
    cases digit : Unicode.isDecimalDigit d with
    | false => rfl
    | true => simp [reference?, run, digit] at missed
  · intro noDigit
    rw [Option.eq_none_iff_forall_ne_some]
    rintro ⟨digits, after⟩ found
    obtain ⟨nonempty, all, -, split⟩ := reference?_eq_some_iff.1 found
    obtain ⟨rfl, rfl⟩ := List.cons.inj split
    cases digits with
    | nil => exact absurd rfl nonempty
    | cons d digits =>
      have outside := noDigit rfl d rfl
      rw [all d List.mem_cons_self] at outside
      cases outside

theorem reference?_proper : Proper reference? := by
  intro text after digits found
  obtain ⟨-, -, -, split⟩ := reference?_eq_some_iff.1 found
  exact ⟨'$' :: digits, List.cons_ne_nil _ _, split⟩

/-! ## Commands -/

/-- A command is expanded, for the parts that a rule took out of a link: a reference is replaced by
what it stands for, and every other character is kept. -/
inductive Expanded (captures : Captures) : (command expanded : Text) → Prop
  | nil : Expanded captures [] []
  | reference {digits rest value expanded : Text} (nonempty : digits ≠ [])
      (all : ∀ d ∈ digits, Unicode.isDecimalDigit d = true)
      (maximal : ∀ d, rest.head? = some d → Unicode.isDecimalDigit d = false)
      (standsFor : StandsFor captures digits value) (later : Expanded captures rest expanded) :
      Expanded captures ('$' :: (digits ++ rest)) (value ++ expanded)
  | kept {c : Char} {rest expanded : Text}
      (noReference : c = '$' → ∀ d, rest.head? = some d → Unicode.isDecimalDigit d = false)
      (later : Expanded captures rest expanded) : Expanded captures (c :: rest) (c :: expanded)

/-- Replacing the references of a command is the one way to expand it. -/
theorem expanded_iff {captures : Captures} {command expanded : Text} :
    Expanded captures command expanded ↔ expanded = expandWith captures command := by
  constructor
  · intro isExpanded
    induction isExpanded with
    | nil => rfl
    | @reference digits rest value expanded nonempty all maximal standsFor later
        inductionHypothesis =>
      have found := reference?_eq_some_iff.2 ⟨nonempty, all, maximal, rfl⟩
      have read := pieces_append_of_some (List.cons_ne_nil '$' digits) found
      rw [expandWith, substitute, ← List.cons_append, read, List.flatMap_cons, inductionHypothesis,
        (standsFor_iff nonempty).1 standsFor]
      rfl
    | @kept c rest expanded noReference later inductionHypothesis =>
      rw [expandWith, substitute, pieces_cons_of_none (reference?_cons_eq_none_iff.2 noReference),
        List.flatMap_cons, inductionHypothesis]
      rfl
  · rintro rfl
    rw [expandWith]
    induction command using scan_induction reference?_proper with
    | nil => exact .nil
    | plain c rest missed inductionHypothesis =>
      rw [substitute, pieces_cons_of_none missed, List.flatMap_cons]
      exact .kept (reference?_cons_eq_none_iff.1 missed) inductionHypothesis
    | item taken rest digits taking found inductionHypothesis =>
      obtain ⟨nonempty, all, maximal, split⟩ := reference?_eq_some_iff.1 found
      rw [substitute, pieces_append_of_some taking found, List.flatMap_cons, split]
      exact .reference nonempty all maximal ((standsFor_iff nonempty).2 rfl) inductionHypothesis

/-! ## Rules -/

/-- A rule makes a command of a link exactly if it fits the link. The command is the one of the rule
with every reference replaced, from left to right, by what it stands for among the parts of the
link. Where the references are does not depend on the link, so parts that look like references stay
as they are. -/
theorem expand?_expands (rule : LinkRule) :
    (∀ link, rule.expand? link = none ↔ rule.captures? link = none) ∧
      (∀ link captures, rule.captures? link = some captures → ∀ expanded,
        rule.expand? link = some expanded ↔ Expanded captures rule.command expanded) ∧
      ∃ pieces : List (Piece Text),
        pieces.flatMap (Piece.expand fun digits => '$' :: digits) = rule.command ∧
          ∀ link captures, rule.captures? link = some captures →
            rule.expand? link = some (pieces.flatMap (Piece.expand (part captures))) := by
  refine ⟨fun _ => Option.map_eq_none_iff, ?_, pieces reference? rule.command, ?_, ?_⟩
  · intro link captures fits expanded
    rw [expand?, fits, Option.map_some, Option.some.injEq, expanded_iff, eq_comm]
  · apply expand_pieces_of_source reference?_proper
    intro taken after digits found
    obtain ⟨-, -, -, split⟩ := reference?_eq_some_iff.1 found
    rw [← List.cons_append] at split
    exact List.append_cancel_right split
  · intro link captures fits
    rw [expand?, fits]
    rfl

/-- The second group of the pattern takes no part in the match, and the third takes a text that
looks like references. In the command stand a number with a leading zero, a group that is not there,
a number beyond 64 bits, digits of another script, a `$` at the end and one before another. -/
theorem expand?_expands_of_hostile_link :
    let group (index : Nat) (inClass : CharClass) : Pattern :=
      .group index (.repeatSome true (.one inClass))
    let pattern : Pattern :=
      .sequence (group 1 .word)
        (.sequence (.optional true (group 2 .digit))
          (.sequence (.one (.single '/')) (group 3 (.complement .blank))))
    let written := "(\\w+)(\\d+)?/(\\S+)".toList
    let command := "$1 [$2] $03 <$0> $4 $18446744073709551617 $٣ $$1$".toList
    let rule : LinkRule := ⟨pattern.captures? 3, command⟩
    let captures : Captures :=
      [some "a/$1$0".toList, some "a".toList, none, some "$1$0".toList]
    ofPattern written command = .ok rule ∧
      rule.captures? "a/$1$0".toList = some captures ∧
      Expanded captures command "a [] $1$0 <a/$1$0>    $a$".toList ∧
      rule.expand? "a/$1$0".toList = some "a [] $1$0 <a/$1$0>    $a$".toList ∧
      rule.expand? "a/".toList = none := by
  intro group pattern written command rule captures
  obtain ⟨missed, expands, -⟩ := expand?_expands rule
  have fits : rule.captures? "a/$1$0".toList = some captures := by decide +kernel
  have isExpanded : Expanded captures command "a [] $1$0 <a/$1$0>    $a$".toList :=
    expanded_iff.2 (by decide +kernel)
  refine ⟨rfl, fits, isExpanded, (expands _ captures fits _).2 isExpanded, (missed _).2 ?_⟩
  decide +kernel

/-! ## Rules of written patterns -/

/-- The rule of a written pattern fits a link exactly if the pattern matches a part of the link, and
the parts of the link are what the match takes out of it. -/
theorem fits_of_ofPattern {written command : Text} {rule : LinkRule}
    (isRule : ofPattern written command = .ok rule) :
    ∃ pattern groups, Pattern.ofText written = .ok (pattern, groups) ∧ rule.command = command ∧
      ∀ link,
        (rule.expand? link = none ↔ ∀ before whole after, link = before ++ whole ++ after →
          ¬ pattern.Matches before whole after) ∧
        ∀ captures, rule.captures? link = some captures →
          pattern.AreTaken groups link captures := by
  cases isRead : Pattern.ofText written with
  | error fault => simp [ofPattern, isRead, bind, Except.bind] at isRule
  | ok read =>
    obtain ⟨pattern, groups⟩ := read
    obtain rfl : ⟨pattern.captures? groups, command⟩ = rule := by
      simpa [ofPattern, isRead, bind, Except.bind] using isRule
    refine ⟨pattern, groups, rfl, rfl, fun link => ⟨?_, fun captures fits => ?_⟩⟩
    · exact Option.map_eq_none_iff.trans Pattern.captures?_eq_none_iff
    · exact Pattern.areTaken_of_captures? (Pattern.areDistinct_of_ofText isRead) fits

end Folio.LinkRule
