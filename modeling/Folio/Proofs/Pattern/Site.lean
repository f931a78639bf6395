import Folio.Link.Rule
import Folio.Proofs.Pattern.Way
import Folio.Proofs.Text.Run

/-!
# Patterns of sites

The rule of a site is that of a written pattern: the start of the text, the address of the site, and
a group of as many characters of a class as there are, but at least one. While the address is read
the search has one thread. From then on each character of the key leaves two: the preferred one
reads on, and the other has found a match, which a longer one replaces.
-/

namespace Folio.Pattern

open Text

/-- Characters one after another, and then a pattern. -/
def literalThen : Text → Pattern → Pattern
  | [], last => last
  | c :: text, last => .sequence (.one (.single c)) (literalThen text last)

/-- The pattern of the links to a site that have a key. -/
def ofSite (site : Text) (inKey : CharClass) : Pattern :=
  .sequence (.here .start) (literalThen site (.group 1 (.repeatSome true (.one inKey))))

/-! ## The program -/

/-- The steps up to an exit read a text. -/
inductive Reads (program : Program) (exit : Nat) : Text → (entry : Nat) → Prop
  | nil : Reads program exit [] exit
  | cons {c : Char} {text : Text} {entry next : Nat}
      (isStep : program[entry]? = some (.read (.single c) next))
      (reads : Reads program exit text next) : Reads program exit (c :: text) entry

section Literal

variable {program : Program} (text : Text) (last : Pattern) (next : Nat) (part : Program)

theorem reads_compile
    (holds : Holds program (compile (literalThen text last) next part).2 part.size) :
    Reads program (compile last next part).1 text
      (compile (literalThen text last) next part).1 := by
  induction text with
  | nil => exact .nil
  | cons c text inductionHypothesis =>
    have grows := grows_compile (literalThen text last) next part
    exact .cons (holds.last grows.size_le) (inductionHypothesis (holds.of_grows (.push _ _)))

theorem grows_literalThen :
    Grows (compile last next part).2 (compile (literalThen text last) next part).2 := by
  induction text with
  | nil => exact .refl _
  | cons c text inductionHypothesis => exact inductionHypothesis.trans (.push _ _)

/-- Characters are entered at the step that was added last. -/
theorem compile_literalThen_fst_succ
    (entersLast : (compile last next part).1 + 1 = (compile last next part).2.size) :
    (compile (literalThen text last) next part).1 + 1 =
      (compile (literalThen text last) next part).2.size := by
  cases text with
  | nil => exact entersLast
  | cons c text => exact (Array.size_push _).symm

end Literal

/-- The steps of the program of a site. -/
structure IsOfSite (program : Program) (start : Nat) (site : Text) (inKey : CharClass) : Prop where
  accept : program[0]? = some .accept
  close : program[1]? = some (.note 1 0)
  closeKey : program[2]? = some (.note 3 1)
  loop : program[3]? = some (.choose 4 2)
  key : program[4]? = some (.read inKey 3)
  openKey : program[5]? = some (.note 2 4)
  start : ∃ anchor entry, program[start]? = some (.note 0 anchor) ∧
    program[anchor]? = some (.test .start entry) ∧ Reads program 5 site entry ∧
    5 ≤ entry ∧ entry < anchor ∧ anchor < start

theorem isOfSite_programOf (site : Text) (inKey : CharClass) :
    IsOfSite (programOf (ofSite site inKey)).2 (programOf (ofSite site inKey)).1 site inKey := by
  let closed : Program := #[.accept, .note 1 0]
  let last : Pattern := .group 1 (.repeatSome true (.one inKey))
  let literal := compile (literalThen site last) 1 closed
  have grows : Grows (compile last 1 closed).2 literal.2 := grows_literalThen site last 1 closed
  have growsAnchor : Grows literal.2 (literal.2.push (.test .start literal.1)) := .push _ _
  have growsStart : Grows (literal.2.push (.test .start literal.1))
    (programOf (ofSite site inKey)).2 := .push _ _
  have growsAll := grows.trans (growsAnchor.trans growsStart)
  have size : (compile last 1 closed).2.size = 6 := rfl
  have entered : literal.1 + 1 = literal.2.size :=
    compile_literalThen_fst_succ site last 1 closed rfl
  have holds : Holds (programOf (ofSite site inKey)).2 literal.2 closed.size :=
    fun position _ inside => (growsAnchor.trans growsStart).same position inside
  have atLeast : 6 ≤ literal.2.size := size ▸ grows.size_le
  refine ⟨growsAll.same 0 (by omega), growsAll.same 1 (by omega), growsAll.same 2 (by omega),
    growsAll.same 3 (by omega), growsAll.same 4 (by omega), growsAll.same 5 (by omega),
    literal.2.size, literal.1, ?_, ?_, reads_compile site last 1 closed holds, by omega, by omega,
    ?_⟩
  · exact Array.getElem?_push_size
  · exact (growsStart.same _ (by simp)).trans Array.getElem?_push_size
  · exact Nat.lt_of_lt_of_eq (Nat.lt_succ_self _) (Array.size_push _).symm

/-! ## The search -/

/-- What a step comes to when it is entered, with the frontier in which it is marked. -/
def followStep (program : Program) (spot : Spot) (fuel position : Nat) (notes : Notes)
    (marked : Frontier) : Step → Frontier
  | .choose preferred other =>
    follow program spot fuel other notes (follow program spot fuel preferred notes marked)
  | .note slot next => follow program spot fuel next ((slot, spot.index) :: notes) marked
  | .test place next =>
    if place.isBetween spot.before spot.after then follow program spot fuel next notes marked
    else marked
  | .read _ _ | .accept => ⟨marked.entered, ⟨position, notes⟩ :: marked.threads⟩

theorem follow_succ {program : Program} {spot : Spot} {position : Nat} {step : Step}
    {frontier : Frontier} (isStep : program[position]? = some step)
    (isNew : position ∉ frontier.entered) (fuel : Nat) (notes : Notes) :
    follow program spot (fuel + 1) position notes frontier =
      followStep program spot fuel position notes
        ⟨position :: frontier.entered, frontier.threads⟩ step := by
  have isOutside : ¬ frontier.entered.contains position = true :=
    fun member => isNew (List.contains_iff_mem.1 member)
  rw [follow, if_neg isOutside]
  cases step <;> simp only [isStep, followStep]

theorem follow_of_entered {program : Program} {spot : Spot} {position : Nat} {frontier : Frontier}
    (entered : position ∈ frontier.entered) (fuel : Nat) (notes : Notes) :
    follow program spot fuel position notes frontier = frontier := by
  cases fuel with
  | zero => rfl
  | succ fuel => exact if_pos (List.contains_iff_mem.2 entered)

/-- The notes of a match whose key ends at a position. -/
def notesAt (notes : Notes) (last : Nat) : Notes :=
  (1, last) :: (3, last) :: notes

/-- How a search goes on with some threads while nothing has been found. -/
def goOn (start : Nat) (program : Program) (index : Nat) (threads : List Thread) :
    Text → Option Notes
  | [] => none
  | c :: rest =>
    runFrom start program (index + 1) (some c)
      (readChar program c ⟨index + 1, some c, rest.head?⟩ threads) none rest

theorem runFrom_of_arrive {start index : Nat} {program : Program} {frontier : Frontier}
    {before : Option Char} {threads : List Thread} {rest : Text}
    (isArrival : arrive start program ⟨index, before, rest.head?⟩ frontier none = (threads, none)) :
    runFrom start program index before frontier none rest =
      goOn start program index threads rest := by
  cases rest with
  | nil => exact congrArg Prod.snd isArrival
  | cons c rest =>
    rw [runFrom, ← List.head?_cons, isArrival]
    rfl

/-- The thread that waits before the rest of an address and the key. -/
def waiting (rest : Text) (entry : Nat) (notes : Notes) (index : Nat) : Thread :=
  match rest with
  | [] => ⟨4, (2, index) :: notes⟩
  | _ :: _ => ⟨entry, notes⟩

/-- What is noted for a link, from a position on where the rest of the address is to come. -/
def notesOf? (inKey : CharClass) (rest : Text) (notes : Notes) (index : Nat) (link : Text) :
    Option Notes :=
  match (dropLead? rest link).map (List.takeWhile inKey.holds) with
  | some (first :: more) =>
    some (notesAt ((2, index + rest.length) :: notes)
      (index + rest.length + (first :: more).length))
  | _ => none

section Search

variable {program : Program} {start index : Nat} {site : Text} {inKey : CharClass}
  {frontier : Frontier} {notes : Notes} {b : Char} {after : Option Char}
  (isOfSite : IsOfSite program start site inKey)

include isOfSite

/-- Behind the start of the text no match starts. -/
theorem threads_follow_start (fuel : Nat) :
    (follow program ⟨index, some b, after⟩ fuel start [] frontier).threads = frontier.threads := by
  obtain ⟨anchor, entry, isStart, isAnchor, -⟩ := isOfSite.start
  have atAnchor (fuel : Nat) (notes : Notes) (frontier : Frontier) :
      (follow program ⟨index, some b, after⟩ fuel anchor notes frontier).threads =
        frontier.threads := by
    by_cases entered : anchor ∈ frontier.entered
    · rw [follow_of_entered entered]
    · cases fuel with
      | zero => rfl
      | succ fuel =>
        rw [follow_succ isAnchor entered]
        rfl
  by_cases entered : start ∈ frontier.entered
  · rw [follow_of_entered entered]
  · cases fuel with
    | zero => rfl
    | succ fuel =>
      rw [follow_succ isStart entered, followStep]
      exact atAnchor fuel _ _

theorem arrive_later (best : Option Notes) :
    arrive start program ⟨index, some b, after⟩ frontier best =
      ((arrived program frontier.threads.reverse).1,
        (arrived program frontier.threads.reverse).2.orElse fun _ => best) := by
  have sameThreads : (if best.isNone then
      follow program ⟨index, some b, after⟩ (program.size + 1) start [] frontier
      else frontier).threads = frontier.threads := by
    split
    · exact threads_follow_start isOfSite _
    · rfl
  rw [arrive, sameThreads]

/-- Without a thread nothing more is found. -/
theorem runFrom_of_no_thread (noThread : frontier.threads = []) (best : Option Notes)
    (rest : Text) : runFrom start program index (some b) frontier best rest = best := by
  induction rest generalizing index b frontier with
  | nil =>
    rw [runFrom, arrive_later isOfSite, noThread]
    cases best <;> rfl
  | cons c rest inductionHypothesis =>
    rw [runFrom, arrive_later isOfSite, noThread]
    exact inductionHypothesis rfl

theorem exists_fuel : ∃ fuel, program.size = fuel + 6 := by
  have inside : 5 < program.size := (Array.getElem?_eq_some_iff.1 isOfSite.openKey).1
  exact ⟨program.size - 6, by omega⟩

/-- Behind a character of the key one thread reads on, and one has arrived. -/
theorem threads_follow_loop (notes : Notes) (spot : Spot) :
    (follow program spot (program.size + 1) 3 notes ⟨[], []⟩).threads =
      [⟨0, (1, spot.index) :: (3, spot.index) :: notes⟩, ⟨4, notes⟩] := by
  obtain ⟨fuel, size⟩ := exists_fuel isOfSite
  rw [size, follow_succ isOfSite.loop (by simp), followStep, follow_succ isOfSite.key (by simp),
    followStep, follow_succ isOfSite.closeKey (by simp), followStep,
    follow_succ isOfSite.close (by simp), followStep, follow_succ isOfSite.accept (by simp),
    followStep]

/-- A thread that reads on in the key goes round the loop. -/
theorem readChar_key (c : Char) (spot : Spot) :
    readChar program c spot [⟨4, notes⟩] =
      if inKey.holds c then follow program spot (program.size + 1) 3 notes ⟨[], []⟩
      else ⟨[], []⟩ := by
  simp [readChar, isOfSite.key]

/-- Of the matches along the key the last one counts. -/
theorem runFrom_loop (threads : frontier.threads = [⟨0, notesAt notes index⟩, ⟨4, notes⟩])
    (best : Option Notes) (rest : Text) :
    runFrom start program index (some b) frontier best rest =
      some (notesAt notes (index + (rest.takeWhile inKey.holds).length)) := by
  have split (index : Nat) : arrived program [⟨4, notes⟩, ⟨0, notesAt notes index⟩] =
      ([⟨4, notes⟩], some (notesAt notes index)) := by
    simp [arrived, isOfSite.key, isOfSite.accept]
  induction rest generalizing index b frontier best with
  | nil =>
    rw [runFrom, arrive_later isOfSite, threads]
    exact congrArg (·.2.orElse fun _ => best) (split index)
  | cons c rest inductionHypothesis =>
    rw [runFrom, arrive_later isOfSite, threads, List.reverse_cons, List.reverse_singleton,
      List.singleton_append, split]
    dsimp only [Option.orElse_some]
    rw [readChar_key isOfSite]
    by_cases holds : inKey.holds c = true
    · have threadsNext :=
        threads_follow_loop isOfSite notes ⟨index + 1, some c, rest.head?⟩
      rw [if_pos holds, inductionHypothesis threadsNext, List.takeWhile_cons_of_pos holds,
        List.length_cons, Nat.add_right_comm, Nat.add_assoc]
    · rw [if_neg holds, runFrom_of_no_thread isOfSite rfl, List.takeWhile_cons_of_neg holds]
      rfl

/-- Following the steps of an address leads to one thread. -/
theorem threads_follow_reads {rest : Text} {entry : Nat} (reads : Reads program 5 rest entry)
    (entryIsNew : entry ∉ frontier.entered) (keyIsNew : 4 ∉ frontier.entered) (spot : Spot)
    (fuel : Nat) :
    (follow program spot (fuel + 2) entry notes frontier).threads =
      waiting rest entry notes spot.index :: frontier.threads := by
  cases reads with
  | nil =>
    have keyIsNew : 4 ∉ 5 :: frontier.entered := by simpa using keyIsNew
    rw [follow_succ isOfSite.openKey entryIsNew, followStep, follow_succ isOfSite.key keyIsNew]
    rfl
  | cons isStep _ =>
    rw [follow_succ isStep entryIsNew]
    rfl

theorem arrived_waiting {rest : Text} {entry : Nat} (reads : Reads program 5 rest entry) :
    arrived program [waiting rest entry notes index] =
      ([waiting rest entry notes index], none) := by
  cases reads with
  | nil => simp [waiting, arrived, isOfSite.key]
  | cons isStep _ => simp [waiting, arrived, isStep]

/-- A search with one thread before the rest of an address finds what there is to note. -/
theorem goOn_waiting {rest : Text} {entry : Nat} (reads : Reads program 5 rest entry)
    (link : Text) :
    goOn start program index [waiting rest entry notes index] link =
      notesOf? inKey rest notes index link := by
  induction reads generalizing index link with
  | nil =>
    cases link with
    | nil => rfl
    | cons c link =>
      rw [goOn, waiting, readChar_key isOfSite]
      by_cases holds : inKey.holds c = true
      · have threads :=
          threads_follow_loop isOfSite ((2, index) :: notes) ⟨index + 1, some c, link.head?⟩
        rw [if_pos holds, runFrom_loop isOfSite threads, notesOf?, dropLead?_nil, Option.map_some,
          List.takeWhile_cons_of_pos holds]
        have last (length : Nat) : index + 1 + length = index + 0 + (length + 1) := by omega
        exact congrArg (some ∘ notesAt _) (last _)
      · rw [if_neg holds, runFrom_of_no_thread isOfSite rfl, notesOf?, dropLead?_nil,
          Option.map_some, List.takeWhile_cons_of_neg holds]
  | @cons c text entry next isStep reads inductionHypothesis =>
    cases link with
    | nil => rfl
    | cons d link =>
      have read (spot : Spot) : readChar program d spot [⟨entry, notes⟩] =
          if d = c then follow program spot (program.size + 1) next notes ⟨[], []⟩
          else ⟨[], []⟩ := by
        simp [readChar, isStep, CharClass.holds]
      rw [goOn, waiting, read, notesOf?, dropLead?_cons_cons]
      by_cases same : d = c
      · subst same
        obtain ⟨fuel, size⟩ := exists_fuel isOfSite
        have threads : (follow program ⟨index + 1, some d, link.head?⟩ (fuel + 7) next notes
            ⟨[], []⟩).threads = [waiting text next notes (index + 1)] :=
          threads_follow_reads isOfSite reads List.not_mem_nil List.not_mem_nil _ _
        have isArrival : arrive start program ⟨index + 1, some d, link.head?⟩
            (follow program ⟨index + 1, some d, link.head?⟩ (program.size + 1) next notes ⟨[], []⟩)
            none = ([waiting text next notes (index + 1)], none) := by
          rw [size, arrive_later isOfSite, threads, List.reverse_singleton,
            arrived_waiting isOfSite reads]
          rfl
        rw [if_pos rfl, if_pos rfl, runFrom_of_arrive isArrival, inductionHypothesis, notesOf?,
          List.length_cons, Nat.add_right_comm, Nat.add_assoc]
      · rw [if_neg same, if_neg (Ne.symm same), runFrom_of_no_thread isOfSite rfl]
        rfl

/-- What the search for the pattern of a site notes. -/
theorem runFrom_eq_notesOf? (link : Text) :
    runFrom start program 0 none ⟨[], []⟩ none link = notesOf? inKey site [(0, 0)] 0 link := by
  obtain ⟨anchor, entry, isStart, isAnchor, reads, keyBefore, entryBefore, anchorBefore⟩ :=
    isOfSite.start
  obtain ⟨fuel, size⟩ := exists_fuel isOfSite
  have entryIsNew : entry ∉ [anchor, start] := by
    simp only [List.mem_cons, List.not_mem_nil, or_false]
    omega
  have keyIsNew : 4 ∉ [anchor, start] := by
    simp only [List.mem_cons, List.not_mem_nil, or_false]
    omega
  have anchorIsNew : anchor ∉ [start] := by
    simp only [List.mem_cons, List.not_mem_nil, or_false]
    omega
  have threads : (follow program ⟨0, none, link.head?⟩ (program.size + 1) start []
      ⟨[], []⟩).threads = [waiting site entry [(0, 0)] 0] := by
    rw [size, follow_succ isStart List.not_mem_nil, followStep, follow_succ isAnchor anchorIsNew]
    exact threads_follow_reads isOfSite reads entryIsNew keyIsNew _ _
  have isArrival : arrive start program ⟨0, none, link.head?⟩ ⟨[], []⟩ none =
      ([waiting site entry [(0, 0)] 0], none) := by
    rw [arrive]
    simp only [Option.isNone_none, if_true, threads]
    rw [List.reverse_singleton, arrived_waiting isOfSite reads]
    rfl
  rw [runFrom_of_arrive isArrival, goOn_waiting isOfSite reads]

end Search

/-- The pattern of a site takes out of a link what the rule of the site does. -/
theorem captures?_ofSite (site : Text) (inKey : CharClass) (command link : Text) :
    (ofSite site inKey).captures? 1 link =
      (LinkRule.ofSite site inKey.holds command).captures? link := by
  have search := runFrom_eq_notesOf? (isOfSite_programOf site inKey) link
  rw [captures?, LinkRule.ofSite]
  dsimp only
  rw [search, notesOf?]
  cases lead : dropLead? site link with
  | none => rfl
  | some rest =>
    obtain rfl := dropLead?_eq_some_iff.1 lead
    have isKey : rest.take (rest.takeWhile inKey.holds).length = rest.takeWhile inKey.holds :=
      (List.prefix_iff_eq_take.1 (List.takeWhile_prefix _)).symm
    rw [Option.map_some]
    cases key : rest.takeWhile inKey.holds with
    | nil => rfl
    | cons first more =>
      rw [key] at isKey
      have whole : capture (site ++ rest) (notesAt [(2, 0 + site.length), (0, 0)]
          (0 + site.length + (first :: more).length)) 0 = some (site ++ first :: more) := by
        change some (((site ++ rest).drop 0).take
          (0 + site.length + (first :: more).length - 0)) = _
        rw [List.drop_zero, Nat.sub_zero, Nat.zero_add, List.take_length_add_append, isKey]
      have group : capture (site ++ rest) (notesAt [(2, 0 + site.length), (0, 0)]
          (0 + site.length + (first :: more).length)) 1 = some (first :: more) := by
        change some (((site ++ rest).drop (0 + site.length)).take
          (0 + site.length + (first :: more).length - (0 + site.length))) = _
        rw [Nat.add_sub_cancel_left, Nat.zero_add, List.drop_left, isKey]
      have numbers : List.range (1 + 1) = [0, 1] := rfl
      rw [Option.map_some, numbers, List.map_cons, List.map_singleton, whole, group]

end Folio.Pattern

namespace Folio.LinkRule

/-- The rule of a site is that of its pattern. -/
theorem ofPattern_eq_ofSite {written site : Text} {inKey : CharClass}
    (isPattern : Pattern.ofText written = .ok (Pattern.ofSite site inKey, 1)) (command : Text) :
    ofPattern written command = .ok (ofSite site inKey.holds command) := by
  have same : (Pattern.ofSite site inKey).captures? 1 =
      (ofSite site inKey.holds command).captures? :=
    funext (Pattern.captures?_ofSite site inKey command)
  rw [ofPattern, isPattern]
  exact congrArg (fun captures? => Except.ok (LinkRule.mk captures? command)) same

/-- The built-in rules are those of three written patterns. -/
theorem ofPattern_eq_builtin :
    [("^vimeo\\.com/(\\d+)", "### @vimeo $1"), ("^youtu\\.be/(\\w+)", "### @youtube $1"),
        ("^www\\.youtube\\.com/watch\\?v=(\\w+)", "### @youtube $1")].mapM
      (fun (written, command) => ofPattern written.toList command.toList) = .ok builtin := by
  have rule (site : String) (inKey : CharClass) (written command : String)
      (isPattern : Pattern.ofText written.toList = .ok (Pattern.ofSite site.toList inKey, 1)) :=
    ofPattern_eq_ofSite isPattern command.toList
  rw [List.mapM_cons, List.mapM_cons, List.mapM_cons, List.mapM_nil]
  dsimp only
  rw [rule "vimeo.com/" .digit _ _ rfl, rule "youtu.be/" .word _ _ rfl,
    rule "www.youtube.com/watch?v=" .word _ _ rfl]
  rfl

end Folio.LinkRule
