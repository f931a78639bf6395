import Folio.Markdown.Html
import Folio.Proofs.Markdown.Emphasis
import Folio.Proofs.Unicode.LowerCase
import Mathlib.Data.List.Forall2
import Mathlib.Data.List.TakeWhile

/-!
# Words in running text

Letters and digits have no meaning of their own in running text. Underscores among them may open
emphasis only where a word starts, and close it only where a word ends; so a word that does not both
start and end with an underscore is shown as it is.
-/

namespace Folio.Markdown

/-! ## Tokens that are read on their own -/

namespace Token

/-- The part that a token of text or of emphasis signs comes to. -/
def node? (token : Token) : Option Node :=
  match token.kind with
  | .text => some (.done (.text token.text))
  | .run sign length canOpen canClose =>
    some (.run ⟨sign, length, length, canOpen, canClose, token.text.drop length⟩)
  | _ => none

/-- Whether a token comes to a part, wherever it stands. -/
def IsReadAs (token : Token) (node : Node) : Prop :=
  token.node? = some node ∧ 0 < token.stop

theorem cutAt_zero (token : Token) : token.cutAt 0 = token := by
  simp [cutAt]

end Token

theorem readToken_of_isReadAs {token : Token} {node : Node} (read : token.IsReadAs node)
    (prose : Prose) (style : InlineStyle) (rest : List Token) (state : InlineState) :
    readToken prose style token rest state = state.push node := by
  obtain ⟨comesTo, -⟩ := read
  unfold Token.node? at comesTo
  unfold readToken
  split at comesTo <;> simp_all [InlineState.pushText]

/-- Tokens that are read on their own come to their parts in turn. -/
theorem readTokens_of_isReadAs {tokens : List Token} {nodes : List Node}
    (read : List.Forall₂ Token.IsReadAs tokens nodes) (prose : Prose) (style : InlineStyle)
    {state : InlineState} (atStart : state.position = 0) :
    readTokens prose style tokens state = { state with nodes := nodes.reverse ++ state.nodes } := by
  induction read generalizing state with
  | nil => rfl
  | @cons token node tokens nodes first rest inductionHypothesis =>
    have later := inductionHypothesis (show (state.push node).position = 0 from atStart)
    rw [readTokens, atStart, if_neg (Nat.not_le.2 first.2), Token.cutAt_zero,
      readToken_of_isReadAs first, later]
    simp [InlineState.push, atStart]

/-! ## Letters, digits and underscores -/

/-- Whether a character has a meaning of its own in running text. -/
def isSign (c : Char) : Bool :=
  "\\*_~`<[]!&.-\"'".toList.contains c

theorem Cut.ofText_of_not_isSign {c : Char} (noSign : isSign c = false)
    (smart inTable atEdge : Bool) (previous : Option Char) (text : Text) :
    Cut.ofText smart inTable atEdge previous (c :: text) = .plain 1 := by
  have noQuotation : (c == '"' || c == '\'') = false := by
    rw [Bool.or_eq_false_iff, beq_eq_false_iff_ne, beq_eq_false_iff_ne]
    constructor
    · rintro rfl
      exact absurd noSign (by decide)
    · rintro rfl
      exact absurd noSign (by decide)
  unfold Cut.ofText
  split
  · next empty => cases empty
  · next d rest same =>
    obtain ⟨rfl, rfl⟩ := List.cons.inj same
    split
    all_goals first
      | exact absurd noSign (by decide)
      | simp only [noQuotation, Bool.and_false, Bool.false_eq_true, if_false]

/-- A letter or a digit is no sign, no blank and no punctuation. -/
theorem isAlphanum_spec {c : Char} (alphanumeric : c.isAlphanum = true) :
    isSign c = false ∧ Unicode.isBlank c = false ∧ Unicode.isPunctuation c = false := by
  have checked : ∀ n, n < 128 → (Char.ofNat n).isAlphanum = true →
      isSign (Char.ofNat n) = false ∧ Unicode.isBlank (Char.ofNat n) = false ∧
        Unicode.isPunctuation (Char.ofNat n) = false := by
    decide +kernel
  exact @Unicode.ascii_forall
    (fun c => c.isAlphanum = true → isSign c = false ∧ Unicode.isBlank c = false ∧
      Unicode.isPunctuation c = false) checked c (Unicode.toNat_lt_of_isAlphanum alphanumeric)
    alphanumeric

/-! ## Stretches of text -/

namespace Token

variable {smart inTable atEdge : Bool} {left position : Nat} {previous : Option Char} {rest : Text}

/-- A character without a meaning is a token of its own. -/
theorem ofStretch_cons {c : Char} (noSign : isSign c = false) :
    ofStretch smart inTable 0 (left + 1) position atEdge previous (c :: rest) =
      ⟨.text, position, position + 1, c :: rest⟩ ::
        ofStretch smart inTable 0 left (position + 1) false (some c) rest := by
  rw [ofStretch, Cut.ofText_of_not_isSign noSign]
  rfl

theorem isReadAs_cons (position : Nat) (c : Char) (rest : Text) :
    IsReadAs ⟨.text, position, position + 1, c :: rest⟩ (.done (.text [c])) := by
  constructor
  · simp [node?, text]
  · exact Nat.succ_pos position

/-- Characters without a meaning before another text are tokens of their own. -/
theorem exists_ofStretch_append (smart inTable : Bool) {lead : Text}
    (noSigns : ∀ c ∈ lead, isSign c = false) (left position : Nat) (atEdge : Bool)
    (previous : Option Char) (rest : Text) :
    ∃ tokens edge,
      ofStretch smart inTable 0 (lead.length + left) position atEdge previous (lead ++ rest) =
        tokens ++ ofStretch smart inTable 0 left (position + lead.length) edge
          (lead.getLast?.or previous) rest ∧
      List.Forall₂ IsReadAs tokens (lead.map fun c => .done (.text [c])) := by
  induction lead generalizing position atEdge previous with
  | nil => exact ⟨[], atEdge, by simp, .nil⟩
  | cons c lead inductionHypothesis =>
    obtain ⟨noSign, noSigns⟩ := List.forall_mem_cons.1 noSigns
    obtain ⟨tokens, edge, stretch, read⟩ :=
      inductionHypothesis noSigns (position + 1) false (some c)
    have sameLast : lead.getLast?.or (some c) = (c :: lead).getLast?.or previous := by
      rw [List.getLast?_cons]
      cases lead.getLast? <;> rfl
    refine ⟨⟨.text, position, position + 1, c :: (lead ++ rest)⟩ :: tokens, edge, ?_,
      .cons (isReadAs_cons position c _) read⟩
    rw [List.cons_append, List.length_cons, Nat.succ_add, ofStretch_cons noSign, stretch, sameLast,
      Nat.succ_add_eq_add_succ]
    rfl

/-- The characters of a run that has been read are passed over. -/
theorem ofStretch_replicate (count : Nat) (c : Char) :
    ofStretch smart inTable count (count + left) position false (some c)
        (List.replicate count c ++ rest) =
      ofStretch smart inTable 0 left (position + count) false (some c) rest := by
  induction count generalizing position with
  | zero => simp
  | succ count inductionHypothesis =>
    rw [Nat.succ_add, List.replicate_succ, List.cons_append, ofStretch, inductionHypothesis,
      Nat.succ_add_eq_add_succ]

end Token

theorem Cut.runLength_replicate (count : Nat) {c : Char} {rest : Text}
    (ends : rest.head? ≠ some c) :
    runLength (List.replicate (count + 1) c ++ rest) = count + 1 := by
  have stops : rest.takeWhile (· == c) = [] := by
    cases rest with
    | nil => rfl
    | cons d rest =>
      have differs : ¬ d = c := by simpa using ends
      simp [differs]
  rw [List.replicate_succ, List.cons_append, runLength, List.takeWhile_append_of_pos (by simp),
    stops]
  simp

/-! ## Runs of underscores -/

/-- A run of underscores between its neighbours. -/
def underscores (count : Nat) (previous next : Option Char) : Flank :=
  ⟨'_', count, previous, next, false, false⟩

theorem Cut.dropped_emphasis (flank : Flank) : (emphasis flank).dropped = 0 := by
  unfold emphasis
  split <;> rfl

theorem Cut.length_emphasis (flank : Flank) : (emphasis flank).length = flank.length := by
  unfold emphasis
  split <;> rfl

/-- After a letter or a digit underscores open nothing. -/
theorem opens_underscores_of_isAlphanum {c : Char} (alphanumeric : c.isAlphanum = true)
    (count : Nat) (next : Option Char) : (underscores count (some c) next).opens = false := by
  obtain ⟨-, noBlank, noPunctuation⟩ := isAlphanum_spec alphanumeric
  cases next with
  | none => rfl
  | some d => simp [Flank.opens, underscores, noBlank, noPunctuation]

/-- Before a letter or a digit underscores close nothing. -/
theorem closes_underscores_of_isAlphanum {c : Char} (alphanumeric : c.isAlphanum = true)
    (count : Nat) (previous : Option Char) :
    (underscores count previous (some c)).closes = false := by
  obtain ⟨-, noBlank, noPunctuation⟩ := isAlphanum_spec alphanumeric
  cases previous with
  | none => rfl
  | some d => simp [Flank.closes, underscores, Flank.worksInWords, noBlank, noPunctuation]

namespace Token

variable {smart : Bool} {left position : Nat} {atEdge : Bool} {previous : Option Char} {rest : Text}

/-- A run of underscores is one token. -/
theorem ofStretch_underscores (count : Nat) (ends : rest.head? ≠ some '_') :
    ofStretch smart false 0 (count + 1 + left) position atEdge previous
        (List.replicate (count + 1) '_' ++ rest) =
      ⟨(Cut.emphasis (underscores (count + 1) previous rest.head?)).kind, position,
          position + (count + 1), List.replicate (count + 1) '_' ++ rest⟩ ::
        ofStretch smart false 0 left (position + (count + 1)) false (some '_') rest := by
  have cut : Cut.ofText smart false atEdge previous (List.replicate (count + 1) '_' ++ rest) =
      Cut.emphasis (underscores (count + 1) previous rest.head?) := by
    have length := Cut.runLength_replicate count ends
    rw [List.replicate_succ, List.cons_append] at length ⊢
    simp only [Cut.ofText, length, Bool.false_and, underscores]
    simp
  have dropped := Cut.dropped_emphasis (underscores (count + 1) previous rest.head?)
  have length := Cut.length_emphasis (underscores (count + 1) previous rest.head?)
  rw [List.replicate_succ, List.cons_append] at cut ⊢
  rw [Nat.add_right_comm, ofStretch, cut, dropped, length]
  simp only [underscores, Nat.zero_add, Nat.add_sub_cancel, Nat.add_zero, List.drop_zero]
  rw [ofStretch_replicate, Nat.add_right_comm position 1 count, Nat.add_assoc position count 1]

/-- A run of underscores is shown as text or may be used for emphasis, as its neighbours tell. -/
theorem exists_isReadAs_underscores (count position : Nat) (previous : Option Char) (rest : Text) :
    ∃ node,
      IsReadAs ⟨(Cut.emphasis (underscores (count + 1) previous rest.head?)).kind, position,
        position + (count + 1), List.replicate (count + 1) '_' ++ rest⟩ node ∧
      node.shown = [.text (List.replicate (count + 1) '_')] ∧ node.isMark = false ∧
      (node.opens = true → (underscores (count + 1) previous rest.head?).opens = true) ∧
      (node.closes = true → (underscores (count + 1) previous rest.head?).closes = true) := by
  have taken : (List.replicate (count + 1) '_' ++ rest).take (count + 1) =
      List.replicate (count + 1) '_' :=
    List.take_left' List.length_replicate
  unfold Cut.emphasis
  split
  · refine ⟨_, ⟨rfl, Nat.succ_pos _⟩, ?_, rfl, fun opens => opens, fun closes => closes⟩
    simp [Node.shown, Run.toText, text, taken, underscores]
  · refine ⟨_, ⟨rfl, Nat.succ_pos _⟩, ?_, rfl, ?_, ?_⟩
    · simp [Node.shown, text, taken]
    · exact fun opens => absurd opens Bool.false_ne_true
    · exact fun closes => absurd closes Bool.false_ne_true

end Token

/-! ## Words -/

theorem Html.inlineAll_append (sanitize : Bool) (first second : List Inline) :
    inlineAll sanitize (first ++ second) =
      inlineAll sanitize first ++ inlineAll sanitize second := by
  induction first with
  | nil => rfl
  | cons inline first inductionHypothesis =>
    rw [List.cons_append, inlineAll, inlineAll, inductionHypothesis, List.append_assoc]

theorem Html.inline_text (sanitize : Bool) (content : Text) :
    inline sanitize (.text content) = body content :=
  rfl

theorem Html.body_append (first second : Text) :
    body (first ++ second) = body first ++ body second :=
  List.flatMap_append

/-- Parts of running text that show a text if nothing is emphasized. -/
structure Shows (nodes : List Node) (word : Text) : Prop where
  noMark : ∀ node ∈ nodes, node.isMark = false
  html : ∀ sanitize, Html.inlineAll sanitize (nodes.flatMap Node.shown) = Html.body word

theorem shows_nil : Shows [] [] :=
  ⟨by simp, fun _ => rfl⟩

theorem shows_of_text {node : Node} {word : Text} (noMark : node.isMark = false)
    (shown : node.shown = [.text word]) : Shows [node] word where
  noMark := by simpa using noMark
  html sanitize := by
    rw [List.flatMap_singleton, shown, Html.inlineAll, Html.inlineAll, Html.inline_text,
      List.append_nil]

theorem shows_char (c : Char) : Shows [.done (.text [c])] [c] :=
  shows_of_text rfl rfl

theorem Shows.append {first second : List Node} {word rest : Text} (shows : Shows first word)
    (showsRest : Shows second rest) : Shows (first ++ second) (word ++ rest) where
  noMark := List.forall_mem_append.2 ⟨shows.noMark, showsRest.noMark⟩
  html sanitize := by
    rw [List.flatMap_append, Html.inlineAll_append, Html.body_append, shows.html, showsRest.html]

theorem shows_map (word : Text) : Shows (word.map fun c => .done (.text [c])) word := by
  induction word with
  | nil => exact shows_nil
  | cons c word inductionHypothesis => exact (shows_char c).append inductionHypothesis

/-- Whether a character is a letter, a digit or an underscore. -/
def isKeyChar (c : Char) : Bool :=
  c.isAlphanum || c == '_'

/-- A character of a word is none that stands outside words. -/
theorem ne_of_isKeyChar {c d : Char} (inKey : isKeyChar c = true) (outside : isKeyChar d = false) :
    c ≠ d := by
  rintro rfl
  rw [inKey] at outside
  cases outside

/-- No character that stands outside words is in a word. -/
theorem not_mem_of_isKeyChar {word : Text} {d : Char} (inWord : ∀ c ∈ word, isKeyChar c = true)
    (outside : isKeyChar d = false) : d ∉ word :=
  fun isIn => ne_of_isKeyChar (inWord d isIn) outside rfl

theorem isKeyChar_of_isAlphanum {c : Char} (alphanumeric : c.isAlphanum = true) :
    isKeyChar c = true :=
  Bool.or_eq_true_iff.2 (.inl alphanumeric)

theorem isBlank_of_isKeyChar {c : Char} (inKey : isKeyChar c = true) :
    Unicode.isBlank c = false := by
  rcases Bool.or_eq_true_iff.1 inKey with alphanumeric | isUnderscore
  · exact (isAlphanum_spec alphanumeric).2.1
  · rw [beq_iff_eq.1 isUnderscore]
    rfl

theorem isWordChar_of_isKeyChar {c : Char} (inKey : isKeyChar c = true) :
    Unicode.isWordChar c = true := by
  rcases Bool.or_eq_true_iff.1 inKey with alphanumeric | isUnderscore
  · exact Unicode.isWordChar_of_isAlphanum alphanumeric
      (Unicode.toNat_lt_of_isAlphanum alphanumeric)
  · rw [beq_iff_eq.1 isUnderscore]
    rfl

/-- A word starts with a letter or a digit, or with a run of underscores that ends before the next
character. -/
theorem word_cases {word : Text} (inWord : ∀ c ∈ word, isKeyChar c = true) :
    word = [] ∨ (∃ c rest, word = c :: rest ∧ c.isAlphanum = true) ∨
      ∃ count rest, word = List.replicate (count + 1) '_' ++ rest ∧ rest.head? ≠ some '_' := by
  cases word with
  | nil => exact .inl rfl
  | cons c rest =>
    rcases Bool.or_eq_true_iff.1 (inWord c List.mem_cons_self) with alphanumeric | isUnderscore
    · exact .inr (.inl ⟨c, rest, rfl, alphanumeric⟩)
    · obtain rfl : c = '_' := beq_iff_eq.1 isUnderscore
      refine .inr (.inr ⟨(rest.takeWhile (· == '_')).length, rest.dropWhile (· == '_'), ?_, ?_⟩)
      · have onlyUnderscores : ∀ d ∈ rest.takeWhile (· == '_'), d = '_' := by
          intro d isTaken
          simpa using List.mem_takeWhile_imp isTaken
        rw [List.replicate_succ, ← List.eq_replicate_of_mem onlyUnderscores, List.cons_append,
          List.takeWhile_append_dropWhile]
      · intro isHead
        have := List.head?_dropWhile_not (· == '_') rest
        simp [isHead] at this

/-- The parts that a word is read as. Underscores in it open emphasis only at its start, unless a
letter or a digit stands before it, and close emphasis only at its end. -/
structure WordParts (smart : Bool) (tail : Text) (position : Nat) (atEdge : Bool)
    (previous : Option Char) (word : Text) (nodes : List Node) : Prop where
  read : List.Forall₂ Token.IsReadAs
    (Token.ofStretch smart false 0 word.length position atEdge previous (word ++ tail)) nodes
  shows : Shows nodes word
  opens : (∃ c, previous = some c ∧ c.isAlphanum = true) ∨ word.head? ≠ some '_' →
    ∀ node ∈ nodes, node.opens = false
  closes : word.getLast? ≠ some '_' → ∀ node ∈ nodes, node.closes = false

namespace WordParts

variable {smart atEdge : Bool} {tail rest : Text} {position : Nat} {previous : Option Char}
  {nodes : List Node}

theorem nil : WordParts smart tail position atEdge previous [] [] where
  read := by simp [Token.ofStretch]
  shows := shows_nil
  opens _ := by simp
  closes _ := by simp

/-- A letter or a digit is a part of its own. -/
theorem cons {c : Char} (alphanumeric : c.isAlphanum = true)
    (parts : WordParts smart tail (position + 1) false (some c) rest nodes) :
    WordParts smart tail position atEdge previous (c :: rest) (.done (.text [c]) :: nodes) where
  read := by
    rw [List.length_cons, List.cons_append, Token.ofStretch_cons (isAlphanum_spec alphanumeric).1]
    exact .cons (Token.isReadAs_cons position c _) parts.read
  shows := (shows_char c).append parts.shows
  opens _ := List.forall_mem_cons.2 ⟨rfl, parts.opens (.inl ⟨c, rfl, alphanumeric⟩)⟩
  closes notLast := by
    refine List.forall_mem_cons.2 ⟨rfl, parts.closes ?_⟩
    intro isLast
    apply notLast
    rw [List.getLast?_cons, isLast, Option.getD_some]

/-- A run of underscores is one part. Before a letter or a digit it closes nothing, and after one it
opens nothing. -/
theorem exists_underscores (count : Nat) (headRest : rest.head? ≠ some '_')
    (inRest : ∀ c ∈ rest, isKeyChar c = true) (ends : tail.head? ≠ some '_')
    (parts : WordParts smart tail (position + (count + 1)) false (some '_') rest nodes) :
    ∃ node, WordParts smart tail position atEdge previous
      (List.replicate (count + 1) '_' ++ rest) (node :: nodes) := by
  have nextEnds : (rest ++ tail).head? ≠ some '_' := by
    cases rest with
    | nil => exact ends
    | cons c rest => exact headRest
  obtain ⟨node, readNode, shown, noMark, opensNode, closesNode⟩ :=
    Token.exists_isReadAs_underscores count position previous (rest ++ tail)
  refine ⟨node, ?read, (shows_of_text noMark shown).append parts.shows, ?opens, ?closes⟩
  case read =>
    rw [List.length_append, List.length_replicate, List.append_assoc,
      Token.ofStretch_underscores count nextEnds]
    exact .cons readNode parts.read
  case opens =>
    rintro (⟨c, rfl, alphanumeric⟩ | notFirst)
    · refine List.forall_mem_cons.2 ⟨?_, parts.opens (.inr headRest)⟩
      rw [opens_underscores_of_isAlphanum alphanumeric] at opensNode
      exact Bool.eq_false_iff.2 fun opening => Bool.false_ne_true (opensNode opening)
    · exact absurd rfl notFirst
  case closes =>
    intro notLast
    cases rest with
    | nil => exact absurd (by simp [List.getLast?_replicate]) notLast
    | cons c rest =>
      rw [List.getLast?_append_of_ne_nil _ (List.cons_ne_nil c rest)] at notLast
      refine List.forall_mem_cons.2 ⟨?_, parts.closes notLast⟩
      have alphanumeric : c.isAlphanum = true := by
        rcases Bool.or_eq_true_iff.1 (inRest c List.mem_cons_self) with yes | isUnderscore
        · exact yes
        · exact absurd (congrArg some (beq_iff_eq.1 isUnderscore)) headRest
      rw [List.cons_append, List.head?_cons, closes_underscores_of_isAlphanum alphanumeric]
        at closesNode
      exact Bool.eq_false_iff.2 fun closing => Bool.false_ne_true (closesNode closing)

end WordParts

/-- Every word is read as parts, up to something that does not start with an underscore. -/
theorem exists_wordParts (smart : Bool) {word tail : Text}
    (inWord : ∀ c ∈ word, isKeyChar c = true) (ends : tail.head? ≠ some '_') (position : Nat)
    (atEdge : Bool) (previous : Option Char) :
    ∃ nodes, WordParts smart tail position atEdge previous word nodes := by
  induction length : word.length using Nat.strongRecOn
    generalizing word position atEdge previous with
  | ind n inductionHypothesis =>
    rcases word_cases inWord with rfl | ⟨c, rest, rfl, alphanumeric⟩ | ⟨count, rest, rfl, headRest⟩
    · exact ⟨[], .nil⟩
    · have inRest := (List.forall_mem_cons.1 inWord).2
      obtain ⟨nodes, parts⟩ := inductionHypothesis rest.length (by simp [← length]) inRest
        (position + 1) false (some c) rfl
      exact ⟨_, parts.cons alphanumeric⟩
    · have inRest := (List.forall_mem_append.1 inWord).2
      obtain ⟨nodes, parts⟩ := inductionHypothesis rest.length (by simp [← length]) inRest
        (position + (count + 1)) false (some '_') rfl
      obtain ⟨node, parts⟩ := parts.exists_underscores count headRest inRest ends
      exact ⟨_, parts⟩

/-- Whether all of a word between the underscores at its ends is emphasized. -/
def IsEmphasized (word : Text) : Prop :=
  word.head? = some '_' ∧ word.getLast? = some '_' ∧ ∃ c ∈ word, c ≠ '_'

instance (word : Text) : Decidable (IsEmphasized word) :=
  inferInstanceAs (Decidable (_ ∧ _ ∧ ∃ c ∈ word, c ≠ '_'))

/-- A word at the end of a text is shown as it is after a blank, unless there are underscores at
both of its ends and something between them. -/
theorem exists_nodes_of_last_word (smart : Bool) {word : Text}
    (inWord : ∀ c ∈ word, isKeyChar c = true) (notEmphasized : ¬ IsEmphasized word)
    (position : Nat) (atEdge : Bool) :
    ∃ nodes,
      List.Forall₂ Token.IsReadAs
        (Token.ofStretch smart false 0 word.length position atEdge (some ' ') word) nodes ∧
      Shows nodes word ∧ Unpaired nodes := by
  have noTail : ([] : Text).head? ≠ some '_' := by simp
  obtain ⟨nodes, read, shows, opens, closes⟩ :=
    exists_wordParts smart inWord noTail position atEdge (some ' ')
  rw [List.append_nil] at read
  by_cases isFirst : word.head? = some '_'
  · by_cases isLast : word.getLast? = some '_'
    · have onlyUnderscores : ∀ c ∈ word, c = '_' := by
        intro c isIn
        by_contra differs
        exact notEmphasized ⟨isFirst, isLast, c, isIn, differs⟩
      obtain ⟨count, rfl⟩ : ∃ count, word = List.replicate (count + 1) '_' := by
        cases word with
        | nil => cases isFirst
        | cons c rest => exact ⟨rest.length, List.eq_replicate_of_mem onlyUnderscores⟩
      obtain ⟨node, readNode, shown, noMark, -, -⟩ :=
        Token.exists_isReadAs_underscores count position (some ' ') []
      refine ⟨[node], ?_, shows_of_text noMark shown, List.pairwise_singleton _ node⟩
      rw [List.length_replicate, ← List.append_nil (List.replicate (count + 1) '_'),
        ← Nat.add_zero (count + 1), Token.ofStretch_underscores count noTail]
      exact .cons readNode (by rw [Token.ofStretch]; exact .nil)
    · refine ⟨nodes, read, shows, List.pairwise_of_forall_mem_list ?_⟩
      intro opener _ closer isCloser _
      exact closes isLast closer isCloser
  · refine ⟨nodes, read, shows, List.pairwise_of_forall_mem_list ?_⟩
    intro opener isOpener closer _ opening
    rw [opens (.inr isFirst) opener isOpener] at opening
    cases opening

end Folio.Markdown
