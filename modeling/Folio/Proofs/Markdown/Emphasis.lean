import Folio.Markdown.Inline.Emphasis

/-!
# Running text without emphasis

Emphasis needs a run of signs that opens it and a later one that closes it. Where no opening run
stands before a closing one, every run is shown as text.
-/

namespace Folio.Markdown

namespace Node

/-- A part as it is shown where nothing is emphasized. -/
def shown : Node → List Inline
  | .done inline => [inline]
  | .backslashBreak => [.hardBreak]
  | .run signs => signs.toText
  | .mark sign _ _ => [.text [sign]]

/-- Whether a part may open emphasis. -/
def opens : Node → Bool
  | .run signs => signs.canOpen
  | _ => false

/-- Whether a part may close emphasis. -/
def closes : Node → Bool
  | .run signs => signs.canClose
  | _ => false

/-- Whether a part is a quotation mark. -/
def isMark : Node → Bool
  | .mark _ _ _ => true
  | _ => false

end Node

/-- Without quotation marks there are none to settle. -/
theorem settleMarks_of_no_mark {nodes : List Node} (noMark : ∀ node ∈ nodes, node.isMark = false)
    (single double : Bool) : settleMarks single double nodes = nodes := by
  induction nodes with
  | nil => rfl
  | cons node nodes inductionHypothesis =>
    obtain ⟨first, rest⟩ := List.forall_mem_cons.1 noMark
    cases node with
    | mark sign canOpen canClose => cases first
    | done inline => rw [settleMarks, inductionHypothesis rest] <;> simp
    | backslashBreak => rw [settleMarks, inductionHypothesis rest] <;> simp
    | run run => rw [settleMarks, inductionHypothesis rest] <;> simp

namespace Pending

theorem finish_add (inline : Inline) (pending : Pending) :
    (pending.add [inline]).finish = pending.finish ++ [inline] := by
  obtain ⟨before, runs, floor⟩ := pending
  cases runs <;> simp [add, finish]

theorem finish_add_toText (run : Run) (pending : Pending) :
    (pending.add run.toText).finish = pending.finish ++ run.toText := by
  obtain ⟨before, runs, floor⟩ := pending
  unfold Run.toText
  cases runs <;> split <;> simp [add, finish]

theorem matching?_nil (closer : Run) (visible : Nat) : matching? closer visible [] = none := by
  cases visible <;> rfl

/-- A run that finds nothing to close is left as it is. -/
theorem close_of_runs_nil {pending : Pending} (noRuns : pending.runs = []) (fuel : Nat)
    (closer : Run) : ∃ floor, close fuel closer pending = (closer, { pending with floor }) := by
  cases fuel with
  | zero => exact ⟨pending.floor, rfl⟩
  | succ fuel =>
    have noPartner : pending.partner? closer = none := by
      rw [partner?, noRuns]
      exact matching?_nil closer _
    rw [close, noPartner]
    by_cases usedUp : closer.left = 0
    · exact ⟨pending.floor, by rw [if_pos usedUp]⟩
    · rw [if_neg usedUp]
      by_cases isTilde : closer.sign = '~'
      · exact ⟨pending.runs.length, by simp [miss, isTilde]⟩
      · exact ⟨pending.floor, by simp [miss, isTilde]⟩

/-- A run that closes nothing opens something or is text. -/
theorem addRun_eq {run : Run} {pending : Pending}
    (closesNothing : run.canClose = false ∨ pending.runs = []) :
    ∃ floor, pending.addRun run =
      if run.left = 0 then { pending with floor }
      else if run.canOpen then { pending with runs := ⟨run, []⟩ :: pending.runs, floor }
      else { pending with floor }.add run.toText := by
  obtain ⟨floor, closed⟩ : ∃ floor, (if run.canClose then close run.left run pending
      else (run, pending)) = (run, { pending with floor }) := by
    rcases closesNothing with notClosing | noRuns
    · rw [notClosing]
      exact ⟨pending.floor, rfl⟩
    · split
      · exact close_of_runs_nil noRuns run.left run
      · exact ⟨pending.floor, rfl⟩
  refine ⟨floor, ?_⟩
  rw [addRun, closed]

theorem finish_addRun {run : Run} {pending : Pending}
    (closesNothing : run.canClose = false ∨ pending.runs = []) :
    (pending.addRun run).finish = pending.finish ++ run.toText := by
  obtain ⟨floor, added⟩ := addRun_eq closesNothing
  rw [added]
  split
  next usedUp => simp [finish, Run.toText, usedUp]
  next signsLeft =>
    split
    · simp [finish, Run.toText, signsLeft]
    · exact finish_add_toText run { pending with floor }

/-- A run that opens nothing leaves nothing open. -/
theorem runs_addRun {run : Run} {pending : Pending} (opensNothing : run.canOpen = false)
    (noRuns : pending.runs = []) : (pending.addRun run).runs = [] := by
  obtain ⟨floor, added⟩ := @addRun_eq run pending (.inr noRuns)
  rw [added, opensNothing]
  split
  · exact noRuns
  · simp [add, noRuns]

theorem runs_add {pending : Pending} (noRuns : pending.runs = []) (parts : List Inline) :
    (pending.add parts).runs = [] := by
  simp [add, noRuns]

end Pending

/-- No opening run stands before a closing one. -/
def Unpaired (nodes : List Node) : Prop :=
  nodes.Pairwise fun opener closer => opener.opens = true → closer.closes = false

/-- Where no opening run stands before a closing one, every part is shown as it is. -/
theorem finish_settleRuns {nodes : List Node} {pending : Pending} (unpaired : Unpaired nodes)
    (closesNothing : pending.runs = [] ∨ ∀ node ∈ nodes, node.closes = false) :
    (settleRuns pending nodes).finish = pending.finish ++ nodes.flatMap Node.shown := by
  induction nodes generalizing pending with
  | nil => simp [settleRuns]
  | cons node nodes inductionHypothesis =>
    obtain ⟨first, rest⟩ := List.pairwise_cons.1 unpaired
    have later : pending.runs = [] ∨ ∀ node ∈ nodes, node.closes = false :=
      closesNothing.imp_right fun none => (List.forall_mem_cons.1 none).2
    have added (inline : Inline) :
        (settleRuns (pending.add [inline]) nodes).finish =
          pending.finish ++ inline :: nodes.flatMap Node.shown := by
      rw [inductionHypothesis rest, Pending.finish_add, List.append_assoc]
      · rfl
      · exact later.imp_left fun noRuns => Pending.runs_add noRuns _
    cases node with
    | done inline => exact added inline
    | backslashBreak => exact added .hardBreak
    | mark sign canOpen canClose => exact added (.text [sign])
    | run run =>
      rw [settleRuns, inductionHypothesis rest, Pending.finish_addRun, List.append_assoc]
      · rfl
      · rcases closesNothing with noRuns | noCloser
        · exact .inr noRuns
        · exact .inl (List.forall_mem_cons.1 noCloser).1
      · cases opening : run.canOpen with
        | false => exact later.imp_left (Pending.runs_addRun opening)
        | true => exact .inr fun closer isLater => first closer isLater opening

/-- Running text in which no opening run stands before a closing one is shown as it is. -/
theorem settle_of_unpaired {nodes : List Node} (unpaired : Unpaired nodes)
    (noMark : ∀ node ∈ nodes, node.isMark = false) : settle nodes = nodes.flatMap Node.shown := by
  rw [settle, settleMarks_of_no_mark noMark, finish_settleRuns unpaired (.inl rfl)]
  rfl

end Folio.Markdown
