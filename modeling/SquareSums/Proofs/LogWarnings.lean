import SquareSums.Console.Program
import SquareSums.Proofs.PatternMeaning

/-! What a log setting says. Each directive that cannot be read has its warning, and so has an expression that
is refused; nothing is said of a readable setting. An expression that is read narrows what the directives show
to the records in whose messages it matches something. -/

namespace SquareSums

theorem Lines.gather_ne_nil {earlier : List (List Char)} {backwards text : List Char}
    (something : earlier ≠ [] ∨ backwards ≠ [] ∨ text ≠ []) : gather earlier backwards text ≠ [] := by
  induction text generalizing earlier backwards with
  | nil =>
    rw [gather]
    cases backwards <;> simp_all
  | cons character text ih =>
    by_cases newline : character = '\n'
    · subst newline
      exact ih (.inl (List.cons_ne_nil _ _))
    · rw [gather]
      · exact ih (.inr (.inl (List.cons_ne_nil _ _)))
      · exact newline

namespace Console.LogFilter

def complaint? (text : List Char) : Option Warning :=
  match Directive.ofText text with
  | .ok _ => none
  | .error warning => some warning

def directives (text : List Char) : List (List Char) := ((text.splitOn ',').map Blank.trim).filter (!·.isEmpty)

/-- Each step of a fold says at most one thing, after what was said before. -/
theorem snd_foldl_eq {σ ω α : Type} {step : σ × List ω → α → σ × List ω} {said? : α → Option ω}
    (grows : ∀ state item, (step state item).2 = state.2 ++ (said? item).toList) (items : List α) (state : σ × List ω) :
    (items.foldl step state).2 = state.2 ++ items.filterMap said? := by
  induction items generalizing state with
  | nil => exact (List.append_nil _).symm
  | cons item items ih =>
    rw [List.foldl_cons, ih, grows, List.append_assoc, List.filterMap_cons]
    cases said? item <;> rfl

theorem applyAll_warnings (filter : LogFilter) (text : List Char) :
    (applyAll filter text).2 = (directives text).filterMap complaint? := by
  refine snd_foldl_eq (fun (earlier, warnings) directive => ?_) (directives text) (filter, [])
  rw [complaint?]
  cases Directive.ofText directive with
  | ok read => exact (List.append_nil _).symm
  | error warning => rfl

/-- A record is shown if it is severe enough for its target, and if the expression matches part of its message. -/
theorem shows_iff {filter : LogFilter} {event : Event} :
    filter.shows event = true ↔
      (filter.threshold event.target).shows event.level = true ∧
        ∀ pattern, filter.pattern = some pattern →
          ∃ first last, first ≤ event.message.toList.length ∧ pattern.Matches event.message.toList first last := by
  simp only [shows, Bool.and_eq_true, Option.all_eq_true, Pattern.occursIn_iff]

theorem applyAll_pattern (filter : LogFilter) (text : List Char) : (applyAll filter text).1.pattern = filter.pattern := by
  rw [applyAll]
  generalize (((text.splitOn ',').map Blank.trim).filter (!·.isEmpty)) = list
  suffices kept : ∀ state : LogFilter × List Warning, (list.foldl _ state).1.pattern = state.1.pattern from
    kept (filter, [])
  induction list with
  | nil => exact fun _ => rfl
  | cons directive list ih =>
    intro state
    rw [List.foldl_cons, ih]
    rcases Directive.ofText directive with warning | threshold | ⟨name, threshold⟩
    · rfl
    · rfl
    · rfl

/-- An expression behind the directives narrows what they show; one that is refused narrows nothing. -/
theorem select_choose_of_expression (requests : Nat) {text directives expression : List Char}
    (cut : text.splitOn '/' = [directives, expression]) (events : List Event) :
    (choose requests (some (String.ofList text))).1.select events =
      ((applyAll ⟨Threshold.ofVerbosity requests, [], none⟩ directives).1.select events).filter fun event =>
        match Pattern.ofText expression with
        | .ok pattern => pattern.occursIn event.message
        | .error _ => true := by
  rw [choose, Option.map_some, String.toList_ofList]
  simp only [cut]
  have unasked := applyAll_pattern ⟨Threshold.ofVerbosity requests, [], none⟩ directives
  cases Pattern.ofText expression with
  | error refusal => exact (List.filter_eq_self.mpr fun _ _ => rfl).symm
  | ok pattern =>
    simp only [select, List.filter_filter]
    refine List.filter_congr fun event _ => ?_
    simp only [shows, unasked, Option.all_none, Option.all_some, Bool.and_true]
    exact Bool.and_comm _ _

/-- With an expression that can be read, the records are shown in whose messages it finds something. -/
theorem mem_select_choose_of_expression (requests : Nat) {text directives expression : List Char} {pattern : Pattern}
    (cut : text.splitOn '/' = [directives, expression]) (read : Pattern.ofText expression = .ok pattern)
    (events : List Event) :
    ∃ tree, Pattern.Tree.ofText expression = .ok tree ∧ ∀ event,
      event ∈ (choose requests (some (String.ofList text))).1.select events ↔
        event ∈ (applyAll ⟨Threshold.ofVerbosity requests, [], none⟩ directives).1.select events ∧
          ∃ first last, first ≤ event.message.toList.length ∧
            tree.Finds event.message.toList Pattern.Flags.initial first last := by
  obtain ⟨tree, parsed, finds⟩ := Pattern.occursIn_iff_finds read
  refine ⟨tree, parsed, fun event => ?_⟩
  simp only [select_choose_of_expression requests cut, List.mem_filter, read, finds]

/-- What is said about a log setting, however much is asked to be shown. -/
def warnings (setting : Option String) : List Warning :=
  setting.elim [] fun text =>
    match text.toList.splitOn '/' with
    | [list] => (directives list).filterMap complaint?
    | [list, expression] =>
      (directives list).filterMap complaint? ++
        match Pattern.ofText expression with
        | .ok _ => []
        | .error refusal => [.badPattern refusal expression]
    | _ => [.tooManySlashes text.toList]

theorem choose_warnings (verbosity : Nat) (setting : Option String) :
    (choose verbosity setting).2 = warnings setting := by
  cases setting with
  | none => rfl
  | some text =>
    simp only [choose, warnings, Option.map_some, Option.elim_some]
    rcases text.toList.splitOn '/' with _ | ⟨list, _ | ⟨expression, _ | _⟩⟩
    · rfl
    · exact applyAll_warnings _ list
    · dsimp only
      cases Pattern.ofText expression with
      | ok pattern => exact (applyAll_warnings _ list).trans (List.append_nil _).symm
      | error refusal => exact congrArg (· ++ _) (applyAll_warnings _ list)
    · rfl

/-- Nothing in the setting is malformed. -/
def Readable (setting : Option String) : Prop :=
  ∀ text ∈ setting, match text.toList.splitOn '/' with
    | [list] => ∀ directive ∈ directives list, ∃ read, Directive.ofText directive = .ok read
    | [list, expression] =>
      (∀ directive ∈ directives list, ∃ read, Directive.ofText directive = .ok read) ∧
        ∃ pattern, Pattern.ofText expression = .ok pattern
    | _ => False

theorem complaint?_eq_none_iff {text : List Char} :
    complaint? text = none ↔ ∃ read, Directive.ofText text = .ok read := by
  rw [complaint?]
  cases Directive.ofText text <;> simp

theorem warnings_eq_nil_iff {setting : Option String} : warnings setting = [] ↔ Readable setting := by
  cases setting with
  | none => simp [warnings, Readable]
  | some text =>
    simp only [warnings, Readable, Option.elim_some, Option.mem_some, forall_eq']
    split
    next list cut => simp only [List.filterMap_eq_nil_iff, complaint?_eq_none_iff]
    next list expression cut =>
      rw [List.append_eq_nil_iff, List.filterMap_eq_nil_iff]
      simp only [complaint?_eq_none_iff]
      cases Pattern.ofText expression <;> simp
    next => simp

def complaints (setting : Option String) : List String := (warnings setting).flatMap warningLines

theorem warningLines_ne_nil (warning : Warning) : warningLines warning ≠ [] := by
  have message : warning.message.toList ≠ [] := by
    have appended (before after : String) (nonempty : after.toList ≠ []) : (before ++ after).toList ≠ [] := by
      rw [String.toList_append]
      exact List.append_ne_nil_of_right_ne_nil _ nonempty
    cases warning with
    | unreadable text => exact appended _ "', ignoring it" (by decide)
    | tooManySlashes text => exact appended _ "' (too many '/'s), ignoring it" (by decide)
    | badPattern refusal text => exact appended _ ", ignoring it" (by decide)
  rw [warningLines, Ne, List.map_eq_nil_iff]
  exact Lines.gather_ne_nil (.inr (.inr message))

theorem complaints_eq_nil_iff {setting : Option String} : complaints setting = [] ↔ Readable setting := by
  rw [← warnings_eq_nil_iff, complaints, List.flatMap_eq_nil_iff]
  constructor
  · intro silent
    exact List.eq_nil_iff_forall_not_mem.mpr fun warning member => warningLines_ne_nil warning (silent warning member)
  · intro none warning member
    rw [none] at member
    cases member

end Console.LogFilter
end SquareSums
