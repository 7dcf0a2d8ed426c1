import LexScan.Command.Run

/-! The two ways to the error stream. A diagnostic is kept in the scanner's log and noted in its
trace; the trace is echoed while a scan goes on, and the log is listed at its end. The trace notes
every diagnostic that is kept, once and in the same order, so that it makes no difference for what
is said which of the two is shown. Log entries may stand between the lines; a filter takes them away
and nothing else. -/
namespace LexScan

def Event.diagnostic? : Event → Option Diagnostic
  | .diagnosed d => some d
  | _ => none

/-! ### The trace notes what the log keeps -/

namespace Scanner

/-- The diagnostics in the trace are those in the log. -/
def Traced (s : Scanner) : Prop :=
  s.trace.toList.filterMap Event.diagnostic? = s.diagnostics.toList

theorem traced_ofSource (source : String) (limit : Nat) : (ofSource source limit).Traced := rfl

theorem Traced.report {s : Scanner} (traced : s.Traced) (d : Diagnostic) : (s.report d).Traced := by
  unfold Traced at traced ⊢
  simp [Scanner.report, Event.diagnostic?, traced]

theorem Traced.note {s : Scanner} (traced : s.Traced) {event : Event}
    (other : event.diagnostic? = none) : (s.note event).Traced := by
  unfold Traced at traced ⊢
  simp [Scanner.note, other, traced]

theorem Traced.moveOver {s : Scanner} (traced : s.Traced) (segment : Segment) (rest : List Char) :
    (s.moveOver segment rest).Traced := traced

theorem Traced.checkToken {s : Scanner} (traced : s.Traced) (token : Token) :
    (s.checkToken token).Traced := by
  unfold Scanner.checkToken checkIdentifier
  split
  · split
    · exact traced.report _
    · split
      · exact traced.report _
      · exact traced
  · exact traced

theorem Traced.absorb {s : Scanner} (traced : s.Traced) (segment : Segment) (rest : List Char) :
    (s.absorb segment rest).scanner.Traced := by
  have moved := traced.moveOver segment rest
  cases segment with
  | blank _ => exact moved
  | lineComment _ => exact moved.note rfl
  | blockComment _ => exact moved.note rfl
  | token _ _ => exact moved.checkToken _
  | strayCharacter _ => exact moved.report _
  | malformedCharacter _ => exact moved.report _
  | unterminatedString _ => exact (moved.report _).note rfl
  | unclosedComment _ _ => exact (moved.report _).note rfl

theorem Traced.step {s : Scanner} (traced : s.Traced) {result : Step} (stepped : s.step = result) :
    result.scanner.Traced := by
  rw [← stepped]
  unfold Scanner.step
  split
  · exact traced
  · exact traced.absorb _ _

theorem Traced.pull {s : Scanner} (traced : s.Traced) : s.pull.2.Traced := by
  fun_induction Scanner.pull s with
  | case1 s next skipped ih => exact ih (traced.step skipped)
  | case2 s token next found => exact (traced.step found).note rfl
  | case3 s next stopped => exact (traced.step stopped).note rfl

theorem Traced.drain {s : Scanner} (traced : s.Traced) : s.drain.2.Traced := by
  fun_induction Scanner.drain s with
  | case1 s next pulled =>
      have after := traced.pull
      rwa [pulled] at after
  | case2 s token next pulled later ih =>
      have after := traced.pull
      rw [pulled] at after
      exact ih after

end Scanner

/-! ### Log entries -/

/-- The entries that this program makes. -/
inductive Log.Entry.Made : Log.Entry → Prop where
  | event (event : Event) : Made (.ofEvent event)
  | noSettings (path : String) : Made (.noSettings path)
  | scanning (file : String) (characters : Nat) : Made (.scanning file characters)

/-- None of them is as grave as an error. -/
theorem Log.Entry.Made.level_ne_error {entry : Log.Entry} (made : entry.Made) :
    entry.level ≠ .error := by
  cases made with
  | event event => cases event <;> simp [ofEvent]
  | noSettings path => simp [Entry.noSettings]
  | scanning file characters => simp [Entry.scanning]

/-- Logging is off: no entry of this program passes the filter. -/
def Log.Filter.IsSilent (filter : Log.Filter) : Prop :=
  ∀ entry : Log.Entry, entry.Made → filter.admits entry = false

theorem Log.Filter.isSilent_ofVerbosity_zero : (ofVerbosity 0).IsSilent := by
  intro entry made
  have level := made.level_ne_error
  cases grade : entry.level <;>
    simp_all [ofVerbosity, admits, deciding, Directive.covers, Directive.admits, Level.rank]

/-- Without a setting that makes sense and without a request for more detail, logging is off. -/
theorem Log.Filter.isSilent_choose_zero {setting : Option String}
    (unset : setting.bind parse? = none) : (choose setting 0).IsSilent := by
  rw [choose, unset]
  exact isSilent_ofVerbosity_zero

namespace Command

/-! ### What is said apart from log entries -/

def Notice.isEntry : Notice → Bool
  | .logged _ => true
  | _ => false

/-- The notices that are no log entries. -/
def spoken (notices : List Notice) : List Notice := notices.filter (!·.isEntry)

/-- An outcome without its log entries. -/
def Outcome.unlogged (outcome : Outcome) : Outcome :=
  { outcome with notices := spoken outcome.notices }

@[simp] theorem spoken_nil : spoken [] = [] := rfl

@[simp] theorem spoken_line (text : String) (notices : List Notice) :
    spoken (.line text :: notices) = .line text :: spoken notices := rfl

@[simp] theorem spoken_logged (entry : Log.Entry) (notices : List Notice) :
    spoken (.logged entry :: notices) = spoken notices := rfl

@[simp] theorem spoken_append (first second : List Notice) :
    spoken (first ++ second) = spoken first ++ spoken second := List.filter_append ..

theorem spoken_map_line {α : Type} (text : α → String) (list : List α) :
    spoken (list.map fun a => .line (text a)) = list.map fun a => .line (text a) := by
  induction list with
  | nil => rfl
  | cons a list ih => simp [ih]

theorem logged_not_mem_spoken (entry : Log.Entry) (notices : List Notice) :
    .logged entry ∉ spoken notices := by
  simp [spoken, Notice.isEntry]

theorem line_mem_spoken (text : String) (notices : List Notice) :
    .line text ∈ spoken notices ↔ .line text ∈ notices := by
  simp [spoken, Notice.isEntry]

/-- A filter takes away log entries only. -/
theorem unlogged_filtered (outcome : Outcome) (filter : Log.Filter) :
    (outcome.filtered filter).unlogged = outcome.unlogged := by
  have entries (notice : Notice) :
      (!notice.isEntry && notice.isShown filter) = !notice.isEntry := by
    cases notice <;> simp [Notice.isEntry, Notice.isShown]
  simp [Outcome.unlogged, Outcome.filtered, spoken, List.filter_filter, entries]

/-- With logging off it takes away all of them. -/
theorem filtered_of_isSilent {outcome : Outcome} {filter : Log.Filter} (silent : filter.IsSilent)
    (made : ∀ entry, .logged entry ∈ outcome.notices → entry.Made) :
    outcome.filtered filter = outcome.unlogged := by
  unfold Outcome.filtered Outcome.unlogged spoken
  congr 1
  apply List.filter_congr
  intro notice member
  cases notice with
  | logged entry => simp [Notice.isShown, Notice.isEntry, silent entry (made entry member)]
  | _ => rfl

/-! ### The notices of a scan -/

theorem spoken_noticesOf (quiet : Bool) (event : Event) :
    spoken (noticesOf quiet event) =
      if quiet then [] else event.diagnostic?.toList.map fun d => .line d.render := by
  cases event <;> cases quiet <;> rfl

theorem spoken_echo (quiet : Bool) (events : List Event) :
    spoken (events.flatMap (noticesOf quiet)) =
      if quiet then []
      else (events.filterMap Event.diagnostic?).map fun d => .line d.render := by
  induction events with
  | nil => cases quiet <;> rfl
  | cons event events ih =>
      rw [List.flatMap_cons, spoken_append, spoken_noticesOf, ih, List.filterMap_cons]
      cases quiet <;> cases event.diagnostic? <;> simp

theorem made_of_mem_noticesOf {quiet : Bool} {event : Event} {entry : Log.Entry}
    (member : .logged entry ∈ noticesOf quiet event) : entry.Made := by
  have same : entry = .ofEvent event := by
    cases event <;> cases quiet <;> simpa [noticesOf] using member
  rw [same]
  exact .event event

theorem spoken_summary (quiet : Bool) (report : Report) :
    spoken (summary quiet report) = summary quiet report := by
  unfold summary
  split
  · cases quiet <;> cases report.complete <;> simp [spoken_map_line]
  · rfl

/-- A scan says what its diagnostics are, at once or at the end, and then how it ended. -/
theorem spoken_scanText (request : ScanRequest) (settings : Settings) (source : String)
    (before : List Notice) :
    spoken (scanText request settings source before).notices = spoken before ++
      ((if request.quiet then []
        else (Report.ofSource source settings.maxIdentifierLength).diagnostics.map
          fun d => .line d.render) ++
        summary request.quiet (Report.ofSource source settings.maxIdentifierLength)) := by
  have traced := (Scanner.traced_ofSource source settings.maxIdentifierLength).drain
  unfold Scanner.Traced at traced
  simp only [scanText, spoken_append, spoken_logged, spoken_nil, spoken_echo, traced,
    spoken_summary, List.append_assoc]
  rfl

theorem made_of_mem_scanText {request : ScanRequest} {settings : Settings} {source : String}
    {before : List Notice} (made : ∀ entry, .logged entry ∈ before → entry.Made)
    {entry : Log.Entry}
    (member : .logged entry ∈ (scanText request settings source before).notices) :
    entry.Made := by
  simp only [scanText, List.mem_append, List.mem_singleton, List.mem_flatMap] at member
  rcases member with ((early | same) | ⟨event, _, echoed⟩) | late
  · exact made entry early
  · obtain rfl := Notice.logged.inj same
    exact .scanning _ _
  · exact made_of_mem_noticesOf echoed
  · rw [← spoken_summary] at late
    exact absurd late (logged_not_mem_spoken entry _)

end Command
end LexScan
