import LuaMarkup.Command.Run
import LuaMarkup.Proofs.Except
import LuaMarkup.Proofs.Logging
import Mathlib

/-!
# The work of a command

What a run requests, apart from what is for the log, and what it comes to by the answers: it reads
the input, makes markup of it, puts that where it is asked for and reports what the system refuses.
-/

namespace LuaMarkup.Command

open Scripted

def file : Command → Text
  | .source file => file
  | .page file _ _ => file

def output : Command → Option Text
  | .source _ => none
  | .page _ output _ => output

-- ---------------------------------------------------------------------------
-- The work of a command
-- ---------------------------------------------------------------------------

/-- Reading the input, with what it comes to. -/
inductive Reads : (name : Text) → List Event → Except Failure Text → Prop
  | input (answer : Except StreamError Text) :
    Reads ['-'] [⟨.input, answer⟩] ((answer.mapError .ofStream).map Text.unifyLineEnds)
  | file {name} (hname : name ≠ ['-']) (answer : Except FileError (List UInt8)) :
    Reads name [⟨.read (.ofText name), answer⟩] ((decode answer).map Text.unifyLineEnds)

/-- Making markup of a text. For a page a seed is asked for. -/
inductive Highlights (lib : Html.Library) :
    Command → (text : Text) → List Event → Except Crash Text → Prop
  | source {file text result} : sourceMarkup text = result →
    Highlights lib (.source file) text [] result
  | page {file output cssClass text seed result} : (pageMarkup lib cssClass seed text).2 = result →
    Highlights lib (.page file output cssClass) text [⟨.seed, seed⟩] result

/-- Putting a text where it is asked for. That a file has been written is announced. -/
inductive Puts (text : Text) : (output : Option Text) → List Event → Except Failure Unit → Prop
  | print (answer : Except (Broken StreamError) Unit) :
    Puts text none [⟨.print text, answer⟩] (answer.mapError fun e => .ofStream e.cause)
  | unwritten {name} (e : Broken FileError) :
    Puts text (some name) [⟨.write (.ofText name) text, .error e⟩] (.error (.ofFile e.cause))
  | written {name} (answer : Except ReportError Unit) :
    Puts text (some name)
      [⟨.write (.ofText name) text, .ok ()⟩, ⟨.report (announcement name), answer⟩]
      (answer.mapError .ofReport)

inductive Performs (lib : Html.Library) (command : Command) :
    List Event → Except Failure Unit → Prop
  | unread {events failure} : Reads command.file events (.error failure) →
    Performs lib command events (.error failure)
  | unmade {events text more cause} : Reads command.file events (.ok text) →
    Highlights lib command text more (.error cause) →
    Performs lib command (events ++ more) (.error (.crash cause))
  | put {events text more markup last result} : Reads command.file events (.ok text) →
    Highlights lib command text more (.ok markup) → Puts markup command.output last result →
    Performs lib command (events ++ (more ++ last)) result

/-- How a performance ends. What the system refuses is reported. -/
inductive Finishes (lib : Html.Library) (command : Command) : List Event → Outcome → Prop
  | done {events} : Performs lib command events (.ok ()) → Finishes lib command events (.exit 0)
  | crashed {events cause} : Performs lib command events (.error (.crash cause)) →
    Finishes lib command events (.crash cause)
  | ended {events} : Performs lib command events (.error .ended) →
    Finishes lib command events (.exit 1)
  | reported {events message} : Performs lib command events (.error (.refused message)) →
    Finishes lib command (events ++ [⟨.report (complaint message), .ok ()⟩]) (.exit 1)
  | unheard {events message} : Performs lib command events (.error (.refused message)) →
    Finishes lib command (events ++ [⟨.report (complaint message), .error .ended⟩]) (.exit 1)
  | unreported {events message cause} :
    Performs lib command events (.error (.refused message)) →
    Finishes lib command (events ++ [⟨.report (complaint message), .error (.stream cause)⟩])
      (.crash (.stream cause))

-- ---------------------------------------------------------------------------
-- A run does the work of its command
-- ---------------------------------------------------------------------------

/-- Work among events that are otherwise of the log. -/
structure Among (logging : Logging) (work : List Event → Prop) (events : List Event) : Prop where
  work : work (events.filter Event.isWork)
  others : ∀ e ∈ events, e.isWork ∨ logging.Uses e.request

variable {world : World} {logging : Logging} {lib : Html.Library}

theorem Reads.isWork {name : Text} {events : List Event} {result : Except Failure Text}
    (h : Reads name events result) : ∀ e ∈ events, e.isWork := by
  cases h <;> exact List.forall_mem_singleton.mpr rfl

theorem Puts.isWork {text : Text} {output : Option Text} {events : List Event}
    {result : Except Failure Unit} (h : Puts text output events result) :
    ∀ e ∈ events, e.isWork := by
  cases h with
  | print | unwritten => exact List.forall_mem_singleton.mpr rfl
  | written => exact List.forall_mem_cons.mpr ⟨rfl, List.forall_mem_singleton.mpr rfl⟩

theorem among_of_isWork {work : List Event → Prop} {events : List Event}
    (hevents : ∀ e ∈ events, e.isWork) (h : work events) : Among logging work events where
  work := by rwa [List.filter_eq_self.mpr hevents]
  others e he := .inl (hevents e he)

theorem Among.append {work work' : List Event → Prop} {events more : List Event}
    (h : Among logging work events) (h' : Among logging (fun last => ∀ first, work first →
      work' (first ++ last)) more) : Among logging work' (events ++ more) where
  work := by
    rw [List.filter_append]
    exact h'.work _ h.work
  others e he := (List.mem_append.mp he).elim (h.others e) (h'.others e)

theorem Among.mono {work work' : List Event → Prop} {events : List Event}
    (h : Among logging work events) (hwork : ∀ events, work events → work' events) :
    Among logging work' events where
  work := hwork _ h.work
  others := h.others

theorem among_of_uses {work : List Event → Prop} {events : List Event}
    (hevents : ∀ e ∈ events, logging.Uses e.request) (h : work []) :
    Among logging work events where
  work := by
    have hnone : events.filter Event.isWork = [] :=
      List.filter_eq_nil_iff.mpr fun e he => (hevents e he).noWork
    rwa [hnone]
  others e he := .inr (hevents e he)

theorem readInput_yields (name : Text) :
    (readInput name : Steps (Scripted world) Text).run.Yields fun result events =>
      Reads name events result := by
  rw [readInput]
  split
  case isTrue hname =>
    subst hname
    exact yields_askT .input fun answer => yields_ofExcept (.input answer)
  case isFalse hname =>
    exact yields_askT (.read (.ofText name)) fun answer =>
      yields_ofExcept (.file hname answer)

theorem writeOutput_yields (text : Text) (output : Option Text) :
    (writeOutput text output : Steps (Scripted world) Unit).run.Yields fun result events =>
      Puts text output events result := by
  cases output with
  | none =>
    exact yields_askT (.print text) fun answer => yields_ofExcept (.print answer)
  | some name =>
    refine yields_askT (.write (.ofText name) text) fun answer => ?_
    refine yields_ofExceptT (fun failure hfailure => ?_) fun _ hwritten => ?_
    · cases answer with
      | error e =>
        cases hfailure
        exact .unwritten e
      | ok => cases hfailure
    · cases answer with
      | error e => cases hwritten
      | ok =>
        exact yields_askT (.report (announcement name)) fun answer =>
          yields_ofExcept (.written answer)

theorem logTrace_only (logging : Logging) (trace : Bool) (hits : List Match) :
    Only logging.Uses (logTrace logging trace hits : Scripted world _) := by
  cases trace with
  | false => exact only_pure ()
  | true => exact logging.logAll_only _

/-- What follows when a text has been read and markup made of it. -/
theorem put_yields {command : Command} {text : Text} {read made : List Event}
    {result : Except Crash Text} (hread : Among logging (Reads command.file · (.ok text)) read)
    (hmake : Among logging (Highlights lib command text · result) made) :
    (do
      let markup ← ofExcept (result.mapError .crash)
      writeOutput markup command.output : Steps (Scripted world) Unit).run.Yields
        fun outcome last => Among logging (Performs lib command · outcome)
          (read ++ (made ++ last)) := by
  refine yields_ofExceptT (fun failure hfailure => ?_) fun markup hmarkup => ?_
  · obtain ⟨cause, rfl, rfl⟩ := mapError_eq_error_iff.mp hfailure
    rw [List.append_nil]
    exact hread.append (hmake.mono fun _ hmade _ hfirst => .unmade hfirst hmade)
  · obtain rfl := mapError_eq_ok_iff.mp hmarkup
    refine (writeOutput_yields markup command.output).mono fun result last hput => ?_
    refine hread.append (hmake.append ?_)
    exact among_of_isWork hput.isWork fun _ hmade _ hfirst => .put hfirst hmade hput

theorem perform_yields (trace : Bool) (command : Command) :
    (perform lib logging trace command : Steps (Scripted world) Unit).run.Yields
      fun result events => Among logging (Performs lib command · result) events := by
  cases command with
  | source file =>
    refine (readInput_yields file).bindT (fun failure read hread => ?_) fun text read hread => ?_
    · exact among_of_isWork hread.isWork (.unread hread)
    have hreading : Among logging (Reads (Command.source file).file · (.ok text)) read :=
      among_of_isWork hread.isWork hread
    refine (logTrace_only logging trace (highlightTrace text)).bindT fun _ logged hlogged => ?_
    have hmaking :
        Among logging (Highlights lib (.source file) text · (sourceMarkup text)) logged :=
      among_of_uses hlogged (.source rfl)
    exact put_yields hreading hmaking
  | page file output cssClass =>
    refine (readInput_yields file).bindT (fun failure read hread => ?_) fun text read hread => ?_
    · exact among_of_isWork hread.isWork (.unread hread)
    have hreading :
        Among logging (Reads (Command.page file output cssClass).file · (.ok text)) read :=
      among_of_isWork hread.isWork hread
    refine yields_askT .seed fun seed => ?_
    refine (logTrace_only logging trace _).bindT fun _ traced htraced => ?_
    refine (logging.logAll_only _).bindT fun _ logged hlogged => ?_
    have hseeding : Among logging (· = [⟨.seed, seed⟩]) [⟨.seed, seed⟩] :=
      among_of_isWork (List.forall_mem_singleton.mpr rfl) rfl
    have hmaking : Among logging (Highlights lib (.page file output cssClass) text ·
        (pageMarkup lib cssClass seed text).2) ([⟨.seed, seed⟩] ++ (traced ++ logged)) :=
      hseeding.append (among_of_uses (List.forall_mem_append.mpr ⟨htraced, hlogged⟩)
        fun _ hdrawn => hdrawn ▸ .page rfl)
    refine (put_yields hreading hmaking).mono fun _ last h => ?_
    simpa only [List.cons_append, List.nil_append, List.append_assoc] using h

theorem finish_yields (invocation : Invocation) :
    (finish lib logging invocation : Scripted world Outcome).Yields fun outcome events =>
      Among logging (Finishes lib invocation.command · outcome) events := by
  refine (perform_yields invocation.trace invocation.command).bind fun result events h => ?_
  obtain (message | _ | cause) | _ := result
  · refine yields_ask (.report (complaint message)) fun answer => ?_
    have hreport : ∀ {outcome : Outcome},
        (∀ first, Performs lib invocation.command first (.error (.refused message)) →
          Finishes lib invocation.command (first ++ [⟨.report (complaint message), answer⟩])
            outcome) →
        Among logging (Finishes lib invocation.command · outcome)
          (events ++ [⟨.report (complaint message), answer⟩]) := fun hfinishes =>
      h.append (among_of_isWork (List.forall_mem_singleton.mpr rfl) hfinishes)
    rcases answer with (cause | _) | _
    · exact yields_pure (hreport fun _ => .unreported)
    · exact yields_pure (hreport fun _ => .unheard)
    · exact yields_pure (hreport fun _ => .reported)
  all_goals
    refine yields_pure ?_
    rw [List.append_nil]
  · exact ⟨.ended h.work, h.others⟩
  · exact ⟨.crashed h.work, h.others⟩
  · exact ⟨.done h.work, h.others⟩

/-- What the events of a run come to. It may end before the work, with the last error of the
log. -/
inductive Runs (lib : Html.Library) (command : Command) (events : List Event) : Outcome → Prop
  | unlogged {cause} : (∀ e ∈ events, ¬e.isWork) → lastLogError? events = some cause →
    Runs lib command events (.crash (.file cause))
  | finished {outcome} : Finishes lib command (events.filter Event.isWork) outcome →
    Runs lib command events outcome

theorem Runs.after_log {command : Command} {events more : List Event} {outcome : Outcome}
    (hevents : ∀ e ∈ events, ¬e.isWork) (h : Runs lib command more outcome) :
    Runs lib command (events ++ more) outcome := by
  cases h with
  | unlogged hmore hlast =>
    refine .unlogged (fun e he => ?_) (lastLogError?_append hlast)
    exact (List.mem_append.mp he).elim (hevents e) (hmore e)
  | finished hfinishes =>
    refine .finished ?_
    rwa [List.filter_append, List.filter_eq_nil_iff.mpr hevents]

theorem logSettings_file (settings : Settings) (trace : Bool) :
    (logSettings settings trace).file = settings.log.file := by
  rw [logSettings]
  split <;> rfl

theorem start_yields (honConsole : logging.OnConsole) (settings : Settings)
    (invocation : Invocation) :
    (start lib logging settings invocation : Scripted world Outcome).Yields
      fun outcome events => Runs lib invocation.command events outcome ∧
        (settings.log.file = none → ∀ e ∈ events, ¬e.request.changesLog) := by
  rw [start]
  cases hfile : settings.log.file with
  | none =>
    have hnone : (logSettings settings invocation.trace).file = none := by
      rw [logSettings_file, hfile]
    rw [logging.setUp_of_file_eq_none hnone, pure_bind]
    have hafter := honConsole.append_console (logSettings settings invocation.trace).level
      (logSettings settings invocation.trace).level
    refine (finish_yields invocation).mono fun outcome events h =>
      ⟨.finished h.work, fun _ e he => ?_⟩
    exact (h.others e he).elim Request.not_changesLog_of_isWork fun huses =>
      huses.of_onConsole hafter
  | some path =>
    refine (logging.setUp_yields _).bind ?_
    rintro (cause | after) readied hreadied
    · refine yields_pure ⟨?_, nofun⟩
      rw [List.append_nil]
      exact .unlogged hreadied.noWork (hreadied.lastError cause rfl)
    · exact (finish_yields invocation).mono fun outcome events h =>
        ⟨.after_log hreadied.noWork (.finished h.work), nofun⟩

theorem run_yields {loaded : Settings.Loaded} {arguments : List Text} {settings : Settings}
    {invocation : Invocation} (hsettings : loaded.settings = .ok settings)
    (harguments : Invocation.ofArguments settings arguments = .ok invocation) :
    (run lib loaded arguments : Scripted world Outcome).Yields fun outcome events =>
      Runs lib invocation.command events outcome ∧
        (settings.log.file = none → ∀ e ∈ events, ¬e.request.changesLog) := by
  have hbare : Logging.OnConsole {} := nofun
  have hlog : ∀ {events more : List Event} {outcome : Outcome},
      (∀ e ∈ events, Logging.Uses {} e.request) →
      (Runs lib invocation.command more outcome ∧
        (settings.log.file = none → ∀ e ∈ more, ¬e.request.changesLog)) →
      Runs lib invocation.command (events ++ more) outcome ∧
        (settings.log.file = none → ∀ e ∈ events ++ more, ¬e.request.changesLog) :=
    fun hevents ⟨hruns, hquiet⟩ => ⟨.after_log (fun e he => (hevents e he).noWork) hruns,
      fun hfile e he => (List.mem_append.mp he).elim
        (fun he => (hevents e he).of_onConsole hbare) (hquiet hfile e)⟩
  refine Yields.bind (Logging.logAll_only {} loaded.warnings) fun _ warned hwarned => ?_
  simp only [hsettings]
  refine Yields.bind (Logging.log_only {} loaded.record) fun _ logged hlogged => ?_
  simp only [harguments]
  exact (start_yields hbare settings invocation).mono fun outcome events h =>
    hlog hwarned (hlog hlogged h)

end LuaMarkup.Command
