import LuaMarkup.Html.Standard
import LuaMarkup.Proofs.Work
import Mathlib

/-!
# How a run ends

A run ends cleanly if all of the markup is where it was asked for, or if the reason why not has
been shown and nothing has been put anywhere. `run_ends_cleanly_iff`: so does each run on any host
that meets with no fault. A run crashes if the log cannot be set up, if the bytes of the input are
no text or a path is none, if highlighting fails, or if a stream or the console fails otherwise
than by a refusal of the system; and a refusal that comes too late leaves something behind.
-/

namespace LuaMarkup

namespace Event

open Command (Crash announcement complaint)

/-- What an answer makes a run crash with. -/
inductive Breaks : Event → Crash → Prop
  | zeroInFile {path} : Breaks ⟨.read path, .error .zeroInPath⟩ (.file .zeroInPath)
  | undecodable {path bytes cause} : Text.ofBytes bytes = .error cause →
    Breaks ⟨.read path, .ok bytes⟩ (.encoding cause)
  | unreadable {error} : Breaks ⟨.input, .error (.raised error)⟩ (.stream (.raised error))
  | zeroInOutput {path text begun} :
    Breaks ⟨.write path text, .error ⟨.zeroInPath, begun⟩⟩ (.file .zeroInPath)
  | unprintable {text error begun} :
    Breaks ⟨.print text, .error ⟨.raised error, begun⟩⟩ (.stream (.raised error))
  | unshown {message error} :
    Breaks ⟨.report message, .error (.stream (.raised error))⟩ (.stream (.raised error))
  /-- There is nothing behind the report of a refusal. -/
  | unreported {message refusal} :
    Breaks ⟨.report (complaint message), .error (.stream (.refused refusal))⟩
      (.stream (.refused refusal))

/-- An answer that is too late for a run to end as if nothing had been done. -/
inductive Spoils : Event → Prop
  | partlyPrinted {text cause} : Spoils ⟨.print text, .error ⟨cause, true⟩⟩
  | partlyWritten {path text cause} : Spoils ⟨.write path text, .error ⟨cause, true⟩⟩
  /-- The file has been written. -/
  | unannounced {name refusal} :
    Spoils ⟨.report (announcement name), .error (.stream (.refused refusal))⟩
  | unheard {message} : Spoils ⟨.report message, .error .ended⟩

/-- Whether all or some of a text has been put on the standard output or into a file. -/
def touches : Event → Bool
  | ⟨.print _, .ok ()⟩ | ⟨.write _ _, .ok ()⟩ => true
  | ⟨.print _, .error e⟩ => e.begun
  | ⟨.write _ _, .error e⟩ => e.begun
  | _ => false

/-- All of a text is put where it is asked for. -/
inductive Places (text : Text) : (output : Option Text) → Event → Prop
  | printed : Places text none ⟨.print text, .ok ()⟩
  | written {name} : Places text (some name) ⟨.write (.ofText name) text, .ok ()⟩

/-- The system refuses something, of which a message tells. -/
inductive Refuses : Event → (message : Text) → Prop
  | read {path cause} : cause ≠ .zeroInPath → Refuses ⟨.read path, .error cause⟩ cause.message
  | input {refusal} : Refuses ⟨.input, .error (.refused refusal)⟩ refusal.message
  | print {text refusal begun} :
    Refuses ⟨.print text, .error ⟨.refused refusal, begun⟩⟩ refusal.message
  | write {path text cause begun} : cause ≠ .zeroInPath →
    Refuses ⟨.write path text, .error ⟨cause, begun⟩⟩ cause.message

/-- A text is read from a file, or from the standard input if its name is `-`. -/
inductive Gives : Event → (name text : Text) → Prop
  | input {text} : Gives ⟨.input, .ok text⟩ ['-'] (Text.unifyLineEnds text)
  | file {name bytes text} : name ≠ ['-'] → Text.ofBytes bytes = .ok text →
    Gives ⟨.read (.ofText name), .ok bytes⟩ name (Text.unifyLineEnds text)

def seed? : Event → Option Nat
  | ⟨.seed, seed⟩ => some seed
  | _ => none

end Event

namespace Command

open Event (Breaks Spoils Refuses Gives)

/-- The seed that has been drawn. -/
def seedOf (history : List Event) : Nat := (history.filterMap Event.seed?).headD 0

/-- The markup that a command makes of a text. -/
def markup (lib : Html.Library) (seed : Nat) : Command → Text → Except Crash Text
  | .source _, text => sourceMarkup text
  | .page _ _ cssClass, text => (pageMarkup lib cssClass seed text).2

/-- What makes a run crash: that the log cannot be set up, that an answer breaks it off, or that no
markup can be made. -/
inductive Crashes (lib : Html.Library) (command : Command) (history : List Event) : Crash → Prop
  | unlogged {cause} : (∀ e ∈ history, ¬e.isWork) → lastLogError? history = some cause →
    Crashes lib command history (.file cause)
  | broken {e cause} : e ∈ history → e.Breaks cause → Crashes lib command history cause
  | unhighlighted {e text cause} : e ∈ history → e.Gives command.file text →
    command.markup lib (seedOf history) text = .error cause → Crashes lib command history cause

/-- A run ends with all of the markup where it is asked for, and nothing anywhere else, or with the
reason why not shown and nothing put anywhere. -/
inductive EndsCleanly (lib : Html.Library) (command : Command) (history : List Event) :
    Outcome → Prop
  | delivered {source text markup put} : source ∈ history → source.Gives command.file text →
    command.markup lib (seedOf history) text = .ok markup →
    history.filter Event.touches = [put] → put.Places markup command.output →
    EndsCleanly lib command history (.exit 0)
  | refused {e message} : e ∈ history → e.Refuses message →
    ⟨.report (complaint message), .ok ()⟩ ∈ history → (∀ e ∈ history, ¬e.touches) →
    EndsCleanly lib command history (.exit 1)

-- ---------------------------------------------------------------------------
-- The faults of each part
-- ---------------------------------------------------------------------------

section
variable {name text : Text} {events : List Event} {cause : Crash} {message : Text}

theorem breaks_read_iff {path : FilePath} {answer : Except FileError (List UInt8)} :
    Breaks ⟨.read path, answer⟩ cause ↔ decode answer = .error (.crash cause) := by
  constructor
  · rintro (_ | hbytes)
    · rfl
    · rw [decode, hbytes]
      rfl
  · intro h
    cases answer with
    | error e => cases e <;> cases h; exact .zeroInFile
    | ok bytes =>
      obtain ⟨fault, hbytes, hfault⟩ := mapError_eq_error_iff.mp h
      cases hfault
      exact .undecodable hbytes

theorem breaks_input_iff {answer : Except StreamError Text} :
    Breaks ⟨.input, answer⟩ cause ↔
      answer.mapError Failure.ofStream = .error (.crash cause) := by
  constructor
  · rintro ⟨⟩
    rfl
  · intro h
    rcases answer with (_ | _) | _ <;> cases h
    exact .unreadable

theorem breaks_print_iff {answer : Except (Broken StreamError) Unit} :
    Breaks ⟨.print text, answer⟩ cause ↔
      answer.mapError (fun e => Failure.ofStream e.cause) = .error (.crash cause) := by
  constructor
  · rintro ⟨⟩
    rfl
  · intro h
    rcases answer with ⟨_ | _, _⟩ | _ <;> cases h
    exact .unprintable

theorem breaks_write_iff {path : FilePath} {e : Broken FileError} :
    Breaks ⟨.write path text, .error e⟩ cause ↔ Failure.ofFile e.cause = .crash cause := by
  constructor
  · rintro ⟨⟩
    rfl
  · intro h
    rcases e with ⟨_ | _ | _, _⟩ <;> cases h
    exact .zeroInOutput

theorem announcement_ne_complaint : announcement name ≠ complaint message := fun h =>
  absurd (show some 'g' = some 'r' from congrArg (·[1]?) h) (by decide)

theorem breaks_announcement_iff {answer : Except ReportError Unit} :
    Breaks ⟨.report (announcement name), answer⟩ cause ↔
      answer.mapError Failure.ofReport = .error (.crash cause) := by
  generalize hshown : announcement name = shown
  constructor
  · rintro (_ | _)
    · rfl
    · exact absurd hshown announcement_ne_complaint
  · intro h
    rcases answer with ((_ | _) | _) | _ <;> cases h
    exact .unshown

theorem breaks_complaint_iff {answer : Except ReportError Unit} :
    Breaks ⟨.report (complaint message), answer⟩ cause ↔
      ∃ e, answer = .error (.stream e) ∧ cause = .stream e := by
  constructor
  · rintro ⟨⟩ <;> exact ⟨_, rfl, rfl⟩
  · rintro ⟨refusal | error, rfl, rfl⟩
    · exact .unreported
    · exact .unshown

variable {result : Except Failure Text}

theorem Reads.exists_breaks_iff (h : Reads name events result) :
    (∃ e ∈ events, e.Breaks cause) ↔ result = .error (.crash cause) := by
  cases h with
  | input answer => simp [breaks_input_iff, map_eq_error_iff]
  | file hname answer => simp [breaks_read_iff, map_eq_error_iff]

theorem gives_input_iff {answer : Except StreamError Text} :
    Gives ⟨.input, answer⟩ ['-'] text ↔
      (answer.mapError Failure.ofStream).map Text.unifyLineEnds = .ok text := by
  constructor
  · rintro ⟨⟩
    rfl
  · intro h
    cases answer <;> cases h
    exact .input

theorem gives_read_iff (hname : name ≠ ['-']) {answer : Except FileError (List UInt8)} :
    Gives ⟨.read (.ofText name), answer⟩ name text ↔
      (decode answer).map Text.unifyLineEnds = .ok text := by
  generalize hpath : FilePath.ofText name = path
  constructor
  · rintro (_ | ⟨_, hbytes⟩)
    rw [decode, hbytes]
    rfl
  · intro h
    subst hpath
    cases hread : decode answer with
    | error failure => cases hread ▸ h
    | ok read =>
      rw [hread] at h
      cases h
      cases answer with
      | error e => cases hread
      | ok bytes => exact .file hname (mapError_eq_ok_iff.mp hread)

theorem Reads.exists_gives_iff (h : Reads name events result) :
    (∃ e ∈ events, e.Gives name text) ↔ result = .ok text := by
  cases h with
  | input answer => simp [gives_input_iff]
  | file hname answer => simp [gives_read_iff hname]

theorem ofFile_eq_refused_iff {e : FileError} :
    Failure.ofFile e = .refused message ↔ e ≠ .zeroInPath ∧ e.message = message := by
  cases e <;> simp [Failure.ofFile]

theorem ofStream_eq_refused_iff {e : StreamError} :
    Failure.ofStream e = .refused message ↔
      ∃ refusal, e = .refused refusal ∧ refusal.message = message := by
  cases e <;> simp [Failure.ofStream]

theorem Reads.exists_refuses (h : Reads name events (.error (.refused message))) :
    ∃ e ∈ events, e.Refuses message := by
  generalize hresult : (.error (.refused message) : Except Failure Text) = result at h
  cases h with
  | input answer =>
    obtain ⟨e, rfl, he⟩ := mapError_eq_error_iff.mp (map_eq_error_iff.mp hresult.symm)
    obtain ⟨refusal, rfl, rfl⟩ := ofStream_eq_refused_iff.mp he
    exact ⟨_, List.mem_singleton_self _, .input⟩
  | file hname answer =>
    have hread := map_eq_error_iff.mp hresult.symm
    cases answer with
    | error e =>
      obtain ⟨hzero, rfl⟩ := ofFile_eq_refused_iff.mp (Except.error.inj hread)
      exact ⟨_, List.mem_singleton_self _, .read hzero⟩
    | ok bytes =>
      obtain ⟨_, _, hfailure⟩ := mapError_eq_error_iff.mp hread
      cases hfailure

theorem ofFile_ne_ended (e : FileError) : Failure.ofFile e ≠ .ended := by
  cases e <;> exact nofun

theorem ofStream_ne_ended (e : StreamError) : Failure.ofStream e ≠ .ended := by
  cases e <;> exact nofun

/-- Only the console ends a program. -/
theorem Reads.not_ended : ¬Reads name events (.error .ended) := by
  generalize hresult : (.error .ended : Except Failure Text) = result
  intro h
  cases h with
  | input answer =>
    obtain ⟨e, rfl, he⟩ := mapError_eq_error_iff.mp (map_eq_error_iff.mp hresult.symm)
    exact ofStream_ne_ended e he
  | file hname answer =>
    have hread := map_eq_error_iff.mp hresult.symm
    cases answer with
    | error e => exact ofFile_ne_ended e (Except.error.inj hread)
    | ok bytes =>
      obtain ⟨_, _, hfailure⟩ := mapError_eq_error_iff.mp hread
      cases hfailure

theorem Reads.not_spoils (h : Reads name events result) : ∀ e ∈ events, ¬e.Spoils := by
  cases h <;> exact List.forall_mem_singleton.mpr nofun

theorem Reads.not_touches (h : Reads name events result) : ∀ e ∈ events, ¬e.touches := by
  cases h <;> exact List.forall_mem_singleton.mpr nofun

theorem Reads.seed? (h : Reads name events result) : events.filterMap Event.seed? = [] := by
  cases h <;> rfl

theorem Reads.ne_nil (h : Reads name events result) : events ≠ [] := by
  cases h <;> exact List.cons_ne_nil _ _

theorem Reads.not_reports (h : Reads name events result) :
    ∀ e ∈ events, e.request ≠ .report (complaint message) := by
  cases h <;> exact List.forall_mem_singleton.mpr nofun

end

section
variable {text : Text} {output : Option Text} {events : List Event} {cause : Crash}
  {message : Text} {result : Except Failure Unit}

theorem Puts.exists_breaks_iff (h : Puts text output events result) :
    (∃ e ∈ events, e.Breaks cause) ↔ result = .error (.crash cause) := by
  cases h with
  | print answer => simp [breaks_print_iff]
  | unwritten e => simp [breaks_write_iff]
  | written answer =>
    have hwritten : ∀ path, ¬Breaks ⟨.write path text, .ok ()⟩ cause := fun _ => nofun
    simp [breaks_announcement_iff, hwritten]

/-- All that is touched is where the text is asked for. -/
theorem Puts.delivers (h : Puts text output events (.ok ())) :
    (∃ put, events.filter Event.touches = [put] ∧ put.Places text output) ∧
      ∀ e ∈ events, ¬e.Spoils := by
  generalize hresult : (.ok () : Except Failure Unit) = result at h
  cases h with
  | print answer =>
    cases answer <;> cases hresult
    exact ⟨⟨_, rfl, .printed⟩, List.forall_mem_singleton.mpr nofun⟩
  | unwritten e => cases hresult
  | written answer =>
    cases answer <;> cases hresult
    refine ⟨⟨_, rfl, .written⟩, ?_⟩
    exact List.forall_mem_cons.mpr ⟨nofun, List.forall_mem_singleton.mpr nofun⟩

theorem spoils_print_iff {e : Broken StreamError} :
    Spoils ⟨.print text, .error e⟩ ↔ e.begun := by
  constructor
  · rintro ⟨⟩
    rfl
  · intro h
    obtain ⟨cause, begun⟩ := e
    cases h
    exact .partlyPrinted

theorem spoils_write_iff {path : FilePath} {e : Broken FileError} :
    Spoils ⟨.write path text, .error e⟩ ↔ e.begun := by
  constructor
  · rintro ⟨⟩
    rfl
  · intro h
    obtain ⟨cause, begun⟩ := e
    cases h
    exact .partlyWritten

/-- What has been touched when the system refuses something is spoilt. -/
theorem Puts.spoils_iff (h : Puts text output events (.error (.refused message))) :
    (∀ e ∈ events, ¬e.Spoils) ↔ ∀ e ∈ events, ¬e.touches := by
  generalize hresult : (.error (.refused message) : Except Failure Unit) = result at h
  cases h with
  | print answer =>
    obtain ⟨e, rfl, -⟩ := mapError_eq_error_iff.mp hresult.symm
    simp only [List.forall_mem_singleton, spoils_print_iff, Event.touches]
  | unwritten e => simp only [List.forall_mem_singleton, spoils_write_iff, Event.touches]
  | written answer =>
    obtain ⟨(refused | _), rfl, he⟩ := mapError_eq_error_iff.mp hresult.symm
    · obtain ⟨refusal, rfl, -⟩ := ofStream_eq_refused_iff.mp he
      exact iff_of_false
        (fun h => h _ (List.mem_cons_of_mem _ (List.mem_singleton_self _)) .unannounced)
        fun h => h _ List.mem_cons_self rfl
    · cases he

theorem Puts.exists_refuses (h : Puts text output events (.error (.refused message)))
    (htouches : ∀ e ∈ events, ¬e.touches) : ∃ e ∈ events, e.Refuses message := by
  generalize hresult : (.error (.refused message) : Except Failure Unit) = result at h
  cases h with
  | print answer =>
    obtain ⟨⟨e, begun⟩, rfl, he⟩ := mapError_eq_error_iff.mp hresult.symm
    obtain ⟨refusal, rfl, rfl⟩ := ofStream_eq_refused_iff.mp he
    exact ⟨_, List.mem_singleton_self _, .print⟩
  | unwritten e =>
    obtain ⟨hzero, rfl⟩ := ofFile_eq_refused_iff.mp (Except.error.inj hresult).symm
    exact ⟨_, List.mem_singleton_self _, .write hzero⟩
  | written answer => exact absurd rfl (htouches _ List.mem_cons_self)

theorem Puts.exists_spoils (h : Puts text output events (.error .ended)) :
    (∃ e ∈ events, e.Spoils) := by
  generalize hresult : (.error .ended : Except Failure Unit) = result at h
  cases h with
  | print answer =>
    obtain ⟨e, -, he⟩ := mapError_eq_error_iff.mp hresult.symm
    exact absurd he (ofStream_ne_ended e.cause)
  | unwritten e => exact absurd (Except.error.inj hresult).symm (ofFile_ne_ended e.cause)
  | written answer =>
    obtain ⟨(cause | _), rfl, he⟩ := mapError_eq_error_iff.mp hresult.symm
    · exact absurd he (ofStream_ne_ended cause)
    · exact ⟨_, List.mem_cons_of_mem _ (List.mem_singleton_self _), .unheard⟩

theorem Puts.not_gives (h : Puts text output events result) {name source : Text} :
    ∀ e ∈ events, ¬e.Gives name source := by
  cases h with
  | print | unwritten => exact List.forall_mem_singleton.mpr nofun
  | written => exact List.forall_mem_cons.mpr ⟨nofun, List.forall_mem_singleton.mpr nofun⟩

theorem Puts.not_reports (h : Puts text output events result) :
    ∀ e ∈ events, e.request ≠ .report (complaint message) := by
  cases h with
  | print | unwritten => exact List.forall_mem_singleton.mpr nofun
  | written answer =>
    refine List.forall_mem_cons.mpr ⟨nofun, List.forall_mem_singleton.mpr fun hreport => ?_⟩
    exact announcement_ne_complaint (Request.report.inj hreport)

end

-- ---------------------------------------------------------------------------
-- The faults of a run
-- ---------------------------------------------------------------------------

section
variable {lib : Html.Library} {command : Command} {text : Text} {events more last : List Event}
  {cause : Crash} {message : Text} {result : Except Failure Unit} {made : Except Crash Text}

theorem Highlights.eq_seed (h : Highlights lib command text events made) :
    ∀ e ∈ events, ∃ seed, e = ⟨.seed, seed⟩ := by
  cases h with
  | source => exact fun _ he => absurd he List.not_mem_nil
  | page => exact List.forall_mem_singleton.mpr ⟨_, rfl⟩

/-- An event that makes no difference to how a run ends. -/
structure Harmless (e : Event) : Prop where
  breaks : ∀ cause, ¬e.Breaks cause
  spoils : ¬e.Spoils
  touches : ¬e.touches
  gives : ∀ name text, ¬e.Gives name text
  reports : ∀ message, e.request ≠ .report (complaint message)

theorem Highlights.harmless (h : Highlights lib command text events made) :
    ∀ e ∈ events, Harmless e := by
  intro e he
  obtain ⟨seed, rfl⟩ := h.eq_seed e he
  exact ⟨nofun, nofun, nofun, nofun, nofun⟩

theorem Highlights.markup_eq (h : Highlights lib command text more made)
    (hread : Reads command.file events (.ok text)) (last : List Event) :
    command.markup lib (seedOf (events ++ (more ++ last))) text = made := by
  have hseed : seedOf (events ++ (more ++ last)) = seedOf (more ++ last) := by
    rw [seedOf, List.filterMap_append, hread.seed?]
    rfl
  rw [hseed]
  cases h with
  | source hmade => exact hmade
  | page hmade => exact hmade

theorem exists_mem_append {α : Type} {p : α → Prop} {l l' : List α} :
    (∃ a ∈ l ++ l', p a) ↔ (∃ a ∈ l, p a) ∨ ∃ a ∈ l', p a := by
  simp only [List.mem_append, or_and_right, exists_or]

/-- What has been read can have no markup. -/
def Unhighlighted (lib : Html.Library) (command : Command) (events : List Event) (cause : Crash) :
    Prop :=
  ∃ text, (∃ e ∈ events, e.Gives command.file text) ∧
    command.markup lib (seedOf events) text = .error cause

/-- What has been read is known from the first events. -/
theorem Reads.unhighlighted_iff (h : Reads command.file events (.ok text))
    (hmore : ∀ e ∈ more, ∀ source, ¬e.Gives command.file source) :
    Unhighlighted lib command (events ++ more) cause ↔
      command.markup lib (seedOf (events ++ more)) text = .error cause := by
  have hgives : ∀ source, (∃ e ∈ events ++ more, e.Gives command.file source) ↔ source = text := by
    intro source
    have hnone : ¬∃ e ∈ more, e.Gives command.file source := fun ⟨e, he, hgives⟩ =>
      hmore e he source hgives
    rw [exists_mem_append, h.exists_gives_iff, or_iff_left hnone, Except.ok.injEq, eq_comm]
  simp only [Unhighlighted, hgives, exists_eq_left]

theorem Performs.crash_iff (h : Performs lib command events result) :
    result = .error (.crash cause) ↔
      (∃ e ∈ events, e.Breaks cause) ∨ Unhighlighted lib command events cause := by
  cases h with
  | unread hread =>
    have hnone : ¬Unhighlighted lib command events cause := fun ⟨text, hgives, _⟩ => by
      cases hread.exists_gives_iff.mp hgives
    rw [or_iff_left hnone, hread.exists_breaks_iff, Except.error.injEq, Except.error.injEq]
  | @unmade events text more cause' hread hmake =>
    have hbreaks : ¬∃ e ∈ events ++ more, e.Breaks cause := by
      rw [exists_mem_append, hread.exists_breaks_iff]
      rintro (h | ⟨e, he, hbreaks⟩)
      · cases h
      · exact (hmake.harmless e he).breaks cause hbreaks
    have hgives : ∀ e ∈ more, ∀ source, ¬e.Gives command.file source := fun e he =>
      (hmake.harmless e he).gives command.file
    have hmarkup := hmake.markup_eq hread []
    rw [List.append_nil] at hmarkup
    rw [or_iff_right hbreaks, hread.unhighlighted_iff hgives, hmarkup, Except.error.injEq,
      Except.error.injEq, Failure.crash.injEq]
  | @put events text more markup last _ hread hmake hput =>
    have hgives : ∀ e ∈ more ++ last, ∀ source, ¬e.Gives command.file source := fun e he source =>
      (List.mem_append.mp he).elim (fun he => (hmake.harmless e he).gives command.file source)
        (hput.not_gives e)
    have hnone : ¬Unhighlighted lib command (events ++ (more ++ last)) cause := by
      rw [hread.unhighlighted_iff hgives, hmake.markup_eq hread]
      exact nofun
    have hreading : ¬∃ e ∈ events, e.Breaks cause := by
      rw [hread.exists_breaks_iff]
      exact nofun
    have hmaking : ¬∃ e ∈ more, e.Breaks cause := fun ⟨e, he, hbreaks⟩ =>
      (hmake.harmless e he).breaks cause hbreaks
    rw [or_iff_left hnone, exists_mem_append, or_iff_right hreading, exists_mem_append,
      or_iff_right hmaking, hput.exists_breaks_iff]

/-- All that is touched by a performance is where the markup is asked for. -/
theorem Performs.delivers (h : Performs lib command events (.ok ())) :
    EndsCleanly lib command events (.exit 0) ∧ ∀ e ∈ events, ¬e.Spoils := by
  cases h with
  | @put events text more markup last _ hread hmake hput =>
    obtain ⟨⟨put, htouches, hplaces⟩, hspoils⟩ := hput.delivers
    obtain ⟨source, hsource, hgives⟩ := hread.exists_gives_iff.mpr rfl
    have hfilter : (events ++ (more ++ last)).filter Event.touches = [put] := by
      rw [List.filter_append, List.filter_append, List.filter_eq_nil_iff.mpr hread.not_touches,
        List.filter_eq_nil_iff.mpr fun e he => (hmake.harmless e he).touches, htouches]
      rfl
    refine ⟨.delivered (List.mem_append_left _ hsource) hgives (hmake.markup_eq hread last)
      hfilter hplaces, ?_⟩
    rw [List.forall_mem_append, List.forall_mem_append]
    exact ⟨hread.not_spoils, fun e he => (hmake.harmless e he).spoils, hspoils⟩

theorem Performs.spoils_iff (h : Performs lib command events (.error (.refused message))) :
    (∀ e ∈ events, ¬e.Spoils) ↔ ∀ e ∈ events, ¬e.touches := by
  cases h with
  | unread hread => exact iff_of_true hread.not_spoils hread.not_touches
  | put hread hmake hput =>
    simp only [List.forall_mem_append, hput.spoils_iff]
    exact and_congr (iff_of_true hread.not_spoils hread.not_touches)
      (and_congr_left' (iff_of_true (fun e he => (hmake.harmless e he).spoils)
        fun e he => (hmake.harmless e he).touches))

theorem Performs.exists_refuses (h : Performs lib command events (.error (.refused message)))
    (htouches : ∀ e ∈ events, ¬e.touches) : ∃ e ∈ events, e.Refuses message := by
  cases h with
  | unread hread => exact hread.exists_refuses
  | put hread hmake hput =>
    obtain ⟨-, -, hlast⟩ := by
      simpa only [List.forall_mem_append] using htouches
    obtain ⟨e, he, hrefuses⟩ := hput.exists_refuses hlast
    exact ⟨e, List.mem_append_right _ (List.mem_append_right _ he), hrefuses⟩

theorem Performs.exists_spoils (h : Performs lib command events (.error .ended)) :
    ∃ e ∈ events, e.Spoils := by
  cases h with
  | unread hread => exact absurd hread Reads.not_ended
  | put hread hmake hput =>
    obtain ⟨e, he, hspoils⟩ := hput.exists_spoils
    exact ⟨e, List.mem_append_right _ (List.mem_append_right _ he), hspoils⟩

theorem Performs.not_reports (h : Performs lib command events result) :
    ∀ e ∈ events, e.request ≠ .report (complaint message) := by
  cases h with
  | unread hread => exact hread.not_reports
  | unmade hread hmake =>
    rw [List.forall_mem_append]
    exact ⟨hread.not_reports, fun e he => (hmake.harmless e he).reports message⟩
  | put hread hmake hput =>
    rw [List.forall_mem_append, List.forall_mem_append]
    exact ⟨hread.not_reports, fun e he => (hmake.harmless e he).reports message,
      hput.not_reports⟩

/-- After a refusal only the report of it can break a run off. -/
theorem Performs.reported_crash_iff (h : Performs lib command events (.error (.refused message)))
    (answer : Except ReportError Unit) :
    ((∃ e ∈ events ++ [⟨.report (complaint message), answer⟩], e.Breaks cause) ∨
        Unhighlighted lib command (events ++ [⟨.report (complaint message), answer⟩]) cause) ↔
      ∃ e, answer = .error (.stream e) ∧ cause = .stream e := by
  have hbefore : ¬((∃ e ∈ events, e.Breaks cause) ∨ Unhighlighted lib command events cause) :=
    fun hfault => by cases h.crash_iff.mpr hfault
  obtain ⟨hbreaks, hmarkup⟩ := not_or.mp hbefore
  have hseed : seedOf (events ++ [⟨.report (complaint message), answer⟩]) = seedOf events := by
    rw [seedOf, List.filterMap_append]
    exact congrArg (List.headD · 0) (List.append_nil _)
  have hgives : ∀ text, ¬Gives ⟨.report (complaint message), answer⟩ command.file text := by
    intro text
    generalize complaint message = shown
    exact nofun
  have hnone :
      ¬Unhighlighted lib command (events ++ [⟨.report (complaint message), answer⟩]) cause := by
    rintro ⟨text, hread, hfails⟩
    rw [hseed] at hfails
    obtain hread | ⟨e, he, hreport⟩ := exists_mem_append.mp hread
    · exact hmarkup ⟨text, hread, hfails⟩
    · rw [List.mem_singleton.mp he] at hreport
      exact hgives text hreport
  rw [or_iff_left hnone, exists_mem_append, or_iff_right hbreaks, ← breaks_complaint_iff]
  exact ⟨fun ⟨e, he, hreport⟩ => List.mem_singleton.mp he ▸ hreport,
    fun hreport => ⟨_, List.mem_singleton_self _, hreport⟩⟩

variable {outcome : Outcome}

theorem Finishes.crash_iff (h : Finishes lib command events outcome) :
    outcome = .crash cause ↔
      (∃ e ∈ events, e.Breaks cause) ∨ Unhighlighted lib command events cause := by
  cases h with
  | done hperforms | ended hperforms =>
    rw [← hperforms.crash_iff]
    exact iff_of_false nofun nofun
  | crashed hperforms =>
    rw [← hperforms.crash_iff, Outcome.crash.injEq, Except.error.injEq, Failure.crash.injEq]
  | reported hperforms | unheard hperforms =>
    rw [hperforms.reported_crash_iff]
    exact iff_of_false nofun nofun
  | unreported hperforms =>
    rw [hperforms.reported_crash_iff]
    simp [eq_comm]

theorem EndsCleanly.ne_crash (h : EndsCleanly lib command events outcome) (cause : Crash) :
    outcome ≠ .crash cause := by
  cases h <;> exact nofun

theorem Finishes.endsCleanly_iff (h : Finishes lib command events outcome) :
    EndsCleanly lib command events outcome ↔
      (∀ cause, outcome ≠ .crash cause) ∧ ∀ e ∈ events, ¬e.Spoils := by
  cases h with
  | done hperforms =>
    exact iff_of_true hperforms.delivers.1 ⟨nofun, hperforms.delivers.2⟩
  | crashed _ | unreported _ =>
    exact iff_of_false (fun h => h.ne_crash _ rfl) fun h => h.1 _ rfl
  | ended hperforms =>
    refine iff_of_false (fun h => ?_) fun h => ?_
    · cases h with
      | refused _ _ hreport _ => exact hperforms.not_reports _ hreport rfl
    · obtain ⟨e, he, hspoils⟩ := hperforms.exists_spoils
      exact h.2 e he hspoils
  | @reported events message hperforms =>
    have hshown : ∀ shown, ¬Spoils ⟨.report shown, .ok ()⟩ := fun _ => nofun
    constructor
    · intro h
      cases h with
      | refused _ _ _ htouches =>
        refine ⟨nofun, ?_⟩
        rw [List.forall_mem_append] at htouches ⊢
        exact ⟨hperforms.spoils_iff.mpr htouches.1, List.forall_mem_singleton.mpr (hshown _)⟩
    · rintro ⟨-, hspoils⟩
      rw [List.forall_mem_append] at hspoils
      have htouches := hperforms.spoils_iff.mp hspoils.1
      obtain ⟨e, he, hrefuses⟩ := hperforms.exists_refuses htouches
      refine .refused (List.mem_append_left _ he) hrefuses
        (List.mem_append_right _ (List.mem_singleton_self _)) ?_
      rw [List.forall_mem_append]
      exact ⟨htouches, List.forall_mem_singleton.mpr nofun⟩
  | @unheard events message hperforms =>
    refine iff_of_false (fun h => ?_) fun h => ?_
    · cases h with
      | @refused _ message' _ _ hreport _ =>
        obtain hreport | hreport := List.mem_append.mp hreport
        · exact hperforms.not_reports _ hreport rfl
        · generalize complaint message' = shown at hreport
          cases List.mem_singleton.mp hreport
    · exact h.2 _ (List.mem_append_right _ (List.mem_singleton_self _)) .unheard

theorem Performs.ne_nil (h : Performs lib command events result) : events ≠ [] := by
  cases h with
  | unread hread => exact hread.ne_nil
  | unmade hread _ | put hread _ _ => exact List.append_ne_nil_of_left_ne_nil hread.ne_nil _

theorem Finishes.ne_nil (h : Finishes lib command events outcome) : events ≠ [] := by
  cases h with
  | done hperforms | crashed hperforms | ended hperforms => exact hperforms.ne_nil
  | reported _ | unheard _ | unreported _ => simp

end

-- ---------------------------------------------------------------------------
-- The work of a history
-- ---------------------------------------------------------------------------

section
variable {lib : Html.Library} {command : Command} {history : List Event} {cause : Crash}
  {outcome : Outcome}

theorem exists_mem_work_iff {p : Event → Prop} (hp : ∀ e, p e → e.isWork) :
    (∃ e ∈ history.filter Event.isWork, p e) ↔ ∃ e ∈ history, p e := by
  simp only [List.mem_filter, and_assoc]
  exact exists_congr fun e => and_congr_right fun _ => and_iff_right_of_imp (hp e)

theorem isWork_of_touches {e : Event} (h : e.touches) : e.isWork := by
  obtain ⟨request, answer⟩ := e
  cases request <;> first | rfl | cases h

theorem isWork_of_gives {e : Event} {name text : Text} (h : e.Gives name text) : e.isWork := by
  cases h <;> rfl

theorem isWork_of_breaks {e : Event} (h : e.Breaks cause) : e.isWork := by
  cases h <;> rfl

theorem isWork_of_spoils {e : Event} (h : e.Spoils) : e.isWork := by
  cases h <;> rfl

theorem seed?_of_not_isWork {e : Event} (h : ¬e.isWork) : e.seed? = none := by
  obtain ⟨request, answer⟩ := e
  cases request <;> first | rfl | exact absurd rfl h

theorem seedOf_work : seedOf (history.filter Event.isWork) = seedOf history := by
  rw [seedOf, List.filterMap_filter, seedOf]
  congr 2
  funext e
  split
  case isTrue => rfl
  case isFalse h => rw [seed?_of_not_isWork h]

theorem touches_work :
    (history.filter Event.isWork).filter Event.touches = history.filter Event.touches := by
  rw [List.filter_filter]
  congr 1
  funext e
  rw [Bool.eq_iff_iff, Bool.and_eq_true]
  exact and_iff_left_of_imp isWork_of_touches

theorem not_touches_work :
    (∀ e ∈ history.filter Event.isWork, ¬e.touches) ↔ ∀ e ∈ history, ¬e.touches := by
  rw [← List.filter_eq_nil_iff, touches_work, List.filter_eq_nil_iff]

/-- What a run does for the log makes no difference. -/
theorem endsCleanly_work_iff :
    EndsCleanly lib command (history.filter Event.isWork) outcome ↔
      EndsCleanly lib command history outcome := by
  constructor
  · rintro (⟨hsource, hgives, hmarkup, htouches, hplaces⟩ | ⟨he, hrefuses, hreport, htouches⟩)
    · rw [seedOf_work] at hmarkup
      rw [touches_work] at htouches
      exact .delivered (List.mem_of_mem_filter hsource) hgives hmarkup htouches hplaces
    · exact .refused (List.mem_of_mem_filter he) hrefuses (List.mem_of_mem_filter hreport)
        (not_touches_work.mp htouches)
  · rintro (⟨hsource, hgives, hmarkup, htouches, hplaces⟩ | ⟨he, hrefuses, hreport, htouches⟩)
    · rw [← seedOf_work] at hmarkup
      rw [← touches_work] at htouches
      exact .delivered (List.mem_filter.mpr ⟨hsource, isWork_of_gives hgives⟩) hgives hmarkup
        htouches hplaces
    · refine .refused (List.mem_filter.mpr ⟨he, ?_⟩) hrefuses (List.mem_filter.mpr ⟨hreport, rfl⟩)
        (not_touches_work.mpr htouches)
      cases hrefuses <;> rfl

theorem unhighlighted_work_iff :
    Unhighlighted lib command (history.filter Event.isWork) cause ↔
      Unhighlighted lib command history cause := by
  simp only [Unhighlighted, seedOf_work, exists_mem_work_iff fun _ => isWork_of_gives]

theorem Runs.crash_iff (h : Runs lib command history outcome) :
    outcome = .crash cause ↔ Crashes lib command history cause := by
  cases h with
  | unlogged hwork hlast =>
    constructor
    · rintro ⟨⟩
      exact .unlogged hwork hlast
    · rintro (⟨_, hlast'⟩ | ⟨he, hbreaks⟩ | ⟨he, hgives, _⟩)
      · rw [Option.some.inj (hlast.symm.trans hlast')]
      · exact absurd (isWork_of_breaks hbreaks) (hwork _ he)
      · exact absurd (isWork_of_gives hgives) (hwork _ he)
  | finished hfinishes =>
    rw [hfinishes.crash_iff, exists_mem_work_iff fun _ => isWork_of_breaks, unhighlighted_work_iff]
    constructor
    · rintro (⟨e, he, hbreaks⟩ | ⟨text, ⟨e, he, hgives⟩, hmarkup⟩)
      · exact .broken he hbreaks
      · exact .unhighlighted he hgives hmarkup
    · rintro (⟨hwork, _⟩ | ⟨he, hbreaks⟩ | ⟨he, hgives, hmarkup⟩)
      · exact absurd (List.filter_eq_nil_iff.mpr hwork) hfinishes.ne_nil
      · exact .inl ⟨_, he, hbreaks⟩
      · exact .inr ⟨_, ⟨_, he, hgives⟩, hmarkup⟩

theorem Runs.endsCleanly_iff (h : Runs lib command history outcome) :
    EndsCleanly lib command history outcome ↔
      (∀ cause, ¬Crashes lib command history cause) ∧ ∀ e ∈ history, ¬e.Spoils := by
  simp only [← h.crash_iff]
  cases h with
  | unlogged _ _ => exact iff_of_false (fun h => h.ne_crash _ rfl) fun h => h.1 _ rfl
  | finished hfinishes =>
    rw [← endsCleanly_work_iff, hfinishes.endsCleanly_iff]
    refine and_congr_right' ?_
    have hspoils := @exists_mem_work_iff history Event.Spoils fun _ => isWork_of_spoils
    simpa only [not_exists, not_and] using not_congr hspoils

end

-- ---------------------------------------------------------------------------
-- All runs
-- ---------------------------------------------------------------------------

/-- A run on any host, with any library for pages, ends cleanly unless it meets with a fault, and
it crashes with the faults listed and with no others. Without a log file it changes nothing but
the output. -/
theorem run_ends_cleanly_iff (lib : Html.Library) {loaded : Settings.Loaded}
    {arguments : List Text} {settings : Settings} {invocation : Invocation}
    (hsettings : loaded.settings = .ok settings)
    (harguments : Invocation.ofArguments settings arguments = .ok invocation) (world : World)
    {outcome : Outcome} {history : List Event}
    (hrun : (run lib loaded arguments : Scripted world Outcome).after [] = (outcome, history)) :
    (EndsCleanly lib invocation.command history outcome ↔
      (∀ cause, ¬Crashes lib invocation.command history cause) ∧ ∀ e ∈ history, ¬e.Spoils) ∧
    (∀ cause, outcome = .crash cause ↔ Crashes lib invocation.command history cause) ∧
    (settings.log.file = none → ∀ e ∈ history, ¬e.request.changesLog) := by
  obtain ⟨outcome', history', hafter, hruns, hquiet⟩ := run_yields hsettings harguments []
  cases hrun.symm.trans hafter
  exact ⟨hruns.endsCleanly_iff, fun cause => hruns.crash_iff, hquiet⟩

def sourceArguments : List Text := ["source".toList, "x.lua".toList]

def sourceInvocation : Invocation := { trace := false, command := .source "x.lua".toList }

/-- A host without files. -/
def empty : World := .reading fun path => .error (.refused .noSuchFile path)

/-- A file that is not there is reported. -/
theorem run_ends_cleanly_missing :
    ({} : Settings.Sources).loaded.settings = .ok {} ∧
      Invocation.ofArguments {} sourceArguments = .ok sourceInvocation ∧
      ∃ history, (run Html.standard ({} : Settings.Sources).loaded sourceArguments :
          Scripted empty Outcome).after [] = (.exit 1, history) ∧
        EndsCleanly Html.standard sourceInvocation.command history (.exit 1) := by
  have hsettings : ({} : Settings.Sources).loaded.settings = .ok {} := by decide +kernel
  have harguments : Invocation.ofArguments {} sourceArguments = .ok sourceInvocation := by
    decide +kernel
  let path : FilePath := .ofText "x.lua".toList
  let cause : FileError := .refused .noSuchFile path
  have hrun : (run Html.standard ({} : Settings.Sources).loaded sourceArguments :
      Scripted empty Outcome).after [] =
        (.exit 1, [⟨.read path, .error cause⟩, ⟨.report (complaint cause.message), .ok ()⟩]) := by
    decide +kernel
  obtain ⟨hclean, hcrash, -⟩ := run_ends_cleanly_iff Html.standard hsettings harguments empty hrun
  refine ⟨hsettings, harguments, _, hrun, hclean.mpr ⟨fun cause hfault => ?_, ?_⟩⟩
  · cases (hcrash cause).mpr hfault
  · exact List.forall_mem_cons.mpr ⟨nofun, List.forall_mem_singleton.mpr nofun⟩

/-- A host on which every file holds one byte, which is no text. -/
def undecodable : World := .reading fun _ => .ok [0xff]

theorem undecodable_source_crashes :
    Invocation.ofArguments {} sourceArguments = .ok sourceInvocation ∧
      ((run Html.standard ({} : Settings.Sources).loaded sourceArguments :
        Scripted undecodable Outcome).after []).1 = .crash (.encoding ⟨.start, 0, 0xff, 1⟩) ∧
      ∀ history, ¬EndsCleanly Html.standard sourceInvocation.command history
        ((run Html.standard ({} : Settings.Sources).loaded sourceArguments :
          Scripted undecodable Outcome).after []).1 := by
  have hcrash : ((run Html.standard ({} : Settings.Sources).loaded sourceArguments :
      Scripted undecodable Outcome).after []).1 = .crash (.encoding ⟨.start, 0, 0xff, 1⟩) := by
    decide +kernel
  exact ⟨by decide +kernel, hcrash, fun history hclean => hclean.ne_crash _ hcrash⟩

end Command
end LuaMarkup
