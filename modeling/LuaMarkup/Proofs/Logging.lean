import LuaMarkup.Log.Logging
import LuaMarkup.Proofs.Script
import Mathlib

/-!
# What logging requests

Logging does none of the work of a command: it prints for the console, and for a log file it
appends. Setting it up makes the directories above the log file and opens it, or comes to the last
error that it met.
-/

namespace LuaMarkup

/-- Whether a request belongs to the work of a command and not to the log of it. -/
def Request.isWork : Request → Bool
  | .read _ | .write _ _ | .input | .print _ | .report _ | .seed => true
  | .workDirectory | .append _ _ | .makeDirectory _ | .isDirectory _ | .printError _ | .stamp =>
    false

/-- Whether a request changes a file or directory that is there for the log. -/
def Request.changesLog : Request → Bool
  | .append _ _ | .makeDirectory _ => true
  | _ => false

theorem Request.not_changesLog_of_isWork {request : Request} (h : request.isWork) :
    ¬request.changesLog := by
  cases request <;> simp [isWork, changesLog] at h ⊢

namespace Event

def isWork (e : Event) : Bool := e.request.isWork

/-- The error of an answer to a request for the log. -/
def logError? : Event → Option FileError
  | ⟨.workDirectory, .error cause⟩ => some cause
  | ⟨.append _ _, .error cause⟩ => some cause
  | ⟨.makeDirectory _, .error cause⟩ => some cause
  | _ => none

end Event

/-- The last error of an answer to a request for the log. -/
def lastLogError? (history : List Event) : Option FileError :=
  (history.filterMap Event.logError?).getLast?

theorem lastLogError?_append {history more : List Event} {cause : FileError}
    (h : lastLogError? more = some cause) : lastLogError? (history ++ more) = some cause := by
  rw [lastLogError?, List.filterMap_append, List.getLast?_append, show List.getLast? _ = _ from h]
  rfl

open Scripted

variable {world : World}

namespace Host

/-- Requests for the log, with the last error if they come to one. -/
structure Readies {α : Type} (result : Except FileError α) (events : List Event) : Prop where
  noWork : ∀ e ∈ events, ¬e.isWork
  lastError : ∀ cause, result = .error cause → lastLogError? events = some cause

section
variable {α β : Type} {result : Except FileError α} {result' : Except FileError β}
  {events more : List Event}

theorem Readies.append (h : Readies result events) (h' : Readies result' more) :
    Readies result' (events ++ more) where
  noWork e he := (List.mem_append.mp he).elim (h.noWork e) (h'.noWork e)
  lastError cause hcause := lastLogError?_append (h'.lastError cause hcause)

/-- The first error is what all comes to. -/
theorem Readies.error {cause : FileError} (h : Readies (.error cause : Except FileError α) events) :
    Readies (.error cause : Except FileError β) (events ++ []) where
  noWork := by rw [List.append_nil]; exact h.noWork
  lastError _ hcause := by
    cases hcause
    rw [List.append_nil]
    exact h.lastError cause rfl

theorem readies_ok {a : α} (h : ∀ e ∈ events, ¬e.isWork) :
    Readies (.ok a : Except FileError α) events := ⟨h, nofun⟩

end

theorem ensureDirectory_yields (path : FilePath) :
    (ensureDirectory path : Scripted world _).Yields Readies := by
  refine yields_ask (.makeDirectory path) ?_
  rintro (cause | _)
  · dsimp only
    by_cases hcause : cause.isMissing ∨ cause = .zeroInPath
    · rw [if_pos hcause]
      refine yields_pure ⟨by simp [Event.isWork, Request.isWork], ?_⟩
      rintro _ ⟨⟩
      rfl
    · rw [if_neg hcause]
      refine yields_ask (.isDirectory path) fun isDirectory => ?_
      refine yields_pure ⟨by simp [Event.isWork, Request.isWork], fun cause' hresult => ?_⟩
      cases isDirectory <;> cases hresult
      rfl
  · exact yields_pure (readies_ok (by simp [Event.isWork, Request.isWork]))

theorem ensureDirectories_yields (depth : Nat) (path : FilePath) :
    (ensureDirectories depth path : Scripted world _).Yields Readies := by
  induction depth generalizing path with
  | zero => exact ensureDirectory_yields path
  | succ depth ih =>
    refine (ensureDirectory_yields path).bind ?_
    rintro (cause | _) events hevents
    · dsimp only
      by_cases hcause : cause.isMissing ∧ path.parent ≠ path
      · rw [if_pos hcause]
        refine (ih path.parent).bind ?_
        rintro (cause | _) above habove
        · exact yields_pure (hevents.append habove.error)
        · exact (ensureDirectory_yields path).mono fun result last hlast =>
            hevents.append (habove.append hlast)
      · rw [if_neg hcause]
        exact yields_pure hevents.error
    · exact yields_pure (by rwa [List.append_nil])

theorem absolute_yields (path : FilePath) :
    (absolute path : Scripted world _).Yields Readies := by
  rw [absolute]
  split
  · exact yields_pure (readies_ok nofun)
  · refine yields_ask .workDirectory fun directory => ?_
    refine yields_pure ⟨by simp [Event.isWork, Request.isWork], fun cause hresult => ?_⟩
    cases directory with
    | error cause' =>
      cases hresult
      rfl
    | ok directory => cases hresult

end Host

namespace Logging

open Log (Record Sink)

/-- What a logging requests: it changes files only if it has a sink for one. -/
structure Uses (logging : Logging) (request : Request) : Prop where
  noWork : ¬request.isWork
  onFile : request.changesLog → ∃ path, .file path ∈ logging.sinks

variable {logging : Logging}

theorem emit_only (r : Record) {sink : Sink} (h : sink ∈ logging.sinks) :
    Only logging.Uses (emit r sink : Scripted world _) := by
  cases sink with
  | console threshold => exact only_request ⟨nofun, nofun⟩
  | file path =>
    exact only_ask ⟨nofun, nofun⟩ fun stamp =>
      only_ask ⟨nofun, fun _ => ⟨path, h⟩⟩ fun _ => only_pure ()

theorem log_only (logging : Logging) (r : Record) :
    Only logging.Uses (logging.log r : Scripted world _) := by
  rw [log]
  split
  · split
    · exact only_request ⟨nofun, nofun⟩
    · exact only_pure ()
  · refine only_forM fun sink hsink => emit_only r ?_
    rw [sinksFor] at hsink
    split at hsink
    · exact List.mem_of_mem_filter hsink
    · cases hsink

theorem logAll_only (logging : Logging) (records : List Record) :
    Only logging.Uses (logging.logAll records : Scripted world _) :=
  only_forM fun r _ => logging.log_only r

/-- Nothing is logged to files. -/
def OnConsole (logging : Logging) : Prop := ∀ path, .file path ∉ logging.sinks

theorem OnConsole.append_console (h : logging.OnConsole) (threshold threshold' : Log.Level) :
    OnConsole { threshold, sinks := logging.sinks ++ [.console threshold'] } := fun path hpath =>
  (List.mem_append.mp hpath).elim (h path) nofun

theorem Uses.of_onConsole (h : logging.OnConsole) {request : Request}
    (huses : logging.Uses request) : ¬request.changesLog := fun hchanges =>
  (huses.onFile hchanges).elim h

/-- Without a log file there is nothing to do. -/
theorem setUp_of_file_eq_none {settings : LogSettings} (h : settings.file = none)
    (logging : Logging) :
    (logging.setUp settings : Scripted world _) =
      pure (.ok { threshold := settings.level
                  sinks := logging.sinks ++ [.console settings.level] }) := by
  rw [setUp, h]

theorem setUp_yields (logging : Logging) (settings : LogSettings) :
    (logging.setUp settings : Scripted world _).Yields Host.Readies := by
  rw [setUp]
  cases settings.file with
  | none => exact yields_pure (Host.readies_ok nofun)
  | some path =>
    refine (Host.ensureDirectories_yields _ path.parent).bind ?_
    rintro (cause | _) events hevents
    · exact yields_pure hevents.error
    · refine (Host.absolute_yields path).bind ?_
      rintro (cause | shown) more hmore
      · exact yields_pure (hevents.append hmore.error)
      · refine yields_ask (.append shown.normalised []) ?_
        rintro (cause | _)
        · refine yields_pure (hevents.append (hmore.append ⟨?_, ?_⟩))
          · simp [Event.isWork, Request.isWork]
          · rintro _ ⟨⟩
            rfl
        · refine Yields.bind (log_only _ (configuredRecord shown)) fun _ logged hlogged => ?_
          refine yields_pure (hevents.append (hmore.append (Host.readies_ok ?_)))
          rw [List.append_nil]
          exact List.forall_mem_cons.mpr ⟨nofun, fun e he => (hlogged e he).noWork⟩

end Logging
end LuaMarkup
