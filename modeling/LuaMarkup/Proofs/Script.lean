import LuaMarkup.Host.World
import Mathlib

/-!
# What actions may come to

`Yields` is said of an action that comes to a result with events that fit each other, whatever has
happened before and whatever it is answered. The events of a sequence are those of its parts, one
after the other.
-/

namespace LuaMarkup

instance (request : Request) : DecidableEq request.Answer :=
  match request with
  | .workDirectory => inferInstanceAs (DecidableEq (Except FileError FilePath))
  | .read _ => inferInstanceAs (DecidableEq (Except FileError (List UInt8)))
  | .write _ _ => inferInstanceAs (DecidableEq (Except (Broken FileError) Unit))
  | .append _ _ => inferInstanceAs (DecidableEq (Except FileError Unit))
  | .makeDirectory _ => inferInstanceAs (DecidableEq (Except FileError Unit))
  | .isDirectory _ => inferInstanceAs (DecidableEq Bool)
  | .input => inferInstanceAs (DecidableEq (Except StreamError Text))
  | .print _ => inferInstanceAs (DecidableEq (Except (Broken StreamError) Unit))
  | .printError _ => inferInstanceAs (DecidableEq Unit)
  | .report _ => inferInstanceAs (DecidableEq (Except ReportError Unit))
  | .stamp => inferInstanceAs (DecidableEq Stamp)
  | .seed => inferInstanceAs (DecidableEq Nat)

deriving instance DecidableEq for Event

namespace Scripted

variable {world : World} {α β ε : Type}

/-- Whatever has happened, an action comes to a result by events that fit it. -/
def Yields (action : Scripted world α) (fits : α → List Event → Prop) : Prop :=
  ∀ history, ∃ a events, action.after history = (a, history ++ events) ∧ fits a events

variable {action : Scripted world α} {fits fits' : α → List Event → Prop}

theorem Yields.mono (h : action.Yields fits) (hfits : ∀ a events, fits a events → fits' a events) :
    action.Yields fits' := by
  intro history
  obtain ⟨a, events, hafter, ha⟩ := h history
  exact ⟨a, events, hafter, hfits a events ha⟩

theorem yields_pure {a : α} (h : fits a []) : (pure a : Scripted world α).Yields fits :=
  fun history => ⟨a, [], by rw [List.append_nil]; rfl, h⟩

theorem Yields.bind {next : α → Scripted world β} {fits' : β → List Event → Prop}
    (h : action.Yields fits)
    (hnext : ∀ a events, fits a events →
      (next a).Yields fun b more => fits' b (events ++ more)) :
    (action >>= next).Yields fits' := by
  intro history
  obtain ⟨a, events, hafter, ha⟩ := h history
  obtain ⟨b, more, hafter', hb⟩ := hnext a events ha (history ++ events)
  refine ⟨b, events ++ more, ?_, hb⟩
  change (match action.after history with | (a, history) => (next a).after history) = _
  rw [hafter, ← List.append_assoc]
  exact hafter'

/-- Any answer must do. -/
theorem yields_ask (request : Request) {next : request.Answer → Scripted world α}
    (h : ∀ answer, (next answer).Yields fun a events => fits a (⟨request, answer⟩ :: events)) :
    (Host.ask request >>= next).Yields fits := by
  have hask : (Host.ask request : Scripted world _).Yields fun answer events =>
      events = [⟨request, answer⟩] :=
    fun history => ⟨world history request, _, rfl, rfl⟩
  refine hask.bind ?_
  rintro answer _ rfl
  exact h answer

-- ---------------------------------------------------------------------------
-- Steps that may fail
-- ---------------------------------------------------------------------------

theorem Yields.bindT {steps : ExceptT ε (Scripted world) α}
    {next : α → ExceptT ε (Scripted world) β} {fits : Except ε α → List Event → Prop}
    {fits' : Except ε β → List Event → Prop} (h : steps.run.Yields fits)
    (herror : ∀ e events, fits (.error e) events → fits' (.error e) events)
    (hnext : ∀ a events, fits (.ok a) events →
      (next a).run.Yields fun b more => fits' b (events ++ more)) :
    (steps >>= next).run.Yields fits' := by
  rw [ExceptT.run_bind]
  refine h.bind fun result events hresult => ?_
  cases result with
  | error e => exact yields_pure (by rw [List.append_nil]; exact herror e events hresult)
  | ok a => exact hnext a events hresult

theorem yields_ofExcept {result : Except ε α} {fits : Except ε α → List Event → Prop}
    (h : fits result []) :
    (ofExcept result : ExceptT ε (Scripted world) α).run.Yields fits := by
  cases result <;> exact yields_pure h

theorem yields_askT (request : Request)
    {next : request.Answer → ExceptT ε (Scripted world) α}
    {fits : Except ε α → List Event → Prop}
    (h : ∀ answer,
      (next answer).run.Yields fun a events => fits a (⟨request, answer⟩ :: events)) :
    (Host.ask request >>= next : ExceptT ε (Scripted world) α).run.Yields fits :=
  yields_ask request h

theorem yields_ofExceptT {result : Except ε α} {next : α → ExceptT ε (Scripted world) β}
    {fits : Except ε β → List Event → Prop} (herror : ∀ e, result = .error e → fits (.error e) [])
    (hnext : ∀ a, result = .ok a → (next a).run.Yields fits) :
    (ofExcept result >>= next).run.Yields fits := by
  have hresult : (ofExcept result : ExceptT ε (Scripted world) α).run.Yields
      fun result' events => result = result' ∧ events = [] :=
    yields_ofExcept ⟨rfl, rfl⟩
  refine hresult.bindT ?_ ?_
  · rintro e _ ⟨he, rfl⟩
    exact herror e he
  · rintro a _ ⟨ha, rfl⟩
    exact hnext a ha

-- ---------------------------------------------------------------------------
-- All events alike
-- ---------------------------------------------------------------------------

/-- An action does nothing but requests of a kind. -/
def Only (p : Request → Prop) (action : Scripted world α) : Prop :=
  action.Yields fun _ events => ∀ e ∈ events, p e.request

variable {p : Request → Prop}

theorem only_pure (a : α) : Only p (pure a : Scripted world α) := yields_pure nofun

theorem only_ask {request : Request} {next : request.Answer → Scripted world α}
    (h : p request) (hnext : ∀ answer, Only p (next answer)) :
    Only p (Host.ask request >>= next) :=
  yields_ask request fun answer => (hnext answer).mono fun _ _ hevents =>
    List.forall_mem_cons.mpr ⟨h, hevents⟩

theorem only_request {request : Request} (h : p request) :
    Only p (Host.ask request : Scripted world _) :=
  fun history => ⟨world history request, [_], rfl, by simpa using h⟩

theorem Only.bind {next : α → Scripted world β} (h : Only p action)
    (hnext : ∀ a, Only p (next a)) : Only p (action >>= next) :=
  Yields.bind h fun a _ hevents => (hnext a).mono fun _ _ hmore _ he =>
    (List.mem_append.mp he).elim (hevents _) (hmore _)

theorem only_forM {f : α → Scripted world PUnit} {l : List α} (h : ∀ a ∈ l, Only p (f a)) :
    Only p (l.forM f) := by
  induction l with
  | nil => exact only_pure _
  | cons a l ih =>
    obtain ⟨ha, hl⟩ := List.forall_mem_cons.mp h
    exact ha.bind fun _ => ih hl

theorem Only.bindT {next : α → ExceptT ε (Scripted world) β}
    {fits : Except ε β → List Event → Prop} (h : Only p action)
    (hnext : ∀ a events, (∀ e ∈ events, p e.request) →
      (next a).run.Yields fun b more => fits b (events ++ more)) :
    (ExceptT.lift action >>= next).run.Yields fits := by
  rw [ExceptT.run_bind_lift]
  exact Yields.bind h hnext

end Scripted
end LuaMarkup
