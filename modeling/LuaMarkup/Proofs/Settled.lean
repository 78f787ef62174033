import LuaMarkup.Html.Document
import Mathlib

/-!
# The kind of a page is settled

Once a reading has left its first mode it does not come back to it, and no token changes the kind
of the page any more. A reading for which this holds is `Settled`; each rule keeps it so
(`Settled.placeOnce`), and so does the reading of all that follows (`Settled.readAll`).
-/

namespace LuaMarkup.Html

namespace Reading

/-- The second reading is at the same point of the page's modes as the first. What opens and closes
elements and does no more keeps that point; `simp` takes such steps away one field at a time. -/
abbrev Keeps (r r' : Reading) : Prop :=
  r'.old = r.old ∧ r'.mode = r.mode ∧ r'.returnMode = r.returnMode ∧
    r'.templateModes = r.templateModes

section
variable (r : Reading) (name : String) (names : List String) (attributes : List Attribute)
  (id : Nat)

-- ---------------------------------------------------------------------------
-- Elements
-- ---------------------------------------------------------------------------

@[simp] theorem keeps_insertAt (kind : Scaffold.Kind) (place : Scaffold.Place) :
    Keeps r (r.insertAt kind place) := ⟨rfl, rfl, rfl, rfl⟩

@[simp] theorem keeps_insert (kind : Scaffold.Kind) : Keeps r (r.insert kind) :=
  ⟨rfl, rfl, rfl, rfl⟩

@[simp] theorem keeps_insertText (content : Text) : Keeps r (r.insertText content) := by
  unfold insertText
  split
  · simp [Keeps]
  · dsimp only
    split <;> simp [Keeps]

@[simp] theorem keeps_insertVoid : Keeps r (r.insertVoid name attributes) := ⟨rfl, rfl, rfl, rfl⟩

@[simp] theorem keeps_openElement (tag : Tag) : Keeps r (r.openElement tag attributes) :=
  ⟨rfl, rfl, rfl, rfl⟩

@[simp] theorem keeps_openHtml : Keeps r (r.openHtml name attributes) := ⟨rfl, rfl, rfl, rfl⟩

@[simp] theorem keeps_close : Keeps r r.close := ⟨rfl, rfl, rfl, rfl⟩

@[simp] theorem keeps_closeUntil (stop : OpenElement → Bool) : Keeps r (r.closeUntil stop) :=
  ⟨rfl, rfl, rfl, rfl⟩

@[simp] theorem keeps_closeThrough (last : OpenElement → Bool) : Keeps r (r.closeThrough last) :=
  ⟨rfl, rfl, rfl, rfl⟩

@[simp] theorem keeps_closeThroughName : Keeps r (r.closeThroughName name) :=
  ⟨rfl, rfl, rfl, rfl⟩

@[simp] theorem keeps_closeThroughOneOf : Keeps r (r.closeThroughOneOf names) :=
  ⟨rfl, rfl, rfl, rfl⟩

@[simp] theorem keeps_closeImplied : Keeps r (r.closeImplied names) := ⟨rfl, rfl, rfl, rfl⟩

@[simp] theorem keeps_forget : Keeps r (r.forget id) := ⟨rfl, rfl, rfl, rfl⟩

@[simp] theorem keeps_closeParagraph : Keeps r r.closeParagraph := by
  unfold closeParagraph
  split <;> simp [Keeps]

@[simp] theorem keeps_mergeInto : Keeps r (r.mergeInto name attributes) := by
  unfold mergeInto
  split <;> simp [Keeps]

@[simp] theorem keeps_mergeHtml : Keeps r (r.mergeHtml attributes) := by
  unfold mergeHtml
  split <;> simp [Keeps]

-- ---------------------------------------------------------------------------
-- Formatting
-- ---------------------------------------------------------------------------

@[simp] theorem keeps_reopen (entry : Formatting) : Keeps r (r.reopen entry) := by
  cases entry <;> exact ⟨rfl, rfl, rfl, rfl⟩

theorem keeps_foldl_reopen (entries : List Formatting) : Keeps r (entries.foldl reopen r) := by
  induction entries generalizing r with
  | nil => exact ⟨rfl, rfl, rfl, rfl⟩
  | cons entry entries ih => simpa [Keeps] using ih (r.reopen entry)

@[simp] theorem keeps_reopenFormatting : Keeps r r.reopenFormatting :=
  keeps_foldl_reopen _ _

@[simp] theorem keeps_openFormatting : Keeps r (r.openFormatting name attributes) :=
  ⟨rfl, rfl, rfl, rfl⟩

@[simp] theorem keeps_addEdge : Keeps r r.addEdge := ⟨rfl, rfl, rfl, rfl⟩

@[simp] theorem keeps_clearToEdge : Keeps r r.clearToEdge := ⟨rfl, rfl, rfl, rfl⟩

@[simp] theorem keeps_dropEntry : Keeps r (r.dropEntry id) := ⟨rfl, rfl, rfl, rfl⟩

@[simp] theorem keeps_closeOther : Keeps r (r.closeOther name) := by
  unfold closeOther
  split
  · split <;> simp [Keeps]
  · simp [Keeps]

@[simp] theorem keeps_regroup (inner : List OpenElement) (block : OpenElement)
    (between outer : List OpenElement) : Keeps r (r.regroup id name inner block between outer) := by
  simp only [Keeps, regroup, and_self]

theorem keeps_closeFormattingWith (rounds : Nat) : Keeps r (closeFormattingWith name rounds r) := by
  induction rounds generalizing r with
  | zero => exact ⟨rfl, rfl, rfl, rfl⟩
  | succ rounds ih =>
    have hregroup : ∀ id inner block between outer, Keeps r
        (closeFormattingWith name rounds (r.regroup id name inner block between outer)) := by
      intro id inner block between outer
      have h := ih (r.regroup id name inner block between outer)
      rwa [Keeps, (keeps_regroup ..).1, (keeps_regroup ..).2.1, (keeps_regroup ..).2.2.1,
        (keeps_regroup ..).2.2.2] at h
    unfold closeFormattingWith
    split
    · simp [Keeps]
    · split
      · simp [Keeps]
      · split
        · simp [Keeps]
        · dsimp only
          split
          · simp [Keeps]
          · exact hregroup ..

@[simp] theorem keeps_closeFormatting : Keeps r (r.closeFormatting name) := by
  unfold closeFormatting
  split
  · split
    · simp [Keeps]
    · exact keeps_closeFormattingWith r name 8
  · simp [Keeps]

@[simp] theorem keeps_dropFormatting : Keeps r (r.dropFormatting name) := by
  unfold dropFormatting
  split <;> simp [Keeps]

-- ---------------------------------------------------------------------------
-- The body
-- ---------------------------------------------------------------------------

@[simp] theorem keeps_closeItem : Keeps r (r.closeItem names) := by
  unfold closeItem
  split
  · split <;> simp [Keeps]
  · simp [Keeps]

@[simp] theorem keeps_openForeign (space : Namespace) (selfClosing : Bool) :
    Keeps r (r.openForeign space name attributes selfClosing) := by
  unfold openForeign
  dsimp only
  split <;> simp [Keeps]

@[simp] theorem keeps_startForm : Keeps r (r.startForm attributes) := by
  unfold startForm
  split <;> simp [Keeps]

@[simp] theorem keeps_startButton : Keeps r (r.startButton attributes) := by
  unfold startButton
  dsimp only
  split <;> simp [Keeps]

@[simp] theorem keeps_startNoBreak : Keeps r (r.startNoBreak attributes) := by
  unfold startNoBreak
  dsimp only
  split <;> simp [Keeps]

@[simp] theorem keeps_startInput : Keeps r (r.startInput attributes) := by
  unfold startInput
  split <;> simp [Keeps]

@[simp] theorem keeps_startSelect : Keeps r (r.startSelect attributes) := by
  unfold startSelect
  split <;> simp [Keeps]

@[simp] theorem keeps_startOption : Keeps r (r.startOption attributes) := by
  unfold startOption
  split
  · simp [Keeps]
  · split <;> simp [Keeps]

@[simp] theorem keeps_startOptionGroup : Keeps r (r.startOptionGroup attributes) := by
  unfold startOptionGroup
  split
  · simp [Keeps]
  · split <;> simp [Keeps]

@[simp] theorem keeps_startRule : Keeps r (r.startRule attributes) := by
  unfold startRule
  dsimp only
  split <;> simp [Keeps]

@[simp] theorem keeps_endForm : Keeps r r.endForm := by
  unfold endForm
  split
  · split <;> simp [Keeps]
  · split
    · dsimp only
      split <;> simp [Keeps]
    · simp [Keeps]

end

-- ---------------------------------------------------------------------------
-- Settled readings
-- ---------------------------------------------------------------------------

/-- The reading has left its first mode for good, with the kind of the page known. -/
@[mk_iff]
structure Settled (old : Bool) (r : Reading) : Prop where
  old_eq : r.old = old
  mode_ne : r.mode ≠ .initial
  returnMode_ne : r.returnMode ≠ .initial
  templateModes_ne : .initial ∉ r.templateModes

end Reading

/-- What a rule makes of a settled reading is one. -/
def Placed.Settled (old : Bool) : Placed → Prop
  | .taken r | .left r _ => r.Settled old

@[simp] theorem Placed.settled_taken {old : Bool} {r : Reading} :
    (Placed.taken r).Settled old ↔ r.Settled old := Iff.rfl

@[simp] theorem Placed.settled_left {old : Bool} {r : Reading} {token : Token} :
    (Placed.left r token).Settled old ↔ r.Settled old := Iff.rfl

namespace Reading

variable {old : Bool} {r r' : Reading}

theorem Settled.of_keeps (h : r.Settled old) (hkeeps : Keeps r r') : r'.Settled old := by
  obtain ⟨hold, hmode, hreturn, htemplates⟩ := hkeeps
  exact ⟨hold.trans h.old_eq, hmode ▸ h.mode_ne, hreturn ▸ h.returnMode_ne,
    htemplates ▸ h.templateModes_ne⟩

theorem headD_ne {modes : List Mode} (h : .initial ∉ modes) : modes.headD .inBody ≠ .initial := by
  cases modes with
  | nil => exact nofun
  | cons mode modes => exact fun heq => h (heq ▸ List.mem_cons_self)

/-- The first mode is never asked for by what is open. -/
theorem modeOf_ne (h : .initial ∉ r.templateModes) : r.modeOf ≠ .initial := by
  unfold modeOf
  intro heq
  cases hfound : r.opened.findSome? _ with
  | none => rw [hfound] at heq; cases heq
  | some mode =>
    rw [hfound] at heq
    obtain rfl : mode = .initial := heq
    obtain ⟨e, -, he⟩ := List.exists_of_findSome?_eq_some hfound
    have htemplate := headD_ne h
    split at he
    · cases he
    · split at he <;> simp_all
      split at he <;> simp_all

theorem Settled.resetMode (h : r.Settled old) : r.resetMode.Settled old :=
  ⟨h.old_eq, modeOf_ne h.templateModes_ne, h.returnMode_ne, h.templateModes_ne⟩

theorem Settled.closeTemplate (h : r.Settled old) : r.closeTemplate.Settled old := by
  unfold Reading.closeTemplate
  split
  · have hdrop : .initial ∉ r.templateModes.drop 1 := fun hmem =>
      h.templateModes_ne (List.mem_of_mem_drop hmem)
    exact resetMode ⟨h.old_eq, h.mode_ne, h.returnMode_ne, hdrop⟩
  · exact h

theorem Settled.startHeadContent (h : r.Settled old) (name : String)
    (attributes : List Attribute) : (r.startHeadContent name attributes).Settled old := by
  obtain ⟨hold, hmode, hreturn, htemplates⟩ := h
  unfold Reading.startHeadContent
  split <;> simp [settled_iff, openText, openRaw, openTemplate, *]

theorem Settled.startLateContent (h : r.Settled old) (name : String)
    (attributes : List Attribute) : (r.startLateContent name attributes).Settled old := by
  have hopened : ∀ opened, { r with opened }.Settled old := fun _ =>
    h.of_keeps ⟨rfl, rfl, rfl, rfl⟩
  unfold Reading.startLateContent
  split
  case h_1 id _ =>
    have hstarted := (hopened (⟨id, ⟨.html, "head"⟩⟩ :: r.opened)).startHeadContent name attributes
    exact hstarted.of_keeps ⟨rfl, rfl, rfl, rfl⟩
  case h_2 => exact h.startHeadContent name attributes

theorem Settled.placeBlanks {content : Text} {accept : Reading → Text → Reading}
    {leave : Reading → Text → Placed} (h : r.Settled old)
    (haccept : ∀ blanks, (accept r blanks).Settled old)
    (hleave : ∀ r rest, r.Settled old → (leave r rest).Settled old) :
    (r.placeBlanks content accept leave).Settled old := by
  have hblanks : ∀ blanks : Text, (if blanks.isEmpty then r else accept r blanks).Settled old := by
    intro blanks
    split
    · exact h
    · exact haccept blanks
  unfold Reading.placeBlanks
  dsimp only
  split
  · exact hblanks _
  · exact hleave _ _ (hblanks _)

/-- What follows the blanks is left to another mode. -/
theorem Settled.placeBlanks_left (h : r.Settled old) {accept : Reading → Text → Reading}
    {leave : Reading → Reading} {mode : Mode} (haccept : ∀ blanks, (accept r blanks).Settled old)
    (hleave : ∀ r, Keeps r (leave r)) (hmode : mode ≠ .initial) (content : Text) :
    (r.placeBlanks content accept fun r rest =>
      .left { leave r with mode } (.textRun rest)).Settled old := by
  refine h.placeBlanks haccept fun r rest hr => ?_
  have hleft := hr.of_keeps (hleave r)
  exact ⟨hleft.old_eq, hmode, hleft.returnMode_ne, hleft.templateModes_ne⟩

theorem Settled.insertText (h : r.Settled old) (content : Text) :
    (r.insertText content).Settled old := h.of_keeps (keeps_insertText r content)

-- ---------------------------------------------------------------------------
-- The head
-- ---------------------------------------------------------------------------

theorem Settled.placeBeforeHtml (h : r.Settled old) (token : Token) :
    (r.placeBeforeHtml token).Settled old := by
  obtain ⟨hold, hmode, hreturn, htemplates⟩ := h
  unfold Reading.placeBeforeHtml
  dsimp only
  repeat' split
  all_goals simp [settled_iff, *]

theorem Settled.placeBeforeHead (h : r.Settled old) (token : Token) :
    (r.placeBeforeHead token).Settled old := by
  obtain ⟨hold, hmode, hreturn, htemplates⟩ := h
  unfold Reading.placeBeforeHead
  dsimp only
  repeat' split
  all_goals simp [settled_iff, *]

theorem Settled.placeInHead (h : r.Settled old) (token : Token) :
    (r.placeInHead token).Settled old := by
  have hblanks : ∀ content, (r.placeBlanks content Reading.insertText fun r rest =>
      .left { r.close with mode := .afterHead } (.textRun rest)).Settled old :=
    h.placeBlanks_left h.insertText keeps_close nofun
  have hclosed := h.closeTemplate
  have hstarted := h.startHeadContent
  obtain ⟨hold, hmode, hreturn, htemplates⟩ := h
  unfold Reading.placeInHead
  dsimp only
  repeat' split
  all_goals first | exact hblanks _ | exact hclosed | exact hstarted _ _ | simp [settled_iff, *]

theorem Settled.placeInHeadNoscript (h : r.Settled old) (token : Token) :
    (r.placeInHeadNoscript token).Settled old := by
  have hblanks : ∀ content, (r.placeBlanks content Reading.insertText fun r rest =>
      .left { r.close with mode := .inHead } (.textRun rest)).Settled old :=
    h.placeBlanks_left h.insertText keeps_close nofun
  have hstarted := h.startHeadContent
  obtain ⟨hold, hmode, hreturn, htemplates⟩ := h
  unfold Reading.placeInHeadNoscript
  dsimp only
  repeat' split
  all_goals first | exact hblanks _ | exact hstarted _ _ | simp [settled_iff, *]

theorem Settled.placeAfterHead (h : r.Settled old) (token : Token) :
    (r.placeAfterHead token).Settled old := by
  have hblanks : ∀ content, (r.placeBlanks content Reading.insertText fun r rest =>
      .left { r.openHtml "body" [] with mode := .inBody } (.textRun rest)).Settled old :=
    h.placeBlanks_left h.insertText (fun r => keeps_openHtml r "body" []) nofun
  have hclosed := h.closeTemplate
  have hstarted := h.startLateContent
  obtain ⟨hold, hmode, hreturn, htemplates⟩ := h
  unfold Reading.placeAfterHead
  dsimp only
  repeat' split
  all_goals first | exact hblanks _ | exact hclosed | exact hstarted _ _ | simp [settled_iff, *]

-- ---------------------------------------------------------------------------
-- The body
-- ---------------------------------------------------------------------------

theorem Settled.startFrameset (h : r.Settled old) (attributes : List Attribute) :
    (r.startFrameset attributes).Settled old := by
  unfold Reading.startFrameset
  split
  · split
    · exact ⟨h.old_eq, nofun, h.returnMode_ne, h.templateModes_ne⟩
    · exact h
  · exact h

theorem Settled.startInBody (h : r.Settled old) (name : String) (attributes : List Attribute)
    (selfClosing : Bool) : (r.startInBody name attributes selfClosing).Settled old := by
  have hframeset := h.startFrameset
  have hstarted := h.startHeadContent
  obtain ⟨hold, hmode, hreturn, htemplates⟩ := h
  unfold Reading.startInBody
  dsimp only
  repeat' split
  all_goals first
    | exact hframeset _
    | exact hstarted _ _
    | simp [settled_iff, openText, openRaw, *]

theorem Settled.endInBody (h : r.Settled old) (name : String) : (r.endInBody name).Settled old := by
  have hclosed := h.closeTemplate
  obtain ⟨hold, hmode, hreturn, htemplates⟩ := h
  unfold Reading.endInBody
  repeat' split
  all_goals first | exact hclosed | simp [settled_iff, *]

theorem Settled.placeInBody (h : r.Settled old) (token : Token) :
    (r.placeInBody token).Settled old := by
  have hclosed := h.closeTemplate
  have hended := h.endInBody
  unfold Reading.placeInBody
  cases token with
  | startTag name attributes selfClosing =>
    have hstarted := h.startInBody name attributes selfClosing
    exact hstarted.of_keeps ⟨rfl, rfl, rfl, rfl⟩
  | _ =>
    obtain ⟨hold, hmode, hreturn, htemplates⟩ := h
    dsimp only
    repeat' split
    all_goals first | exact hclosed | exact hended _ | simp [settled_iff, *]

theorem Settled.placeInText (h : r.Settled old) (token : Token) :
    (r.placeInText token).Settled old := by
  obtain ⟨hold, hmode, hreturn, htemplates⟩ := h
  unfold Reading.placeInText
  dsimp only
  split <;> simp [settled_iff, *]

/-- The rules after the body for text: all but its blanks goes back into the body. -/
theorem Settled.placeAfterBodyText (h : r.Settled old) (content : Text) :
    (r.placeBlanks content (fun r blanks => r.reopenFormatting.insertText blanks) fun r rest =>
      .left { r with mode := .inBody } (.textRun rest)).Settled old := by
  have hreopened := h.of_keeps (keeps_reopenFormatting r)
  have hleave : ∀ r, Keeps r (id r) := fun _ => ⟨rfl, rfl, rfl, rfl⟩
  refine h.placeBlanks_left ?_ hleave ?_ content
  · exact hreopened.insertText
  · exact nofun

theorem Settled.placeAfterBody (h : r.Settled old) (token : Token) :
    (r.placeAfterBody token).Settled old := by
  have htext := h.placeAfterBodyText
  obtain ⟨hold, hmode, hreturn, htemplates⟩ := h
  unfold Reading.placeAfterBody
  dsimp only
  split
  all_goals first | exact htext _ | simp [settled_iff, *]

theorem Settled.placeAfterAfterBody (h : r.Settled old) (token : Token) :
    (r.placeAfterAfterBody token).Settled old := by
  have htext := h.placeAfterBodyText
  obtain ⟨hold, hmode, hreturn, htemplates⟩ := h
  unfold Reading.placeAfterAfterBody
  dsimp only
  split
  all_goals first | exact htext _ | simp [settled_iff, *]

-- ---------------------------------------------------------------------------
-- Tables
-- ---------------------------------------------------------------------------

theorem Settled.placeBeforeTable (h : r.Settled old) (token : Token) :
    (r.placeBeforeTable token).Settled old := by
  have hfostering : { r with fostering := true }.Settled old := h.of_keeps ⟨rfl, rfl, rfl, rfl⟩
  have hplaced := hfostering.placeInBody token
  unfold Reading.placeBeforeTable
  split
  all_goals
    rename_i heq
    rw [heq] at hplaced
    exact hplaced.of_keeps ⟨rfl, rfl, rfl, rfl⟩

theorem Settled.placeInTable (h : r.Settled old) (token : Token) :
    (r.placeInTable token).Settled old := by
  have hbody := h.placeInBody token
  have hhead := h.placeInHead token
  have hbefore := h.placeBeforeTable token
  have hreset : (r.closeThroughName "table").resetMode.Settled old :=
    (h.of_keeps (keeps_closeThroughName r "table")).resetMode
  obtain ⟨hold, hmode, hreturn, htemplates⟩ := h
  unfold Reading.placeInTable
  repeat' split
  all_goals first
    | exact hbody
    | exact hhead
    | exact hbefore
    | exact hreset
    | simp [settled_iff, clearToTable, *]

theorem Settled.placeInTableText (h : r.Settled old) (token : Token) :
    (r.placeInTableText token).Settled old := by
  have hback : { r with mode := r.returnMode, tableText := [] }.Settled old :=
    ⟨h.old_eq, h.returnMode_ne, h.returnMode_ne, h.templateModes_ne⟩
  unfold Reading.placeInTableText
  split
  · exact h.of_keeps ⟨rfl, rfl, rfl, rfl⟩
  · dsimp only
    split
    · exact hback.insertText _
    · have hplaced := hback.placeBeforeTable (.textRun r.tableText)
      split <;> rename_i heq <;> rw [heq] at hplaced <;> exact hplaced

theorem Settled.placeInCaption (h : r.Settled old) (token : Token) :
    (r.placeInCaption token).Settled old := by
  have hbody := h.placeInBody token
  obtain ⟨hold, hmode, hreturn, htemplates⟩ := h
  unfold Reading.placeInCaption
  dsimp only
  repeat' split
  all_goals first | exact hbody | simp [settled_iff, *]

theorem Settled.placeInColumnGroup (h : r.Settled old) (token : Token) :
    (r.placeInColumnGroup token).Settled old := by
  have hbody := h.placeInBody token
  have hhead := h.placeInHead token
  unfold Reading.placeInColumnGroup
  cases token with
  | textRun content =>
    refine h.placeBlanks h.insertText fun r rest hr => ?_
    dsimp only
    split
    · exact ⟨hr.old_eq, nofun, hr.returnMode_ne, hr.templateModes_ne⟩
    · exact hr
  | _ =>
    obtain ⟨hold, hmode, hreturn, htemplates⟩ := h
    dsimp only
    repeat' split
    all_goals first | exact hbody | exact hhead | simp [settled_iff, *]

theorem Settled.placeInTableBody (h : r.Settled old) (token : Token) :
    (r.placeInTableBody token).Settled old := by
  have htable := h.placeInTable token
  obtain ⟨hold, hmode, hreturn, htemplates⟩ := h
  unfold Reading.placeInTableBody
  dsimp only
  repeat' split
  all_goals first | exact htable | simp [settled_iff, clearToSection, *]

theorem Settled.placeInRow (h : r.Settled old) (token : Token) :
    (r.placeInRow token).Settled old := by
  have htable := h.placeInTable token
  obtain ⟨hold, hmode, hreturn, htemplates⟩ := h
  unfold Reading.placeInRow
  dsimp only
  repeat' split
  all_goals first | exact htable | simp [settled_iff, clearToRow, *]

theorem Settled.placeInCell (h : r.Settled old) (token : Token) :
    (r.placeInCell token).Settled old := by
  have hbody := h.placeInBody token
  obtain ⟨hold, hmode, hreturn, htemplates⟩ := h
  unfold Reading.placeInCell
  repeat' split
  all_goals first | exact hbody | simp [settled_iff, closeCell, *]

theorem Settled.placeInTemplate (h : r.Settled old) (token : Token) :
    (r.placeInTemplate token).Settled old := by
  have hbody := h.placeInBody token
  have hhead := h.placeInHead token
  have hdrop : .initial ∉ r.templateModes.drop 1 := fun hmem =>
    h.templateModes_ne (List.mem_of_mem_drop hmem)
  obtain ⟨hold, hmode, hreturn, htemplates⟩ := h
  unfold Reading.placeInTemplate
  dsimp only
  repeat' split
  all_goals first | exact hbody | exact hhead | simp_all [settled_iff]

-- ---------------------------------------------------------------------------
-- Framesets
-- ---------------------------------------------------------------------------

theorem Settled.placeInFrameset (h : r.Settled old) (token : Token) :
    (r.placeInFrameset token).Settled old := by
  have hhead := h.placeInHead token
  obtain ⟨hold, hmode, hreturn, htemplates⟩ := h
  unfold Reading.placeInFrameset
  dsimp only
  repeat' split
  all_goals first | exact hhead | simp [settled_iff, insertBlanks, *]

theorem Settled.placeAfterFrameset (h : r.Settled old) (token : Token) :
    (r.placeAfterFrameset token).Settled old := by
  have hhead := h.placeInHead token
  obtain ⟨hold, hmode, hreturn, htemplates⟩ := h
  unfold Reading.placeAfterFrameset
  split
  all_goals first | exact hhead | simp [settled_iff, insertBlanks, *]

theorem Settled.placeAfterAfterFrameset (h : r.Settled old) (token : Token) :
    (r.placeAfterAfterFrameset token).Settled old := by
  have hhead := h.placeInHead token
  obtain ⟨hold, hmode, hreturn, htemplates⟩ := h
  unfold Reading.placeAfterAfterFrameset
  dsimp only
  repeat' split
  all_goals first | exact hhead | simp [settled_iff, *]

-- ---------------------------------------------------------------------------
-- All rules
-- ---------------------------------------------------------------------------

/-- The rules of a mode keep a settled reading settled. In the first mode it is not. -/
theorem Settled.placeByMode (h : r.Settled old) (token : Token) :
    (r.placeByMode token).Settled old := by
  unfold Reading.placeByMode
  split
  · exact absurd ‹_› h.mode_ne
  · exact h.placeBeforeHtml token
  · exact h.placeBeforeHead token
  · exact h.placeInHead token
  · exact h.placeInHeadNoscript token
  · exact h.placeAfterHead token
  · exact h.placeInBody token
  · exact h.placeInText token
  · exact h.placeInTable token
  · exact h.placeInTableText token
  · exact h.placeInCaption token
  · exact h.placeInColumnGroup token
  · exact h.placeInTableBody token
  · exact h.placeInRow token
  · exact h.placeInCell token
  · exact h.placeInTemplate token
  · exact h.placeAfterBody token
  · exact h.placeInFrameset token
  · exact h.placeAfterFrameset token
  · exact h.placeAfterAfterBody token
  · exact h.placeAfterAfterFrameset token

theorem Settled.endForeign (h : r.Settled old) (name : String) (token : Token) :
    (r.endForeign name token).Settled old := by
  have hmode := h.placeByMode token
  unfold Reading.endForeign
  split
  · split
    · exact hmode
    · exact h.of_keeps ⟨rfl, rfl, rfl, rfl⟩
  · exact h

theorem Settled.placeForeign (h : r.Settled old) (space : Namespace) (token : Token) :
    (r.placeForeign space token).Settled old := by
  have hclosed : r.closeForeign.Settled old :=
    h.of_keeps ⟨rfl, rfl, rfl, rfl⟩
  have hmode := hclosed.placeByMode token
  have hended := fun name => h.endForeign name token
  obtain ⟨hold, hmode, hreturn, htemplates⟩ := h
  unfold Reading.placeForeign
  repeat' split
  all_goals first | assumption | exact hended _ | simp [settled_iff, *]

theorem Settled.placeOnce (h : r.Settled old) (token : Token) :
    (r.placeOnce token).Settled old := by
  unfold Reading.placeOnce
  split
  · split
    · exact h.placeForeign _ token
    · exact h.placeByMode token
  · exact h.placeByMode token

/-- A token that is left goes to the rules of the mode that the reading is in now. -/
theorem settled_placeWith {fuel : Nat} {token : Token} (h : (r.placeOnce token).Settled old) :
    (placeWith (fuel + 1) r token).Settled old := by
  induction fuel generalizing r token with
  | zero =>
    unfold placeWith
    split <;> rename_i heq <;> rw [heq] at h <;> exact h
  | succ fuel ih =>
    unfold placeWith
    split <;> rename_i heq <;> rw [heq] at h
    · exact h
    · exact ih (Settled.placeOnce h _)

theorem Settled.withoutLineFeed (h : r.Settled old) (token : Token) :
    (r.withoutLineFeed token).1.Settled old := by
  unfold Reading.withoutLineFeed
  split
  · exact h
  all_goals exact h.of_keeps ⟨rfl, rfl, rfl, rfl⟩

theorem Settled.place (h : r.Settled old) (token : Token) : (r.place token).Settled old :=
  settled_placeWith ((h.withoutLineFeed token).placeOnce _)

/-- No token of the rest of the page changes its kind. -/
theorem Settled.readAll (fuel : Nat) (h : r.Settled old) (text : Text) :
    (readAll fuel r text).Settled old := by
  induction fuel generalizing r text with
  | zero => exact h
  | succ fuel ih =>
    unfold Reading.readAll
    split
    · exact h.place .pageEnd
    · exact ih (h.place _) _

end Reading
end LuaMarkup.Html
