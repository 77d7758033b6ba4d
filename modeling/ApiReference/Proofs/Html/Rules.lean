import ApiReference.Html.Rules
import ApiReference.Proofs.Html.Steps

/-!
The rules for markup keep the state sound, whatever the token.
-/

namespace ApiReference.Html

open Std.Do

set_option mvcgen.warning false

namespace Build

variable {kept : Nat → Prop}

-- The rules are put together from the steps, and only their specifications matter.
attribute [local irreducible] edit create createElement push pop popUntil popUntilNamed popToContext
  closeImplied close insertAt insertText insertComment appendComment insertClosed insertElement
  insertTag insertVoid insertImplied insertTextElement setMode framesetNotOk closeParagraph
  closeParagraphInScope clearFormatting pushMarker mergeIntoRoot mergeIntoRoot.mergeAttributes
  reconstructFormatting insertFormatting closeAnyOther closeFormatting closeOpenLink inScope

/-! ### Before the body -/

@[spec]
theorem keeps_initialRules (token : Token) : Keeps kept (initialRules token) := by
  mvcgen [initialRules, finish]
  · rename_i h
    exact ⟨h, h.draft.root⟩
  · have h := ‹Construction.Sound kept _›
    exact { h with }

@[spec]
theorem keeps_openRoot (attributes : List (String × String)) :
    Keeps kept (openRoot attributes) := by
  mvcgen [openRoot]
  rename_i h
  exact ⟨h.old, h.holds_new (by decide)⟩

@[spec]
theorem keeps_beforeHtmlRules (token : Token) : Keeps kept (beforeHtmlRules token) := by
  mvcgen [beforeHtmlRules, finish]
  rename_i h
  exact ⟨h, h.draft.root⟩

@[spec]
theorem keeps_openHead (attributes : List (String × String)) :
    Keeps kept (openHead attributes) := by
  mvcgen [openHead]
  have h := ‹Construction.Sound (withNew kept _ True) _›
  exact { h.old with head := fun _ hid => Option.some.inj hid ▸ h.holds_new trivial }

@[spec]
theorem keeps_beforeHeadRules (token : Token) : Keeps kept (beforeHeadRules token) := by
  mvcgen [beforeHeadRules, finish]

@[spec]
theorem keeps_openTemplate (tag : Tag) (named : tag.name ≠ "br") :
    Keeps kept (openTemplate tag) := by
  mvcgen [openTemplate]
  rename_i h _
  exact { h with }

@[spec]
theorem keeps_leaveTemplate : Keeps kept leaveTemplate := by
  mvcgen [leaveTemplate]
  rename_i h _
  exact { h with }

@[spec]
theorem keeps_closeTemplate : Keeps kept closeTemplate := by
  mvcgen [closeTemplate]

@[spec]
theorem keeps_inHeadRules (token : Token) : Keeps kept (inHeadRules token) := by
  mvcgen [inHeadRules, finish]
  all_goals simp [*]

@[spec]
theorem keeps_afterHeadRules (token : Token) : Keeps kept (afterHeadRules token) := by
  mvcgen [afterHeadRules, finish]
  case vc15.h_3.isFalse.isFalse.isFalse.isTrue.h_1.pre =>
    rename_i h _ head
    exact ⟨h, h.head _ head⟩
  all_goals simp_all

attribute [local irreducible] initialRules beforeHtmlRules beforeHeadRules inHeadRules afterHeadRules
  closeTemplate leaveTemplate currentMode

/-! ### In the body -/

@[spec]
theorem keeps_insertForeign (space : Space) {name : String} (tag : Tag) (named : name ≠ "br") :
    Keeps kept (insertForeign space name tag) := by
  mvcgen [insertForeign]
  all_goals exact Construction.Sound.old ‹_›

@[spec]
theorem keeps_replaceBody (tag : Tag) (named : tag.name ≠ "br") : Keeps kept (replaceBody tag) := by
  mvcgen [replaceBody, edit, -keeps_detach]
  rename_i c h _ root body _ opened _ _ _
  have inside : root ∈ c.openElements := List.mem_reverse.mp (by simp [opened])
  have only := h.openOnly (List.forall_mem_singleton.mpr (h.openElements root inside))
  exact only.edit fun sound => sound.detach body

@[spec]
theorem keeps_insertListItem (tag : Tag) (named : tag.name ≠ "br") :
    Keeps kept (insertListItem tag) := by
  mvcgen [insertListItem]
  all_goals exact fun _ _ => named

attribute [local irreducible] insertForeign replaceBody insertListItem

@[spec]
theorem keeps_bodyStartTag (tag : Tag) : Keeps kept (bodyStartTag tag) := by
  by_cases named : tag.name = "br"
  · have known : bodyStartTag tag = (do
        reconstructFormatting
        insertVoid tag
        framesetNotOk) := by
      simp [bodyStartTag, named, headNames, blockNames, headingNames, formattingNames]
    rw [known]
    mvcgen
  · mvcgen [bodyStartTag]
    all_goals first
      | exact fun _ _ => named
      | have h := ‹Construction.Sound kept _›
        exact { h with }

@[spec]
theorem keeps_closeForm : Keeps kept closeForm := by
  mvcgen [closeForm]
  all_goals
    have h := ‹Construction.Sound kept _›
    exact { h with }

@[spec]
theorem keeps_bodyEndTag (name : String) : Keeps kept (bodyEndTag name) := by
  mvcgen [bodyEndTag]

@[spec]
theorem keeps_endInTemplate : Keeps kept endInTemplate := by
  mvcgen [endInTemplate]

@[spec]
theorem keeps_inBodyRules (token : Token) : Keeps kept (inBodyRules token) := by
  mvcgen [inBodyRules, finish]

attribute [local irreducible] bodyStartTag bodyEndTag closeForm endInTemplate inBodyRules

/-! ### In tables -/

@[spec]
theorem keeps_fosterInBody (token : Token) : Keeps kept (fosterInBody token) := by
  mvcgen [fosterInBody]
  all_goals
    have h := ‹Construction.Sound kept _›
    exact { h with }

attribute [local irreducible] fosterInBody

@[spec]
theorem keeps_inTableRules (token : Token) : Keeps kept (inTableRules token) := by
  mvcgen [inTableRules, finish]
  -- A form that is opened here is closed at once, so it need not be kept.
  all_goals first
    | simp [*]
    | have h := ‹Construction.Sound kept _›
      exact { h with }
    | have h := Construction.Sound.old ‹_›
      exact { h with }

@[spec]
theorem keeps_inTableTextRules (token : Token) : Keeps kept (inTableTextRules token) := by
  mvcgen [inTableTextRules]
  all_goals
    have h := ‹Construction.Sound kept _›
    exact { h with }

@[spec]
theorem keeps_inCaptionRules (token : Token) : Keeps kept (inCaptionRules token) := by
  mvcgen [inCaptionRules]

@[spec]
theorem keeps_inColumnGroupRules (token : Token) : Keeps kept (inColumnGroupRules token) := by
  mvcgen [inColumnGroupRules, finish]

@[spec]
theorem keeps_inTableBodyRules (token : Token) : Keeps kept (inTableBodyRules token) := by
  mvcgen [inTableBodyRules]
  simp [*]

@[spec]
theorem keeps_inRowRules (token : Token) : Keeps kept (inRowRules token) := by
  mvcgen [inRowRules]
  all_goals simp [*]

@[spec]
theorem keeps_inCellRules (token : Token) : Keeps kept (inCellRules token) := by
  mvcgen [inCellRules]

attribute [local irreducible] inTableRules inTableTextRules inCaptionRules inColumnGroupRules
  inTableBodyRules inRowRules inCellRules

/-! ### The other rules -/

@[spec]
theorem keeps_textRules (token : Token) : Keeps kept (textRules token) := by
  mvcgen [textRules, finish]
  all_goals
    have h := ‹Construction.Sound kept _›
    exact { h with }

@[spec]
theorem keeps_inSelectRules (token : Token) : Keeps kept (inSelectRules token) := by
  mvcgen [inSelectRules, finish]
  all_goals simp [*]

@[spec]
theorem keeps_inSelectInTableRules (token : Token) : Keeps kept (inSelectInTableRules token) := by
  mvcgen [inSelectInTableRules]

@[spec]
theorem keeps_inTemplateRules (token : Token) : Keeps kept (inTemplateRules token) := by
  mvcgen [inTemplateRules]
  all_goals
    have h := ‹Construction.Sound kept _›
    exact { h with }

@[spec]
theorem keeps_afterBodyRules (token : Token) : Keeps kept (afterBodyRules token) := by
  mvcgen [afterBodyRules, finish]
  rename_i h _
  exact ⟨h, h.holds_outermost⟩

@[spec]
theorem keeps_inFramesetRules (token : Token) : Keeps kept (inFramesetRules token) := by
  mvcgen [inFramesetRules, finish]
  all_goals simp [*]

@[spec]
theorem keeps_afterFramesetRules (token : Token) : Keeps kept (afterFramesetRules token) := by
  mvcgen [afterFramesetRules, finish]

@[spec]
theorem keeps_afterAfterBodyRules (token : Token) : Keeps kept (afterAfterBodyRules token) := by
  mvcgen [afterAfterBodyRules, finish]
  rename_i h
  exact ⟨h, h.draft.root⟩

@[spec]
theorem keeps_afterAfterFramesetRules (token : Token) :
    Keeps kept (afterAfterFramesetRules token) := by
  mvcgen [afterAfterFramesetRules, finish]
  rename_i h
  exact ⟨h, h.draft.root⟩

attribute [local irreducible] textRules inSelectRules inSelectInTableRules inTemplateRules
  afterBodyRules inFramesetRules afterFramesetRules afterAfterBodyRules afterAfterFramesetRules

@[spec]
theorem keeps_rulesOf (mode : InsertionMode) (token : Token) : Keeps kept (rulesOf mode token) := by
  cases mode <;> mvcgen [rulesOf]

/-! ### Other vocabularies -/

@[spec]
theorem keeps_leaveForeign : Keeps kept leaveForeign := by
  mvcgen [leaveForeign]
  rename_i h _
  exact h.openFewer (List.dropWhile_sublist _).subset

theorem respell_ne_break {name : String} (named : name ≠ "br") :
    respell svgElementNames name ≠ "br" := by
  unfold respell
  cases found : svgElementNames.find? fun n => Text.asciiLower n == name with
  | none => exact named
  | some n =>
    have others : ∀ n ∈ svgElementNames, n ≠ "br" := by decide
    exact others n (List.mem_of_find?_eq_some found)

@[spec]
theorem keeps_foreignStartTag (tag : Tag) (named : tag.name ≠ "br") :
    Keeps kept (foreignStartTag tag) := by
  mvcgen [foreignStartTag]
  rename_i name
  unfold name
  split
  · exact respell_ne_break named
  · exact named

theorem ne_break_of_not_breaksOut {tag : Tag} (h : ¬breaksOut tag = true) : tag.name ≠ "br" := by
  rintro is
  simp [breaksOut, is, breakoutNames] at h

theorem subset_of_findForeignClose {c : Construction} {name : String} {first : Bool}
    {ids outer : List Nat} (h : findForeignClose c name first ids = .upTo outer) : outer ⊆ ids := by
  fun_induction findForeignClose c name first ids <;> grind

@[spec]
theorem keeps_foreignRules (token : Token) : Keeps kept (foreignRules token) := by
  mvcgen [foreignRules, finish]
  · exact ne_break_of_not_breaksOut ‹_›
  · have h := ‹Construction.Sound kept _›
    rename_i found _
    exact h.openFewer (subset_of_findForeignClose found)

end Build

end ApiReference.Html
