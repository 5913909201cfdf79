import LineShell.Console.Display
import LineShell.Proofs.Text.Pieces
import Mathlib.Data.List.TakeDrop

/-!
# Texts that a screen shows as they are

A screen leaves out some control characters and puts spaces in the place of tabs, and some screens
take away the white space at the end of a line that lies beyond the last column.  So a text is shown
as it is if and only if there is nothing of the kind in it, and texts that are shown one after the
other look like all of them at once only in this case.  This holds on every display that changes
nothing else.
-/

namespace LineShell

namespace Screen

variable {crops : Bool} {columns : Nat} {text line : Text} {character : Char}

/-- Whether a screen shows a character as it is. -/
def isPlain (character : Char) : Bool :=
  !isDropped character && character != '\t'

/-- A text is shown as it is on a screen with so many columns: it has neither tabs nor characters
that are left out and, if the screen crops, no line that ends with white space and is longer than
the screen is wide. -/
def Keeps (crops : Bool) (columns : Nat) (text : Text) : Prop :=
  (∀ character ∈ text, isPlain character = true) ∧
    (crops = true → ∀ line ∈ Text.splitOn '\n' text,
      line.length ≤ columns ∨ ∀ last ∈ line.getLast?, isBlank last = false)

-- The bounded quantifiers are named, since the search could settle on one over all characters.
instance (crops : Bool) (columns : Nat) : DecidablePred (Keeps crops columns) := fun text =>
  haveI (line : Text) : Decidable (∀ last ∈ line.getLast?, isBlank last = false) :=
    Option.decidableForallMem _
  @instDecidableAnd _ _ (List.decidableBAll _ text) inferInstance

theorem isPlain_iff :
    isPlain character = true ↔ isDropped character = false ∧ character ≠ '\t' := by
  simp [isPlain]

/-! ### Lines that are too long -/

theorem mem_of_mem_finish (hmem : character ∈ finish crops columns line) : character ∈ line := by
  unfold finish at hmem
  split at hmem
  · exact List.mem_of_mem_take hmem
  · exact hmem

theorem length_finish_le (crops : Bool) (columns : Nat) (line : Text) :
    (finish crops columns line).length ≤ line.length := by
  unfold finish
  split
  · exact List.length_take_le' _ _
  · exact Nat.le_refl _

/-- A line stays whole if it fits or does not end with white space. -/
theorem cropEnd_eq_self_iff :
    cropEnd columns line = line ↔
      line.length ≤ columns ∨ ∀ last ∈ line.getLast?, isBlank last = false := by
  have htrailing : (line.reverse.takeWhile isBlank).length = 0 ↔
      ∀ last ∈ line.getLast?, isBlank last = false := by
    rw [List.getLast?_eq_head?_reverse]
    cases line.reverse with
    | nil => simp
    | cons last rest => cases hlast : isBlank last <;> simp [hlast]
  have hle : (line.reverse.takeWhile isBlank).length ≤ line.length := by
    simpa using (List.takeWhile_sublist (l := line.reverse) isBlank).length_le
  rw [cropEnd, List.take_eq_self_iff, ← htrailing]
  omega

/-- A text whose lines are ended by a screen is the same text only if each line stays whole. -/
theorem joinWith_finish_eq_iff :
    Text.joinWith "\n" ((Text.splitOn '\n' text).map (finish crops columns)) = text ↔
      ∀ line ∈ Text.splitOn '\n' text, finish crops columns line = line := by
  constructor
  · intro hsame
    have hpieces : ∀ piece ∈ (Text.splitOn '\n' text).map (finish crops columns), '\n' ∉ piece := by
      intro piece hpiece hbreak
      obtain ⟨line, hline, rfl⟩ := List.mem_map.mp hpiece
      have hother := Text.separates_eq_false_of_mem_splitWhere hline (mem_of_mem_finish hbreak)
      exact absurd hother (by decide)
    have hne : (Text.splitOn '\n' text).map (finish crops columns) ≠ [] := by
      simpa [Text.splitOn] using Text.splitWhere_ne_nil (· == '\n') text
    have hlines : Text.splitOn '\n' text = (Text.splitOn '\n' text).map (finish crops columns) :=
      (congrArg (Text.splitOn '\n') hsame.symm).trans (Text.splitOn_joinWith hne hpieces)
    exact List.map_inj_left.mp (hlines.symm.trans (List.map_id' _).symm)
  · intro hlines
    rw [List.map_congr_left hlines, List.map_id']
    exact Text.joinWith_splitOn '\n' text

/-! ### What a screen never shows -/

/-- Between the tabs of a line there come spaces only. -/
theorem mem_of_mem_alignPieces {pieces : List Text} (hmem : character ∈ alignPieces pieces) :
    character = ' ' ∨ ∃ piece ∈ pieces, character ∈ piece := by
  induction pieces with
  | nil => cases hmem
  | cons piece rest ih =>
      cases rest with
      | nil => exact .inr ⟨piece, List.mem_singleton_self piece, hmem⟩
      | cons next others =>
          rw [alignPieces, fillToStop] at hmem
          simp only [List.mem_append, List.mem_singleton, List.mem_replicate] at hmem
          obtain ((hpiece | hspace) | ⟨-, hspace⟩) | hrest := hmem
          · exact .inr ⟨piece, List.mem_cons_self, hpiece⟩
          · exact .inl hspace
          · exact .inl hspace
          · refine (ih hrest).imp_right fun ⟨other, hother, hmem⟩ => ?_
            exact ⟨other, List.mem_cons_of_mem piece hother, hmem⟩

theorem isPlain_of_mem_expandTabs {line : Text}
    (hline : ∀ character ∈ line, isDropped character = false)
    (hmem : character ∈ expandTabs line) : isPlain character = true := by
  obtain rfl | ⟨piece, hpiece, hmem⟩ := mem_of_mem_alignPieces hmem
  · decide
  · refine isPlain_iff.mpr ⟨hline _ (Text.mem_of_mem_splitWhere hpiece hmem), ?_⟩
    exact beq_eq_false_iff_ne.mp (Text.separates_eq_false_of_mem_splitWhere hpiece hmem)

/-- Whatever the text, a screen shows no character that it would not show as it is. -/
theorem isPlain_of_mem_render (hmem : character ∈ render crops columns text) :
    isPlain character = true := by
  unfold render at hmem
  split at hmem
  · cases hmem
  obtain hbreak | ⟨finished, hfinished, hmem⟩ := Text.mem_of_mem_joinWith hmem
  · obtain rfl : character = '\n' := by simpa using hbreak
    decide
  obtain ⟨expanded, hexpanded, rfl⟩ := List.mem_map.mp hfinished
  obtain ⟨whole, hwhole, rfl⟩ := List.mem_map.mp hexpanded
  refine isPlain_of_mem_expandTabs (fun other hother => ?_) (mem_of_mem_finish hmem)
  simpa using (List.mem_filter.mp (Text.mem_of_mem_splitWhere hwhole hother)).2

theorem expandTabs_of_not_mem (htab : '\t' ∉ text) : expandTabs text = text := by
  rw [expandTabs, Text.splitOn_of_not_mem htab, alignPieces]

/-- Where all characters are shown as they are, nothing but the ends of lines is changed. -/
theorem render_of_plain (hcolumns : columns ≠ 0)
    (hplain : ∀ character ∈ text, isPlain character = true) :
    render crops columns text =
      Text.joinWith "\n" ((Text.splitOn '\n' text).map (finish crops columns)) := by
  have hstays : ∀ character ∈ text, (!isDropped character) = true := fun character hmem => by
    simp [(isPlain_iff.mp (hplain character hmem)).1]
  have hlines : (Text.splitOn '\n' text).map expandTabs = Text.splitOn '\n' text := by
    refine (List.map_congr_left fun line hline => expandTabs_of_not_mem fun htab => ?_).trans
      (List.map_id' _)
    exact (isPlain_iff.mp (hplain '\t' (Text.mem_of_mem_splitWhere hline htab))).2 rfl
  rw [render, if_neg hcolumns, lines, List.filter_eq_self.mpr hstays, hlines]

example : render true 3 "ab  \n\tc" = "ab \n        c" := by decide

end Screen

/-! ### Displays that show text line by line -/

namespace Display

/-- What a display is taken to do with a text.  It breaks no lines and reads no markup: a text in
which nothing is to be left out and no tab to be replaced comes out line by line, each line whole
but for what the display crops at its end. -/
structure ShowsLines (display : Display) (crops : Bool) : Prop where
  blank (text : Text) : display.text 0 text = []
  plain {columns : Nat} {text : Text} {character : Char}
    (hmem : character ∈ display.text columns text) : Screen.isPlain character = true
  lines {columns : Nat} {text : Text} (hcolumns : columns ≠ 0)
    (hplain : ∀ character ∈ text, Screen.isPlain character = true) :
    display.text columns text =
      Text.joinWith "\n" ((Text.splitOn '\n' text).map (Screen.finish crops columns))

/-- Screens show text so, those that crop and those that do not. -/
theorem showsLines_render (crops : Bool) : ShowsLines { text := Screen.render crops } crops where
  blank _ := rfl
  plain := Screen.isPlain_of_mem_render
  lines := Screen.render_of_plain

namespace ShowsLines

variable {display : Display} {crops : Bool} {columns : Nat} {text : Text}

theorem text_nil (hdisplay : display.ShowsLines crops) : display.text columns [] = [] := by
  by_cases hcolumns : columns = 0
  · rw [hcolumns, hdisplay.blank]
  · rw [hdisplay.lines hcolumns (by simp)]
    simp [Text.splitOn, Text.splitWhere, Screen.finish, Screen.cropEnd, Text.joinWith]

/-- A text without tabs and characters that are left out is shown as it is if all of its lines stay
whole. -/
theorem text_eq_self_iff (hdisplay : display.ShowsLines crops) (hcolumns : columns ≠ 0)
    (hplain : ∀ character ∈ text, Screen.isPlain character = true) :
    display.text columns text = text ↔ Screen.Keeps crops columns text := by
  rw [hdisplay.lines hcolumns hplain, Screen.joinWith_finish_eq_iff, Screen.Keeps,
    and_iff_right hplain]
  cases crops with
  | false => simp [Screen.finish]
  | true => simp only [Screen.finish, if_true, Screen.cropEnd_eq_self_iff, forall_const]

/-- Nothing is added to such a text. -/
theorem length_text_le (hdisplay : display.ShowsLines crops)
    (hplain : ∀ character ∈ text, Screen.isPlain character = true) :
    (display.text columns text).length ≤ text.length := by
  by_cases hcolumns : columns = 0
  · simp [hcolumns, hdisplay.blank]
  rw [hdisplay.lines hcolumns hplain]
  conv_rhs => rw [← Text.joinWith_splitOn '\n' text]
  exact Text.length_joinWith_map_le "\n" fun line _ => Screen.length_finish_le crops columns line

/-- Texts that are shown one after the other look like the whole of them if and only if there is
nothing in them, or the screen has columns and shows each of the texts as it is. -/
theorem flatMap_text_eq_flatten_iff (hdisplay : display.ShowsLines crops) (columns : Nat)
    (texts : List Text) :
    texts.flatMap (display.text columns) = texts.flatten ↔
      texts.flatten = [] ∨ columns ≠ 0 ∧ ∀ text ∈ texts, Screen.Keeps crops columns text := by
  constructor
  · intro hsame
    by_cases hcolumns : columns = 0
    · left
      rw [← hsame, hcolumns]
      simp [hdisplay.blank]
    -- Only characters that come out as they are can be in the texts, so each is no shorter before.
    have hplain : ∀ text ∈ texts, ∀ character ∈ text, Screen.isPlain character = true := by
      intro text htext character hmem
      have hshown : character ∈ texts.flatMap (display.text columns) := by
        rw [hsame]
        exact List.mem_flatten.mpr ⟨text, htext, hmem⟩
      obtain ⟨other, -, hmem⟩ := List.mem_flatMap.mp hshown
      exact hdisplay.plain hmem
    refine .inr ⟨hcolumns, fun text htext => ?_⟩
    refine (hdisplay.text_eq_self_iff hcolumns (hplain text htext)).mp ?_
    exact Text.eq_of_flatMap_eq_flatten
      (fun other hother => hdisplay.length_text_le (hplain other hother)) hsame text htext
  · intro hkeeps
    suffices hshown : ∀ text ∈ texts, display.text columns text = text by
      rw [List.flatMap_def, List.map_congr_left hshown, List.map_id']
    intro text htext
    obtain hempty | ⟨hcolumns, hkeeps⟩ := hkeeps
    · rw [List.flatten_eq_nil_iff.mp hempty text htext, hdisplay.text_nil]
    · exact (hdisplay.text_eq_self_iff hcolumns (hkeeps text htext).1).mpr (hkeeps text htext)

end ShowsLines

end Display

end LineShell
