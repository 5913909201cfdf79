import LineShell.Text.Lines

/-!
# Texts in lines

A text that was put into lines has no carriage return and ends in a line feed, unless it is empty.
These two properties make up a normal form: a text that has them already is not changed, so what was
put into lines once can be stored, read and put into lines again.
-/

namespace LineShell

/-- A text in which line feeds end all the lines, the last one included, and nothing else ends any. -/
structure Text.InLines (text : Text) : Prop where
  noReturn : '\r' ∉ text
  closed : text = [] ∨ text.getLast? = some '\n'

namespace Lines

/-! ### One line end for all -/

theorem Reading.noReturn_step {reading : Reading} (h : '\r' ∉ reading.output) (character : Char) :
    '\r' ∉ (reading.step character).output := by
  unfold Reading.step
  split
  · simpa using h
  split
  · exact h
  · rename_i hreturn _
    exact List.not_mem_cons_of_ne_of_not_mem (Ne.symm hreturn) h

theorem noReturn_unify (text : Text) : '\r' ∉ unify text := by
  have hfold : ∀ (text : Text) (reading : Reading), '\r' ∉ reading.output →
      '\r' ∉ (text.foldl Reading.step reading).output := by
    intro text
    induction text with
    | nil => exact fun _ h => h
    | cons character rest ih => exact fun reading h => ih _ (Reading.noReturn_step h character)
  simpa [unify] using hfold text ⟨[], false⟩ (by simp)

/-- Without carriage returns there is nothing to unify. -/
theorem unify_of_noReturn {text : Text} (htext : '\r' ∉ text) : unify text = text := by
  have hfold : ∀ (text output : Text), '\r' ∉ text →
      text.foldl Reading.step ⟨output, false⟩ = ⟨text.reverse ++ output, false⟩ := by
    intro text
    induction text with
    | nil => exact fun _ _ => rfl
    | cons character rest ih =>
        intro output hrest
        have hstep : Reading.step ⟨output, false⟩ character = ⟨character :: output, false⟩ := by
          simp [Reading.step, (List.ne_of_not_mem_cons hrest).symm]
        rw [List.foldl_cons, hstep, ih _ (List.not_mem_of_not_mem_cons hrest)]
        simp
  rw [unify, hfold text [] htext]
  simp

/-! ### A line end at the end -/

theorem closed_close (text : Text) : close text = [] ∨ (close text).getLast? = some '\n' := by
  unfold close
  split
  · rename_i h
    simpa using h
  · exact .inr (List.getLast?_concat ..)

theorem close_of_closed {text : Text} (htext : text = [] ∨ text.getLast? = some '\n') :
    close text = text := by
  rw [close, if_pos (by simpa using htext)]

theorem noReturn_close {text : Text} (htext : '\r' ∉ text) : '\r' ∉ close text := by
  unfold close
  split
  · exact htext
  · simpa using htext

end Lines

namespace Text

theorem inLines_asLines (text : Text) : text.asLines.InLines :=
  ⟨Lines.noReturn_close (Lines.noReturn_unify text), Lines.closed_close _⟩

theorem InLines.asLines_eq {text : Text} (htext : text.InLines) : text.asLines = text := by
  rw [asLines, Lines.unify_of_noReturn htext.noReturn, Lines.close_of_closed htext.closed]

/-- A text that was put into lines is not changed by being put into lines again. -/
@[simp]
theorem asLines_asLines (text : Text) : text.asLines.asLines = text.asLines :=
  (inLines_asLines text).asLines_eq

example : Text.asLines "a\r\rb\r\nc" = "a\n\nb\nc\n" := by decide

end Text

end LineShell
