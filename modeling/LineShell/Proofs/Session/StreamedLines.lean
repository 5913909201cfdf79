import LineShell.Proofs.Session.Driving
import LineShell.Proofs.Session.GivenLines

/-!
# Lines of a stream

A stream is read up to a line feed at a time, and comes to its end where nothing is left.  So it gives
what a script of its lines gives, whatever the lines end in: a line without text is not taken for the
end, and a last line needs no line feed.
-/

namespace LineShell

namespace Lines

/-- The lines that make up a text.  Each ends in its only line feed; what follows the last line feed
is a line as well, if there is anything. -/
inductive MakeUp : List Text → Text → Prop
  | nil : MakeUp [] []
  | last {line : Text} (hline : '\n' ∉ line) (hne : line ≠ []) : MakeUp [line] line
  | cons {line rest : Text} {lines : List Text} (hline : '\n' ∉ line) (hrest : MakeUp lines rest) :
      MakeUp ((line ++ ['\n']) :: lines) (line ++ '\n' :: rest)

/-- The lines of a text with their line feeds. -/
def kept : Text → List Text
  | [] => []
  | character :: rest =>
      if character = '\n' then [character] :: kept rest
      else (character :: (kept rest).headD []) :: (kept rest).tail

example : kept "a\r\n\n\r\r\nb" = ["a\r\n", "\n", "\r\r\n", "b"] := by decide

theorem makeUp_kept (text : Text) : MakeUp (kept text) text := by
  induction text with
  | nil => exact .nil
  | cons character rest ih =>
      rw [kept]
      split
      · rename_i hfeed
        subst hfeed
        exact .cons List.not_mem_nil ih
      · rename_i hfeed
        have hjoin : ∀ line : Text, '\n' ∉ line → '\n' ∉ character :: line := fun _ =>
          List.not_mem_cons_of_ne_of_not_mem (Ne.symm hfeed)
        generalize kept rest = lines at ih
        cases ih with
        | nil => exact .last (hjoin [] List.not_mem_nil) (List.cons_ne_nil _ _)
        | last hline hne => exact .last (hjoin _ hline) (List.cons_ne_nil _ _)
        | cons hline hrest => exact .cons (hjoin _ hline) hrest

namespace MakeUp

variable {lines : List Text} {text : Text}

theorem flatten (h : MakeUp lines text) : lines.flatten = text := by
  induction h with
  | nil => rfl
  | last => simp
  | cons _ _ ih => simp [ih]

theorem drop (h : MakeUp lines text) (count : Nat) :
    MakeUp (lines.drop count) (lines.drop count).flatten := by
  induction h generalizing count with
  | nil => simpa using MakeUp.nil
  | last hline hne =>
      cases count with
      | zero => simpa using MakeUp.last hline hne
      | succ count => simpa using MakeUp.nil
  | cons hline hrest ih =>
      cases count with
      | zero => simpa [hrest.flatten] using MakeUp.cons hline hrest
      | succ count => exact ih count

end MakeUp

theorem splitFirst_last {line : Text} (hline : '\n' ∉ line) : splitFirst line = (line, []) := by
  have hstays : ∀ character ∈ line, (character != '\n') = true := by
    intro character hmem
    exact bne_iff_ne.mpr fun heq => hline (heq ▸ hmem)
  simp [splitFirst, List.takeWhile_eq_self_iff.mpr hstays, List.dropWhile_eq_nil_iff.mpr hstays]

end Lines

namespace Reader

open Lines (MakeUp)

variable {lines : List Text} {text : Text}

/-- A stream gives its first line but for what ends it, and has the others left. -/
theorem readLine_stream (h : MakeUp lines text) :
    (stream text).readLine = (lines.head?.map Text.trimLineEnd, stream lines.tail.flatten) := by
  cases h with
  | nil => rfl
  | last hline hne => simp [readLine, Lines.splitFirst_last hline, hne]
  | cons hline hrest => simp [readLine, splitFirst_line hline, hrest.flatten]

theorem skip_stream (h : MakeUp lines text) (count : Nat) :
    (stream text).skip count = stream (lines.drop count).flatten := by
  induction count generalizing lines text with
  | zero => rw [skip, List.drop_zero, h.flatten]
  | succ count ih =>
      have htail := h.drop 1
      rw [List.drop_one] at htail
      rw [skip, readLine_stream h, ih htail, ← List.drop_one, List.drop_drop, Nat.add_comm]

theorem skip_add (reader : Reader) (count more : Nat) :
    reader.skip (count + more) = (reader.skip count).skip more := by
  induction count generalizing reader with
  | zero => rw [Nat.zero_add, skip]
  | succ count ih => rw [Nat.succ_add, skip, skip, ih]

theorem lines_stream (h : MakeUp lines text) :
    (stream text).lines = lines.map Text.trimLineEnd := by
  induction h with
  | nil => exact lines_of_end rfl
  | last hline hne =>
      have hend : (stream []).lines = [] := lines_of_end rfl
      rw [lines_of_line (readLine_stream (.last hline hne)), List.tail_cons, List.flatten_nil, hend]
      rfl
  | cons hline hrest ih =>
      rw [lines_of_line (readLine_stream (.cons hline hrest)), List.tail_cons, hrest.flatten, ih,
        List.map_cons]

/-- What a reader gives when it is asked for a line after so many requests. -/
def given (reader : Reader) (count : Nat) : Option Text :=
  (reader.skip count).readLine.1

theorem given_scripted (lines : List Text) (count : Nat) :
    (scripted lines).given count = lines[count]?.map Text.trimLineEnd := by
  rw [given, skip_scripted, ← List.head?_drop]
  cases lines.drop count <;> rfl

theorem given_stream (h : MakeUp lines text) (count : Nat) :
    (stream text).given count = lines[count]?.map Text.trimLineEnd := by
  rw [given, skip_stream h, readLine_stream (h.drop count), List.head?_drop]

end Reader

/-- A capture that begins after some requests takes lines from those that are left. -/
theorem Capture.takeLines_skip (sentinel : Text) (reader : Reader) (asked : Nat) :
    takeLines sentinel (reader.skip asked) =
      (taken sentinel (reader.lines.drop asked),
        reader.skip (asked + ((taken sentinel (reader.lines.drop asked)).length + 1))) := by
  rw [takeLines_eq, Reader.lines_skip, ← Reader.skip_add]

/-- A stream and a script of its lines agree: request by request they give the same, which is a line
as long as there are lines, without what ends it, and no line from then on.  So a capture takes the
same text from both, whenever it begins, and leaves both after the same requests. -/
theorem Reader.stream_agrees (text : Text) :
    let lines := Lines.kept text
    Lines.MakeUp lines text ∧
      (∀ count, (stream text).given count = (scripted lines).given count) ∧
      (∀ count, ((stream text).given count).isSome ↔ count < lines.length) ∧
      (∀ count line, lines[count]? = some line → (∀ character ∈ line, isLineEnd character) →
        (stream text).given count = some []) ∧
      (∀ count init last, (stream text).given count = some (init ++ [last]) →
        last ≠ '\r' ∧ last ≠ '\n') ∧
      ∀ (setup : Setup) (banner : Text) (world : World) (asked : Nat),
        ∃ (captured : Text) (after : World) (count : Nat),
          Shell.capture setup banner { world with reader := (stream text).skip asked } =
              .ok captured { after with reader := (stream text).skip count } ∧
            Shell.capture setup banner { world with reader := (scripted lines).skip asked } =
              .ok captured { after with reader := (scripted lines).skip count } := by
  intro lines
  have hlines : Lines.MakeUp lines text := Lines.makeUp_kept text
  have hgiven := given_stream hlines
  refine ⟨hlines, fun count => ?_, fun count => ?_, fun count line hline hblank => ?_,
    fun count init last hlast => ?_, fun setup banner world asked => ?_⟩
  · rw [hgiven, given_scripted]
  · rw [hgiven, Option.isSome_map, isSome_getElem?]
  · have htrimmed : Text.trimEndWhere isLineEnd ([] ++ line) = [] :=
      Text.trimEndWhere_append_of_all hblank
    rw [hgiven, hline, Option.map_some]
    exact congrArg some htrimmed
  · rw [hgiven] at hlast
    obtain ⟨line, -, hline⟩ := Option.map_eq_some_iff.mp hlast
    simpa [isLineEnd] using Text.not_trims_of_trimEndWhere hline
  · have hsame : (stream text).lines = (scripted lines).lines := by
      rw [lines_stream hlines, lines_scripted]
    let taken := Capture.taken setup.sentinel ((scripted lines).lines.drop asked)
    refine ⟨Capture.asText taken, { world with output := world.output ++ [banner ++ "\n"] },
      asked + (taken.length + 1), ?_, ?_⟩
    · rw [Shell.capture_eq, Capture.takeLines_skip, hsame]
    · rw [Shell.capture_eq, Capture.takeLines_skip]

end LineShell
