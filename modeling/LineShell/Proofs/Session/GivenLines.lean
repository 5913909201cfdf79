import LineShell.Proofs.Session.Captures

/-!
# The lines that a reader gives

A reader has a list of lines to give, one at each request, and gives none from then on.  A capture
takes the lines in front of the first one that is the sentinel but for case, and asks once more for
that line or for the end of the input.  So what it leaves is what is behind that line, in order.
-/

namespace LineShell

namespace Reader

variable {reader after : Reader} {line : Text}

/-- The lines that a reader has left, as it gives them. -/
def lines (reader : Reader) : List Text :=
  match _h : reader.readLine with
  | (none, _) => []
  | (some line, after) => line :: lines after
termination_by reader.size
decreasing_by exact size_readLine_lt _h

/-- The reader after so many requests for a line. -/
def skip : Nat → Reader → Reader
  | 0, reader => reader
  | count + 1, reader => skip count reader.readLine.2

theorem lines_of_end (hread : reader.readLine = (none, after)) : reader.lines = [] := by
  rw [lines]
  split <;> simp_all

theorem lines_of_line (hread : reader.readLine = (some line, after)) :
    reader.lines = line :: after.lines := by
  rw [lines]
  split <;> simp_all

/-- A script is given line by line, without what ends the lines. -/
theorem lines_scripted (lines : List Text) :
    (scripted lines).lines = lines.map Text.trimLineEnd := by
  induction lines with
  | nil => exact lines_of_end rfl
  | cons line rest ih => rw [lines_of_line rfl, ih, List.map_cons]

theorem skip_scripted (count : Nat) (lines : List Text) :
    (scripted lines).skip count = scripted (lines.drop count) := by
  induction count generalizing lines with
  | zero => rfl
  | succ count ih =>
      cases lines with
      | nil => simpa [skip, readLine] using ih []
      | cons line rest => exact ih rest

/-- Each request takes a line from the front. -/
theorem lines_skip (count : Nat) (reader : Reader) :
    (reader.skip count).lines = reader.lines.drop count := by
  induction count generalizing reader with
  | zero => rfl
  | succ count ih =>
      rw [skip, ih]
      rcases hread : reader.readLine with ⟨line?, after⟩
      cases line? with
      | none => simp [eq_of_readLine_none hread, lines_of_end hread]
      | some line => rw [lines_of_line hread, List.drop_succ_cons]

end Reader

namespace Capture

/-- Whether a line is taken as text: it is not the sentinel, even with letters in another case. -/
def isText (sentinel line : Text) : Bool :=
  line.lower != sentinel.lower

/-- The lines that a capture takes from those of a reader. -/
def taken (sentinel : Text) (lines : List Text) : List Text :=
  lines.takeWhile (isText sentinel)

/-- The lines that a capture leaves: those behind the sentinel line. -/
def left (sentinel : Text) (lines : List Text) : List Text :=
  (lines.dropWhile (isText sentinel)).tail

theorem taken_of_sentinel {sentinel line : Text} (hline : line.lower = sentinel.lower)
    (rest : List Text) : taken sentinel (line :: rest) = [] :=
  List.takeWhile_cons_of_neg (by simp [isText, hline])

theorem taken_of_text {sentinel line : Text} (hline : line.lower ≠ sentinel.lower)
    (rest : List Text) : taken sentinel (line :: rest) = line :: taken sentinel rest :=
  List.takeWhile_cons_of_pos (by simp [isText, hline])

/-- The sentinel line, or the end of the input, is asked for as well. -/
theorem drop_taken (sentinel : Text) (lines : List Text) :
    lines.drop ((taken sentinel lines).length + 1) = left sentinel lines := by
  have hparts : taken sentinel lines ++ lines.dropWhile (isText sentinel) = lines :=
    List.takeWhile_append_dropWhile
  calc
    lines.drop ((taken sentinel lines).length + 1) =
        (taken sentinel lines ++ lines.dropWhile (isText sentinel)).drop
          ((taken sentinel lines).length + 1) := by rw [hparts]
    _ = (lines.dropWhile (isText sentinel)).drop 1 :=
      List.drop_length_add_append 1
    _ = left sentinel lines := List.drop_one

/-- A capture takes the lines in front of the sentinel line, and one request more than there are of
them. -/
theorem takeLines_eq (sentinel : Text) (reader : Reader) :
    takeLines sentinel reader =
      (taken sentinel reader.lines, reader.skip ((taken sentinel reader.lines).length + 1)) := by
  induction reader using Reader.lines.induct with
  | case1 reader after hread =>
      rw [takeLines_of_end hread, Reader.lines_of_end hread]
      simp [taken, Reader.skip, hread]
  | case2 reader line after hread ih =>
      rw [Reader.lines_of_line hread]
      by_cases hline : line.lower = sentinel.lower
      · rw [takeLines_of_sentinel hread hline, taken_of_sentinel hline]
        simp [Reader.skip, hread]
      · rw [takeLines_of_text hread hline, taken_of_text hline, ih]
        simp [Reader.skip, hread]

end Capture

end LineShell
