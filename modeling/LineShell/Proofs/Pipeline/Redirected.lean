import LineShell.Command.Standard
import LineShell.Proofs.Core.Outcome
import LineShell.Proofs.Text.Pieces
import LineShell.Session.Interpreter
import Mathlib

/-!
# Lines with a redirection behind them

A line without a redirection sign asks for its stages, and the same line followed by an operator and
a file name asks for the same stages with their result sent to that file.  The one exception is a
bare `cat`, which together with the operator becomes a capture into the file.
-/

namespace LineShell

namespace Request

/-- The stages between the pipe signs of a line. -/
def stagesOf (line : Text) : List Stage :=
  (Text.splitOn '|' line.trim).map fun segment => Stage.ofText segment.trim

/-- A line with an operator and a file name written behind it. -/
def redirect (line : Text) (mode : WriteMode) (target : Text) : Text :=
  line ++ ' ' :: mode.operator ++ ' ' :: target

/-- A word that can stand behind a redirection operator: it is not empty and has neither white space
nor a pipe or redirection sign in it. -/
def IsTarget (target : Text) : Prop :=
  target ≠ [] ∧ ∀ character ∈ target,
    isBlank character = false ∧ character ≠ '|' ∧ character ≠ '>'

instance (target : Text) : Decidable (IsTarget target) :=
  @instDecidableAnd _ _ inferInstance (List.decidableBAll _ target)

/-- A text that can stand behind a redirection operator: it is not empty, white space is only between
its words, and neither a pipe nor a redirection sign is in it. -/
structure IsTargetText (target : Text) : Prop where
  ne_nil : target ≠ []
  trim : target.trim = target
  pipe : '|' ∉ target
  sign : '>' ∉ target

theorem IsTarget.isTargetText {target : Text} (htarget : IsTarget target) : IsTargetText target :=
  ⟨htarget.1, Text.trim_of_not_blank fun character hmem => (htarget.2 character hmem).1,
    fun hmem => (htarget.2 _ hmem).2.1 rfl, fun hmem => (htarget.2 _ hmem).2.2 rfl⟩

theorem not_startsWith_heredocStart {line : Text} (hsign : '>' ∉ line) :
    Text.startsWith line heredocStart = false := by
  rw [Text.startsWith, Bool.eq_false_iff]
  intro hstart
  have hsubset := (List.isPrefixOf_iff_prefix.mp hstart).subset
  exact hsign (hsubset (by decide))

theorem parse_of_no_sign {line : Text} (hsign : '>' ∉ line) (hblank : line.trim ≠ []) :
    parse line = .ok (.pipeline { stages := stagesOf line }) := by
  have htrim : '>' ∉ line.trim := fun hmem => hsign (Text.mem_of_mem_trim hmem)
  obtain ⟨before, last, hpieces⟩ := Text.exists_splitOn_eq_concat '|' line.trim
  have hlast : '>' ∉ last.trim := fun hmem =>
    htrim (Text.mem_of_splitOn_eq_concat hpieces (Text.mem_of_mem_trim hmem))
  have hstart := not_startsWith_heredocStart htrim
  simp [parse, stagesOf, hpieces, hblank, hstart, ofLastSegment, hlast, Except.map]

/-- Once it is trimmed, the line with a redirection is the trimmed line, some blanks, the operator
and the target. -/
theorem exists_trim_redirect (line : Text) (mode : WriteMode) {target : Text}
    (htarget : IsTargetText target) :
    ∃ blanks, (∀ character ∈ blanks, isBlank character = true) ∧
      (redirect line mode target).trim =
        line.trim ++ (blanks ++ mode.operator ++ ' ' :: target) := by
  obtain ⟨init, last, rfl, hlast⟩ := Text.exists_concat_of_trim htarget.ne_nil htarget.trim
  obtain ⟨more, hoperator⟩ := mode.exists_operator_eq
  have htrim : (redirect line mode (init ++ [last])).trim =
      (line ++ [' ']).dropWhile isBlank ++ '>' :: (more ++ ' ' :: init) ++ [last] := by
    rw [← Text.trim_append_of_not_blank _ _ (by decide) hlast]
    simp [redirect, hoperator]
  rw [htrim, hoperator, List.dropWhile_append]
  split <;> rename_i hempty
  · refine ⟨[], by simp, ?_⟩
    simp [Text.trim, Text.trimWhere, List.isEmpty_iff.mp hempty, Text.trimEndWhere]
  · obtain ⟨tail, hparts, htail⟩ :=
      Text.exists_eq_trimEndWhere_append isBlank (line.dropWhile isBlank)
    refine ⟨tail ++ [' '], ?_, ?_⟩
    · intro character hmem
      rcases List.mem_append.mp hmem with hmem | hmem
      · exact htail character hmem
      · rw [List.mem_singleton.mp hmem, Text.isBlank_space]
    · rw [Text.trim, Text.trimWhere]
      conv_lhs => rw [hparts]
      simp

theorem sign_not_mem_append {text blanks : Text} (htext : '>' ∉ text)
    (hblanks : ∀ character ∈ blanks, isBlank character = true) : '>' ∉ text ++ blanks := by
  intro hmem
  rcases List.mem_append.mp hmem with hmem | hmem
  · exact htext hmem
  · exact absurd (hblanks _ hmem) (by decide)

/-- The line with a redirection begins a capture only where the line is a bare `cat`. -/
theorem not_startsWith_heredocStart_redirect {line : Text} (mode : WriteMode) {target : Text}
    (hsign : '>' ∉ line) (hcat : line.trim ≠ "cat") (htarget : IsTargetText target) :
    Text.startsWith (redirect line mode target).trim heredocStart = false := by
  obtain ⟨blanks, hblanks, htrim⟩ := exists_trim_redirect line mode htarget
  obtain ⟨more, hoperator⟩ := mode.exists_operator_eq
  have hfront : '>' ∉ line.trim ++ blanks :=
    sign_not_mem_append (fun hmem => hsign (Text.mem_of_mem_trim hmem)) hblanks
  rw [Text.startsWith, Bool.eq_false_iff]
  intro hstart
  obtain ⟨rest, hrest⟩ := List.isPrefixOf_iff_prefix.mp hstart
  have hsplit : ("cat " : Text) ++ '>' :: rest =
      (line.trim ++ blanks) ++ '>' :: (more ++ ' ' :: target) := by
    simpa [htrim, hoperator, heredocStart] using hrest
  -- Both sides have their first redirection sign there, so what precedes it agrees.
  have hcatline : ("cat " : Text) = line.trim ++ blanks := by
    rcases List.append_eq_append_iff.mp hsplit with ⟨between, h, h'⟩ | ⟨between, h, h'⟩
    · cases between with
      | nil => simpa using h.symm
      | cons first others =>
          rw [List.cons_append, List.cons.injEq] at h'
          exact absurd (h ▸ by simp [← h'.1]) hfront
    · cases between with
      | nil => simpa using h
      | cons first others =>
          rw [List.cons_append, List.cons.injEq] at h'
          exact absurd (h ▸ (by simp [← h'.1] : '>' ∈ line.trim ++ blanks ++ first :: others))
            (by decide)
  apply hcat
  calc
    line.trim = line.trim.trim := (Text.trim_trim line).symm
    _ = (line.trim ++ blanks).trim := (Text.trim_append_of_blank hblanks).symm
    _ = Text.trim "cat " := by rw [hcatline]
    _ = "cat" := by decide

/-- The sign for appending is not found before the first redirection sign. -/
theorem includes_append_of_no_sign {before rest : Text} (hbefore : '>' ∉ before) :
    Text.includes ">>" (before ++ rest) = Text.includes ">>" rest := by
  induction before with
  | nil => rfl
  | cons first others ih =>
      have hfirst : first ≠ '>' := fun heq => hbefore (by simp [heq])
      have hothers : '>' ∉ others := fun hmem => hbefore (List.mem_cons_of_mem first hmem)
      rw [List.cons_append, Text.includes, ih hothers]
      simp [List.isPrefixOf, Ne.symm hfirst]

/-- The mode of a segment with one operator in it is read off the operator. -/
theorem includes_operator {before after : Text} (hbefore : '>' ∉ before) (hafter : '>' ∉ after)
    (mode : WriteMode) :
    Text.includes ">>" (before ++ mode.operator ++ ' ' :: after) = (mode == .append) := by
  have hnone : Text.includes ">>" after = false := by
    have h : Text.includes ">>" (after ++ []) = Text.includes ">>" [] :=
      includes_append_of_no_sign hafter
    rw [List.append_nil] at h
    exact h
  rw [List.append_assoc, includes_append_of_no_sign hbefore]
  cases mode with
  | overwrite =>
      change ((false || false || Text.includes ">>" after) : Bool) = false
      rw [hnone]
      rfl
  | append => rfl

/-- Only what is in front of a segment is trimmed where an operator and a target stand behind it. -/
theorem trim_append_operator (segment : Text) (mode : WriteMode) {target : Text}
    (htarget : IsTargetText target) :
    Text.trim (segment ++ (mode.operator ++ ' ' :: target)) =
      segment.dropWhile isBlank ++ mode.operator ++ ' ' :: target := by
  obtain ⟨init, last, hlast, hstays⟩ := Text.exists_concat_of_trim htarget.ne_nil htarget.trim
  obtain ⟨more, hoperator⟩ := mode.exists_operator_eq
  have hfirst : isBlank '>' = false := by decide
  have h := Text.trim_append_of_not_blank segment (more ++ ' ' :: init) hfirst hstays
  simpa [hoperator, hlast] using h

/-- Between the redirection signs the first piece is what stands in front of the operator and the
last one is the target. -/
theorem splitOn_sign_operator {front target : Text} (hfront : '>' ∉ front) (htarget : '>' ∉ target)
    (mode : WriteMode) :
    ∃ between, Text.splitOn '>' (front ++ mode.operator ++ ' ' :: target) =
      front :: (between ++ [' ' :: target]) := by
  have hfronts : Text.splitOn '>' front = [front] := Text.splitOn_of_not_mem hfront
  have htargets : Text.splitOn '>' (' ' :: target) = [' ' :: target] :=
    Text.splitOn_of_not_mem fun hmem => htarget (by simpa using hmem)
  have hsplit : ∀ rest, Text.splitOn '>' (front ++ '>' :: rest) = front :: Text.splitOn '>' rest := by
    intro rest
    have h : Text.splitOn '>' (front ++ '>' :: rest) =
        Text.splitOn '>' front ++ Text.splitOn '>' rest :=
      Text.splitWhere_append_cons front rest (by decide)
    rw [h, hfronts, List.singleton_append]
  cases mode with
  | overwrite =>
      have h := hsplit (' ' :: target)
      rw [htargets] at h
      exact ⟨[], by simpa [WriteMode.operator] using h⟩
  | append =>
      have h := hsplit ('>' :: ' ' :: target)
      have hsecond : Text.splitOn '>' ('>' :: ' ' :: target) =
          [] :: Text.splitOn '>' (' ' :: target) :=
        Text.splitWhere_cons_of_separates (by decide) (' ' :: target)
      rw [hsecond, htargets] at h
      exact ⟨[[]], by simpa [WriteMode.operator] using h⟩

/-- Between the pipe signs an operator and a target go to the last piece. -/
theorem splitOn_pipe_operator {text blanks target last : Text} {before : List Text}
    (mode : WriteMode) (hblanks : ∀ character ∈ blanks, isBlank character = true)
    (htarget : '|' ∉ target) (hpieces : Text.splitOn '|' text = before ++ [last]) :
    Text.splitOn '|' (text ++ (blanks ++ mode.operator ++ ' ' :: target)) =
      before ++ [last ++ blanks ++ (mode.operator ++ ' ' :: target)] := by
  have hbehind : ∀ character ∈ blanks ++ mode.operator ++ ' ' :: target,
      (character == '|') = false := by
    intro character hmem
    simp only [List.mem_append, List.mem_cons] at hmem
    rw [beq_eq_false_iff_ne]
    rintro rfl
    rcases hmem with (hmem | hmem) | hmem | hmem
    · exact absurd (hblanks _ hmem) (by decide)
    · cases mode <;> exact absurd hmem (by decide)
    · exact absurd hmem (by decide)
    · exact htarget hmem
  rw [Text.splitOn, Text.splitWhere_append_of_none _ hbehind, ← Text.splitOn, hpieces]
  simp

/-- The last segment of a line with a redirection behind it.  A target of several words behind
nothing at all is read as words to be written. -/
theorem ofLastSegment_redirected (before : List Stage) {segment : Text} (mode : WriteMode)
    {target : Text} (hsign : '>' ∉ segment) (htarget : IsTargetText target) :
    ofLastSegment before (Text.trim (segment ++ (mode.operator ++ ' ' :: target))) =
      if segment.trim = [] ∧ before = [] ∧ 1 < target.words.length then
        .ok { stages := [literalStage (mode.operator ++ ' ' :: target)] }
      else
        .ok { stages := before ++ [Stage.ofText segment.trim]
              redirection := some { target, mode, command := segment.trim } } := by
  have htrim := trim_append_operator segment mode htarget
  have hcommand : Text.trim (segment.dropWhile isBlank) = segment.trim := Text.trim_dropWhile segment
  have hnothing : segment.trim = [] → segment.dropWhile isBlank = [] :=
    Text.dropWhile_isBlank_of_trim
  have hfront : '>' ∉ segment.dropWhile isBlank := fun hmem =>
    hsign ((List.dropWhile_sublist isBlank).subset hmem)
  generalize segment.dropWhile isBlank = front at *
  obtain ⟨between, hpieces⟩ := splitOn_sign_operator hfront htarget.sign mode
  have hmode := includes_operator hfront htarget.sign mode
  have htrimtarget : Text.trim (' ' :: target) = target := by
    rw [Text.trim_space_cons, htarget.trim]
  have hcontains : (front ++ mode.operator ++ ' ' :: target).contains '>' = true := by
    cases mode <;> simp [WriteMode.operator]
  have hempty : target.isEmpty = false := by simpa using htarget.ne_nil
  have hlast : (front :: (between ++ [' ' :: target])).getLastD [] = ' ' :: target := by
    rw [← List.cons_append, List.getLastD_concat]
  rw [htrim, ofLastSegment, hcontains, hpieces, hmode]
  simp only [hlast, htrimtarget, hempty, List.headD_cons, hcommand]
  by_cases hblank : segment.trim = []
  · cases mode <;> simp [hblank, hnothing hblank]
  · cases mode <;> simp [hblank]

/-- A line with a redirection behind it asks for the stages of the line and for that redirection,
unless it begins a capture.  A redirection to several words behind nothing at all writes words. -/
theorem parse_redirect_eq {line : Text} (mode : WriteMode) {target : Text} (hsign : '>' ∉ line)
    (hcat : line.trim ≠ "cat") (htarget : IsTargetText target) :
    parse (redirect line mode target) =
      .ok (.pipeline
        (if line.trim = [] ∧ 1 < target.words.length then
          { stages := [literalStage (mode.operator ++ ' ' :: target)] }
        else
          { stages := stagesOf line
            redirection := some
              { target, mode,
                command := Text.trim ((Text.splitOn '|' line.trim).getLastD []) } })) := by
  obtain ⟨blanks, hblanks, htrim⟩ := exists_trim_redirect line mode htarget
  have hstart := not_startsWith_heredocStart_redirect mode hsign hcat htarget
  have hne : (redirect line mode target).trim.isEmpty = false := by
    rw [htrim]
    cases mode <;> simp
  obtain ⟨before, last, hpieces⟩ := Text.exists_splitOn_eq_concat '|' line.trim
  have hsplit := splitOn_pipe_operator mode hblanks htarget.pipe hpieces
  rw [← htrim] at hsplit
  have hlast : '>' ∉ last ++ blanks := by
    refine sign_not_mem_append (fun hmem => hsign (Text.mem_of_mem_trim ?_)) hblanks
    exact Text.mem_of_splitOn_eq_concat hpieces hmem
  have hsegment := ofLastSegment_redirected
    (before.map fun segment => Stage.ofText segment.trim) mode hlast htarget
  simp only [List.map_eq_nil_iff, Text.trim_append_of_blank hblanks, ← and_assoc,
    Text.trim_last_eq_nil_iff hpieces] at hsegment
  simp only [List.append_assoc] at hsplit hsegment
  by_cases hwords : line.trim = [] ∧ 1 < target.words.length
  · rw [if_pos hwords] at hsegment ⊢
    simp [parse, hne, hstart, hsplit, hsegment, Except.map, Function.comp_def]
  · rw [if_neg hwords] at hsegment ⊢
    simp [parse, hne, hstart, hsplit, hsegment, stagesOf, hpieces, Except.map, Function.comp_def]

theorem parse_redirect {line : Text} (mode : WriteMode) {target : Text} (hsign : '>' ∉ line)
    (hcat : line.trim ≠ "cat") (htarget : IsTarget target) :
    ∃ command, parse (redirect line mode target) =
      .ok (.pipeline { stages := stagesOf line
                       redirection := some { target, mode, command } }) := by
  have hwords : (Text.words target).length = 1 := by
    rw [Text.words_of_not_blank htarget.1 fun character hmem => (htarget.2 character hmem).1]
    rfl
  have hparse := parse_redirect_eq mode hsign hcat htarget.isTargetText
  rw [if_neg (by omega)] at hparse
  exact ⟨_, hparse⟩

end Request

/-! ### Running such a line -/

/-- The texts that show a reply on the output; a reply without text shows nothing. -/
def Reply.shown (reply : Option Reply) : List Text :=
  match reply.bind Reply.text with
  | some (first :: rest) => [first :: rest]
  | _ => []

/-- The text that shows a reply, which is empty where nothing is shown. -/
def Reply.content (reply : Option Reply) : Text :=
  (reply.bind Reply.text).getD []

namespace Interpreter

open Request

/-- Sends a text to a file as the last step of a line, and gives the status for the line's reply. -/
def sendTo (setup : Setup) (mode : WriteMode) (target content : Text) : Shell (Option Reply) := do
  return some (.say (← Shell.writeTo setup mode target content))

/-- Sending a text to a file touches the files only. -/
theorem ends_sendTo (setup : Setup) (mode : WriteMode) (target content : Text) (world : World) :
    Ends (sendTo setup mode target content) world
      (fun _ after => after = { world with files := after.files })
      (fun _ after => after = { world with files := after.files }) := by
  have hfiles : ∀ path, Ends (Shell.onFiles (Disk.writeText setup.host mode path content)) world
      (fun _ after => after = { world with files := after.files })
      (fun _ after => after = { world with files := after.files }) := by
    intro path
    unfold Ends Shell.onFiles
    split <;> rename_i hrun <;> split at hrun <;> cases hrun <;> rfl
  simp only [sendTo, Shell.writeTo, Shell.session, ends_bind, ends_get, ends_pure]
  apply (hfiles _).mono_done
  intro outcome after hafter
  cases outcome <;> simpa using hafter

/-- Delivering a reply that does not end the session gives another such reply. -/
theorem ends_deliver_terminate (setup : Setup) (redirection : Option Redirection) {reply : Reply}
    (hreply : reply.terminate = false) (world : World) :
    Ends (Pipeline.deliver setup redirection reply) world
      (fun delivered _ => delivered.terminate = false) (fun _ _ => True) := by
  unfold Pipeline.deliver
  split
  · simp only [ends_bind, ends_pure]
    unfold Ends
    split <;> first | rfl | trivial
  · simp only []
    split <;> exact hreply

/-- A pipeline runs its stages and, unless they end the session, delivers their reply. -/
theorem perform_pipeline (setup : Setup) (registry : Registry) (pipeline : Pipeline)
    (world : World) :
    perform setup registry (.pipeline pipeline) world =
      match Pipeline.runStages registry pipeline.stages {} world with
      | .error escape after => .error escape after
      | .ok reply after =>
          if reply.terminate then
            .ok reply { after with output := after.output ++ [("Exiting...\n" : Text)] }
          else Pipeline.deliver setup pipeline.redirection reply after := by
  cases hrun : Pipeline.runStages registry pipeline.stages {} world with
  | error escape after => exact bind_of_error (bind_of_error hrun)
  | ok reply after =>
      have hexecute : pipeline.execute setup registry world =
          (if reply.terminate then pure reply
            else Pipeline.deliver setup pipeline.redirection reply : Shell Reply) after :=
        bind_of_ok hrun
      cases hterminate : reply.terminate with
      | true =>
          rw [hterminate] at hexecute
          refine (bind_of_ok hexecute).trans ?_
          simp only [hterminate]
          rfl
      | false =>
          rw [hterminate] at hexecute
          have hdelivered := ends_deliver_terminate setup pipeline.redirection hterminate after
          simp only [hterminate, Bool.false_eq_true, if_false] at hexecute ⊢
          cases hdeliver : Pipeline.deliver setup pipeline.redirection reply after with
          | error escape last => exact bind_of_error (hexecute.trans hdeliver)
          | ok delivered last =>
              refine (bind_of_ok (hexecute.trans hdeliver)).trans ?_
              simp only [hdelivered.of_ok hdeliver]
              rfl

/-- A line that asks for something is answered by what performs the request. -/
theorem processLine_of_parse (setup : Setup) (registry : Registry) {line : Text}
    {request : Request} (hparse : parse line = .ok request) (world : World) :
    processLine setup registry line world = (some <$> perform setup registry request) world := by
  have hblank : line.trim.isEmpty = false := by
    cases hempty : line.trim.isEmpty with
    | false => rfl
    | true => simp [parse, hempty] at hparse
  simp only [processLine, hblank, hparse]
  exact congrFun (bind_pure_comp some (perform setup registry request)) world

theorem stagesOf_of_blank {line : Text} (hblank : line.trim = []) : stagesOf line = [{}] := by
  rw [stagesOf, hblank]
  rfl

/-- Delivering a reply to a file is sending its text there. -/
theorem deliver_redirection (setup : Setup) (redirection : Redirection) (reply : Reply) :
    some <$> Pipeline.deliver setup (some redirection) reply =
      sendTo setup redirection.mode redirection.target (Reply.content (some reply)) := by
  simp only [Pipeline.deliver, sendTo, map_bind, map_pure, Reply.content, Option.bind_some]

/-- Delivering a reply to the output shows its text there. -/
theorem deliver_output (setup : Setup) (reply : Reply) (world : World) :
    Pipeline.deliver setup none reply world =
      .ok reply { world with output := world.output ++ Reply.shown (some reply) } := by
  obtain ⟨text, terminate⟩ := reply
  match text with
  | none | some [] => simp [Pipeline.deliver, Reply.shown]; rfl
  | some (first :: rest) => rfl

/-- Where the stages of a request do not end the session, their text is sent to the file from there. -/
theorem processLine_of_redirection (setup : Setup) {registry : Registry} {line : Text}
    {stages : List Stage} {redirection : Redirection} {reply : Reply} {world after : World}
    (hparse : parse line = .ok (.pipeline { stages, redirection := some redirection }))
    (hrun : Pipeline.runStages registry stages {} world = .ok reply after)
    (hterminate : reply.terminate = false) :
    processLine setup registry line world =
      sendTo setup redirection.mode redirection.target (Reply.content (some reply)) after := by
  have hsent := perform_pipeline setup registry { stages, redirection := some redirection } world
  rw [hrun] at hsent
  simp only [hterminate, Bool.false_eq_true, if_false] at hsent
  have hdeliver := congrFun (deliver_redirection setup redirection reply) after
  rw [processLine_of_parse setup registry hparse, ← hdeliver]
  cases hlast : Pipeline.deliver setup (some redirection) reply after with
  | ok delivered last => rw [map_of_ok (hsent.trans hlast), map_of_ok hlast]
  | error escape last => rw [map_of_error (hsent.trans hlast), map_of_error hlast]

/-- Where the stages of a line do not end the session, the line with a redirection behind it sends
their text to the file from there. -/
theorem processLine_redirect_of_runStages (setup : Setup) {registry : Registry} {line : Text}
    (mode : WriteMode) {target : Text} {reply : Reply} {world after : World} (hsign : '>' ∉ line)
    (hcat : line.trim ≠ "cat") (htarget : IsTarget target)
    (hrun : Pipeline.runStages registry (stagesOf line) {} world = .ok reply after)
    (hterminate : reply.terminate = false) :
    processLine setup registry (redirect line mode target) world =
      sendTo setup mode target (Reply.content (some reply)) after := by
  obtain ⟨command, hparse⟩ := parse_redirect mode hsign hcat htarget
  have hsent := processLine_of_redirection setup hparse hrun hterminate
  exact hsent

/-- A line does the same with a redirection behind it, up to its last text: that one goes to the
file instead of the output, as seen from the directory in which the line leaves the session. -/
theorem processLine_redirect (setup : Setup) (registry : Registry) (line : Text) (mode : WriteMode)
    (target : Text) (hsign : '>' ∉ line) (hcat : line.trim ≠ "cat") (htarget : IsTarget target)
    (world : World) :
    Ends (processLine setup registry line) world
      (fun reply after =>
        if (reply.map Reply.terminate).getD false then
          processLine setup registry (redirect line mode target) world = .ok reply after
        else
          ∃ written, after.output = written ++ Reply.shown reply ∧
            processLine setup registry (redirect line mode target) world =
              sendTo setup mode target (Reply.content reply) { after with output := written } ∧
            Ends (processLine setup registry (redirect line mode target)) world
              (fun _ last => last = { after with output := written, files := last.files })
              (fun _ last => last = { after with output := written, files := last.files }))
      (fun escape after =>
        processLine setup registry (redirect line mode target) world = .error escape after) := by
  by_cases hblank : line.trim = []
  · have hplain : processLine setup registry line = pure none := by simp [processLine, hblank]
    have hrun : Pipeline.runStages registry (stagesOf line) {} world = .ok {} world := by
      rw [stagesOf_of_blank hblank]
      rfl
    have hsent := processLine_redirect_of_runStages setup mode hsign hcat
      htarget hrun rfl
    rw [hplain, ends_pure]
    refine ⟨world.output, by simp [Reply.shown], hsent, ?_⟩
    exact (ends_sendTo setup mode target [] world).congr hsent
  · obtain ⟨command, hparse⟩ := parse_redirect mode hsign hcat htarget
    have hplain := perform_pipeline setup registry { stages := stagesOf line } world
    have hsent := perform_pipeline setup registry
      { stages := stagesOf line, redirection := some { target, mode, command } } world
    unfold Ends
    rw [processLine_of_parse setup registry (parse_of_no_sign hsign hblank)]
    cases hrun : Pipeline.runStages registry (stagesOf line) {} world with
    | error escape after =>
        rw [hrun] at hplain hsent
        rw [map_of_error hplain]
        exact (processLine_of_parse setup registry hparse world).trans (map_of_error hsent)
    | ok reply after =>
        rw [hrun] at hplain hsent
        cases hterminate : reply.terminate with
        | true =>
            simp only [hterminate, if_true] at hplain hsent
            rw [map_of_ok hplain]
            simp only [Option.map_some, Option.getD_some, hterminate, if_true]
            exact (processLine_of_parse setup registry hparse world).trans (map_of_ok hsent)
        | false =>
            simp only [hterminate, Bool.false_eq_true, if_false] at hplain
            rw [deliver_output] at hplain
            rw [map_of_ok hplain]
            simp only [Option.map_some, Option.getD_some, hterminate, Bool.false_eq_true, if_false]
            have hsent := processLine_redirect_of_runStages setup mode hsign
              hcat htarget hrun hterminate
            exact ⟨after.output, rfl, hsent, (ends_sendTo setup mode target _ after).congr hsent⟩

section Example

/-- A machine with the usual limits. -/
def plainSetup : Setup := { host := {} }

/-- A session at the root of an empty file system. -/
def freshWorld : World :=
  { files := .empty, session := { directory := "/" }, output := [], reader := .nothing }

theorem processLine_pwd :
    processLine plainSetup (standardRegistry plainSetup) "pwd" freshWorld =
      .ok (some (.say "/\n")) { freshWorld with output := [("/\n" : Text)] } := by
  cbv

/-- With a redirection behind it, a line that tells the current directory writes it to the file. -/
theorem processLine_redirect_pwd :
    '>' ∉ ("pwd" : Text) ∧ Text.trim "pwd" ≠ "cat" ∧ IsTarget "f" ∧
      processLine plainSetup (standardRegistry plainSetup) (redirect "pwd" .append "f") freshWorld =
        sendTo plainSetup .append "f" "/\n" freshWorld := by
  have hsign : '>' ∉ ("pwd" : Text) := by decide
  have hcat : Text.trim "pwd" ≠ "cat" := by decide
  have htarget : IsTarget "f" := by decide
  refine ⟨hsign, hcat, htarget, ?_⟩
  have hredirect := processLine_redirect plainSetup (standardRegistry plainSetup) "pwd" .append "f"
    hsign hcat htarget freshWorld
  obtain ⟨written, houtput, hsent, -⟩ := hredirect.of_ok processLine_pwd
  have hwritten : written = [] := by simpa [Reply.shown, Reply.say] using houtput
  rw [hwritten] at hsent
  exact hsent

end Example

end Interpreter

end LineShell
