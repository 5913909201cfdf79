import LineShell.Proofs.Pipeline.Redirected
import LineShell.Proofs.Text.Parts
import Mathlib

/-!
# What lines are accepted

A line is rejected for one of three reasons: nothing is on it, a capture names no file, or the last
segment redirects to no file.  Any other line is read as a capture into a named file or as stages of
words, one more than there are pipe signs.
-/

namespace LineShell

/-- A stage is made of words, or it is blank. -/
structure Stage.IsFormed (stage : Stage) : Prop where
  blank : stage.name = [] → stage.arguments = []
  name : stage.name ≠ [] → stage.name.IsWord
  arguments : ∀ argument ∈ stage.arguments, argument.IsWord

theorem Stage.isFormed_ofText {text : Text} (hpipe : '|' ∉ text) :
    (Stage.ofText text).IsFormed := by
  have hwords : ∀ word ∈ text.words, word.IsWord := fun _ => Text.isWord_of_mem_words hpipe
  rw [Stage.ofText]
  cases htext : text.words with
  | nil => exact ⟨fun _ => rfl, fun hne => absurd rfl hne, by simp⟩
  | cons name arguments =>
      rw [htext] at hwords
      have hname := hwords name List.mem_cons_self
      exact ⟨fun hblank => absurd hblank hname.1, fun _ => hname,
        fun argument hmem => hwords argument (List.mem_cons_of_mem name hmem)⟩

/-- The words that a stage was made of. -/
def Stage.words (stage : Stage) : List Text :=
  if stage.isBlank then stage.arguments else stage.name :: stage.arguments

theorem Stage.words_ofText (text : Text) : (Stage.ofText text).words = text.words := by
  have hne : ∀ word ∈ text.words, word ≠ [] := fun word hword =>
    (ne_nil_and_not_blank_of_mem_words hword).1
  rw [Stage.ofText]
  cases htext : text.words with
  | nil => rfl
  | cons name arguments =>
      have hname : name ≠ [] := hne name (htext ▸ List.mem_cons_self)
      simp [Stage.words, Stage.isBlank, hname]

namespace Request

/-- The part of a line that can redirect. -/
def lastSegment (line : Text) : Text :=
  line.behindLast '|'

/-- A single segment that begins with a redirection sign and has more than one word behind the last
one. -/
structure IsLiteral (line : Text) : Prop where
  pipe : '|' ∉ line
  sign : ['>'] <+: line
  words : 1 < (line.behindLast '>').words.length

/-- Why a trimmed line is rejected. -/
inductive Rejects : Text → LineFault → Prop
  | empty : Rejects [] .emptyLine
  | capture (mode : WriteMode) {blanks : Text}
      (hblanks : ∀ character ∈ blanks, isBlank character = true) :
      Rejects ("cat " ++ mode.operator ++ blanks) .noHeredocTarget
  | redirection {line : Text} (hstart : ¬ heredocStart <+: line) (hsign : '>' ∈ lastSegment line)
      (hblanks : ∀ character ∈ (lastSegment line).behindLast '>', isBlank character = true) :
      Rejects line .noRedirectionTarget

/-- The stages of a line, the last of them read from a text of its own: there is one more than there
are pipe signs, and each has the words of its segment. -/
structure HasStages (line last : Text) (stages : List Stage) : Prop where
  length : stages.length = line.count '|' + 1
  formed : ∀ stage ∈ stages, stage.IsFormed
  words : stages.map Stage.words = ((Text.splitOn '|' line).dropLast ++ [last]).map Text.words

/-- What a trimmed line is read as. -/
inductive Accepts : Text → Request → Prop
  | capture {body target : Text} (mode : WriteMode)
      (hmode : mode = .overwrite → body.head? ≠ some '>') (hbody : target = body.trim)
      (hne : target ≠ []) (htrim : target.trim = target) :
      Accepts ("cat " ++ mode.operator ++ body) (.heredoc target mode)
  | plain {line : Text} {stages : List Stage} (hstart : ¬ heredocStart <+: line)
      (hsign : '>' ∉ lastSegment line) (hstages : HasStages line (lastSegment line) stages) :
      Accepts line (.pipeline { stages })
  | redirected {line : Text} {stages : List Stage} {redirection : Redirection}
      (hstart : ¬ heredocStart <+: line) (hsign : '>' ∈ lastSegment line)
      (hliteral : ¬ IsLiteral line)
      (hstages : HasStages line ((lastSegment line).beforeFirst '>') stages)
      (hbehind : redirection.target = ((lastSegment line).behindLast '>').trim)
      (htarget : IsTargetText redirection.target)
      (hmode : redirection.mode = .append ↔ (">>" : Text) <:+: (lastSegment line).trim) :
      Accepts line (.pipeline { stages, redirection := some redirection })
  | literal {behind : Text} (mode : WriteMode)
      (hmode : mode = .overwrite → behind.head? ≠ some '>')
      (hliteral : IsLiteral (mode.operator ++ behind)) (hcount : 2 ≤ behind.words.length)
      (hwords : ∀ word ∈ behind.words, word.IsWord) :
      Accepts (mode.operator ++ behind)
        (.pipeline
          { stages :=
              [{ name := mode.operator
                 arguments := behind.words
                 raw := mode.operator ++ behind }] })

section Captures

variable {line : Text}

/-- A capture is an operator with a text behind it, which does not go on with the operator. -/
theorem exists_capture (hstart : heredocStart <+: line) :
    ∃ mode body, line = "cat " ++ WriteMode.operator mode ++ body ∧
      (mode = .overwrite → body.head? ≠ some '>') ∧
      ofHeredoc (line.drop heredocStart.length) =
        if Text.trim body = [] then .error .noHeredocTarget
        else .ok (.heredoc (Text.trim body) mode) := by
  obtain ⟨rest, rfl⟩ := hstart
  rw [List.drop_left]
  cases rest with
  | nil => exact ⟨.overwrite, [], rfl, by simp, rfl⟩
  | cons first more =>
      by_cases hfirst : first = '>'
      · subst hfirst
        refine ⟨.append, more, by simp [heredocStart, WriteMode.operator], by simp, ?_⟩
        simp [ofHeredoc]
      · refine ⟨.overwrite, first :: more, by simp [heredocStart, WriteMode.operator],
          by simpa using hfirst, ?_⟩
        simp [ofHeredoc, hfirst]

/-- The line begins a capture. -/
theorem heredocStart_begins (mode : WriteMode) (body : Text) :
    heredocStart <+: "cat " ++ mode.operator ++ body := by
  cases mode with
  | overwrite => exact List.prefix_append _ _
  | append => exact ⟨'>' :: body, by simp [heredocStart, WriteMode.operator]⟩

theorem parse_of_capture {line : Text} (hstart : heredocStart <+: line.trim) :
    parse line = ofHeredoc (line.trim.drop heredocStart.length) := by
  have hcapture : Text.startsWith line.trim heredocStart = true :=
    List.isPrefixOf_iff_prefix.mpr hstart
  have hempty : line.trim.isEmpty = false := by
    rw [List.isEmpty_eq_false_iff]
    exact hstart.ne_nil (by decide)
  simp [parse, hcapture, hempty]

/-- A capture is rejected just if nothing but blanks follow its operator. -/
theorem rejects_capture_iff {body : Text} (mode : WriteMode)
    (hsign : mode = .overwrite → body.head? ≠ some '>') (fault : LineFault) :
    Rejects ("cat " ++ mode.operator ++ body) fault ↔
      fault = .noHeredocTarget ∧ Text.trim body = [] := by
  constructor
  · intro hrejects
    generalize hline : ("cat " ++ mode.operator ++ body : Text) = line at hrejects
    cases hrejects with
    | empty => simp at hline
    | redirection hstart => exact absurd (hline ▸ heredocStart_begins mode body) hstart
    | capture other hblanks =>
        refine ⟨rfl, ?_⟩
        cases mode <;> cases other <;> simp [WriteMode.operator] at hline
        · exact Text.trim_eq_nil_iff.mpr (hline ▸ hblanks)
        · exact absurd (by rw [hline]; rfl) (hsign rfl)
        · exact absurd (hblanks '>' (hline ▸ List.mem_cons_self)) (by decide)
        · exact Text.trim_eq_nil_iff.mpr (hline ▸ hblanks)
  · rintro ⟨rfl, htrim⟩
    exact .capture mode (Text.trim_eq_nil_iff.mp htrim)

end Captures

section Segments

variable {line : Text}

/-- The stages in front of the last pipe sign. -/
def frontStages (line : Text) : List Stage :=
  ((Text.splitOn '|' line).map Text.trim).dropLast.map Stage.ofText

theorem length_frontStages (line : Text) : (frontStages line).length = line.count '|' := by
  rw [frontStages, List.length_map, List.length_dropLast, List.length_map, Text.splitOn,
    Text.length_splitWhere, Nat.add_sub_cancel, List.count]

theorem isFormed_of_mem_frontStages {stage : Stage} (hstage : stage ∈ frontStages line) :
    stage.IsFormed := by
  obtain ⟨segment, hsegment, rfl⟩ := List.mem_map.mp hstage
  obtain ⟨piece, hpiece, rfl⟩ := List.mem_map.mp (List.mem_of_mem_dropLast hsegment)
  refine Stage.isFormed_ofText fun hpipe => ?_
  simpa using Text.separates_eq_false_of_mem_splitWhere hpiece (Text.mem_of_mem_trim hpipe)

theorem parse_of_not_capture (hne : line.trim ≠ []) (hstart : ¬ heredocStart <+: line.trim) :
    parse line = (ofLastSegment (frontStages line.trim) (lastSegment line.trim).trim).map
      .pipeline := by
  have hcapture : Text.startsWith line.trim heredocStart = false :=
    Bool.eq_false_iff.mpr fun h => hstart (List.isPrefixOf_iff_prefix.mp h)
  have hempty : line.trim.isEmpty = false := by simpa using hne
  have hlast : ((Text.splitOn '|' line.trim).map Text.trim).getLastD [] =
      (lastSegment line.trim).trim := by
    rw [Text.getLastD_map_trim, Text.getLastD_splitOn, lastSegment]
  simp only [parse, hcapture, hempty, hlast, Bool.false_eq_true, if_false, frontStages]

theorem ofLastSegment_of_sign {segment : Text} (before : List Stage) (hsign : '>' ∈ segment) :
    ofLastSegment before segment =
      if (segment.beforeFirst '>').trim = [] ∧ before = [] ∧
          1 < (segment.behindLast '>').words.length then
        .ok { stages := [literalStage segment] }
      else if (segment.behindLast '>').trim = [] then .error .noRedirectionTarget
      else .ok
        { stages := before ++ [Stage.ofText (segment.beforeFirst '>').trim]
          redirection := some
            { target := (segment.behindLast '>').trim
              mode := if Text.includes ">>" segment then .append else .overwrite
              command := (segment.beforeFirst '>').trim } } := by
  have hcontains : segment.contains '>' = true := by simpa using hsign
  simp only [ofLastSegment, hcontains, Bool.not_true, Bool.false_eq_true, if_false,
    Text.headD_splitOn, Text.getLastD_splitOn, Text.words_trim, Bool.and_eq_true,
    List.isEmpty_iff, decide_eq_true_eq, and_assoc]

theorem ofLastSegment_of_no_sign {segment : Text} (before : List Stage) (hsign : '>' ∉ segment) :
    ofLastSegment before segment = .ok { stages := before ++ [Stage.ofText segment] } := by
  have hcontains : segment.contains '>' = false := by simpa using hsign
  simp only [ofLastSegment, hcontains, Bool.not_false, if_true]

theorem frontStages_eq_nil_iff : frontStages line = [] ↔ '|' ∉ line := by
  rw [← List.length_eq_zero_iff, length_frontStages, List.count_eq_zero]

/-- The words of the literal form are asked for by no other line. -/
theorem isLiteral_iff (htrim : line.trim = line) (hsign : '>' ∈ lastSegment line) :
    ((lastSegment line).trim.beforeFirst '>').trim = [] ∧ frontStages line = [] ∧
      1 < ((lastSegment line).trim.behindLast '>').words.length ↔ IsLiteral line := by
  rw [frontStages_eq_nil_iff]
  constructor
  · rintro ⟨hcommand, hpipe, hwords⟩
    have hwhole : lastSegment line = line := Text.behindLast_of_not_mem hpipe
    rw [hwhole] at hsign
    rw [hwhole, htrim] at hcommand hwords
    exact ⟨hpipe, (Text.trim_beforeFirst_eq_nil_iff htrim hsign).mp hcommand, hwords⟩
  · rintro ⟨hpipe, hbegins, hwords⟩
    have hwhole : lastSegment line = line := Text.behindLast_of_not_mem hpipe
    rw [hwhole] at hsign
    rw [hwhole, htrim]
    exact ⟨(Text.trim_beforeFirst_eq_nil_iff htrim hsign).mpr hbegins, hpipe, hwords⟩

/-- The literal form has an operator for its name, and what follows it has no fewer words than what
follows the last sign. -/
theorem accepts_literalStage (hliteral : IsLiteral line) :
    Accepts line (.pipeline { stages := [literalStage line] }) := by
  have harguments : ∀ front behind : Text, line = front ++ '>' :: behind → 2 ≤ behind.words.length ∧
      ∀ argument ∈ behind.words, argument.IsWord := by
    rintro front behind rfl
    have hwords := hliteral.words
    rw [Text.behindLast_append_cons] at hwords
    have hle := Text.length_words_le_of_suffix (List.rtakeWhile_suffix (· != '>') behind)
    refine ⟨le_trans hwords hle,
      fun argument hmem => Text.isWord_of_mem_words (fun hpipe => ?_) hmem⟩
    exact hliteral.pipe (by simp [hpipe])
  -- Taking the operator off takes no word from behind the last sign: that sign is in the operator,
  -- or it stands behind it.
  rw [literalStage]
  split <;> rename_i hstart
  · obtain ⟨behind, rfl⟩ := List.isPrefixOf_iff_prefix.mp hstart
    obtain ⟨hcount, hwords⟩ := harguments ['>'] behind rfl
    exact .literal .append (by simp) hliteral hcount hwords
  · obtain ⟨behind, rfl⟩ := hliteral.sign
    obtain ⟨hcount, hwords⟩ := harguments [] behind rfl
    refine .literal .overwrite (fun _ hhead => hstart ?_) hliteral hcount hwords
    obtain ⟨rest, rfl⟩ := List.head?_eq_some_iff.mp hhead
    exact List.isPrefixOf_iff_prefix.mpr ⟨rest, rfl⟩

/-- Without a capture, a line is rejected just if nothing but blanks follow the last sign of its
last segment. -/
theorem rejects_segments_iff (hne : line ≠ []) (hstart : ¬ heredocStart <+: line)
    (fault : LineFault) :
    Rejects line fault ↔ fault = .noRedirectionTarget ∧ '>' ∈ lastSegment line ∧
      ((lastSegment line).behindLast '>').trim = [] := by
  constructor
  · intro hrejects
    cases hrejects with
    | empty => exact absurd rfl hne
    | capture mode => exact absurd (heredocStart_begins mode _) hstart
    | redirection _ hsign hblanks => exact ⟨rfl, hsign, Text.trim_eq_nil_iff.mpr hblanks⟩
  · rintro ⟨rfl, hsign, htrim⟩
    exact .redirection hstart hsign (Text.trim_eq_nil_iff.mp htrim)

/-- The stages in front, and one made of a text with the words of the last segment. -/
theorem hasStages {last text : Text} (hpipe : '|' ∉ text) (hwords : text.words = last.words) :
    HasStages line last (frontStages line ++ [Stage.ofText text]) where
  length := by rw [List.length_append, length_frontStages, List.length_singleton]
  formed := by
    intro stage hstage
    rcases List.mem_append.mp hstage with hfront | hlast
    · exact isFormed_of_mem_frontStages hfront
    · exact List.mem_singleton.mp hlast ▸ Stage.isFormed_ofText hpipe
  words := by
    simp [frontStages, Stage.words_ofText, Text.words_trim, Function.comp_def, hwords,
      List.map_dropLast]

theorem isTargetText_behindLast {segment : Text} (hpipe : '|' ∉ segment)
    (hne : (segment.behindLast '>').trim ≠ []) : IsTargetText (segment.behindLast '>').trim :=
  ⟨hne, Text.trim_trim _,
    fun hmem => hpipe (Text.mem_of_mem_behindLast (Text.mem_of_mem_trim hmem)),
    fun hmem => Text.not_mem_behindLast '>' segment (Text.mem_of_mem_trim hmem)⟩

theorem pipe_not_mem_lastSegment (line : Text) : '|' ∉ (lastSegment line).trim := fun hmem =>
  Text.not_mem_behindLast '|' line (Text.mem_of_mem_trim hmem)

/-- A segment that redirects to a file: what stands in front of its first sign is the last stage,
and what stands behind its last sign names the file. -/
theorem accepts_redirected {segment : Text} (hstart : ¬ heredocStart <+: line)
    (hsign : '>' ∈ lastSegment line) (hliteral : ¬ IsLiteral line)
    (hsegment : (lastSegment line).trim = segment) (hne : (segment.behindLast '>').trim ≠ []) :
    Accepts line (.pipeline
      { stages := frontStages line ++ [Stage.ofText (segment.beforeFirst '>').trim]
        redirection := some
          { target := (segment.behindLast '>').trim
            mode := if Text.includes ">>" segment then .append else .overwrite
            command := (segment.beforeFirst '>').trim } }) := by
  have hpipe : '|' ∉ segment := hsegment ▸ pipe_not_mem_lastSegment line
  have hcommand : '|' ∉ (segment.beforeFirst '>').trim := fun hmem =>
    hpipe (List.takeWhile_subset _ (Text.mem_of_mem_trim hmem))
  have hwords : (segment.beforeFirst '>').trim.words =
      ((lastSegment line).beforeFirst '>').words := by
    rw [← hsegment, Text.trim_beforeFirst_trim (by decide), Text.words_trim]
  have hbehind : (segment.behindLast '>').trim = ((lastSegment line).behindLast '>').trim := by
    rw [← hsegment, Text.trim_behindLast_trim (by decide)]
  have hmode : (if Text.includes ">>" segment then WriteMode.append else .overwrite) = .append ↔
      (">>" : Text) <:+: (lastSegment line).trim := by
    rw [hsegment, ← Text.includes_iff]
    split <;> simp_all
  exact .redirected hstart hsign hliteral (hasStages hcommand hwords) hbehind
    (isTargetText_behindLast hpipe hne) hmode

end Segments

/-- An answer accounts for a trimmed line: it is the one reason to reject the line, or there is none
and it is what the line may be read as. -/
def Accounts (line : Text) : Except LineFault Request → Prop
  | .error fault => ∀ other, Rejects line other ↔ other = fault
  | .ok request => Accepts line request ∧ ∀ fault, ¬ Rejects line fault

section Accounting

variable {line : Text}

theorem accounts_of_empty (hempty : line.trim = []) : Accounts line.trim (parse line) := by
  rw [parse, hempty]
  intro fault
  constructor
  · intro hrejects
    cases hrejects with
    | empty => rfl
    | redirection _ hsign => exact absurd hsign (by decide)
  · rintro rfl
    exact .empty

theorem accounts_of_capture (hstart : heredocStart <+: line.trim) :
    Accounts line.trim (parse line) := by
  obtain ⟨mode, body, hline, hsign, hparse⟩ := exists_capture hstart
  have hrejects := rejects_capture_iff mode hsign
  rw [← hline] at hrejects
  rw [parse_of_capture hstart, hparse]
  split <;> rename_i htrim
  · intro fault
    rw [hrejects, and_iff_left htrim]
  · rw [hline]
    exact ⟨.capture mode hsign rfl htrim (Text.trim_trim body),
      fun fault hfault => htrim ((hrejects fault).mp (hline ▸ hfault)).2⟩

theorem accounts_of_pipeline {line : Text} {pipeline : Pipeline}
    (haccepts : Accepts line (.pipeline pipeline)) (hnone : ∀ fault, ¬ Rejects line fault) :
    Accounts line ((Except.ok pipeline).map .pipeline) :=
  ⟨haccepts, hnone⟩

theorem IsLiteral.not_rejects (hliteral : IsLiteral line) (fault : LineFault) :
    ¬ Rejects line fault := by
  have hblanks : ¬ ∀ character ∈ line.behindLast '>', isBlank character = true := by
    intro hblanks
    have hwords := hliteral.words
    rw [Text.words_eq_nil_of_blank hblanks] at hwords
    simp at hwords
  intro hrejects
  cases hrejects with
  | empty => exact absurd hliteral.sign (by decide)
  | capture mode => exact absurd hliteral.sign (by simp)
  | redirection _ _ hempty =>
      rw [lastSegment, Text.behindLast_of_not_mem hliteral.pipe] at hempty
      exact hblanks hempty

/-- A last segment with a redirection sign is literal words, redirects to a file or names none. -/
theorem accounts_of_sign {segment : Text} (htrim : line.trim = line) (hne : line ≠ [])
    (hstart : ¬ heredocStart <+: line) (hsign : '>' ∈ lastSegment line)
    (hsegment : (lastSegment line).trim = segment) :
    Accounts line ((ofLastSegment (frontStages line) segment).map .pipeline) := by
  have hform := isLiteral_iff htrim hsign
  have hrejects := rejects_segments_iff hne hstart
  have hmem : '>' ∈ segment := hsegment ▸ (Text.mem_trim_iff (by decide)).mpr hsign
  simp only [← Text.trim_behindLast_trim (by decide : isBlank '>' = false) (lastSegment line),
    hsegment] at hform hrejects
  rw [ofLastSegment_of_sign _ hmem]
  by_cases hliteral : IsLiteral line
  · have hwhole : segment = line := by
      rw [← hsegment, lastSegment, Text.behindLast_of_not_mem hliteral.pipe, htrim]
    rw [if_pos (hform.mpr hliteral), hwhole]
    exact accounts_of_pipeline (accepts_literalStage hliteral) hliteral.not_rejects
  · rw [if_neg (mt hform.mp hliteral)]
    by_cases hblank : (segment.behindLast '>').trim = []
    · rw [if_pos hblank]
      intro fault
      rw [hrejects, and_iff_left ⟨hsign, hblank⟩]
    · rw [if_neg hblank]
      exact accounts_of_pipeline (accepts_redirected hstart hsign hliteral hsegment hblank)
        fun fault hfault => hblank ((hrejects fault).mp hfault).2.2

theorem accounts_of_no_sign {segment : Text} (hne : line ≠ []) (hstart : ¬ heredocStart <+: line)
    (hsign : '>' ∉ lastSegment line) (hsegment : (lastSegment line).trim = segment) :
    Accounts line ((ofLastSegment (frontStages line) segment).map .pipeline) := by
  have hmem : '>' ∉ segment := fun h => hsign (Text.mem_of_mem_trim (hsegment ▸ h))
  have hpipe : '|' ∉ segment := hsegment ▸ pipe_not_mem_lastSegment line
  rw [ofLastSegment_of_no_sign _ hmem]
  have hwords : segment.words = (lastSegment line).words := by rw [← hsegment, Text.words_trim]
  exact accounts_of_pipeline (.plain hstart hsign (hasStages hpipe hwords))
    fun fault hfault => hsign ((rejects_segments_iff hne hstart fault).mp hfault).2.1

/-- What the answer to any line accounts for. -/
theorem accounts_parse (line : Text) : Accounts line.trim (parse line) := by
  by_cases hempty : line.trim = []
  · exact accounts_of_empty hempty
  · by_cases hstart : heredocStart <+: line.trim
    · exact accounts_of_capture hstart
    · rw [parse_of_not_capture hempty hstart]
      by_cases hsign : '>' ∈ lastSegment line.trim
      · exact accounts_of_sign (Text.trim_trim line) hempty hstart hsign rfl
      · exact accounts_of_no_sign hempty hstart hsign rfl

end Accounting

/-- A line that is rejected leaves at most one line of output behind. -/
theorem processLine_of_fault (setup : Setup) (registry : Registry) {line : Text} {fault : LineFault}
    (hparse : parse line = .error fault) (world : World) :
    Interpreter.processLine setup registry line world = .ok none
      { world with
        output := world.output ++ if line.trim = [] then [] else [fault.message ++ "\n"] } := by
  by_cases hempty : line.trim = []
  · have hquiet : Interpreter.processLine setup registry line = pure none := by
      simp [Interpreter.processLine, hempty]
    rw [hquiet, if_pos hempty, List.append_nil]
    rfl
  · have htold : Interpreter.processLine setup registry line = do
        Shell.write (fault.message ++ "\n")
        return none := by
      simp [Interpreter.processLine, hempty, hparse]
    rw [htold, if_neg hempty]
    rfl

/-- Each line is rejected for just the reason that it has, and read as what is on it if it has none;
and a line that is rejected changes nothing but the output, by one line if anything is on it. -/
theorem parse_accounts (line : Text) :
    (∀ fault, parse line = .error fault ↔ Rejects line.trim fault) ∧
    ((∀ fault, ¬ Rejects line.trim fault) →
      ∃ request, parse line = .ok request ∧ Accepts line.trim request) ∧
    (∀ fault, Rejects line.trim fault → '\n' ∉ fault.message ∧
      ∀ setup registry world, Interpreter.processLine setup registry line world = .ok none
        { world with
          output := world.output ++ if line.trim = [] then [] else [fault.message ++ "\n"] }) := by
  have haccounts := accounts_parse line
  have herror : ∀ fault, parse line = .error fault ↔ Rejects line.trim fault := by
    intro fault
    cases hparse : parse line with
    | error other =>
        rw [hparse] at haccounts
        rw [haccounts fault, Except.error.injEq, eq_comm]
    | ok request =>
        rw [hparse] at haccounts
        exact iff_of_false (by simp) (haccounts.2 fault)
  refine ⟨herror, fun hnone => ?_, fun fault hrejects => ⟨?_, fun setup registry world =>
    processLine_of_fault setup registry ((herror fault).mpr hrejects) world⟩⟩
  · cases hparse : parse line with
    | error fault => exact absurd ((herror fault).mp hparse) (hnone fault)
    | ok request =>
        rw [hparse] at haccounts
        exact ⟨request, rfl, haccounts.1⟩
  · cases fault <;> decide

/-- Of two lines one is read, as words to be written, and one is rejected, since its last segment
names no file. -/
theorem parse_accounts_signs :
    (∃ request, parse " > > a b" = .ok request ∧ Accepts (Text.trim " > > a b") request) ∧
      Rejects (Text.trim "a > b | c > ") .noRedirectionTarget ∧
      ∀ setup registry world, Interpreter.processLine setup registry "a > b | c > " world = .ok none
        { world with
          output := world.output ++ [("Missing file name for redirection\n" : Text)] } := by
  have hread : ∃ request, parse " > > a b" = .ok request := ⟨_, rfl⟩
  have hfault : parse "a > b | c > " = .error .noRedirectionTarget := by rfl
  obtain ⟨hreasons, haccepts, -⟩ := parse_accounts " > > a b"
  obtain ⟨hreasons', -, hrejected⟩ := parse_accounts "a > b | c > "
  have hrejects := (hreasons' _).mp hfault
  refine ⟨haccepts fun fault hrejects => ?_, hrejects, (hrejected _ hrejects).2⟩
  obtain ⟨request, hread⟩ := hread
  have herror := (hreasons fault).mpr hrejects
  rw [hread] at herror
  cases herror

end Request

end LineShell
