import LineShell.Proofs.Command.Registration
import LineShell.Proofs.Pipeline.Accepted
import LineShell.Proofs.Session.CommandAnswers
import LineShell.Proofs.Text.LetterCase

/-!
# Command names in any case

A line may be typed with the names of its commands in capital or small letters: what it does is the
same.  The two spellings are split into stages alike, each stage is looked up and run by the small
form of its name, and nothing else of a line depends on how a name was typed.
-/

namespace LineShell

open Text (SameLetters)

/-! ### Spellings of a line -/

/-- A segment is another one but for the case of its first word, which leads to a command.  What
ends the word is a character of some class. -/
inductive Recased (registry : Registry) (ends : Char → Bool) : Text → Text → Prop where
  | same (segment : Text) : Recased registry ends segment segment
  | word {blanks word word' rest : Text}
      (hblanks : ∀ character ∈ blanks, isBlank character = true) (hne : word ≠ [])
      (hword : ∀ character ∈ word, isBlank character = false)
      (hrest : ∀ first ∈ rest.head?, ends first = true) (hletters : SameLetters word word')
      (hname : registry.contains word = true) :
      Recased registry ends (blanks ++ word ++ rest) (blanks ++ word' ++ rest)

/-- A redirection sign ends a word as blanks do, in the segment that can redirect. -/
def endsCommand (character : Char) : Bool :=
  isBlank character || character == '>'

/-- A line is another one but for the case of the first words of its segments, each of which leads to
a command. -/
def RecasedLine (registry : Registry) (line line' : Text) : Prop :=
  ∃ front last front' last', Text.splitOn '|' line = front ++ [last] ∧
    Text.splitOn '|' line' = front' ++ [last'] ∧
    List.Forall₂ (Recased registry isBlank) front front' ∧ Recased registry endsCommand last last'

/-! ### Spellings of a pipeline -/

/-- Two stages are the same but for the case of a name that leads to a command, and what was typed.
-/
def Stage.Alike (registry : Registry) (stage stage' : Stage) : Prop :=
  stage = stage' ∨ stage.name ≠ [] ∧ SameLetters stage.name stage'.name ∧
    stage.arguments = stage'.arguments ∧ registry.contains stage.name = true

/-- Where a redirection sends text, and how. -/
def Redirection.sink (redirection : Redirection) : Text × WriteMode :=
  (redirection.target, redirection.mode)

/-- Two pipelines have the same stages, and send their text to the same place. -/
structure Pipeline.Alike (registry : Registry) (pipeline pipeline' : Pipeline) : Prop where
  stages : List.Forall₂ (Stage.Alike registry) pipeline.stages pipeline'.stages
  sink : pipeline.redirection.map (·.sink) = pipeline'.redirection.map (·.sink)

/-- Two lines ask for the same pipeline, or are rejected for the same reason. -/
inductive Request.Alike (registry : Registry) :
    Except LineFault Request → Except LineFault Request → Prop where
  | fault (fault : LineFault) : Alike registry (.error fault) (.error fault)
  | pipeline {pipeline pipeline' : Pipeline} (h : pipeline.Alike registry pipeline') :
      Alike registry (.ok (.pipeline pipeline)) (.ok (.pipeline pipeline'))

variable {registry : Registry} {setup : Setup}

namespace Pipeline

theorem runStage_congr {stage stage' : Stage} (h : stage.Alike registry stage')
    (piped : Option Text) : runStage registry stage piped = runStage registry stage' piped := by
  rcases h with rfl | ⟨hne, hletters, harguments, hname⟩
  · rfl
  have hblank : stage.isBlank = false := by simpa [Stage.isBlank] using hne
  have hblank' : stage'.isBlank = false := by simpa [Stage.isBlank] using hletters.ne_nil hne
  obtain ⟨group, hgroup⟩ := Option.isSome_iff_exists.mp hname
  have hgroup' := (Registry.find?_congr hletters.lower_eq).symm.trans hgroup
  rw [runStage, runStage, hblank, hblank', Registry.dispatch, Registry.dispatch]
  simp only [Bool.false_eq_true, if_false, hgroup, hgroup', hletters.lower_eq, harguments]

theorem runStages_congr {stages stages' : List Stage}
    (h : List.Forall₂ (Stage.Alike registry) stages stages') (reply : Reply) :
    runStages registry stages reply = runStages registry stages' reply := by
  induction h generalizing reply with
  | nil => rfl
  | cons hstage _ ih =>
      rw [runStages, runStages, runStage_congr hstage]
      simp only [ih]

theorem deliver_congr {redirection redirection' : Option Redirection}
    (h : redirection.map (·.sink) = redirection'.map (·.sink)) (reply : Reply) :
    deliver setup redirection reply = deliver setup redirection' reply := by
  cases redirection with
  | none =>
      obtain rfl := Option.map_eq_none_iff.mp h.symm
      rfl
  | some sent =>
      obtain ⟨sent', rfl, hsink⟩ := Option.map_eq_some_iff.mp h.symm
      obtain ⟨htarget, hmode⟩ := Prod.mk.inj hsink
      rw [deliver, deliver, htarget, hmode]

/-- What a pipeline does is told by its stages, whose names may be typed in any case, and by where it
sends its text. -/
theorem execute_eq_of_alike {pipeline pipeline' : Pipeline} (h : pipeline.Alike registry pipeline') :
    pipeline.execute setup registry = pipeline'.execute setup registry := by
  rw [execute, execute, runStages_congr h.stages]
  simp only [deliver_congr h.sink]

end Pipeline

/-! ### Reading a line -/

theorem Stage.ofText_trim (text : Text) : ofText text.trim = ofText text := by
  rw [ofText, ofText, Text.words_trim, Text.trim_trim]

namespace Request

/-- A word in front of a text is the name of its stage, in any case. -/
theorem alike_ofText {word word' tail : Text} (hne : word ≠ [])
    (hword : ∀ character ∈ word, isBlank character = false) (hletters : SameLetters word word')
    (hname : registry.contains word = true) (htail : ∀ first ∈ tail.head?, isBlank first = true) :
    (Stage.ofText (word ++ tail)).Alike registry (Stage.ofText (word' ++ tail)) := by
  have hwords := Text.words_append_word hne hword htail
  have hwords' := Text.words_append_word (hletters.ne_nil hne) (hletters.not_isBlank hword) htail
  rw [Stage.ofText, Stage.ofText, hwords, hwords']
  exact .inr ⟨hne, hletters, rfl, hname⟩

/-- A segment in front of the last one makes the same stage in any case. -/
theorem alike_of_recased {segment segment' : Text} (h : Recased registry isBlank segment segment') :
    (Stage.ofText segment.trim).Alike registry (Stage.ofText segment'.trim) := by
  cases h with
  | same => exact .inl rfl
  | @word blanks word word' rest hblanks hne hword hrest hletters hname =>
      rw [Text.trim_append_word hblanks hne hword,
        Text.trim_append_word hblanks (hletters.ne_nil hne) (hletters.not_isBlank hword)]
      exact alike_ofText hne hword hletters hname fun first hfirst =>
        hrest first (Text.head?_trimEndWhere hfirst)

theorem forall₂_alike_refl (stages : List Stage) :
    List.Forall₂ (Stage.Alike registry) stages stages :=
  List.forall₂_same.mpr fun _ _ => .inl rfl

/-- Two last segments make the same stage and redirect alike. -/
structure AlikeSegments (registry : Registry) (segment segment' : Text) : Prop where
  stage : (Stage.ofText (segment.beforeFirst '>').trim).Alike registry
    (Stage.ofText (segment'.beforeFirst '>').trim)
  sign : '>' ∈ segment ↔ '>' ∈ segment'
  target : '>' ∈ segment → segment.behindLast '>' = segment'.behindLast '>'
  mode : Text.includes ">>" segment = Text.includes ">>" segment'
  same : (segment.beforeFirst '>').trim = [] ∨ (segment'.beforeFirst '>').trim = [] →
    segment = segment'

theorem AlikeSegments.refl (registry : Registry) (segment : Text) :
    AlikeSegments registry segment segment :=
  ⟨.inl rfl, Iff.rfl, fun _ => rfl, rfl, fun _ => rfl⟩

/-- A word in front of a text may stand there in any case. -/
theorem alikeSegments_append {word word' tail : Text} (hne : word ≠ [])
    (hword : ∀ character ∈ word, isBlank character = false) (hsign : '>' ∉ word)
    (hletters : SameLetters word word') (hname : registry.contains word = true)
    (htail : ∀ first ∈ tail.head?, endsCommand first = true) :
    AlikeSegments registry (word ++ tail) (word' ++ tail) := by
  have hsign' : '>' ∉ word' := fun hmem => hsign (hletters.mem_of_mem (by decide) hmem)
  have hbefore : ∀ first ∈ (Text.beforeFirst '>' tail).head?, isBlank first = true := by
    intro first hfirst
    cases tail with
    | nil => cases hfirst
    | cons head rest =>
        have hends := htail head rfl
        rw [Text.beforeFirst, List.takeWhile_cons] at hfirst
        split at hfirst
        · obtain rfl := Option.some.inj hfirst
          rename_i hother
          rcases (Bool.or_eq_true _ _).mp hends with hblank | hsign
          · exact hblank
          · exact absurd (beq_iff_eq.mp hsign) (bne_iff_ne.mp hother)
        · cases hfirst
  have hcommand : ∀ {word : Text}, word ≠ [] → (∀ character ∈ word, isBlank character = false) →
      '>' ∉ word → (Text.beforeFirst '>' (word ++ tail)).trim ≠ [] := by
    intro word hne hword hsign hnil
    have htrim := Text.trim_append_word (List.forall_mem_nil _) hne hword (Text.beforeFirst '>' tail)
    rw [Text.beforeFirst_append hsign] at hnil
    rw [List.nil_append, hnil] at htrim
    exact hne (List.append_eq_nil_iff.mp htrim.symm).1
  refine ⟨?_, ?_, fun hmem => ?_, ?_, ?_⟩
  · rw [Text.beforeFirst_append hsign, Text.beforeFirst_append hsign', Stage.ofText_trim,
      Stage.ofText_trim]
    exact alike_ofText hne hword hletters hname hbefore
  · rw [List.mem_append, List.mem_append, or_iff_right hsign, or_iff_right hsign']
  · have htail := (List.mem_append.mp hmem).resolve_left hsign
    rw [Text.behindLast_append word htail, Text.behindLast_append word' htail]
  · exact (Text.includes_append hsign tail).trans (Text.includes_append hsign' tail).symm
  · rintro (hnil | hnil)
    · exact absurd hnil (hcommand hne hword hsign)
    · exact absurd hnil (hcommand (hletters.ne_nil hne) (hletters.not_isBlank hword) hsign')

/-- What the last segment asks for does not depend on the case of the names. -/
theorem alike_ofLastSegment {before before' : List Stage} {segment segment' : Text}
    (hbefore : List.Forall₂ (Stage.Alike registry) before before')
    (h : AlikeSegments registry segment segment') :
    Alike registry ((ofLastSegment before segment).map .pipeline)
      ((ofLastSegment before' segment').map .pipeline) := by
  have hnil : before = [] ↔ before' = [] := by
    rw [← List.length_eq_zero_iff, ← List.length_eq_zero_iff, hbefore.length_eq]
  by_cases hsign : '>' ∈ segment
  · rw [ofLastSegment_of_sign before hsign, ofLastSegment_of_sign before' (h.sign.mp hsign),
      ← h.target hsign, ← h.mode]
    by_cases hliteral : (segment.beforeFirst '>').trim = [] ∧ before = [] ∧
        1 < (segment.behindLast '>').words.length
    · obtain rfl := h.same (.inl hliteral.1)
      rw [if_pos hliteral, if_pos ⟨hliteral.1, hnil.mp hliteral.2.1, hliteral.2.2⟩]
      exact .pipeline ⟨forall₂_alike_refl _, rfl⟩
    · have hliteral' : ¬ ((segment'.beforeFirst '>').trim = [] ∧ before' = [] ∧
          1 < (segment.behindLast '>').words.length) := by
        rintro ⟨hempty, hnone, hwords⟩
        obtain rfl := h.same (.inr hempty)
        exact hliteral ⟨hempty, hnil.mpr hnone, hwords⟩
      rw [if_neg hliteral, if_neg hliteral']
      split
      · exact .fault _
      · exact .pipeline ⟨List.rel_append hbefore (.cons h.stage .nil), rfl⟩
  · have hwhole : ∀ {text : Text}, '>' ∉ text → Text.beforeFirst '>' text = text := fun hmem =>
      List.takeWhile_eq_self_iff.mpr fun _ hother => bne_iff_ne.mpr fun heq => hmem (heq ▸ hother)
    have hsign' := mt h.sign.mpr hsign
    have hstage := h.stage
    rw [hwhole hsign, hwhole hsign', Stage.ofText_trim, Stage.ofText_trim] at hstage
    rw [ofLastSegment_of_no_sign before hsign, ofLastSegment_of_no_sign before' hsign']
    exact .pipeline ⟨List.rel_append hbefore (.cons hstage .nil), rfl⟩

/-- A line that begins no capture is read segment by segment. -/
theorem parse_of_segments {line last : Text} {front : List Text} (hne : line.trim ≠ [])
    (hstart : ¬ heredocStart <+: line.trim) (hsplit : Text.splitOn '|' line = front ++ [last]) :
    parse line =
      (ofLastSegment (front.map fun segment => Stage.ofText segment.trim) last.trim).map
        .pipeline := by
  have hpipe : isBlank '|' = false := by decide
  have hlast : (lastSegment line.trim).trim = last.trim := by
    rw [lastSegment, Text.trim_behindLast_trim hpipe, ← Text.getLastD_splitOn, hsplit]
    simp
  have hfront : frontStages line.trim = front.map fun segment => Stage.ofText segment.trim := by
    rw [frontStages, Text.map_trim_splitOn_trim hpipe, hsplit]
    simp
  rw [parse_of_not_capture hne hstart, hfront, hlast]

end Request

section Lines

variable {line line' : Text}

theorem Recased.symm {ends : Char → Bool} {segment segment' : Text}
    (h : Recased registry ends segment segment') : Recased registry ends segment' segment := by
  cases h with
  | same => exact .same _
  | word hblanks hne hword hrest hletters hname =>
      refine .word hblanks (hletters.ne_nil hne) (hletters.not_isBlank hword) hrest hletters.symm ?_
      rw [Registry.contains, ← Registry.find?_congr hletters.lower_eq]
      exact hname

theorem RecasedLine.symm (h : RecasedLine registry line line') : RecasedLine registry line' line := by
  obtain ⟨front, last, front', last', hsplit, hsplit', hfront, hlast⟩ := h
  exact ⟨front', last', front, last, hsplit', hsplit, (hfront.imp fun _ _ h => h.symm).flip,
    hlast.symm⟩

/-- There is no name on a blank line. -/
theorem RecasedLine.eq_of_blank (h : RecasedLine registry line line') (hblank : line.trim = []) :
    line = line' := by
  obtain ⟨front, last, front', last', hsplit, hsplit', hfront, hlast⟩ := h
  have hblank := Text.trim_eq_nil_iff.mp hblank
  have hwhole : Text.splitOn '|' line = [] ++ [line] :=
    Text.splitOn_of_not_mem fun hmem => absurd (hblank '|' hmem) (by decide)
  obtain ⟨rfl, hsame⟩ := List.append_inj' (hsplit.symm.trans hwhole) rfl
  obtain rfl := List.singleton_inj.mp hsame
  obtain rfl := List.forall₂_nil_left_iff.mp hfront
  have hjoined := Text.joinWith_splitOn '|' line'
  rw [hsplit', List.nil_append, Text.joinWith, List.intercalate_singleton] at hjoined
  rw [← hjoined]
  cases hlast with
  | same => rfl
  | @word blanks word word' rest _ hne hword =>
      obtain ⟨first, more, rfl⟩ := List.exists_cons_of_ne_nil hne
      have hfirst := hblank first (by simp)
      rw [hword first List.mem_cons_self] at hfirst
      cases hfirst

end Lines

/-! ### Running a line -/

/-- A standard command whose name has a redirection sign in it has no letters in its name. -/
theorem not_isLetter_of_sign (setup : Setup) {word : Text}
    (hname : (standardRegistry setup).contains word = true) (hsign : '>' ∈ word) :
    ∀ character ∈ word, ¬ Text.IsLetter character := by
  have hsigns : ∀ spec ∈ standardCommands, '>' ∈ spec.name →
      spec.name = ">" ∨ spec.name = ">>" := by
    decide +kernel
  intro character hmem hletter
  obtain ⟨group, hgroup⟩ := Option.isSome_iff_exists.mp hname
  obtain ⟨hgroup, spec, hspec, hlower⟩ := Registry.enters_of_find? hgroup
  have hspec := mem_standardCommands hgroup hspec
  have hlower : spec.name = word.lower :=
    (lower_name_of_mem_standardCommands spec hspec).symm.trans hlower
  have hsmall := Text.mem_lower hletter.ascii hmem
  have hother : '>' ∈ word.lower := Text.mem_lower (by decide) hsign
  rw [← hlower] at hsmall hother
  have hsame : character.toLower = '>' := by
    rcases hsigns spec hspec hother with heq | heq
    · simpa [heq] using hsmall
    · simpa [heq] using hsmall
  have hcode : character.toLower.toNat = 0x3E := congrArg Char.toNat hsame
  rw [Text.toNat_toLower] at hcode
  unfold Text.IsLetter at hletter
  split at hcode <;> omega

namespace Request

theorem alikeSegments_of_recased {setup : Setup} {segment segment' : Text}
    (h : Recased (standardRegistry setup) endsCommand segment segment') :
    AlikeSegments (standardRegistry setup) segment.trim segment'.trim := by
  cases h with
  | same => exact .refl _ _
  | @word blanks word word' rest hblanks hne hword hrest hletters hname =>
      by_cases hsign : '>' ∈ word
      · obtain rfl := hletters.symm.eq_of_not_isLetter (not_isLetter_of_sign setup hname hsign)
        exact .refl _ _
      · rw [Text.trim_append_word hblanks hne hword,
          Text.trim_append_word hblanks (hletters.ne_nil hne) (hletters.not_isBlank hword)]
        exact alikeSegments_append hne hword hsign hletters hname fun first hfirst =>
          hrest first (Text.head?_trimEndWhere hfirst)

/-- Two spellings of a line ask for the same, or are rejected for the same reason. -/
theorem alike_parse {line line' : Text} (hne : line.trim ≠ []) (hne' : line'.trim ≠ [])
    (hline : ¬ heredocStart <+: line.trim) (hline' : ¬ heredocStart <+: line'.trim)
    (h : RecasedLine (standardRegistry setup) line line') :
    Alike (standardRegistry setup) (parse line) (parse line') := by
  obtain ⟨front, last, front', last', hsplit, hsplit', hfront, hlast⟩ := h
  rw [parse_of_segments hne hline hsplit, parse_of_segments hne' hline' hsplit']
  refine alike_ofLastSegment ?_ (alikeSegments_of_recased hlast)
  rw [List.forall₂_map_left_iff, List.forall₂_map_right_iff]
  exact hfront.imp fun _ _ => alike_of_recased

end Request

namespace Interpreter

/-- A line does the same in every world however the names of its commands are typed. -/
theorem processLine_recased (setup : Setup) {line line' : Text}
    (hline : ¬ Request.heredocStart <+: line.trim) (hline' : ¬ Request.heredocStart <+: line'.trim)
    (h : RecasedLine (standardRegistry setup) line line') :
    processLine setup (standardRegistry setup) line =
      processLine setup (standardRegistry setup) line' := by
  by_cases hblank : line.trim = []
  · rw [h.eq_of_blank hblank]
  by_cases hblank' : line'.trim = []
  · rw [h.symm.eq_of_blank hblank']
  have hasks := Request.alike_parse hblank hblank' hline hline' h
  have hempty : line.trim.isEmpty = false := by simpa using hblank
  have hempty' : line'.trim.isEmpty = false := by simpa using hblank'
  rw [processLine, processLine, hempty, hempty']
  simp only [Bool.false_eq_true, if_false]
  generalize Request.parse line = asked at hasks
  generalize Request.parse line' = asked' at hasks
  cases hasks with
  | fault => rfl
  | pipeline hpipeline => simp only [perform, Pipeline.execute_eq_of_alike hpipeline]

section Example

theorem recased_listing : Recased (standardRegistry { host := {} }) isBlank " LS -a " " ls -a " := by
  have hblanks : ∀ character ∈ [' '], isBlank character = true := by simp
  have hword : ∀ character ∈ ['L', 'S'], isBlank character = false := by simp [isBlank]
  have hletters : SameLetters ['L', 'S'] ['l', 's'] := .cons rfl (.cons rfl .nil)
  have hrest : ∀ first ∈ List.head? (" -a " : Text), isBlank first = true := by simp
  exact .word hblanks (by simp) hword hrest hletters (by decide +kernel)

theorem recased_showing : Recased (standardRegistry { host := {} }) endsCommand "Cat>F" "cat>F" := by
  have hword : ∀ character ∈ ['C', 'a', 't'], isBlank character = false := by simp [isBlank]
  have hletters : SameLetters ['C', 'a', 't'] ['c', 'a', 't'] :=
    .cons rfl (.cons rfl (.cons rfl .nil))
  have hrest : ∀ first ∈ List.head? (">F" : Text), endsCommand first = true := by
    simp [endsCommand]
  exact .word (List.forall_mem_nil _) (by simp) hword hrest hletters (by decide +kernel)

/-- The name in front of a pipe sign and the one in front of a redirection sign may be typed in any
case. -/
theorem processLine_recased_listing :
    ¬ Request.heredocStart <+: Text.trim " LS -a |Cat>F" ∧
      ¬ Request.heredocStart <+: Text.trim " ls -a |cat>F" ∧
      processLine { host := {} } (standardRegistry { host := {} }) " LS -a |Cat>F" =
        processLine { host := {} } (standardRegistry { host := {} }) " ls -a |cat>F" := by
  have hline : ¬ Request.heredocStart <+: Text.trim " LS -a |Cat>F" := by decide
  have hline' : ¬ Request.heredocStart <+: Text.trim " ls -a |cat>F" := by decide
  refine ⟨hline, hline', processLine_recased _ hline hline' ?_⟩
  exact ⟨[" LS -a "], "Cat>F", [" ls -a "], "cat>F", rfl, rfl, .cons recased_listing .nil,
    recased_showing⟩

end Example

end Interpreter

end LineShell
