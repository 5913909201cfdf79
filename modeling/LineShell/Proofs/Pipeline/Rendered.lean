import LineShell.Proofs.Pipeline.Redirected

/-!
# Reading back a rendered line

A line that is put together from words, pipe signs and one redirection at its end is read as what it
was put together from.  Three kinds of line mean something else: nothing at all, a bare `cat` with a
redirection, and nothing but a redirection to several words.
-/

namespace LineShell

namespace Request

/-- The words of the stages of a line, and the redirection at its end. -/
structure Typed where
  stages : List (List Text)
  redirection : Option (WriteMode × Text) := none
  deriving DecidableEq

namespace Typed

/-- The text of a stage. -/
def stageText (tokens : List Text) : Text :=
  Text.joinWith " " tokens

/-- The stages with pipe signs in between. -/
def body (typed : Typed) : Text :=
  Text.joinWith " | " (typed.stages.map stageText)

/-- The line as it is typed. -/
def render (typed : Typed) : Text :=
  match typed.redirection with
  | none => typed.body
  | some (mode, target) => redirect typed.body mode target

/-- The stage that some words are read as; no words are a blank stage. -/
def stage (tokens : List Text) : Stage where
  name := tokens.headD []
  arguments := tokens.tail
  raw := stageText tokens

/-- What the line is to be read as. -/
def pipeline (typed : Typed) : Pipeline where
  stages := typed.stages.map stage
  redirection := typed.redirection.map fun (mode, target) =>
    { target, mode, command := stageText (typed.stages.getLastD []) }

/-- There is a stage, its words are like a target of one word, and the target is one. -/
structure WellFormed (typed : Typed) : Prop where
  stages_ne_nil : typed.stages ≠ []
  tokens : ∀ tokens ∈ typed.stages, ∀ token ∈ tokens, IsTarget token
  target : ∀ mode target, typed.redirection = some (mode, target) → IsTargetText target

/-- The lines that mean something else. -/
inductive Excepted : Typed → Prop
  /-- Nothing at all. -/
  | empty : Excepted { stages := [[]] }
  /-- The beginning of a capture. -/
  | capture (mode : WriteMode) (target : Text) :
      Excepted { stages := [["cat"]], redirection := some (mode, target) }
  /-- Words to be written. -/
  | words (mode : WriteMode) (target : Text) (hmany : 1 < target.words.length) :
      Excepted { stages := [[]], redirection := some (mode, target) }

section Stages

variable {typed : Typed} {tokens : List Text}

theorem words_stageText (htokens : ∀ token ∈ tokens, IsTarget token) :
    (stageText tokens).words = tokens :=
  Text.words_joinWith fun token hmem =>
    ⟨(htokens token hmem).1, fun character h => ((htokens token hmem).2 character h).1⟩

theorem trim_stageText (htokens : ∀ token ∈ tokens, IsTarget token) :
    (stageText tokens).trim = stageText tokens :=
  Text.trim_joinWith fun token hmem =>
    ⟨(htokens token hmem).1, fun character h => ((htokens token hmem).2 character h).1⟩

theorem ofText_stageText (htokens : ∀ token ∈ tokens, IsTarget token) :
    Stage.ofText (stageText tokens) = stage tokens := by
  rw [Stage.ofText, words_stageText htokens, trim_stageText htokens]
  cases tokens <;> rfl

/-- Neither sign is in the words of a stage. -/
theorem not_mem_stageText (htokens : ∀ token ∈ tokens, IsTarget token) :
    '|' ∉ stageText tokens ∧ '>' ∉ stageText tokens := by
  constructor <;> intro hmem
  · rcases Text.mem_of_mem_joinWith hmem with hspace | ⟨token, htoken, h⟩
    · exact absurd hspace (by decide)
    · exact ((htokens token htoken).2 _ h).2.1 rfl
  · rcases Text.mem_of_mem_joinWith hmem with hspace | ⟨token, htoken, h⟩
    · exact absurd hspace (by decide)
    · exact ((htokens token htoken).2 _ h).2.2 rfl

/-- The only signs between the stages are pipe signs. -/
theorem WellFormed.sign_not_mem_body (hformed : typed.WellFormed) : '>' ∉ typed.body := by
  intro hmem
  rcases Text.mem_of_mem_joinWith hmem with hbetween | ⟨text, htext, h⟩
  · exact absurd hbetween (by decide)
  · obtain ⟨tokens, htokens, rfl⟩ := List.mem_map.mp htext
    exact (not_mem_stageText (hformed.tokens tokens htokens)).2 h

/-- What stands between the pipe signs of some texts is the texts. -/
theorem map_trim_splitOn_joinWith {texts : List Text} (hne : texts ≠ [])
    (htexts : ∀ text ∈ texts, '|' ∉ text ∧ text.trim = text) :
    (Text.splitOn '|' (Text.joinWith " | " texts)).map Text.trim = texts := by
  have hpipe : isBlank '|' = false := by decide
  induction texts with
  | nil => exact absurd rfl hne
  | cons text rest ih =>
      obtain ⟨hnone, htrim⟩ := htexts text List.mem_cons_self
      cases rest with
      | nil => simpa [Text.joinWith, Text.splitOn_of_not_mem hnone] using htrim
      | cons next others =>
          have hrest := ih (by simp) fun other hother =>
            htexts other (List.mem_cons_of_mem text hother)
          have hjoin : Text.joinWith " | " (text :: next :: others) =
              (text ++ [' ']) ++ '|' :: ' ' :: Text.joinWith " | " (next :: others) := by
            simp [Text.joinWith_cons_cons]
          have hfirst : Text.trim (text ++ [' ']) = text := by
            rw [Text.trim_append_of_blank (by simp), htrim]
          have hspaced : '|' ∉ text ++ [' '] := by simpa using hnone
          calc
            (Text.splitOn '|' (Text.joinWith " | " (text :: next :: others))).map Text.trim =
                (Text.splitOn '|' (text ++ [' ']) ++
                  Text.splitOn '|' (' ' :: Text.joinWith " | " (next :: others))).map Text.trim := by
              rw [hjoin]
              exact congrArg (List.map Text.trim) (Text.splitWhere_append_cons _ _ (by decide))
            _ = text :: next :: others := by
              rw [List.map_append, Text.map_trim_splitOn_cons hpipe Text.isBlank_space, hrest,
                Text.splitOn_of_not_mem hspaced, List.map_singleton, hfirst]
              rfl

/-- The trimmed pieces of the body are the texts of the stages. -/
theorem WellFormed.map_trim_splitOn_body (hformed : typed.WellFormed) :
    (Text.splitOn '|' typed.body.trim).map Text.trim = typed.stages.map stageText := by
  rw [Text.map_trim_splitOn_trim (by decide), body]
  refine map_trim_splitOn_joinWith (by simpa using hformed.stages_ne_nil) ?_
  intro text htext
  obtain ⟨tokens, htokens, rfl⟩ := List.mem_map.mp htext
  exact ⟨(not_mem_stageText (hformed.tokens tokens htokens)).1,
    trim_stageText (hformed.tokens tokens htokens)⟩

theorem WellFormed.stagesOf_body (hformed : typed.WellFormed) :
    stagesOf typed.body = typed.stages.map stage := by
  have hstages : stagesOf typed.body =
      ((Text.splitOn '|' typed.body.trim).map Text.trim).map Stage.ofText := by
    simp [stagesOf]
  rw [hstages, hformed.map_trim_splitOn_body, List.map_map]
  exact List.map_congr_left fun tokens htokens => ofText_stageText (hformed.tokens tokens htokens)

/-- The last piece of the body is the text of the last stage. -/
theorem WellFormed.trim_getLastD_body (hformed : typed.WellFormed) :
    Text.trim ((Text.splitOn '|' typed.body.trim).getLastD []) =
      stageText (typed.stages.getLastD []) := by
  obtain ⟨before, last, hpieces⟩ := Text.exists_splitOn_eq_concat '|' typed.body.trim
  obtain ⟨init, tokens, hstages⟩ : ∃ init tokens, typed.stages = init ++ [tokens] :=
    ⟨_, _, (List.dropLast_append_getLast hformed.stages_ne_nil).symm⟩
  have htexts := hformed.map_trim_splitOn_body
  rw [hpieces, hstages, List.map_append, List.map_append] at htexts
  rw [hpieces, hstages, List.getLastD_concat, List.getLastD_concat]
  exact List.singleton_inj.mp (List.append_inj' htexts rfl).2

/-- A body that is a text without pipe signs is the one stage of its words. -/
theorem WellFormed.stages_of_trim_body (hformed : typed.WellFormed) {text : Text}
    (hpipe : '|' ∉ text) (hbody : typed.body.trim = text) : typed.stages = [text.words] := by
  have htexts := hformed.map_trim_splitOn_body
  rw [hbody, Text.splitOn_of_not_mem hpipe, List.map_singleton, ← hbody, Text.trim_trim, hbody] at htexts
  obtain ⟨tokens, hstages, htext⟩ := List.map_eq_singleton_iff.mp htexts.symm
  have htokens : ∀ token ∈ tokens, IsTarget token := hformed.tokens tokens (by simp [hstages])
  rw [hstages, ← htext, words_stageText htokens]

theorem WellFormed.trim_body_eq_nil_iff (hformed : typed.WellFormed) :
    typed.body.trim = [] ↔ typed.stages = [[]] := by
  constructor
  · exact hformed.stages_of_trim_body (by simp)
  · intro hstages
    rw [body, hstages]
    rfl

theorem WellFormed.trim_body_eq_cat_iff (hformed : typed.WellFormed) :
    typed.body.trim = "cat" ↔ typed.stages = [[("cat" : Text)]] := by
  constructor
  · exact hformed.stages_of_trim_body (by decide)
  · intro hstages
    rw [body, hstages]
    decide

end Stages

section Reading

variable {typed : Typed} {mode : WriteMode} {target : Text}

/-- Without a redirection only nothing at all is not read back. -/
theorem parse_render_plain (hformed : typed.WellFormed) (hplain : typed.redirection = none) :
    parse typed.render =
      if typed.stages = [[]] then .error .emptyLine else .ok (.pipeline typed.pipeline) := by
  have hrender : typed.render = typed.body := by rw [render, hplain]
  rw [hrender]
  split <;> rename_i hempty
  · have hblank : typed.body.trim = [] := hformed.trim_body_eq_nil_iff.mpr hempty
    simp [parse, hblank]
  · have hblank : typed.body.trim ≠ [] := fun h => hempty (hformed.trim_body_eq_nil_iff.mp h)
    rw [parse_of_no_sign hformed.sign_not_mem_body hblank, hformed.stagesOf_body, pipeline, hplain]
    rfl

/-- A bare `cat` with a redirection asks for a capture, into a file of any trimmed name. -/
theorem parse_redirect_cat (mode : WriteMode) (hne : target ≠ []) (hname : target.trim = target) :
    parse (redirect "cat" mode target) = .ok (.heredoc target mode) := by
  obtain ⟨init, last, hlast, hstays⟩ := Text.exists_concat_of_trim hne hname
  have htrim : (redirect "cat" mode target).trim = redirect "cat" mode target := by
    have hfirst : isBlank 'c' = false := by decide
    have h := Text.trim_append_of_not_blank [] (("at " : Text) ++ mode.operator ++ ' ' :: init)
      hfirst hstays
    simpa [redirect, hlast] using h
  have htrimtarget : Text.trim (' ' :: target) = target := by
    rw [Text.trim_space_cons, hname]
  have hempty : target.isEmpty = false := by simpa using hne
  rw [parse, htrim]
  cases mode <;>
    simp [redirect, WriteMode.operator, heredocStart, Text.startsWith, List.isPrefixOf, ofHeredoc,
      htrimtarget, hempty]

/-- With a redirection two kinds of line are not read back: a capture and words to be written. -/
theorem parse_render_redirected (hformed : typed.WellFormed)
    (hredirection : typed.redirection = some (mode, target)) :
    parse typed.render =
      .ok (if typed.stages = [[("cat" : Text)]] then
        .heredoc target mode
      else if typed.stages = [[]] ∧ 1 < target.words.length then
        .pipeline { stages := [literalStage (mode.operator ++ ' ' :: target)] }
      else
        .pipeline typed.pipeline) := by
  have htarget := hformed.target mode target hredirection
  have hrender : typed.render = redirect typed.body mode target := by rw [render, hredirection]
  rw [hrender]
  split <;> rename_i hcat
  · have hbody : typed.body = "cat" := by
      rw [body, hcat]
      decide
    rw [hbody, parse_redirect_cat mode htarget.ne_nil htarget.trim]
  · have hbody : typed.body.trim ≠ "cat" := fun h => hcat (hformed.trim_body_eq_cat_iff.mp h)
    rw [parse_redirect_eq mode hformed.sign_not_mem_body hbody htarget, hformed.stagesOf_body,
      hformed.trim_getLastD_body, pipeline, hredirection]
    simp only [hformed.trim_body_eq_nil_iff]
    split <;> rfl

end Reading

/-- A line is read as what it was put together from, with three exceptions. -/
theorem parse_render_iff (typed : Typed) (hformed : typed.WellFormed) :
    parse typed.render = .ok (.pipeline typed.pipeline) ↔ ¬ typed.Excepted := by
  obtain ⟨stages, redirection⟩ := typed
  cases redirection with
  | none =>
      rw [parse_render_plain hformed rfl]
      constructor
      · rintro hparse ⟨⟩
        simp at hparse
      · intro hexcepted
        rw [if_neg]
        rintro rfl
        exact hexcepted .empty
  | some sent =>
      obtain ⟨mode, target⟩ := sent
      rw [parse_render_redirected hformed rfl]
      constructor
      · rintro hparse (_ | ⟨_, _⟩ | ⟨_, _, hmany⟩)
        · simp at hparse
        · simp [hmany, pipeline, literalStage] at hparse
      · intro hexcepted
        rw [if_neg, if_neg]
        · rintro ⟨rfl, hmany⟩
          exact hexcepted (.words mode target hmany)
        · rintro rfl
          exact hexcepted (.capture mode target)

section Example

/-- Three stages, one of them blank, with the result added to a file of two words. -/
def exampleTyped : Typed where
  stages := [["head", "notes"], [], ["cat"]]
  redirection := some (.append, "my file")

theorem parse_render_exampleTyped :
    exampleTyped.WellFormed ∧ exampleTyped.render = "head notes |  | cat >> my file" ∧
      parse exampleTyped.render = .ok (.pipeline exampleTyped.pipeline) := by
  have hformed : exampleTyped.WellFormed := by
    refine ⟨by decide, ?_, ?_⟩
    · intro tokens htokens token htoken
      simp only [exampleTyped, List.mem_cons, List.not_mem_nil, or_false] at htokens
      rcases htokens with rfl | rfl | rfl
      · rcases List.mem_cons.mp htoken with rfl | hrest
        · decide
        · rw [List.mem_singleton.mp hrest]
          decide
      · simp at htoken
      · rw [List.mem_singleton.mp htoken]
        decide
    · rintro mode target hsent
      obtain ⟨rfl, rfl⟩ : WriteMode.append = mode ∧ ("my file" : Text) = target := by
        simpa [exampleTyped] using hsent
      exact ⟨by decide, by decide, by decide, by decide⟩
  refine ⟨hformed, by decide, (parse_render_iff exampleTyped hformed).mpr ?_⟩
  rintro ⟨⟩

end Example

end Typed

end Request

end LineShell
