import LineShell.Proofs.Http.LifeCycle
import LineShell.Proofs.Session.Driving
import LineShell.Proofs.Session.Exit
import Mathlib

/-!
# Driving a session by requests

Every line that is sent to a session of a service is run at a console of its own.  Lines that
capture nothing do not need more: sent one by one they do what they do on the command line or in the
read loop, and those behind the end of the session do nothing.
-/

namespace LineShell.Http

open Interpreter (Driven Drives)

/-- A request asks to run a line in the session of an id, with whatever lines to capture. -/
def ServiceSetup.Asks (setup : ServiceSetup) (id line : Text) (request : Request) : Prop :=
  ∃ inputLines, setup.reads request = .call (.run id ⟨line, inputLines⟩)

/-- What was written for a request; one that is refused has nothing to show. -/
def written : Except Breakdown Response → Text
  | .ok (.ran output _) => output
  | _ => []

/-- The answers to lines that were sent to the session of an id: each tells what a line wrote and
the session after it, and those that the session missed are refused. -/
def answers (id : Text) (driven : List Driven) (missed : Nat) : List (Except Breakdown Response) :=
  driven.map (fun line => .ok (.ran line.texts.flatten { line.session with id })) ++
    List.replicate missed (.ok .ended)

/-- What the answers show together is what the lines wrote. -/
theorem flatMap_written (id : Text) (driven : List Driven) (missed : Nat) :
    (answers id driven missed).flatMap written = (driven.flatMap Driven.texts).flatten := by
  induction driven with
  | nil => simp [answers, written, List.flatMap_replicate]
  | cons line rest ih =>
      have hcons : answers id (line :: rest) missed =
          .ok (.ran line.texts.flatten { line.session with id }) :: answers id rest missed := rfl
      rw [hcons, List.flatMap_cons, List.flatMap_cons, ih, List.flatten_append]
      rfl

namespace Service

/-- The answers to requests that come one after the other, and the service after them. -/
def answerAll (setup : ServiceSetup) :
    Service → List Request → List (Except Breakdown Response) × Service
  | service, [] => ([], service)
  | service, request :: requests =>
      let (outcome, after) := service.answer setup request
      let (outcomes, last) := answerAll setup after requests
      (outcome :: outcomes, last)

variable {setup : ServiceSetup} {service : Service} {id line : Text} {request : Request}

theorem answerAll_cons {outcome : Except Breakdown Response} {after : Service}
    (h : service.answer setup request = (outcome, after)) (requests : List Request) :
    service.answerAll setup (request :: requests) =
      (outcome :: (after.answerAll setup requests).1, (after.answerAll setup requests).2) := by
  rw [answerAll, h]

/-- A line for a session that is over is refused. -/
theorem answer_of_ended {session : Session} (hsession : service.store.get? id = some session)
    (hended : session.running = false) (hrequest : setup.Asks id line request) :
    service.answer setup request = (.ok .ended, service) := by
  obtain ⟨inputLines, hcall⟩ := hrequest
  rw [answer_of_call hcall, serve, run, hsession]
  simp only [hended, Bool.false_eq_true, if_false]
  rfl

theorem answerAll_of_ended {session : Session} (hsession : service.store.get? id = some session)
    (hended : session.running = false) {lines : List Text} {requests : List Request}
    (hrequests : List.Forall₂ (setup.Asks id) lines requests) :
    service.answerAll setup requests = (List.replicate lines.length (.ok .ended), service) := by
  induction hrequests with
  | nil => rfl
  | cons hrequest _ ih =>
      rw [answerAll_cons (answer_of_ended hsession hended hrequest), ih]
      rfl

/-- A line for a session that runs is answered with what it writes, at a console of its own. -/
theorem answer_of_running {session : Session} {reply : Option Reply} {after : World}
    {inputLines : List Text}
    (hsession : service.store.get? id = some session) (hrunning : session.running = true)
    (hcall : setup.reads request = .call (.run id ⟨line, inputLines⟩))
    (hline : Interpreter.processLine setup.commands (standardRegistry setup.commands) line
      { files := service.files, session, output := [], reader := .scripted inputLines } =
        .ok reply after) :
    service.answer setup request =
      (.ok (.ran after.output.flatten after.session),
        { files := after.files, store := service.store.update after.session }) := by
  rw [answer_of_call hcall, serve, run, hsession]
  simp only [hrunning, if_true, runIn, hline]
  rfl

/-- Lines that are sent to a session one by one. -/
theorem answerAll_of_drives {files last : FileSystem} {session ending : Session}
    {lines : List Text} {driven : List Driven} {requests : List Request}
    (hdrives : Drives setup.commands (standardRegistry setup.commands) files session lines driven
      last ending)
    (hfiles : service.files = files)
    (hsession : service.store.get? id = some { session with id })
    (hrequests : List.Forall₂ (setup.Asks id) lines requests) :
    (service.answerAll setup requests).1 = answers id driven (lines.length - driven.length) ∧
      (service.answerAll setup requests).2.files = last ∧
      (service.answerAll setup requests).2.store.get? id = some { ending with id } := by
  induction hdrives generalizing service requests with
  | done files session =>
      cases hrequests
      exact ⟨rfl, hfiles, hsession⟩
  | ended lines hended =>
      rw [answerAll_of_ended hsession hended hrequests]
      exact ⟨rfl, hfiles, hsession⟩
  | @line files last session ending line lines driven reply after hrunning hcaptures hline _ ih =>
      obtain - | ⟨⟨inputLines, hcall⟩, hrequests⟩ := hrequests
      have hrun := Interpreter.processLine_recast (staged_standardRegistry setup.commands) hcaptures
        hline (fun _ => id) [] (.scripted inputLines)
      rw [List.nil_append, ← hfiles] at hrun
      have hanswer := answer_of_running hsession hrunning hcall hrun
      rw [answerAll_cons hanswer]
      obtain ⟨hanswers, hlast, hending⟩ := @ih
        { files := after.files, store := service.store.update { after.session with id } } _ rfl
        (SessionStore.get?_update_of_get? hsession rfl) hrequests
      refine ⟨?_, hlast, hending⟩
      rw [hanswers, List.length_cons, List.length_cons, Nat.add_sub_add_right]
      rfl

end Service

/-- Lines of which none captures anything do the same in a new session wherever they come from.  On
the command line, in the read loop and as requests to a service they write the same texts in the
same order, and they leave the same files, current directory and state of the session; what a
terminal shows in front of the lines is the only difference.  The requests behind the end of the
session are refused and show nothing. -/
theorem driving_agrees (setup : ServiceSetup) (files : FileSystem) (directory : Text)
    (lines : List Text) (hfiles : files.NullFree) (hdirectory : Path.Sound directory)
    (hlines : ∀ line ∈ lines, line.hasNull = false)
    (hcaptures : ∀ reader, ¬ Interpreter.CapturesFrom setup.commands
      (standardRegistry setup.commands)
      { files, session := { directory }, output := [], reader := .scripted lines } reader) :
    ∃ (driven : List Driven) (last : FileSystem) (ending : Session),
      (∀ id reader,
        CommandLine.runCommands setup.commands (standardRegistry setup.commands) (lines.map some)
            { files, session := { id, directory }, output := [], reader } =
          .ok ()
            { files := last
              session := { ending with id }
              output := driven.flatMap Driven.texts
              reader }) ∧
      (∀ id reader, reader.Serves lines →
        (reader.prompts = false →
          Interpreter.shown reader driven ending = driven.flatMap Driven.texts) ∧
        ∃ unread,
          Interpreter.run setup.commands (standardRegistry setup.commands)
              { files, session := { id, directory }, output := [], reader } =
            .ok 0
              { files := last
                session := { ending with id }
                output := Interpreter.shown reader driven ending
                reader := unread }) ∧
      ∀ (service : Service) id requests, service.files = files →
        service.store.get? id = some { id, directory } →
        List.Forall₂ (setup.Asks id) lines requests →
        let outcomes := (service.answerAll setup requests).1
        let after := (service.answerAll setup requests).2
        outcomes = answers id driven (lines.length - driven.length) ∧
          outcomes.flatMap written = (driven.flatMap Driven.texts).flatten ∧
          after.files = last ∧ after.store.get? id = some { ending with id } := by
  have hregistry := staged_standardRegistry setup.commands
  have hworld : World.Sound
      { files, session := { directory }, output := [], reader := .scripted lines } :=
    ⟨hfiles, hdirectory⟩
  obtain ⟨driven, last, ending, hdrives⟩ :=
    Interpreter.exists_drives setup.commands hworld rfl hlines hcaptures
  refine ⟨driven, last, ending, fun id reader => ?_,
    fun id reader hserves => ⟨fun hprompts => ?_, ?_⟩,
    fun service id requests hservice hsession hrequests => ?_⟩
  · exact hdrives.runCommands hregistry id [] reader
  · simp [Interpreter.shown, Reader.shows, hprompts]
  · exact hdrives.run hregistry id [] hserves
  · obtain ⟨houtcomes, hafter, hending⟩ :=
      Service.answerAll_of_drives hdrives hservice hsession hrequests
    exact ⟨houtcomes, houtcomes ▸ flatMap_written id driven _, hafter, hending⟩

section Example

/-- A new session at the root that is to end twice. -/
def leaving : World where
  files := .empty
  session := { directory := "//" }
  output := []
  reader := .scripted ["exit", "exit"]

theorem parse_leaving :
    Request.parse "exit" = .ok (.pipeline { stages := [Stage.ofText "exit"] }) := by
  decide

/-- The line `exit` ends the session and tells so. -/
theorem processLine_leaving (world : World) :
    Interpreter.processLine rootService.commands (standardRegistry rootService.commands) "exit"
        world =
      .ok (some .exit)
        { world with
          session := world.session.terminate
          output := world.output ++ [("Exiting...\n" : Text)] } :=
  Interpreter.processLine_of_exit rootService.commands (replies_standardRegistry _) parse_leaving
    (List.nil_append _).symm (by simp) (by decide) world

theorem captures_leaving (world : World) :
    Interpreter.captures (standardRegistry rootService.commands) "exit" world = [] := by
  rw [Interpreter.captures, parse_leaving]
  exact Pipeline.captures_eq_nil _ (by decide) {} world

theorem not_capturesFrom_leaving (reader : Reader) :
    ¬ Interpreter.CapturesFrom rootService.commands (standardRegistry rootService.commands) leaving
      reader := by
  have hread : leaving.reader.readLine.1 = some ("exit" : Text) := by decide
  rintro ⟨middle, line, hreaches, hrunning, hgiven, hmem⟩
  obtain rfl | ⟨next, ⟨-, first, reply, hfirst, hrun⟩, hnext⟩ := hreaches.cases_head
  · cases hread.symm.trans hgiven
    rw [captures_leaving] at hmem
    cases hmem
  · -- The first line ends the session, so the loop comes no further.
    cases hread.symm.trans hfirst
    cases (processLine_leaving leaving.asked).symm.trans hrun
    obtain rfl | ⟨_, ⟨hstill, -⟩, -⟩ := hnext.cases_head
    · cases hrunning
    · cases hstill

/-- Of two lines that end a session only the first one writes something. -/
theorem driving_agrees_leaving :
    let service : Service := { files := .empty, store := (SessionStore.empty.create "//").2 }
    FileSystem.empty.NullFree ∧ Path.Sound "//" ∧
      (∀ reader, ¬ Interpreter.CapturesFrom rootService.commands
        (standardRegistry rootService.commands) leaving reader) ∧
      (∃ unread,
        Interpreter.run rootService.commands (standardRegistry rootService.commands) leaving =
          .ok 0
            { leaving with
              session := leaving.session.terminate
              output := [("Exiting...\n" : Text)]
              reader := unread }) ∧
      List.Forall₂ (rootService.Asks (SessionStore.idAfter 0))
        ["exit", "exit"] [exitRequest, exitRequest] ∧
      (service.answerAll rootService [exitRequest, exitRequest]).1.flatMap written =
        "Exiting...\n" := by
  intro service
  have hfiles : FileSystem.empty.NullFree := Node.nullFree_directory (by simp [FileSystem.empty])
  have hdirectory : Path.Sound "//" := ⟨by decide, by decide⟩
  have hasks : rootService.Asks (SessionStore.idAfter 0) "exit" exitRequest :=
    ⟨[], by decide +kernel⟩
  have hrequests : List.Forall₂ (rootService.Asks (SessionStore.idAfter 0))
      ["exit", "exit"] [exitRequest, exitRequest] := .cons hasks (.cons hasks .nil)
  have hsession : service.store.get? (SessionStore.idAfter 0) =
      some { id := SessionStore.idAfter 0, directory := "//" } := by
    decide +kernel
  have hleft : CommandLine.runCommands rootService.commands
      (standardRegistry rootService.commands) [some "exit", some "exit"] leaving =
        .ok ()
          { leaving with
            session := leaving.session.terminate, output := [("Exiting...\n" : Text)] } := by
    rw [Interpreter.runCommands_of_ok rfl (processLine_leaving leaving)]
    exact Interpreter.runCommands_of_ended rfl _
  obtain ⟨driven, last, ending, hcommands, hreader, hservice⟩ :=
    driving_agrees rootService .empty "//" ["exit", "exit"] hfiles hdirectory (by decide)
      not_capturesFrom_leaving
  obtain ⟨-, hwritten, -, -⟩ := hservice service (SessionStore.idAfter 0)
    [exitRequest, exitRequest] rfl hsession hrequests
  have hboth := (hcommands [] (.scripted ["exit", "exit"])).symm.trans hleft
  obtain ⟨hshown, unread, hrun⟩ := hreader [] _ (Reader.serves_scripted ["exit", "exit"])
  simp only [EStateM.Result.ok.injEq, World.mk.injEq] at hboth
  obtain ⟨-, rfl, hended, htexts, -⟩ := hboth
  rw [hshown rfl, hended, htexts] at hrun
  refine ⟨hfiles, hdirectory, not_capturesFrom_leaving, ⟨unread, hrun⟩, hrequests,
    hwritten.trans ?_⟩
  rw [htexts]
  rfl

end Example

end LineShell.Http
