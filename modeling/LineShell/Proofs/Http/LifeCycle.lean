import LineShell.Http.Service
import LineShell.Proofs.Session.LineAnswers
import LineShell.Proofs.Session.SessionState
import LineShell.Proofs.Session.Store
import Mathlib

/-!
# The life cycle of the sessions of a service

Requests come in any order and for any sessions.  What a service answers is told by what went
before: a session is open from the answer that gave its id until the request that closes it, and it
takes lines until one of them executes `exit`.  All sessions share one file system, and nothing
else.  Nothing is assumed of how requests are read, and of the ids only that all are distinct.
-/

namespace LineShell.Http

/-! ### Calls -/

namespace Call

/-- The id that a call names; none if it opens a session. -/
def id? : Call → Option Text
  | .create _ => none
  | .describe id | .close id | .run id _ => some id

/-- The line of a call has no null character. -/
def NullFree : Call → Prop
  | .run _ body => body.line.hasNull = false
  | _ => True

end Call

namespace Service

/-- The world in which a line is run in a session. -/
def worldIn (service : Service) (session : Session) (body : Body.Line) : World where
  files := service.files
  session := session
  output := []
  reader := .scripted body.inputLines

variable {setup : ServiceSetup} {service : Service}

/-- A request is answered by what serves its call. -/
theorem answer_of_call {request : Request} {call : Call}
    (hcall : setup.reads request = .call call) :
    service.answer setup request =
      ((service.serve setup call).1.mapError .session, (service.serve setup call).2) := by
  rw [answer, hcall]

/-! ### What a call does -/

/-- What may come of a call: the answer, or what broke it off, and the service after it. -/
inductive Serves (setup : ServiceSetup) (service : Service) :
    Call → Except Escape Response → Service → Prop
  | created {given : Option Text} {directory : Text}
      (hstart : setup.settings.startIn setup.host service.files given = .ok directory) :
      Serves setup service (.create given)
        (.ok (.created (service.store.create directory (setup.nextId service.store)).1))
        { service with store := (service.store.create directory (setup.nextId service.store)).2 }
  | refused (given : Option Text) (message : Text) :
      Serves setup service (.create given) (.ok (.badDirectory message)) service
  | broken (given : Option Text) (escape : Escape) :
      Serves setup service (.create given) (.error escape) service
  | missing {call : Call} {id : Text} (hid : call.id? = some id)
      (hsession : service.store.get? id = none) (message : Text) :
      Serves setup service call (.ok (.noSession message)) service
  | described {id : Text} {session : Session} (hsession : service.store.get? id = some session) :
      Serves setup service (.describe id) (.ok (.described session)) service
  | closed {id : Text} {session : Session} {store : SessionStore}
      (hsession : service.store.get? id = some session)
      (hstore : service.store.close? id = some store) :
      Serves setup service (.close id) (.ok .closed) { service with store }
  | ended {id : Text} {session : Session} (body : Body.Line)
      (hsession : service.store.get? id = some session) (hrunning : session.running = false) :
      Serves setup service (.run id body) (.ok .ended) service
  | ran {id : Text} {session : Session} {body : Body.Line} {reply : Option Reply} {last : World}
      (hsession : service.store.get? id = some session) (hrunning : session.running = true)
      (hrun : Interpreter.processLine setup.commands (standardRegistry setup.commands) body.line
        (service.worldIn session body) = .ok reply last) :
      Serves setup service (.run id body) (.ok (.ran last.output.flatten last.session))
        { files := last.files, store := service.store.update last.session }

/-- A service whose files and sessions every line can be run in. -/
structure Sound (service : Service) : Prop where
  files : service.files.NullFree
  directories : ∀ session ∈ service.store.sessions, Path.Sound session.directory

theorem Sound.worldIn (hservice : service.Sound) {id : Text} {session : Session}
    (hsession : service.store.get? id = some session) (body : Body.Line) :
    (service.worldIn session body).Sound :=
  ⟨hservice.files, hservice.directories session (SessionStore.mem_of_get? hsession)⟩

theorem serves_serve (hservice : service.Sound) {call : Call} (hcall : call.NullFree) :
    Serves setup service call (service.serve setup call).1 (service.serve setup call).2 := by
  cases call with
  | create given =>
      simp only [serve, create]
      split
      · exact .broken given _
      · exact .broken given _
      · exact .refused given _
      · exact .created ‹_›
  | describe id =>
      simp only [serve, describe]
      split <;> rename_i hsession
      · exact .described hsession
      · exact .missing rfl hsession _
  | close id =>
      simp only [serve, close]
      split <;> rename_i hstore
      · cases hsession : service.store.get? id with
        | none =>
            rw [SessionStore.close?_eq_none_iff.mpr hsession] at hstore
            cases hstore
        | some session => exact .closed hsession hstore
      · exact .missing rfl (SessionStore.close?_eq_none_iff.mp hstore) _
  | run id body =>
      simp only [serve, run]
      split <;> rename_i hsession
      · exact .missing rfl hsession _
      split <;> rename_i hrunning
      · have hanswers := Interpreter.answers_processLine (answers_standardRegistry setup.commands)
          setup.commands hcall _ (hservice.worldIn hsession body)
        cases hrun : Interpreter.processLine setup.commands (standardRegistry setup.commands)
            body.line (service.worldIn _ body) with
        | ok reply last =>
            have hran := Serves.ran hsession hrunning hrun
            unfold worldIn at hrun
            simpa only [runIn, hrun] using hran
        | error escape last => exact (hanswers.of_error hrun).1.elim
      · exact .ended body hsession (by simpa using hrunning)

theorem Serves.sound {call : Call} {outcome : Except Escape Response} {after : Service}
    (h : Serves setup service call outcome after) (hservice : service.Sound)
    (hcall : call.NullFree) : after.Sound := by
  cases h with
  | created hstart =>
      refine ⟨hservice.files, fun other hother => ?_⟩
      rcases SessionStore.mem_create hother with hother | rfl
      · exact hservice.directories other hother
      · exact Settings.sound_of_startIn hstart
  | closed hsession hstore =>
      refine ⟨hservice.files, fun other hother => hservice.directories other ?_⟩
      exact SessionStore.mem_of_mem_close? hstore hother
  | ran hsession hrunning hrun =>
      obtain ⟨-, hlast⟩ := (Interpreter.answers_processLine
        (answers_standardRegistry setup.commands) setup.commands hcall _
        (hservice.worldIn hsession _)).of_ok hrun
      refine ⟨hlast.files, fun other hother => ?_⟩
      obtain ⟨kept, hkept, rfl⟩ := List.mem_map.mp hother
      split
      · exact hlast.directory
      · exact hservice.directories kept hkept
  | _ => exact hservice

end Service

/-! ### What went before -/

/-- One request of a run: the service that it came to, what it called for and what came of it. -/
structure Exchange where
  before : Service
  call : Call
  outcome : Except Breakdown Response

namespace Exchange

/-- The exchange opened the session of an id. -/
def Opens (exchange : Exchange) (id : Text) : Prop :=
  ∃ session, exchange.outcome = .ok (.created session) ∧ session.id = id

/-- The exchange ran a line in the session of an id that executed `exit`. -/
def ExecutesExit (setup : ServiceSetup) (exchange : Exchange) (id : Text) : Prop :=
  ∃ body session, exchange.call = .run id body ∧
    exchange.before.store.get? id = some session ∧ session.running = true ∧
      Interpreter.Executes (standardRegistry setup.commands) body.line
        (exchange.before.worldIn session body) "exit"

end Exchange

/-- The requests that a service has got since it was started, from first to last, and what it is
after them. -/
inductive History (setup : ServiceSetup) (start : Service) : List Exchange → Service → Prop
  | start : History setup start [] start
  | request {past : List Exchange} {service : Service} {request : Request} {call : Call}
      (hpast : History setup start past service) (hcall : setup.reads request = .call call)
      (hnull : call.NullFree) :
      History setup start
        (past ++ [⟨service, call, (service.answer setup request).1⟩])
        (service.answer setup request).2

/-- The session of an id was opened and has not been closed since. -/
def IsOpen (past : List Exchange) (id : Text) : Prop :=
  ∃ earlier exchange later, past = earlier ++ exchange :: later ∧ exchange.Opens id ∧
    ∀ other ∈ later, other.call ≠ .close id

/-- A line that was run in the session of an id executed `exit`. -/
def HasEnded (setup : ServiceSetup) (past : List Exchange) (id : Text) : Prop :=
  ∃ exchange ∈ past, exchange.ExecutesExit setup id

/-- A request was answered with a status. -/
def Answered (outcome : Except Breakdown Response) (status : Nat) : Prop :=
  ∃ response, outcome = .ok response ∧ response.status = status

section Past

variable {setup : ServiceSetup} {past : List Exchange} {exchange : Exchange} {id : Text}

theorem isOpen_concat :
    IsOpen (past ++ [exchange]) id ↔
      exchange.Opens id ∨ (IsOpen past id ∧ exchange.call ≠ .close id) := by
  constructor
  · rintro ⟨earlier, opening, later, hsplit, hopens, hlater⟩
    rcases List.eq_nil_or_concat later with rfl | ⟨init, last, rfl⟩
    · obtain ⟨-, hlast⟩ := List.append_inj' hsplit rfl
      exact .inl (List.singleton_inj.mp hlast ▸ hopens)
    · rw [List.concat_eq_append] at hsplit hlater
      obtain ⟨hpast, hlast⟩ : past = earlier ++ opening :: init ∧ [exchange] = [last] :=
        List.append_inj' (by simpa using hsplit) rfl
      rw [List.singleton_inj.mp hlast]
      exact .inr ⟨⟨earlier, opening, init, hpast, hopens,
        fun other hother => hlater other (List.mem_append_left _ hother)⟩, hlater last (by simp)⟩
  · rintro (hopens | ⟨⟨earlier, opening, later, rfl, hopens, hlater⟩, hclose⟩)
    · exact ⟨past, exchange, [], rfl, hopens, by simp⟩
    · refine ⟨earlier, opening, later ++ [exchange], by simp, hopens, fun other hother => ?_⟩
      rcases List.mem_append.mp hother with hother | hother
      · exact hlater other hother
      · exact List.mem_singleton.mp hother ▸ hclose

theorem hasEnded_concat :
    HasEnded setup (past ++ [exchange]) id ↔
      HasEnded setup past id ∨ exchange.ExecutesExit setup id := by
  simp [HasEnded, or_and_right, exists_or]

end Past

section Run

variable {setup : ServiceSetup} {service : Service} {id : Text} {session : Session}
  {body : Body.Line} {reply : Option Reply} {last : World}
  (hsession : service.store.get? id = some session)
  (hrun : Interpreter.processLine setup.commands (standardRegistry setup.commands) body.line
    (service.worldIn session body) = .ok reply last)
include hsession hrun

/-- A line leaves its session the id. -/
theorem id_of_run : last.session.id = id := by
  have hchanged := (Interpreter.ends_processLine (named_standardRegistry setup.commands)
    setup.commands body.line (service.worldIn session body)).of_ok hrun
  exact hchanged.id.trans (SessionStore.id_of_get? hsession)

/-- Of all sessions a line can end its own one only, and does so exactly if it executes `exit`. -/
theorem executesExit_iff_of_run {exchange : Exchange} (hrunning : session.running = true)
    (hbefore : exchange.before = service) (hcall : exchange.call = .run id body) (other : Text) :
    exchange.ExecutesExit setup other ↔ id = other ∧ last.session.running = false := by
  have hends : last.session.running = false ↔
      Interpreter.Executes (standardRegistry setup.commands) body.line
        (service.worldIn session body) "exit" := by
    have hchanged := (Interpreter.ends_processLine (named_standardRegistry setup.commands)
      setup.commands body.line (service.worldIn session body)).of_ok hrun
    have hrunning' : (service.worldIn session body).session.running = true := hrunning
    rw [← Bool.not_eq_true, hchanged.running, and_iff_right hrunning', not_not]
    exact List.mem_map
  rw [hends]
  constructor
  · rintro ⟨_, _, hother, hfound, -, hexecutes⟩
    cases hcall.symm.trans hother
    rw [hbefore] at hfound hexecutes
    cases hsession.symm.trans hfound
    exact ⟨rfl, hexecutes⟩
  · rintro ⟨rfl, hexecutes⟩
    exact ⟨body, session, hcall, hbefore ▸ hsession, hrunning, hbefore ▸ hexecutes⟩

end Run

/-! ### What went before tells the store -/

/-- The sessions of a service are those that are open after what went before, and those that still
run are those in which nothing executed `exit`. -/
structure Agrees (setup : ServiceSetup) (past : List Exchange) (service : Service) : Prop where
  sound : service.Sound
  numbered : service.store.Numbered setup.ids
  isOpen : ∀ id, service.store.get? id ≠ none ↔ IsOpen past id
  hasEnded : ∀ id session, service.store.get? id = some session →
    (session.running = false ↔ HasEnded setup past id)
  /-- The ids of ended sessions were given out. -/
  named : ∀ id, HasEnded setup past id → ∃ number < service.store.opened, id = setup.ids number

namespace Agrees

variable {setup : ServiceSetup} {past : List Exchange} {service after : Service} {call : Call}

theorem start {files : FileSystem} (hfiles : files.NullFree) : Agrees setup [] { files } where
  sound := ⟨hfiles, by simp⟩
  numbered := by simp [SessionStore.Numbered]
  isOpen := by simp [IsOpen, SessionStore.get?]
  hasEnded := by simp [SessionStore.get?]
  named := by simp [HasEnded]

/-- An exchange that opens, closes and ends nothing leaves the agreement as it is. -/
theorem unchanged (hagrees : Agrees setup past service) {exchange : Exchange}
    (hopens : ∀ id, ¬ exchange.Opens id)
    (hcloses : ∀ id, exchange.call = .close id → service.store.get? id = none)
    (hends : ∀ id, ¬ exchange.ExecutesExit setup id) :
    Agrees setup (past ++ [exchange]) service where
  sound := hagrees.sound
  numbered := hagrees.numbered
  isOpen id := by
    rw [hagrees.isOpen, isOpen_concat, or_iff_right (hopens id), iff_self_and]
    exact fun hopen hclose => (hagrees.isOpen id).mpr hopen (hcloses id hclose)
  hasEnded id session hsession := by
    rw [hasEnded_concat, or_iff_left (hends id)]
    exact hagrees.hasEnded id session hsession
  named id hended := by
    rw [hasEnded_concat, or_iff_left (hends id)] at hended
    exact hagrees.named id hended

/-- Opening a session adds a new id, in which nothing has ended yet. -/
theorem created (hagrees : Agrees setup past service) (hids : Function.Injective setup.ids)
    {exchange : Exchange} {directory : Text} {opening : Session × SessionStore}
    (hopening : opening = service.store.create directory (setup.nextId service.store))
    (hcreated : exchange.outcome = .ok (.created opening.1))
    (hcloses : ∀ id, exchange.call ≠ .close id)
    (hends : ∀ id, ¬ exchange.ExecutesExit setup id)
    (hsound : { service with store := opening.2 : Service }.Sound) :
    Agrees setup (past ++ [exchange]) { service with store := opening.2 } := by
  subst hopening
  refine ⟨hsound, SessionStore.numbered_create hagrees.numbered directory, fun id => ?_,
    fun id session hsession => ?_, fun id hended => ?_⟩
  · have hopens : exchange.Opens id ↔ setup.nextId service.store = id := by
      simp [Exchange.Opens, hcreated, SessionStore.create]
    rw [SessionStore.get?_create, isOpen_concat, hopens, ← hagrees.isOpen]
    split <;> rename_i hid <;> simp [hid, hcloses id]
  · rw [hasEnded_concat, or_iff_left (hends id)]
    rw [SessionStore.get?_create] at hsession
    split at hsession <;> rename_i hid
    · cases hsession
      refine iff_of_false (by simp [SessionStore.create]) fun hended => ?_
      obtain ⟨number, hnumber, heq⟩ := hagrees.named id hended
      exact hnumber.ne (hids (heq.symm.trans hid.symm))
    · exact hagrees.hasEnded id session hsession
  · rw [hasEnded_concat, or_iff_left (hends id)] at hended
    obtain ⟨number, hnumber, heq⟩ := hagrees.named id hended
    exact ⟨number, Nat.lt_succ_of_lt hnumber, heq⟩

/-- Closing a session takes its id out of the store and of the open ones. -/
theorem closed (hagrees : Agrees setup past service) {exchange : Exchange} {id : Text}
    {store : SessionStore} (hcall : exchange.call = .close id)
    (hstore : service.store.close? id = some store) (hopens : ∀ other, ¬ exchange.Opens other)
    (hsound : { service with store : Service }.Sound) :
    Agrees setup (past ++ [exchange]) { service with store } := by
  have hends : ∀ other, ¬ exchange.ExecutesExit setup other := by
    simp [Exchange.ExecutesExit, hcall]
  refine ⟨hsound, SessionStore.numbered_close? hagrees.numbered hstore, fun other => ?_,
    fun other session hsession => ?_, fun other hended => ?_⟩
  · rw [SessionStore.get?_of_close? hstore, isOpen_concat, or_iff_right (hopens other), hcall,
      ← hagrees.isOpen]
    split <;> rename_i hid <;> simp [hid]
  · rw [hasEnded_concat, or_iff_left (hends other)]
    rw [SessionStore.get?_of_close? hstore] at hsession
    split at hsession
    · cases hsession
    · exact hagrees.hasEnded other session hsession
  · rw [hasEnded_concat, or_iff_left (hends other)] at hended
    rw [SessionStore.opened_of_close? hstore]
    exact hagrees.named other hended

/-- A line that is run puts the session in its place again, ended if the line executed `exit`. -/
theorem ran (hagrees : Agrees setup past service) {exchange : Exchange} {id : Text}
    {session : Session} {body : Body.Line} {reply : Option Reply} {last : World}
    (hbefore : exchange.before = service) (hcall : exchange.call = .run id body)
    (hopens : ∀ other, ¬ exchange.Opens other) (hsession : service.store.get? id = some session)
    (hrunning : session.running = true)
    (hrun : Interpreter.processLine setup.commands (standardRegistry setup.commands) body.line
      (service.worldIn session body) = .ok reply last)
    (hsound : Service.Sound { files := last.files, store := service.store.update last.session }) :
    Agrees setup (past ++ [exchange])
      { files := last.files, store := service.store.update last.session } := by
  have hid : last.session.id = id := id_of_run hsession hrun
  have hexit := executesExit_iff_of_run hsession hrun hrunning hbefore hcall
  refine ⟨hsound, SessionStore.numbered_update hagrees.numbered _, fun other => ?_,
    fun other kept hkept => ?_, fun other hended => ?_⟩
  · rw [SessionStore.get?_update, isOpen_concat, or_iff_right (hopens other), hcall,
      ← hagrees.isOpen]
    split <;> simp
  · rw [hasEnded_concat, hexit other]
    rw [SessionStore.get?_update, hid] at hkept
    split at hkept <;> rename_i hother
    · have hstill : ¬ HasEnded setup past other := by
        rw [← hagrees.hasEnded other session (hother ▸ hsession), hrunning]
        simp
      have hlast : last.session = kept := by simpa [← hother, hsession] using hkept
      rw [or_iff_right hstill, and_iff_right hother, hlast]
    · rw [hagrees.hasEnded other kept hkept]
      simp [hother]
  · rw [hasEnded_concat, hexit] at hended
    rcases hended with hended | ⟨rfl, -⟩
    · exact hagrees.named other hended
    · obtain ⟨number, hnumber, heq⟩ := hagrees.numbered session (SessionStore.mem_of_get? hsession)
      exact ⟨number, hnumber, (SessionStore.id_of_get? hsession).symm.trans heq⟩

/-- A call keeps the store and what went before in agreement. -/
theorem serves (hagrees : Agrees setup past service) (hids : Function.Injective setup.ids)
    {outcome : Except Escape Response} (hnull : call.NullFree)
    (hserves : Service.Serves setup service call outcome after) :
    Agrees setup (past ++ [⟨service, call, outcome.mapError .session⟩]) after := by
  have hsound := hserves.sound hagrees.sound hnull
  cases hserves with
  | created hstart =>
      exact hagrees.created hids rfl rfl (by simp) (by simp [Exchange.ExecutesExit]) hsound
  | closed hsession hstore =>
      exact hagrees.closed rfl hstore (by simp [Exchange.Opens, Except.mapError]) hsound
  | ran hsession hrunning hrun =>
      exact hagrees.ran rfl rfl (by simp [Exchange.Opens, Except.mapError]) hsession hrunning hrun
        hsound
  | refused given message =>
      exact hagrees.unchanged (by simp [Exchange.Opens, Except.mapError]) (by simp)
        (by simp [Exchange.ExecutesExit])
  | broken given escape =>
      exact hagrees.unchanged (by simp [Exchange.Opens, Except.mapError]) (by simp)
        (by simp [Exchange.ExecutesExit])
  | @missing _ id hid hsession message =>
      have hnamed : ∀ {other}, call.id? = some other → service.store.get? other = none :=
        fun hother => Option.some.inj (hid.symm.trans hother) ▸ hsession
      refine hagrees.unchanged (by simp [Exchange.Opens, Except.mapError])
        (fun other hclose => hnamed (congrArg Call.id? hclose)) ?_
      rintro other ⟨body, session, hrun, hother, -⟩
      exact absurd (hother.symm.trans (hnamed (congrArg Call.id? hrun))) (by simp)
  | described hsession =>
      exact hagrees.unchanged (by simp [Exchange.Opens, Except.mapError]) (by simp)
        (by simp [Exchange.ExecutesExit])
  | ended body hsession hrunning =>
      refine hagrees.unchanged (by simp [Exchange.Opens, Except.mapError]) (by simp) ?_
      rintro other ⟨_, session, hrun, hother, hstill, -⟩
      cases hrun
      rw [hsession] at hother
      cases hother
      rw [hrunning] at hstill
      cases hstill

/-! ### The answers -/

theorem answered_ok (response : Response) (status : Nat) :
    Answered (.ok response) status ↔ response.status = status := by
  simp [Answered]

/-- A call that names an id is answered 404 exactly if no session of the id is open. -/
theorem answered_noSession (hagrees : Agrees setup past service)
    {outcome : Except Escape Response} {id : Text} (hid : call.id? = some id)
    (hserves : Service.Serves setup service call outcome after) :
    Answered (outcome.mapError .session) 404 ↔ ¬ IsOpen past id := by
  rw [← hagrees.isOpen, not_not]
  cases hserves with
  | created | refused | broken => cases hid
  | missing hother hsession =>
      cases hother.symm.trans hid
      exact iff_of_true ((answered_ok _ _).mpr rfl) hsession
  | described hsession | closed hsession | ended _ hsession | ran hsession =>
      cases hid
      refine iff_of_false (fun hanswered => ?_) (by simp [hsession])
      exact absurd ((answered_ok _ _).mp hanswered) (by simp [Response.status])

/-- A line is answered 409 exactly if its session is open and has ended. -/
theorem answered_ended (hagrees : Agrees setup past service) {outcome : Except Escape Response}
    {id : Text} {body : Body.Line}
    (hserves : Service.Serves setup service (.run id body) outcome after) :
    Answered (outcome.mapError .session) 409 ↔ IsOpen past id ∧ HasEnded setup past id := by
  rw [← hagrees.isOpen]
  cases hserves with
  | missing hother hsession =>
      cases hother
      refine iff_of_false (fun hanswered => ?_) (by simp [hsession])
      exact absurd ((answered_ok _ _).mp hanswered) (by simp [Response.status])
  | ended _ hsession hrunning =>
      refine iff_of_true ((answered_ok _ _).mpr rfl) ⟨by simp [hsession], ?_⟩
      exact (hagrees.hasEnded id _ hsession).mp hrunning
  | ran hsession hrunning =>
      refine iff_of_false (fun hanswered => ?_) (fun hended => ?_)
      · exact absurd ((answered_ok _ _).mp hanswered) (by simp [Response.status])
      · rw [← hagrees.hasEnded id _ hsession, hrunning] at hended
        cases hended.2

/-- A line in an open session that has not ended is answered with what processing it gives. -/
theorem answered_ran (hagrees : Agrees setup past service) {outcome : Except Escape Response}
    {id : Text} {body : Body.Line} (hopen : IsOpen past id) (hended : ¬ HasEnded setup past id)
    (hserves : Service.Serves setup service (.run id body) outcome after) :
    ∃ session reply last, service.store.get? id = some session ∧
      Interpreter.processLine setup.commands (standardRegistry setup.commands) body.line
        (service.worldIn session body) = .ok reply last ∧
      outcome = .ok (.ran last.output.flatten last.session) ∧
      after.files = last.files ∧ after.store.get? id = some last.session := by
  cases hserves with
  | missing hother hsession =>
      cases hother
      exact absurd hsession ((hagrees.isOpen id).mpr hopen)
  | ended _ hsession hrunning =>
      exact absurd ((hagrees.hasEnded id _ hsession).mp hrunning) hended
  | @ran _ session _ reply last hsession hrunning hrun =>
      exact ⟨session, reply, last, hsession, hrun, rfl, rfl,
        SessionStore.get?_update_of_get? hsession (id_of_run hsession hrun)⟩

end Agrees

/-- A call that is refused changes nothing. -/
theorem Service.Serves.unchanged {setup : ServiceSetup} {service after : Service} {call : Call}
    {outcome : Except Escape Response} (hserves : Service.Serves setup service call outcome after)
    (hrefused : Answered (outcome.mapError .session) 400 ∨
      Answered (outcome.mapError .session) 404 ∨ Answered (outcome.mapError .session) 409) :
    after = service := by
  cases hserves with
  | created | closed | ran =>
      simp [Except.mapError, Agrees.answered_ok, Response.status] at hrefused
  | _ => rfl

/-- A call leaves every session but the one that it names. -/
theorem Service.Serves.others {setup : ServiceSetup} {service after : Service} {call : Call}
    {outcome : Except Escape Response} (hserves : Service.Serves setup service call outcome after)
    (hids : Function.Injective setup.ids) (hnumbered : service.store.Numbered setup.ids) {id : Text}
    {session : Session}
    (hother : call.id? ≠ some id) (hsession : service.store.get? id = some session) :
    after.store.get? id = some session := by
  cases hserves with
  | created =>
      rw [SessionStore.get?_create, if_neg, hsession]
      rintro rfl
      cases (hnumbered.get?_eq_none hids).symm.trans hsession
  | closed _ hstore =>
      rw [SessionStore.get?_of_close? hstore, if_neg, hsession]
      rintro rfl
      exact hother rfl
  | @ran named opened body reply last hopened hrunning hrun =>
      rw [SessionStore.get?_update, if_neg, hsession]
      rintro rfl
      exact hother (congrArg some (id_of_run hopened hrun).symm)
  | _ => exact hsession

theorem agrees_of_history {setup : ServiceSetup} (hids : Function.Injective setup.ids)
    {files : FileSystem} (hfiles : files.NullFree) {past : List Exchange} {service : Service}
    (hpast : History setup { files } past service) : Agrees setup past service := by
  induction hpast with
  | start => exact .start hfiles
  | request _ hcall hnull ih =>
      rw [Service.answer_of_call hcall]
      exact ih.serves hids hnull (Service.serves_serve ih.sound hnull)

/-- After any requests whatever, in a service that was started without sessions and gives a distinct
id to each that is opened: a call that names an id is answered 404 exactly if no session of the
id is open; a line is answered 409 exactly if its session is open and has executed `exit`, and else
it is answered with what processing it gives from the files and the session as they are; what is
answered 400, 404 or 409 changes nothing; and every session but the one named stays as it is. -/
theorem Service.life_cycle (setup : ServiceSetup) (hids : Function.Injective setup.ids)
    (files : FileSystem) (hfiles : files.NullFree) (past : List Exchange) (service : Service)
    (hpast : History setup { files } past service) (request : Request) (call : Call)
    (hcall : setup.reads request = .call call) (hnull : call.NullFree) :
    let outcome := (service.answer setup request).1
    let after := (service.answer setup request).2
    (∀ id, call.id? = some id → (Answered outcome 404 ↔ ¬ IsOpen past id)) ∧
    (∀ id body, call = .run id body →
      (Answered outcome 409 ↔ IsOpen past id ∧ HasEnded setup past id) ∧
      (IsOpen past id → ¬ HasEnded setup past id →
        ∃ session reply last, service.store.get? id = some session ∧
          Interpreter.processLine setup.commands (standardRegistry setup.commands) body.line
            (service.worldIn session body) = .ok reply last ∧
          outcome = .ok (.ran last.output.flatten last.session) ∧
          after.files = last.files ∧ after.store.get? id = some last.session)) ∧
    (Answered outcome 400 ∨ Answered outcome 404 ∨ Answered outcome 409 → after = service) ∧
    ∀ id session, call.id? ≠ some id → service.store.get? id = some session →
      after.store.get? id = some session := by
  intro outcome after
  have hagrees := agrees_of_history hids hfiles hpast
  have hserves : Service.Serves setup service call _ _ := serves_serve hagrees.sound hnull
  have hanswer : service.answer setup request = _ := answer_of_call hcall
  have houtcome : outcome = (service.serve setup call).1.mapError .session :=
    congrArg Prod.fst hanswer
  have hafter : after = (service.serve setup call).2 := congrArg Prod.snd hanswer
  rw [houtcome, hafter]
  refine ⟨fun id hid => hagrees.answered_noSession hid hserves, ?_, hserves.unchanged,
    fun id session => hserves.others hids hagrees.numbered⟩
  rintro id body rfl
  refine ⟨hagrees.answered_ended hserves, fun hopen hended => ?_⟩
  obtain ⟨session, reply, last, hsession, hrun, hran, hfiles, hstored⟩ :=
    hagrees.answered_ran hopen hended hserves
  exact ⟨session, reply, last, hsession, hrun, by rw [hran]; rfl, hfiles, hstored⟩

section Example

/-- A service whose sessions start at the root. -/
def rootService : ServiceSetup := { host := {}, settings := rootSettings }

/-- A request to open a session where the settings say. -/
def openRequest : Request where
  method := "POST"
  target := "/sessions"
  body := Text.utf8 "\x7b\x7d"

/-- A request to run `exit` in the session that is opened first. -/
def exitRequest : Request where
  method := "POST"
  target := "/sessions/" ++ SessionStore.idAfter 0 ++ "/commands"
  body := Text.utf8 "\x7b\"line\": \"exit\"\x7d"

/-- The session that is opened first runs the line `exit`. -/
theorem Service.life_cycle_exit :
    let opening : Exchange :=
      ⟨{ files := .empty }, .create none, (answer rootService { files := .empty } openRequest).1⟩
    let service := (answer rootService { files := .empty } openRequest).2
    Function.Injective rootService.ids ∧ FileSystem.empty.NullFree ∧
      History rootService { files := .empty } [opening] service ∧
      rootService.reads exitRequest = .call (.run (SessionStore.idAfter 0) ⟨"exit", []⟩) ∧
      ∃ session reply last,
        Interpreter.processLine rootService.commands (standardRegistry rootService.commands) "exit"
          (service.worldIn session ⟨"exit", []⟩) = .ok reply last ∧
        (service.answer rootService exitRequest).1 =
          .ok (.ran last.output.flatten last.session) := by
  intro opening service
  have hfiles : FileSystem.empty.NullFree := Node.nullFree_directory (by simp [FileSystem.empty])
  have hopen : rootService.reads openRequest = .call (.create none) := by decide +kernel
  have hpast : History rootService { files := .empty } [opening] service :=
    .request .start hopen trivial
  have hcall : rootService.reads exitRequest =
      .call (.run (SessionStore.idAfter 0) ⟨"exit", []⟩) := by
    decide +kernel
  have hcreated : opening.outcome =
      .ok (.created { id := SessionStore.idAfter 0, directory := "//" }) := by
    decide +kernel
  have hnull : Text.hasNull "exit" = false := by decide
  have hids : Function.Injective rootService.ids := SessionStore.idAfter_injective
  refine ⟨hids, hfiles, hpast, hcall, ?_⟩
  obtain ⟨-, hruns, -, -⟩ := life_cycle rootService hids .empty hfiles [opening] service hpast
    exitRequest _ hcall hnull
  have hisOpen : IsOpen [opening] (SessionStore.idAfter 0) :=
    ⟨[], opening, [], rfl, ⟨_, hcreated, rfl⟩, by simp⟩
  have hrunning : ¬ HasEnded rootService [opening] (SessionStore.idAfter 0) := by
    simp [HasEnded, Exchange.ExecutesExit, opening]
  obtain ⟨session, reply, last, -, hrun, hanswer, -⟩ := (hruns _ _ rfl).2 hisOpen hrunning
  exact ⟨session, reply, last, hrun, hanswer⟩

end Example

end LineShell.Http
