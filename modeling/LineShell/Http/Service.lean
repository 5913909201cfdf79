import LineShell.Command.Standard
import LineShell.Http.Call
import LineShell.Session.Interpreter
import LineShell.Session.Store
import LineShell.Settings.Basic

/-!
# The service

Sessions that are driven by requests.  Every line is run by an interpreter of its own; nothing but
the files and the session carries over from one request to the next.  Neither how requests are read
nor how ids are made is the service's own: both are given to it.
-/

namespace LineShell.Http

/-- What the service knows between two requests. -/
structure Service where
  files : FileSystem
  store : SessionStore := {}

/-- What is fixed for the service: the machine and the settings, how requests are read, and the ids
that sessions get one after the other. -/
structure ServiceSetup where
  host : Host
  settings : Settings
  reads : Request → Reading := Request.reading
  ids : Nat → Text := SessionStore.idAfter

/-- What the commands of all sessions share. -/
def ServiceSetup.commands (setup : ServiceSetup) : Setup :=
  { host := setup.host, sentinel := setup.settings.sentinel }

/-- The id of the session that is opened next. -/
def ServiceSetup.nextId (setup : ServiceSetup) (store : SessionStore) : Text :=
  setup.ids store.opened

namespace Service

/-- Opens a session. -/
def create (setup : ServiceSetup) (service : Service) (directory : Option Text) :
    Except Escape Response × Service :=
  match setup.settings.startIn setup.host service.files directory with
  | .error .nullByte => (.error .nullByte, service)
  | .error .noWorkingDirectory => (.error .noWorkingDirectory, service)
  | .error fault => (.ok (.badDirectory fault.message), service)
  | .ok path =>
      let (session, store) := service.store.create path (setup.nextId service.store)
      (.ok (.created session), { service with store })

/-- Describes a session. -/
def describe (service : Service) (id : Text) : Response :=
  match service.store.get? id with
  | some session => .described session
  | none => .noSession (SessionStore.notFoundMessage id)

/-- Closes a session. -/
def close (service : Service) (id : Text) : Response × Service :=
  match service.store.close? id with
  | some store => (.closed, { service with store })
  | none => (.noSession (SessionStore.notFoundMessage id), service)

/-- Runs a line in a session of the store. -/
def runIn (setup : ServiceSetup) (service : Service) (session : Session) (body : Body.Line) :
    Except Escape Response × Service :=
  let world : World :=
    { files := service.files, session, output := [], reader := .scripted body.inputLines }
  match Interpreter.processLine setup.commands (standardRegistry setup.commands) body.line world with
  | .ok _ after =>
      (.ok (.ran after.output.flatten after.session),
        { files := after.files, store := service.store.update after.session })
  | .error escape after =>
      (.error escape, { files := after.files, store := service.store.update after.session })

/-- Runs a line in the session of an id. -/
def run (setup : ServiceSetup) (service : Service) (id : Text) (body : Body.Line) :
    Except Escape Response × Service :=
  match service.store.get? id with
  | none => (.ok (.noSession (SessionStore.notFoundMessage id)), service)
  | some session =>
      if session.running then runIn setup service session body
      else (.ok .ended, service)

/-- Does what a call asks for. -/
def serve (setup : ServiceSetup) (service : Service) : Call → Except Escape Response × Service
  | .create directory => service.create setup directory
  | .describe id => (.ok (service.describe id), service)
  | .close id => (.ok (service.close id).1, (service.close id).2)
  | .run id body => service.run setup id body

/-- Answers a request. -/
def answer (setup : ServiceSetup) (service : Service) (request : Request) :
    Except Breakdown Response × Service :=
  match setup.reads request with
  | .call call =>
      let (outcome, after) := service.serve setup call
      (outcome.mapError .session, after)
  | .answer response => (.ok response, service)
  | .broken breakdown => (.error breakdown, service)

end Service

end LineShell.Http
