/-
`main` of the client handler, up to the start of its session.

The process reads its arguments, requests the bus name made from the uuid and
claims its socket from the server.  Whatever fails on the way ends it before
there is a session.
-/

import OpenSmsc.Server.SessionId

namespace OpenSmsc.ClientMain

/-! ### Arguments -/

structure Arguments where
  uuid : Octets := text ""
  clientIp : Octets := text ""
  serverSvc : Octets := text "com.telecom.smpp.Server"
  deriving DecidableEq, Repr

/-- One turn of the loop over `argv`.  An argument that is none of the three
is ignored. -/
def readArgument (args : Arguments) (a : Octets) : Arguments :=
  if (text "--uuid=").isPrefixOf a then { args with uuid := a.drop 7 }
  else if (text "--client-ip=").isPrefixOf a then
    { args with clientIp := a.drop 12 }
  else if (text "--server-svc=").isPrefixOf a then
    { args with serverSvc := a.drop 13 }
  else args

/-- The loop starts behind the name of the program. -/
def readArguments (argv : List Octets) : Arguments :=
  argv.tail.foldl readArgument {}

/-! ### Up to the session -/

/-- What `main` needs of the bus.  `none` and `false` stand for the exceptions
of sdbus, after which the process exits. -/
structure Bus (State : Type) where
  createSystemBusConnection : Octets → State → Bool × State
  getSocket : (serverSvc uuid : Octets) → State → Option Int × State

inductive Outcome where
  | exitFailure
  | session (fd : Int) (uuid clientIp serverSvc : Octets)
  deriving DecidableEq, Repr

def main {State : Type} (bus : Bus State) (argv : List Octets)
    (state : State) : Outcome × State :=
  let args := readArguments argv
  if args.uuid.isEmpty || args.clientIp.isEmpty then (.exitFailure, state)
  else
    let svcName := clientBusName args.uuid
    let (connected, state) := bus.createSystemBusConnection svcName state
    if !connected then (.exitFailure, state)
    else
      let (fd, state) := bus.getSocket args.serverSvc args.uuid state
      match fd with
      | none => (.exitFailure, state)
      | some fd =>
          (.session fd args.uuid args.clientIp args.serverSvc, state)

/-! ### The arguments a launched process gets -/

theorem readArgument_uuid (args : Arguments) (uuid : Octets) :
    readArgument args (text "--uuid=" ++ uuid) = { args with uuid := uuid } :=
  rfl

theorem readArgument_clientIp (args : Arguments) (clientIp : Octets) :
    readArgument args (text "--client-ip=" ++ clientIp) =
      { args with clientIp := clientIp } := rfl

theorem readArguments_launched (program uuid clientIp : Octets) :
    readArguments [program, text "--uuid=" ++ uuid,
        text "--client-ip=" ++ clientIp] =
      { uuid := uuid
        clientIp := clientIp } := by
  simp only [readArguments, List.tail_cons, List.foldl_cons, List.foldl_nil,
    readArgument_uuid, readArgument_clientIp]

end OpenSmsc.ClientMain
