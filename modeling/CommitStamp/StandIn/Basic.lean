import CommitStamp.Host.FileTree
/-!
# Stand-ins for a version control program

A stand-in answers the two queries with what it was given, and does nothing else.
-/

namespace CommitStamp

/-- What a stand-in answers to a query. -/
structure StandIn.Answer where
  output : Bytes := []
  /-- What it exits with; the system keeps the lowest byte. -/
  code : Int := 0
  /-- The signal that it sends itself instead. -/
  signal? : Option Nat := none
  /-- It sleeps for half a minute and then ends by itself. -/
  hangs : Bool := false
deriving DecidableEq

/-- A program with canned answers. -/
structure StandIn where
  log : StandIn.Answer := {}
  status : StandIn.Answer := {}
  /-- What it writes as error output, whatever it is asked. -/
  errors : Bytes := []
deriving DecidableEq

namespace StandIn

/-- The greatest number of a signal. -/
def lastSignal : Nat := 64

/-- The signals that a process does not notice. -/
def unnoticedSignals : List Nat := [0, 17, 18, 23, 28]

/-- The signals that stop a process without ending it. -/
def stoppingSignals : List Nat := [19, 20, 21, 22]

/-- How an answer ends, if it does. -/
def Answer.ending? (a : Answer) : Option Ending :=
  match a.signal?.filter fun n => n ≤ lastSignal ∧ n ∉ unnoticedSignals with
  | none => some (.exit (a.code % 256).toNat)
  | some n => if n ∈ stoppingSignals then none else some (.signal n)

/-- What a stand-in does to give an answer. -/
def Answer.response (a : Answer) (errors : Bytes) : Response :=
  if a.hangs then { output := a.output, errors, duration := 30000 }
  else
    match a.ending? with
    | some ending => { output := a.output, errors, ending }
    | none => { output := a.output, errors, duration := UInt64.size }

/-- What a stand-in does. The first argument tells the query; to any other it has no answer. -/
def response (s : StandIn) (arguments : List Bytes) : Response :=
  let query := Encoding.utf8.decode (arguments.headD [])
  if query = "log".toList then s.log.response s.errors
  else if query = "status".toList then s.status.response s.errors
  else { errors := s.errors }

/-- The program that a stand-in is. -/
def program (s : StandIn) : Program := fun i => .ok (s.response i.arguments)

end StandIn

end CommitStamp
