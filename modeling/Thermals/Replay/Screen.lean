import Thermals.Replay.Program

namespace Thermals.Replay

structure Screen where
  printed : List String := []
  complaints : List Complaint := []
  deriving DecidableEq

def Screen.write (screen : Screen) (lines : List String) : Screen :=
  { screen with printed := screen.printed ++ lines }

/-- What a run of the program depends on besides its command line. -/
structure Host where
  file? : String → Option ByteArray
  /-- The lines that the log of the program puts on its output with each note. -/
  journal : Note → List String := fun _ => []
  dies? : Nat → Option UInt32 := overflow?

def System.onScreen (host : Host) : System (StateM Screen) where
  content? path := return host.file? path
  print text := modify fun screen => screen.write [text]
  complain complaint := modify fun screen =>
    { screen with complaints := screen.complaints ++ [complaint] }
  note note := modify fun screen => screen.write (host.journal note)
  reserve room := return host.dies? room

def Host.execute (host : Host) (command : List String) : UInt32 × Screen :=
  ((System.onScreen host).program command).run {}

end Thermals.Replay
