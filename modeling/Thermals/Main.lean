import Thermals.Replay.Program

/-- The program at a terminal, with its log switched off. -/
def Thermals.Replay.System.console : Thermals.Replay.System IO where
  content? path := do
    try return some (← IO.FS.readBinFile path) catch _ => return none
  print := IO.println
  complain complaint := IO.eprintln complaint.text
  note _ := return
  reserve room := return Thermals.Replay.overflow? room

def main (command : List String) : IO UInt32 := Thermals.Replay.System.console.program command
