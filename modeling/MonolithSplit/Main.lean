import MonolithSplit.Server.Connection

/-!
# The server on standard input and output

Runs the redesign server with the default settings, reading one JSON-RPC message per line from
standard input and writing each answer as one line to standard output, until the input ends or
a request cannot be read. Job ids start with a group drawn at random.
-/

open MonolithSplit MonolithSplit.Server

/-- Answers lines until the input ends or the server closes the connection. -/
partial def serveLines (c : Connection) (input output : IO.FS.Stream) : IO Unit := do
  let line ← input.getLine
  if line.isEmpty then return
  let (c, reception) := c.receive line
  match reception with
  | .ignored => serveLines c input output
  | .answered text =>
    output.putStrLn text
    output.flush
    serveLines c input output
  | .closes => return

def main : IO Unit := do
  let group ← IO.rand 0 (Nat.pow 16 8 - 1)
  serveLines (Connection.start Settings.default (Jobs.lowerHex 8 group)) (← IO.getStdin)
    (← IO.getStdout)
