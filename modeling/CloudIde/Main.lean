import CloudIde.Http.Message
import CloudIde.Http.Router
import CloudIde.Server.Start
import Std.Time.DateTime.Timestamp

/-!
# The server program

The program takes its settings from the environment, reads requests from standard input and writes
the responses to standard output, one after the other, until the input ends. What is stored lives as
long as the program.
-/

namespace CloudIde.Program

/-- The environment variables that the server looks at. -/
def environment : IO Environment := do
  let value (name : String) : IO (Option Bytes) := do
    return (← IO.getEnv name).map Bytes.ofText
  return {
    port := ← value "PORT"
    host := ← value "HOST"
    apiBaseUrl := ← value "API_BASE_URL"
    databaseUrl := ← value "DATABASE_URL"
    home := ← value "HOME"
    subscriptionServices := ← value "SUBSCRIPTION_SERVICES" }

/-- The present instant. -/
def now : IO Instant := do
  let time ← Std.Time.Timestamp.now
  return (Instant.ofSeconds? time.toSecondsSinceUnixEpoch.val).getD default

/-- Random digits for an id. -/
def digits : IO HexDigits :=
  (List.range Identifier.size).mapM fun _ => do
    let digit ← IO.rand 0 15
    return ⟨digit % 16, Nat.mod_lt digit (by decide)⟩

/-- The rows of the head of the next message; none when the input has ended. -/
partial def head (input : IO.FS.Stream) : IO (Option (List String)) := do
  let rec rows (done : List String) : IO (Option (List String)) := do
    let row ← input.getLine
    if row.isEmpty then return if done.isEmpty then none else some done.reverse
    else if (trim row).isEmpty then return some done.reverse
    else rows (row :: done)
  rows []

/-- The next bytes of the input, fewer when it ends before. -/
partial def take (input : IO.FS.Stream) (count : Nat) : IO Bytes := do
  let rec chunks (left : Nat) (done : Bytes) : IO Bytes := do
    if left = 0 then return done
    else
      let chunk ← input.read left.toUSize
      if chunk.isEmpty then return done
      else chunks (left - chunk.size) (done ++ chunk.data.toList)
  chunks count []

/-- Answers requests until the input ends. -/
partial def serve (server : Server) (input output : IO.FS.Stream) (store : Store) : IO Unit := do
  match ← head input with
  | none => return
  | some [] => serve server input output store
  | some (start :: rows) =>
    let headers := rows.filterMap Http.headerLine?
    let body ← take input (Http.bodyLength headers)
    match Http.startLine? start with
    | none =>
      output.write ⟨(Http.Response.bare 400).message.toArray⟩
      output.flush
    | some (method, target) =>
      let ctx : Context := ⟨server.settings.apiBaseUrl, server.registry, ← now, ← digits⟩
      let reply := Http.respond ctx store (.ofTarget method target headers body)
      output.write ⟨reply.response.message.toArray⟩
      output.flush
      serve server input output reply.store

end CloudIde.Program

/-- Runs the server. -/
def main : IO UInt32 := do
  let (_, started) := CloudIde.Server.start (← CloudIde.Program.environment) .empty []
  if let .ok server := started then
    CloudIde.Program.serve server (← IO.getStdin) (← IO.getStdout) server.database.store
  IO.eprint (CloudIde.Server.report started)
  return UInt32.ofNat (CloudIde.Server.exitCode started)
