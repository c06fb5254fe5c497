import Vouch.Command.Keyserver
import Vouch.Keyserver.Store

/-!
The program: commands run in the operating system.

The program has no network of its own.  Every request, and every attempt to connect, fails at once
with a cause that says so; all else is done as the commands ask for it.
-/

namespace Vouch.Shell

open Keyserver Command

def variableNames : List String :=
  ["SIGVERDICT_KEYSERVER", "SIGVERDICT_KEYSERVER_CONFIG", "SIGVERDICT_KEYSERVER_TIMEOUT",
    "SIGVERDICT_KEYSERVER_MAX_RETRIES", "SIGVERDICT_SYNC_CONCURRENCY", "TZ"]

def environment : IO Environment :=
  variableNames.filterMapM fun name => do return (← IO.getEnv name).map fun value => (name, value)

def problemOf : IO.Error → File.Problem
  | .noFileOrDirectory .. => .missing
  | .alreadyExists .. => .alreadyThere
  | .inappropriateType .. => .isDirectory
  | error => .other (toString error)

def read (path : String) : IO (Except File.Problem String) := do
  try return File.textOf (← IO.FS.readBinFile ⟨path⟩)
  catch error => return .error (problemOf error)

def print : Stream → String → IO Unit
  | .output, line => IO.println line
  | .error, line => IO.eprintln line

def noNetwork : String := "the program has no network"

def store (folder keyId armored : String) : IO (Except Problem Unit) := do
  match Store.path folder keyId with
  | .error problem => return .error problem
  | .ok path =>
    try
      IO.FS.createDirAll ⟨folder⟩
      IO.FS.writeFile ⟨path⟩ armored
      return .ok ()
    catch error => return .error (.rejected keyId (problemOf error).message)

def work (folder : String) : Job α → IO α
  | .done a => pure a
  | .send _ next =>
    work folder (next (.failure { timedOut := false, causes := [noNetwork], host := none }))
  | .draw greatest next => do work folder (next (← IO.rand 0 greatest))
  | .sleep duration next => do
    IO.sleep (UInt32.ofNat duration)
    work folder next
  | .log _ next => work folder next
  | .deliver keyId armored next => do work folder (next (← store folder keyId armored))

def transfer (batch : Transfer) : IO (Option Import.Outcome) := do
  if (Batch.ofPlan? (batch.client.plan batch.keyIds) false).isNone then return none
  let total := batch.keyIds.length
  let entries ← batch.keyIds.zipIdx.mapM fun (keyId, i) => do
    let fate ← work batch.folder (batch.client.fetchAndImport keyId)
    if batch.followed then IO.eprintln (Import.Progress.text ⟨i + 1, total⟩)
    return { keyId, fate : Import.Entry }
  return some { entries, cancelled := false }

def surroundings : Surroundings IO where
  print := print
  read := read
  search client query := work Command.standardFolder (client.search query)
  upload client armored := work Command.standardFolder (client.upload armored)
  transfer := transfer
  probe client :=
    let connect (_ : Url.Host) (_ : Nat) : Probe.Connection := .failed noNetwork
    pure (client.config.servers.map (Probe.probe connect client.config.effectiveProbeTimeout))

def explain (usage : Usage) : IO Unit :=
  match usage with
  | .help | .noCommand => do
    print .output "Usage: sigverdict analyse <FILE> [--keys <FILE>] [--json]"
    print .output "       sigverdict keyserver <search|fetch|upload|sync|probe> ..."
    print .output "       sigverdict version"
  | .version => print .output ("sigverdict " ++ programVersion)
  | usage => print .error ("error: " ++ usage.message)

end Vouch.Shell

def main (words : List String) : IO UInt32 := do
  let env ← Vouch.Shell.environment
  match Vouch.Command.Invocation.read env words with
  | .error usage =>
    Vouch.Shell.explain usage
    return UInt32.ofNat usage.exitCode
  | .ok invocation =>
    let ending ← (invocation.program env).run Vouch.Shell.surroundings
    if let .failed failure := ending then
      Vouch.Shell.print .error ("error: " ++ failure.message)
    return UInt32.ofNat ending.code
