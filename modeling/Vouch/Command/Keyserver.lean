import Vouch.Command.Analyse
import Vouch.Command.Invocation
import Vouch.Keyserver.Text
import Vouch.Version

/-!
The commands about a keyserver, and the program of every invocation.
-/

namespace Vouch.Command

open Keyserver

def Settings.applied (settings : Settings) (env : Environment) (config : Config) : Config :=
  let config := config.withEnvironment env
  let config := match settings.server with
    | some server => config.withServer server
    | none => config
  match settings.timeout with
  | some timeout => { config with timeout }
  | none => config

def Settings.load (settings : Settings) (env : Environment) (next : Config → Program) : Program :=
  match settings.config with
  | none => next (settings.applied env .standard)
  | some path =>
    .read path fun content =>
      match Config.ofFile path content with
      | .error cause => .fail (.config path cause)
      | .ok config => next (settings.applied env config)

def withClient (config : Config) (next : Client → Program) : Program :=
  match Client.ofConfig config with
  | .error cause => .fail (.client cause)
  | .ok client => next client

def reportMiss (client : Client) (result : SearchResult) : Program :=
  .print .error (client.server ++ ": " ++ result.describe) (.exit result.exitCode)

def reportSearch (client : Client) (json : Bool) (result : SearchResult) : Program :=
  if json then .print .output result.toValue.pretty (.exit result.exitCode)
  else
    match result with
    | .found keys => .printAll .output (keys.flatMap Candidate.lines) (.exit result.exitCode)
    | _ => reportMiss client result

def reportTransfer (folder : String) (json : Bool) : Option Import.Outcome → Program
  | none => .finish .aborted
  | some outcome =>
    .printAll .output (if json then [outcome.toValue.pretty] else outcome.lines folder)
      (.exit outcome.exitCode)

def search (env : Environment) (query : String) (json : Bool) (settings : Settings) : Program :=
  settings.load env fun config =>
    withClient config fun client => .search client query (reportSearch client json)

/-- The command that fetches keys.  The name of a key stands for that key, and anything else for all
keys that a search finds. -/
def fetch (env : Environment) (query folder : String) (settings : Settings) : Program :=
  settings.load env fun config =>
    withClient config fun client =>
      let query := Text.trim query
      let fetchAll (keyIds : List String) : Program :=
        .transfer { client, keyIds, folder, followed := false } (reportTransfer folder false)
      if Key.isKeyId query then fetchAll [query]
      else
        .search client query fun result =>
          match result with
          | .found keys => fetchAll (keys.map Candidate.fetchId)
          | _ => reportMiss client result

def upload (env : Environment) (path : String) (settings : Settings) : Program :=
  .read path fun content =>
    match content with
    | .error cause => .fail (.keyFile path cause)
    | .ok armored =>
      settings.load env fun config =>
        withClient config fun client =>
          .upload client armored fun answer =>
            match answer with
            | .ok () =>
              .print .output ("uploaded " ++ path ++ " to " ++ client.server) (.exit 0)
            | .error problem => .complain problem.message problem.exitCode

def sync (env : Environment) (path folder : String) (concurrency : Option UInt64) (json : Bool)
    (settings : Settings) : Program :=
  .read path fun content =>
    match snapshotIn path content with
    | .error problem => .fail (.snapshot problem)
    | .ok db =>
      let keyIds := db.fingerprints
      if keyIds.isEmpty then .print .output ("no keys to sync in " ++ path) (.exit 0)
      else
        settings.load env fun config =>
          withClient { config with concurrency := concurrency.getD config.concurrency }
            fun client =>
              .transfer { client, keyIds, folder, followed := true } (reportTransfer folder json)

def probe (env : Environment) (timeout : Option UInt64) (settings : Settings) : Program :=
  settings.load env fun config =>
    withClient { config with probeTimeout := timeout.getD config.probeTimeout } fun client =>
      .probe client fun results =>
        .printAll .output (results.map Reachability.line) (.exit (Probe.exitCode results))

def zoneIn (env : Environment) : Time.Zone :=
  match env.lookup "TZ" with
  | some rule => Time.Zone.ofRule rule
  | none => Time.Zone.utc

def Invocation.program (env : Environment) : Invocation → Program
  | .analyse result keys json => Command.analyse (zoneIn env) result keys json
  | .search query json settings => Command.search env query json settings
  | .fetch query folder settings => Command.fetch env query folder settings
  | .upload key settings => Command.upload env key settings
  | .sync snapshot folder concurrency json settings =>
    Command.sync env snapshot folder concurrency json settings
  | .probe timeout settings => Command.probe env timeout settings
  | .version => .print .output programVersion (.exit 0)

end Vouch.Command
