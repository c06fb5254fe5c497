import Vouch.Command.Keyserver
import Vouch.Keyserver.Store
import Vouch.Rehearsal.Schedule

/-!
A stage to rehearse programs on: a folder in memory, the rehearsed world, and what was printed.
-/

namespace Vouch.Rehearsal

open Keyserver Command

structure Stage where
  folder : Folder
  world : World
  /-- The lines that were printed, the latest first. -/
  output : List String
  errors : List String

namespace Stage

def initial (folder : Folder) (script : Script) : Stage :=
  { folder, world := World.initial script, output := [], errors := [] }

def print (stage : Stage) : Stream → String → Stage
  | .output, line => { stage with output := line :: stage.output }
  | .error, line => { stage with errors := line :: stage.errors }

def work (stage : Stage) (client : Client) (job : Job α) : α × Stage :=
  let (a, world) := stage.world.run (client.config.timeout.toNat * 1000) job
  (a, { stage with world })

def importer (stage : Stage) (folder : String) : Importer Folder where
  state := stage.folder
  handle place keyId armored :=
    let (answer, place) := Store.add place folder keyId armored
    (.answers answer, false, place)

/-- The lines on what is seen of a batch.  Only the first interrupt is noticed. -/
def sightLines : (noticed : Bool) → List Sight → List String
  | _, [] => []
  | noticed, .progress p :: rest => p.text :: sightLines noticed rest
  | true, .interrupt :: rest => sightLines true rest
  | false, .interrupt :: rest => interruptLine :: sightLines true rest

def transfer (stage : Stage) (batch : Transfer) : Option Import.Outcome × Stage :=
  let options : Batch.Options :=
    if batch.followed then { cancel := some false, progress := true }
    else { cancel := none, progress := false }
  let setting : Setting Folder :=
    { importer := stage.importer batch.folder, options, cancelAtReport := none }
  let (shown?, world) := perform batch.client batch.keyIds setting stage.world
  match shown? with
  | none => (none, { stage with world })
  | some shown =>
    let lines := if batch.followed then sightLines false shown.sights else []
    (some shown.outcome,
      { stage with folder := shown.importer, world, errors := lines.reverse ++ stage.errors })

def probe (client : Client) : List Reachability :=
  client.config.servers.map (Probe.probe World.connect client.config.effectiveProbeTimeout)

def surroundings : Surroundings (StateM Stage) where
  print stream line := modify fun stage => stage.print stream line
  read path := do return (← get).folder.read path
  search client query := fun stage => stage.work client (client.search query)
  upload client armored := fun stage => stage.work client (client.upload armored)
  transfer batch := fun stage => stage.transfer batch
  probe client := pure (probe client)

def play (stage : Stage) (program : Program) : Command.Ending × Stage :=
  Id.run ((program.run surroundings).run stage)

def textOf (lines : List String) : String :=
  String.join (lines.map (· ++ "\n"))

end Stage

end Vouch.Rehearsal
