import StagedTest.Folder
import StagedTest.Host
import StagedTest.Network

/-!
# Workplaces

A workplace is a host whose files are in one folder, and whose way to the cluster is a scripted
network, or leads nowhere. Time passes where something waits, even when there is no way.
-/
namespace StagedTest

/-- A host with one folder. -/
structure Workplace where
  /-- The files. -/
  folder : Folder
  /-- The variables. -/
  environment : StringMap String
  /-- The clock and the script of the way to the cluster. -/
  network : Network
  /-- Whether the way leads to the cluster. -/
  isConnected : Bool

namespace Workplace

/-- Answers what is asked of the way to a cluster when it leads nowhere. -/
def disconnected : Handler Transport Network
  | .exchange _ => fun network => (.error .unreachable, network)
  | .exchangeBefore _ _ => fun network => (some (.error .unreachable), network)
  | asked => Network.handler asked

/-- Answers what is asked of a host. -/
def handler : Handler Host Workplace
  | .readFile path => fun place => (place.folder.read path, place)
  | .writeFile path content => fun place =>
    match place.folder.write path content with
    | .ok folder => (.ok (), { place with folder })
    | .error failure => (.error failure, place)
  | .environment => fun place => (place.environment, place)
  | .transport asked => fun place =>
    let (answer, network) :=
      if place.isConnected then Network.handler asked place.network
      else disconnected asked place.network
    (answer, { place with network })

end Workplace

end StagedTest
