import StagedTest.Main
import StagedTest.Proofs.Clashes
import StagedTest.Proofs.ContainerLog
import StagedTest.Proofs.Exchanges
import StagedTest.Proofs.FailStop
import StagedTest.Proofs.FailureReports
import StagedTest.Proofs.Ingredients
import StagedTest.Proofs.LeftOvers
import StagedTest.Proofs.MirrorContents
import StagedTest.Proofs.PodShape
import StagedTest.Proofs.QuantityForms
import StagedTest.Proofs.Recording
import StagedTest.Proofs.ReleaseStreams
import StagedTest.Proofs.RequiredLinks
import StagedTest.Proofs.Restarting
import StagedTest.Proofs.Retries
import StagedTest.Proofs.Selectors
import StagedTest.Proofs.Shielding
import StagedTest.Proofs.SideBySide
import StagedTest.Proofs.StepEnvironment
import StagedTest.Proofs.StepFailures
import StagedTest.Proofs.VolumeNames
import StagedTest.Proofs.Watching
import StagedTest.Proofs.WrittenForms
import StagedTest.Rehearsal
import StagedTest.Workplace
