import Cutscene.Main
import Cutscene.Scene.Bubble
import Cutscene.Scene.StepReader
import Cutscene.Screen.App
import Cutscene.Script.FileTree
import Cutscene.Proofs.Playback.Failure
import Cutscene.Proofs.Playback.Screen
import Cutscene.Proofs.Playback.Tickets
import Cutscene.Proofs.Playback.Values
import Cutscene.Proofs.Playback.Reveals
import Cutscene.Proofs.Playback.Clock
import Cutscene.Proofs.Script.RoundTrip
import Cutscene.Proofs.Script.Scenes
import Cutscene.Proofs.Script.Definitions
import Cutscene.Proofs.Playback.Landing
import Cutscene.Proofs.Playback.Course
import Cutscene.Proofs.Playback.PlayThrough
import Cutscene.Proofs.Playback.Attendance
import Cutscene.Proofs.Playback.Agreement
import Cutscene.Proofs.Playback.Inputs
import Cutscene.Proofs.Playback.Stuck
import Cutscene.Proofs.Playback.Bookkeeping
import Cutscene.Proofs.Playback.Chains
import Cutscene.Proofs.Playback.FreshStart
import Cutscene.Proofs.Playback.Comparison
import Cutscene.Proofs.Playback.Publishing
import Cutscene.Proofs.Playback.Evolution
import Cutscene.Proofs.Playback.Affordance
import Cutscene.Proofs.Playback.Forwarding
import Cutscene.Proofs.Screen.Wrap
import Cutscene.Proofs.Screen.Divisions
import Cutscene.Proofs.Screen.Coordinates
import Cutscene.Proofs.Screen.Range
import Cutscene.Proofs.Screen.Growth
import Cutscene.Proofs.Playback.Viewport
import Cutscene.Proofs.Scene.Merging
import Cutscene.Proofs.Playback.Indifference
import Cutscene.Proofs.Script.StepReaders
import Cutscene.Proofs.Script.Repetitions
import Cutscene.Proofs.Script.Folders
import Cutscene.Proofs.Script.Respelling
import Cutscene.Proofs.Screen.Monitor
import Cutscene.Proofs.Command.Listing
