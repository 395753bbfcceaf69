import JudgeDesk.Main
import JudgeDesk.Desk.Rehearsal
import JudgeDesk.Binary64.Shortest
import JudgeDesk.Json.Writer
import JudgeDesk.Proofs.Artifact.Paths
import JudgeDesk.Proofs.Desk.NewProblem
import JudgeDesk.Proofs.Desk.Separate
import JudgeDesk.Proofs.Documents
import JudgeDesk.Proofs.Editor.Events
import JudgeDesk.Proofs.Judge.ReportedError
import JudgeDesk.Proofs.Problem.Apart
import JudgeDesk.Proofs.Problem.Candidates
import JudgeDesk.Proofs.Problem.Reload
import JudgeDesk.Proofs.Problem.Scores
import JudgeDesk.Proofs.Problem.Tidy
import JudgeDesk.Proofs.Problem.Unambiguous
import JudgeDesk.Proofs.Sessions.Lifetime
import JudgeDesk.Proofs.Settings.Usable
import JudgeDesk.Proofs.Submission.Form
import JudgeDesk.Proofs.TestGroup.Effect
import JudgeDesk.Proofs.TestGroup.Entry
import JudgeDesk.Proofs.TestGroup.Removal
import JudgeDesk.Proofs.TestGroup.Replay
import JudgeDesk.Proofs.TestGroup.Undo
import JudgeDesk.Proofs.View.Draining
import JudgeDesk.Proofs.View.Forgetting
import JudgeDesk.Proofs.Viewer.AnyOrder
import JudgeDesk.Proofs.Viewer.Fitting
import JudgeDesk.Proofs.Viewer.Lifecycle
