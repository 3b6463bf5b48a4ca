import AnswerQuery.Datastore
import AnswerQuery.Main
import AnswerQuery.Workbench
import AnswerQuery.Proofs.CommandLine
import AnswerQuery.Proofs.Room
import AnswerQuery.Proofs.Datastore.Boundaries
import AnswerQuery.Proofs.Datastore.Positions
import AnswerQuery.Proofs.Datastore.Reordering
import AnswerQuery.Proofs.Datastore.Lines
import AnswerQuery.Proofs.Datastore.Rereading
import AnswerQuery.Proofs.Datastore.Runs
import AnswerQuery.Proofs.Quoting.Goals
import AnswerQuery.Proofs.Quoting.Shell
import AnswerQuery.Proofs.Host.Site
import AnswerQuery.Proofs.Scan.Answers
import AnswerQuery.Proofs.Scan.Braces
import AnswerQuery.Proofs.Scan.Labels
import AnswerQuery.Proofs.Scan.Matches
import AnswerQuery.Proofs.Scan.Octets
import AnswerQuery.Proofs.Conventions
