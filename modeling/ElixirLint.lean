import ElixirLint.Host.Programs
import ElixirLint.Main
import ElixirLint.Proofs.Agreement.Lint
import ElixirLint.Proofs.Cli.Printed
import ElixirLint.Proofs.Command
import ElixirLint.Proofs.Config
import ElixirLint.Proofs.Config.Envelopes
import ElixirLint.Proofs.Config.Nearest
import ElixirLint.Proofs.FileUri.Locality
import ElixirLint.Proofs.FileUri.Publishing
import ElixirLint.Proofs.Highlight.Arity
import ElixirLint.Proofs.Highlight.Columns
import ElixirLint.Proofs.Project.ConfigFile
import ElixirLint.Proofs.Queue.Displacement
import ElixirLint.Proofs.Queue.Enqueuing
import ElixirLint.Proofs.Queue.Fifo
import ElixirLint.Proofs.Queue.Finality
import ElixirLint.Proofs.Queue.Progress
import ElixirLint.Proofs.Queue.Signal
import ElixirLint.Proofs.Queue.Termination
import ElixirLint.Proofs.Report
import ElixirLint.Proofs.Service.Freshness
import ElixirLint.Proofs.Service.Serving
import ElixirLint.Proofs.Service.Warnings
import ElixirLint.Proofs.Session.Closing
import ElixirLint.Proofs.Session.Latest
import ElixirLint.Queue.Display
