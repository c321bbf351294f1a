import AslBuild.Main
import AslBuild.Proofs.CommandLine.DryRun
import AslBuild.Proofs.Native.Runtime
import AslBuild.Proofs.Pipeline.Minimal
import AslBuild.Proofs.Pipeline.MlirFile
import AslBuild.Proofs.Script.Grammar
import AslBuild.Proofs.Script.Recorded
import AslBuild.Proofs.Session.Cleanup
import AslBuild.Proofs.Session.Directives
import AslBuild.Proofs.Session.Dump
import AslBuild.Proofs.Session.FailFast
import AslBuild.Proofs.Session.Failures
import AslBuild.Proofs.Session.NativeCommands
import AslBuild.Proofs.Session.Objects
import AslBuild.Proofs.Session.Program
import AslBuild.Proofs.Session.Queries
import AslBuild.Proofs.Session.Rejection
import AslBuild.Proofs.Session.Resolution
import AslBuild.Proofs.Session.ShownFlags
import AslBuild.Proofs.Session.Stale
import AslBuild.Proofs.Symbols.Forms
