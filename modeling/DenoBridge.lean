import DenoBridge.Cache
import DenoBridge.CommandLine.Run
import DenoBridge.Doctor.Report
import DenoBridge.Json.Display
import DenoBridge.Main
import DenoBridge.Session
import DenoBridge.Shell.Run
import DenoBridge.Url.Key
import DenoBridge.Version.Report
import DenoBridge.Proofs.Toolchain.Executable
import DenoBridge.Proofs.Toolchain.Passes
import DenoBridge.Proofs.Path.Descent
import DenoBridge.Proofs.Session.Pinning
import DenoBridge.Proofs.CommandLine.Formatting
import DenoBridge.Proofs.Toolchain.Probing
import DenoBridge.Proofs.Url.States
import DenoBridge.Proofs.Url.Rebuilding
import DenoBridge.Proofs.Url.Backslash
import DenoBridge.Proofs.Toolchain.Recovery
import DenoBridge.Proofs.Cache.Sources
import DenoBridge.Proofs.Url.Faults
import DenoBridge.Proofs.CommandLine.Resolving
import DenoBridge.Proofs.CommandLine.Doctoring
import DenoBridge.Proofs.Files.Putting
import DenoBridge.Proofs.Toolchain.Recording
import DenoBridge.Proofs.Toolchain.Guarding
import DenoBridge.Proofs.Toolchain.Repeating
import DenoBridge.Proofs.Url.Recasing
import DenoBridge.Proofs.Url.Shape
import DenoBridge.Proofs.Settings.Overriding
import DenoBridge.Proofs.Version.Floors
import DenoBridge.Proofs.Version.Reports
import DenoBridge.Proofs.Toolchain.Reporting
import DenoBridge.Proofs.CommandLine.Silence
import DenoBridge.Proofs.CommandLine.Synchronising
import DenoBridge.Proofs.Path.Ordering
import DenoBridge.Proofs.Path.Redundancy
import DenoBridge.Proofs.Url.Rewriting
