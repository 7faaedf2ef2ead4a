import SandboxProbe.Host.Script
import SandboxProbe.Json.Reader
import SandboxProbe.Main
import SandboxProbe.Proofs.Classification
import SandboxProbe.Proofs.Rendering
import SandboxProbe.Proofs.Deciding
import SandboxProbe.Proofs.Descriptors
import SandboxProbe.Proofs.FileTree.Effects
import SandboxProbe.Proofs.FileTree.Variants
import SandboxProbe.Proofs.Library
import SandboxProbe.Proofs.Log.Lines
import SandboxProbe.Proofs.Log.Filter
import SandboxProbe.Proofs.Log.Directive
import SandboxProbe.Proofs.CommandLine.Help
import SandboxProbe.Proofs.Extraction.Ending
import SandboxProbe.Proofs.Process
import SandboxProbe.Proofs.TextProfile
import SandboxProbe.Proofs.Json.Canonical
import SandboxProbe.Proofs.Errno
import SandboxProbe.Proofs.Attributes
import SandboxProbe.Proofs.Log.Story
