import KernelSynth.Session
import KernelSynth.Report
import KernelSynth.Delivery
import KernelSynth.ConfigFile
import KernelSynth.Cli.Command
import KernelSynth.Main
import KernelSynth.Proofs.Depth
import KernelSynth.Proofs.Session
import KernelSynth.Proofs.MixText
import KernelSynth.Proofs.Overlay
import KernelSynth.Proofs.Writing
import KernelSynth.Proofs.Invocation
import KernelSynth.Proofs.Substitution
import KernelSynth.Proofs.Rotated
import KernelSynth.Proofs.MixGrammar
import KernelSynth.Proofs.Extension
import KernelSynth.Proofs.KernelTypes
import KernelSynth.Proofs.WholeDoubles
import KernelSynth.Proofs.ShapeReport
import KernelSynth.Proofs.ArtifactFiles
