import SshTemplate.Main
import SshTemplate.Proofs.Rendering.Stanzas
import SshTemplate.Proofs.Reading.Cycles
import SshTemplate.Proofs.Reading.Scope
import SshTemplate.Proofs.Reading.Schemes
import SshTemplate.Proofs.Sections.Effects
import SshTemplate.Proofs.Sections.Filing
import SshTemplate.Proofs.Sections.Reordering
import SshTemplate.Proofs.Template.Filling
import SshTemplate.Proofs.Wellformed.Documents
import SshTemplate.Proofs.Inheritance.Dangling
import SshTemplate.Proofs.Rendering.Failures
import SshTemplate.Proofs.Wellformed.Rendering
import SshTemplate.Proofs.Wellformed.LineBreaks
import SshTemplate.Proofs.Writing.RoundTrip
import SshTemplate.Proofs.Rendering.Duplicates
import SshTemplate.Proofs.Shell.Gateway
import SshTemplate.Proofs.Shell.Words
import SshTemplate.Proofs.Reading.Stopping
import SshTemplate.Proofs.Reading.Asking
import SshTemplate.Proofs.Rendering.Warnings
import SshTemplate.Proofs.Rendering.Identities
import SshTemplate.Proofs.Rendering.KeyFiles
import SshTemplate.Proofs.Template.Ranges
import SshTemplate.Proofs.Rendering.Unreached
import SshTemplate.Proofs.Commands.Update
import SshTemplate.Proofs.Template.Succession
import SshTemplate.Proofs.Template.Copies
import SshTemplate.Proofs.Template.Spans
import SshTemplate.Proofs.Template.Expansions
import SshTemplate.Proofs.Writing.Parts
import SshTemplate.Proofs.Writing.Arguments
import SshTemplate.Proofs.Template.Passes
import SshTemplate.Proofs.Order.Sorting
import SshTemplate.Proofs.Keys.Listing
import SshTemplate.Proofs.Rendering.Root
import SshTemplate.Proofs.Reading.Layout
import SshTemplate.Proofs.Writing.Inverse
import SshTemplate.Proofs.Sources.Home
import SshTemplate.Proofs.Sources.Spelling
import SshTemplate.Proofs.Commands.Remains
import SshTemplate.Proofs.Template.Copies
