import TagTemplate.Environment
import TagTemplate.Proofs.Compile.Matching
import TagTemplate.Proofs.Block.Body
import TagTemplate.Proofs.Block.Scan
import TagTemplate.Proofs.Block.Strict
import TagTemplate.Proofs.Block.Repair
import TagTemplate.Proofs.Layout.Code
import TagTemplate.Proofs.Layout.Links
import TagTemplate.Proofs.Layout.Enclosing
import TagTemplate.Proofs.Machine.Moves
import TagTemplate.Proofs.Meaning.Basic
import TagTemplate.Proofs.Meaning.Compiled
import TagTemplate.Proofs.Meaning.Extent
import TagTemplate.Proofs.Meaning.Correct
import TagTemplate.Proofs.Machine.Loops
import TagTemplate.Proofs.Machine.Safety
import TagTemplate.Proofs.Machine.Reference
import TagTemplate.Proofs.Machine.Halting
import TagTemplate.Proofs.Include.Basic
import TagTemplate.Proofs.Include.Calm
import TagTemplate.Proofs.Include.Lockstep
import TagTemplate.Proofs.Tag.Grammar
import TagTemplate.Proofs.Tag.Reading
import TagTemplate.Proofs.Tag.Occurrence
import TagTemplate.Proofs.Token.Keyword
import TagTemplate.Proofs.Token.Lines
import TagTemplate.Proofs.Token.Tiling
import TagTemplate.Proofs.Include.Fetch
import TagTemplate.Proofs.Include.Chains
import TagTemplate.Proofs.Include.Depth
import TagTemplate.Proofs.Include.Room
import TagTemplate.Proofs.Layout.Congruence
import TagTemplate.Proofs.Meaning.Alike
import TagTemplate.Proofs.Include.Inline
import TagTemplate.Proofs.Token.Spelling
import TagTemplate.Proofs.Machine.Markup
import TagTemplate.Proofs.Text.Scalar
import TagTemplate.Proofs.Value.Plain
import TagTemplate.Proofs.Compile.Names
import TagTemplate.Proofs.Meaning.Lenient
import TagTemplate.Proofs.Value.Merge
import TagTemplate.Proofs.Template.History
import TagTemplate.Proofs.Layout.Bare
import TagTemplate.Proofs.Include.Splice
import TagTemplate.Proofs.Text.Boundaries
import TagTemplate.Proofs.Token.Places
import TagTemplate.Proofs.Include.Blame
import TagTemplate.Proofs.Text.Utf8
import TagTemplate.Proofs.Escape.Percent
import TagTemplate.Proofs.Escape.Entities
import TagTemplate.Proofs.Token.Joined
import TagTemplate.Proofs.Loader.Leaves
import TagTemplate.Proofs.Include.Surfacing
import TagTemplate.Proofs.Value.Guards
import TagTemplate.Proofs.Compile.Settled
import TagTemplate.Proofs.Meaning.Exchange
import TagTemplate.Proofs.Meaning.Duals
import TagTemplate.Proofs.Loader.Paths
import TagTemplate.Proofs.Loader.Files
import TagTemplate.Proofs.Include.Confined
import TagTemplate.Proofs.Include.Settings
import TagTemplate.Proofs.Template.Literal
import TagTemplate.Proofs.Compile.Merging
import TagTemplate.Proofs.Text.Quoted
import TagTemplate.Proofs.Text.Numerals
import TagTemplate.Proofs.Program.References
import TagTemplate.Proofs.Program.Listing
import TagTemplate.Proofs.Error.Compact
import TagTemplate.Proofs.Include.Codes
