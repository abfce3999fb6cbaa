import DrumMachine.Effect.Inspect
import DrumMachine.Files.Tree
import DrumMachine.Main
import DrumMachine.Proofs.Document.Layout
import DrumMachine.Proofs.Document.Page
import DrumMachine.Proofs.Document.Grammar
import DrumMachine.Proofs.Document.Reading
import DrumMachine.Proofs.Document.Written
import DrumMachine.Proofs.NameTable
import DrumMachine.Proofs.Song.Declared
import DrumMachine.Proofs.Text.Numeral
import DrumMachine.Proofs.Text.Saturation
import DrumMachine.Proofs.Song.Rebuilt
import DrumMachine.Proofs.Files.Tree
import DrumMachine.Proofs.Export.Split
import DrumMachine.Proofs.Song.RoundTrip
import DrumMachine.Proofs.Song.Saved
import DrumMachine.Proofs.Effect.Frames
import DrumMachine.Proofs.Playback.Timeline
import DrumMachine.Proofs.Playback.EmptySteps
import DrumMachine.Proofs.Document.Depth
import DrumMachine.Proofs.Song.Valid
import DrumMachine.Proofs.Song.Reading
import DrumMachine.Proofs.Song.Built
import DrumMachine.Proofs.Playback.Alignment
import DrumMachine.Proofs.Playback.Length
import DrumMachine.Proofs.Document.Prefixes
import DrumMachine.Proofs.Song.Glyphs
import DrumMachine.Proofs.Song.Faults
import DrumMachine.Proofs.Song.Formatted
import DrumMachine.Proofs.Song.Cut
import DrumMachine.Proofs.Wave.Header
import DrumMachine.Proofs.Wave.Loading
import DrumMachine.Proofs.Report.Audio
import DrumMachine.Proofs.Playback.Joined
import DrumMachine.Proofs.Effect.History
import DrumMachine.Proofs.Effect.Chorus
import DrumMachine.Proofs.Effect.Reverb
import DrumMachine.Proofs.Effect.Channels
import DrumMachine.Proofs.Playback.Declaration
import DrumMachine.Proofs.Effect.Bindings
import DrumMachine.Proofs.Document.Leaves
import DrumMachine.Proofs.Effect.Parameters
