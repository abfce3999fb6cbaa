import DrumMachine.Document.Writer
import DrumMachine.Song.Builder

/-!
# Writing a song

A song is written as the sections that declare it: the samples, then the order of play and the tempo
of each phrase, then the grids of each phrase that has any. The entry that gives the order of play
has a name no phrase's tempo can be written under, so a phrase of that name is declared by its grids
alone.
-/

namespace DrumMachine.Song

def sampleFields (sample : Sample) : List Value :=
  [.option "path" (.scalar sample.path),
    .option "volume" (.scalar (toString sample.volume.toInt)),
    .option "stereo" (.scalar sample.effect.name)] ++
    (sample.effect.params.map fun params => Value.option "params" params).toList

def samplesSection (song : Song) : Section :=
  ⟨Section.samplesName,
    song.samples.entries.map fun (name, sample) => ⟨name, .list (sampleFields sample)⟩⟩

/-- The section that gives the order of play and the tempos. -/
def arrangementSection (song : Song) : Section :=
  ⟨Section.arrangementName,
    ⟨Section.outputName, .list (song.output.map Value.scalar)⟩ ::
      (song.phrases.entries.filter fun (name, _) => name ≠ Section.outputName).map
        fun (name, phrase) =>
          ⟨name, .list [.option "bpm" (.scalar (toString phrase.bpm.toInt))]⟩⟩

/-- The sections that give the grids, one for each phrase that has any. -/
def gridSections (song : Song) : List Section :=
  (song.phrases.entries.filter fun (_, phrase) => !phrase.beats.isEmpty).map
    fun (name, phrase) =>
      ⟨name, phrase.beats.entries.map fun (track, beats) => ⟨track, .scalar (Grid.write beats)⟩⟩

def sections (song : Song) : List Section :=
  song.samplesSection :: song.arrangementSection :: song.gridSections

def write (song : Song) : String :=
  Document.writeSection Document.writeEntry song.samplesSection ++ "\n" ++
    Document.writeSection Document.writeEntry song.arrangementSection ++
    String.join (song.gridSections.map fun sec =>
      "\n" ++ Document.writeSection Document.writeGridEntry sec)

end DrumMachine.Song
