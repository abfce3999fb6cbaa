import DrumMachine.Wave.Reader
import DrumMachine.Wave.Writer
import Mathlib.Algebra.Order.Group.Nat

/-!
# Reading the head of a file that was written

Numbers come back from their bytes as long as they fit, so the head that is written in front of
samples is read as the format they are written in and the number of them, and the bytes of the
samples are what is left (`readHeader_encode`).
-/

namespace DrumMachine.Wave

theorem Encoding.width_pos (encoding : Encoding) : 0 < encoding.width := by
  cases encoding <;> decide

/-! ### Bytes of a file -/

theorem toList_loop (bytes : ByteArray) (index : Nat) (done : List UInt8) :
    ByteArray.toList.loop bytes index done = done.reverse ++ bytes.data.toList.drop index := by
  induction index, done using ByteArray.toList.loop.induct bytes with
  | case1 index done h ih =>
    have hget : bytes.get! index = bytes.data.toList[index] := getElem!_pos bytes.data index h
    rw [ByteArray.toList.loop, if_pos h, ih, List.reverse_cons, List.append_assoc,
      List.singleton_append, hget, ← List.drop_eq_getElem_cons]
  | case2 index done h =>
    rw [ByteArray.toList.loop, if_neg h, List.drop_of_length_le (Nat.le_of_not_lt h),
      List.append_nil]

theorem toList_eq_data (bytes : ByteArray) : bytes.toList = bytes.data.toList := by
  rw [ByteArray.toList, toList_loop]
  rfl

theorem data_append (bytes : ByteArray) (more : List UInt8) :
    (append bytes more).data.toList = bytes.data.toList ++ more := by
  induction more generalizing bytes with
  | nil => rw [append, List.foldl_nil, List.append_nil]
  | cons byte more ih =>
    rw [append, List.foldl_cons]
    refine (ih (bytes.push byte)).trans ?_
    rw [ByteArray.data_push, Array.toList_push, List.append_assoc, List.singleton_append]

theorem data_encodeData (encoding : Encoding) (samples : Array Float32) (before : ByteArray) :
    (encodeData encoding samples before).data.toList =
      before.data.toList ++ samples.toList.flatMap (encodeSample encoding) := by
  rw [encodeData, ← Array.foldl_toList]
  induction samples.toList generalizing before with
  | nil => rw [List.foldl_nil, List.flatMap_nil, List.append_nil]
  | cons sample samples ih =>
    rw [List.foldl_cons, ih, data_append, List.flatMap_cons, List.append_assoc]

theorem data_encode (encoding : Encoding) (channels : Nat) (samples : Array Float32) :
    (encode encoding channels samples).data.toList =
      header encoding channels (samples.size * encoding.width) ++
        samples.toList.flatMap (encodeSample encoding) := by
  rw [encode, data_encodeData, data_append]
  rfl

/-! ### Numbers in bytes -/

theorem length_littleEndian (count n : Nat) : (littleEndian count n).length = count := by
  induction count generalizing n with
  | zero => rfl
  | succ count ih => rw [littleEndian, List.length_cons, ih]

theorem ofLittleEndian_littleEndian {count n : Nat} (h : n < 256 ^ count) :
    ofLittleEndian (littleEndian count n) = n := by
  induction count generalizing n with
  | zero => rw [littleEndian, ofLittleEndian, Nat.lt_one_iff.1 h]
  | succ count ih =>
    have hrest : n / 256 < 256 ^ count := Nat.div_lt_of_lt_mul (by rwa [← Nat.pow_succ'])
    rw [littleEndian, ofLittleEndian, ih hrest, UInt8.toNat_ofNat']
    exact Nat.mod_add_div n 256

theorem length_encodeSample (encoding : Encoding) (sample : Float32) :
    (encodeSample encoding sample).length = encoding.width := by
  cases encoding with
  | float32 => exact length_littleEndian _ _
  | int16 => exact length_littleEndian _ _

theorem length_flatMap_encodeSample (encoding : Encoding) (samples : List Float32) :
    (samples.flatMap (encodeSample encoding)).length = samples.length * encoding.width := by
  induction samples with
  | nil => rw [List.flatMap_nil, List.length_nil, List.length_nil, Nat.zero_mul]
  | cons sample samples ih =>
    rw [List.flatMap_cons, List.length_append, length_encodeSample, ih, List.length_cons,
      Nat.succ_mul, Nat.add_comm]

/-! ### Taking bytes -/

theorem take_append {first : List UInt8} {count : Nat} (h : first.length = count)
    (rest : List UInt8) : take count (first ++ rest) = .ok (first, rest) := by
  subst h
  simp only [take, List.take_left, List.drop_left, if_true]

theorem takeNumber_append {count n : Nat} (h : n < 256 ^ count) (rest : List UInt8) :
    takeNumber count (littleEndian count n ++ rest) = .ok (n, rest) := by
  rw [takeNumber, take_append (length_littleEndian count n)]
  exact congrArg _ (congrArg (·, rest) (ofLittleEndian_littleEndian h))

theorem require_of_eq_true {sound : Bool} (h : sound = true) (defect : Defect) :
    require sound defect = .ok () := by
  rw [require, if_pos h]

theorem require_bind {α : Type} {sound : Bool} (h : sound = true) (defect : Defect)
    (f : Unit → Except ReadError α) : (require sound defect >>= f) = f () := by
  rw [require_of_eq_true h]
  rfl

theorem take_bind {α : Type} {first : List UInt8} {count : Nat} (h : first.length = count)
    (rest : List UInt8) (f : List UInt8 × List UInt8 → Except ReadError α) :
    (take count (first ++ rest) >>= f) = f (first, rest) := by
  rw [take_append h]
  rfl

theorem takeNumber_bind {α : Type} {count n : Nat} (h : n < 256 ^ count) (rest : List UInt8)
    (f : Nat × List UInt8 → Except ReadError α) :
    (takeNumber count (littleEndian count n ++ rest) >>= f) = f (n, rest) := by
  rw [takeNumber_append h]
  rfl

/-! ### The head of a file -/

/-- What a reader is told of samples that were written. -/
def Format.written (encoding : Encoding) (channels : Nat) : Format :=
  ⟨encoding == .float32, channels, Tempo.sampleRate, 8 * encoding.width, encoding.width⟩

theorem bytesPerSecond_lt {align : Nat} (h : align < 256 ^ 2) :
    Tempo.sampleRate * align < 256 ^ 4 := by
  rw [Tempo.sampleRate]
  omega

/-- The fields that both kinds of format chunks begin with. -/
theorem readFormat_common (encoding : Encoding) {length channels tag : Nat} (hlength : 16 ≤ length)
    (hpos : 0 < channels) (halign : channels * encoding.width < 256 ^ 2) (htag : tag < 256 ^ 2)
    (rest : List UInt8) :
    readFormat length
        (littleEndian 2 tag ++ (littleEndian 2 channels ++ (littleEndian 4 Tempo.sampleRate ++
          (littleEndian 4 (Tempo.sampleRate * (channels * encoding.width)) ++
            (littleEndian 2 (channels * encoding.width) ++
              (littleEndian 2 (8 * encoding.width) ++ rest)))))) =
      let format : Format :=
        ⟨false, channels, Tempo.sampleRate, 8 * encoding.width, encoding.width⟩
      if tag = intTag then readIntFormat length format rest
      else if tag = floatTag then readFloatFormat length format rest
      else if tag = extensibleTag then readExtensibleFormat length format rest
      else throw .unsupported := by
  have hchannels : channels < 256 ^ 2 :=
    (Nat.le_mul_of_pos_right channels encoding.width_pos).trans_lt halign
  have hwidth : channels * encoding.width / channels = encoding.width :=
    Nat.mul_div_cancel_left _ hpos
  have hrate := bytesPerSecond_lt halign
  have hbits : 8 * encoding.width < 256 ^ 2 := by cases encoding <;> decide
  have hbyteRate : (decide (channels * encoding.width * Tempo.sampleRate < 0x100000000) &&
      Tempo.sampleRate * (channels * encoding.width) ==
        channels * encoding.width * Tempo.sampleRate) = true := by
    rw [Bool.and_eq_true, decide_eq_true_iff, beq_iff_eq, Nat.mul_comm]
    exact ⟨hrate, rfl⟩
  unfold readFormat
  simp only [require_bind (decide_eq_true hlength), takeNumber_bind htag,
    takeNumber_bind hchannels, takeNumber_bind (show Tempo.sampleRate < 256 ^ 4 by decide),
    takeNumber_bind hrate, takeNumber_bind halign, takeNumber_bind hbits, hwidth,
    require_bind (bne_iff_ne.2 hpos.ne'), require_bind hbyteRate]
  cases encoding <;> rfl

theorem length_formatChunk (encoding : Encoding) (channels : Nat) :
    (formatChunk encoding channels).length =
      match encoding with
      | .int16 => 16
      | .float32 => 40 := by
  cases encoding <;>
    simp only [formatChunk, identifier, identifierTail, List.length_append, length_littleEndian,
      List.length_cons, List.length_nil]

theorem readFormat_formatChunk (encoding : Encoding) {channels : Nat} (hpos : 0 < channels)
    (halign : channels * encoding.width < 256 ^ 2) (rest : List UInt8) :
    readFormat (formatChunk encoding channels).length (formatChunk encoding channels ++ rest) =
      .ok (.written encoding channels, rest) := by
  rw [length_formatChunk]
  cases encoding with
  | int16 =>
    simp only [formatChunk, List.append_assoc]
    rw [readFormat_common .int16 (Nat.le_refl 16) hpos halign (by decide)]
    rfl
  | float32 =>
    have hextra : 22 < 256 ^ 2 := by decide
    have hvalid : 32 < 256 ^ 2 := by decide
    have hkind : (identifier floatTag).length = 16 := rfl
    simp only [formatChunk, List.append_assoc]
    rw [readFormat_common .float32 (by decide) hpos halign (by decide)]
    change readExtensibleFormat 40 _ _ = _
    unfold readExtensibleFormat
    simp only [takeNumber_bind hextra, takeNumber_bind hvalid, take_bind (length_littleEndian _ _),
      take_bind hkind]
    rfl

theorem readChunks_formatChunk (encoding : Encoding) {channels : Nat} (hpos : 0 < channels)
    (halign : channels * encoding.width < 256 ^ 2) (fuel : Nat) (format? : Option Format)
    (rest : List UInt8) :
    readChunks (fuel + 1) format?
        (chunkHead "fmt " (formatChunk encoding channels).length ++
          (formatChunk encoding channels ++ rest)) =
      readChunks fuel (some (.written encoding channels)) rest := by
  have hlength : (formatChunk encoding channels).length < 256 ^ 4 := by
    rw [length_formatChunk]
    cases encoding <;> decide
  have hname : (ascii "fmt ").length = 4 := rfl
  rw [readChunks, chunkHead, List.append_assoc]
  simp only [take_bind hname, takeNumber_bind hlength]
  rw [if_pos trivial, readFormat_formatChunk encoding hpos halign]
  rfl

theorem readChunks_data {length : Nat} (h : length < 256 ^ 4) (fuel : Nat) (format : Format)
    (rest : List UInt8) :
    readChunks (fuel + 1) (some format) (chunkHead "data" length ++ rest) =
      .ok (format, length, rest) := by
  have hname : (ascii "data").length = 4 := rfl
  rw [readChunks, chunkHead, List.append_assoc]
  simp only [take_bind hname, takeNumber_bind h]
  rw [if_neg (by decide), if_neg (by decide), if_pos trivial]
  rfl

theorem header_append (encoding : Encoding) (channels length : Nat) (data : List UInt8) :
    header encoding channels length ++ data =
      ascii "RIFF" ++ (littleEndian 4 (20 + (formatChunk encoding channels).length + length) ++
        (ascii "WAVE" ++ (chunkHead "fmt " (formatChunk encoding channels).length ++
          (formatChunk encoding channels ++ (chunkHead "data" length ++ data))))) := by
  simp only [header, chunkHead, List.append_assoc]

/-- The head that is written says how the samples are stored and how many there are, and ends
where they begin. -/
theorem readHeader_header (encoding : Encoding) {channels count : Nat} (hpos : 0 < channels)
    (halign : channels * encoding.width < 256 ^ 2) (hcount : channels ∣ count)
    (hlength : count * encoding.width < 256 ^ 4) (data : List UInt8) :
    readHeader (header encoding channels (count * encoding.width) ++ data) =
      .ok (.written encoding channels, count, data) := by
  have hriff : (ascii "RIFF").length = 4 := rfl
  have hwave : (ascii "WAVE").length = 4 := rfl
  have hmod : (count * encoding.width % encoding.width == 0) = true :=
    beq_iff_eq.2 (Nat.mul_mod_left _ _)
  have hturns : (count % channels == 0) = true := beq_iff_eq.2 (Nat.mod_eq_zero_of_dvd hcount)
  -- The fuel is the number of bytes left, and the name of the first chunk alone has four.
  have hchunks : ∀ fuel, 2 ≤ fuel → readChunks fuel none
      (chunkHead "fmt " (formatChunk encoding channels).length ++
        (formatChunk encoding channels ++
          (chunkHead "data" (count * encoding.width) ++ data))) =
      .ok (.written encoding channels, count * encoding.width, data) := fun fuel h => by
    obtain ⟨fuel, rfl⟩ := Nat.exists_eq_add_of_le' h
    rw [readChunks_formatChunk encoding hpos halign, readChunks_data hlength]
  rw [header_append]
  unfold readHeader
  simp only [take_bind hriff, take_bind hwave, take_bind (length_littleEndian _ _),
    require_bind (beq_self_eq_true _)]
  rw [hchunks]
  · change (require _ _ >>= _) = _
    dsimp only [Format.written]
    rw [require_bind hmod, Nat.mul_div_cancel _ encoding.width_pos, require_bind hturns]
    rfl
  · rw [chunkHead, List.append_assoc, List.length_append]
    exact Nat.le_add_right_of_le (by decide)

theorem readHeader_encode (encoding : Encoding) {channels : Nat} {samples : Array Float32}
    (hpos : 0 < channels) (halign : channels * encoding.width < 256 ^ 2)
    (hcount : channels ∣ samples.size) (hlength : samples.size * encoding.width < 256 ^ 4) :
    readHeader (encode encoding channels samples).toList =
      .ok (.written encoding channels, samples.size,
        samples.toList.flatMap (encodeSample encoding)) := by
  rw [toList_eq_data, data_encode, readHeader_header encoding hpos halign hcount hlength]

end DrumMachine.Wave
