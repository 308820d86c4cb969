import ServiceOS.Foundation.Ring

/-! # Queueing audio

A chunk of packed samples is decoded, spread to stereo, resampled to the rate of the sink and
queued. Each stage has a buffer of its own. -/

namespace ServiceOS.Audio

open List

def sinkRateHz : Nat := 48000

def supportedRates : List Nat := [8000, 11025, 16000, 22050, 32000, 44100, 48000]

def pcmRingFrames : Nat := 512

/-- The places of each buffer a chunk goes through. -/
def chunkPlaces : Nat := 128

inductive AudioSampleFormat
  | u8
  | s16Le
  | s32Le
  | f32Le

def pcmSamplesPerWord : AudioSampleFormat → Nat
  | .u8 => 8
  | .s16Le => 4
  | .s32Le | .f32Le => 2

def pcmDecodeSample (raw : UInt32) : AudioSampleFormat → Float32
  | .u8 => (raw.toFloat32 - 128) / 128
  | .s16Le => raw.toUInt16.toInt16.toFloat32 / 32768
  | .s32Le => raw.toInt32.toFloat32 / 2147483648
  | .f32Le => .ofBits raw

def pcmSampleBits (word : UInt64) (index : Nat) : AudioSampleFormat → UInt32
  | .u8 => (word >>> (8 * index).toUInt64 &&& 0xff).toUInt32
  | .s16Le => (word >>> (16 * index).toUInt64 &&& 0xffff).toUInt32
  | .s32Le | .f32Le => if index = 0 then word.toUInt32 else (word >>> 32).toUInt32

/-- Every sample the words carry. -/
def laneSamples (format : AudioSampleFormat) (words : List UInt64) : List Float32 :=
  words.flatMap fun word => (range (pcmSamplesPerWord format)).map fun lane =>
    pcmDecodeSample (pcmSampleBits word lane format) format

def pcmDecodeWords (format : AudioSampleFormat) (words : List UInt64) (sampleCount : Nat) :
    List Float32 :=
  (laneSamples format words).take (min sampleCount chunkPlaces)

abbrev Frame := Float32 × Float32

/-- The left and the right sample of a frame; for mono they are one. -/
def frameAt (samples : List Float32) (channels index : Nat) : Frame :=
  (samples.getD (index * channels) 0, samples.getD (index * channels + (channels - 1)) 0)

def pcmInterleavedToStereo (samples : List Float32) (channels : Nat) : List Frame :=
  if channels ≠ 1 ∧ channels ≠ 2 then
    []
  else
    (range (min (samples.length / channels) chunkPlaces)).map (frameAt samples channels)

def pcmResampledLen (inputFrames srcRate dstRate : Nat) : Nat :=
  if srcRate = 0 ∨ dstRate = 0 then 0 else inputFrames * dstRate / srcRate

def pcmResampleStereo (src : List Frame) (srcRate dstRate : Nat) : List Frame :=
  if src.isEmpty ∨ srcRate = 0 ∨ dstRate = 0 then
    []
  else
    (range (min (pcmResampledLen src.length srcRate dstRate) chunkPlaces)).map fun index =>
      src.getD (min (index * srcRate / dstRate) (src.length - 1)) (0, 0)

structure PcmStreamState where
  configured : Bool
  format : AudioSampleFormat
  rateHz : Nat
  channels : Nat
  framesWritten : Nat
  ring : Ring Frame pcmRingFrames

namespace PcmStreamState

variable (stream : PcmStreamState)

def pushFrames (stream : PcmStreamState) : List Frame → PcmStreamState
  | [] => stream
  | frame :: frames =>
    match stream.ring.pushBack frame with
    | .error _ => stream
    | .ok ring => pushFrames { stream with ring, framesWritten := stream.framesWritten + 1 } frames

def neededFrames (sampleCount : Nat) : Nat :=
  pcmResampledLen (sampleCount / stream.channels) stream.rateHz sinkRateHz

def ingestChunk (words : List UInt64) (sampleCount : Nat) : Option Nat × PcmStreamState :=
  if stream.configured = false ∨ sampleCount = 0 then
    (some 0, stream)
  else if pcmRingFrames - stream.ring.len < stream.neededFrames sampleCount then
    (none, stream)
  else
    let samples := pcmDecodeWords stream.format words sampleCount
    let stereo := pcmInterleavedToStereo samples stream.channels
    let resampled := pcmResampleStereo stereo stream.rateHz sinkRateHz
    (some resampled.length, stream.pushFrames resampled)

end PcmStreamState

variable {stream : PcmStreamState} {words : List UInt64}

theorem frameAt_take (bound : index * channels + (channels - 1) < sampleCount) :
    frameAt (samples.take sampleCount) channels index = frameAt samples channels index := by
  have first : index * channels < sampleCount := by omega
  simp only [frameAt, getD_eq_getElem?_getD, getElem?_take, if_pos first, if_pos bound]

section

variable {format : AudioSampleFormat} (layout : channels = 1 ∨ channels = 2)

include layout

theorem stereo_eq (carried : sampleCount ≤ (laneSamples format words).length)
    (fits : sampleCount / channels * channels ≤ chunkPlaces) :
    pcmInterleavedToStereo (pcmDecodeWords format words sampleCount) channels =
      (range (sampleCount / channels)).map (frameAt (laneSamples format words) channels) := by
  unfold chunkPlaces at fits
  have whole : min (min sampleCount chunkPlaces / channels) chunkPlaces =
      sampleCount / channels := by
    unfold chunkPlaces
    rcases layout with rfl | rfl <;> omega
  rw [pcmInterleavedToStereo, if_neg (by omega), pcmDecodeWords, length_take,
    Nat.min_eq_left ((Nat.min_le_left _ _).trans carried), whole]
  apply map_congr_left
  intro index member
  have bound := mem_range.mp member
  apply frameAt_take
  unfold chunkPlaces
  rcases layout with rfl | rfl <;> omega

theorem length_stereo_lt (large : chunkPlaces < sampleCount / channels * channels) :
    (pcmInterleavedToStereo (pcmDecodeWords format words sampleCount) channels).length <
      sampleCount / channels := by
  rw [pcmInterleavedToStereo, if_neg (by omega), length_map, length_range, pcmDecodeWords,
    length_take]
  unfold chunkPlaces at *
  rcases layout with rfl | rfl <;> omega

end

theorem resampledLen_lt (positive : 0 < srcRate) (slow : srcRate ≤ dstRate) (fewer : few < many) :
    pcmResampledLen few srcRate dstRate < pcmResampledLen many srcRate dstRate := by
  have known : ¬(srcRate = 0 ∨ dstRate = 0) := by omega
  rw [pcmResampledLen, pcmResampledLen, if_neg known, if_neg known, ← Nat.succ_le_iff,
    Nat.succ_eq_add_one, ← Nat.add_div_right _ positive]
  apply Nat.div_le_div_right
  calc few * dstRate + srcRate ≤ few * dstRate + dstRate := Nat.add_le_add_left slow _
    _ = (few + 1) * dstRate := (Nat.succ_mul few dstRate).symm
    _ ≤ many * dstRate := Nat.mul_le_mul_right _ fewer

theorem length_resample_le (src : List Frame) (srcRate dstRate : Nat) :
    (pcmResampleStereo src srcRate dstRate).length ≤
      min (pcmResampledLen src.length srcRate dstRate) chunkPlaces := by
  rw [pcmResampleStereo]
  split
  · exact Nat.zero_le _
  · rw [length_map, length_range]

theorem resample_eq {count : Nat} (frame : Nat → Frame) (positive : 0 < srcRate)
    (short : pcmResampledLen count srcRate sinkRateHz ≤ chunkPlaces) :
    pcmResampleStereo ((range count).map frame) srcRate sinkRateHz =
      (range (pcmResampledLen count srcRate sinkRateHz)).map
        fun index => frame (index * srcRate / sinkRateHz) := by
  rw [pcmResampleStereo, length_map, length_range, Nat.min_eq_left short]
  split
  next vacant =>
    have none : count = 0 := by simpa [positive.ne', sinkRateHz] using vacant
    simp [none, pcmResampledLen]
  apply map_congr_left
  intro index member
  have bound := mem_range.mp member
  rw [pcmResampledLen, if_neg (by simp [positive.ne', sinkRateHz]),
    Nat.lt_div_iff_mul_lt positive] at bound
  have inside : index * srcRate / sinkRateHz < count := by
    apply Nat.div_lt_of_lt_mul
    rw [Nat.mul_comm sinkRateHz]
    omega
  rw [Nat.min_eq_left (by omega)]
  simp [inside]

theorem toList_pushFrames {frames : List Frame}
    (room : stream.ring.len + frames.length ≤ pcmRingFrames) :
    (stream.pushFrames frames).ring.toList = stream.ring.toList ++ frames := by
  induction frames generalizing stream with
  | nil => exact (append_nil _).symm
  | cons frame frames induction =>
    rw [length_cons] at room
    rcases Ring.pushBack_cases (rfl : stream.ring.pushBack frame = _) with
      ⟨full, -⟩ | ⟨-, pushed, made, held⟩
    · omega
    have longer : pushed.len = stream.ring.len + 1 := by
      simpa [Ring.length_toList] using congrArg length held
    rw [PcmStreamState.pushFrames, made]
    dsimp only
    rw [induction (by dsimp only; omega), held, append_assoc, singleton_append]

/-- The chunk was refused, or all its frames were queued. -/
def QueuesWhole (stream : PcmStreamState) (words : List UInt64) (sampleCount : Nat) : Prop :=
  stream.ingestChunk words sampleCount = (none, stream) ∨
    ∃ after, stream.ingestChunk words sampleCount =
        (some (stream.neededFrames sampleCount), after) ∧
      after.ring.toList = stream.ring.toList ++ (range (stream.neededFrames sampleCount)).map
        fun index => frameAt (laneSamples stream.format words) stream.channels
          (index * stream.rateHz / sinkRateHz)

section

variable (configured : stream.configured = true) (supported : stream.rateHz ∈ supportedRates)
  (layout : stream.channels = 1 ∨ stream.channels = 2)

include configured supported layout

theorem queuesWhole_of_fits (carried : sampleCount ≤ (laneSamples stream.format words).length)
    (fits : sampleCount / stream.channels * stream.channels ≤ chunkPlaces)
    (short : stream.neededFrames sampleCount ≤ chunkPlaces) :
    QueuesWhole stream words sampleCount := by
  have positive : 0 < stream.rateHz := by
    have all : ∀ rate ∈ supportedRates, 0 < rate := by decide
    exact all _ supported
  simp only [QueuesWhole, PcmStreamState.ingestChunk, stereo_eq layout carried fits,
    resample_eq _ positive short]
  split
  next vacant =>
    have none : sampleCount = 0 := by simpa [configured] using vacant
    exact .inr ⟨stream, by simp [none, PcmStreamState.neededFrames, pcmResampledLen]⟩
  split
  · exact .inl rfl
  rename_i room
  refine .inr ⟨_, by rw [length_map, length_range]; rfl, ?_⟩
  have bound := stream.ring.len_le
  apply toList_pushFrames
  rw [length_map, length_range]
  unfold PcmStreamState.neededFrames at room
  omega

theorem fits_of_queuesWhole (whole : QueuesWhole stream words sampleCount)
    (room : stream.neededFrames sampleCount ≤ pcmRingFrames - stream.ring.len) :
    sampleCount / stream.channels * stream.channels ≤ chunkPlaces ∧
      stream.neededFrames sampleCount ≤ chunkPlaces := by
  by_cases vacant : sampleCount = 0
  · simp [vacant, PcmStreamState.neededFrames, pcmResampledLen]
  have slow : 0 < stream.rateHz ∧ stream.rateHz ≤ sinkRateHz := by
    have all : ∀ rate ∈ supportedRates, 0 < rate ∧ rate ≤ sinkRateHz := by decide
    exact all _ supported
  have queued : (pcmResampleStereo (pcmInterleavedToStereo (pcmDecodeWords stream.format words
      sampleCount) stream.channels) stream.rateHz sinkRateHz).length =
      stream.neededFrames sampleCount := by
    rw [QueuesWhole, PcmStreamState.ingestChunk, if_neg (by simp [configured, vacant]),
      if_neg room.not_gt] at whole
    rcases whole with refused | ⟨after, answered, -⟩
    · cases refused
    · exact Option.some.inj (congrArg Prod.fst answered)
  have few := queued ▸ length_resample_le _ _ _
  refine ⟨Nat.le_of_not_lt fun large => ?_, few.trans (Nat.min_le_right _ _)⟩
  have lost := resampledLen_lt slow.1 slow.2
    (@length_stereo_lt _ words stream.format layout _ large)
  exact (few.trans (Nat.min_le_left _ _)).not_gt lost

end

/-- A chunk is refused or queued whole if and only if there is no room for it, or the samples of
its whole frames and its resampled frames fit their buffers. -/
theorem queuesWhole_iff (configured : stream.configured = true)
    (supported : stream.rateHz ∈ supportedRates)
    (layout : stream.channels = 1 ∨ stream.channels = 2)
    (carried : sampleCount ≤ (laneSamples stream.format words).length) :
    QueuesWhole stream words sampleCount ↔
      pcmRingFrames - stream.ring.len < stream.neededFrames sampleCount ∨
        (sampleCount / stream.channels * stream.channels ≤ chunkPlaces ∧
          stream.neededFrames sampleCount ≤ chunkPlaces) := by
  constructor
  · intro whole
    rcases Nat.lt_or_ge (pcmRingFrames - stream.ring.len) (stream.neededFrames sampleCount) with
      refused | room
    · exact .inl refused
    · exact .inr (fits_of_queuesWhole configured supported layout whole room)
  · rintro (refused | ⟨fits, short⟩)
    · have some : sampleCount ≠ 0 := by
        rintro rfl
        simp [PcmStreamState.neededFrames, pcmResampledLen] at refused
      refine .inl ?_
      rw [PcmStreamState.ingestChunk, if_neg (by simp [configured, some]), if_pos refused]
    · exact queuesWhole_of_fits configured supported layout carried fits short

/-- Bytes of mono sound at the lowest rate, each heard as six frames. -/
def slowStream : PcmStreamState := ⟨true, .u8, 8000, 1, 0, Ring.empty (by decide)⟩

theorem queuesWhole_iff_slow : QueuesWhole slowStream [0] 8 ∧ slowStream.neededFrames 8 = 48 :=
  ⟨(@queuesWhole_iff slowStream [0] 8 rfl (by decide) (by decide) (by decide)).mpr
    (.inr (by decide)), rfl⟩

/-- The last four frames do not fit the buffer of the resampler. -/
theorem ingestChunk_drops_frames :
    slowStream.neededFrames 22 = 132 ∧ (slowStream.ingestChunk [0, 0, 0] 22).1 = some 128 := by
  decide +kernel

end ServiceOS.Audio
