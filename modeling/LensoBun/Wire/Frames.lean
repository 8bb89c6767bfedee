import LensoBun.Wire.Failure

set_option autoImplicit false

/-! # Frames

`encode_frame` and `read_frame` (`protocol.rs`): the JSON of a message behind its length in four
bytes, the highest first. `serde_json` is a parameter. Bytes are read from a list; where there are
fewer than asked for, `read_exact` takes what there is and fails.
-/

namespace LensoBun.Frames

/-- `serde_json::to_vec` and `from_slice` for the messages `M`. -/
structure Json (M : Type) where
  toVec : M → Except String (List UInt8)
  fromSlice : List UInt8 → Option M
  inverse : ∀ message bytes, toVec message = .ok bytes → fromSlice bytes = some message

variable {M : Type} (json : Json M) (maxFrameBytes : Nat)

def toBeBytes (n : Nat) : List UInt8 :=
  [.ofNat (n / 0x1000000), .ofNat (n / 0x10000), .ofNat (n / 0x100), .ofNat n]

def fromBeBytes (bytes : List UInt8) : Nat := bytes.foldl (fun n byte => n * 0x100 + byte.toNat) 0

def encodeFrame (message : M) : Except RuntimeFailure (List UInt8) :=
  match json.toVec message with
  | .error error => .error (.internal s!"failed to encode Bun frame: {error}")
  | .ok payload =>
    if 2 ^ 32 ≤ payload.length then .error (protocolViolation none)
    else if maxFrameBytes < payload.length then .error (protocolViolation none)
    else .ok (toBeBytes payload.length ++ payload)

/-- The message or the failure, and the bytes that have not been read. -/
def readFrame (input : List UInt8) : Except RuntimeFailure M × List UInt8 :=
  if input.length < 4 then (.error (.protocolViolation "lenso.bun-process@1"), [])
  else
    let length := fromBeBytes (input.take 4)
    let input := input.drop 4
    if maxFrameBytes < length then (.error (protocolViolation none), input)
    else if input.length < length then (.error (protocolViolation none), [])
    else (match json.fromSlice (input.take length) with
      | some message => .ok message
      | none => .error (protocolViolation none), input.drop length)

/-- Up to `n` reads: the messages, and the failure that ends them. -/
def readFrames : Nat → List UInt8 → List M × Option RuntimeFailure
  | 0, _ => ([], none)
  | n + 1, input =>
    match readFrame json maxFrameBytes input with
    | (.error failure, _) => ([], some failure)
    | (.ok message, rest) => ((readFrames n rest).map (message :: ·) id)

theorem fromBeBytes_toBeBytes {n : Nat} (h : n < 2 ^ 32) : fromBeBytes (toBeBytes n) = n := by
  simp only [fromBeBytes, toBeBytes, List.foldl, UInt8.toNat_ofNat']
  omega

section

variable {json maxFrameBytes} {message : M} {frame : List UInt8}

theorem encodeFrame_eq_ok (h : encodeFrame json maxFrameBytes message = .ok frame) :
    ∃ payload, json.toVec message = .ok payload ∧ payload.length < 2 ^ 32 ∧
      payload.length ≤ maxFrameBytes ∧ frame = toBeBytes payload.length ++ payload := by
  unfold encodeFrame at h
  repeat' split at h
  all_goals grind

/-- A frame is read back, whatever follows. -/
theorem readFrame_append (h : encodeFrame json maxFrameBytes message = .ok frame)
    (rest : List UInt8) : readFrame json maxFrameBytes (frame ++ rest) = (.ok message, rest) := by
  obtain ⟨payload, hvec, hlength, hmax, rfl⟩ := encodeFrame_eq_ok h
  have four : (toBeBytes payload.length).length = 4 := rfl
  simp [readFrame, four, fromBeBytes_toBeBytes hlength, hmax, json.inverse _ _ hvec]

/-- Part of a frame is not a message. -/
theorem readFrame_of_cut (h : encodeFrame json maxFrameBytes message = .ok frame)
    {input : List UInt8} (front : input <+: frame) (cut : input.length < frame.length) :
    (readFrame json maxFrameBytes input).1 = .error (protocolViolation none) := by
  obtain ⟨payload, -, hlength, hmax, rfl⟩ := encodeFrame_eq_ok h
  have four : (toBeBytes payload.length).length = 4 := rfl
  unfold readFrame
  split
  · rfl
  next hinput =>
    have header : input.take 4 = toBeBytes payload.length := by
      rw [List.prefix_iff_eq_take.mp front, List.take_take, Nat.min_eq_left (by omega)]
      exact List.take_left' four
    rw [List.length_append] at cut
    simp only [header, fromBeBytes_toBeBytes hlength]
    rw [if_neg (by omega), if_pos (by rw [List.length_drop]; omega)]

end

/-- **From any beginning of the frames of some messages, exactly the messages whose frames are
complete are read, and then an error**; and a length above the limit is refused with the payload
still to be read. -/
theorem read_frames_of_encoded {messages : List M} {frames : List (List UInt8)}
    (encoded : List.Forall₂ (fun message frame => encodeFrame json maxFrameBytes message = .ok frame)
      messages frames) :
    (∀ input, input <+: frames.flatten → ∀ n > messages.length,
      ∃ k ≤ messages.length, readFrames json maxFrameBytes n input =
          (messages.take k, some (protocolViolation none)) ∧
        (frames.take k).flatten <+: input ∧
        (k < messages.length → ¬(frames.take (k + 1)).flatten <+: input)) ∧
      ∀ header rest, header.length = 4 → maxFrameBytes < fromBeBytes header →
        readFrame json maxFrameBytes (header ++ rest) = (.error (protocolViolation none), rest) := by
  refine ⟨?_, fun header rest four large => ?_⟩
  · induction encoded with
    | nil =>
      intro input front n hn
      obtain _ | n := n
      · cases hn
      obtain rfl := List.prefix_nil.mp front
      exact ⟨0, Nat.le_refl 0, rfl, List.nil_prefix, nofun⟩
    | @cons message frame messages frames h _ ih =>
      intro input front n hn
      obtain _ | n := n
      · cases hn
      rw [List.flatten_cons] at front
      rcases Nat.lt_or_ge input.length frame.length with cut | whole
      · have error := readFrame_of_cut h (List.prefix_of_prefix_length_le front
          (List.prefix_append _ _) cut.le) cut
        refine ⟨0, Nat.zero_le _, ?_, List.nil_prefix, fun _ full => ?_⟩
        · unfold readFrames
          grind
        · have := full.length_le
          simp at this
          omega
      · obtain ⟨input, rfl⟩ := List.prefix_of_prefix_length_le (List.prefix_append _ _) front whole
        obtain ⟨k, hk, hread, hfull, hcut⟩ := ih input ((List.prefix_append_right_inj _).mp front) n
          (by simpa using hn)
        refine ⟨k + 1, by simpa using hk, ?_, ?_, ?_⟩
        · simp [readFrames, readFrame_append h, hread]
        · simpa using hfull
        · simpa using hcut
  · simp [readFrame, four, large]

/-- Messages of one byte, of which the second frame is cut. -/
theorem read_frames_of_encoded_sample :
    ∃ k, readFrames (M := UInt8) ⟨fun m => .ok [m], List.head?, by simp⟩ 8 3 [0, 0, 0, 1, 7, 0, 0] =
      ([7, 9].take k, some (protocolViolation none)) :=
  have ⟨k, _, h, _⟩ := (read_frames_of_encoded ⟨fun m => .ok [m], List.head?, by simp⟩ 8
    (.cons rfl (.cons rfl .nil))).1 [0, 0, 0, 1, 7, 0, 0] (by decide) 3 (by decide)
  ⟨k, h⟩

end LensoBun.Frames
