import StatsBoard.Proofs.Json.Nesting
import StatsBoard.Stream.Event

/-!
# Frames that are read back

The text of a frame is read as that frame, as long as its arguments are not nested too deeply: the
frame is one container more around them. The frame that asks for samples is read as the request
that it was, and is no event: `WireFrame.frames_read_back`.
-/

namespace StatsBoard

open Json Decoder

/-! ## Requests -/

namespace StartRequest

variable (request : StartRequest)

/-- A request is read back. -/
theorem reads_to_json (room : Nat) : decoder.Reads (room + 2) request.toJson request :=
  reads_record (by decide)
    (.given (reads_strings request.watchers)
      (.given (reads_strings request.watchersWithPids) (.nil request)))

theorem numbers_to_json : request.toJson.numbers = [] := by
  simp [toJson, numbers, memberNumbers, numbers_of_strings]

/-- A request is read back from its text. -/
theorem read_compact_to_json : read decoder request.toJson.compact = .ok request :=
  read_compact (request.reads_to_json 125) (by simp [numbers_to_json])

theorem proper_to_json : request.toJson.Proper := by
  have hstrings : ∀ texts : List String, (ofStrings texts).Proper := fun texts =>
    .array (List.forall_mem_map.mpr fun text _ => .string text)
  refine .object (by simp) ?_
  simp [hstrings]

theorem depth_to_json_le : request.toJson.depth ≤ 2 := by
  have hstrings : ∀ texts : List String, (ofStrings texts).depth ≤ 1 := fun texts =>
    Nat.succ_le_succ (item_depth_le_iff.mpr (List.forall_mem_map.mpr fun _ _ => Nat.le_refl 0))
  simp [toJson, depth, memberDepth, hstrings]

end StartRequest

/-! ## Frames -/

namespace WireFrame

variable {frame : WireFrame}

/-- A frame as JSON. -/
def toJson (frame : WireFrame) : Json :=
  .object [("name", .string frame.name), ("args", frame.args)]

theorem numbers_to_json (frame : WireFrame) : frame.toJson.numbers = frame.args.numbers := by
  simp [toJson, numbers, memberNumbers]

/-- To read a frame is to read its arguments inside one container. -/
theorem decoder_to_draft (frame : WireFrame) (room : Nat) :
    decoder (room + 1) frame.toJson.toDraft =
      (ofDraft room frame.args.toDraft).map fun args => { frame with args := args } := by
  cases h : ofDraft room frame.args.toDraft with
  | ok args =>
      have hfills : Fills room fields { name := "" }
          [("name", .string frame.name), ("args", frame.args)] { frame with args := args } :=
        .mandatory (reads_string frame.name) (.given h (.nil _))
      exact reads_record (by decide) hfills
  | error error =>
      simp [toJson, toDraft, memberDrafts, decoder, record, recordWith, enter, recordMembers,
        fields, Field.mandatory, Field.optional, Json.decoder, Decoder.string, h, Except.map, bind,
        Except.bind]

/-- The text of a frame is read as the frame if there is room for its arguments inside the one
container that it is, and is refused otherwise. -/
theorem decode_encode (hproper : frame.args.Proper) (hreals : frame.args.RealsReadBack) :
    decode frame.encode = if frame.args.depth ≤ 126 then .ok frame else .error .malformed := by
  have hnumbers : ∀ n ∈ frame.toJson.numbers, ReadsBack n := by
    rw [numbers_to_json]
    exact hproper.numbers_read_back hreals
  have hdraft : draft frame.encode = ⟨frame.toJson.toDraft, false⟩ := draft_compact hnumbers
  have hdecoder : decoder maxDepth frame.toJson.toDraft =
      if frame.args.depth ≤ 126 then .ok frame else .error .malformed := by
    rw [maxDepth, decoder_to_draft, hproper.of_draft_to_draft]
    split <;> rfl
  rw [decode, Json.read, hdraft, hdecoder]
  split <;> rfl

/-- The text of the frame that asks for samples is read as that frame. -/
theorem decode_encode_request (request : StartRequest) :
    decode request.frame.encode = .ok request.frame := by
  have hreals : request.frame.args.RealsReadBack := by
    intro x hx
    simp [StartRequest.frame, request.numbers_to_json] at hx
  have hdepth : request.frame.args.depth ≤ 126 :=
    Nat.le_trans request.depth_to_json_le (by decide)
  rw [decode_encode request.proper_to_json hreals, if_pos hdepth]

/-- The frame that asks for samples is no event. -/
theorem of_frame_start_request (request : StartRequest) :
    StreamEvent.ofFrame? request.frame = none := by
  have hname : StreamEvent.startName ≠ StreamEvent.socketsName := by decide
  have hwatcher : StreamEvent.announcedWatcher? StreamEvent.startName = none := by
    decide +kernel
  have hstream : StreamEvent.isStream StreamEvent.startName = false := by decide +kernel
  simp [StreamEvent.ofFrame?, StartRequest.frame, hname, hwatcher, hstream]

/-- A frame with proper arguments is read back from its text if the arguments are nested at most
126 containers deep, and is refused otherwise; the frame that asks for samples is read back, its
arguments are read as the request they were, and it is no event. -/
theorem frames_read_back :
    (∀ frame : WireFrame, frame.args.Proper → frame.args.RealsReadBack →
      decode frame.encode = if frame.args.depth ≤ 126 then .ok frame else .error .malformed) ∧
    ∀ request : StartRequest,
      decode request.frame.encode = .ok request.frame ∧
      (∀ room, StartRequest.decoder.Reads (room + 2) request.frame.args request) ∧
      read StartRequest.decoder request.frame.args.compact = .ok request ∧
      StreamEvent.decode request.frame.encode = .ok none := by
  refine ⟨fun frame => decode_encode, fun request => ?_⟩
  have hdecode := decode_encode_request request
  refine ⟨hdecode, request.reads_to_json, request.read_compact_to_json, ?_⟩
  rw [StreamEvent.decode, hdecode, Except.map, of_frame_start_request]

end WireFrame

namespace Json

/-- A value inside a number of arrays. -/
def wrapped (value : Json) : Nat → Json
  | 0 => value
  | n + 1 => .array [wrapped value n]

theorem depth_wrapped (value : Json) (n : Nat) : (wrapped value n).depth = value.depth + n := by
  induction n with
  | zero => rfl
  | succ n ih => rw [wrapped, depth, itemDepth, itemDepth, ih, Nat.max_zero, Nat.add_assoc]

theorem numbers_wrapped (value : Json) (n : Nat) : (wrapped value n).numbers = value.numbers := by
  induction n with
  | zero => rfl
  | succ n ih => rw [wrapped, numbers, itemNumbers, itemNumbers, ih, List.append_nil]

theorem proper_wrapped {value : Json} (h : value.Proper) (n : Nat) : (wrapped value n).Proper := by
  induction n with
  | zero => exact h
  | succ n ih => exact .array (List.forall_mem_singleton.mpr ih)

/-- A value with text that is escaped, keys out of order, and one tenth. -/
def mixed : Json :=
  .object [("größe\n", .string "\"\\\t"), ("b", .null),
    ("a", .array [.bool true, .number (.integer (-1)), .number (.real ⟨0x3fb999999999999a⟩)])]

theorem proper_mixed : mixed.Proper := by
  have hinteger : (Number.integer (-1)).Proper := by
    unfold Number.Proper
    decide
  have htenth : (Number.real ⟨0x3fb999999999999a⟩).Proper := by
    unfold Number.Proper
    decide +kernel
  refine .object (by decide) ?_
  simp only [List.forall_mem_cons]
  refine ⟨.string _, .null, .array ?_, nofun⟩
  simp only [List.forall_mem_cons]
  exact ⟨.bool true, .number hinteger, .number htenth, nofun⟩

theorem reals_read_back_mixed : mixed.RealsReadBack := by
  intro x hx
  have hx : x = ⟨0x3fb999999999999a⟩ := by
    simpa [mixed, numbers, memberNumbers, itemNumbers] using hx
  rw [hx]
  decide +kernel

end Json

/-- That value is read back inside 124 arrays, being nested two deep itself, and is refused inside
one more. -/
theorem WireFrame.frames_read_back_wrapped :
    decode (encode ⟨"stats-a", wrapped mixed 124⟩) = .ok ⟨"stats-a", wrapped mixed 124⟩ ∧
      decode (encode ⟨"stats-a", wrapped mixed 125⟩) = .error .malformed := by
  have hreals : ∀ n, (wrapped mixed n).RealsReadBack := by
    intro n
    rw [RealsReadBack, numbers_wrapped]
    exact reals_read_back_mixed
  have hread (n : Nat) := frames_read_back.1 ⟨"stats-a", wrapped mixed n⟩
    (proper_wrapped proper_mixed n) (hreals n)
  simp only [depth_wrapped] at hread
  exact ⟨hread 124, hread 125⟩

end StatsBoard
