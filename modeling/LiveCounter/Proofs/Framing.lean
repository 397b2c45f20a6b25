import LiveCounter.Event
import Mathlib

/-!
# Records on the wire

A client sees the records of a stream as one run of bytes. Each record is a line and a blank line
after it, and no line holds a newline: its characters are those of fixed texts, digits and a sign.
So the first blank line ends the first record, the line before it tells which record it was, and
what follows is again a run of records.
-/

namespace LiveCounter.Frame

/-- The byte of a newline. -/
def newline : UInt8 := 10

/-- The bytes of a text. -/
def encoded (text : String) : List UInt8 := text.toUTF8.data.toList

/-- The bytes of a record. -/
def bytes (frame : Frame) : List UInt8 := encoded frame.text

/-- The bytes of several records, one after the other. -/
def stream (frames : List Frame) : List UInt8 := frames.flatMap bytes

/-! ## Texts as bytes -/

/-- The bytes of two texts follow one another. -/
theorem encoded_append (first second : String) :
    encoded (first ++ second) = encoded first ++ encoded second := by
  simp [encoded]

/-- Texts with the same bytes are the same. -/
theorem encoded_injective {first second : String} (h : encoded first = encoded second) :
    first = second :=
  String.toByteArray_inj.mp (ByteArray.ext (Array.toList_inj.mp h))

/-- Only a newline is encoded with the byte of a newline; the bytes of a character outside ASCII are
all 128 or more. -/
theorem newline_mem_utf8EncodeChar (c : Char) : newline ∈ String.utf8EncodeChar c ↔ c = '\n' := by
  have hbyte (n : Nat) (h : n < 256) : newline = UInt8.ofNat n ↔ n = 10 := by
    rw [← UInt8.toNat_inj, UInt8.toNat_ofNat_of_lt' h]
    exact eq_comm
  have hnewline : c = '\n' ↔ c.val.toNat = 10 := by
    rw [Char.ext_iff, ← UInt32.toNat_inj]
    rfl
  simp only [String.utf8EncodeChar, hnewline]
  split
  · rw [List.mem_singleton, hbyte _ (by omega)]
  split
  · simp only [List.mem_cons, List.not_mem_nil, or_false]
    rw [hbyte _ (by omega), hbyte _ (by omega)]
    omega
  split
  · simp only [List.mem_cons, List.not_mem_nil, or_false]
    rw [hbyte _ (by omega), hbyte _ (by omega), hbyte _ (by omega)]
    omega
  · simp only [List.mem_cons, List.not_mem_nil, or_false]
    rw [hbyte _ (by omega), hbyte _ (by omega), hbyte _ (by omega), hbyte _ (by omega)]
    omega

/-- The byte of a newline stands for a newline only. -/
theorem newline_mem_encoded (text : String) : newline ∈ encoded text ↔ '\n' ∈ text.toList := by
  rw [encoded, String.toUTF8_eq_toByteArray, ← String.utf8Encode_toList, List.utf8Encode,
    List.toList_data_toByteArray, List.mem_flatMap]
  simp only [newline_mem_utf8EncodeChar, exists_eq_right]

/-! ## Lines -/

/-- A record without the blank line that ends it. -/
def line : Frame → String
  | .event value => "data: \x7b\"value\":" ++ toString value.toInt ++ "\x7d"
  | .keepalive => ": keepalive"

/-- A record is a line and the blank line that ends it. -/
theorem text_eq_line (frame : Frame) : frame.text = frame.line ++ "\n\n" := by
  cases frame with
  | event value => simp [text, line, String.append_assoc]
  | keepalive => rfl

/-- The bytes of a record end with two newlines. -/
theorem bytes_eq_line (frame : Frame) : frame.bytes = encoded frame.line ++ [newline, newline] := by
  rw [bytes, text_eq_line, encoded_append]
  rfl

/-- The characters of an integer are digits, perhaps after a sign. -/
theorem isDigit_of_mem_toString {value : Int} {c : Char} (h : c ∈ (toString value).toList) :
    c.isDigit = true ∨ c = '-' := by
  rw [Int.toString_eq_repr, Int.repr_eq_if] at h
  split at h
  · rw [Nat.toList_repr] at h
    exact Or.inl (Nat.isDigit_of_mem_toDigits (by decide) (by decide) h)
  · rw [String.toList_append, Nat.toList_repr, List.mem_append] at h
    rcases h with hsign | hdigit
    · exact Or.inr (by simpa using hsign)
    · exact Or.inl (Nat.isDigit_of_mem_toDigits (by decide) (by decide) hdigit)

/-- There is no newline within a record. -/
theorem newline_notMem_line (frame : Frame) : newline ∉ encoded frame.line := by
  rw [newline_mem_encoded]
  cases frame with
  | event value =>
    have hvalue : '\n' ∉ (toString value.toInt).toList := fun h => by
      rcases isDigit_of_mem_toString h with hdigit | hsign
      · exact absurd hdigit (by decide)
      · exact absurd hsign (by decide)
    simp only [line, String.toList_append, List.mem_append, hvalue, or_false]
    decide
  | keepalive => decide

/-- The line of a record tells which record it is. -/
theorem line_injective {frame other : Frame} (h : frame.line = other.line) : frame = other := by
  cases frame with
  | event value =>
    cases other with
    | event other =>
      have hvalue : value.toInt.repr = other.toInt.repr := by
        simpa [line, String.append_assoc] using h
      rw [Int64.toInt_inj.mp (Int.repr_injective hvalue)]
    | keepalive =>
      have hfirst := congrArg (fun text => text.toList.head?) h
      simp [line] at hfirst
  | keepalive =>
    cases other with
    | event other =>
      have hfirst := congrArg (fun text => text.toList.head?) h
      simp [line] at hfirst
    | keepalive => rfl

/-! ## Runs of records -/

/-- Up to its first newline, the bytes of a record and of whatever follows it are its line. -/
theorem takeWhile_bytes_append (frame : Frame) (rest : List UInt8) :
    (frame.bytes ++ rest).takeWhile (· != newline) = encoded frame.line := by
  have hline : ∀ byte ∈ encoded frame.line, (byte != newline) = true := fun byte hbyte =>
    bne_iff_ne.mpr fun heq => newline_notMem_line frame (heq ▸ hbyte)
  rw [bytes_eq_line, List.append_assoc, List.takeWhile_append_of_pos hline]
  simp

/-- The first record of a run of bytes is told by them, whatever follows it. -/
theorem bytes_append_inj {frame other : Frame} {rest more : List UInt8}
    (h : frame.bytes ++ rest = other.bytes ++ more) : frame = other ∧ rest = more := by
  have hline : encoded frame.line = encoded other.line := by
    rw [← takeWhile_bytes_append frame rest, h, takeWhile_bytes_append]
  obtain rfl : frame = other := line_injective (encoded_injective hline)
  exact ⟨rfl, List.append_cancel_left h⟩

/-- No record is empty. -/
theorem bytes_ne_nil (frame : Frame) : frame.bytes ≠ [] := by
  rw [bytes_eq_line]
  simp

/-- If some records are the first bytes of a run of records, they are the first records of it. -/
theorem eq_append_of_stream {frames others : List Frame} {rest : List UInt8}
    (h : stream frames ++ rest = stream others) :
    ∃ later, others = frames ++ later ∧ stream later = rest := by
  induction frames generalizing others with
  | nil => exact ⟨others, rfl, h.symm⟩
  | cons frame frames ih =>
    simp only [stream, List.flatMap_cons, List.append_assoc] at h
    cases others with
    | nil => exact absurd (List.append_eq_nil_iff.mp h).1 frame.bytes_ne_nil
    | cons other others =>
      obtain ⟨rfl, hrest⟩ := bytes_append_inj h
      obtain ⟨later, rfl, hlater⟩ := ih hrest
      exact ⟨later, rfl, hlater⟩

/-- An empty stream has no records. -/
theorem stream_eq_nil {frames : List Frame} (h : stream frames = []) : frames = [] := by
  cases frames with
  | nil => rfl
  | cons frame frames => exact absurd (List.append_eq_nil_iff.mp h).1 frame.bytes_ne_nil

/-- A record has one blank line, after its line. -/
theorem blank_line_iff (frame : Frame) (before after : List UInt8) :
    frame.bytes = before ++ [newline, newline] ++ after ↔
      before = encoded frame.line ∧ after = [] := by
  constructor
  · intro h
    rw [bytes_eq_line, List.append_assoc, List.append_eq_append_iff] at h
    rcases h with ⟨more, rfl, hmore⟩ | ⟨more, hline, hmore⟩
    · have hlength := congrArg List.length hmore
      simp only [List.length_append, List.length_cons, List.length_nil] at hlength
      obtain rfl : more = [] := List.eq_nil_of_length_eq_zero (by omega)
      exact ⟨List.append_nil _, List.eq_nil_of_length_eq_zero (by omega)⟩
    · cases more with
      | nil =>
        rw [List.append_nil] at hline
        exact ⟨hline.symm, by simpa using hmore⟩
      | cons byte more =>
        obtain ⟨rfl, -⟩ := List.cons.inj hmore
        exact absurd (by simp [hline]) (newline_notMem_line frame)
  · rintro ⟨rfl, rfl⟩
    rw [bytes_eq_line, List.append_nil]

/-- Event streams can be read back. Two sequences of records with the same bytes are the same
sequence, and if the bytes of one begin with those of the other, so do its records, wherever the
bytes were cut. Each record holds two newlines in a row once, at its end. Keepalives are recognized
by their text, which no event has. -/
theorem streams_are_uniquely_decodable :
    (∀ frames others : List Frame, stream frames = stream others ↔ frames = others) ∧
      (∀ frames others : List Frame, stream frames <+: stream others ↔ frames <+: others) ∧
      (∀ frame : Frame, ∃ line, ∀ before after,
        frame.bytes = before ++ [newline, newline] ++ after ↔ before = line ∧ after = []) ∧
      (∀ frame : Frame, isKeepalive frame.text = true ↔ frame = keepalive) ∧
      (∀ event : CounterEvent, isKeepalive (ofEvent event).text = false) := by
  have hkeepalive (frame : Frame) : isKeepalive frame.text = true ↔ frame = keepalive := by
    rw [isKeepalive, beq_iff_eq]
    constructor
    · intro htext
      have hbytes : frame.bytes ++ [] = keepalive.bytes ++ [] := congrArg (encoded · ++ []) htext
      exact (bytes_append_inj hbytes).1
    · rintro rfl
      rfl
  refine ⟨fun frames others => ⟨fun h => ?_, congrArg stream⟩, fun frames others => ⟨?_, ?_⟩,
    fun frame => ⟨encoded frame.line, blank_line_iff frame⟩, hkeepalive, fun event => ?_⟩
  · obtain ⟨later, rfl, hlater⟩ := eq_append_of_stream ((List.append_nil _).trans h)
    rw [stream_eq_nil hlater, List.append_nil]
  · rintro ⟨rest, hrest⟩
    obtain ⟨later, rfl, -⟩ := eq_append_of_stream hrest
    exact List.prefix_append frames later
  · rintro ⟨later, rfl⟩
    exact ⟨stream later, List.flatMap_append.symm⟩
  · exact Bool.eq_false_iff.mpr fun htext => Frame.noConfusion ((hkeepalive _).mp htext)

end LiveCounter.Frame
